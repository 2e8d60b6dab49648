import Mathlib
import NspMigrator.MappingCatalogIndexes
import NspMigrator.MappingEntities
import NspMigrator.MappingSchemas
import NspMigrator.PyExcept

/-!
# Results for canonical entities

A zone, address object or service is matched with the catalog objects that
have its name or its value. Nothing found leaves the result unresolved, one
object is selected, several are left to choose from. Groups have no result.
-/

namespace NspMigrator.MappingObjects

open PyDict PyText PyExcept Ipv4 Ipv4Text SdwanModels ExecuteRepository
open MappingEntities MappingSchemas MappingCatalogIndexes

variable [PyUnicode]

/-- A candidate before it has a rank. -/
structure CandidateDraft where
  /-- The object it proposes. -/
  sdwanEntityId : ℤ
  /-- How good it is. -/
  score : ℕ
  /-- How it was found. -/
  strategy : CandidateMatchStrategy
  deriving DecidableEq

/-- Keep a draft unless one with its object scores at least as much. -/
def keepBest (best : Dict ℤ CandidateDraft) (draft : CandidateDraft) : Dict ℤ CandidateDraft :=
  match best.get? draft.sdwanEntityId with
  | none => best.insert draft.sdwanEntityId draft
  | some current =>
    if current.score<draft.score then best.insert draft.sdwanEntityId draft else best

/-- The best draft of every object, ranked by score and then by number. -/
def finalize (candidates : List CandidateDraft) : List MappingEntityCandidatePayload :=
  let best := (candidates.foldl keepBest Dict.empty).values
  let sorted := best.insertionSort fun a b =>
    b.score<a.score ∨ a.score=b.score ∧ a.sdwanEntityId≤b.sdwanEntityId
  sorted.mapIdx fun index draft => ⟨index+1,draft.score,draft.strategy,draft.sdwanEntityId⟩

/-- Candidates from catalog objects found in one way. -/
def candidatesOf {α : Type} (objectId : α → ℤ) (score : ℕ) (strategy : CandidateMatchStrategy)
    (objects : List α) : List MappingEntityCandidatePayload :=
  finalize (objects.map fun object => ⟨objectId object,score,strategy⟩)

/-- Zones with the name of a canonical zone. -/
def matchZone (index : SdwanZonesCatalogIndex) (zone : CanonicalZone) :
    List MappingEntityCandidatePayload :=
  candidatesOf SdwanZone.id 90 .normalizedName (index.findZonesByName zone.name)

/-- Address objects of one value. -/
def exactAddrs (objects : List SdwanAddrObject) : List MappingEntityCandidatePayload :=
  candidatesOf SdwanAddrObject.id 100 .exactValue objects

/-- Address objects with the value of a canonical one. A text that is no
address or network matches nothing. -/
def matchAddr (index : SdwanAddrObjsCatalogIndex) (object : CanonicalAddrObject) :
    List MappingEntityCandidatePayload :=
  match object.kind with
  | .anyAddr => candidatesOf SdwanAddrObject.id 100 .builtinAny index.findBuiltinAnyAddrObjects
  | .host =>
    let cidr := object.cidr.getD ""
    if cidr="" then exactAddrs []
    else match parseAddress (firstPart '/' cidr) with
      | none => []
      | some host => exactAddrs (index.findAddrByHost host)
  | .subnet =>
    let cidr := object.cidr.getD ""
    if cidr="" then exactAddrs []
    else match parseNetwork cidr with
      | none => []
      | some net => exactAddrs (index.findAddrByPrefix net)
  | .range =>
    let start := object.rangeStart.getD ""
    let stop := object.rangeEnd.getD ""
    if start="" ∨ stop="" then exactAddrs []
    else match parseAddress start,parseAddress stop with
      | some start,some stop => exactAddrs (index.findAddrByRange start stop)
      | _,_ => []
  | .fqdn =>
    let fqdn := object.fqdn.getD ""
    if fqdn="" then exactAddrs [] else exactAddrs (index.findAddrByFqdn fqdn)
  | .unresolvedAddr => []
  | .addrGroup => []

/-- The names of ICMP messages by type and code. -/
def icmpSdwanCodeByTypeAndCode : List ((ℕ × ℕ) × String) := [
  ((0,0),"echo_reply"),((3,0),"network_unreachable"),((3,1),"host_unreachable"),
  ((3,2),"protocol_unreachable"),((3,3),"port_unreachable"),((3,4),"fragmentation_needed"),
  ((3,5),"source_route_failed"),((3,6),"network_unknown"),((3,7),"host_unknown"),
  ((3,8),"source_host_isolated"),((3,9),"network_prohibited"),((3,10),"host_prohibited"),
  ((3,11),"tos_network_unreachable"),((3,12),"tos_host_unreachable"),
  ((3,13),"communication_prohibited"),((3,14),"host_precedence_violation"),
  ((3,15),"precedence_cutoff"),((5,0),"network_redirect"),((5,1),"host_redirect"),
  ((5,2),"tos_network_redirect"),((5,3),"tos_host_redirect"),((8,0),"echo_request"),
  ((9,0),"router_advertisement"),((9,16),"does_not_route_common_traffic"),
  ((10,0),"router_solicitation"),((11,0),"ttl_zero_during_transit"),
  ((11,1),"ttl_zero_during_reassembly"),((12,0),"ip_header_bad"),
  ((12,1),"required_option_missing"),((12,2),"bad_length"),((13,0),"timestamp_request"),
  ((14,0),"timestamp_reply")]

/-- The names of the messages a canonical ICMP service stands for: one with a
code, all of its type without. -/
def canonicalIcmpCodes (service : CanonicalService) : List String :=
  match service.icmpType,service.icmpCode with
  | none,_ => []
  | some icmpType,none =>
    (icmpSdwanCodeByTypeAndCode.filter fun entry => decide (entry.1.1=icmpType)).map Prod.snd
  | some icmpType,some icmpCode =>
    ((icmpSdwanCodeByTypeAndCode.find? fun entry =>
      decide (entry.1=(icmpType,icmpCode))).map Prod.snd).toList

/-- Services of one signature. -/
def exactServices (services : List SdwanService) : List MappingEntityCandidatePayload :=
  candidatesOf SdwanService.id 100 .serviceSignature services

/-- Port services with exactly the ports of a canonical one. -/
def matchL4Service (index : SdwanServicesCatalogIndex) (service : CanonicalService)
    (l4Proto : SdwanServiceL4Proto) : List MappingEntityCandidatePayload :=
  match service.portFrom,service.portTo with
  | some portFrom,some portTo => exactServices
      (index.findServicesBySignature l4Proto [((portFrom : ℤ),(portTo : ℤ))] [])
  | _,_ => exactServices []

/-- Services with the value of a canonical one. -/
def matchService (index : SdwanServicesCatalogIndex) (service : CanonicalService) :
    List MappingEntityCandidatePayload :=
  match service.kind with
  | .anyService => candidatesOf SdwanService.id 100 .builtinAny index.findBuiltinAnyServices
  | .tcp => matchL4Service index service .tcp
  | .udp => matchL4Service index service .udp
  | .icmp =>
    let codes := canonicalIcmpCodes service
    if codes=[] then exactServices []
    else exactServices (index.findIcmpServicesByCodes codes)
  | .ipProto => []
  | .serviceGroup => []
  | .unresolvedService => []

/-- The result of an entity with the objects found for it. -/
def buildResult (id scopeId : ℕ) (entityType : MappingEntityType) (canonicalEntityId : ℕ)
    (candidates : List MappingEntityCandidatePayload) : MappingEntityResult :=
  match candidates with
  | [] => MappingEntityResult.createUnresolved id scopeId entityType canonicalEntityId
  | [candidate] =>
    MappingEntityResult.createMatchedAuto id scopeId entityType canonicalEntityId candidate
  | candidates =>
    MappingEntityResult.createAmbiguous id scopeId entityType canonicalEntityId candidates

/-- An entity with the objects found for it. -/
structure EntityMatch where
  /-- What kind of entity was matched. -/
  entityType : MappingEntityType
  /-- Which one. -/
  canonicalEntityId : ℕ
  /-- What was found for it. -/
  candidates : List MappingEntityCandidatePayload

/-- The zones, leaf address objects and leaf services with what was found for them. -/
def entityMatches (entities : CanonicalScopeEntities) (zonesIndex : SdwanZonesCatalogIndex)
    (addrIndex : SdwanAddrObjsCatalogIndex) (servicesIndex : SdwanServicesCatalogIndex) :
    List EntityMatch :=
  (entities.zones.map fun zone => ⟨.zone,zone.id,matchZone zonesIndex zone⟩)++
  ((entities.addrObjects.filter fun object => decide (object.kind≠.addrGroup)).map
    fun object => ⟨.addr,object.id,matchAddr addrIndex object⟩)++
  (entities.services.filter fun service => decide (service.kind≠.serviceGroup)).map
    fun service => ⟨.service,service.id,matchService servicesIndex service⟩

/-- Results with numbers from the first free one on, for a result and its
candidates each. -/
def numberResults (scopeId : ℕ) : ℕ → List EntityMatch → List MappingEntityResult
  | _,[] => []
  | firstId,found::rest =>
    buildResult firstId scopeId found.entityType found.canonicalEntityId found.candidates::
      numberResults scopeId (firstId+1+found.candidates.length) rest

/-- Results for the zones, address objects and services of a scope. -/
def buildResults (firstId scopeId : ℕ) (entities : CanonicalScopeEntities)
    (catalog : SdwanFullCatalog) : Except PyException (List MappingEntityResult) := do
  let zonesIndex := SdwanZonesCatalogIndex.create catalog.zones
  let addrIndex ← SdwanAddrObjsCatalogIndex.create catalog.addrObjs
  let servicesIndex := SdwanServicesCatalogIndex.create catalog.services
  return numberResults scopeId firstId (entityMatches entities zonesIndex addrIndex servicesIndex)

/-- Every address object has a value or is a group, so none is unexpected. -/
theorem exists_addrValueKey (addr : SdwanAddrObject) : ∃ key,addrValueKey addr=.ok key := by
  cases htype : addr.type with
  | prefixNet =>
    obtain ⟨net,hnet⟩ := Option.isSome_iff_exists.mp (addr.prefix_set htype)
    simp only [addrValueKey,htype,hnet]
    exact ⟨_,rfl⟩
  | host =>
    obtain ⟨host,hhost⟩ := Option.isSome_iff_exists.mp (addr.host_set htype)
    simp only [addrValueKey,htype,hhost]
    exact ⟨_,rfl⟩
  | fqdn =>
    obtain ⟨fqdn,hfqdn⟩ := Option.isSome_iff_exists.mp (addr.fqdn_set htype)
    simp only [addrValueKey,htype,hfqdn]
    exact ⟨_,rfl⟩
  | ipRange =>
    obtain ⟨start,hstart⟩ := Option.isSome_iff_exists.mp (addr.range_set htype).1
    obtain ⟨stop,hstop⟩ := Option.isSome_iff_exists.mp (addr.range_set htype).2
    simp only [addrValueKey,htype,hstart,hstop]
    exact ⟨_,rfl⟩
  | network =>
    obtain ⟨net,hnet⟩ := Option.isSome_iff_exists.mp (addr.network_set htype).2
    simp only [addrValueKey,htype,hnet]
    exact ⟨_,rfl⟩
  | addrGroup => exact ⟨none,by simp only [addrValueKey,htype]⟩

/-- Every catalog can be indexed. -/
theorem exists_addrIndex (addrObjs : List SdwanAddrObject) :
    ∃ index,SdwanAddrObjsCatalogIndex.create addrObjs=.ok index := by
  have hkeys : ∀ addr∈distinctBy (·.id) addrObjs,∃ entry,
      (do return (← addrValueKey addr).map fun key => (key,addr))=
        Except.ok (ε:=PyException) entry := by
    intro addr _
    obtain ⟨key,hkey⟩ := exists_addrValueKey addr
    exact ⟨_,bind_eq_ok.mpr ⟨key,hkey,rfl⟩⟩
  obtain ⟨keys,hall⟩ := exists_mapM_eq_ok hkeys
  exact ⟨_,bind_eq_ok.mpr ⟨keys,hall,rfl⟩⟩

omit [PyUnicode] in
/-- A result keeps its number, its scope and its entity. -/
theorem buildResult_spec (id scopeId entity : ℕ) (entityType : MappingEntityType)
    (candidates : List MappingEntityCandidatePayload) :
    (buildResult id scopeId entityType entity candidates).id=id ∧
      (buildResult id scopeId entityType entity candidates).mappingScopeId=scopeId ∧
      (buildResult id scopeId entityType entity candidates).entityType=entityType ∧
      (buildResult id scopeId entityType entity candidates).canonicalEntityId=.ok entity := by
  cases entityType <;> rcases candidates with _|⟨first,_|⟨second,rest⟩⟩ <;>
    exact ⟨rfl,rfl,rfl,rfl⟩

omit [PyUnicode] in
/-- Results get numbers from the first free one on, and none twice. -/
theorem numberResults_ids (scopeId firstId : ℕ) (found : List EntityMatch) :
    (∀ result∈numberResults scopeId firstId found,firstId≤result.id) ∧
      ((numberResults scopeId firstId found).map (·.id)).Nodup := by
  induction found generalizing firstId with
  | nil => exact ⟨fun _ h => absurd h List.not_mem_nil,List.nodup_nil⟩
  | cons first rest ih =>
    obtain ⟨hle,hnodup⟩ := ih (firstId+1+first.candidates.length)
    have hid := (buildResult_spec firstId scopeId first.canonicalEntityId first.entityType
      first.candidates).1
    constructor
    · intro result hr
      rcases List.mem_cons.mp hr with rfl|hr
      · exact hid.ge
      · have hlater := hle result hr
        omega
    · rw [numberResults,List.map_cons,List.nodup_cons,hid]
      refine ⟨?_,hnodup⟩
      intro hin
      obtain ⟨result,hr,he⟩ := List.mem_map.mp hin
      have hlater := hle result hr
      omega

omit [PyUnicode] in
/-- Every result is built from a match. -/
theorem mem_numberResults {scopeId firstId : ℕ} {found : List EntityMatch}
    {result : MappingEntityResult} (h : result∈numberResults scopeId firstId found) :
    ∃ one∈found,∃ id,result=
      buildResult id scopeId one.entityType one.canonicalEntityId one.candidates := by
  induction found generalizing firstId with
  | nil => cases h
  | cons first rest ih =>
    rcases List.mem_cons.mp h with rfl|h
    · exact ⟨first,List.mem_cons_self,firstId,rfl⟩
    · obtain ⟨one,ho,id,he⟩ := ih h
      exact ⟨one,List.mem_cons_of_mem _ ho,id,he⟩

omit [PyUnicode] in
/-- Results are one for every match, in the same order. -/
theorem numberResults_forall₂ (scopeId firstId : ℕ) (found : List EntityMatch) :
    List.Forall₂ (fun one result => ∃ id,result=
      buildResult id scopeId one.entityType one.canonicalEntityId one.candidates)
      found (numberResults scopeId firstId found) := by
  induction found generalizing firstId with
  | nil => exact List.Forall₂.nil
  | cons first rest ih => exact List.Forall₂.cons ⟨firstId,rfl⟩ (ih _)

/-- The entity a result is for. -/
def entityOf (result : MappingEntityResult) : ℕ := result.canonicalEntityId.toOption.getD 0

/-- The entities that get a result: zones, and objects that are no groups. -/
def Mapped (entities : CanonicalScopeEntities) (entityType : MappingEntityType) (entity : ℕ) :
    Prop :=
  match entityType with
  | .zone => ∃ zone∈entities.zones,zone.id=entity
  | .addr => ∃ object∈entities.addrObjects,object.kind≠.addrGroup ∧ object.id=entity
  | .service => ∃ service∈entities.services,service.kind≠.serviceGroup ∧ service.id=entity

/-- Results with numbers of their own, one for every entity that gets one. -/
structure ResultsCover (entities : CanonicalScopeEntities) (results : List MappingEntityResult) :
    Prop where
  /-- No two results have one number. -/
  ids_nodup : (results.map (·.id)).Nodup
  /-- Every result is for an entity. -/
  entity_eq : ∀ result∈results,result.canonicalEntityId=.ok (entityOf result)
  /-- No two are for one entity. -/
  entities_nodup : (results.map fun result => (result.entityType,entityOf result)).Nodup
  /-- Exactly the entities that are mapped have one. -/
  mapped : ∀ entityType entity,
    (∃ result∈results,result.entityType=entityType ∧ entityOf result=entity) ↔
      Mapped entities entityType entity

/-- The entities of the matches are those that get a result. -/
theorem mem_entityMatches {entities : CanonicalScopeEntities}
    (zonesIndex : SdwanZonesCatalogIndex) (addrIndex : SdwanAddrObjsCatalogIndex)
    (servicesIndex : SdwanServicesCatalogIndex) (entityType : MappingEntityType) (entity : ℕ) :
    (∃ one∈entityMatches entities zonesIndex addrIndex servicesIndex,
      one.entityType=entityType ∧ one.canonicalEntityId=entity) ↔
      Mapped entities entityType entity := by
  cases entityType <;>
    simp only [entityMatches,List.mem_append,List.mem_map,List.mem_filter,decide_eq_true_eq,
      Mapped]
  case zone =>
    constructor
    · rintro ⟨one,(⟨zone,hz,rfl⟩|⟨_,_,rfl⟩)|⟨_,_,rfl⟩,htype,rfl⟩
      · exact ⟨zone,hz,rfl⟩
      · cases htype
      · cases htype
    · rintro ⟨zone,hz,rfl⟩
      exact ⟨_,Or.inl (Or.inl ⟨zone,hz,rfl⟩),rfl,rfl⟩
  case addr =>
    constructor
    · rintro ⟨one,(⟨_,_,rfl⟩|⟨object,⟨ho,hk⟩,rfl⟩)|⟨_,_,rfl⟩,htype,rfl⟩
      · cases htype
      · exact ⟨object,ho,hk,rfl⟩
      · cases htype
    · rintro ⟨object,ho,hk,rfl⟩
      exact ⟨_,Or.inl (Or.inr ⟨object,⟨ho,hk⟩,rfl⟩),rfl,rfl⟩
  case service =>
    constructor
    · rintro ⟨one,(⟨_,_,rfl⟩|⟨_,_,rfl⟩)|⟨service,⟨hs,hk⟩,rfl⟩,htype,rfl⟩
      · cases htype
      · cases htype
      · exact ⟨service,hs,hk,rfl⟩
    · rintro ⟨service,hs,hk,rfl⟩
      exact ⟨_,Or.inr ⟨service,⟨hs,hk⟩,rfl⟩,rfl,rfl⟩

/-- No entity is matched twice when no identifier is read twice. -/
theorem entityMatches_nodup {entities : CanonicalScopeEntities}
    {zonesIndex : SdwanZonesCatalogIndex} {addrIndex : SdwanAddrObjsCatalogIndex}
    {servicesIndex : SdwanServicesCatalogIndex} (hzones : (entities.zones.map (·.id)).Nodup)
    (haddrs : (entities.addrObjects.map (·.id)).Nodup)
    (hservices : (entities.services.map (·.id)).Nodup) :
    ((entityMatches entities zonesIndex addrIndex servicesIndex).map
      fun one => (one.entityType,one.canonicalEntityId)).Nodup := by
  have hpair : ∀ (type : MappingEntityType) {ids : List ℕ},ids.Nodup →
      (ids.map fun id => (type,id)).Nodup := by
    intro type ids hids
    exact hids.map fun a b h => (Prod.mk.inj h).2
  have hleaf : ((entities.addrObjects.filter
      fun object => decide (object.kind≠.addrGroup)).map (·.id)).Nodup :=
    haddrs.sublist (List.filter_sublist.map _)
  have hservice : ((entities.services.filter
      fun service => decide (service.kind≠.serviceGroup)).map (·.id)).Nodup :=
    hservices.sublist (List.filter_sublist.map _)
  have hz := hpair .zone hzones
  have ha := hpair .addr hleaf
  have hs := hpair .service hservice
  rw [List.map_map] at hz ha hs
  rw [entityMatches,List.map_append,List.map_append,List.map_map,List.map_map,List.map_map]
  refine List.Nodup.append (List.Nodup.append hz ha ?_) hs ?_
  · intro pair hleft hright
    obtain ⟨_,-,rfl⟩ := List.mem_map.mp hleft
    obtain ⟨_,-,he⟩ := List.mem_map.mp hright
    cases (Prod.mk.inj he).1
  · intro pair hleft hright
    obtain ⟨_,-,rfl⟩ := List.mem_map.mp hright
    rcases List.mem_append.mp hleft with hleft|hleft
    · obtain ⟨_,-,he⟩ := List.mem_map.mp hleft
      cases (Prod.mk.inj he).1
    · obtain ⟨_,-,he⟩ := List.mem_map.mp hleft
      cases (Prod.mk.inj he).1

/-- Results can be built for every scope and catalog, and cover the scope. -/
theorem buildResults_spec (firstId scopeId : ℕ) {entities : CanonicalScopeEntities}
    (catalog : SdwanFullCatalog) (hzones : (entities.zones.map (·.id)).Nodup)
    (haddrs : (entities.addrObjects.map (·.id)).Nodup)
    (hservices : (entities.services.map (·.id)).Nodup) :
    ∃ results,buildResults firstId scopeId entities catalog=.ok results ∧
      ResultsCover entities results := by
  obtain ⟨addrIndex,haddr⟩ := exists_addrIndex catalog.addrObjs
  let found := entityMatches entities (SdwanZonesCatalogIndex.create catalog.zones) addrIndex
    (SdwanServicesCatalogIndex.create catalog.services)
  have hall := numberResults_forall₂ scopeId firstId found
  have hentities : (numberResults scopeId firstId found).map
      (fun result => (result.entityType,entityOf result))=
      found.map fun one => (one.entityType,one.canonicalEntityId) := by
    apply Eq.symm
    rw [←List.forall₂_eq_eq_eq,List.forall₂_map_left_iff,List.forall₂_map_right_iff]
    apply hall.imp
    rintro one result ⟨id,rfl⟩
    obtain ⟨-,-,htype,hentity⟩ := buildResult_spec id scopeId one.canonicalEntityId
      one.entityType one.candidates
    rw [htype,entityOf,hentity]
    rfl
  refine ⟨numberResults scopeId firstId found,bind_eq_ok.mpr ⟨addrIndex,haddr,rfl⟩,?_⟩
  refine ⟨(numberResults_ids scopeId firstId found).2,?_,?_,?_⟩
  · intro result hr
    obtain ⟨one,-,id,rfl⟩ := mem_numberResults hr
    have hentity := (buildResult_spec id scopeId one.canonicalEntityId one.entityType
      one.candidates).2.2.2
    rw [entityOf,hentity]
    rfl
  · rw [hentities]
    exact entityMatches_nodup hzones haddrs hservices
  · intro entityType entity
    rw [←mem_entityMatches (SdwanZonesCatalogIndex.create catalog.zones) addrIndex
      (SdwanServicesCatalogIndex.create catalog.services) entityType entity]
    have hpair : ∀ pair : MappingEntityType × ℕ,
        pair∈(numberResults scopeId firstId found).map
          (fun result => (result.entityType,entityOf result)) ↔
        pair∈found.map fun one => (one.entityType,one.canonicalEntityId) := by
      intro pair
      rw [hentities]
    have h := hpair (entityType,entity)
    simp only [List.mem_map,Prod.mk.injEq] at h
    exact h

end NspMigrator.MappingObjects
