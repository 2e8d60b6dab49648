import Mathlib
import NspMigrator.MappingObjects

/-!
# Indexed matching is a plain scan

The indexes find what reading the catalog from its first to its last object
would find, and a result reports exactly the objects that were found.
-/

namespace NspMigrator.MappingScan

open PyDict PyText PyExcept Ipv4 Ipv4Text SdwanModels SdwanFingerprint ExecuteRepository
open MappingEntities MappingSchemas MappingCatalogIndexes MappingObjects

section Finalize

/-- Keeping the best drafts stores each under its object, and forgets no object. -/
theorem foldl_keepBest (candidates : List CandidateDraft) (best : Dict ℤ CandidateDraft)
    (hown : ∀ id draft,best.get? id=some draft → draft.sdwanEntityId=id) :
    (∀ id draft,(candidates.foldl keepBest best).get? id=some draft → draft.sdwanEntityId=id) ∧
      ∀ id,(∃ draft,(candidates.foldl keepBest best).get? id=some draft) ↔
        (∃ draft,best.get? id=some draft) ∨ ∃ draft∈candidates,draft.sdwanEntityId=id := by
  induction candidates generalizing best with
  | nil => exact ⟨hown,fun id => by simp⟩
  | cons draft rest ih =>
    have hstep : (∀ id found,(keepBest best draft).get? id=some found → found.sdwanEntityId=id) ∧
        ∀ id,(∃ found,(keepBest best draft).get? id=some found) ↔
          (∃ found,best.get? id=some found) ∨ draft.sdwanEntityId=id := by
      have hinsert : (∀ id found,(best.insert draft.sdwanEntityId draft).get? id=some found →
            found.sdwanEntityId=id) ∧
          ∀ id,(∃ found,(best.insert draft.sdwanEntityId draft).get? id=some found) ↔
            (∃ found,best.get? id=some found) ∨ draft.sdwanEntityId=id := by
        constructor
        · intro id found hfound
          rw [Dict.get?_insert] at hfound
          split at hfound
          · next heq =>
            rw [←Option.some.inj hfound]
            exact heq.symm
          · exact hown id found hfound
        · intro id
          rw [Dict.get?_insert]
          by_cases heq : id=draft.sdwanEntityId
          · simp [heq]
          · simp [heq,Ne.symm heq]
      unfold keepBest
      cases hcurrent : best.get? draft.sdwanEntityId with
      | none => exact hinsert
      | some current =>
        dsimp only
        split
        · exact hinsert
        · refine ⟨hown,fun id => ⟨Or.inl,?_⟩⟩
          rintro (hfound|rfl)
          · exact hfound
          · exact ⟨current,hcurrent⟩
    obtain ⟨howned,hids⟩ := ih (keepBest best draft) hstep.1
    refine ⟨howned,fun id => ?_⟩
    rw [List.foldl_cons,hids,hstep.2,or_assoc]
    apply or_congr_right
    simp only [List.mem_cons,exists_eq_or_imp]

/-- Ranking does not change which objects are listed. -/
theorem map_ranked (drafts : List CandidateDraft) :
    (drafts.mapIdx fun index draft =>
      (⟨index+1,draft.score,draft.strategy,draft.sdwanEntityId⟩ :
        MappingEntityCandidatePayload)).map (·.sdwanEntityId)=
      drafts.map (·.sdwanEntityId) := by
  apply List.ext_getElem
  · rw [List.length_map,List.length_mapIdx,List.length_map]
  · intro i hi hj
    rw [List.getElem_map,List.getElem_mapIdx,List.getElem_map]

/-- Final candidates name every object of the drafts once. -/
theorem finalize_ids (candidates : List CandidateDraft) :
    ((finalize candidates).map (·.sdwanEntityId)).Nodup ∧
      ∀ id,id∈(finalize candidates).map (·.sdwanEntityId) ↔
        ∃ draft∈candidates,draft.sdwanEntityId=id := by
  obtain ⟨hown,hids⟩ := foldl_keepBest candidates Dict.empty fun id draft h => by cases h
  have hkeys := map_values_eq_keys hown
  have hperm := (List.perm_insertionSort (fun a b : CandidateDraft =>
    b.score<a.score ∨ a.score=b.score ∧ a.sdwanEntityId≤ b.sdwanEntityId)
    (candidates.foldl keepBest Dict.empty).values).map (·.sdwanEntityId)
  rw [hkeys] at hperm
  rw [finalize,map_ranked]
  refine ⟨hperm.nodup_iff.mpr (Dict.nodup _),fun id => ?_⟩
  rw [hperm.mem_iff]
  have hmem := hids id
  rw [Dict.get?_empty] at hmem
  simp only [reduceCtorEq,exists_false,false_or] at hmem
  rw [←hmem]
  constructor
  · intro h
    obtain ⟨entry,he,rfl⟩ := List.mem_map.mp h
    exact ⟨entry.2,Dict.get?_eq_some_iff.mpr he⟩
  · rintro ⟨draft,hdraft⟩
    exact List.mem_map_of_mem (Dict.get?_eq_some_iff.mp hdraft)

/-- Candidates from found objects name these objects, each once. -/
theorem candidatesOf_ids {α : Type} (objectId : α → ℤ) (score : ℕ)
    (strategy : CandidateMatchStrategy) (objects : List α) :
    ((candidatesOf objectId score strategy objects).map (·.sdwanEntityId)).Nodup ∧
      ∀ id,id∈(candidatesOf objectId score strategy objects).map (·.sdwanEntityId) ↔
        ∃ object∈objects,objectId object=id := by
  obtain ⟨hnodup,hmem⟩ := finalize_ids
    (objects.map fun object => ⟨objectId object,score,strategy⟩)
  refine ⟨hnodup,fun id => ?_⟩
  rw [candidatesOf,hmem]
  simp only [List.mem_map,exists_exists_and_eq_and]

/-- Candidates from the objects of a catalog that have a property are what a
scan for the property finds. -/
theorem candidatesOf_perm {α : Type} {objectId : α → ℤ} (score : ℕ)
    (strategy : CandidateMatchStrategy) {found objects : List α} {p : α → Bool}
    (hnodup : (objects.map objectId).Nodup)
    (hfound : ∀ object,object∈found ↔ object∈objects ∧ p object=true) :
    ((candidatesOf objectId score strategy found).map (·.sdwanEntityId)).Perm
      ((objects.filter p).map objectId) := by
  obtain ⟨hids,hmem⟩ := candidatesOf_ids objectId score strategy found
  rw [List.perm_ext_iff_of_nodup hids (hnodup.sublist (List.filter_sublist.map _))]
  intro id
  rw [hmem]
  simp only [List.mem_map,List.mem_filter,hfound]

/-- No candidates are what a scan finds that finds nothing. -/
theorem nil_perm_of_forall {α : Type} {objectId : α → ℤ} {objects : List α} {p : α → Bool}
    (h : ∀ object∈objects,p object=false) :
    (([] : List MappingEntityCandidatePayload).map (·.sdwanEntityId)).Perm
      ((objects.filter p).map objectId) := by
  have hnil : objects.filter p=[] := by
    rw [List.filter_eq_nil_iff]
    intro object ho
    rw [h object ho]
    exact Bool.false_ne_true
  rw [hnil]
  exact List.Perm.nil

end Finalize

section Lookup

variable [PyUnicode]

/-- What an index finds under a value: the objects, one of each number, that
have it. -/
theorem mem_findAddrByValue {addrObjs : List SdwanAddrObject} {index : SdwanAddrObjsCatalogIndex}
    (h : SdwanAddrObjsCatalogIndex.create addrObjs=.ok index) (key : AddrValueKey)
    (addr : SdwanAddrObject) :
    addr∈index.findAddrByValue key ↔
      addr∈distinctBy (·.id) addrObjs ∧ addrValueKey addr=.ok (some key) := by
  obtain ⟨keys,hkeys,h⟩ := bind_eq_ok.mp h
  rw [pure_eq_ok] at h
  subst h
  rw [SdwanAddrObjsCatalogIndex.findAddrByValue,getD_groupPairs]
  simp only [List.mem_map,List.mem_filter,List.mem_filterMap,id_eq,decide_eq_true_eq]
  constructor
  · rintro ⟨pair,⟨⟨entry,hentry,rfl⟩,hkey⟩,rfl⟩
    obtain ⟨addr,haddr,hstep⟩ := exists_of_mem_mapM hkeys hentry
    obtain ⟨found,hfound,he⟩ := bind_eq_ok.mp hstep
    rw [pure_eq_ok] at he
    obtain ⟨key',rfl,hpair⟩ := Option.map_eq_some_iff.mp he
    subst hpair
    subst hkey
    exact ⟨haddr,hfound⟩
  · rintro ⟨haddr,hvalue⟩
    obtain ⟨entry,hentry,hstep⟩ := exists_of_mapM_eq_ok hkeys haddr
    rw [hvalue] at hstep
    have he := pure_eq_ok.mp hstep
    exact ⟨(key,addr),⟨⟨entry,hentry,he.symm⟩,rfl⟩,rfl⟩

/-- The value of an object, where an address object has it. -/
theorem addrValueKey_eq_iff (addr : SdwanAddrObject) (key : AddrValueKey) :
    addrValueKey addr=.ok (some key) ↔
      (addr.type=.host ∧ ∃ host,addr.host=some host ∧ key=.host (dotted host.toInt)) ∨
      (addr.type=.prefixNet ∧ ∃ net,addr.prefixNet=some net ∧ key=.prefixNet (networkText net)) ∨
      (addr.type=.network ∧ ∃ net,addr.network=some net ∧ key=.prefixNet (networkText net)) ∨
      (addr.type=.fqdn ∧ ∃ fqdn,addr.fqdn=some fqdn ∧ key=.fqdn (normalizeFqdn fqdn)) ∨
      (addr.type=.ipRange ∧ ∃ start stop,addr.ipRangeFrom=some start ∧
        addr.ipRangeTo=some stop ∧ key=.range (dotted start.toInt) (dotted stop.toInt)) := by
  cases htype : addr.type with
  | host =>
    obtain ⟨host,hhost⟩ := Option.isSome_iff_exists.mp (addr.host_set htype)
    simp [addrValueKey,htype,hhost,eq_comm]
  | prefixNet =>
    obtain ⟨net,hnet⟩ := Option.isSome_iff_exists.mp (addr.prefix_set htype)
    simp [addrValueKey,htype,hnet,eq_comm]
  | network =>
    obtain ⟨net,hnet⟩ := Option.isSome_iff_exists.mp (addr.network_set htype).2
    simp [addrValueKey,htype,hnet,eq_comm]
  | fqdn =>
    obtain ⟨fqdn,hfqdn⟩ := Option.isSome_iff_exists.mp (addr.fqdn_set htype)
    simp [addrValueKey,htype,hfqdn,eq_comm]
  | ipRange =>
    obtain ⟨start,hstart⟩ := Option.isSome_iff_exists.mp (addr.range_set htype).1
    obtain ⟨stop,hstop⟩ := Option.isSome_iff_exists.mp (addr.range_set htype).2
    simp [addrValueKey,htype,hstart,hstop,eq_comm]
  | addrGroup => simp [addrValueKey,htype]

omit [PyUnicode] in
/-- Ranges sort to a single one exactly when there is a single one. -/
theorem sortRanges_eq_singleton {ranges : List (ℤ × ℤ)} {range : ℤ × ℤ} :
    sortRanges ranges=sortRanges [range] ↔ ranges=[range] := by
  constructor
  · intro h
    have hperm := List.perm_insertionSort
      (fun a b : ℤ × ℤ => a.1<b.1 ∨ a.1=b.1 ∧ a.2≤ b.2) ranges
    have hsorted : List.insertionSort
        (fun a b : ℤ × ℤ => a.1<b.1 ∨ a.1=b.1 ∧ a.2≤ b.2) ranges=[range] := h
    rw [hsorted] at hperm
    exact (List.perm_singleton.mp hperm.symm)
  · rintro rfl
    rfl

omit [PyUnicode] in
/-- Codes sort alike exactly when they are equal up to order. -/
theorem sortCodes_eq_iff {codes other : List String} :
    sortCodes codes=sortCodes other ↔ codes.Perm other := by
  constructor
  · intro h
    have hcodes := List.perm_insertionSort (fun a b : String => a≤ b) codes
    have hother := List.perm_insertionSort (fun a b : String => a≤ b) other
    have heq : List.insertionSort (fun a b : String => a≤ b) codes=
        List.insertionSort (fun a b => a≤ b) other := h
    rw [heq] at hcodes
    exact hcodes.symm.trans hother
  · intro h
    have hperm := (List.perm_insertionSort (fun a b : String => a≤ b) codes).trans
      (h.trans (List.perm_insertionSort (fun a b : String => a≤ b) other).symm)
    exact hperm.eq_of_pairwise' (List.sortedLE_insertionSort).pairwise
      (List.sortedLE_insertionSort).pairwise

end Lookup

section Scan

variable [PyUnicode]

/-- Whether an address object has the value of a canonical one, read off both.
Hosts may be written with a mask, networks with host bits. -/
def addrEquals (object : CanonicalAddrObject) (addr : SdwanAddrObject) : Bool :=
  match object.kind with
  | .host =>
    match parseAddress (firstPart '/' (object.cidr.getD "")) with
    | none => false
    | some host => decide (addr.type=.host ∧ addr.host=some host)
  | .subnet =>
    match parseNetwork (object.cidr.getD "") with
    | none => false
    | some net => decide (addr.type=.prefixNet ∧ addr.prefixNet=some net ∨
        addr.type=.network ∧ addr.network=some net)
  | .range =>
    match parseAddress (object.rangeStart.getD ""),parseAddress (object.rangeEnd.getD "") with
    | some start,some stop => decide (addr.type=.ipRange ∧ addr.ipRangeFrom=some start ∧
        addr.ipRangeTo=some stop)
    | _,_ => false
  | .fqdn => decide (object.fqdn.getD ""≠"" ∧ addr.type=.fqdn ∧
      addr.fqdn.map normalizeFqdn=some (normalizeFqdn (object.fqdn.getD "")))
  | _ => false

/-- Whether a service has the value of a canonical one, read off both. -/
def serviceEquals (canonical : CanonicalService) (service : SdwanService) : Bool :=
  let portsEqual := fun l4Proto : SdwanServiceL4Proto =>
    match canonical.portFrom,canonical.portTo with
    | some portFrom,some portTo => decide (service.l4Proto=l4Proto ∧
        service.ranges=some [((portFrom : ℤ),(portTo : ℤ))])
    | _,_ => false
  match canonical.kind with
  | .tcp => portsEqual .tcp
  | .udp => portsEqual .udp
  | .icmp => decide (service.l4Proto=.icmp ∧
      (service.codes.getD []).Perm (canonicalIcmpCodes canonical))
  | _ => false

/-- The numbers of the address objects with the value of a canonical one. -/
def scanAddrs (addrObjs : List SdwanAddrObject) (object : CanonicalAddrObject) : List ℤ :=
  ((distinctBy (·.id) addrObjs).filter (addrEquals object)).map (·.id)

/-- The numbers of the services with the value of a canonical one. -/
def scanServices (services : List SdwanService) (canonical : CanonicalService) : List ℤ :=
  ((distinctBy (·.id) services).filter (serviceEquals canonical)).map (·.id)

/-- Kinds of address object that have a value. -/
def valueAddrKinds : List CanonicalAddrObjKind := [.host,.subnet,.range,.fqdn]

/-- Kinds of service that have a value. -/
def valueServiceKinds : List CanonicalServiceKind := [.tcp,.udp,.icmp]

/-- Port services carry no ICMP codes, as responses are validated. -/
def NoPortCodes (services : List SdwanService) : Prop :=
  ∀ service∈services,service.l4Proto=.tcp ∨ service.l4Proto=.udp → service.codes=none

/-- Address objects found under a value are those a scan for the value finds. -/
theorem exactAddrs_perm {addrObjs : List SdwanAddrObject} {index : SdwanAddrObjsCatalogIndex}
    (h : SdwanAddrObjsCatalogIndex.create addrObjs=.ok index) {object : CanonicalAddrObject}
    {key : AddrValueKey}
    (hkey : ∀ addr,addrValueKey addr=.ok (some key) ↔ addrEquals object addr=true) :
    ((exactAddrs (index.findAddrByValue key)).map (·.sdwanEntityId)).Perm
      (scanAddrs addrObjs object) :=
  candidatesOf_perm _ _ (nodup_distinctBy _ _) fun addr => by
    rw [mem_findAddrByValue h,hkey]

/-- A text without a value is matched with nothing, and no object has its value. -/
theorem scanAddrs_of_forall (addrObjs : List SdwanAddrObject) (object : CanonicalAddrObject)
    (h : ∀ addr,addrEquals object addr=false) :
    (([] : List MappingEntityCandidatePayload).map (·.sdwanEntityId)).Perm
      (scanAddrs addrObjs object) :=
  nil_perm_of_forall fun addr _ => h addr

section Addresses

variable {addrObjs : List SdwanAddrObject} {index : SdwanAddrObjsCatalogIndex}
  {object : CanonicalAddrObject}

/-- Matching a host is scanning for its address. -/
theorem matchAddr_host_perm (h : SdwanAddrObjsCatalogIndex.create addrObjs=.ok index)
    (hk : object.kind=.host) :
    ((matchAddr index object).map (·.sdwanEntityId)).Perm (scanAddrs addrObjs object) := by
  simp only [matchAddr,hk]
  cases hparse : parseAddress (firstPart '/' (object.cidr.getD "")) with
  | none =>
    have hnone := scanAddrs_of_forall addrObjs object fun addr => by
      simp only [addrEquals,hk,hparse]
    split
    · exact hnone
    · exact hnone
  | some host =>
    have hne : object.cidr.getD ""≠"" := by
      intro he
      rw [he] at hparse
      cases hparse
    rw [if_neg hne]
    refine exactAddrs_perm h fun addr => ?_
    rw [addrValueKey_eq_iff]
    simp only [addrEquals,hk,hparse,decide_eq_true_eq,AddrValueKey.host.injEq,reduceCtorEq,
      and_false,exists_false,or_false]
    apply and_congr_right
    intro _
    constructor
    · rintro ⟨found,hfound,he⟩
      rw [hfound,dotted_injective he]
    · intro hfound
      exact ⟨host,hfound,rfl⟩

/-- Matching a subnet is scanning for its network. -/
theorem matchAddr_subnet_perm (h : SdwanAddrObjsCatalogIndex.create addrObjs=.ok index)
    (hk : object.kind=.subnet) :
    ((matchAddr index object).map (·.sdwanEntityId)).Perm (scanAddrs addrObjs object) := by
  simp only [matchAddr,hk]
  cases hparse : parseNetwork (object.cidr.getD "") with
  | none =>
    have hnone := scanAddrs_of_forall addrObjs object fun addr => by
      simp only [addrEquals,hk,hparse]
    split
    · exact hnone
    · exact hnone
  | some net =>
    have hne : object.cidr.getD ""≠"" := by
      intro he
      rw [he] at hparse
      cases hparse
    rw [if_neg hne]
    refine exactAddrs_perm h fun addr => ?_
    rw [addrValueKey_eq_iff]
    simp only [addrEquals,hk,hparse,decide_eq_true_eq,AddrValueKey.prefixNet.injEq,reduceCtorEq,
      and_false,exists_false,or_false,false_or]
    have hnet : ∀ value : Option Ipv4Network,
        (∃ found,value=some found ∧ networkText net=networkText found) ↔ value=some net := by
      intro value
      constructor
      · rintro ⟨found,hfound,he⟩
        rw [hfound,networkText_injective he]
      · intro hfound
        exact ⟨net,hfound,rfl⟩
    rw [hnet,hnet]

/-- Matching a range is scanning for its ends. -/
theorem matchAddr_range_perm (h : SdwanAddrObjsCatalogIndex.create addrObjs=.ok index)
    (hk : object.kind=.range) :
    ((matchAddr index object).map (·.sdwanEntityId)).Perm (scanAddrs addrObjs object) := by
  simp only [matchAddr,hk]
  cases hstart : parseAddress (object.rangeStart.getD "") with
  | none =>
    have hnone := scanAddrs_of_forall addrObjs object fun addr => by
      simp only [addrEquals,hk,hstart]
    split
    · exact hnone
    · exact hnone
  | some start =>
    cases hstop : parseAddress (object.rangeEnd.getD "") with
    | none =>
      have hnone := scanAddrs_of_forall addrObjs object fun addr => by
        simp only [addrEquals,hk,hstart,hstop]
      split
      · exact hnone
      · exact hnone
    | some stop =>
      have hne : ¬(object.rangeStart.getD ""="" ∨ object.rangeEnd.getD ""="") := by
        rintro (he|he)
        · rw [he] at hstart
          cases hstart
        · rw [he] at hstop
          cases hstop
      rw [if_neg hne]
      refine exactAddrs_perm h fun addr => ?_
      rw [addrValueKey_eq_iff]
      simp only [addrEquals,hk,hstart,hstop,decide_eq_true_eq,AddrValueKey.range.injEq,
        reduceCtorEq,and_false,exists_false,false_or]
      apply and_congr_right
      intro _
      constructor
      · rintro ⟨first,last,hfirst,hlast,he,he'⟩
        rw [hfirst,hlast,dotted_injective he,dotted_injective he']
        exact ⟨rfl,rfl⟩
      · rintro ⟨hfirst,hlast⟩
        exact ⟨start,stop,hfirst,hlast,rfl,rfl⟩

/-- Matching a domain name is scanning for the normalized name. -/
theorem matchAddr_fqdn_perm (h : SdwanAddrObjsCatalogIndex.create addrObjs=.ok index)
    (hk : object.kind=.fqdn) :
    ((matchAddr index object).map (·.sdwanEntityId)).Perm (scanAddrs addrObjs object) := by
  simp only [matchAddr,hk]
  by_cases hne : object.fqdn.getD ""=""
  · rw [if_pos hne]
    refine scanAddrs_of_forall addrObjs object fun addr => ?_
    simp only [addrEquals,hk,hne,ne_eq,not_true_eq_false,false_and,decide_false]
  · rw [if_neg hne]
    refine exactAddrs_perm h fun addr => ?_
    rw [addrValueKey_eq_iff]
    simp only [addrEquals,hk,hne,ne_eq,not_false_eq_true,true_and,decide_eq_true_eq,
      AddrValueKey.fqdn.injEq,reduceCtorEq,and_false,exists_false,or_false,false_or]
    apply and_congr_right
    intro _
    rw [Option.map_eq_some_iff]
    apply exists_congr
    intro fqdn
    rw [eq_comm (a:=normalizeFqdn fqdn)]

/-- Matching an address object by the indexes is scanning for its value. -/
theorem matchAddr_perm (h : SdwanAddrObjsCatalogIndex.create addrObjs=.ok index)
    (hkind : object.kind∈valueAddrKinds) :
    ((matchAddr index object).map (·.sdwanEntityId)).Perm (scanAddrs addrObjs object) := by
  simp only [valueAddrKinds,List.mem_cons,List.not_mem_nil,or_false] at hkind
  rcases hkind with hk|hk|hk|hk
  · exact matchAddr_host_perm h hk
  · exact matchAddr_subnet_perm h hk
  · exact matchAddr_range_perm h hk
  · exact matchAddr_fqdn_perm h hk

end Addresses

omit [PyUnicode] in
/-- Services found in one way are those a scan finds. -/
theorem exactServices_perm {services found : List SdwanService} {canonical : CanonicalService}
    (hfound : ∀ service,service∈found ↔
      service∈distinctBy (·.id) services ∧ serviceEquals canonical service=true) :
    ((exactServices found).map (·.sdwanEntityId)).Perm (scanServices services canonical) :=
  candidatesOf_perm _ _ (nodup_distinctBy _ _) hfound

omit [PyUnicode] in
/-- A service without a value is matched with nothing, and no service has its value. -/
theorem scanServices_of_forall (services : List SdwanService) {canonical : CanonicalService}
    (h : ∀ service,serviceEquals canonical service=false) :
    ((exactServices []).map (·.sdwanEntityId)).Perm (scanServices services canonical) :=
  nil_perm_of_forall fun service _ => h service

/-- Matching a port service by signature is scanning for its one range. -/
theorem matchL4Service_perm {services : List SdwanService} (hports : NoPortCodes services)
    {canonical : CanonicalService} {l4Proto : SdwanServiceL4Proto}
    (hproto : l4Proto=.tcp ∨ l4Proto=.udp)
    (hequals : ∀ service,serviceEquals canonical service=
      match canonical.portFrom,canonical.portTo with
      | some portFrom,some portTo => decide (service.l4Proto=l4Proto ∧
          service.ranges=some [((portFrom : ℤ),(portTo : ℤ))])
      | _,_ => false) :
    ((matchL4Service (SdwanServicesCatalogIndex.create services) canonical l4Proto).map
      (·.sdwanEntityId)).Perm (scanServices services canonical) := by
  rw [matchL4Service]
  cases hfrom : canonical.portFrom with
  | none =>
    apply scanServices_of_forall
    intro service
    rw [hequals,hfrom]
  | some portFrom =>
    cases hto : canonical.portTo with
    | none =>
      apply scanServices_of_forall
      intro service
      rw [hequals,hfrom,hto]
    | some portTo =>
      refine exactServices_perm fun service => ?_
      rw [SdwanServicesCatalogIndex.findServicesBySignature,SdwanServicesCatalogIndex.create,
        getD_groupBy,List.mem_filter,hequals,hfrom,hto]
      apply and_congr_right
      intro hservice
      rw [decide_eq_true_eq,decide_eq_true_eq,serviceSignature,Prod.mk.injEq,Prod.mk.injEq,
        sortRanges_eq_singleton]
      apply and_congr_right
      intro htype
      have hcodes := hports service (mem_of_mem_distinctBy hservice) (htype▸hproto)
      have hranges := service.ranges_ne (htype▸hproto)
      rw [hcodes]
      cases hr : service.ranges with
      | none => exact absurd (by rw [hr]; rfl) hranges
      | some ranges => simp

/-- Matching a service by the indexes is scanning for its value. -/
theorem matchService_perm {services : List SdwanService} (hports : NoPortCodes services)
    {canonical : CanonicalService} (hkind : canonical.kind∈valueServiceKinds) :
    ((matchService (SdwanServicesCatalogIndex.create services) canonical).map
      (·.sdwanEntityId)).Perm (scanServices services canonical) := by
  cases hk : canonical.kind with
  | tcp =>
    rw [matchService,hk]
    exact matchL4Service_perm hports (Or.inl rfl) fun service => by rw [serviceEquals,hk]
  | udp =>
    rw [matchService,hk]
    exact matchL4Service_perm hports (Or.inr rfl) fun service => by rw [serviceEquals,hk]
  | icmp =>
    simp only [matchService,hk]
    by_cases hcodes : canonicalIcmpCodes canonical=[]
    · rw [if_pos hcodes]
      apply scanServices_of_forall
      intro service
      simp only [serviceEquals,hk,hcodes,decide_eq_false_iff_not,List.perm_nil,not_and]
      exact service.codes_ne
    · rw [if_neg hcodes]
      refine exactServices_perm fun service => ?_
      rw [SdwanServicesCatalogIndex.findIcmpServicesByCodes,SdwanServicesCatalogIndex.create,
        List.mem_filter]
      apply and_congr_right
      intro _
      simp only [serviceEquals,hk,decide_eq_true_eq,sortCodes_eq_iff]
  | ipProto => rw [hk] at hkind; exact absurd hkind (by decide)
  | anyService => rw [hk] at hkind; exact absurd hkind (by decide)
  | serviceGroup => rw [hk] at hkind; exact absurd hkind (by decide)
  | unresolvedService => rw [hk] at hkind; exact absurd hkind (by decide)

end Scan

section Results

/-- A result lists exactly the scanned objects, each once, and is unresolved,
matched or ambiguous as there is none, one or several. -/
structure Reflects (scanned : List ℤ) (result : MappingEntityResult) : Prop where
  /-- No object is scanned twice. -/
  nodup : scanned.Nodup
  /-- The candidates are the scanned objects. -/
  candidates : ∃ candidates,result.candidates=some candidates ∧
    (candidates.map (·.sdwanEntityId)).Perm scanned
  /-- Without any the result is unresolved. -/
  unresolved : scanned=[] → result.resultStatus=.unresolved ∧ result.selectedSdwanEntityId=none
  /-- A single one is selected. -/
  matched : ∀ id,scanned=[id] →
    result.resultStatus=.matched ∧ result.selectedSdwanEntityId=some id
  /-- Of several none is. -/
  ambiguous : 2≤ scanned.length →
    result.resultStatus=.ambiguous ∧ result.selectedSdwanEntityId=none

/-- The stored candidates of an ambiguous result name the objects that were found. -/
theorem map_createCandidate (id : ℕ) (payloads : List MappingEntityCandidatePayload) :
    (payloads.mapIdx fun i payload =>
      MappingEntityResult.createCandidate id payload (id+1+i)).map (·.sdwanEntityId)=
      payloads.map (·.sdwanEntityId) := by
  apply List.ext_getElem
  · rw [List.length_map,List.length_mapIdx,List.length_map]
  · intro i hi hj
    rw [List.getElem_map,List.getElem_mapIdx,List.getElem_map,
      MappingEntityResult.createCandidate]

/-- A built result reflects the objects that were found. -/
theorem reflects_buildResult (id scopeId entity : ℕ) (entityType : MappingEntityType)
    {candidates : List MappingEntityCandidatePayload} {scanned : List ℤ}
    (hnodup : scanned.Nodup) (hperm : (candidates.map (·.sdwanEntityId)).Perm scanned) :
    Reflects scanned (buildResult id scopeId entityType entity candidates) := by
  have hlength := hperm.length_eq
  rw [List.length_map] at hlength
  match candidates,hperm,hlength with
  | [],hperm,hlength =>
    refine ⟨hnodup,⟨[],rfl,hperm⟩,fun _ => ⟨rfl,rfl⟩,?_,?_⟩
    · rintro other rfl
      cases hlength
    · intro htwo
      rw [←hlength] at htwo
      cases htwo
  | [candidate],hperm,hlength =>
    refine ⟨hnodup,⟨_,rfl,hperm⟩,?_,?_,?_⟩
    · rintro rfl
      cases hlength
    · rintro other rfl
      have heq := List.singleton_perm_singleton.mp hperm
      exact ⟨rfl,congrArg some heq⟩
    · intro htwo
      rw [←hlength] at htwo
      simp at htwo
  | first::second::rest,hperm,hlength =>
    refine ⟨hnodup,⟨_,rfl,?_⟩,?_,?_,fun _ => ⟨rfl,rfl⟩⟩
    · rw [map_createCandidate]
      exact hperm
    · rintro rfl
      cases hlength
    · rintro other rfl
      cases hlength

variable [PyUnicode]

omit [PyUnicode] in
/-- Every match has its result. -/
theorem exists_result_of_mem (scopeId firstId : ℕ) {found : List EntityMatch}
    {one : EntityMatch} (h : one∈found) :
    ∃ id,buildResult id scopeId one.entityType one.canonicalEntityId
      one.candidates∈numberResults scopeId firstId found := by
  have hall := numberResults_forall₂ scopeId firstId found
  obtain ⟨i,hi,rfl⟩ := List.mem_iff_getElem.mp h
  have hj : i<(numberResults scopeId firstId found).length := by rwa [←hall.length_eq]
  obtain ⟨id,hid⟩ := hall.get hi hj
  exact ⟨id,hid▸List.getElem_mem hj⟩

/-- For every catalog, each canonical object with a value has a result that
reflects a scan of the catalog for the objects with this value. -/
theorem results_reflect_scan {firstId scopeId : ℕ} {entities : CanonicalScopeEntities}
    {catalog : SdwanFullCatalog} (hports : NoPortCodes catalog.services)
    {results : List MappingEntityResult}
    (h : buildResults firstId scopeId entities catalog=.ok results) :
    (∀ object∈entities.addrObjects,object.kind∈valueAddrKinds →
      ∃ result∈results,result.entityType=.addr ∧ result.canonicalEntityId=.ok object.id ∧
        Reflects (scanAddrs catalog.addrObjs object) result) ∧
    ∀ service∈entities.services,service.kind∈valueServiceKinds →
      ∃ result∈results,result.entityType=.service ∧ result.canonicalEntityId=.ok service.id ∧
        Reflects (scanServices catalog.services service) result := by
  obtain ⟨addrIndex,haddr,h⟩ := bind_eq_ok.mp h
  rw [pure_eq_ok] at h
  subst h
  constructor
  · intro object ho hkind
    have hgroup : object.kind≠.addrGroup := by
      intro he
      rw [he] at hkind
      exact absurd hkind (by decide)
    have hmatch : (⟨.addr,object.id,matchAddr addrIndex object⟩ : EntityMatch)∈
        entityMatches entities (SdwanZonesCatalogIndex.create catalog.zones) addrIndex
          (SdwanServicesCatalogIndex.create catalog.services) := by
      refine List.mem_append_left _ (List.mem_append_right _ (List.mem_map.mpr ⟨object,?_,rfl⟩))
      exact List.mem_filter.mpr ⟨ho,decide_eq_true hgroup⟩
    obtain ⟨id,hresult⟩ := exists_result_of_mem scopeId firstId hmatch
    obtain ⟨-,-,htype,hentity⟩ := buildResult_spec id scopeId object.id .addr
      (matchAddr addrIndex object)
    exact ⟨_,hresult,htype,hentity,reflects_buildResult id scopeId object.id .addr
      ((nodup_distinctBy _ _).sublist (List.filter_sublist.map _)) (matchAddr_perm haddr hkind)⟩
  · intro service hs hkind
    have hgroup : service.kind≠.serviceGroup := by
      intro he
      rw [he] at hkind
      exact absurd hkind (by decide)
    have hmatch : (⟨.service,service.id,
          matchService (SdwanServicesCatalogIndex.create catalog.services) service⟩ :
          EntityMatch)∈entityMatches entities (SdwanZonesCatalogIndex.create catalog.zones)
        addrIndex (SdwanServicesCatalogIndex.create catalog.services) := by
      refine List.mem_append_right _ (List.mem_map.mpr ⟨service,?_,rfl⟩)
      exact List.mem_filter.mpr ⟨hs,decide_eq_true hgroup⟩
    obtain ⟨id,hresult⟩ := exists_result_of_mem scopeId firstId hmatch
    obtain ⟨-,-,htype,hentity⟩ := buildResult_spec id scopeId service.id .service
      (matchService (SdwanServicesCatalogIndex.create catalog.services) service)
    exact ⟨_,hresult,htype,hentity,reflects_buildResult id scopeId service.id .service
      ((nodup_distinctBy _ _).sublist (List.filter_sublist.map _))
      (matchService_perm hports hkind)⟩

/-- A host of a sample catalog. -/
def sampleHost (id : ℤ) (name : String) : SdwanAddrObject :=
  .ofHost id [] name (.ofNat 167772161)

/-- A catalog with the same host twice, a prefix and a service. -/
def sampleCatalog : SdwanFullCatalog where
  zones := []
  services := [.ofTcp 8 "https" (443,443) []]
  addrObjs := [sampleHost 5 "pc",sampleHost 6 "pc again",
    .ofPrefix 7 [] "lan" (.ofNat 167772160 24)]
  networks := []

/-- The host, the network of the prefix written with host bits, and the service. -/
def sampleEntities : CanonicalScopeEntities where
  zones := []
  addrObjects := [⟨1,.host,"pc",[],some "10.0.0.1/32",none,none,none⟩,
    ⟨2,.subnet,"lan",[],some "10.0.0.7/24",none,none,none⟩]
  services := [⟨3,.tcp,"https",[],none,some 443,some 443,none,none⟩]

omit [PyUnicode] in
/-- Of the sample entities the host is ambiguous, the other two are matched. -/
theorem results_reflect_scan_sample :
    ∃ results,@buildResults asciiUnicode 1 1 sampleEntities sampleCatalog=.ok results ∧
      (∃ result∈results,result.entityType=.addr ∧ result.canonicalEntityId=.ok 1 ∧
        Reflects [5,6] result) ∧
      (∃ result∈results,result.entityType=.addr ∧ result.canonicalEntityId=.ok 2 ∧
        Reflects [7] result) ∧
      ∃ result∈results,result.entityType=.service ∧ result.canonicalEntityId=.ok 3 ∧
        Reflects [8] result := by
  obtain ⟨results,h,-⟩ := @buildResults_spec asciiUnicode 1 1 sampleEntities sampleCatalog
    (by decide) (by decide) (by decide)
  obtain ⟨haddrs,hservices⟩ := @results_reflect_scan asciiUnicode 1 1 sampleEntities
    sampleCatalog (fun service hs _ => by rw [List.mem_singleton.mp hs]; rfl) results h
  have hhost : @scanAddrs asciiUnicode sampleCatalog.addrObjs
      ⟨1,.host,"pc",[],some "10.0.0.1/32",none,none,none⟩=[5,6] := by decide +kernel
  have hsubnet : @scanAddrs asciiUnicode sampleCatalog.addrObjs
      ⟨2,.subnet,"lan",[],some "10.0.0.7/24",none,none,none⟩=[7] := by decide +kernel
  have hservice : scanServices sampleCatalog.services
      ⟨3,.tcp,"https",[],none,some 443,some 443,none,none⟩=[8] := by decide +kernel
  refine ⟨results,h,?_,?_,?_⟩
  · rw [←hhost]
    exact haddrs _ List.mem_cons_self (by decide)
  · rw [←hsubnet]
    exact haddrs _ (List.mem_cons_of_mem _ List.mem_cons_self) (by decide)
  · rw [←hservice]
    exact hservices _ List.mem_cons_self (by decide)

end Results

end NspMigrator.MappingScan
