import Mathlib
import NspMigrator.MappingScan
import NspMigrator.MappingUseCases
import NspMigrator.SdwanCatalogReading

/-!
# Reading created objects back

An object created for a canonical one is stored with the record it was sent
as. Read back and matched again, services, hosts, networks and domain names are
found. A range is sent under another name than it is read by, so a controller
that keeps one cannot be read at all.
-/

namespace NspMigrator.MappingCreateRoundTrip

open PyDict PyExcept PyText Ipv4 Ipv4Text SdwanModels SdwanSchemas SdwanCatalogReading
open ExecuteRepository MappingEntities MappingSchemas MappingUseCases MappingCatalogIndexes
open MappingObjects MappingScan

/-- The request for an address object. -/
def createAddrObjectRequestData (payload : CreateAddrObjectPayload) :
    Except PyException CreateAddrObjectRequestData :=
  match payload.type,payload.prefixNet,payload.host,payload.fqdn,payload.ipRangeFrom,
    payload.ipRangeTo with
  | .prefixNet,some net,_,_,_,_ => .ok (.prefixNet net false)
  | .prefixNet,none,_,_,_,_ =>
    .error ⟨"ValueError","prefix must be provided for prefix type"⟩
  | .host,_,some host,_,_,_ => .ok (.host host false)
  | .host,_,none,_,_,_ => .error ⟨"ValueError","host must be provided for host type"⟩
  | .fqdn,_,_,some fqdn,_,_ => .ok (.fqdn fqdn false)
  | .fqdn,_,_,none,_,_ => .error ⟨"ValueError","fqdn must be provided for fqdn type"⟩
  | .ipRange,_,_,_,some start,some stop => .ok (.ipRange start stop false)
  | .ipRange,_,_,_,_,_ => .error ⟨"ValueError",
      "ip_range_from and ip_range_to must be provided for ip_range type"⟩

/-- The record sent to create an object for a canonical address object. -/
def addrObjectRecord (object : CanonicalAddrObject) : Except PyException JsonFields :=
  match addrObjectTypeMap object.kind with
  | none => .error ⟨"ValueError",
      "Addr object kind \x60"++object.kind.value++"\x60 not supported for auto-creation"⟩
  | some type => do
    let payload ← createAddrObjectPayload type object
    let request ← createAddrObjectRequestData payload
    return request.modelDump

/-- The request for a service. -/
def serviceCreateRequest (payload : CreateServicePayload) : Except PyException ServiceData := do
  let range ← ServicePortRange.create payload.portStart payload.portEnd
  ServiceData.create payload.name payload.l4Proto (some [range]) none

/-- The record sent to create a service for a canonical one. -/
def serviceRecord (service : CanonicalService) : Except PyException JsonFields := do
  let payload ← createServicePayload service
  let request ← serviceCreateRequest payload
  return request.modelDump

/-- The stored address object: what it was sent as, and what a controller keeps
itself, its name and, for domain names, what they resolve to. -/
def storedAddrObject (id : ℤ) (name : String) (status : JsonValue) (ips : List String)
    (record : JsonFields) : StoredAddrObject where
  id := id
  parents := []
  name := name
  data := record++match field? record "type" with
    | some (.str "fqdn") => [("status",status),("ips",.arr (ips.map JsonValue.str))]
    | _ => []

section Records

/-- A host is read as it was sent. -/
theorem modelValidate_host (id : ℤ) (name : String) (status : JsonValue) (ips : List String)
    (host : String) (raw : Bool) :
    (storedAddrObject id name status ips (CreateAddrObjectRequestData.host host raw).modelDump
      ).modelValidate=.ok ⟨id,[],name,.host host raw⟩ := by
  rfl

/-- A network is read as it was sent. -/
theorem modelValidate_prefixNet (id : ℤ) (name : String) (status : JsonValue)
    (ips : List String) (net : String) (raw : Bool) :
    (storedAddrObject id name status ips (CreateAddrObjectRequestData.prefixNet net raw).modelDump
      ).modelValidate=.ok ⟨id,[],name,.prefixNet net raw⟩ := by
  rfl

/-- The lower end of a range is not found under the name it is read by. -/
theorem modelValidate_ipRange (id : ℤ) (name : String) (status : JsonValue)
    (ips : List String) (start stop : String) (raw : Bool) :
    (storedAddrObject id name status ips
      (CreateAddrObjectRequestData.ipRange start stop raw).modelDump).modelValidate=
      .error (validationError "from" "Field required") := by
  rfl

theorem mapM_str? (texts : List String) :
    texts.mapM (JsonValue.str? ∘ JsonValue.str)=some texts := by
  induction texts with
  | nil => rfl
  | cons text texts ih =>
    rw [List.mapM_cons,ih]
    rfl

/-- A domain name is read as it was sent. -/
theorem modelValidate_fqdn (id : ℤ) (name : String) (status : JsonValue) (ips : List String)
    (fqdn : String) (raw : Bool) :
    (storedAddrObject id name status ips (CreateAddrObjectRequestData.fqdn fqdn raw).modelDump
      ).modelValidate=.ok ⟨id,[],name,.fqdn fqdn ips⟩ := by
  have hips : requiredStrs [("ips",.arr (ips.map JsonValue.str))] "ips"=.ok ips := by
    simp [required,field?,JsonValue.strs?,mapM_str?]
  have hdata : AddrObjectDataResponse.modelValidate
      ((CreateAddrObjectRequestData.fqdn fqdn raw).modelDump++
        [("status",status),("ips",.arr (ips.map JsonValue.str))])=
      (requiredStrs [("ips",.arr (ips.map JsonValue.str))] "ips"
        >>= fun ips => pure (.fqdn fqdn ips)) := rfl
  rw [hips] at hdata
  exact bind_eq_ok.mpr ⟨_,hdata,rfl⟩

/-- A payload has the values of its object. -/
theorem createAddrObjectPayload_eq_ok {type : CreatedAddrObjectType}
    {object : CanonicalAddrObject} {payload : CreateAddrObjectPayload}
    (h : createAddrObjectPayload type object=.ok payload) :
    payload.type=type ∧ payload.prefixNet=object.cidr ∧
      payload.host=(if object.cidr.getD ""="" then none else object.cidr.map (firstPart '/')) ∧
      payload.fqdn=object.fqdn ∧ payload.ipRangeFrom=object.rangeStart ∧
      payload.ipRangeTo=object.rangeEnd := by
  unfold createAddrObjectPayload at h
  dsimp only at h
  generalize (if object.cidr.getD ""="" then none else object.cidr.map (firstPart '/'))=host at h ⊢
  split at h
  · split at h
    · split at h
      · split at h
        · cases h
          exact ⟨rfl,rfl,rfl,rfl,rfl,rfl⟩
        · cases h
      · cases h
    · cases h
  · cases h

/-- What is sent for an address object, by its kind. -/
theorem addrObjectRecord_eq_ok {object : CanonicalAddrObject} {record : JsonFields}
    (h : addrObjectRecord object=.ok record) :
    (object.kind=.host ∧ ∃ cidr,object.cidr=some cidr ∧ cidr≠"" ∧
      record=(CreateAddrObjectRequestData.host (firstPart '/' cidr) false).modelDump) ∨
    (object.kind=.subnet ∧ ∃ cidr,object.cidr=some cidr ∧
      record=(CreateAddrObjectRequestData.prefixNet cidr false).modelDump) ∨
    (object.kind=.fqdn ∧ ∃ fqdn,object.fqdn=some fqdn ∧
      record=(CreateAddrObjectRequestData.fqdn fqdn false).modelDump) ∨
    (object.kind=.range ∧ ∃ start stop,object.rangeStart=some start ∧
      object.rangeEnd=some stop ∧
      record=(CreateAddrObjectRequestData.ipRange start stop false).modelDump) := by
  unfold addrObjectRecord at h
  split at h
  · cases h
  next type htype =>
  obtain ⟨payload,hpayload,h⟩ := bind_eq_ok.mp h
  obtain ⟨request,hrequest,h⟩ := bind_eq_ok.mp h
  obtain rfl := pure_eq_ok.mp h
  obtain ⟨hpayloadType,hprefixNet,hhost,hfqdn,hstart,hstop⟩ :=
    createAddrObjectPayload_eq_ok hpayload
  cases hkind : object.kind with
  | host =>
    rw [hkind] at htype
    cases htype
    have hset := payload.host_set hpayloadType
    rw [hhost] at hset
    cases hcidr : object.cidr with
    | none => simp [hcidr] at hset
    | some cidr =>
      have hne : cidr≠"" := by
        rintro rfl
        simp [hcidr] at hset
      rw [hcidr,Option.getD_some,if_neg hne] at hhost
      simp only [createAddrObjectRequestData,hpayloadType,hhost,Option.map_some] at hrequest
      cases hrequest
      exact Or.inl ⟨rfl,cidr,rfl,hne,rfl⟩
  | subnet =>
    rw [hkind] at htype
    cases htype
    obtain ⟨cidr,hcidr⟩ := Option.isSome_iff_exists.mp (payload.prefix_set hpayloadType)
    simp only [createAddrObjectRequestData,hpayloadType,hcidr] at hrequest
    cases hrequest
    exact Or.inr (Or.inl ⟨rfl,cidr,hprefixNet.symm.trans hcidr,rfl⟩)
  | fqdn =>
    rw [hkind] at htype
    cases htype
    obtain ⟨fqdn,hsome⟩ := Option.isSome_iff_exists.mp (payload.fqdn_set hpayloadType)
    simp only [createAddrObjectRequestData,hpayloadType,hsome] at hrequest
    cases hrequest
    exact Or.inr (Or.inr (Or.inl ⟨rfl,fqdn,hfqdn.symm.trans hsome,rfl⟩))
  | range =>
    rw [hkind] at htype
    cases htype
    obtain ⟨hfrom,hto⟩ := payload.range_set hpayloadType
    obtain ⟨start,hsome⟩ := Option.isSome_iff_exists.mp hfrom
    obtain ⟨stop,hsome'⟩ := Option.isSome_iff_exists.mp hto
    simp only [createAddrObjectRequestData,hpayloadType,hsome,hsome'] at hrequest
    cases hrequest
    exact Or.inr (Or.inr (Or.inr ⟨rfl,start,stop,hstart.symm.trans hsome,
      hstop.symm.trans hsome',rfl⟩))
  | anyAddr | unresolvedAddr | addrGroup =>
    rw [hkind] at htype
    cases htype

end Records

section Addresses

variable [PyUnicode]

/-- An object stored for an address object is found again: the catalog can be
read, and the object is a candidate for the one it was created for. -/
def AddrFoundAgain (server : SdwanServer) (before after : List StoredAddrObject)
    (record : StoredAddrObject) (object : CanonicalAddrObject) : Prop :=
  ∃ catalog,getSdwanFullCatalog (server.storing before after record)=.ok catalog ∧
    ∃ index,SdwanAddrObjsCatalogIndex.create catalog.addrObjs=.ok index ∧
      record.id∈(matchAddr index object).map (·.sdwanEntityId)

/-- Address objects that are found again once created: the value can be parsed,
networks have no host bits, names are not empty, and ranges never are. -/
def RoundTrips (object : CanonicalAddrObject) : Prop :=
  match object.kind with
  | .host => (parseAddress (firstPart '/' (object.cidr.getD ""))).isSome=true
  | .subnet => (parseStrictNetwork (object.cidr.getD "")).isSome=true
  | .fqdn => object.fqdn≠some ""
  | .range => False
  | _ => True

/-- The object that alone has a number is a candidate where it has the value. -/
theorem mem_matchAddr_iff {addrObjs : List SdwanAddrObject} {index : SdwanAddrObjsCatalogIndex}
    (hindex : SdwanAddrObjsCatalogIndex.create addrObjs=.ok index)
    {object : CanonicalAddrObject} (hkind : object.kind∈valueAddrKinds)
    {created : SdwanAddrObject} (hcreated : created∈addrObjs)
    (hunique : ∀ addr∈addrObjs,addr.id=created.id → addr=created) :
    created.id∈(matchAddr index object).map (·.sdwanEntityId) ↔
      addrEquals object created=true := by
  rw [(matchAddr_perm hindex hkind).mem_iff,scanAddrs,List.mem_map]
  constructor
  · rintro ⟨addr,haddr,hid⟩
    obtain ⟨hmem,hequals⟩ := List.mem_filter.mp haddr
    rwa [←hunique addr (mem_of_mem_distinctBy hmem) hid]
  · intro hequals
    obtain ⟨addr,haddr,hid⟩ := exists_mem_distinctBy (·.id) hcreated
    have hsame := hunique addr (mem_of_mem_distinctBy haddr) hid
    exact ⟨addr,List.mem_filter.mpr ⟨haddr,by rw [hsame]; exact hequals⟩,hid⟩

variable {server : SdwanServer} {before after : List StoredAddrObject}
  {record : StoredAddrObject} {object : CanonicalAddrObject}

omit [PyUnicode] in
/-- A catalog that could be read is read again as far as its address objects are. -/
theorem getSdwanFullCatalog_storing (hold : ∃ catalog,getSdwanFullCatalog server=.ok catalog)
    {p : List SdwanAddrObject → Prop} :
    (∃ catalog,getSdwanFullCatalog (server.storing before after record)=.ok catalog ∧
      p catalog.addrObjs) ↔
    ∃ addrObjs,getAddrObjects (server.storing before after record)=.ok addrObjs ∧
      p addrObjs := by
  obtain ⟨catalog,hcatalog⟩ := hold
  obtain ⟨services,hservices,hrest⟩ := bind_eq_ok.mp hcatalog
  obtain ⟨oldObjs,-,hrest⟩ := bind_eq_ok.mp hrest
  obtain ⟨networks,hnetworks,-⟩ := bind_eq_ok.mp hrest
  constructor
  · rintro ⟨catalog',hread,hp⟩
    obtain ⟨_,-,hread⟩ := bind_eq_ok.mp hread
    obtain ⟨addrObjs,haddr,hread⟩ := bind_eq_ok.mp hread
    obtain ⟨_,-,hread⟩ := bind_eq_ok.mp hread
    obtain rfl := pure_eq_ok.mp hread
    exact ⟨addrObjs,haddr,hp⟩
  · rintro ⟨addrObjs,haddr,hp⟩
    exact ⟨⟨server.zones,services,addrObjs,networks⟩,bind_eq_ok.mpr ⟨services,hservices,
      bind_eq_ok.mpr ⟨addrObjs,haddr,bind_eq_ok.mpr ⟨networks,hnetworks,rfl⟩⟩⟩,hp⟩

/-- A record that validates is found again exactly where it converts to an
object with the value. -/
theorem addrFoundAgain_iff (hold : ∃ catalog,getSdwanFullCatalog server=.ok catalog)
    (hserver : server.addrObjects=before++after) (hparents : record.parents=[])
    (hfresh : ∀ stored∈before++after,stored.id≠record.id)
    (hkind : object.kind∈valueAddrKinds) {response : AddrObjectResponse}
    (hvalid : record.modelValidate=.ok response) (hnetwork : networkIdOf response=none)
    (hgroup : isGroup response=false) :
    AddrFoundAgain server before after record object ↔
      ∃ created,toSdwanAddrObject .empty response=.ok (some created) ∧
        addrEquals object created=true := by
  rw [AddrFoundAgain,getSdwanFullCatalog_storing hold (p:=fun addrObjs =>
    ∃ index,SdwanAddrObjsCatalogIndex.create addrObjs=.ok index ∧
      record.id∈(matchAddr index object).map (·.sdwanEntityId))]
  have hfound : ∀ addrObjs,getAddrObjects (server.storing before after record)=.ok addrObjs →
      ∃ created,toSdwanAddrObject .empty response=.ok (some created) ∧ created∈addrObjs ∧
        created.id=record.id ∧ ∀ addr∈addrObjs,addr.id=created.id → addr=created := by
    intro addrObjs hread
    obtain ⟨other,hother,hcreated⟩ :=
      getAddrObjects_storing_created hserver hparents hfresh hread
    rw [hvalid] at hother
    cases hother
    obtain ⟨created,hconverts,hmem,hunique⟩ := hcreated hnetwork hgroup
    have hid := (toSdwanAddrObject_id hconverts).trans (modelValidate_id hvalid).1
    exact ⟨created,hconverts,hmem,hid,by rw [hid]; exact hunique⟩
  constructor
  · rintro ⟨addrObjs,hread,index,hindex,hmatch⟩
    obtain ⟨created,hconverts,hmem,hid,hunique⟩ := hfound addrObjs hread
    rw [←hid,mem_matchAddr_iff hindex hkind hmem hunique] at hmatch
    exact ⟨created,hconverts,hmatch⟩
  · rintro ⟨created,hconverts,hequals⟩
    obtain ⟨catalog,hcatalog⟩ := hold
    obtain ⟨_,-,hrest⟩ := bind_eq_ok.mp hcatalog
    obtain ⟨oldObjs,holdObjs,-⟩ := bind_eq_ok.mp hrest
    obtain ⟨addrObjs,hread⟩ := getAddrObjects_storing hserver hparents hfresh holdObjs hvalid
      hnetwork hgroup hconverts
    obtain ⟨other,hother,hmem,hid,hunique⟩ := hfound addrObjs hread
    rw [hconverts] at hother
    cases hother
    obtain ⟨index,hindex⟩ := exists_addrIndex addrObjs
    refine ⟨addrObjs,hread,index,hindex,?_⟩
    rw [←hid]
    exact (mem_matchAddr_iff hindex hkind hmem hunique).mpr hequals

/-- An object created for an address object is found again exactly where it
round trips. -/
theorem addrFoundAgain_iff_roundTrips
    (hold : ∃ catalog,getSdwanFullCatalog server=.ok catalog)
    (hserver : server.addrObjects=before++after) {data : JsonFields}
    (hdata : addrObjectRecord object=.ok data) {id : ℤ}
    (hfresh : ∀ stored∈before++after,stored.id≠id) (name : String) (status : JsonValue)
    (ips : List String) :
    AddrFoundAgain server before after (storedAddrObject id name status ips data) object ↔
      RoundTrips object := by
  unfold RoundTrips
  rcases addrObjectRecord_eq_ok hdata with ⟨hkind,cidr,hcidr,hne,rfl⟩|⟨hkind,cidr,hcidr,rfl⟩|
    ⟨hkind,fqdn,hfqdn,rfl⟩|⟨hkind,start,stop,hstart,hstop,rfl⟩
  · rw [addrFoundAgain_iff hold hserver rfl hfresh (by rw [hkind]; decide)
      (modelValidate_host id name status ips _ false) rfl rfl]
    simp only [hkind,hcidr,Option.getD_some,toSdwanAddrObject,ipv4Address]
    cases hparse : parseAddress (firstPart '/' cidr) with
    | none =>
      constructor
      · rintro ⟨created,hcreated,-⟩
        cases hcreated
      · intro h
        cases h
    | some host =>
      refine ⟨fun _ => rfl,fun _ => ⟨_,rfl,?_⟩⟩
      simp [addrEquals,hkind,hcidr,hparse,SdwanAddrObject.ofHost]
  · rw [addrFoundAgain_iff hold hserver rfl hfresh (by rw [hkind]; decide)
      (modelValidate_prefixNet id name status ips _ false) rfl rfl]
    simp only [hkind,hcidr,Option.getD_some,toSdwanAddrObject,ipv4Network]
    cases hparse : parseStrictNetwork cidr with
    | none =>
      constructor
      · rintro ⟨created,hcreated,-⟩
        cases hcreated
      · intro h
        cases h
    | some net =>
      refine ⟨fun _ => rfl,fun _ => ⟨_,rfl,?_⟩⟩
      simp [addrEquals,hkind,hcidr,parseNetwork_of_strict hparse,SdwanAddrObject.ofPrefix]
  · rw [addrFoundAgain_iff hold hserver rfl hfresh (by rw [hkind]; decide)
      (modelValidate_fqdn id name status ips _ false) rfl rfl]
    simp only [hkind,hfqdn]
    constructor
    · rintro ⟨created,hcreated,hequals⟩ hempty
      simp only [addrEquals,hkind,hfqdn,Option.getD_some,decide_eq_true_eq] at hequals
      exact hequals.1 (Option.some.inj hempty)
    · intro hne
      have hnonempty : fqdn≠"" := fun hempty => hne (congrArg some hempty)
      refine ⟨_,rfl,?_⟩
      simp [addrEquals,hkind,hfqdn,hnonempty,SdwanAddrObject.ofFqdn]
  · simp only [hkind,iff_false]
    rintro ⟨catalog,hcatalog,-⟩
    obtain ⟨_,-,hrest⟩ := bind_eq_ok.mp hcatalog
    obtain ⟨addrObjs,hread,-⟩ := bind_eq_ok.mp hrest
    have hparents : (storedAddrObject id name status ips
        (CreateAddrObjectRequestData.ipRange start stop false).modelDump).parents=[] := rfl
    obtain ⟨response,hvalid,-⟩ := getAddrObjects_storing_created hserver hparents hfresh hread
    rw [modelValidate_ipRange] at hvalid
    cases hvalid

end Addresses

section Services

/-- The server once it stores a service among its own. -/
def storingService (server : SdwanServer) (before after : List StoredService)
    (stored : StoredService) : SdwanServer :=
  { server with services := before++stored::after }

/-- A service stored for a canonical one is found again. -/
def ServiceFoundAgain [PyUnicode] (server : SdwanServer) (before after : List StoredService)
    (stored : StoredService) (service : CanonicalService) : Prop :=
  ∃ catalog,getSdwanFullCatalog (storingService server before after stored)=.ok catalog ∧
    stored.id∈(matchService (SdwanServicesCatalogIndex.create catalog.services) service).map
      (·.sdwanEntityId)

/-- A created range has the given ends. -/
theorem portRange_create_eq_ok {start stop : ℤ} {range : ServicePortRange}
    (h : ServicePortRange.create start stop=.ok range) : range.start=start ∧ range.stop=stop := by
  unfold ServicePortRange.create at h
  split at h
  · split at h
    · split at h
      · cases h
        exact ⟨rfl,rfl⟩
      · cases h
    · cases h
  · cases h

/-- A payload has the name, the protocol and the ports of its service. -/
theorem createServicePayload_eq_ok {service : CanonicalService} {payload : CreateServicePayload}
    (h : createServicePayload service=.ok payload) :
    payload.name=service.name ∧
      (service.kind=.tcp ∧ payload.l4Proto=.tcp ∨ service.kind=.udp ∧ payload.l4Proto=.udp) ∧
      service.portFrom=some payload.portStart ∧ service.portTo=some payload.portEnd := by
  unfold createServicePayload at h
  split at h
  · next hkind =>
    split at h
    · next portFrom portTo hfrom hto =>
      cases h
      refine ⟨rfl,?_,hfrom,hto⟩
      rcases hkind with htcp|hudp
      · exact Or.inl ⟨htcp,if_pos htcp⟩
      · exact Or.inr ⟨hudp,if_neg (by rw [hudp]; decide)⟩
    · cases h
  · cases h

/-- What is sent for a service: its name, its protocol and its one range. -/
theorem serviceRecord_eq_ok {service : CanonicalService} {fields : JsonFields}
    (h : serviceRecord service=.ok fields) :
    ∃ (portFrom portTo : ℕ) (range : ServicePortRange) (l4Proto : SdwanServiceL4Proto),
      service.portFrom=some portFrom ∧ service.portTo=some portTo ∧ range.start=portFrom ∧
      range.stop=portTo ∧ (service.kind=.tcp ∧ l4Proto=.tcp ∨ service.kind=.udp ∧ l4Proto=.udp) ∧
      fields=(⟨service.name,l4Proto,some [range],none⟩ : ServiceData).modelDump := by
  obtain ⟨payload,hpayload,h⟩ := bind_eq_ok.mp h
  obtain ⟨request,hrequest,h⟩ := bind_eq_ok.mp h
  obtain rfl := pure_eq_ok.mp h
  obtain ⟨range,hrange,hcreate⟩ := bind_eq_ok.mp hrequest
  obtain ⟨-,-,hcreate⟩ := bind_eq_ok.mp hcreate
  obtain rfl := pure_eq_ok.mp hcreate
  obtain ⟨hname,hkind,hfrom,hto⟩ := createServicePayload_eq_ok hpayload
  obtain ⟨hstart,hstop⟩ := portRange_create_eq_ok hrange
  exact ⟨_,_,range,_,hfrom,hto,hstart,hstop,hkind,by rw [hname]⟩

/-- A range of ports is read as it was sent. -/
theorem modelValidate_portRange (range : ServicePortRange) :
    ServicePortRange.modelValidate range.modelDump=.ok range := by
  have hcreate : ServicePortRange.create range.start range.stop=.ok range := by
    have hstart : 0≤ range.start ∧ range.start≤65535 :=
      ⟨range.start_nonneg,range.start_le.trans range.stop_le⟩
    have hstop : 0≤ range.stop ∧ range.stop≤65535 :=
      ⟨range.start_nonneg.trans range.start_le,range.stop_le⟩
    rw [ServicePortRange.create,dif_pos hstart,dif_pos hstop,dif_pos range.start_le]
  exact hcreate

/-- A port service is read as it was sent. -/
theorem modelValidate_service (name : String) {l4Proto : SdwanServiceL4Proto}
    (hproto : l4Proto=.tcp ∨ l4Proto=.udp) (range : ServicePortRange) :
    ServiceData.modelValidate (⟨name,l4Proto,some [range],none⟩ : ServiceData).modelDump=
      .ok ⟨name,l4Proto,some [range],none⟩ := by
  have hranges : [range.modelDump].mapM ServicePortRange.modelValidate=.ok [range] := by
    rw [List.mapM_cons,modelValidate_portRange]
    rfl
  rcases hproto with rfl|rfl
  · have hdata : ServiceData.modelValidate
        (⟨name,.tcp,some [range],none⟩ : ServiceData).modelDump=
        ((some <$> [range.modelDump].mapM ServicePortRange.modelValidate) >>= fun ranges =>
          ServiceData.create name .tcp ranges none) := rfl
    rw [hdata,hranges]
    rfl
  · have hdata : ServiceData.modelValidate
        (⟨name,.udp,some [range],none⟩ : ServiceData).modelDump=
        ((some <$> [range.modelDump].mapM ServicePortRange.modelValidate) >>= fun ranges =>
          ServiceData.create name .udp ranges none) := rfl
    rw [hdata,hranges]
    rfl

/-- A read service is a stored one, validated and converted. -/
theorem mem_getServices {server : SdwanServer} {services : List SdwanService}
    (h : getServices server=.ok services) {service : SdwanService} (hservice : service∈services) :
    ∃ stored∈server.services,∃ data,ServiceData.modelValidate stored.fields=.ok data ∧
      toSdwanService stored.id data=.ok service := by
  obtain ⟨fetched,hfetched,hconverted⟩ := bind_eq_ok.mp h
  obtain ⟨pair,hpair,hconverts⟩ := exists_of_mem_mapM hconverted hservice
  obtain ⟨stored,hstored,hvalid⟩ := exists_of_mem_mapM (mapError_eq_ok.mp hfetched) hpair
  obtain ⟨data,hdata,hreturn⟩ := bind_eq_ok.mp hvalid
  obtain rfl := pure_eq_ok.mp hreturn
  exact ⟨stored,hstored,data,hdata,hconverts⟩

/-- Every stored service of a catalog that is read validates and converts. -/
theorem exists_of_mem_services {server : SdwanServer} {services : List SdwanService}
    (h : getServices server=.ok services) {stored : StoredService}
    (hstored : stored∈server.services) :
    ∃ data service,ServiceData.modelValidate stored.fields=.ok data ∧
      toSdwanService stored.id data=.ok service ∧ service∈services := by
  obtain ⟨fetched,hfetched,hconverted⟩ := bind_eq_ok.mp h
  obtain ⟨pair,hpair,hvalid⟩ := exists_of_mapM_eq_ok (mapError_eq_ok.mp hfetched) hstored
  obtain ⟨data,hdata,hreturn⟩ := bind_eq_ok.mp hvalid
  obtain rfl := pure_eq_ok.mp hreturn
  obtain ⟨service,hservice,hconverts⟩ := exists_of_mapM_eq_ok hconverted hpair
  exact ⟨data,service,hdata,hconverts,hservice⟩

/-- Services are read where each validates and converts. -/
theorem exists_getServices {server : SdwanServer}
    (h : ∀ stored∈server.services,∃ data service,
      ServiceData.modelValidate stored.fields=.ok data ∧
        toSdwanService stored.id data=.ok service) :
    ∃ services,getServices server=.ok services := by
  obtain ⟨fetched,hfetched⟩ : ∃ fetched,(server.services.mapM fun service : StoredService => do
      return (service.id,← ServiceData.modelValidate service.fields))=.ok fetched := by
    refine exists_mapM_eq_ok fun stored hstored => ?_
    obtain ⟨data,-,hdata,-⟩ := h stored hstored
    exact ⟨_,bind_eq_ok.mpr ⟨data,hdata,rfl⟩⟩
  obtain ⟨services,hservices⟩ : ∃ services,
      fetched.mapM (fun pair => toSdwanService pair.1 pair.2)=.ok services := by
    refine exists_mapM_eq_ok fun pair hpair => ?_
    obtain ⟨stored,hstored,hvalid⟩ := exists_of_mem_mapM hfetched hpair
    obtain ⟨data,hdata,hreturn⟩ := bind_eq_ok.mp hvalid
    obtain rfl := pure_eq_ok.mp hreturn
    obtain ⟨data',service,hdata',hconverts⟩ := h stored hstored
    rw [hdata] at hdata'
    cases hdata'
    exact ⟨service,hconverts⟩
  exact ⟨services,bind_eq_ok.mpr ⟨fetched,mapError_eq_ok.mpr hfetched,hservices⟩⟩

/-- A converted service has the values of its response. -/
theorem toSdwanService_eq_ok {id : ℤ} {data : ServiceData} {service : SdwanService}
    (h : toSdwanService id data=.ok service) :
    service.id=id ∧ service.l4Proto=data.l4Proto ∧
      service.ranges=data.ranges.map (fun ranges => ranges.map fun range =>
        (range.start,range.stop)) ∧ service.codes=data.codes := by
  unfold toSdwanService at h
  dsimp only at h
  split at h
  · split at h
    · cases h
      exact ⟨rfl,rfl,rfl,rfl⟩
    · cases h
  · cases h

/-- Validated port services carry no ICMP codes. -/
theorem noPortCodes_getServices {server : SdwanServer} {services : List SdwanService}
    (h : getServices server=.ok services) : NoPortCodes services := by
  intro service hservice hproto
  obtain ⟨stored,-,data,hdata,hconverts⟩ := mem_getServices h hservice
  obtain ⟨-,hl4Proto,-,hcodes⟩ := toSdwanService_eq_ok hconverts
  obtain ⟨name,-,hdata⟩ := bind_eq_ok.mp hdata
  obtain ⟨l4Proto,-,hdata⟩ := bind_eq_ok.mp hdata
  obtain ⟨items,-,hdata⟩ := bind_eq_ok.mp hdata
  obtain ⟨ranges,-,hdata⟩ := bind_eq_ok.mp hdata
  obtain ⟨codes,-,hdata⟩ := bind_eq_ok.mp hdata
  obtain ⟨_,hvalid,hdata⟩ := bind_eq_ok.mp hdata
  obtain rfl := pure_eq_ok.mp hdata
  have hl4Proto' : service.l4Proto=l4Proto := hl4Proto
  rw [hl4Proto'] at hproto
  rw [validateProtoSpecificFields,if_pos hproto] at hvalid
  rw [hcodes]
  cases codes with
  | none => rfl
  | some codes => cases hvalid

/-- A service created for a canonical one is always found again. -/
theorem serviceFoundAgain [PyUnicode] {server : SdwanServer}
    (hold : ∃ catalog,getSdwanFullCatalog server=.ok catalog) {before after : List StoredService}
    (hserver : server.services=before++after) {service : CanonicalService} {fields : JsonFields}
    (hfields : serviceRecord service=.ok fields) {id : ℤ}
    (hfresh : ∀ stored∈before++after,stored.id≠id) :
    ServiceFoundAgain server before after ⟨id,fields⟩ service := by
  obtain ⟨portFrom,portTo,range,l4Proto,hfrom,hto,hstart,hstop,hkind,rfl⟩ :=
    serviceRecord_eq_ok hfields
  have hproto : l4Proto=.tcp ∨ l4Proto=.udp := hkind.imp And.right And.right
  have hvalid := modelValidate_service service.name hproto range
  obtain ⟨created,hcreated⟩ : ∃ created,toSdwanService id
      ⟨service.name,l4Proto,some [range],none⟩=.ok created := by
    have hnotIcmp : l4Proto≠.icmp := by
      rcases hproto with rfl|rfl
      · decide
      · decide
    unfold toSdwanService
    rw [dif_pos (fun _ => by simp),dif_pos (fun h => absurd h hnotIcmp)]
    exact ⟨_,rfl⟩
  obtain ⟨hid,hl4Proto,hranges,-⟩ := toSdwanService_eq_ok hcreated
  obtain ⟨catalog,hcatalog⟩ := hold
  obtain ⟨oldServices,holdServices,hrest⟩ := bind_eq_ok.mp hcatalog
  obtain ⟨addrObjs,haddr,hrest⟩ := bind_eq_ok.mp hrest
  obtain ⟨networks,hnetworks,-⟩ := bind_eq_ok.mp hrest
  have hstored : ∀ stored,stored∈(storingService server before after
      ⟨id,(⟨service.name,l4Proto,some [range],none⟩ : ServiceData).modelDump⟩).services ↔
      stored=⟨id,(⟨service.name,l4Proto,some [range],none⟩ : ServiceData).modelDump⟩ ∨
        stored∈before++after := by
    intro stored
    simp only [storingService,List.mem_append,List.mem_cons]
    tauto
  obtain ⟨services,hservices⟩ : ∃ services,getServices (storingService server before after
      ⟨id,(⟨service.name,l4Proto,some [range],none⟩ : ServiceData).modelDump⟩)=.ok services := by
    refine exists_getServices fun stored hmem => ?_
    rcases (hstored stored).mp hmem with rfl|hmem
    · exact ⟨_,created,hvalid,hcreated⟩
    · obtain ⟨data,old,hdata,hconverts,-⟩ := exists_of_mem_services holdServices (hserver▸hmem)
      exact ⟨data,old,hdata,hconverts⟩
  obtain ⟨data,found,hdata,hconverts,hfound⟩ :=
    exists_of_mem_services hservices ((hstored _).mpr (Or.inl rfl))
  rw [hvalid] at hdata
  cases hdata
  rw [hcreated] at hconverts
  cases hconverts
  -- no other service has the number of the created one
  have hunique : ∀ other∈services,other.id=id → other=created := by
    intro other hother hsame
    obtain ⟨stored,hmem,data,hdata,hconverts⟩ := mem_getServices hservices hother
    rcases (hstored stored).mp hmem with rfl|hmem
    · rw [hvalid] at hdata
      cases hdata
      rw [hcreated] at hconverts
      exact (Except.ok.inj hconverts).symm
    · exact absurd ((toSdwanService_eq_ok hconverts).1.symm.trans hsame) (hfresh stored hmem)
  refine ⟨⟨server.zones,services,addrObjs,networks⟩,?_,?_⟩
  · exact bind_eq_ok.mpr ⟨services,hservices,bind_eq_ok.mpr ⟨addrObjs,haddr,
      bind_eq_ok.mpr ⟨networks,hnetworks,rfl⟩⟩⟩
  · have hvalue : service.kind∈valueServiceKinds := by
      rcases hkind with ⟨hkind,-⟩|⟨hkind,-⟩
      · rw [hkind]
        decide
      · rw [hkind]
        decide
    rw [(matchService_perm (noPortCodes_getServices hservices) hvalue).mem_iff,scanServices,
      List.mem_map]
    obtain ⟨other,hother,hsame⟩ := exists_mem_distinctBy (·.id) hfound
    rw [hunique other (mem_of_mem_distinctBy hother) (hsame.trans hid)] at hother
    refine ⟨created,List.mem_filter.mpr ⟨hother,?_⟩,hid⟩
    have hportRanges : created.ranges=some [((portFrom : ℤ),(portTo : ℤ))] := by
      rw [hranges]
      simp [hstart,hstop]
    rcases hkind with ⟨hkind,rfl⟩|⟨hkind,rfl⟩
    · simp [serviceEquals,hkind,hfrom,hto,hl4Proto,hportRanges]
    · simp [serviceEquals,hkind,hfrom,hto,hl4Proto,hportRanges]

end Services

/-- What is created for a canonical object is found again when the catalog is
read back: every TCP and UDP service is, and address objects are exactly where
they round trip. -/
theorem foundAgain_iff [PyUnicode] {server : SdwanServer}
    (hold : ∃ catalog,getSdwanFullCatalog server=.ok catalog) :
    (∀ (before after : List StoredAddrObject),server.addrObjects=before++after →
      ∀ (object : CanonicalAddrObject) (record : JsonFields),addrObjectRecord object=.ok record →
      ∀ id : ℤ,(∀ stored∈before++after,stored.id≠id) →
      ∀ (name : String) (status : JsonValue) (ips : List String),
        (AddrFoundAgain server before after (storedAddrObject id name status ips record) object ↔
          RoundTrips object)) ∧
    ∀ (before after : List StoredService),server.services=before++after →
      ∀ (service : CanonicalService) (record : JsonFields),serviceRecord service=.ok record →
      ∀ id : ℤ,(∀ stored∈before++after,stored.id≠id) →
        ServiceFoundAgain server before after ⟨id,record⟩ service :=
  ⟨fun _ _ hserver _ _ hrecord _ hfresh name status ips =>
    addrFoundAgain_iff_roundTrips hold hserver hrecord hfresh name status ips,
    fun _ _ hserver _ _ hrecord _ hfresh => serviceFoundAgain hold hserver hrecord hfresh⟩

/-- A controller without objects. -/
def emptyServer : SdwanServer := ⟨[],[],[],[]⟩

theorem emptyServer_read : ∃ catalog,getSdwanFullCatalog emptyServer=.ok catalog := ⟨_,rfl⟩

/-- A range of addresses of a branch. -/
def branchRange : CanonicalAddrObject where
  id := 1
  kind := .range
  name := "dhcp"
  rangeStart := some "10.0.0.10"
  rangeEnd := some "10.0.0.20"

/-- A created host is found again. -/
theorem foundAgain_host : @AddrFoundAgain asciiUnicode emptyServer [] []
    (storedAddrObject 5 "web" .null [] [("type",.str "host"),("host",.str "10.0.0.1"),
      ("raw",.bool false)]) ⟨2,.host,"web",[],some "10.0.0.1/32",none,none,none⟩ := by
  refine ((@foundAgain_iff asciiUnicode emptyServer emptyServer_read).1 [] [] rfl
    ⟨2,.host,"web",[],some "10.0.0.1/32",none,none,none⟩ _ rfl 5 (by simp) "web" .null []).mpr ?_
  have hparse : (parseAddress (firstPart '/' "10.0.0.1/32")).isSome=true := by decide +kernel
  exact hparse

/-- A created range is sent, stored, and then the catalog cannot be read. -/
theorem range_not_foundAgain : ∃ record,addrObjectRecord branchRange=.ok record ∧
    ∀ catalog,getSdwanFullCatalog (emptyServer.storing [] []
      (storedAddrObject 5 "dhcp" .null [] record))≠.ok catalog := by
  refine ⟨_,rfl,fun catalog hcatalog => ?_⟩
  obtain ⟨_,-,hrest⟩ := bind_eq_ok.mp hcatalog
  obtain ⟨addrObjs,hread,-⟩ := bind_eq_ok.mp hrest
  cases hread

end NspMigrator.MappingCreateRoundTrip
