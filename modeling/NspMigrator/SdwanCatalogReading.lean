import Mathlib
import NspMigrator.Ipv4Text
import NspMigrator.PyDict
import NspMigrator.PyExcept
import NspMigrator.SdwanSchemas

/-!
# Reading the catalog of a controller

The client validates every record a controller lists, follows groups for three
rounds, and the gateway parses the addresses. One record that does not validate
or parse fails the reading of the whole catalog.
-/

namespace NspMigrator.SdwanCatalogReading

open PyDict PyExcept PyText Ipv4 Ipv4Text SdwanModels SdwanSchemas ExecuteRepository

/-- An address object as a controller keeps it, with the data it was sent. -/
structure StoredAddrObject where
  /-- The number of the object. -/
  id : ℤ
  /-- The groups it is a member of. -/
  parents : List ℤ
  /-- Its name. -/
  name : String
  /-- The fields of its kind. -/
  data : JsonFields

/-- A service as a controller keeps it. -/
structure StoredService where
  /-- The number of the service. -/
  id : ℤ
  /-- Its other fields. -/
  fields : JsonFields

/-- A network as a controller keeps it. -/
structure StoredNetwork where
  /-- The network. -/
  networkId : String
  /-- Its block, when it has one. -/
  net : Option String

/-- What a controller keeps. -/
structure SdwanServer where
  /-- The zones it keeps. -/
  zones : List SdwanZone
  /-- The services it keeps. -/
  services : List StoredService
  /-- The address objects it keeps. -/
  addrObjects : List StoredAddrObject
  /-- The networks it keeps. -/
  networks : List StoredNetwork

/-- How many parents one query may name. -/
def yaqlFiltersLimit : ℕ := 50

/-- How deep groups are followed. -/
def maxGroupsDepth : ℕ := 3

/-- The address of a text. -/
def ipv4Address (text : String) : Except PyException Ipv4Address :=
  match parseAddress text with
  | none => .error ⟨"AddressValueError",text⟩
  | some address => .ok address

/-- The network of a text without host bits. -/
def parseStrictNetwork (text : String) : Option Ipv4Network := do
  let address ← parseAddress (firstPart '/' text)
  let net ← parseNetwork text
  if address.toInt=net.networkAddress then some net else none

/-- A network without host bits is the network of its text. -/
theorem parseNetwork_of_strict {text : String} {net : Ipv4Network}
    (h : parseStrictNetwork text=some net) : parseNetwork text=some net := by
  unfold parseStrictNetwork at h
  obtain ⟨address,-,h⟩ := Option.bind_eq_some_iff.mp h
  obtain ⟨found,hfound,h⟩ := Option.bind_eq_some_iff.mp h
  split at h
  · cases h
    exact hfound
  · cases h

/-- The network of a text; host bits are refused. -/
def ipv4Network (text : String) : Except PyException Ipv4Network :=
  match parseStrictNetwork text with
  | none => .error ⟨"ValueError",text⟩
  | some net => .ok net

/-- Validate a stored address object. -/
def StoredAddrObject.modelValidate (object : StoredAddrObject) :
    Except PyException AddrObjectResponse := do
  let data ← AddrObjectDataResponse.modelValidate object.data
  return ⟨object.id,object.parents,object.name,data⟩

/-- The error of a page that does not validate. -/
def responseError (what : String) (error : PyException) : PyException :=
  ⟨"SDWANCspHttpResponseError","Invalid "++what++" response schema: "++error.message⟩

/-- List address objects. -/
def fetchAddrObjects (objects : List StoredAddrObject) :
    Except PyException (List AddrObjectResponse) :=
  (objects.mapM StoredAddrObject.modelValidate).mapError (responseError "addr_objects")

/-- List the address objects of groups, each once. -/
def getAddrObjectsByParents (server : SdwanServer) (parentsIds : List ℤ) :
    Except PyException (List AddrObjectResponse) := do
  let found ← (parentsIds.dedup.toChunks yaqlFiltersLimit).mapM fun chunk =>
    fetchAddrObjects (server.addrObjects.filter fun object =>
      object.parents.any fun parent => decide (parent∈chunk))
  return (Dict.ofList (found.flatten.map fun object => (object.id,object))).values

/-- Whether an address object is a group. -/
def isGroup (object : AddrObjectResponse) : Bool :=
  match object.data with
  | .addrGroup _ => true
  | _ => false

/-- The groups among address objects. -/
def groupsIds (objects : List AddrObjectResponse) : List ℤ :=
  (objects.filter isGroup).map (·.id)

/-- The same object is kept once for every set of its groups. -/
def nestingKey (object : AddrObjectResponse) : ℤ × List ℤ :=
  (object.id,object.parents.insertionSort fun a b => a≤ b)

/-- Address objects loaded so far. -/
abbrev Loaded := Dict (ℤ × List ℤ) AddrObjectResponse

/-- Keep address objects. -/
def saveObjects (loaded : Loaded) (objects : List AddrObjectResponse) : Loaded :=
  objects.foldl (fun loaded object => loaded.insert (nestingKey object) object) loaded

/-- Follow groups for a number of rounds. -/
def expandGroups (server : SdwanServer) : ℕ → Loaded → List ℤ → Except PyException Loaded
  | 0,loaded,_ => .ok loaded
  | rounds+1,loaded,groupIds =>
    if groupIds=[] then .ok loaded
    else do
      let children ← getAddrObjectsByParents server groupIds
      if rounds=0 ∧ groupsIds children≠[] then
        .error ⟨"ValueError","Address group nesting depth exceeded. Max depth is "++
          toString maxGroupsDepth++". Nested groups found: "++toString (groupsIds children)⟩
      else expandGroups server rounds (saveObjects loaded children) (groupsIds children)

/-- The networks with a net, all or those asked for. -/
def getNetworks (server : SdwanServer) (networkIds : Option (List String)) :
    Except PyException (List SdwanNetwork) := do
  let networks := server.networks.filter fun network =>
    networkIds.all fun ids => decide (network.networkId∈ids)
  let found ← networks.mapM fun network => match network.net with
    | none => pure none
    | some net => do return some ⟨network.networkId,← ipv4Network net⟩
  return found.filterMap id

/-- The address object of a response. A network without a net is left out. -/
def toSdwanAddrObject (networksById : Dict String SdwanNetwork) (object : AddrObjectResponse) :
    Except PyException (Option SdwanAddrObject) :=
  match object.data with
  | .host host _ => do
    let host ← ipv4Address host
    return some (.ofHost object.id object.parents object.name host)
  | .prefixNet net _ => do
    let net ← ipv4Network net
    return some (.ofPrefix object.id object.parents object.name net)
  | .fqdn fqdn _ => .ok (some (.ofFqdn object.id object.parents object.name fqdn))
  | .ipRange start stop _ => do
    let start ← ipv4Address start
    let stop ← ipv4Address stop
    return some (.ofIpRange object.id object.parents object.name start stop)
  | .network networkId => .ok ((networksById.get? networkId).map fun network =>
      .ofNetwork object.id object.parents object.name network.networkId network.net)
  | .addrGroup addrGroup =>
    .ok (some (.ofGroup object.id object.parents object.name (some addrGroup)))

/-- The network an address object refers to. -/
def networkIdOf (object : AddrObjectResponse) : Option String :=
  match object.data with
  | .network networkId => some networkId
  | _ => none

/-- The address objects of responses, with the networks they refer to. -/
def getAddrObjectsFromResp (server : SdwanServer) (objects : List AddrObjectResponse) :
    Except PyException (List SdwanAddrObject) := do
  let networkIds := objects.filterMap networkIdOf
  let networks ← if networkIds=[] then pure [] else getNetworks server (some networkIds)
  let networksById := Dict.ofList (networks.map fun network => (network.networkId,network))
  let found ← objects.mapM (toSdwanAddrObject networksById)
  return found.filterMap id

/-- All address objects, with the members of their groups. -/
def getAddrObjects (server : SdwanServer) : Except PyException (List SdwanAddrObject) := do
  let initial ← fetchAddrObjects server.addrObjects
  let loaded ← expandGroups server maxGroupsDepth (saveObjects .empty initial) (groupsIds initial)
  getAddrObjectsFromResp server loaded.values

/-- The service of a response. -/
def toSdwanService (id : ℤ) (service : ServiceData) : Except PyException SdwanService :=
  let ranges := service.ranges.map fun ranges => ranges.map fun range => (range.start,range.stop)
  if hports : service.l4Proto=.tcp ∨ service.l4Proto=.udp → ranges.getD []≠[] then
    if hcodes : service.l4Proto=.icmp → service.codes.getD []≠[] then
      .ok ⟨id,service.name,service.l4Proto,ranges,service.codes,hports,hcodes⟩
    else .error ⟨"ValueError","ICMP addr obj must have codes"⟩
  else .error ⟨"ValueError","TCP/UDP addr obj must have ranges"⟩

/-- List services. -/
def fetchServices (services : List StoredService) :
    Except PyException (List (ℤ × ServiceData)) :=
  (services.mapM fun service : StoredService => do
    return (service.id,← ServiceData.modelValidate service.fields)).mapError
      (responseError "services")

/-- All services. -/
def getServices (server : SdwanServer) : Except PyException (List SdwanService) := do
  let services ← fetchServices server.services
  services.mapM fun service => toSdwanService service.1 service.2

/-- Everything a controller knows. -/
def getSdwanFullCatalog (server : SdwanServer) : Except PyException SdwanFullCatalog := do
  let services ← getServices server
  let addrObjs ← getAddrObjects server
  let networks ← getNetworks server none
  return ⟨server.zones,services,addrObjs,networks⟩

/-- Mapping the errors of a computation does not make it succeed or fail. -/
theorem mapError_eq_ok {α : Type} {x : Except PyException α} {f : PyException → PyException}
    {a : α} : x.mapError f=.ok a ↔ x=.ok a := by
  cases x with
  | error e => simp [Except.mapError]
  | ok a => simp [Except.mapError]

theorem fetchAddrObjects_eq_ok {objects : List StoredAddrObject}
    {found : List AddrObjectResponse} :
    fetchAddrObjects objects=.ok found ↔ objects.mapM StoredAddrObject.modelValidate=.ok found :=
  mapError_eq_ok

/-- A response has the number and the parents of its record. -/
theorem modelValidate_id {object : StoredAddrObject} {response : AddrObjectResponse}
    (h : object.modelValidate=.ok response) :
    response.id=object.id ∧ response.parents=object.parents := by
  obtain ⟨data,-,hresponse⟩ := bind_eq_ok.mp h
  rw [←pure_eq_ok.mp hresponse]
  exact ⟨rfl,rfl⟩

/-- The members of groups are stored objects. -/
theorem getAddrObjectsByParents_ids {server : SdwanServer} {parentsIds : List ℤ}
    {children : List AddrObjectResponse}
    (h : getAddrObjectsByParents server parentsIds=.ok children) :
    ∀ child∈children,∃ object∈server.addrObjects,child.id=object.id := by
  obtain ⟨found,hfound,hchildren⟩ := bind_eq_ok.mp h
  rw [pure_eq_ok] at hchildren
  intro child hchild
  rw [←hchildren] at hchild
  obtain ⟨key,hget⟩ := Dict.exists_get?_of_mem_values hchild
  obtain ⟨response,hresponse,heq⟩ := List.mem_map.mp (Dict.mem_of_get?_ofList hget)
  obtain ⟨-,rfl⟩ := Prod.mk.inj heq
  obtain ⟨page,hpage,hmem⟩ := List.mem_flatten.mp hresponse
  obtain ⟨chunk,-,hchunk⟩ := exists_of_mem_mapM hfound hpage
  obtain ⟨object,hobject,hvalid⟩ := exists_of_mem_mapM (fetchAddrObjects_eq_ok.mp hchunk) hmem
  exact ⟨object,List.mem_of_mem_filter hobject,(modelValidate_id hvalid).1⟩

/-- What is loaded with one object more: that object, under a number nothing
else has. -/
structure Extends (response : AddrObjectResponse) (more fewer : Loaded) : Prop where
  /-- One key has the object, the others are as before. -/
  get?_eq : ∀ key,more.get? key=
    if key=nestingKey response then some response else fewer.get? key
  /-- The key had no object before. -/
  absent : fewer.get? (nestingKey response)=none
  /-- The number of the object is new. -/
  ids : ∀ object∈fewer.values,object.id≠response.id

section Insert

variable {response : AddrObjectResponse} {more fewer : Loaded}

theorem nestingKey_ne {object : AddrObjectResponse} (h : object.id≠response.id) :
    nestingKey object≠nestingKey response := by
  intro heq
  exact h (Prod.mk.inj heq).1

/-- Other objects are loaded on both sides. -/
theorem Extends.insert (h : Extends response more fewer) {object : AddrObjectResponse}
    (hne : object.id≠response.id) :
    Extends response (more.insert (nestingKey object) object)
      (fewer.insert (nestingKey object) object) := by
  have hkey := nestingKey_ne hne
  refine ⟨fun key => ?_,?_,?_⟩
  · rw [Dict.get?_insert,Dict.get?_insert,h.get?_eq key]
    by_cases hobject : key=nestingKey object
    · rw [if_pos hobject,if_pos hobject,if_neg (hobject▸hkey)]
    · rw [if_neg hobject,if_neg hobject]
  · rw [Dict.get?_insert_of_ne _ (Ne.symm hkey)]
    exact h.absent
  · intro other hother
    obtain ⟨key,hget⟩ := Dict.exists_get?_of_mem_values hother
    rw [Dict.get?_insert] at hget
    split at hget
    · cases hget
      exact hne
    · exact h.ids other (Dict.mem_values_of_get? hget)

theorem Extends.saveObjects (h : Extends response more fewer) {objects : List AddrObjectResponse}
    (hne : ∀ object∈objects,object.id≠response.id) :
    Extends response (saveObjects more objects) (saveObjects fewer objects) := by
  induction objects generalizing more fewer with
  | nil => exact h
  | cons object objects ih =>
    exact ih (h.insert (hne object List.mem_cons_self))
      fun other hother => hne other (List.mem_cons_of_mem _ hother)

/-- Loading an object in the middle of others extends what the others load. -/
theorem extends_saveObjects {earlier later : List AddrObjectResponse}
    (hearlier : ∀ object∈earlier,object.id≠response.id)
    (hlater : ∀ object∈later,object.id≠response.id) :
    Extends response (saveObjects .empty (earlier++response::later))
      (saveObjects .empty (earlier++later)) := by
  have hids : ∀ (objects : List AddrObjectResponse) (loaded : Loaded),
      (∀ object∈objects,object.id≠response.id) → loaded.get? (nestingKey response)=none →
      (∀ object∈loaded.values,object.id≠response.id) →
      (saveObjects loaded objects).get? (nestingKey response)=none ∧
        ∀ object∈(saveObjects loaded objects).values,object.id≠response.id := by
    intro objects
    induction objects with
    | nil => exact fun loaded _ habsent hloaded => ⟨habsent,hloaded⟩
    | cons object objects ih =>
      intro loaded hobjects habsent hloaded
      have hne := hobjects object List.mem_cons_self
      refine ih _ (fun other ho => hobjects other (List.mem_cons_of_mem _ ho)) ?_ ?_
      · rw [Dict.get?_insert_of_ne _ (Ne.symm (nestingKey_ne hne))]
        exact habsent
      · intro other hother
        obtain ⟨key,hget⟩ := Dict.exists_get?_of_mem_values hother
        rw [Dict.get?_insert] at hget
        split at hget
        · cases hget
          exact hne
        · exact hloaded other (Dict.mem_values_of_get? hget)
  obtain ⟨habsent,hvalues⟩ := hids earlier .empty hearlier rfl (by simp [Dict.values,Dict.empty])
  have hstart : Extends response
      ((saveObjects .empty earlier).insert (nestingKey response) response)
      (saveObjects .empty earlier) :=
    ⟨fun key => Dict.get?_insert _ _ _ _,habsent,hvalues⟩
  have hend := hstart.saveObjects hlater
  rw [SdwanCatalogReading.saveObjects,SdwanCatalogReading.saveObjects,List.foldl_append,
    List.foldl_append]
  exact hend

/-- The server once it stores a record among its address objects. -/
def SdwanServer.storing (server : SdwanServer) (before after : List StoredAddrObject)
    (record : StoredAddrObject) : SdwanServer :=
  { server with addrObjects := before++record::after }

variable {server : SdwanServer} {before after : List StoredAddrObject}
  {record : StoredAddrObject}

/-- An object in no group is a member of none. -/
theorem getAddrObjectsByParents_storing (hserver : server.addrObjects=before++after)
    (hparents : record.parents=[]) (parentsIds : List ℤ) :
    getAddrObjectsByParents (server.storing before after record) parentsIds=
      getAddrObjectsByParents server parentsIds := by
  have hfilter : ∀ chunk : List ℤ,
      (server.storing before after record).addrObjects.filter (fun object =>
        object.parents.any fun parent => decide (parent∈chunk))=
      server.addrObjects.filter fun object =>
        object.parents.any fun parent => decide (parent∈chunk) := by
    intro chunk
    rw [SdwanServer.storing,hserver,List.filter_append,List.filter_append,List.filter_cons]
    rw [if_neg (by rw [hparents,List.any_nil]; exact Bool.false_ne_true)]
  rw [getAddrObjectsByParents,getAddrObjectsByParents]
  simp only [hfilter]

/-- Following groups succeeds alike with and without the object. -/
theorem expandGroups_storing (hserver : server.addrObjects=before++after)
    (hparents : record.parents=[]) (hid : response.id=record.id)
    (hfresh : ∀ object∈before++after,object.id≠record.id) (rounds : ℕ) (groupIds : List ℤ)
    (h : Extends response more fewer) :
    (∀ loaded,expandGroups server rounds fewer groupIds=.ok loaded → ∃ extended,
      expandGroups (server.storing before after record) rounds more groupIds=.ok extended ∧
        Extends response extended loaded) ∧
    ∀ extended,expandGroups (server.storing before after record) rounds more groupIds=
      .ok extended → ∃ loaded,Extends response extended loaded := by
  induction rounds generalizing more fewer groupIds with
  | zero =>
    refine ⟨fun loaded hloaded => ?_,fun extended hextended => ?_⟩
    · cases hloaded
      exact ⟨more,rfl,h⟩
    · cases hextended
      exact ⟨fewer,h⟩
  | succ rounds ih =>
    rw [expandGroups,expandGroups,getAddrObjectsByParents_storing hserver hparents]
    split
    · refine ⟨fun loaded hloaded => ?_,fun extended hextended => ?_⟩
      · cases hloaded
        exact ⟨more,rfl,h⟩
      · cases hextended
        exact ⟨fewer,h⟩
    cases hchildren : getAddrObjectsByParents server groupIds with
    | error error =>
      refine ⟨fun loaded hloaded => ?_,fun extended hextended => ?_⟩
      · cases hloaded
      · cases hextended
    | ok children =>
      have hne : ∀ child∈children,child.id≠response.id := by
        intro child hchild
        obtain ⟨object,hobject,heq⟩ := getAddrObjectsByParents_ids hchildren child hchild
        rw [heq,hid]
        exact hfresh object (hserver▸hobject)
      have hstep := ih (groupsIds children) (h.saveObjects hne)
      dsimp only [bind,Except.bind]
      split
      · refine ⟨fun loaded hloaded => ?_,fun extended hextended => ?_⟩
        · cases hloaded
        · cases hextended
      · exact hstep

/-- The values of an extension. -/
theorem Extends.mem_values (h : Extends response more fewer) (object : AddrObjectResponse) :
    object∈more.values ↔ object=response ∨ object∈fewer.values := by
  constructor
  · intro hobject
    obtain ⟨key,hget⟩ := Dict.exists_get?_of_mem_values hobject
    rw [h.get?_eq key] at hget
    split at hget
    · exact Or.inl (Option.some.inj hget).symm
    · exact Or.inr (Dict.mem_values_of_get? hget)
  · intro hobject
    rcases hobject with rfl|hobject
    · exact Dict.mem_values_of_get? ((h.get?_eq _).trans (if_pos rfl))
    · obtain ⟨key,hget⟩ := Dict.exists_get?_of_mem_values hobject
      have hne : key≠nestingKey response := by
        intro heq
        rw [heq,h.absent] at hget
        cases hget
      exact Dict.mem_values_of_get? ((h.get?_eq key).trans ((if_neg hne).trans hget))

/-- The networks asked for are a set. -/
theorem getNetworks_congr {ids other : List String} (h : ∀ id,id∈ids ↔ id∈other) :
    getNetworks server (some ids)=getNetworks server (some other) := by
  have hfilter : server.networks.filter (fun network =>
      (some ids).all fun ids => decide (network.networkId∈ids))=
      server.networks.filter fun network =>
        (some other).all fun ids => decide (network.networkId∈ids) := by
    refine List.filter_congr fun network _ => ?_
    simp [h]
  rw [getNetworks,getNetworks,hfilter]

/-- What refers to no network is converted without networks. -/
theorem toSdwanAddrObject_congr {object : AddrObjectResponse} (h : networkIdOf object=none)
    (networks other : Dict String SdwanNetwork) :
    toSdwanAddrObject networks object=toSdwanAddrObject other object := by
  unfold toSdwanAddrObject
  unfold networkIdOf at h
  cases hdata : object.data with
  | network networkId =>
    rw [hdata] at h
    cases h
  | _ => rfl

/-- A converted object keeps its number. -/
theorem toSdwanAddrObject_id {networks : Dict String SdwanNetwork} {object : AddrObjectResponse}
    {converted : SdwanAddrObject} (h : toSdwanAddrObject networks object=.ok (some converted)) :
    converted.id=object.id := by
  unfold toSdwanAddrObject at h
  cases hdata : object.data with
  | host host raw =>
    rw [hdata] at h
    obtain ⟨_,-,hconverted⟩ := bind_eq_ok.mp h
    cases hconverted
    rfl
  | prefixNet net raw =>
    rw [hdata] at h
    obtain ⟨_,-,hconverted⟩ := bind_eq_ok.mp h
    cases hconverted
    rfl
  | ipRange start stop raw =>
    rw [hdata] at h
    obtain ⟨_,-,hrest⟩ := bind_eq_ok.mp h
    obtain ⟨_,-,hconverted⟩ := bind_eq_ok.mp hrest
    cases hconverted
    rfl
  | network networkId =>
    rw [hdata] at h
    obtain ⟨network,-,rfl⟩ := Option.map_eq_some_iff.mp (Except.ok.inj h)
    rfl
  | fqdn _ _ | addrGroup _ =>
    rw [hdata] at h
    cases h
    rfl

/-- Only networks can be left out. -/
theorem exists_toSdwanAddrObject {networks : Dict String SdwanNetwork}
    {object : AddrObjectResponse} (h : networkIdOf object=none)
    {converted : Option SdwanAddrObject}
    (hconverted : toSdwanAddrObject networks object=.ok converted) :
    ∃ addr,converted=some addr := by
  unfold toSdwanAddrObject at hconverted
  unfold networkIdOf at h
  cases hdata : object.data with
  | host host raw =>
    rw [hdata] at hconverted
    obtain ⟨_,-,hsome⟩ := bind_eq_ok.mp hconverted
    exact ⟨_,(pure_eq_ok.mp hsome).symm⟩
  | prefixNet net raw =>
    rw [hdata] at hconverted
    obtain ⟨_,-,hsome⟩ := bind_eq_ok.mp hconverted
    exact ⟨_,(pure_eq_ok.mp hsome).symm⟩
  | ipRange start stop raw =>
    rw [hdata] at hconverted
    obtain ⟨_,-,hrest⟩ := bind_eq_ok.mp hconverted
    obtain ⟨_,-,hsome⟩ := bind_eq_ok.mp hrest
    exact ⟨_,(pure_eq_ok.mp hsome).symm⟩
  | network networkId =>
    rw [hdata] at h
    cases h
  | fqdn _ _ | addrGroup _ =>
    rw [hdata] at hconverted
    exact ⟨_,(Except.ok.inj hconverted).symm⟩

/-- Converting with the object succeeds where converting without it does and
the object itself converts. -/
theorem getAddrObjectsFromResp_of_extends (before after : List StoredAddrObject)
    (record : StoredAddrObject) (h : Extends response more fewer)
    (hnetwork : networkIdOf response=none) {created : SdwanAddrObject}
    (hcreated : toSdwanAddrObject .empty response=.ok (some created))
    {addrObjs : List SdwanAddrObject}
    (hfewer : getAddrObjectsFromResp server fewer.values=.ok addrObjs) :
    ∃ addrObjs,getAddrObjectsFromResp (server.storing before after record) more.values=
      .ok addrObjs := by
  have hids : ∀ id,id∈more.values.filterMap networkIdOf ↔
      id∈fewer.values.filterMap networkIdOf := by
    intro id
    simp only [List.mem_filterMap,h.mem_values]
    constructor
    · rintro ⟨object,rfl|hobject,hid⟩
      · rw [hnetwork] at hid
        cases hid
      · exact ⟨object,hobject,hid⟩
    · rintro ⟨object,hobject,hid⟩
      exact ⟨object,Or.inr hobject,hid⟩
  have hempty : more.values.filterMap networkIdOf=[] ↔
      fewer.values.filterMap networkIdOf=[] := by
    simp only [List.eq_nil_iff_forall_not_mem,hids]
  have hsame : getNetworks (server.storing before after record)
      (some (more.values.filterMap networkIdOf))=
      getNetworks server (some (fewer.values.filterMap networkIdOf)) :=
    @getNetworks_congr server _ _ hids
  unfold getAddrObjectsFromResp at hfewer ⊢
  dsimp only at hfewer ⊢
  simp only [hempty,hsame]
  have hconvert : ∀ networks : Dict String SdwanNetwork,∀ found : List (Option SdwanAddrObject),
      fewer.values.mapM (toSdwanAddrObject networks)=.ok found →
      ∃ found,more.values.mapM (toSdwanAddrObject networks)=.ok found := by
    intro networks found hfound
    refine exists_mapM_eq_ok fun object hobject => ?_
    rcases (h.mem_values object).mp hobject with rfl|hobject
    · exact ⟨_,(toSdwanAddrObject_congr hnetwork networks .empty).trans hcreated⟩
    · obtain ⟨converted,-,hconverted⟩ := exists_of_mapM_eq_ok hfound hobject
      exact ⟨converted,hconverted⟩
  by_cases hnone : fewer.values.filterMap networkIdOf=[]
  all_goals
    first
      | rw [if_pos hnone] at hfewer ⊢
      | rw [if_neg hnone] at hfewer ⊢
    obtain ⟨networks,hnetworks,hrest⟩ := bind_eq_ok.mp hfewer
    obtain ⟨found,hfound,-⟩ := bind_eq_ok.mp hrest
    obtain ⟨found',hfound'⟩ := hconvert _ found hfound
    exact ⟨_,bind_eq_ok.mpr ⟨networks,hnetworks,bind_eq_ok.mpr ⟨found',hfound',rfl⟩⟩⟩

/-- Where converting succeeds, the object has been converted, and nothing else
has its number. -/
theorem getAddrObjectsFromResp_created (h : Extends response more fewer)
    (hnetwork : networkIdOf response=none) {addrObjs : List SdwanAddrObject}
    (hmore : getAddrObjectsFromResp server more.values=.ok addrObjs) :
    ∃ created,toSdwanAddrObject .empty response=.ok (some created) ∧ created∈addrObjs ∧
      ∀ addr∈addrObjs,addr.id=response.id → addr=created := by
  obtain ⟨networks,found,hfound,rfl⟩ : ∃ networks found,
      more.values.mapM (toSdwanAddrObject networks)=.ok found ∧ found.filterMap id=addrObjs := by
    unfold getAddrObjectsFromResp at hmore
    dsimp only at hmore
    split at hmore
    all_goals
      obtain ⟨networks,-,hrest⟩ := bind_eq_ok.mp hmore
      obtain ⟨found,hfound,haddr⟩ := bind_eq_ok.mp hrest
      exact ⟨_,found,hfound,pure_eq_ok.mp haddr⟩
  obtain ⟨converted,hmem,hconverted⟩ :=
    exists_of_mapM_eq_ok hfound ((h.mem_values response).mpr (Or.inl rfl))
  obtain ⟨created,rfl⟩ := exists_toSdwanAddrObject hnetwork hconverted
  refine ⟨created,?_,?_,?_⟩
  · rw [←hconverted]
    exact toSdwanAddrObject_congr hnetwork _ _
  · exact List.mem_filterMap.mpr ⟨_,hmem,rfl⟩
  · intro addr haddr hid
    obtain ⟨other,hother,hsome⟩ := List.mem_filterMap.mp haddr
    rw [id_eq] at hsome
    subst hsome
    obtain ⟨object,hobject,hconverts⟩ := exists_of_mem_mapM hfound hother
    rcases (h.mem_values object).mp hobject with rfl|hobject
    · rw [hconverted] at hconverts
      exact (Option.some.inj (Except.ok.inj hconverts)).symm
    · exact absurd ((toSdwanAddrObject_id hconverts).symm.trans hid) (h.ids object hobject)

/-- Responses of a list with one record more. -/
theorem fetchAddrObjects_storing {responses : List AddrObjectResponse} :
    fetchAddrObjects (before++record::after)=.ok responses ↔
      ∃ earlier response later,responses=earlier++response::later ∧
        before.mapM StoredAddrObject.modelValidate=.ok earlier ∧
        record.modelValidate=.ok response ∧
        after.mapM StoredAddrObject.modelValidate=.ok later := by
  rw [fetchAddrObjects_eq_ok,List.mapM_append,bind_eq_ok]
  simp only [List.mapM_cons,bind_eq_ok,pure_eq_ok]
  constructor
  · rintro ⟨earlier,hearlier,rest,⟨response,hresponse,later,hlater,rfl⟩,rfl⟩
    exact ⟨earlier,response,later,rfl,hearlier,hresponse,hlater⟩
  · rintro ⟨earlier,response,later,rfl,hearlier,hresponse,hlater⟩
    exact ⟨earlier,hearlier,_,⟨response,hresponse,later,hlater,rfl⟩,rfl⟩

/-- The responses of a list with one record more. -/
theorem extends_responses {earlier later : List AddrObjectResponse}
    (hfresh : ∀ object∈before++after,object.id≠record.id)
    (hearlier : before.mapM StoredAddrObject.modelValidate=.ok earlier)
    (hvalid : record.modelValidate=.ok response)
    (hlater : after.mapM StoredAddrObject.modelValidate=.ok later) :
    Extends response (saveObjects .empty (earlier++response::later))
      (saveObjects .empty (earlier++later)) := by
  have hid := (modelValidate_id hvalid).1
  refine extends_saveObjects (fun other hother => ?_) fun other hother => ?_
  · obtain ⟨object,hobject,hvalidates⟩ := exists_of_mem_mapM hearlier hother
    rw [(modelValidate_id hvalidates).1,hid]
    exact hfresh object (List.mem_append_left _ hobject)
  · obtain ⟨object,hobject,hvalidates⟩ := exists_of_mem_mapM hlater hother
    rw [(modelValidate_id hvalidates).1,hid]
    exact hfresh object (List.mem_append_right _ hobject)

/-- A leaf adds no group to follow. -/
theorem groupsIds_middle (hgroup : isGroup response=false)
    (earlier later : List AddrObjectResponse) :
    groupsIds (earlier++response::later)=groupsIds (earlier++later) := by
  rw [groupsIds,groupsIds,List.filter_append,List.filter_append,List.filter_cons,
    if_neg (by rw [hgroup]; exact Bool.false_ne_true)]

section Stored

variable (hserver : server.addrObjects=before++after) (hparents : record.parents=[])
  (hfresh : ∀ object∈before++after,object.id≠record.id)

include hserver hparents hfresh

/-- A catalog with one record more is read where it was read before and the
record validates and converts. -/
theorem getAddrObjects_storing {addrObjs : List SdwanAddrObject}
    (hold : getAddrObjects server=.ok addrObjs) (hvalid : record.modelValidate=.ok response)
    (hnetwork : networkIdOf response=none) (hgroup : isGroup response=false)
    {created : SdwanAddrObject}
    (hcreated : toSdwanAddrObject .empty response=.ok (some created)) :
    ∃ addrObjs,getAddrObjects (server.storing before after record)=.ok addrObjs := by
  obtain ⟨initial,hinitial,hrest⟩ := bind_eq_ok.mp hold
  obtain ⟨loaded,hloaded,hconverted⟩ := bind_eq_ok.mp hrest
  rw [hserver,fetchAddrObjects_eq_ok,List.mapM_append] at hinitial
  obtain ⟨earlier,hearlier,hinitial⟩ := bind_eq_ok.mp hinitial
  obtain ⟨later,hlater,hinitial⟩ := bind_eq_ok.mp hinitial
  obtain rfl := pure_eq_ok.mp hinitial
  obtain ⟨hid,-⟩ := modelValidate_id hvalid
  have hextends := extends_responses hfresh hearlier hvalid hlater
  have hgroups := groupsIds_middle hgroup earlier later
  obtain ⟨extended,hextended,hvalues⟩ :=
    (expandGroups_storing hserver hparents hid hfresh maxGroupsDepth
      (groupsIds (earlier++later)) hextends).1 loaded hloaded
  obtain ⟨addrObjs',haddrObjs'⟩ := getAddrObjectsFromResp_of_extends before after record hvalues
    hnetwork hcreated hconverted
  refine ⟨addrObjs',bind_eq_ok.mpr ⟨earlier++response::later,?_,bind_eq_ok.mpr
    ⟨extended,?_,haddrObjs'⟩⟩⟩
  · exact fetchAddrObjects_storing.mpr ⟨earlier,response,later,rfl,hearlier,hvalid,hlater⟩
  · rw [hgroups]
    exact hextended

/-- Where a catalog with one record more is read, the record has validated and
is there, alone under its number. -/
theorem getAddrObjects_storing_created {addrObjs : List SdwanAddrObject}
    (hread : getAddrObjects (server.storing before after record)=.ok addrObjs) :
    ∃ response,record.modelValidate=.ok response ∧
      (networkIdOf response=none → isGroup response=false →
        ∃ created,toSdwanAddrObject .empty response=.ok (some created) ∧ created∈addrObjs ∧
          ∀ addr∈addrObjs,addr.id=record.id → addr=created) := by
  obtain ⟨initial,hinitial,hrest⟩ := bind_eq_ok.mp hread
  obtain ⟨extended,hextended,hconverted⟩ := bind_eq_ok.mp hrest
  obtain ⟨earlier,response,later,rfl,hearlier,hvalid,hlater⟩ :=
    fetchAddrObjects_storing.mp hinitial
  obtain ⟨hid,-⟩ := modelValidate_id hvalid
  refine ⟨response,hvalid,fun hnetwork hgroup => ?_⟩
  have hextends := extends_responses hfresh hearlier hvalid hlater
  have hgroups := groupsIds_middle hgroup earlier later
  rw [hgroups] at hextended
  obtain ⟨loaded,hvalues⟩ := (expandGroups_storing hserver hparents hid hfresh maxGroupsDepth
    (groupsIds (earlier++later)) hextends).2 extended hextended
  rw [←hid]
  exact getAddrObjectsFromResp_created hvalues hnetwork hconverted

end Stored

end Insert

end NspMigrator.SdwanCatalogReading
