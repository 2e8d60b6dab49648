import Mathlib
import NspMigrator.GroupReach
import NspMigrator.PyText
import NspMigrator.SdwanAddressGroups
import NspMigrator.SdwanParentQueries

/-!
# Loading groups

The gateway loads address objects and then the members of their groups, one
level after the other, three levels deep. The resolver of leaves opens what was
loaded to the same depth: on a consistent controller it never meets a group too
many, nor a number that was not loaded.
-/

namespace NspMigrator.SdwanGroupLoading

open PyDict PyExcept PyLoop GroupReach SdwanModels SdwanSchemas SdwanCatalogReading SdwanPaging
open SdwanParentQueries SdwanAddressGroups ExecuteRepository

/-- Load the members of groups, for a number of rounds. -/
def loadGroups (fetchAll : Fetch) : ℕ → Loaded → List ℤ → Run PyException Loaded
  | 0,loaded,_ => pure loaded
  | rounds+1,loaded,groupIds =>
    if groupIds=[] then pure loaded
    else do
      let children ← getAddrObjects fetchAll [] groupIds
      if rounds=0 ∧ groupsIds children≠[] then
        throw ⟨"ValueError","Address group nesting depth exceeded. Max depth is "++
          toString maxGroupsDepth++". Nested groups found: "++toString (groupsIds children)⟩
      else loadGroups fetchAll rounds (saveObjects loaded children) (groupsIds children)

/-- Address objects of some numbers, or all, with the members of their groups. -/
def getAddrObjectsRespWithExpandedGroups (fetchAll : Fetch) (initialIds : Option (List ℤ)) :
    Run PyException (List AddrObjectResponse) := do
  let initialObjects ← getAddrObjects fetchAll (initialIds.getD []) []
  let loaded ← loadGroups fetchAll maxGroupsDepth (saveObjects .empty initialObjects)
    (groupsIds initialObjects)
  return loaded.values

/-- What a gateway asks: address objects by their query, and networks. -/
structure Client where
  /-- The listing that each query for address objects is answered from. -/
  controllers : Option String → Controller (ResponsePage AddrObjectResponse)
  /-- The listing of networks. -/
  networks : Controller (ListResponse StoredNetwork)

/-- The address objects of responses; networks are listed where one is referred to. -/
def convertResponses (client : Client) (objects : List AddrObjectResponse) :
    Except PyException (List SdwanAddrObject) := do
  let networks ← if objects.filterMap networkIdOf=[] then pure []
    else fetchAllNetworks client.networks
  getAddrObjectsFromResp ⟨[],[],[],networks⟩ objects

/-- The address objects of some numbers, or all, with the members of their groups. -/
def gatewayAddrObjects (client : Client) (ids : Option (List ℤ)) (fuel : ℕ) :
    Run PyException (List SdwanAddrObject) :=
  if ids=some [] then pure []
  else do
    let responses ← getAddrObjectsRespWithExpandedGroups (fetchFrom client.controllers fuel) ids
    ExceptT.mk (some (convertResponses client responses))

/-- A controller keeps records, lists them all, and for some parents lists exactly the records
that name one of them. Records of one number have the same data, and a group has its own number. -/
structure Serves (client : Client) (records : List AddrObjectResponse) : Prop where
  /-- Without a query all records are listed. -/
  all : ∀ fuel found,Returns (fetchFrom client.controllers fuel none) found →
    ∀ object,object∈found ↔ object∈records
  /-- With parents those that name one of them. -/
  parents : ∀ fuel parentsIds found,
    Returns (fetchFrom client.controllers fuel (some (parentsQuery parentsIds))) found →
      ∀ object,object∈found ↔ object∈records ∧ ∃ parent∈parentsIds,parent∈object.parents
  /-- Records of one number have the same data. -/
  data : ∀ object∈records,∀ other∈records,object.id=other.id → object.data=other.data
  /-- A group has its own number. -/
  addrGroup : ∀ object∈records,∀ group,object.data=.addrGroup group → group=object.id

/-- The networks of a controller, where they can be listed, hold one of this number with a net. -/
def HasNet (client : Client) (networkId : String) : Prop :=
  ∀ networks,fetchAllNetworks client.networks=.ok networks →
    ∃ network∈networks,network.networkId=networkId ∧ network.net≠none

/-- A controller whose listings end, and that lists every network its records refer to with a
net. -/
structure Consistent (client : Client) (records : List AddrObjectResponse) : Prop
    extends Serves client records where
  /-- Every listing ends. -/
  ends : ∀ query,Ends fun fuel => fetchFrom client.controllers fuel query
  /-- Every network that is referred to has a net. -/
  nets : ∀ object∈records,∀ networkId,networkIdOf object=some networkId →
    HasNet client networkId

/-- The groups of records, and the members they list. -/
def recordsGraph (records : List AddrObjectResponse) : GroupGraph ℤ where
  IsGroup id := ∃ object∈records,object.id=id ∧ isGroup object=true
  Lists parent child := ∃ object∈records,object.id=child ∧ parent∈object.parents

/-- The error of a number that is not loaded. -/
def UnknownIdError (error : String) : Prop :=
  ∃ id : ℤ,error="Unknown address object id: "++toString id

/-- The error of a group too deep. -/
def NestingLevelError (error : String) : Prop :=
  ∃ object : SdwanAddrObject,error="Address group nesting level exceeded: group object id="++
    toString object.id++", group value="++optionalIntText object.addrGroup++
    ", level="++toString (maxAddrGroupNestingLevel+1)++", max_level="++
    toString maxAddrGroupNestingLevel

/-- The errors of groups without members or leaves. -/
def EmptyGroupError (error : String) : Prop :=
  ∃ group : ℤ,error="Address group "++toString group++" has no loaded children" ∨
    error="Address group "++toString group++" has no leaf children"

section Loading

variable {client : Client} {records : List AddrObjectResponse} {fuel : ℕ}

/-- Loaded objects are records, under their keys. -/
def LoadedFrom (records : List AddrObjectResponse) (loaded : Loaded) : Prop :=
  ∀ key object,loaded.get? key=some object → nestingKey object=key ∧ object∈records

/-- A number is loaded. -/
def HasId (loaded : Loaded) (id : ℤ) : Prop := ∃ object∈loaded.values,object.id=id

/-- Keeping records keeps what was kept. -/
theorem LoadedFrom.saveObjects {loaded : Loaded} (h : LoadedFrom records loaded)
    {objects : List AddrObjectResponse} (hobjects : ∀ object∈objects,object∈records) :
    LoadedFrom records (saveObjects loaded objects) := by
  induction objects generalizing loaded with
  | nil => exact h
  | cons object objects ih =>
    refine ih ?_ fun other ho => hobjects other (List.mem_cons_of_mem _ ho)
    intro key found hfound
    rw [Dict.get?_insert] at hfound
    by_cases hkey : key=nestingKey object
    · rw [if_pos hkey] at hfound
      cases hfound
      exact ⟨hkey.symm,hobjects _ List.mem_cons_self⟩
    · rw [if_neg hkey] at hfound
      exact h key found hfound

/-- Loading more keeps the numbers loaded. -/
theorem HasId.saveObjects {loaded : Loaded} {id : ℤ} (hloaded : LoadedFrom records loaded)
    {objects : List AddrObjectResponse} (hobjects : ∀ object∈objects,object∈records)
    (h : HasId loaded id ∨ ∃ object∈objects,object.id=id) :
    HasId (saveObjects loaded objects) id := by
  induction objects generalizing loaded with
  | nil => exact h.resolve_right (by simp)
  | cons object objects ih =>
    have hone : ∀ other∈[object],other∈records := by
      intro other ho
      rw [List.mem_singleton.mp ho]
      exact hobjects object List.mem_cons_self
    have hnext : LoadedFrom records (loaded.insert (nestingKey object) object) :=
      hloaded.saveObjects hone
    refine ih hnext (fun other ho => hobjects other (List.mem_cons_of_mem _ ho)) ?_
    by_cases hid : object.id=id
    · exact Or.inl ⟨object,Dict.mem_values_of_get? (Dict.get?_insert_self _ _ _),hid⟩
    · rcases h with ⟨found,hfound,hsame⟩|⟨found,hfound,hsame⟩
      · obtain ⟨key,hget⟩ := Dict.exists_get?_of_mem_values hfound
        have hkey := (hloaded key found hget).1
        have hne : key≠nestingKey object := by
          rintro rfl
          exact hid ((Prod.mk.inj hkey).1.symm.trans hsame)
        have hkept : (loaded.insert (nestingKey object) object).get? key=some found := by
          rw [Dict.get?_insert_of_ne _ hne]
          exact hget
        exact Or.inl ⟨found,Dict.mem_values_of_get? hkept,hsame⟩
      · rcases List.mem_cons.mp hfound with rfl|hin
        · exact absurd hsame hid
        · exact Or.inr ⟨found,hin,hsame⟩

/-- What groups list is loaded, and nothing but records. -/
theorem Serves.children (h : Serves client records) {groupIds : List ℤ}
    (hne : groupIds≠[]) {children : List AddrObjectResponse}
    (hchildren :
      Returns (getAddrObjects (fetchFrom client.controllers fuel) [] groupIds) children) :
    (∀ child∈children,child∈records) ∧ ∀ object∈records,∀ parent∈groupIds,parent∈object.parents →
      ∃ child∈children,child.id=object.id := by
  have hchunk : ∀ parent,(∃ chunk∈parentsIdsChunks groupIds,parent∈chunk) ↔ parent∈groupIds := by
    intro parent
    rw [parentsIdsChunks,exists_mem_slices (by decide),List.mem_eraseDups]
  constructor
  · intro child hchild
    obtain ⟨hreceived,-⟩ := received_of_mem hchildren hchild
    rw [Received,if_neg hne] at hreceived
    obtain ⟨chunk,-,found,hfound,hmem⟩ := hreceived
    exact ((h.parents fuel chunk found hfound child).mp hmem).1
  · intro object hobject parent hparent hlists
    obtain ⟨chunk,hchunk,hin⟩ := (hchunk parent).mpr hparent
    obtain ⟨found,hfound,hmerged⟩ := returns_bind.mp hchildren
    obtain ⟨pages,hpages,-⟩ := (returns_fetchByParents hne).mp hfound
    obtain ⟨page,-,hpage⟩ := exists_of_returns_mapM hpages hchunk
    have hreceived : Received (fetchFrom client.controllers fuel) groupIds object := by
      rw [Received,if_neg hne]
      exact ⟨chunk,hchunk,page,hpage,(h.parents fuel chunk page hpage object).mpr
        ⟨hobject,parent,hin,hlists⟩⟩
    obtain ⟨child,hchild,hid,-⟩ := exists_mem_of_received hchildren hreceived (Or.inl rfl)
    exact ⟨child,hchild,hid⟩

/-- Where loading returns, the groups it started from open within its rounds, and all below them
is loaded. -/
theorem Serves.loadGroups (h : Serves client records) {rounds : ℕ} {loaded out : Loaded}
    {groupIds : List ℤ} (hloaded : LoadedFrom records loaded) (hrounds : rounds=0 → groupIds=[])
    (hout : Returns (loadGroups (fetchFrom client.controllers fuel) rounds loaded groupIds) out) :
    LoadedFrom records out ∧ (∀ id,HasId loaded id → HasId out id) ∧
      ∀ group∈groupIds,(recordsGraph records).OpensWithin rounds group ∧
        ∀ id,(recordsGraph records).Below group id → id=group ∨ HasId out id := by
  induction rounds generalizing loaded groupIds with
  | zero =>
    obtain rfl := returns_pure.mp hout
    rw [hrounds rfl]
    exact ⟨hloaded,fun id hid => hid,fun group hg => absurd hg List.not_mem_nil⟩
  | succ rounds ih =>
    rw [SdwanGroupLoading.loadGroups] at hout
    by_cases hnone : groupIds=[]
    · rw [if_pos hnone] at hout
      obtain rfl := returns_pure.mp hout
      rw [hnone]
      exact ⟨hloaded,fun id hid => hid,fun group hg => absurd hg List.not_mem_nil⟩
    · rw [if_neg hnone] at hout
      obtain ⟨children,hchildren,hrest⟩ := returns_bind.mp hout
      obtain ⟨hrecords,hlisted⟩ := h.children hnone hchildren
      by_cases hdeep : rounds=0 ∧ groupsIds children≠[]
      · rw [if_pos hdeep] at hrest
        cases hrest
      · rw [if_neg hdeep] at hrest
        have hempty : rounds=0 → groupsIds children=[] := by
          intro hzero
          by_contra hsome
          exact hdeep ⟨hzero,hsome⟩
        obtain ⟨hfrom,hids,hopens⟩ := ih (hloaded.saveObjects hrecords) hempty hrest
        refine ⟨hfrom,fun id hid => hids id (HasId.saveObjects hloaded hrecords (Or.inl hid)),?_⟩
        -- a member that is a group is opened in the next round, with what lies below it
        have hmember : ∀ group∈groupIds,∀ child,(recordsGraph records).Lists group child →
            HasId out child ∧
              ((recordsGraph records).IsGroup child → child∈groupsIds children) := by
          rintro group hgroup child ⟨object,hobject,rfl,hparent⟩
          obtain ⟨found,hfound,hid⟩ := hlisted object hobject group hgroup hparent
          refine ⟨hids _ (HasId.saveObjects hloaded hrecords (Or.inr ⟨found,hfound,hid⟩)),?_⟩
          rintro ⟨record,hrecord,hsame,hrecordgroup⟩
          have hdata := h.data found (hrecords found hfound) record hrecord (hid.trans hsame.symm)
          have hfoundgroup : isGroup found=true := by
            rw [isGroup,hdata]
            exact hrecordgroup
          exact List.mem_map.mpr ⟨found,List.mem_filter.mpr ⟨hfound,hfoundgroup⟩,hid⟩
        intro group hgroup
        constructor
        · intro _ child hchild
          by_cases hisgroup : (recordsGraph records).IsGroup child
          · exact (hopens child ((hmember group hgroup child hchild).2 hisgroup)).1
          · exact GroupGraph.opensWithin_of_not_isGroup hisgroup rounds
        · intro id hbelow
          rcases Relation.ReflTransGen.cases_head hbelow with rfl|⟨child,⟨-,hchild⟩,hrest⟩
          · exact Or.inl rfl
          · obtain ⟨hchildloaded,hnext⟩ := hmember group hgroup child hchild
            by_cases hisgroup : (recordsGraph records).IsGroup child
            · rcases (hopens child (hnext hisgroup)).2 id hrest with rfl|hid
              · exact Or.inr hchildloaded
              · exact Or.inr hid
            · rcases Relation.ReflTransGen.cases_head hrest with rfl|⟨_,hm,-⟩
              · exact Or.inr hchildloaded
              · exact absurd hm.1 hisgroup

/-- Where the first objects are loaded, they are the records asked for. -/
theorem Serves.initial (h : Serves client records) {ids : List ℤ}
    {objects : List AddrObjectResponse}
    (hobjects : Returns (getAddrObjects (fetchFrom client.controllers fuel) ids []) objects) :
    (∀ object∈objects,object∈records) ∧ ∀ object∈records,Wanted ids object → object∈objects := by
  obtain ⟨found,hfound,-⟩ := returns_bind.mp hobjects
  have hall := h.all fuel found hfound
  have hreceived : ∀ object,Received (fetchFrom client.controllers fuel) [] object ↔
      object∈records := by
    intro object
    rw [Received,if_pos rfl,←hall object]
    constructor
    · rintro ⟨other,hother,hmem⟩
      rw [hfound.unique hother]
      exact hmem
    · exact fun hmem => ⟨found,hfound,hmem⟩
  constructor
  · intro object ho
    exact (hreceived object).mp (received_of_mem hobjects ho).1
  · intro object ho hwanted
    obtain ⟨kept,hkept,-,heq⟩ :=
      exists_mem_of_received hobjects ((hreceived object).mpr ho) hwanted
    rw [←heq rfl]
    exact hkept

/-- A converted object has the number, the parents and the group of its response. -/
theorem toSdwanAddrObject_matches {networks : Dict String SdwanNetwork}
    {object : AddrObjectResponse} {addr : SdwanAddrObject}
    (h : toSdwanAddrObject networks object=.ok (some addr)) :
    addr.id=object.id ∧ addr.parents=object.parents ∧
      (addr.type=.addrGroup → isGroup object=true ∧
        ∃ group,object.data=.addrGroup group ∧ addr.addrGroup=some group) := by
  unfold toSdwanAddrObject at h
  unfold isGroup
  cases hdata : object.data with
  | host host raw =>
    rw [hdata] at h
    obtain ⟨_,-,hconverted⟩ := PyExcept.bind_eq_ok.mp h
    cases hconverted
    exact ⟨rfl,rfl,fun htype => by cases htype⟩
  | prefixNet net raw =>
    rw [hdata] at h
    obtain ⟨_,-,hconverted⟩ := PyExcept.bind_eq_ok.mp h
    cases hconverted
    exact ⟨rfl,rfl,fun htype => by cases htype⟩
  | ipRange start stop raw =>
    rw [hdata] at h
    obtain ⟨_,-,hrest⟩ := PyExcept.bind_eq_ok.mp h
    obtain ⟨_,-,hconverted⟩ := PyExcept.bind_eq_ok.mp hrest
    cases hconverted
    exact ⟨rfl,rfl,fun htype => by cases htype⟩
  | network networkId =>
    rw [hdata] at h
    obtain ⟨network,-,rfl⟩ := Option.map_eq_some_iff.mp (Except.ok.inj h)
    exact ⟨rfl,rfl,fun htype => by cases htype⟩
  | fqdn fqdn raw =>
    rw [hdata] at h
    cases h
    exact ⟨rfl,rfl,fun htype => by cases htype⟩
  | addrGroup group =>
    rw [hdata] at h
    cases h
    exact ⟨rfl,rfl,fun _ => ⟨rfl,group,rfl,rfl⟩⟩

/-- Objects that are loaded for a catalog come from records. -/
def ConvertedFrom (records : List AddrObjectResponse) (addrObjs : List SdwanAddrObject) : Prop :=
  ∀ addr∈addrObjs,∃ object∈records,addr.id=object.id ∧ addr.parents=object.parents ∧
    (addr.type=.addrGroup → isGroup object=true ∧ addr.addrGroup=some object.id)

/-- Networks with a net are found by their numbers. -/
theorem exists_get?_networks {networks : List StoredNetwork} {networkIds : List String}
    {found : List SdwanNetwork}
    (h : getNetworks ⟨[],[],[],networks⟩ (some networkIds)=.ok found) {network : StoredNetwork}
    (hnetwork : network∈networks) (hid : network.networkId∈networkIds) (hnet : network.net≠none) :
    ∃ net,(Dict.ofList (found.map fun network => (network.networkId,network))).get?
      network.networkId=some net := by
  obtain ⟨answers,hanswers,hfound⟩ := PyExcept.bind_eq_ok.mp h
  have hasked : network∈networks.filter fun network =>
      (some networkIds).all fun ids => decide (network.networkId∈ids) :=
    List.mem_filter.mpr ⟨hnetwork,decide_eq_true hid⟩
  obtain ⟨answer,hmem,hanswer⟩ := exists_of_mapM_eq_ok hanswers hasked
  cases hstored : network.net with
  | none => exact absurd hstored hnet
  | some text =>
    rw [hstored] at hanswer
    obtain ⟨net,-,hsome⟩ := PyExcept.bind_eq_ok.mp hanswer
    obtain rfl := PyExcept.pure_eq_ok.mp hsome
    have hin : (⟨network.networkId,net⟩ : SdwanNetwork)∈found := by
      rw [←PyExcept.pure_eq_ok.mp hfound]
      exact List.mem_filterMap.mpr ⟨_,hmem,rfl⟩
    have hpair : (network.networkId,(⟨network.networkId,net⟩ : SdwanNetwork))∈
        found.map fun network => (network.networkId,network) := List.mem_map.mpr ⟨_,hin,rfl⟩
    exact Dict.exists_get?_ofList hpair

/-- Networks are listed where one is referred to. -/
theorem exists_of_convertResponses {objects : List AddrObjectResponse}
    {addrObjs : List SdwanAddrObject} (h : convertResponses client objects=.ok addrObjs) :
    ∃ networks,(objects.filterMap networkIdOf=[] ∧ networks=[] ∨
        fetchAllNetworks client.networks=.ok networks) ∧
      getAddrObjectsFromResp ⟨[],[],[],networks⟩ objects=.ok addrObjs := by
  unfold convertResponses at h
  by_cases hnone : objects.filterMap networkIdOf=[]
  · rw [if_pos hnone] at h
    exact ⟨[],Or.inl ⟨hnone,rfl⟩,h⟩
  · rw [if_neg hnone] at h
    obtain ⟨networks,hnetworks,hrest⟩ := PyExcept.bind_eq_ok.mp h
    exact ⟨networks,Or.inr hnetworks,hrest⟩

/-- The parts of a conversion. -/
theorem exists_of_getAddrObjectsFromResp {server : SdwanServer} {objects : List AddrObjectResponse}
    {addrObjs : List SdwanAddrObject} (h : getAddrObjectsFromResp server objects=.ok addrObjs) :
    ∃ networks found,(objects.filterMap networkIdOf=[] ∧ networks=[] ∨
        getNetworks server (some (objects.filterMap networkIdOf))=.ok networks) ∧
      objects.mapM (toSdwanAddrObject (Dict.ofList (networks.map fun network =>
        (network.networkId,network))))=.ok found ∧ found.filterMap id=addrObjs := by
  unfold getAddrObjectsFromResp at h
  dsimp only at h
  by_cases hnone : objects.filterMap networkIdOf=[]
  · rw [if_pos hnone] at h
    obtain ⟨networks,hnetworks,hrest⟩ := PyExcept.bind_eq_ok.mp h
    obtain ⟨found,hfound,haddr⟩ := PyExcept.bind_eq_ok.mp hrest
    exact ⟨networks,found,Or.inl ⟨hnone,(PyExcept.pure_eq_ok.mp hnetworks).symm⟩,hfound,
      PyExcept.pure_eq_ok.mp haddr⟩
  · rw [if_neg hnone] at h
    obtain ⟨networks,hnetworks,hrest⟩ := PyExcept.bind_eq_ok.mp h
    obtain ⟨found,hfound,haddr⟩ := PyExcept.bind_eq_ok.mp hrest
    exact ⟨networks,found,Or.inr hnetworks,hfound,PyExcept.pure_eq_ok.mp haddr⟩

/-- The networks objects are converted with. -/
abbrev Nets := Dict String SdwanNetwork

/-- Every network is one the controller lists, with its net. -/
def NetsOf (client : Client) (nets : Nets) : Prop :=
  ∀ networkId network,nets.get? networkId=some network →
    ∃ networks,fetchAllNetworks client.networks=.ok networks ∧ ∃ stored∈networks,
      stored.networkId=networkId ∧ ∃ text,stored.net=some text ∧ ipv4Network text=.ok network.net

/-- A network that is read was listed with its net. -/
theorem exists_of_mem_getNetworks {networks : List StoredNetwork} {networkIds : List String}
    {found : List SdwanNetwork}
    (h : getNetworks ⟨[],[],[],networks⟩ (some networkIds)=.ok found) {network : SdwanNetwork}
    (hnetwork : network∈found) : ∃ stored∈networks,stored.networkId=network.networkId ∧
      ∃ text,stored.net=some text ∧ ipv4Network text=.ok network.net := by
  obtain ⟨answers,hanswers,hfound⟩ := PyExcept.bind_eq_ok.mp h
  rw [←PyExcept.pure_eq_ok.mp hfound] at hnetwork
  obtain ⟨answer,hmem,rfl⟩ := List.mem_filterMap.mp hnetwork
  obtain ⟨stored,hstored,hanswer⟩ := exists_of_mem_mapM hanswers hmem
  refine ⟨stored,List.mem_of_mem_filter hstored,?_⟩
  cases hnet : stored.net with
  | none =>
    rw [hnet] at hanswer
    cases hanswer
  | some text =>
    rw [hnet] at hanswer
    obtain ⟨net,hparsed,hsome⟩ := PyExcept.bind_eq_ok.mp hanswer
    obtain rfl := Option.some.inj (PyExcept.pure_eq_ok.mp hsome)
    exact ⟨rfl,text,rfl,hparsed⟩

/-- Responses are converted one by one, and only references to networks without a net are left
out. -/
theorem exists_nets {objects : List AddrObjectResponse} {addrObjs : List SdwanAddrObject}
    (hconvert : convertResponses client objects=.ok addrObjs) :
    ∃ nets : Nets,NetsOf client nets ∧
      (∀ addr∈addrObjs,∃ object∈objects,toSdwanAddrObject nets object=.ok (some addr)) ∧
      ∀ object∈objects,(∀ networkId,networkIdOf object=some networkId → HasNet client networkId) →
        ∃ addr∈addrObjs,toSdwanAddrObject nets object=.ok (some addr) := by
  obtain ⟨networks,hnetworks,hresponses⟩ := exists_of_convertResponses hconvert
  obtain ⟨nets,found,hnets,hfound,rfl⟩ := exists_of_getAddrObjectsFromResp hresponses
  refine ⟨Dict.ofList (nets.map fun network => (network.networkId,network)),?_,?_,?_⟩
  · intro networkId network hget
    obtain ⟨listed,hlisted,hpair⟩ := List.mem_map.mp (Dict.mem_of_get?_ofList hget)
    obtain ⟨rfl,rfl⟩ := Prod.mk.inj hpair
    rcases hnets with ⟨-,rfl⟩|hnets
    · exact absurd hlisted List.not_mem_nil
    · have hfetched : fetchAllNetworks client.networks=.ok networks := by
        rcases hnetworks with ⟨-,rfl⟩|hfetched
        · obtain ⟨stored,hstored,-⟩ := exists_of_mem_getNetworks hnets hlisted
          exact absurd hstored List.not_mem_nil
        · exact hfetched
      exact ⟨networks,hfetched,exists_of_mem_getNetworks hnets hlisted⟩
  · intro addr haddr
    obtain ⟨converted,hmem,rfl⟩ := List.mem_filterMap.mp haddr
    exact exists_of_mem_mapM hfound hmem
  · intro object hobject hnetIds
    obtain ⟨converted,hmem,hconverted⟩ := exists_of_mapM_eq_ok hfound hobject
    obtain ⟨addr,rfl⟩ : ∃ addr,converted=some addr := by
      cases hnetwork : networkIdOf object with
      | none => exact exists_toSdwanAddrObject hnetwork hconverted
      | some networkId =>
        have hin : networkId∈objects.filterMap networkIdOf :=
          List.mem_filterMap.mpr ⟨object,hobject,hnetwork⟩
        have hsome : objects.filterMap networkIdOf≠[] := List.ne_nil_of_mem hin
        obtain ⟨network,hlisted,rfl,hnet⟩ :=
          hnetIds networkId hnetwork networks (hnetworks.resolve_left fun hn => hsome hn.1)
        obtain ⟨net,hget⟩ :=
          exists_get?_networks (hnets.resolve_left fun hn => hsome hn.1) hlisted hin hnet
        unfold networkIdOf at hnetwork
        unfold toSdwanAddrObject at hconverted
        cases hdata : object.data with
        | network referred =>
          rw [hdata] at hnetwork hconverted
          cases hnetwork
          dsimp only at hconverted
          rw [hget] at hconverted
          exact ⟨_,(Except.ok.inj hconverted).symm⟩
        | _ =>
          rw [hdata] at hnetwork
          cases hnetwork
    exact ⟨addr,List.mem_filterMap.mpr ⟨_,hmem,rfl⟩,hconverted⟩

/-- Converted records are objects of their own number. -/
theorem Serves.convertedFrom (h : Serves client records) {objects : List AddrObjectResponse}
    (hrecords : ∀ object∈objects,object∈records) {nets : Nets} {addrObjs : List SdwanAddrObject}
    (hnets : ∀ addr∈addrObjs,∃ object∈objects,toSdwanAddrObject nets object=.ok (some addr)) :
    ConvertedFrom records addrObjs := by
  intro addr haddr
  obtain ⟨object,hobject,hconverted⟩ := hnets addr haddr
  obtain ⟨hid,hparents,hgroup⟩ := toSdwanAddrObject_matches hconverted
  refine ⟨object,hrecords object hobject,hid,hparents,fun htype => ?_⟩
  obtain ⟨hisgroup,group,hdata,haddrGroup⟩ := hgroup htype
  rw [haddrGroup,h.addrGroup object (hrecords object hobject) group hdata]
  exact ⟨hisgroup,rfl⟩

/-- Members of a group are the objects that name it. -/
theorem mem_children {addrObjs : List SdwanAddrObject} {group : ℤ} {child : SdwanAddrObject} :
    child∈((SDWANAddressGroupLeavesResolver.ofObjects addrObjs).childrenByParent.get?
      group).getD [] ↔ child∈addrObjs ∧ group∈child.parents := by
  have hlist := getD_groupPairs group
    (addrObjs.flatMap fun object => object.parents.map fun parent => (parent,object))
  rw [SDWANAddressGroupLeavesResolver.ofObjects,hlist]
  constructor
  · intro h
    obtain ⟨pair,hpair,rfl⟩ := List.mem_map.mp h
    obtain ⟨hin,hkey⟩ := List.mem_filter.mp hpair
    obtain ⟨object,hobject,hparent⟩ := List.mem_flatMap.mp hin
    obtain ⟨parent,hmem,rfl⟩ := List.mem_map.mp hparent
    rw [←of_decide_eq_true hkey]
    exact ⟨hobject,hmem⟩
  · rintro ⟨hchild,hparent⟩
    refine List.mem_map.mpr ⟨(group,child),List.mem_filter.mpr ⟨?_,decide_eq_true rfl⟩,rfl⟩
    exact List.mem_flatMap.mpr ⟨child,hchild,List.mem_map.mpr ⟨group,hparent,rfl⟩⟩

/-- A number of an object is found, with an object of that number. -/
theorem exists_objectsById {addrObjs : List SdwanAddrObject} {id : ℤ}
    (h : ∃ addr∈addrObjs,addr.id=id) :
    ∃ object∈addrObjs,object.id=id ∧
      (SDWANAddressGroupLeavesResolver.ofObjects addrObjs).objectsById.get? id=some object := by
  obtain ⟨addr,haddr,rfl⟩ := h
  have hpair : (addr.id,addr)∈addrObjs.map fun object => (object.id,object) :=
    List.mem_map_of_mem haddr
  obtain ⟨object,hobject⟩ := Dict.exists_get?_ofList hpair
  obtain ⟨found,hfound,heq⟩ := List.mem_map.mp (Dict.mem_of_get?_ofList hobject)
  obtain ⟨hid,rfl⟩ := Prod.mk.inj heq
  exact ⟨found,hfound,hid,hobject⟩

/-- Leaves of a loaded number that opens within the levels left are found, unless a group has no
members or no leaves. -/
theorem resolveLeavesAt_error {addrObjs : List SdwanAddrObject}
    (hfrom : ConvertedFrom records addrObjs) {remaining : ℕ} {id : ℤ}
    (hid : ∃ addr∈addrObjs,addr.id=id) (hopens : (recordsGraph records).OpensWithin remaining id)
    {error : String}
    (herror : (SDWANAddressGroupLeavesResolver.ofObjects addrObjs).resolveLeavesAt remaining id=
      .error error) : EmptyGroupError error := by
  induction remaining generalizing id error with
  | zero =>
    obtain ⟨object,hobject,rfl,hget⟩ := exists_objectsById hid
    rw [SDWANAddressGroupLeavesResolver.resolveLeavesAt,hget] at herror
    dsimp only at herror
    by_cases htype : object.type=.addrGroup
    · obtain ⟨record,hrecord,hsame,-,hgroup⟩ := hfrom object hobject
      exact absurd ⟨record,hrecord,hsame.symm,(hgroup htype).1⟩ hopens
    · rw [if_pos htype] at herror
      cases herror
  | succ remaining ih =>
    obtain ⟨object,hobject,rfl,hget⟩ := exists_objectsById hid
    rw [SDWANAddressGroupLeavesResolver.resolveLeavesAt,hget] at herror
    dsimp only at herror
    by_cases htype : object.type=.addrGroup
    · rw [if_neg (not_not.mpr htype)] at herror
      obtain ⟨record,hrecord,hsame,-,hgroup⟩ := hfrom object hobject
      obtain ⟨hisgroup,haddrGroup⟩ := hgroup htype
      have hgroupId : SDWANAddressGroupLeavesResolver.groupId object=object.id := by
        rw [SDWANAddressGroupLeavesResolver.groupId,haddrGroup,hsame]
        dsimp only
        split
        · rfl
        · rfl
      rw [hgroupId] at herror
      cases hchildren : ((SDWANAddressGroupLeavesResolver.ofObjects addrObjs).childrenByParent.get?
          object.id).getD [] with
      | nil =>
        rw [hchildren] at herror
        cases herror
        exact ⟨object.id,Or.inl rfl⟩
      | cons first rest =>
        rw [hchildren] at herror
        dsimp only at herror
        cases hleaves : ((first::rest).filter fun child => decide (child.id≠object.id)).mapM
            fun child => (SDWANAddressGroupLeavesResolver.ofObjects addrObjs).resolveLeavesAt
              remaining child.id with
        | error e =>
          rw [hleaves] at herror
          cases herror
          obtain ⟨child,hchild,hsub⟩ := exists_of_mapM_eq_error hleaves
          have hmember := List.mem_of_mem_filter hchild
          rw [←hchildren] at hmember
          obtain ⟨hloaded,hparent⟩ := mem_children.mp hmember
          obtain ⟨childRecord,hchildRecord,hchildId,hparents,-⟩ := hfrom child hloaded
          have hlists : (recordsGraph records).Lists object.id child.id :=
            ⟨childRecord,hchildRecord,hchildId.symm,hparents▸hparent⟩
          exact ih ⟨child,hloaded,rfl⟩
            (hopens ⟨record,hrecord,hsame.symm,hisgroup⟩ child.id hlists) hsub
        | ok leaves =>
          rw [hleaves] at herror
          simp only [bind,Except.bind] at herror
          split at herror
          · cases herror
            exact ⟨object.id,Or.inr rfl⟩
          · cases herror
    · rw [if_pos htype] at herror
      cases herror

/-- A number is written in digits, after a sign. -/
theorem digit_or_sign {n : ℤ} {c : Char} (h : c∈(toString n).toList) : c.isDigit=true ∨ c= '-' := by
  cases n with
  | ofNat n => exact Or.inl (PyText.isDigit_of_mem_toString h)
  | negSucc n =>
    have htext : toString (Int.negSucc n)="-"++toString (n+1) := rfl
    rw [htext,String.toList_append,List.mem_append] at h
    rcases h with h|h
    · exact Or.inr (List.mem_singleton.mp h)
    · exact Or.inl (PyText.isDigit_of_mem_toString h)

/-- What starts a number is no letter. -/
theorem head?_toString (n : ℤ) : ∃ c rest,(toString n).toList=c::rest ∧ c≠ 'n' := by
  have hne : (toString n).toList≠[] := by
    cases n with
    | ofNat n =>
      show (toString n).toList≠[]
      simp [Nat.toDigits_ne_nil]
    | negSucc n =>
      have htext : toString (Int.negSucc n)="-"++toString (n+1) := rfl
      rw [htext,String.toList_append]
      exact List.cons_ne_nil _ _
  obtain ⟨c,rest,heq⟩ := List.exists_cons_of_ne_nil hne
  refine ⟨c,rest,heq,fun hc => ?_⟩
  have hchar := digit_or_sign (heq▸List.mem_cons_self : c∈(toString n).toList)
  rw [hc] at hchar
  exact absurd hchar (by decide)

/-- An empty group is told in words of its own. -/
theorem EmptyGroupError.ne {error : String} (h : EmptyGroupError error) :
    ¬UnknownIdError error ∧ ¬NestingLevelError error := by
  obtain ⟨group,tail,rfl⟩ : ∃ (group : ℤ) (tail : String),
      error="Address group "++(toString group++tail) := by
    obtain ⟨group,h⟩ := h
    rcases h with rfl|rfl
    · exact ⟨group,_,String.append_assoc⟩
    · exact ⟨group,_,String.append_assoc⟩
  constructor
  · rintro ⟨id,heq⟩
    have hhead := congrArg (fun s => s.toList.head?) heq
    simp at hhead
  · rintro ⟨object,heq⟩
    have hsplit : "Address group nesting level exceeded: group object id="=
        "Address group "++"nesting level exceeded: group object id=" := by decide +kernel
    simp only [hsplit,String.append_assoc,String.append_right_inj] at heq
    obtain ⟨c,rest,hchars,hc⟩ := head?_toString group
    have hhead := congrArg (fun s => s.toList.head?) heq
    simp only [String.toList_append,hchars] at hhead
    simp at hhead
    exact hc hhead

/-- Loading groups ends, also where they contain each other. -/
theorem Consistent.ends_loadGroups (h : Consistent client records) (rounds : ℕ) (loaded : Loaded)
    (groupIds : List ℤ) :
    Ends fun fuel => SdwanGroupLoading.loadGroups (fetchFrom client.controllers fuel) rounds loaded
      groupIds := by
  induction rounds generalizing loaded groupIds with
  | zero => exact ends_pure loaded
  | succ rounds ih =>
    unfold SdwanGroupLoading.loadGroups
    by_cases hnone : groupIds=[]
    · simp only [if_pos hnone]
      exact ends_pure loaded
    · simp only [if_neg hnone]
      refine (ends_getAddrObjects h.ends [] groupIds).bind fun children => ?_
      by_cases hdeep : rounds=0 ∧ groupsIds children≠[]
      · simp only [if_pos hdeep]
        exact ends_throw _
      · simp only [if_neg hdeep]
        exact ih _ _

end Loading

/-- A number is among those asked for, or all are. -/
def Requested (ids : Option (List ℤ)) (id : ℤ) : Prop := ∀ asked,ids=some asked → id∈asked

/-- What the gateway returns was converted from records, among them everything below a requested
record. -/
theorem Serves.exists_loaded {client : Client} {records : List AddrObjectResponse}
    (h : Serves client records) {ids : Option (List ℤ)} {fuel : ℕ} {addrObjs : List SdwanAddrObject}
    (hreturns : Returns (gatewayAddrObjects client ids fuel) addrObjs) {object : AddrObjectResponse}
    (hobject : object∈records) (hasked : Requested ids object.id) :
    ∃ loaded,(∀ response∈loaded,response∈records) ∧ convertResponses client loaded=.ok addrObjs ∧
      (recordsGraph records).OpensWithin maxGroupsDepth object.id ∧
      ∀ id,(recordsGraph records).Below object.id id → ∃ found∈loaded,found.id=id := by
  have hsome : ids≠some [] := fun hnone => List.not_mem_nil (hasked [] hnone)
  rw [gatewayAddrObjects,if_neg hsome] at hreturns
  obtain ⟨responses,hresponses,hconverted⟩ := returns_bind.mp hreturns
  obtain ⟨initial,hinitial,hrest⟩ := returns_bind.mp hresponses
  obtain ⟨loaded,hloaded,hvalues⟩ := returns_bind.mp hrest
  obtain rfl := returns_pure.mp hvalues
  have hwanted : Wanted (ids.getD []) object := by
    cases ids with
    | none => exact Or.inl rfl
    | some asked => exact Or.inr (hasked asked rfl)
  obtain ⟨hrecords,hall⟩ := h.initial hinitial
  have hempty : LoadedFrom records (Dict.empty : Loaded) := fun key found hget => nomatch hget
  have hin := hall object hobject hwanted
  obtain ⟨hfrom,hkept,hopens⟩ := h.loadGroups (hempty.saveObjects hrecords)
    (fun hzero => absurd hzero (by decide)) hloaded
  have hself : HasId loaded object.id :=
    hkept object.id (HasId.saveObjects hempty hrecords (Or.inr ⟨object,hin,rfl⟩))
  refine ⟨loaded.values,?_,Option.some.inj hconverted,?_⟩
  · intro response hresponse
    obtain ⟨key,hget⟩ := Dict.exists_get?_of_mem_values hresponse
    exact (hfrom key response hget).2
  · by_cases hgroup : isGroup object=true
    · obtain ⟨hlevels,hbelow⟩ := hopens object.id
        (List.mem_map.mpr ⟨object,List.mem_filter.mpr ⟨hin,hgroup⟩,rfl⟩)
      refine ⟨hlevels,fun id hid => ?_⟩
      rcases hbelow id hid with rfl|hfound
      · exact hself
      · exact hfound
    · have hleaf : ¬(recordsGraph records).IsGroup object.id := by
        rintro ⟨other,hother,hsame,hothergroup⟩
        have hdata := h.data other hother object hobject hsame
        rw [isGroup,hdata] at hothergroup
        exact hgroup hothergroup
      refine ⟨GroupGraph.opensWithin_of_not_isGroup hleaf maxGroupsDepth,fun id hid => ?_⟩
      rcases Relation.ReflTransGen.cases_head hid with rfl|⟨_,hm,-⟩
      · exact hself
      · exact absurd hm.1 hleaf

/-- Loading the groups of requested numbers always ends, and on what it returns the resolver of
leaves never meets an unknown number or a group too deep. -/
theorem loading_agrees_with_resolver {client : Client} {records : List AddrObjectResponse}
    (h : Consistent client records) (ids : Option (List ℤ)) :
    Ends (gatewayAddrObjects client ids) ∧
      ∀ fuel addrObjs,Returns (gatewayAddrObjects client ids fuel) addrObjs →
        ∀ object∈records,Requested ids object.id → ∀ error,
          (SDWANAddressGroupLeavesResolver.ofObjects addrObjs).resolveLeaves object.id=
            .error error → ¬UnknownIdError error ∧ ¬NestingLevelError error := by
  constructor
  · unfold gatewayAddrObjects
    by_cases hnone : ids=some []
    · simp only [if_pos hnone]
      exact ends_pure []
    · simp only [if_neg hnone]
      have hload : Ends fun fuel => getAddrObjectsRespWithExpandedGroups
          (fetchFrom client.controllers fuel) ids :=
        (ends_getAddrObjects h.ends (ids.getD []) []).bind fun initial =>
          (h.ends_loadGroups maxGroupsDepth _ _).bind fun loaded => ends_pure _
      exact hload.bind fun responses => ⟨0,_,fun _ _ => rfl⟩
  · intro fuel addrObjs hreturns object hobject hasked error herror
    obtain ⟨loaded,hrecords,hconvert,hlevels,hbelow⟩ :=
      h.toServes.exists_loaded hreturns hobject hasked
    obtain ⟨nets,-,hfrom,hkept⟩ := exists_nets hconvert
    obtain ⟨found,hfound,hid⟩ := hbelow object.id Relation.ReflTransGen.refl
    obtain ⟨addr,haddr,hconverted⟩ :=
      hkept found hfound (h.nets found (hrecords found hfound))
    have haddrId := (toSdwanAddrObject_matches hconverted).1
    exact (resolveLeavesAt_error (h.toServes.convertedFrom hrecords hfrom)
      ⟨addr,haddr,haddrId.trans hid⟩ hlevels herror).ne

section Sample

/-- The numbers in the brackets of a query. -/
def bracketed : List Char → List Char → List (List Char)
  | _,[] => []
  | number,c::rest =>
    if c= ')' then number::bracketed [] rest
    else bracketed (if c.isDigit=true ∨ c= '-' then number++[c] else number) rest

/-- What stands before a bracket is kept where it may stand in a number. -/
theorem bracketed_append {number text rest : List Char} (h : ')'∉text) :
    bracketed number (text++ ')'::rest)=
      (number++text.filter fun c => decide (c.isDigit=true ∨ c= '-'))::bracketed [] rest := by
  induction text generalizing number with
  | nil => simp [bracketed]
  | cons c text ih =>
    have hc : c≠ ')' := fun heq => h (heq▸List.mem_cons_self)
    rw [List.cons_append,bracketed,if_neg hc,ih fun hm => h (List.mem_cons_of_mem _ hm)]
    by_cases hkeep : c.isDigit=true ∨ c= '-'
    · simp [hkeep]
    · simp [hkeep]

/-- The numbers of a query are those it was made of. -/
theorem bracketed_parentsQuery (parentsIds : List ℤ) :
    bracketed [] (parentsQuery parentsIds).toList=
      parentsIds.map fun id => (toString id).toList := by
  have hclause : ∀ (words : String) (id : ℤ) (rest : List Char),
      words.toList.filter (fun c => decide (c.isDigit=true ∨ c= '-'))=[] → ')'∉words.toList →
      bracketed [] ((words++toString id++")").toList++rest)=
        (toString id).toList::bracketed [] rest := by
    intro words id rest hwords hbracket
    have hid : ')'∉(toString id).toList := fun hm => absurd (digit_or_sign hm) (by decide)
    have hkept : (toString id).toList.filter (fun c => decide (c.isDigit=true ∨ c= '-'))=
        (toString id).toList :=
      List.filter_eq_self.mpr fun c hc => decide_eq_true (digit_or_sign hc)
    have hsplit : (words++toString id++")").toList++rest=
        (words.toList++(toString id).toList)++ ')'::rest := by
      simp [String.toList_append]
    have hfree : ')'∉words.toList++(toString id).toList := fun hm =>
      (List.mem_append.mp hm).elim hbracket hid
    rw [hsplit,bracketed_append hfree,List.filter_append,hwords,hkept]
    rfl
  have hrun : ∀ (parentsIds : List ℤ) (parentId : ℤ) (lead : String),
      lead.toList.filter (fun c => decide (c.isDigit=true ∨ c= '-'))=[] → ')'∉lead.toList →
      bracketed [] (lead++parentsQuery (parentId::parentsIds)).toList=
        (parentId::parentsIds).map fun id => (toString id).toList := by
    intro parentsIds
    induction parentsIds with
    | nil =>
      intro parentId lead hlead hbracket
      have hwords : (lead++"parents = (").toList.filter
          (fun c => decide (c.isDigit=true ∨ c= '-'))=[] := by
        rw [String.toList_append,List.filter_append,hlead]
        rfl
      have htext : lead++parentsQuery [parentId]=(lead++"parents = (")++toString parentId++")" := by
        rw [parentsQuery,List.map_singleton,String.intercalate_singleton]
        simp only [String.append_assoc]
      rw [htext,←List.append_nil (String.toList _)]
      exact hclause _ parentId [] hwords (by simp [hbracket])
    | cons other parentsIds ih =>
      intro parentId lead hlead hbracket
      have hwords : (lead++"parents = (").toList.filter
          (fun c => decide (c.isDigit=true ∨ c= '-'))=[] := by
        rw [String.toList_append,List.filter_append,hlead]
        rfl
      have htext : lead++parentsQuery (parentId::other::parentsIds)=
          ((lead++"parents = (")++toString parentId++")")++
            (" or "++parentsQuery (other::parentsIds)) := by
        rw [parentsQuery,List.map_cons,List.map_cons,String.intercalate_cons_cons]
        simp only [String.append_assoc,parentsQuery,List.map_cons]
      rw [htext,String.toList_append,hclause _ parentId _ hwords (by simp [hbracket])]
      rw [ih other " or " (by simp) (by simp)]
      rfl
  cases parentsIds with
  | nil => rfl
  | cons parentId parentsIds =>
    have hquery := hrun parentsIds parentId "" rfl (by simp)
    rwa [String.empty_append] at hquery

/-- A group of a host and a network. -/
def sampleRecords : List AddrObjectResponse :=
  [⟨1,[],"group",.addrGroup 1⟩,⟨7,[1],"host",.host "10.0.0.7" false⟩,⟨8,[1],"net",.network "lan"⟩]

/-- The members of some parents, or all records. -/
def sampleFound (query : Option String) : List AddrObjectResponse :=
  match query with
  | none => sampleRecords
  | some query => if ['1']∈bracketed [] query.toList then sampleRecords.tail else []

/-- A controller with one group. -/
def sampleClient : Client where
  controllers query _ _ := .ok (.ok ⟨sampleFound query,(sampleFound query).length,none⟩)
  networks _ _ := .ok (.ok ⟨[⟨"lan",some "10.1.0.0/16"⟩],0,1⟩)

theorem fetchFrom_sampleClient (fuel : ℕ) (query : Option String) :
    Returns (fetchFrom sampleClient.controllers (fuel+1) query) (sampleFound query) := by
  have hstep : fetchStep (addrObjectsListing query) (sampleClient.controllers query) {}=
      .inr (.ok (sampleFound query)) := by
    unfold fetchStep
    have hpage : fetchPage (addrObjectsListing query) (sampleClient.controllers query) [] none=
        .ok ⟨sampleFound query,(sampleFound query).length,none⟩ := rfl
    rw [hpage]
    simp
  show fetchAllAddrObjects query (sampleClient.controllers query) (fuel+1)=_
  rw [fetchAllAddrObjects,fetchAll,loop,hstep]

theorem eq_sampleFound {fuel : ℕ} {query : Option String} {found : List AddrObjectResponse}
    (h : Returns (fetchFrom sampleClient.controllers fuel query) found) :
    found=sampleFound query := by
  cases fuel with
  | zero => cases h
  | succ fuel => exact h.unique (fetchFrom_sampleClient fuel query)

/-- Only one is written as one. -/
theorem eq_one_of_text {id : ℤ} (h : (toString id).toList=['1']) : id=1 := by
  cases id with
  | ofNat n =>
    have hrepr : n.repr=Nat.repr 1 := String.toList_inj.mp h
    rw [Nat.repr_injective hrepr]
    rfl
  | negSucc n =>
    have htext : toString (Int.negSucc n)="-"++toString (n+1) := rfl
    rw [htext,String.toList_append] at h
    exact absurd (List.cons.inj h).1 (by decide)

/-- The controller is consistent. -/
theorem consistent_sampleClient : Consistent sampleClient sampleRecords where
  ends query := by
    refine ⟨1,.ok (sampleFound query),fun fuel hfuel => ?_⟩
    obtain ⟨fuel,rfl⟩ : ∃ k,fuel=k+1 := ⟨fuel-1,by omega⟩
    exact fetchFrom_sampleClient fuel query
  all fuel found h object := by
    rw [eq_sampleFound h]
    rfl
  parents fuel parentsIds found h object := by
    have hone : ['1']∈bracketed [] (parentsQuery parentsIds).toList ↔ 1∈parentsIds := by
      rw [bracketed_parentsQuery,List.mem_map]
      constructor
      · rintro ⟨id,hid,htext⟩
        rwa [eq_one_of_text htext] at hid
      · exact fun hid => ⟨1,hid,rfl⟩
    rw [eq_sampleFound h,sampleFound]
    have hmembers : ∀ object∈sampleRecords,(∃ parent∈parentsIds,parent∈object.parents) ↔
        1∈parentsIds ∧ object∈sampleRecords.tail := by
      simp [sampleRecords]
    by_cases hin : 1∈parentsIds
    · rw [if_pos (hone.mpr hin)]
      constructor
      · intro hobject
        have hrecord := List.mem_of_mem_tail hobject
        exact ⟨hrecord,(hmembers object hrecord).mpr ⟨hin,hobject⟩⟩
      · rintro ⟨hrecord,hparent⟩
        exact ((hmembers object hrecord).mp hparent).2
    · rw [if_neg (fun hm => hin (hone.mp hm))]
      constructor
      · exact fun hobject => absurd hobject List.not_mem_nil
      · rintro ⟨hrecord,hparent⟩
        exact absurd ((hmembers object hrecord).mp hparent).1 hin
  data := by simp [sampleRecords]
  addrGroup := by simp [sampleRecords]
  nets := by
    intro object hobject networkId hid networks hnetworks
    obtain rfl : [⟨"lan",some "10.1.0.0/16"⟩]=networks := Except.ok.inj hnetworks
    refine ⟨⟨"lan",some "10.1.0.0/16"⟩,List.mem_singleton_self _,?_,Option.some_ne_none _⟩
    simp only [sampleRecords,List.mem_cons,List.not_mem_nil,or_false] at hobject
    rcases hobject with rfl|rfl|rfl
    · cases hid
    · cases hid
    · exact Option.some.inj hid

/-- The group is loaded and resolved. -/
theorem loading_agrees_with_resolver_sample :
    Ends (gatewayAddrObjects sampleClient (some [1])) ∧
      ∀ fuel addrObjs,Returns (gatewayAddrObjects sampleClient (some [1]) fuel) addrObjs →
        ∀ object∈sampleRecords,Requested (some [1]) object.id → ∀ error,
          (SDWANAddressGroupLeavesResolver.ofObjects addrObjs).resolveLeaves object.id=
            .error error → ¬UnknownIdError error ∧ ¬NestingLevelError error :=
  loading_agrees_with_resolver consistent_sampleClient (some [1])

end Sample

end NspMigrator.SdwanGroupLoading
