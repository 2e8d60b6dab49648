import Mathlib
import NspMigrator.ExecuteExactMatch
import NspMigrator.SdwanGroupLoading

/-!
# Members of loaded groups

What the gateway loads holds everything below a requested group, so opening
the group yields every leaf below it. The gateway leaves out references to
networks that have no net, and these the resolver cannot yield.
-/

namespace NspMigrator.SdwanGroupMembers

open PyDict PyExcept PyLoop GroupReach SdwanModels SdwanSchemas SdwanCatalogReading SdwanPaging
open SdwanAddressGroups SdwanGroupLoading ExecuteValues ExecuteRuleValues ExecuteExactMatch

/-- A number belongs to one record. -/
def UniqueIds (records : List AddrObjectResponse) : Prop :=
  ∀ object∈records,∀ other∈records,object.id=other.id → object=other

/-- The network a record refers to has a net. -/
def NetKnown (client : Client) (record : AddrObjectResponse) : Prop :=
  ∀ networkId,networkIdOf record=some networkId → HasNet client networkId

/-- An object has the value its record has on the controller. -/
def Reads (client : Client) (record : AddrObjectResponse) (addr : SdwanAddrObject) : Prop :=
  ∃ nets,NetsOf client nets ∧ toSdwanAddrObject nets record=.ok (some addr)

/-- A group is converted to a group. -/
theorem type_of_isGroup {nets : Nets} {object : AddrObjectResponse} {addr : SdwanAddrObject}
    (h : toSdwanAddrObject nets object=.ok (some addr)) (hgroup : isGroup object=true) :
    addr.type=.addrGroup := by
  unfold isGroup at hgroup
  unfold toSdwanAddrObject at h
  cases hdata : object.data with
  | addrGroup group =>
    rw [hdata] at h
    cases h
    rfl
  | _ =>
    rw [hdata] at hgroup
    cases hgroup

section Members

variable {records loaded : List AddrObjectResponse} {nets : Nets} {addrObjs : List SdwanAddrObject}

/-- Objects converted from some of the records. -/
structure ConvertedBy (records loaded : List AddrObjectResponse) (nets : Nets)
    (addrObjs : List SdwanAddrObject) : Prop where
  /-- Only records were loaded. -/
  known : ∀ object∈loaded,object∈records
  /-- Every object was converted from a loaded record. -/
  source : ∀ addr∈addrObjs,∃ object∈loaded,toSdwanAddrObject nets object=.ok (some addr)
  /-- A group has its own number. -/
  addrGroup : ∀ object∈records,∀ group,object.data=.addrGroup group → group=object.id
  /-- Records of one number have the same data. -/
  unique : UniqueIds records

/-- A converted group keeps its number, and names its members by it. -/
theorem ConvertedBy.groupId (h : ConvertedBy records loaded nets addrObjs) {addr : SdwanAddrObject}
    (haddr : addr∈addrObjs) (htype : addr.type=.addrGroup) :
    SDWANAddressGroupLeavesResolver.groupId addr=addr.id := by
  obtain ⟨object,hobject,hconverted⟩ := h.source addr haddr
  obtain ⟨hid,-,hgroup⟩ := toSdwanAddrObject_matches hconverted
  obtain ⟨-,group,hdata,haddrGroup⟩ := hgroup htype
  rw [SDWANAddressGroupLeavesResolver.groupId,haddrGroup,
    h.addrGroup object (h.known object hobject) group hdata,hid]
  dsimp only
  split
  · rfl
  · rfl

/-- Groups among the objects are the groups of the records. -/
theorem ConvertedBy.isGroup_iff (h : ConvertedBy records loaded nets addrObjs)
    {addr : SdwanAddrObject} (haddr : addr∈addrObjs) :
    (recordsGraph records).IsGroup addr.id ↔ addr.type=.addrGroup := by
  obtain ⟨object,hobject,hconverted⟩ := h.source addr haddr
  obtain ⟨hid,-,hgroup⟩ := toSdwanAddrObject_matches hconverted
  constructor
  · rintro ⟨record,hrecord,hsame,hrecordgroup⟩
    rw [h.unique record hrecord object (h.known object hobject) (hsame.trans hid)] at hrecordgroup
    exact type_of_isGroup hconverted hrecordgroup
  · exact fun htype => ⟨object,h.known object hobject,hid.symm,(hgroup htype).1⟩

/-- A number that is found belongs to the object found. -/
theorem mem_of_objectsById {id : ℤ} {object : SdwanAddrObject}
    (h : (SDWANAddressGroupLeavesResolver.ofObjects addrObjs).objectsById.get? id=some object) :
    object∈addrObjs ∧ object.id=id := by
  obtain ⟨found,hfound,hpair⟩ := List.mem_map.mp (Dict.mem_of_get?_ofList h)
  obtain ⟨hid,rfl⟩ := Prod.mk.inj hpair
  exact ⟨hfound,hid⟩

/-- What is yielded for a number is a loaded leaf below it. -/
theorem ConvertedBy.below_of_mem (h : ConvertedBy records loaded nets addrObjs) {remaining : ℕ}
    {id : ℤ} {leaves : List SdwanAddrObject}
    (hleaves : (SDWANAddressGroupLeavesResolver.ofObjects addrObjs).resolveLeavesAt remaining id=
      .ok leaves) {leaf : SdwanAddrObject} (hleaf : leaf∈leaves) :
    leaf∈addrObjs ∧ (recordsGraph records).LeafOf id leaf.id := by
  induction remaining using Nat.strong_induction_on generalizing id leaves with
  | _ remaining ih =>
    obtain ⟨object,hget,hcases⟩ := SDWANAddressGroupLeavesResolver.resolveLeavesAt_eq_ok hleaves
    obtain ⟨hobject,rfl⟩ := mem_of_objectsById hget
    rcases hcases with ⟨htype,rfl⟩|⟨htype,lower,lists,rfl,hlists,rfl⟩
    · obtain rfl := List.mem_singleton.mp hleaf
      have hnot : ¬(recordsGraph records).IsGroup leaf.id := fun hg =>
        htype ((h.isGroup_iff hobject).mp hg)
      exact ⟨hobject,(GroupGraph.leafOf_of_not_isGroup hnot).mpr rfl⟩
    · have hgroup := (h.isGroup_iff hobject).mpr htype
      obtain ⟨list,hlist,hin⟩ := List.mem_flatten.mp hleaf
      obtain ⟨child,hchild,hsub⟩ := exists_of_mem_mapM hlists hlist
      have hmember := List.mem_of_mem_filter hchild
      rw [h.groupId hobject htype] at hmember
      obtain ⟨hloaded,hparent⟩ := mem_children.mp hmember
      obtain ⟨record,hrecord,hconverted⟩ := h.source child hloaded
      obtain ⟨hid,hparents,-⟩ := toSdwanAddrObject_matches hconverted
      have hlists : (recordsGraph records).Lists object.id child.id :=
        ⟨record,h.known record hrecord,hid.symm,hparents▸hparent⟩
      obtain ⟨hleafin,hbelow⟩ := ih lower (Nat.lt_succ_self lower) hsub hin
      exact ⟨hleafin,(GroupGraph.leafOf_of_isGroup hgroup).mpr ⟨child.id,hlists,hbelow⟩⟩

/-- Where everything below a number is loaded, every leaf that was converted is yielded. -/
theorem ConvertedBy.mem_of_leafOf (h : ConvertedBy records loaded nets addrObjs)
    {Kept : AddrObjectResponse → Prop} (hgroups : ∀ object∈loaded,isGroup object=true → Kept object)
    (hkept : ∀ object∈loaded,Kept object →
      ∃ addr∈addrObjs,toSdwanAddrObject nets object=.ok (some addr))
    {remaining : ℕ} {id : ℤ} {leaves : List SdwanAddrObject}
    (hleaves : (SDWANAddressGroupLeavesResolver.ofObjects addrObjs).resolveLeavesAt remaining id=
      .ok leaves)
    (hloaded : ∀ other,(recordsGraph records).Below id other → ∃ found∈loaded,found.id=other)
    {record : AddrObjectResponse} (hrecord : record∈records) (hrecordkept : Kept record)
    (hleaf : (recordsGraph records).LeafOf id record.id) : ∃ leaf∈leaves,leaf.id=record.id := by
  induction remaining using Nat.strong_induction_on generalizing id leaves with
  | _ remaining ih =>
    obtain ⟨object,hget,hcases⟩ := SDWANAddressGroupLeavesResolver.resolveLeavesAt_eq_ok hleaves
    obtain ⟨hobject,rfl⟩ := mem_of_objectsById hget
    rcases hcases with ⟨htype,rfl⟩|⟨htype,lower,lists,rfl,hlists,rfl⟩
    · have hnot : ¬(recordsGraph records).IsGroup object.id := fun hg =>
        htype ((h.isGroup_iff hobject).mp hg)
      exact ⟨object,List.mem_singleton_self _,
        ((GroupGraph.leafOf_of_not_isGroup hnot).mp hleaf).symm⟩
    · have hgroup := (h.isGroup_iff hobject).mpr htype
      have hne : record.id≠object.id := fun heq => hleaf.2 (heq▸hgroup)
      obtain ⟨childId,hmember,hother,hbelow⟩ :=
        GroupGraph.exists_member_of_below hleaf.1 hne
      obtain ⟨childRecord,hchildRecord,rfl,hparent⟩ := hmember.2
      obtain ⟨found,hfound,hfoundId⟩ :=
        hloaded childRecord.id (Relation.ReflTransGen.single hmember)
      obtain rfl := h.unique found (h.known found hfound) childRecord hchildRecord hfoundId
      -- the member is a group, or it is the leaf itself
      have hchildkept : Kept found := by
        by_cases hchildgroup : isGroup found=true
        · exact hgroups found hfound hchildgroup
        · have hnot : ¬(recordsGraph records).IsGroup found.id := by
            rintro ⟨other,hin,hsame,hothergroup⟩
            rw [h.unique other hin found hchildRecord hsame] at hothergroup
            exact hchildgroup hothergroup
          have hsame := (GroupGraph.leafOf_of_not_isGroup hnot).mp ⟨hbelow,hleaf.2⟩
          rwa [h.unique found hchildRecord record hrecord hsame.symm]
      obtain ⟨child,hchild,hconverted⟩ := hkept found hfound hchildkept
      obtain ⟨hid,hparents,-⟩ := toSdwanAddrObject_matches hconverted
      have hlisted :
          child∈(((SDWANAddressGroupLeavesResolver.ofObjects addrObjs).childrenByParent.get?
          (SDWANAddressGroupLeavesResolver.groupId object)).getD []).filter
            fun child => decide (child.id≠object.id) := by
        rw [h.groupId hobject htype]
        exact List.mem_filter.mpr ⟨mem_children.mpr ⟨hchild,hparents▸hparent⟩,
          decide_eq_true (hid▸hother)⟩
      obtain ⟨list,hlist,hsub⟩ := exists_of_mapM_eq_ok hlists hlisted
      rw [hid] at hsub
      obtain ⟨leaf,hin,hleafId⟩ := ih lower (Nat.lt_succ_self lower) hsub
        (fun other ho => hloaded other (Relation.ReflTransGen.head hmember ho)) ⟨hbelow,hleaf.2⟩
      exact ⟨leaf,List.mem_flatten.mpr ⟨list,hlist,hin⟩,hleafId⟩

end Members

/-- Opening a requested group yields the values of the leaves below it, all but references to
networks not listed with a net, and a rule is compared by these values. -/
theorem groups_keep_members [PyText.PyUnicode] {client : Client} {records : List AddrObjectResponse}
    (h : Serves client records) (hunique : UniqueIds records) {ids : Option (List ℤ)} {fuel : ℕ}
    {addrObjs : List SdwanAddrObject}
    (hload : Returns (gatewayAddrObjects client ids fuel) addrObjs)
    {object : AddrObjectResponse} (hobject : object∈records) (hasked : Requested ids object.id) :
    (∀ leaves,
      (SDWANAddressGroupLeavesResolver.ofObjects addrObjs).resolveLeaves object.id=.ok leaves →
      (∀ leaf∈leaves,∃ record∈records,(recordsGraph records).LeafOf object.id record.id ∧
        Reads client record leaf) ∧
      ∀ record∈records,(recordsGraph records).LeafOf object.id record.id → NetKnown client record →
        ∃ leaf∈leaves,Reads client record leaf) ∧
    ∀ zones services operands values,object.id∈operands →
      (RuleValuesResolver.ofObjects zones services addrObjs).resolveAddressValues operands=
        .ok values →
      ∀ record∈records,(recordsGraph records).LeafOf object.id record.id → NetKnown client record →
        ∃ leaf,Reads client record leaf ∧ ∃ value,
          RuleValuesResolver.addressValueFromLeaf leaf=.ok value ∧ value∈valueSet values := by
  obtain ⟨loaded,hrecords,hconvert,-,hbelow⟩ := h.exists_loaded hload hobject hasked
  obtain ⟨nets,hnets,hsource,hkept⟩ := exists_nets hconvert
  have hby : ConvertedBy records loaded nets addrObjs := ⟨hrecords,hsource,h.addrGroup,hunique⟩
  have hgroups : ∀ object∈loaded,isGroup object=true → NetKnown client object := by
    intro object _ hgroup networkId hnetwork
    unfold isGroup at hgroup
    unfold networkIdOf at hnetwork
    cases hdata : object.data with
    | network _ =>
      rw [hdata] at hgroup
      cases hgroup
    | _ =>
      rw [hdata] at hnetwork
      cases hnetwork
  have hreads : ∀ leaf∈addrObjs,∃ record∈records,record.id=leaf.id ∧ Reads client record leaf := by
    intro leaf hleaf
    obtain ⟨record,hrecord,hconverted⟩ := hsource leaf hleaf
    exact ⟨record,hrecords record hrecord,(toSdwanAddrObject_matches hconverted).1.symm,nets,hnets,
      hconverted⟩
  have hcomplete : ∀ leaves,
      (SDWANAddressGroupLeavesResolver.ofObjects addrObjs).resolveLeaves object.id=.ok leaves →
      ∀ record∈records,(recordsGraph records).LeafOf object.id record.id → NetKnown client record →
        ∃ leaf∈leaves,Reads client record leaf := by
    intro leaves hleaves record hrecord hleafOf hknown
    obtain ⟨leaf,hleaf,hid⟩ :=
      hby.mem_of_leafOf hgroups hkept hleaves hbelow hrecord hknown hleafOf
    obtain ⟨other,hother,hsame,hread⟩ := hreads leaf (hby.below_of_mem hleaves hleaf).1
    rw [hunique other hother record hrecord (hsame.trans hid)] at hread
    exact ⟨leaf,hleaf,hread⟩
  refine ⟨fun leaves hleaves => ⟨?_,hcomplete leaves hleaves⟩,?_⟩
  · intro leaf hleaf
    obtain ⟨hin,hleafOf⟩ := hby.below_of_mem hleaves hleaf
    obtain ⟨record,hrecord,hid,hread⟩ := hreads leaf hin
    exact ⟨record,hrecord,hid▸hleafOf,hread⟩
  · intro zones services operands values hoperand hvalues record hrecord hleafOf hknown
    have hset := coe_valueSet_addresses hvalues
    obtain ⟨lists,hlists,-⟩ := PyExcept.bind_eq_ok.mp hvalues
    obtain ⟨list,-,hstep⟩ := exists_of_mapM_eq_ok hlists hoperand
    obtain ⟨leaves,hleaves,hlist⟩ := PyExcept.bind_eq_ok.mp hstep
    obtain ⟨leaf,hleaf,hread⟩ := hcomplete leaves hleaves record hrecord hleafOf hknown
    obtain ⟨resolved,-,hresolved⟩ := exists_of_mapM_eq_ok hlist hleaf
    obtain ⟨value,hvalue,-⟩ := PyExcept.bind_eq_ok.mp hresolved
    refine ⟨leaf,hread,value,hvalue,?_⟩
    rw [←Finset.mem_coe,hset]
    exact ⟨object.id,hoperand,leaves,hleaves,leaf,hleaf,hvalue⟩

section Sample

/-- The sample controller with other networks. -/
def listingClient (networks : List StoredNetwork) : Client :=
  { sampleClient with networks := fun _ _ => .ok (.ok ⟨networks,0,networks.length⟩) }

/-- The sample controller, where the network has lost its net. -/
def netlessClient : Client := listingClient [⟨"lan",none⟩]

/-- The sample controller, where the network is not listed. -/
def unlistedClient : Client := listingClient []

theorem serves_listingClient (networks : List StoredNetwork) :
    Serves (listingClient networks) sampleRecords where
  all := consistent_sampleClient.all
  parents := consistent_sampleClient.parents
  data := consistent_sampleClient.data
  addrGroup := consistent_sampleClient.addrGroup

theorem uniqueIds_sampleRecords : UniqueIds sampleRecords := by
  simp [UniqueIds,sampleRecords]

/-- The reference to the network. -/
def netRecord : AddrObjectResponse := ⟨8,[1],"net",.network "lan"⟩

/-- The reference is a leaf of the group. -/
theorem leafOf_netRecord : (recordsGraph sampleRecords).LeafOf 1 netRecord.id := by
  have hgroup : (recordsGraph sampleRecords).IsGroup 1 :=
    ⟨⟨1,[],"group",.addrGroup 1⟩,List.mem_cons_self,rfl,rfl⟩
  have hleaf : ¬(recordsGraph sampleRecords).IsGroup netRecord.id := by
    rintro ⟨object,hobject,hid,hisgroup⟩
    simp only [sampleRecords,List.mem_cons,List.not_mem_nil,or_false] at hobject
    rcases hobject with rfl|rfl|rfl
    · cases hid
    · cases hid
    · cases hisgroup
  have hlists : (recordsGraph sampleRecords).Lists 1 netRecord.id :=
    ⟨netRecord,by simp [sampleRecords,netRecord],rfl,by simp [netRecord]⟩
  exact ⟨Relation.ReflTransGen.single ⟨hgroup,hlists⟩,hleaf⟩

/-- The objects of the group and the host. -/
def groupAndHost : List SdwanAddrObject :=
  [.ofGroup 1 [] "group" (some 1),.ofHost 7 [1] "host" (.ofNat 167772167)]

/-- The object of the reference. -/
def netObject : SdwanAddrObject := .ofNetwork 8 [1] "net" "lan" (.ofNat 167837696 16)

/-- With its net the network is among the leaves. -/
theorem groups_keep_members_sample :
    Returns (gatewayAddrObjects sampleClient (some [1]) 1) (groupAndHost++[netObject]) ∧
      ∃ leaves,
        (SDWANAddressGroupLeavesResolver.ofObjects (groupAndHost++[netObject])).resolveLeaves 1=
        .ok leaves ∧ ∃ leaf∈leaves,Reads sampleClient netRecord leaf := by
  have hload : Returns (gatewayAddrObjects sampleClient (some [1]) 1) (groupAndHost++[netObject]) :=
    rfl
  have hasked : Requested (some [1]) 1 := fun _ heq => Option.some.inj heq▸List.mem_singleton_self 1
  have hkept := (@groups_keep_members PyText.asciiUnicode _ _ consistent_sampleClient.toServes
    uniqueIds_sampleRecords _ _ _ hload _
    (List.mem_cons_self : (⟨1,[],"group",.addrGroup 1⟩ : AddrObjectResponse)∈sampleRecords)
    hasked).1 _ rfl
  exact ⟨hload,_,rfl,hkept.2 netRecord (by simp [sampleRecords,netRecord]) leafOf_netRecord
    (consistent_sampleClient.nets netRecord (by simp [sampleRecords,netRecord]))⟩

/-- The group is resolved to the host alone, though the reference is a leaf of it. -/
def DropsMember (client : Client) : Prop :=
  Serves client sampleRecords ∧ UniqueIds sampleRecords ∧
    Returns (gatewayAddrObjects client (some [1]) 1) groupAndHost ∧
    (SDWANAddressGroupLeavesResolver.ofObjects groupAndHost).resolveLeaves 1=
      .ok [.ofHost 7 [1] "host" (.ofNat 167772167)] ∧
    netRecord∈sampleRecords ∧ (recordsGraph sampleRecords).LeafOf 1 netRecord.id

/-- A network without a net is missing among the leaves, and so is one that is
not listed; the group is resolved all the same. -/
theorem netless_member_dropped : DropsMember netlessClient ∧ DropsMember unlistedClient := by
  have hleaf : netRecord∈sampleRecords := by simp [sampleRecords,netRecord]
  exact ⟨⟨serves_listingClient _,uniqueIds_sampleRecords,rfl,rfl,hleaf,leafOf_netRecord⟩,
    ⟨serves_listingClient _,uniqueIds_sampleRecords,rfl,rfl,hleaf,leafOf_netRecord⟩⟩

end Sample

end NspMigrator.SdwanGroupMembers
