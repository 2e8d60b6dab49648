import Mathlib
import NspMigrator.CanonicalReader
import NspMigrator.MappingObjects
import NspMigrator.MappingRules

/-!
# Rules of a scope lose nothing

The snapshot is opened when it is read, results are built for what was read,
and groups are opened again when the rules are built. The three agree: for
groups that list something and are nested within the bound, every selection
of rules is built, and the operands of a rule are exactly the results of the
leaves its canonical operands stand for.
-/

namespace NspMigrator.MappingRulesExact

open PyDict PyText PyExcept SdwanModels ExecuteRepository GroupReach CanonicalModels
open CanonicalGroupExpansion (groupKinds)
open CanonicalScope CanonicalReader MappingEntities MappingGroupIndex

/-- A nonempty list of rules of a snapshot, none of them twice. -/
structure Selects (snapshot : CanonicalSnapshot) (ruleIds : List ℕ) : Prop where
  /-- Some rule is selected. -/
  ne : ruleIds≠[]
  /-- None is selected twice. -/
  nodup : ruleIds.Nodup
  /-- All of them are in the snapshot. -/
  known : ∀ id∈ruleIds,∃ rule∈snapshot.rules,rule.id=id

/-- The numbers of the objects the operands of rules refer to. -/
def seedIds (snapshot : CanonicalSnapshot) (ruleIds : List ℕ) : Finset ℕ :=
  ((snapshot.getOperandsByRuleIds ruleIds).filterMap (·.targetObjectId)).toFinset

/-- An object of a family below the operands of rules. -/
def InScope (snapshot : CanonicalSnapshot) (ruleIds : List ℕ) (family : ObjectFamily)
    (id : ℕ) : Prop :=
  (∃ object∈snapshot.objects,object.id=id ∧ object.value.objectFamily=family) ∧
    ∃ seed∈seedIds snapshot ruleIds,snapshot.graph.Below seed id

variable {snapshot : CanonicalSnapshot} {ruleIds : List ℕ}

/-- The selected rules are read, each once. -/
theorem listFiltered_ids (h : Selects snapshot ruleIds) :
    ((snapshot.listFiltered ruleIds).map (·.id)).Perm ruleIds := by
  have hperm := (List.perm_insertionSort (fun a b : CanonicalModels.CanonicalRule =>
    a.priority<b.priority ∨ a.priority=b.priority ∧ a.id≤ b.id) (snapshot.rules.filter
      fun rule => decide (ruleIds=[] ∨ rule.id∈ruleIds))).map (·.id)
  refine hperm.trans ((List.perm_ext_iff_of_nodup ?_ h.nodup).mpr ?_)
  · exact snapshot.rules_nodup.sublist (List.filter_sublist.map _)
  · intro id
    simp only [List.mem_map,List.mem_filter,decide_eq_true_eq,h.ne,false_or]
    constructor
    · rintro ⟨rule,⟨-,hid⟩,rfl⟩
      exact hid
    · intro hid
      obtain ⟨rule,hrule,rfl⟩ := h.known id hid
      exact ⟨rule,⟨hrule,hid⟩,rfl⟩

/-- The operands that are read are those of the rules. -/
theorem mem_getOperandsByRuleIds {operand : CanonicalModels.CanonicalRuleOperand} :
    operand∈snapshot.getOperandsByRuleIds ruleIds ↔
      operand∈snapshot.operands ∧ operand.ruleId∈ruleIds := by
  rw [CanonicalSnapshot.getOperandsByRuleIds,List.mem_insertionSort,List.mem_filter,
    decide_eq_true_eq]

/-- Reading operands does not depend on the order of the rules. -/
theorem getOperandsByRuleIds_congr {others : List ℕ} (h : ruleIds.Perm others) :
    snapshot.getOperandsByRuleIds ruleIds=snapshot.getOperandsByRuleIds others := by
  simp only [CanonicalSnapshot.getOperandsByRuleIds,h.mem_iff]

/-- The objects operands refer to. -/
theorem mem_seedIds {seed : ℕ} : seed∈seedIds snapshot ruleIds ↔
    ∃ operand∈snapshot.operands,operand.ruleId∈ruleIds ∧ operand.targetObjectId=some seed := by
  simp only [seedIds,List.mem_toFinset,List.mem_filterMap,mem_getOperandsByRuleIds,and_assoc]

/-- The scope of a selection, with the objects below its operands. -/
theorem getCanonicalRuleScope_eq (h : Selects snapshot ruleIds) :
    (snapshot.getCanonicalRuleScope ruleIds).zones=
        snapshot.collectZones (snapshot.getOperandsByRuleIds ruleIds) true ∧
      (snapshot.getCanonicalRuleScope ruleIds).objects=
        snapshot.collectObjects (snapshot.getOperandsByRuleIds ruleIds) true ∧
      (snapshot.getCanonicalRuleScope ruleIds).rules=
        (snapshot.listFiltered ruleIds).map fun rule => ⟨rule,some
          ((snapshot.getOperandsByRuleIds ruleIds).filter
            fun operand => decide (operand.ruleId=rule.id))⟩ := by
  have hne : decide (ruleIds≠[])=true := decide_eq_true h.ne
  have hoperands : snapshot.getOperandsByRuleIds ((snapshot.listFiltered ruleIds).map (·.id))=
      snapshot.getOperandsByRuleIds ruleIds := getOperandsByRuleIds_congr (listFiltered_ids h)
  refine ⟨?_,?_,?_⟩
  · rw [CanonicalSnapshot.getCanonicalRuleScope,hne,hoperands]
  · rw [CanonicalSnapshot.getCanonicalRuleScope,hne,hoperands]
  · simp only [CanonicalSnapshot.getCanonicalRuleScope,hoperands,getD_groupBy]

/-- Members of an object of a family are of the same family. -/
theorem member_inScope {family : ObjectFamily} {parent child : ℕ}
    (hparent : InScope snapshot ruleIds family parent)
    (hmember : snapshot.graph.Member parent child) : InScope snapshot ruleIds family child := by
  obtain ⟨⟨object,ho,hid,hfamily⟩,seed,hseed,hbelow⟩ := hparent
  obtain ⟨member,hm,hparentId,hchildId⟩ := hmember.2
  obtain ⟨group,hgroup,other,hother,hgid,hoid,hsame⟩ := snapshot.member_refs member hm
  have heq : group=object :=
    snapshot.object_ext hgroup ho (by rw [hgid,hparentId,hid])
  refine ⟨⟨other,hother,by rw [hoid,hchildId],?_⟩,seed,hseed,hbelow.tail hmember⟩
  rw [hsame,heq,hfamily]

/-- Everything below an object of a family is of that family. -/
theorem inScope_of_below {family : ObjectFamily} {top node : ℕ}
    (htop : InScope snapshot ruleIds family top) (h : snapshot.graph.Below top node) :
    InScope snapshot ruleIds family node := by
  induction h with
  | refl => exact htop
  | tail _ hm ih => exact member_inScope ih hm

/-- The objects that are read, with the groups they were found in. -/
theorem mem_collectObjects {dto : CanonicalObjectDTO} :
    dto∈snapshot.collectObjects (snapshot.getOperandsByRuleIds ruleIds) true →
      dto.object∈snapshot.objects ∧
        (∃ seed∈seedIds snapshot ruleIds,snapshot.graph.Below seed dto.object.id) ∧
        ∀ parent,parent∈dto.parentIds ↔ snapshot.graph.Member parent dto.object.id ∧
          ∃ seed∈seedIds snapshot ruleIds,snapshot.graph.Below seed parent := by
  intro hdto
  rw [CanonicalSnapshot.collectObjects,if_pos rfl] at hdto
  obtain ⟨object,ho,rfl⟩ := List.mem_map.mp hdto
  obtain ⟨hobject,hbelow⟩ := mem_expandObjectGroups.mp ho
  refine ⟨hobject,hbelow,?_⟩
  intro parent
  rw [List.mem_insertionSort]
  exact mem_expandObjectGroups_parents

/-- The numbers of the objects that are read. -/
theorem mem_collectObjects_ids {id : ℕ} :
    (∃ dto∈snapshot.collectObjects (snapshot.getOperandsByRuleIds ruleIds) true,
      dto.object.id=id) ↔ (∃ object∈snapshot.objects,object.id=id) ∧
        ∃ seed∈seedIds snapshot ruleIds,snapshot.graph.Below seed id := by
  constructor
  · rintro ⟨dto,hdto,rfl⟩
    obtain ⟨hobject,hbelow,-⟩ := mem_collectObjects hdto
    exact ⟨⟨dto.object,hobject,rfl⟩,hbelow⟩
  · rintro ⟨⟨object,ho,rfl⟩,hbelow⟩
    rw [CanonicalSnapshot.collectObjects,if_pos rfl]
    exact ⟨_,List.mem_map_of_mem (mem_expandObjectGroups.mpr ⟨ho,hbelow⟩),rfl⟩

/-- No object is read twice. -/
theorem collectObjects_nodup (snapshot : CanonicalSnapshot)
    (operands : List CanonicalModels.CanonicalRuleOperand) :
    ((snapshot.collectObjects operands true).map (·.object.id)).Nodup := by
  rw [CanonicalSnapshot.collectObjects,if_pos rfl,List.map_map]
  exact expandObjectGroups_nodup snapshot _

/-- What a family makes of an object keeps its number, its groups, and whether
it is a group. -/
def ReadsObject {α : Type} [GroupedObject α] (dto : CanonicalObjectDTO) (object : α) : Prop :=
  GroupedObject.objectId object=dto.object.id ∧
    GroupedObject.parentIds object=dto.parentIds ∧
    (GroupedObject.isGroup object=true ↔ dto.object.value.objectKind∈groupKinds)

/-- The objects of a family, as they were read, depict their part of the snapshot. -/
theorem depicts {α : Type} [GroupedObject α] {family : ObjectFamily} {objects : List α}
    (h : List.Forall₂ ReadsObject
      ((snapshot.collectObjects (snapshot.getOperandsByRuleIds ruleIds) true).filter
        fun dto => decide (dto.object.value.objectFamily=family)) objects) :
    Depicts snapshot.graph (InScope snapshot ruleIds family) objects := by
  have hids : objects.map GroupedObject.objectId=
      ((snapshot.collectObjects (snapshot.getOperandsByRuleIds ruleIds) true).filter
        fun dto => decide (dto.object.value.objectFamily=family)).map (·.object.id) := by
    rw [←List.forall₂_eq_eq_eq,List.forall₂_map_left_iff,List.forall₂_map_right_iff]
    exact h.flip.imp fun object dto hreads => hreads.1
  have hsource : ∀ object∈objects,∃ dto∈snapshot.collectObjects
      (snapshot.getOperandsByRuleIds ruleIds) true,
      dto.object.value.objectFamily=family ∧ ReadsObject dto object := by
    intro object ho
    obtain ⟨i,hi,rfl⟩ := List.mem_iff_getElem.mp ho
    have hj := h.length_eq.trans_ge hi
    refine ⟨_,(List.mem_filter.mp (List.getElem_mem hj)).1,?_,h.get hj hi⟩
    simpa using (List.mem_filter.mp (List.getElem_mem hj)).2
  refine ⟨?_,?_,?_,?_,fun parent hp child hm => member_inScope hp hm⟩
  · rw [hids]
    exact (collectObjects_nodup snapshot _).sublist (List.filter_sublist.map _)
  · intro node
    rw [hids,List.mem_map]
    simp only [List.mem_filter,decide_eq_true_eq]
    constructor
    · rintro ⟨dto,⟨hdto,hfamily⟩,rfl⟩
      obtain ⟨hobject,hbelow,-⟩ := mem_collectObjects hdto
      exact ⟨⟨dto.object,hobject,rfl,hfamily⟩,hbelow⟩
    · rintro ⟨⟨object,ho,rfl,hfamily⟩,hbelow⟩
      obtain ⟨dto,hdto,hid⟩ := mem_collectObjects_ids.mpr ⟨⟨object,ho,rfl⟩,hbelow⟩
      have heq := snapshot.object_ext (mem_collectObjects hdto).1 ho hid
      exact ⟨dto,⟨hdto,by rw [heq]; exact hfamily⟩,hid⟩
  · intro object ho
    obtain ⟨dto,hdto,-,hid,-,hgroup⟩ := hsource object ho
    obtain ⟨hobject,-,-⟩ := mem_collectObjects hdto
    rw [hgroup,hid]
    constructor
    · exact fun hkind => ⟨dto.object,hobject,rfl,hkind⟩
    · rintro ⟨other,hother,heq,hkind⟩
      rwa [←snapshot.object_ext hother hobject heq]
  · intro object ho parent
    obtain ⟨dto,hdto,hfamily,hid,hparents,-⟩ := hsource object ho
    obtain ⟨hobject,hbelow,hmem⟩ := mem_collectObjects hdto
    rw [hparents,hmem,hid]
    apply and_congr_right
    intro hmember
    constructor
    · rintro ⟨seed,hseed,hbelowParent⟩
      -- A group has the family of its members.
      obtain ⟨member,hm,hparentId,hchildId⟩ := hmember.2
      obtain ⟨group,hgroup,other,hother,hgid,hoid,hsame⟩ := snapshot.member_refs member hm
      have heq : other=dto.object :=
        snapshot.object_ext hother hobject (by rw [hoid,hchildId])
      refine ⟨⟨group,hgroup,by rw [hgid,hparentId],?_⟩,seed,hseed,hbelowParent⟩
      rw [←hsame,heq,hfamily]
    · exact fun hp => hp.2

/-- An object of the address family is read as an address object. -/
theorem mapCanonicalObjToAddr_spec {dto : CanonicalObjectDTO} (hdto : dto.object∈snapshot.objects)
    (hfamily : dto.object.value.objectFamily=.addr) :
    ∃ object,mapCanonicalObjToAddr dto=.ok object ∧ ReadsObject dto object := by
  have hkind := snapshot.kind_family dto.object hdto
  rw [hfamily] at hkind
  simp only [mapCanonicalObjToAddr]
  cases h : dto.object.value.objectKind <;> rw [h] at hkind <;> first
    | exact ⟨_,rfl,rfl,rfl,by simp [GroupedObject.isGroup,groupKinds,h]⟩
    | cases hkind

/-- An object of the service family is read as a service. -/
theorem mapCanonicalObjToService_spec {dto : CanonicalObjectDTO}
    (hdto : dto.object∈snapshot.objects)
    (hfamily : dto.object.value.objectFamily=.service) :
    ∃ object,mapCanonicalObjToService dto=.ok object ∧ ReadsObject dto object := by
  have hkind := snapshot.kind_family dto.object hdto
  rw [hfamily] at hkind
  simp only [mapCanonicalObjToService]
  cases h : dto.object.value.objectKind <;> rw [h] at hkind <;> first
    | exact ⟨_,rfl,rfl,rfl,by simp [GroupedObject.isGroup,groupKinds,h]⟩
    | cases hkind

/-- Objects of a snapshot are read, each by its family, in their order. -/
theorem mapM_mapCanonicalObj {dtos : List CanonicalObjectDTO}
    (h : ∀ dto∈dtos,dto.object∈snapshot.objects) :
    ∃ objects,dtos.mapM mapCanonicalObj=.ok objects ∧
      List.Forall₂ ReadsObject
        (dtos.filter fun dto => decide (dto.object.value.objectFamily=.addr))
        (objects.filterMap Sum.getLeft?) ∧
      List.Forall₂ ReadsObject
        (dtos.filter fun dto => decide (dto.object.value.objectFamily=.service))
        (objects.filterMap Sum.getRight?) := by
  induction dtos with
  | nil => exact ⟨[],rfl,List.Forall₂.nil,List.Forall₂.nil⟩
  | cons dto rest ih =>
    obtain ⟨objects,heq,haddrs,hservices⟩ := ih fun other ho => h other (List.mem_cons_of_mem _ ho)
    have hdto := h dto List.mem_cons_self
    have hcons : ∀ object,mapCanonicalObj dto=.ok object →
        (dto::rest).mapM mapCanonicalObj=.ok (object::objects) := fun object ho =>
      mapM_eq_ok.mpr (List.Forall₂.cons ho (mapM_eq_ok.mp heq))
    cases hfamily : dto.object.value.objectFamily with
    | addr =>
      obtain ⟨object,hobject,hreads⟩ := mapCanonicalObjToAddr_spec hdto hfamily
      refine ⟨Sum.inl object::objects,hcons _ ?_,?_,?_⟩
      · simp only [mapCanonicalObj,hfamily]
        exact map_eq_ok.mpr ⟨object,hobject,rfl⟩
      · simpa [hfamily] using List.Forall₂.cons hreads haddrs
      · rw [List.filterMap_cons_none rfl]
        simpa [hfamily] using hservices
    | service =>
      obtain ⟨object,hobject,hreads⟩ := mapCanonicalObjToService_spec hdto hfamily
      refine ⟨Sum.inr object::objects,hcons _ ?_,?_,?_⟩
      · simp only [mapCanonicalObj,hfamily]
        exact map_eq_ok.mpr ⟨object,hobject,rfl⟩
      · rw [List.filterMap_cons_none rfl]
        simpa [hfamily] using haddrs
      · simpa [hfamily] using List.Forall₂.cons hreads hservices

/-- A selection is read with its zones, and with objects that depict their
part of the snapshot. -/
theorem getCanonicalScopeEntitiesData_spec {snapshots : SnapshotStore} {snapshotId : ℕ}
    (hfind : snapshots.get? snapshotId=some snapshot) (h : Selects snapshot ruleIds) :
    ∃ entities,getCanonicalScopeEntitiesData snapshots snapshotId ruleIds=.ok entities ∧
      (entities.zones.map (·.id)).Nodup ∧
      (∀ operand∈snapshot.operands,operand.ruleId∈ruleIds → ∀ zoneId,
        operand.targetZoneId=some zoneId → ∀ zone∈snapshot.zones,zone.id=zoneId →
          ∃ zone∈entities.zones,zone.id=zoneId) ∧
      Depicts snapshot.graph (InScope snapshot ruleIds .addr) entities.addrObjects ∧
      Depicts snapshot.graph (InScope snapshot ruleIds .service) entities.services := by
  obtain ⟨hzones,hobjects,hrules⟩ := getCanonicalRuleScope_eq h
  have hids := listFiltered_ids h
  have hlength : (snapshot.getCanonicalRuleScope ruleIds).rules.length=ruleIds.length := by
    rw [hrules,List.length_map,←hids.length_eq,List.length_map]
  have hne : (snapshot.getCanonicalRuleScope ruleIds).rules≠[] := by
    rw [←List.length_pos_iff_ne_nil,hlength]
    exact List.length_pos_iff_ne_nil.mpr h.ne
  have hscope : getCanonicalRuleScope snapshots snapshotId ruleIds=
      .ok (snapshot.getCanonicalRuleScope ruleIds) := by
    rw [getCanonicalRuleScope,hfind]
  have hfound : ∀ dto∈snapshot.collectObjects (snapshot.getOperandsByRuleIds ruleIds) true,
      dto.object∈snapshot.objects := fun dto hdto => (mem_collectObjects hdto).1
  obtain ⟨objects,heq,haddrs,hservices⟩ := mapM_mapCanonicalObj hfound
  let zones : List MappingSchemas.CanonicalZone :=
    (snapshot.collectZones (snapshot.getOperandsByRuleIds ruleIds) true).map
      fun zone => ⟨zone.id,zone.zoneKey,zone.name⟩
  refine ⟨⟨zones,objects.filterMap Sum.getLeft?,objects.filterMap Sum.getRight?⟩,?_,?_,?_,
    depicts haddrs,depicts hservices⟩
  · rw [getCanonicalScopeEntitiesData]
    simp only [h.ne,if_false]
    refine bind_eq_ok.mpr ⟨snapshot.getCanonicalRuleScope ruleIds,hscope,?_⟩
    simp only [hne,if_false,hlength,hobjects,hzones,ne_eq,not_true_eq_false]
    exact bind_eq_ok.mpr ⟨objects,heq,rfl⟩
  · rw [List.map_map,CanonicalSnapshot.collectZones,if_pos rfl]
    exact snapshot.zones_nodup.sublist (List.filter_sublist.map _)
  · intro operand ho hrule zoneId htarget zone hzone hid
    refine ⟨⟨zone.id,zone.zoneKey,zone.name⟩,List.mem_map_of_mem ?_,hid⟩
    rw [CanonicalSnapshot.collectZones,if_pos rfl,List.mem_filter,decide_eq_true_eq,
      List.mem_filterMap]
    exact ⟨hzone,operand,mem_getOperandsByRuleIds.mpr ⟨ho,hrule⟩,by rw [htarget,hid]⟩

/-- The rules of a selection are read with exactly their own operands. -/
theorem getCanonicalScopeRules_spec {snapshots : SnapshotStore} {snapshotId : ℕ}
    (hfind : snapshots.get? snapshotId=some snapshot) (h : Selects snapshot ruleIds) :
    ∃ rules,getCanonicalScopeRules snapshots snapshotId ruleIds=.ok rules ∧
      (rules.map (·.id)).Perm ruleIds ∧
      ∀ rule∈rules,∀ operand,operand∈rule.operands ↔
        ∃ source∈snapshot.operands,source.ruleId=rule.id ∧ mapOperand source=operand := by
  have hrules := (getCanonicalRuleScope_eq h).2.2
  have hids := listFiltered_ids h
  have haction : ∀ rule∈snapshot.rules,∃ action,ruleAction rule.action=.ok action := by
    intro rule hr
    rcases snapshot.action_cases rule hr with ha|ha
    · exact ⟨.permit,by rw [ha]; rfl⟩
    · exact ⟨.deny,by rw [ha]; rfl⟩
  have hsource : ∀ rule∈snapshot.listFiltered ruleIds,rule∈snapshot.rules := by
    intro rule hr
    rw [CanonicalSnapshot.listFiltered,List.mem_insertionSort] at hr
    exact (List.mem_filter.mp hr).1
  have hmap : ∀ dto∈(snapshot.getCanonicalRuleScope ruleIds).rules,
      ∃ rule,mapRule snapshotId dto=.ok rule := by
    intro dto hdto
    rw [hrules] at hdto
    obtain ⟨rule,hr,rfl⟩ := List.mem_map.mp hdto
    obtain ⟨action,ha⟩ := haction rule (hsource rule hr)
    exact ⟨_,bind_eq_ok.mpr ⟨action,ha,rfl⟩⟩
  obtain ⟨rules,heq⟩ := exists_mapM_eq_ok hmap
  have hread : ∀ dto rule,mapRule snapshotId dto=.ok rule →
      rule.id=dto.rule.id ∧ rule.operands=(dto.operands.getD []).map mapOperand := by
    intro dto rule hr
    obtain ⟨action,-,he⟩ := bind_eq_ok.mp hr
    rw [←pure_eq_ok.mp he]
    exact ⟨rfl,rfl⟩
  refine ⟨rules,?_,?_,?_⟩
  · rw [getCanonicalScopeRules,getCanonicalRuleScope,hfind]
    exact heq
  · have hall : rules.map (·.id)=
        (snapshot.getCanonicalRuleScope ruleIds).rules.map (·.rule.id) := by
      rw [←List.forall₂_eq_eq_eq,List.forall₂_map_left_iff,List.forall₂_map_right_iff]
      exact (mapM_eq_ok.mp heq).flip.imp fun rule dto hr => (hread dto rule hr).1
    rw [hall,hrules,List.map_map]
    exact hids
  · intro rule hr operand
    obtain ⟨dto,hdto,hmapped⟩ := exists_of_mem_mapM heq hr
    obtain ⟨hid,hoperands⟩ := hread dto rule hmapped
    rw [hrules] at hdto
    obtain ⟨source,hsourceRule,rfl⟩ := List.mem_map.mp hdto
    have hselected : source.id∈ruleIds := hids.mem_iff.mp (List.mem_map_of_mem hsourceRule)
    rw [hoperands,hid]
    simp only [Option.getD_some,List.mem_map,List.mem_filter,decide_eq_true_eq,
      mem_getOperandsByRuleIds]
    constructor
    · rintro ⟨found,⟨⟨hf,-⟩,hrule⟩,rfl⟩
      exact ⟨found,hf,hrule,rfl⟩
    · rintro ⟨found,hf,hrule,rfl⟩
      exact ⟨found,⟨⟨hf,by rw [hrule]; exact hselected⟩,hrule⟩,rfl⟩

/-- The kind of entity a slot of a mapped rule refers to. -/
def slotEntityType : MappingScopeRuleOperandRole → MappingEntityType
  | .srcZone | .dstZone => .zone
  | .srcAddrObject | .dstAddrObject => .addr
  | .service => .service

/-- The zones and leaf objects the canonical operands of a rule stand for in a slot. -/
def LeafOfSlot (snapshot : CanonicalSnapshot) (ruleId : ℕ) (slot : MappingScopeRuleOperandRole)
    (leaf : ℕ) : Prop :=
  ∃ operand∈snapshot.operands,operand.ruleId=ruleId ∧
    MappingRules.mapOperandRole (operandRole operand.operandRole)=slot ∧
    (operand.targetZoneId=some leaf ∨
      ∃ objectId,operand.targetObjectId=some objectId ∧ snapshot.graph.LeafOf objectId leaf)

/-- Rules with exactly the operands their canonical rules ask for. -/
structure RulesExact (snapshot : CanonicalSnapshot) (ruleIds : List ℕ)
    (results : List MappingEntityResult) (rules : List MappingScopeRule) : Prop where
  /-- Every selected rule is built, once. -/
  selected : (rules.map (·.canonicalRuleId)).Perm ruleIds
  /-- A number stands for one result. -/
  results_nodup : (results.map (·.id)).Nodup
  /-- Every leaf has a result, and one only. -/
  leaf_result : ∀ rule∈rules,∀ slot leaf,LeafOfSlot snapshot rule.canonicalRuleId slot leaf →
    ∃! result,result∈results ∧ result.entityType=slotEntityType slot ∧
      result.canonicalEntityId=.ok leaf
  /-- The operands of a slot refer to the results of its leaves and to no other. -/
  operands_exact : ∀ rule∈rules,∃ operands,rule.operands=some operands ∧
    ∀ slot resultId,
      (∃ operand∈operands,operand.role=slot ∧ operand.mappingEntityResultId=resultId) ↔
        ∃ leaf,LeafOfSlot snapshot rule.canonicalRuleId slot leaf ∧
          ∃ result∈results,result.id=resultId ∧ result.entityType=slotEntityType slot ∧
            result.canonicalEntityId=.ok leaf

/-- A leaf of a depicted part is an object that is no group. -/
theorem exists_leaf_object {α : Type} [GroupedObject α] {graph : GroupGraph ℕ} {Part : ℕ → Prop}
    {objects : List α} (h : Depicts graph Part objects) {node : ℕ} (hpart : Part node)
    (hleaf : ¬graph.IsGroup node) :
    ∃ object∈objects,¬GroupedObject.isGroup object=true ∧ GroupedObject.objectId object=node := by
  obtain ⟨object,ho,rfl⟩ := List.mem_map.mp ((h.ids node).mpr hpart)
  exact ⟨object,ho,fun hg => hleaf ((h.group object ho).mp hg),rfl⟩

/-- The slot of an operand asks for the kind of entity the operand resolves to. -/
theorem slotEntityType_mapOperandRole (role : MappingSchemas.CanonicalRuleOperandRole) :
    slotEntityType (MappingRules.mapOperandRole role)=MappingRules.operandEntityType role := by
  cases role <;> rfl

/-- The kind of entity an operand of a family resolves to. -/
def familyEntityType : Option ObjectFamily → MappingEntityType
  | none => .zone
  | some .addr => .addr
  | some .service => .service

/-- A slot asks for the kind of entity of its family. -/
theorem operandEntityType_mapOperand (source : CanonicalModels.CanonicalRuleOperand) :
    MappingRules.operandEntityType (mapOperand source).role=
      familyEntityType (roleFamily source.operandRole) := by
  rw [mapOperand]
  cases source.operandRole <;> rfl

/-- An operand stands for its zone, or for the leaves of its object. -/
theorem operandTarget_mapOperand {source : CanonicalModels.CanonicalRuleOperand}
    (hs : source∈snapshot.operands) (entity : ℕ) :
    MappingRules.OperandTarget snapshot.graph (mapOperand source) entity ↔
      source.targetZoneId=some entity ∨
        ∃ objectId,source.targetObjectId=some objectId ∧
          snapshot.graph.LeafOf objectId entity := by
  rw [MappingRules.OperandTarget,operandEntityType_mapOperand]
  cases hfamily : roleFamily source.operandRole with
  | none =>
    have hnone := (snapshot.zone_refs source hs hfamily).1
    simp [familyEntityType,mapOperand,hnone]
  | some family =>
    have hnone := (snapshot.object_refs source hs family hfamily).1
    cases family <;> simp [familyEntityType,mapOperand,hnone]

/-- The object of an operand of a selected rule is in the scope of its family. -/
theorem inScope_of_operand {source : CanonicalModels.CanonicalRuleOperand}
    (hs : source∈snapshot.operands) (hrule : source.ruleId∈ruleIds) {family : ObjectFamily}
    (hfamily : roleFamily source.operandRole=some family) :
    ∃ objectId,source.targetObjectId=some objectId ∧
      InScope snapshot ruleIds family objectId := by
  obtain ⟨-,object,ho,htarget,hof⟩ := snapshot.object_refs source hs family hfamily
  exact ⟨object.id,htarget,⟨object,ho,rfl,hof⟩,object.id,
    mem_seedIds.mpr ⟨source,hs,hrule,htarget⟩,Relation.ReflTransGen.refl⟩

section Entities

variable {entities : MappingSchemas.CanonicalScopeEntities}

/-- Operands of the selected rules were read with what they refer to. -/
theorem operandRead
    (hzones : ∀ operand∈snapshot.operands,operand.ruleId∈ruleIds → ∀ zoneId,
      operand.targetZoneId=some zoneId → ∀ zone∈snapshot.zones,zone.id=zoneId →
        ∃ zone∈entities.zones,zone.id=zoneId)
    {source : CanonicalModels.CanonicalRuleOperand} (hs : source∈snapshot.operands)
    (hrule : source.ruleId∈ruleIds) :
    MappingRules.OperandRead (fun zoneId => ∃ zone∈entities.zones,zone.id=zoneId)
      (InScope snapshot ruleIds .addr) (InScope snapshot ruleIds .service)
      (mapOperand source) := by
  rw [MappingRules.OperandRead,operandEntityType_mapOperand]
  cases hfamily : roleFamily source.operandRole with
  | none =>
    obtain ⟨-,zone,hz,htarget⟩ := snapshot.zone_refs source hs hfamily
    exact ⟨zone.id,htarget,hzones source hs hrule zone.id htarget zone hz rfl⟩
  | some family =>
    have hscope := inScope_of_operand hs hrule hfamily
    cases family with
    | addr => exact hscope
    | service => exact hscope

/-- Everything an operand of the selected rules stands for gets a result. -/
theorem mapped_of_operandTarget
    (hzones : ∀ operand∈snapshot.operands,operand.ruleId∈ruleIds → ∀ zoneId,
      operand.targetZoneId=some zoneId → ∀ zone∈snapshot.zones,zone.id=zoneId →
        ∃ zone∈entities.zones,zone.id=zoneId)
    (haddrs : Depicts snapshot.graph (InScope snapshot ruleIds .addr) entities.addrObjects)
    (hservices : Depicts snapshot.graph (InScope snapshot ruleIds .service) entities.services)
    {source : CanonicalModels.CanonicalRuleOperand} (hs : source∈snapshot.operands)
    (hrule : source.ruleId∈ruleIds) {entity : ℕ}
    (htarget : MappingRules.OperandTarget snapshot.graph (mapOperand source) entity) :
    MappingObjects.Mapped entities (MappingRules.operandEntityType (mapOperand source).role)
      entity := by
  rw [operandTarget_mapOperand hs] at htarget
  rw [operandEntityType_mapOperand]
  cases hfamily : roleFamily source.operandRole with
  | none =>
    obtain ⟨hnone,zone,hz,hzone⟩ := snapshot.zone_refs source hs hfamily
    have hentity : source.targetZoneId=some entity := by
      rcases htarget with h|⟨objectId,h,-⟩
      · exact h
      · rw [hnone] at h
        cases h
    exact hzones source hs hrule entity hentity zone hz
      (Option.some.inj (hzone.symm.trans hentity))
  | some family =>
    obtain ⟨objectId,hobject,hscope⟩ := inScope_of_operand hs hrule hfamily
    have hleaf : snapshot.graph.LeafOf objectId entity := by
      rcases htarget with h|⟨other,h,hleaf⟩
      · rw [(snapshot.object_refs source hs family hfamily).1] at h
        cases h
      · rw [hobject,Option.some.injEq] at h
        rwa [h]
    have hpart := inScope_of_below hscope hleaf.1
    cases family with
    | addr =>
      obtain ⟨object,ho,hgroup,hid⟩ := exists_leaf_object haddrs hpart hleaf.2
      exact ⟨object,ho,fun hk => hgroup (decide_eq_true hk),hid⟩
    | service =>
      obtain ⟨service,hservice,hgroup,hid⟩ := exists_leaf_object hservices hpart hleaf.2
      exact ⟨service,hservice,fun hk => hgroup (decide_eq_true hk),hid⟩

end Entities

/-- A rule was read with the operands its snapshot has for it. -/
def ReadFrom (snapshot : CanonicalSnapshot) (canonical : MappingSchemas.CanonicalRule) : Prop :=
  ∀ operand,operand∈canonical.operands ↔
    ∃ source∈snapshot.operands,source.ruleId=canonical.id ∧ mapOperand source=operand

/-- What the rules are built from: everything the selected rules refer to was read, every
entity has one result, and the indexes find them. -/
structure BuildsFrom (snapshot : CanonicalSnapshot) (ruleIds : List ℕ)
    (entities : MappingSchemas.CanonicalScopeEntities) (results : List MappingEntityResult)
    (indexes : MappingRules.RuleIndexes) : Prop where
  /-- The zones the rules refer to were read. -/
  zones : ∀ operand∈snapshot.operands,operand.ruleId∈ruleIds → ∀ zoneId,
    operand.targetZoneId=some zoneId → ∀ zone∈snapshot.zones,zone.id=zoneId →
      ∃ zone∈entities.zones,zone.id=zoneId
  /-- So were the address objects, with everything below them. -/
  addrs : Depicts snapshot.graph (InScope snapshot ruleIds .addr) entities.addrObjects
  /-- And the services. -/
  services : Depicts snapshot.graph (InScope snapshot ruleIds .service) entities.services
  /-- Every entity has one result. -/
  cover : MappingObjects.ResultsCover entities results
  /-- A result is found by its entity. -/
  found : ∀ key result,indexes.results.get? key=some result ↔
    result∈results ∧ (result.entityType,MappingObjects.entityOf result)=key
  /-- The index of the address objects has their groups. -/
  addrsIndex : Represents snapshot.graph (InScope snapshot ruleIds .addr) indexes.addrs
  /-- The index of the services has theirs. -/
  servicesIndex : Represents snapshot.graph (InScope snapshot ruleIds .service) indexes.services

section Building

variable {canonical : MappingSchemas.CanonicalRule} {slot : MappingScopeRuleOperandRole}
  {entities : MappingSchemas.CanonicalScopeEntities} {results : List MappingEntityResult}
  {indexes : MappingRules.RuleIndexes}
  {payloads : List MappingRules.MappingScopeRuleOperandPayload}

/-- The leaves of a slot are those of the operands that were read for it. -/
theorem ReadFrom.leafOfSlot_iff (h : ReadFrom snapshot canonical) {leaf : ℕ} :
    LeafOfSlot snapshot canonical.id slot leaf ↔
      ∃ operand∈canonical.operands,MappingRules.mapOperandRole operand.role=slot ∧
        MappingRules.OperandTarget snapshot.graph operand leaf := by
  constructor
  · rintro ⟨source,hs,hrule,hrole,htarget⟩
    exact ⟨mapOperand source,(h _).mpr ⟨source,hs,hrule,rfl⟩,hrole,
      (operandTarget_mapOperand hs leaf).mpr htarget⟩
  · rintro ⟨operand,ho,hrole,htarget⟩
    obtain ⟨source,hs,hrule,rfl⟩ := (h operand).mp ho
    exact ⟨source,hs,hrule,hrole,(operandTarget_mapOperand hs leaf).mp htarget⟩

/-- There is a result for everything an operand of a selected rule stands for. -/
theorem BuildsFrom.exists_result (h : BuildsFrom snapshot ruleIds entities results indexes)
    (hread : ReadFrom snapshot canonical) (hselected : canonical.id∈ruleIds)
    {operand : MappingSchemas.CanonicalRuleOperand} (ho : operand∈canonical.operands) {entity : ℕ}
    (htarget : MappingRules.OperandTarget snapshot.graph operand entity) :
    ∃ result∈results,result.entityType=MappingRules.operandEntityType operand.role ∧
      MappingObjects.entityOf result=entity := by
  obtain ⟨source,hs,hrule,rfl⟩ := (hread operand).mp ho
  exact (h.cover.mapped _ entity).mpr
    (mapped_of_operandTarget h.zones h.addrs h.services hs (hrule▸hselected) htarget)

/-- The entity of a result can be read off it. -/
theorem BuildsFrom.entity_iff (h : BuildsFrom snapshot ruleIds entities results indexes)
    {result : MappingEntityResult} (hr : result∈results) {leaf : ℕ} :
    result.canonicalEntityId=.ok leaf ↔ MappingObjects.entityOf result=leaf := by
  rw [h.cover.entity_eq result hr,Except.ok.injEq]

/-- Every leaf of a selected rule has a result, and one only. -/
theorem BuildsFrom.leaf_result (h : BuildsFrom snapshot ruleIds entities results indexes)
    (hread : ReadFrom snapshot canonical) (hselected : canonical.id∈ruleIds) {leaf : ℕ}
    (hleaf : LeafOfSlot snapshot canonical.id slot leaf) :
    ∃! result,result∈results ∧ result.entityType=slotEntityType slot ∧
      result.canonicalEntityId=.ok leaf := by
  obtain ⟨operand,ho,rfl,htarget⟩ := hread.leafOfSlot_iff.mp hleaf
  obtain ⟨result,hresult,htype,heq⟩ := h.exists_result hread hselected ho htarget
  rw [slotEntityType_mapOperandRole]
  refine ⟨result,⟨hresult,htype,(h.entity_iff hresult).mpr heq⟩,?_⟩
  rintro other ⟨hother,hotherType,hotherEntity⟩
  refine List.inj_on_of_nodup_map h.cover.entities_nodup hother hresult ?_
  rw [hotherType,htype,(h.entity_iff hother).mp hotherEntity,heq]

/-- The operands of a selected rule are resolved to the results of what they stand for. -/
theorem BuildsFrom.exists_payloads (h : BuildsFrom snapshot ruleIds entities results indexes)
    (hne : snapshot.graph.NonemptyGroups) (hnested : snapshot.graph.NestedWithin maxGroupDepth)
    (hread : ReadFrom snapshot canonical) (hselected : canonical.id∈ruleIds) :
    ∃ payloads,MappingRules.buildRuleOperandPayloads indexes canonical=.ok payloads ∧
      ∀ payload,payload∈payloads ↔ ∃ operand∈canonical.operands,∃ entity,
        MappingRules.OperandTarget snapshot.graph operand entity ∧
          MappingRules.operandPayload indexes canonical operand entity=.ok payload := by
  apply MappingRules.buildRuleOperandPayloads_spec
  · intro operand ho
    obtain ⟨source,hs,hrule,rfl⟩ := (hread operand).mp ho
    exact MappingRules.resolveOperandTargets_spec h.addrsIndex h.servicesIndex hne hnested
      (operandRead h.zones hs (hrule▸hselected))
  · intro operand ho entity htarget
    obtain ⟨result,hresult,htype,hentity⟩ := h.exists_result hread hselected ho htarget
    exact ⟨result,(h.found _ result).mpr ⟨hresult,by rw [htype,hentity]⟩⟩

/-- What is resolved for a slot are the results of its leaves. -/
theorem BuildsFrom.mem_payloads_iff (h : BuildsFrom snapshot ruleIds entities results indexes)
    (hread : ReadFrom snapshot canonical)
    (hpayloads : ∀ payload,payload∈payloads ↔ ∃ operand∈canonical.operands,∃ entity,
      MappingRules.OperandTarget snapshot.graph operand entity ∧
        MappingRules.operandPayload indexes canonical operand entity=.ok payload)
    {resultId : ℕ} :
    (⟨slot,resultId⟩ : MappingRules.MappingScopeRuleOperandPayload)∈payloads ↔
      ∃ leaf,LeafOfSlot snapshot canonical.id slot leaf ∧ ∃ result∈results,
        result.id=resultId ∧ result.entityType=slotEntityType slot ∧
          result.canonicalEntityId=.ok leaf := by
  rw [hpayloads]
  constructor
  · rintro ⟨operand,ho,leaf,htarget,hpayload⟩
    obtain ⟨result,hfind,heq⟩ := MappingRules.operandPayload_eq_ok.mp hpayload
    obtain ⟨hresult,hkey⟩ := (h.found _ result).mp hfind
    obtain ⟨htype,hleaf⟩ := Prod.mk.inj hkey
    obtain ⟨hrole,hid⟩ := MappingRules.MappingScopeRuleOperandPayload.mk.inj heq
    refine ⟨leaf,hread.leafOfSlot_iff.mpr ⟨operand,ho,hrole.symm,htarget⟩,
      result,hresult,hid.symm,?_,(h.entity_iff hresult).mpr hleaf⟩
    rw [htype,hrole,slotEntityType_mapOperandRole]
  · rintro ⟨leaf,hleaf,result,hresult,rfl,htype,hentity⟩
    obtain ⟨operand,ho,rfl,htarget⟩ := hread.leafOfSlot_iff.mp hleaf
    refine ⟨operand,ho,leaf,htarget,MappingRules.operandPayload_eq_ok.mpr
      ⟨result,(h.found _ result).mpr ⟨hresult,?_⟩,rfl⟩⟩
    rw [htype,slotEntityType_mapOperandRole,(h.entity_iff hresult).mp hentity]

/-- The operands of a created rule are what was resolved for it. -/
theorem mem_operands_iff {operands : List MappingScopeRuleOperand}
    (h : operands.map (fun operand => (operand.role,operand.mappingEntityResultId))=
      payloads.map fun payload => (payload.role,payload.mappingEntityResultId)) {resultId : ℕ} :
    (∃ operand∈operands,operand.role=slot ∧ operand.mappingEntityResultId=resultId) ↔
      (⟨slot,resultId⟩ : MappingRules.MappingScopeRuleOperandPayload)∈payloads := by
  have hpair := congrArg (fun pairs => (slot,resultId)∈pairs) h
  simp only [List.mem_map,Prod.mk.injEq,eq_iff_iff] at hpair
  rw [hpair]
  constructor
  · rintro ⟨payload,hp,rfl,rfl⟩
    exact hp
  · exact fun hp => ⟨_,hp,rfl,rfl⟩

/-- Rules created one by one for the selected rules have exactly their operands. -/
theorem BuildsFrom.rulesExact (h : BuildsFrom snapshot ruleIds entities results indexes)
    (hne : snapshot.graph.NonemptyGroups) (hnested : snapshot.graph.NestedWithin maxGroupDepth)
    {canonicalRules : List MappingSchemas.CanonicalRule}
    (hperm : (canonicalRules.map (·.id)).Perm ruleIds)
    (hread : ∀ rule∈canonicalRules,ReadFrom snapshot rule) {scopeId : ℕ}
    {rules : List MappingScopeRule}
    (hfrom : List.Forall₂ (MappingRules.CreatedFrom indexes scopeId) canonicalRules rules) :
    RulesExact snapshot ruleIds results rules := by
  have hsource : ∀ rule∈rules,∃ canonical∈canonicalRules,canonical.id∈ruleIds ∧
      MappingRules.CreatedFrom indexes scopeId canonical rule := by
    intro rule hr
    obtain ⟨i,hi,rfl⟩ := List.mem_iff_getElem.mp hr
    have hj := hfrom.length_eq.trans_ge hi
    have hmem := List.getElem_mem hj
    exact ⟨_,hmem,hperm.mem_iff.mp (List.mem_map_of_mem hmem),hfrom.get hj hi⟩
  have hids : rules.map (·.canonicalRuleId)=canonicalRules.map (·.id) := by
    rw [←List.forall₂_eq_eq_eq,List.forall₂_map_left_iff,List.forall₂_map_right_iff]
    exact hfrom.flip.imp fun rule canonical h => h.canonical
  constructor
  case selected =>
    rw [hids]
    exact hperm
  case results_nodup => exact h.cover.ids_nodup
  case leaf_result =>
    intro rule hr slot leaf hleaf
    obtain ⟨canonical,hc,hselected,hcreated⟩ := hsource rule hr
    rw [hcreated.canonical] at hleaf
    exact h.leaf_result (hread canonical hc) hselected hleaf
  case operands_exact =>
    intro rule hr
    obtain ⟨canonical,hc,hselected,hcreated⟩ := hsource rule hr
    obtain ⟨payloads,operands,hbuilt,hsome,hmap⟩ := hcreated.operands
    obtain ⟨found,hfound,hmem⟩ := h.exists_payloads hne hnested (hread canonical hc) hselected
    rw [hbuilt,Except.ok.injEq] at hfound
    subst hfound
    refine ⟨operands,hsome,fun slot resultId => ?_⟩
    rw [mem_operands_iff hmap,hcreated.canonical]
    exact h.mem_payloads_iff (hread canonical hc) hmem

end Building

/-- Every selection of the rules of a snapshot whose groups list something and
are nested within the bound is read, mapped and built, and its rules have
exactly the operands their canonical rules ask for. -/
theorem mapping_rules_exact [PyUnicode] {snapshots : SnapshotStore} {snapshotId : ℕ}
    {snapshot : CanonicalSnapshot} (hfind : snapshots.get? snapshotId=some snapshot)
    (hne : snapshot.graph.NonemptyGroups) (hnested : snapshot.graph.NestedWithin maxGroupDepth)
    {ruleIds : List ℕ} (hselects : Selects snapshot ruleIds) (catalog : SdwanFullCatalog)
    (scopeId firstResult firstRule : ℕ) :
    ∃ entities canonicalRules results rules,
      getCanonicalScopeEntitiesData snapshots snapshotId ruleIds=.ok entities ∧
      getCanonicalScopeRules snapshots snapshotId ruleIds=.ok canonicalRules ∧
      MappingObjects.buildResults firstResult scopeId entities catalog=.ok results ∧
      MappingRules.build firstRule scopeId canonicalRules entities results=.ok rules ∧
      RulesExact snapshot ruleIds results rules := by
  obtain ⟨entities,hentities,hzonesNodup,hzones,haddrs,hservices⟩ :=
    getCanonicalScopeEntitiesData_spec hfind hselects
  obtain ⟨canonicalRules,hcanonical,hperm,hoperands⟩ :=
    getCanonicalScopeRules_spec hfind hselects
  obtain ⟨results,hresults,hcover⟩ := MappingObjects.buildResults_spec firstResult scopeId
    catalog hzonesNodup haddrs.nodup hservices.nodup
  obtain ⟨byKey,hbyKey,hget⟩ :=
    MappingRules.mappingResultsIndex_spec hcover.entity_eq hcover.entities_nodup
  obtain ⟨addrs,haddrsIndex,haddrsRep⟩ := haddrs.create
  obtain ⟨services,hservicesIndex,hservicesRep⟩ := hservices.create
  have hbuilds : BuildsFrom snapshot ruleIds entities results ⟨byKey,addrs,services⟩ :=
    ⟨hzones,haddrs,hservices,hcover,hget,haddrsRep,hservicesRep⟩
  obtain ⟨rules,hrules,hfrom⟩ := MappingRules.createRules_spec scopeId firstRule fun rule hr =>
    (hbuilds.exists_payloads hne hnested (hoperands rule hr)
      (hperm.mem_iff.mp (List.mem_map_of_mem hr))).imp fun payloads hp => hp.1
  refine ⟨entities,canonicalRules,results,rules,hentities,hcanonical,hresults,?_,
    hbuilds.rulesExact hne hnested hperm hoperands hfrom⟩
  exact bind_eq_ok.mpr ⟨byKey,hbyKey,bind_eq_ok.mpr ⟨addrs,haddrsIndex,
    bind_eq_ok.mpr ⟨services,hservicesIndex,hrules⟩⟩⟩

/-- A snapshot with a group in a group: the host with number 1 is a member of both. -/
def officeSnapshot : CanonicalSnapshot where
  zones := [⟨30,"zone:inside","inside"⟩,⟨31,"zone:outside","outside"⟩]
  objects := [
    ⟨1,{ objectKey := "addr:h1", objectFamily := .addr, objectKind := .host, name := "h1",
         cidr := some "10.0.0.1/32" }⟩,
    ⟨2,{ objectKey := "addr:h2", objectFamily := .addr, objectKind := .host, name := "h2",
         cidr := some "10.0.0.2/32" }⟩,
    ⟨10,{ objectKey := "addr:inner", objectFamily := .addr, objectKind := .addrGroup,
          name := "inner" }⟩,
    ⟨11,{ objectKey := "addr:outer", objectFamily := .addr, objectKind := .addrGroup,
          name := "outer" }⟩,
    ⟨12,{ objectKey := "service:https", objectFamily := .service, objectKind := .tcp,
          name := "https", portFrom := some 443, portTo := some 443 }⟩]
  members := [⟨40,10,1,0⟩,⟨41,10,2,1⟩,⟨42,11,1,0⟩,⟨43,11,10,1⟩]
  rules := [⟨20,"rule:1","rule 1","PERMIT",true,1,none,none⟩,
    ⟨21,"rule:2","rule 2","DENY",true,2,none,none⟩]
  operands := [⟨50,20,.srcZone,some 30,none,0⟩,⟨51,20,.dstZone,some 31,none,0⟩,
    ⟨52,20,.srcObject,none,some 11,0⟩,⟨53,20,.dstObject,none,some 2,0⟩,
    ⟨54,20,.service,none,some 12,0⟩,⟨55,21,.srcObject,none,some 2,0⟩]
  zones_nodup := by decide
  objects_nodup := by decide
  rules_nodup := by decide
  kind_family := by decide
  member_refs := by decide
  zone_refs := by decide
  object_refs := by decide
  action_cases := by decide

/-- How deep the groups of the sample stand. -/
def officeRank (node : ℕ) : ℕ := if node=11 then 2 else if node=10 then 1 else 0

/-- The first rule of the sample is built from its selection alone. -/
theorem mapping_rules_exact_office :
    ∃ entities canonicalRules results rules,
      getCanonicalScopeEntitiesData (Dict.empty.insert 7 officeSnapshot) 7 [20]=.ok entities ∧
      getCanonicalScopeRules (Dict.empty.insert 7 officeSnapshot) 7 [20]=.ok canonicalRules ∧
      @MappingObjects.buildResults asciiUnicode 100 1 entities ⟨[],[],[],[]⟩=.ok results ∧
      MappingRules.build 200 1 canonicalRules entities results=.ok rules ∧
      RulesExact officeSnapshot [20] results rules :=
  @mapping_rules_exact asciiUnicode (Dict.empty.insert 7 officeSnapshot) 7 officeSnapshot
    (Dict.get?_insert_self _ _ _)
    (by
      have hlists : ∀ object∈officeSnapshot.objects,object.value.objectKind∈groupKinds →
          ∃ member∈officeSnapshot.members,member.parentObjectId=object.id := by decide
      rintro node ⟨object,ho,rfl,hkind⟩
      obtain ⟨member,hm,hparent⟩ := hlists object ho hkind
      exact ⟨member.childObjectId,member,hm,hparent,rfl⟩)
    (GroupGraph.nestedWithin_of_rank officeRank
      (by
        rintro parent child ⟨-,member,hm,rfl,rfl⟩
        revert member
        decide)
      (by
        rintro node ⟨object,ho,rfl,hkind⟩
        revert object
        decide))
    [20] ⟨by decide,by decide,by decide⟩ ⟨[],[],[],[]⟩ 1 100 200

end NspMigrator.MappingRulesExact
