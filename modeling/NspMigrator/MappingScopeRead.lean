import Mathlib
import NspMigrator.MappingProjectionRows
import NspMigrator.MappingRulesExact

/-!
# What was read of a selection

A selection that could be read was one of distinct rules of the snapshot, so
another order of its rules is read alike. Whatever gets a result was asked for
by an operand, and an operand that resolves names everything it stands for.
-/

namespace NspMigrator.MappingScopeRead

open PyDict PyExcept ExecuteRepository GroupReach MappingEntities MappingSchemas
open MappingGroupIndex MappingRules MappingObjects CanonicalModels CanonicalScope CanonicalReader
open MappingRulesExact MappingProjectionRows

section Groups

variable {α : Type} [GroupedObject α] {graph : GroupGraph ℕ} {Part : ℕ → Prop}
  {index : CanonicalObjectIndex α}

open GroupedObject

/-- A group that could be opened gave all its leaves, beside those collected before. -/
theorem leaves_of_collectGroupLeaves (h : Represents graph Part index) {levels group : ℕ}
    {path : List ℕ} {leaves found : List α} (hpart : Part group) (hgroup : graph.IsGroup group)
    (hfound : index.collectGroupLeaves levels group path leaves=.ok found) :
    (∀ node∈leaves.map objectId,node∈found.map objectId) ∧
      ∀ node,graph.LeafOf group node → node∈found.map objectId := by
  induction levels generalizing group path leaves found with
  | zero => cases hfound
  | succ levels ih =>
    have hstep : ∀ acc : List α,∀ child∈index.membersOf group,∀ next,
        (if isGroup child=true then
          if objectId child∈path then
            .error (domainError ("Cycle detected in canonical "++noun α++" groups: "++
              pathText (path++[objectId child])))
          else index.collectGroupLeaves levels (objectId child) (path++[objectId child]) acc
        else if objectId child∈acc.map objectId then .ok acc
        else .ok (acc++[child]))=Except.ok next →
        (∀ node∈acc.map objectId,node∈next.map objectId) ∧
          ∀ node,graph.LeafOf (objectId child) node → node∈next.map objectId := by
      intro acc child hc next hnext
      obtain ⟨hchild,hkind⟩ := h.child group child hc
      by_cases hg : isGroup child=true
      · rw [if_pos hg] at hnext
        by_cases hpath : objectId child∈path
        · rw [if_pos hpath] at hnext
          cases hnext
        · rw [if_neg hpath] at hnext
          exact ih hchild (hkind.mp hg) hnext
      · have hleaf : ∀ node,graph.LeafOf (objectId child) node ↔ node=objectId child :=
          fun node => GroupGraph.leafOf_of_not_isGroup fun hgc => hg (hkind.mpr hgc)
        rw [if_neg hg] at hnext
        by_cases hseen : objectId child∈acc.map objectId
        · rw [if_pos hseen] at hnext
          cases hnext
          exact ⟨fun node hn => hn,fun node hn => (hleaf node).mp hn▸hseen⟩
        · rw [if_neg hseen] at hnext
          cases hnext
          rw [List.map_append]
          refine ⟨fun node hn => List.mem_append_left _ hn,fun node hn => ?_⟩
          rw [(hleaf node).mp hn]
          exact List.mem_append_right _ (List.mem_singleton_self _)
    constructor
    · intro node hn
      exact foldlM_preserves (fun acc : List α => node∈acc.map objectId)
        (fun acc child hc next hacc hnext => (hstep acc child hc next hnext).1 node hacc) hn hfound
    · intro node hn
      obtain ⟨other,hlists,hleaf⟩ := (GroupGraph.leafOf_of_isGroup hgroup).mp hn
      obtain ⟨child,hc,rfl⟩ := (h.members group hpart other).mp ⟨hgroup,hlists⟩
      exact foldlM_gains (fun acc : List α => node∈acc.map objectId)
        (fun acc other ho next hacc hnext => (hstep acc other ho next hnext).1 node hacc) hc
        (fun acc next hnext => (hstep acc child hc next hnext).2 node hleaf) hfound

/-- An operand that resolves names everything below its object. -/
theorem mem_of_resolveObjectTargets (h : Represents graph Part index)
    {operand : MappingSchemas.CanonicalRuleOperand} {objectId : ℕ}
    (htarget : operand.targetObjectId=some objectId) (hpart : Part objectId) {noun leaves : String}
    {ids : List ℕ} (hids : resolveObjectTargets index noun leaves operand=.ok ids) {entity : ℕ}
    (hleaf : graph.LeafOf objectId entity) : entity∈ids := by
  obtain ⟨group,hhas,hkind⟩ := h.hasGroup hpart
  rw [resolveObjectTargets,htarget] at hids
  obtain ⟨other,hother,hrest⟩ := bind_eq_ok.mp hids
  rw [hhas,Except.ok.injEq] at hother
  subst hother
  cases group with
  | false =>
    have hnot : ¬graph.IsGroup objectId := fun hg => Bool.false_ne_true (hkind.mpr hg)
    have hone : ids=[objectId] := (pure_eq_ok.mp hrest).symm
    rw [hone,(GroupGraph.leafOf_of_not_isGroup hnot).mp hleaf]
    exact List.mem_singleton_self objectId
  | true =>
    obtain ⟨found,hfound,hsome⟩ := bind_eq_ok.mp hrest
    obtain ⟨object,hget,hcollect⟩ := bind_eq_ok.mp hfound
    have hall : entity∈found.map GroupedObject.objectId := by
      by_cases hg : isGroup object=true
      · rw [if_pos hg] at hcollect
        exact (leaves_of_collectGroupLeaves h hpart (hkind.mp rfl) hcollect).2 entity hleaf
      · rw [if_neg hg] at hcollect
        cases hcollect
    by_cases hempty : found=[]
    · rw [hempty] at hall
      cases hall
    · rw [if_neg hempty] at hsome
      rwa [←pure_eq_ok.mp hsome]

variable {Zone Addr Service : ℕ → Prop} {addrs : CanonicalObjectIndex CanonicalAddrObject}
  {services : CanonicalObjectIndex CanonicalService}

/-- An operand that resolves names everything it stands for. -/
theorem mem_of_resolvesTo (haddrs : Represents graph Addr addrs)
    (hservices : Represents graph Service services)
    {operand : MappingSchemas.CanonicalRuleOperand} (hread : OperandRead Zone Addr Service operand)
    {ids : List ℕ} (hids : ResolvesTo addrs services operand ids) {entity : ℕ}
    (htarget : OperandTarget graph operand entity) : entity∈ids := by
  simp only [ResolvesTo,resolveOperandTargets] at hids
  simp only [OperandRead] at hread
  simp only [OperandTarget] at htarget
  cases htype : operandEntityType operand.role with
  | zone =>
    rw [htype] at hids htarget
    rw [if_pos rfl] at htarget
    rw [htarget,Except.ok.injEq] at hids
    rw [←hids]
    exact List.mem_singleton_self entity
  | addr =>
    rw [htype] at hids hread htarget
    rw [if_neg (fun h => by cases h)] at htarget
    obtain ⟨objectId,hobject,hleaf⟩ := htarget
    obtain ⟨other,hother,hpart⟩ := hread
    rw [hobject,Option.some.injEq] at hother
    exact mem_of_resolveObjectTargets haddrs hobject (hother▸hpart) hids hleaf
  | service =>
    rw [htype] at hids hread htarget
    rw [if_neg (fun h => by cases h)] at htarget
    obtain ⟨objectId,hobject,hleaf⟩ := htarget
    obtain ⟨other,hother,hpart⟩ := hread
    rw [hobject,Option.some.injEq] at hother
    exact mem_of_resolveObjectTargets hservices hobject (hother▸hpart) hids hleaf

end Groups

section Selections

variable {snapshots : SnapshotStore} {snapshotId : ℕ} {ruleIds : List ℕ}
  {entities : CanonicalScopeEntities}

/-- What is read of an existing snapshot is its rules and zones, and its objects as
the mapping sees them. -/
theorem exists_snapshot_of_read
    (h : getCanonicalScopeEntitiesData snapshots snapshotId ruleIds=.ok entities) :
    ∃ snapshot,snapshots.get? snapshotId=some snapshot ∧ ruleIds≠[] ∧
      (snapshot.listFiltered ruleIds).length=ruleIds.length ∧
      entities.zones=(snapshot.getCanonicalRuleScope ruleIds).zones.map
        fun zone => ⟨zone.id,zone.zoneKey,zone.name⟩ := by
  unfold getCanonicalScopeEntitiesData at h
  by_cases hne : ruleIds=[]
  · rw [if_pos hne] at h
    cases h
  rw [if_neg hne] at h
  obtain ⟨found,hfound,h⟩ := bind_eq_ok.mp h
  by_cases hrules : found.rules=[]
  · rw [if_pos hrules] at h
    cases h
  rw [if_neg hrules] at h
  by_cases hlength : found.rules.length≠ruleIds.length
  · rw [if_pos hlength] at h
    cases h
  rw [if_neg hlength] at h
  obtain ⟨objects,-,hentities⟩ := bind_eq_ok.mp h
  unfold CanonicalReader.getCanonicalRuleScope at hfound
  split at hfound
  · cases hfound
  next snapshot hsnapshot =>
  cases hfound
  cases hentities
  refine ⟨snapshot,hsnapshot,hne,?_,rfl⟩
  rw [←not_not.mp hlength,CanonicalSnapshot.getCanonicalRuleScope,List.length_map]

/-- A selection that could be read is one of distinct rules of the snapshot. -/
theorem selects_of_read
    (h : getCanonicalScopeEntitiesData snapshots snapshotId ruleIds=.ok entities) :
    ∃ snapshot,snapshots.get? snapshotId=some snapshot ∧ Selects snapshot ruleIds := by
  obtain ⟨snapshot,hsnapshot,hne,hlength,-⟩ := exists_snapshot_of_read h
  have hmem : ∀ rule∈snapshot.listFiltered ruleIds,rule∈snapshot.rules ∧ rule.id∈ruleIds := by
    intro rule hr
    rw [CanonicalSnapshot.listFiltered,List.mem_insertionSort] at hr
    obtain ⟨hrule,hid⟩ := List.mem_filter.mp hr
    exact ⟨hrule,(of_decide_eq_true hid).resolve_left hne⟩
  have hnodup : ((snapshot.listFiltered ruleIds).map (·.id)).Nodup := by
    have hperm := (List.perm_insertionSort (fun a b : CanonicalModels.CanonicalRule =>
      a.priority<b.priority ∨ a.priority=b.priority ∧ a.id≤ b.id) (snapshot.rules.filter
        fun rule => decide (ruleIds=[] ∨ rule.id∈ruleIds))).map (·.id)
    exact hperm.nodup_iff.mpr (snapshot.rules_nodup.sublist (List.filter_sublist.map _))
  -- distinct rules, as many as were asked for, are all of those
  have hsub : (snapshot.listFiltered ruleIds).map (·.id)⊆ruleIds := by
    intro id hid
    obtain ⟨rule,hr,rfl⟩ := List.mem_map.mp hid
    exact (hmem rule hr).2
  have hperm : ((snapshot.listFiltered ruleIds).map (·.id)).Perm ruleIds :=
    (List.subperm_of_subset hnodup hsub).perm_of_length_le (by rw [List.length_map,hlength])
  refine ⟨snapshot,hsnapshot,hne,hperm.nodup_iff.mp hnodup,fun id hid => ?_⟩
  obtain ⟨rule,hr,rfl⟩ := List.mem_map.mp (hperm.mem_iff.mpr hid)
  exact ⟨rule,(hmem rule hr).1,rfl⟩

/-- The same rules in another order are the same selection. -/
theorem getCanonicalRuleScope_perm {others : List ℕ} (h : ruleIds.Perm others) :
    CanonicalReader.getCanonicalRuleScope snapshots snapshotId ruleIds=
      CanonicalReader.getCanonicalRuleScope snapshots snapshotId others := by
  have hnil : ruleIds=[] ↔ others=[] :=
    ⟨fun he => List.nil_perm.mp (he▸h),fun he => List.perm_nil.mp (he▸h)⟩
  rw [CanonicalReader.getCanonicalRuleScope,CanonicalReader.getCanonicalRuleScope]
  cases snapshots.get? snapshotId with
  | none => rfl
  | some snapshot =>
    have hrules : snapshot.listFiltered ruleIds=snapshot.listFiltered others := by
      simp only [CanonicalSnapshot.listFiltered,hnil,h.mem_iff]
    simp only [CanonicalSnapshot.getCanonicalRuleScope,hrules,ne_eq,hnil]

/-- Another order of the rules reads the same entities. -/
theorem getCanonicalScopeEntitiesData_perm {others : List ℕ} (h : ruleIds.Perm others)
    (hread : getCanonicalScopeEntitiesData snapshots snapshotId ruleIds=.ok entities) :
    getCanonicalScopeEntitiesData snapshots snapshotId others=.ok entities := by
  have hnil : ruleIds=[] ↔ others=[] :=
    ⟨fun he => List.nil_perm.mp (he▸h),fun he => List.perm_nil.mp (he▸h)⟩
  unfold getCanonicalScopeEntitiesData at hread ⊢
  rw [←getCanonicalRuleScope_perm h]
  by_cases hne : ruleIds=[]
  · rw [if_pos hne] at hread
    cases hread
  rw [if_neg hne] at hread
  rw [if_neg (hnil.not.mp hne)]
  obtain ⟨found,hfound,hread⟩ := bind_eq_ok.mp hread
  refine bind_eq_ok.mpr ⟨found,hfound,?_⟩
  by_cases hrules : found.rules=[]
  · rw [if_pos hrules] at hread
    cases hread
  rw [if_neg hrules] at hread ⊢
  by_cases hlength : found.rules.length≠ruleIds.length
  · rw [if_pos hlength] at hread
    cases hread
  rw [if_neg hlength] at hread
  rwa [if_neg (h.length_eq▸hlength)]

/-- Another order of the rules reads the same rules. -/
theorem getCanonicalScopeRules_perm {others : List ℕ} (h : ruleIds.Perm others) :
    getCanonicalScopeRules snapshots snapshotId ruleIds=
      getCanonicalScopeRules snapshots snapshotId others := by
  rw [getCanonicalScopeRules,getCanonicalScopeRules,getCanonicalRuleScope_perm h]

/-- What was read of a selection: distinct zones, the rules that were asked for,
objects that can be indexed, and nothing that no operand asks for. -/
structure ScopeRead (ruleIds : List ℕ) (entities : CanonicalScopeEntities)
    (rules : List MappingSchemas.CanonicalRule) (addrs : CanonicalObjectIndex CanonicalAddrObject)
    (services : CanonicalObjectIndex CanonicalService) : Prop where
  /-- No zone is read twice. -/
  zones_nodup : (entities.zones.map (·.id)).Nodup
  /-- The rules are those that were asked for. -/
  rule_ids : (rules.map (·.id)).Perm ruleIds
  /-- No rule is read twice. -/
  rules_nodup : (rules.map (·.id)).Nodup
  /-- The address objects can be indexed. -/
  addrs_index : CanonicalObjectIndex.create entities.addrObjects=.ok addrs
  /-- The services can be indexed. -/
  services_index : CanonicalObjectIndex.create entities.services=.ok services
  /-- A zone that an operand names is read. -/
  zone_read : ∀ rule∈rules,∀ operand∈rule.operands,operandEntityType operand.role=.zone →
    ∀ zoneId,operand.targetZoneId=some zoneId → ∃ zone∈entities.zones,zone.id=zoneId
  /-- Every entity is one that some operand resolves to. -/
  asked : ∀ entityType entity,Mapped entities entityType entity → ∃ rule∈rules,
    ∃ operand∈rule.operands,operandEntityType operand.role=entityType ∧
      ∀ ids,ResolvesTo addrs services operand ids → entity∈ids

variable {snapshot : CanonicalSnapshot}

/-- Every zone that is read is the zone of an operand. -/
theorem exists_operand_of_zone
    (h : getCanonicalScopeEntitiesData snapshots snapshotId ruleIds=.ok entities)
    (hfind : snapshots.get? snapshotId=some snapshot) (hselects : Selects snapshot ruleIds)
    {zone : MappingSchemas.CanonicalZone} (hzone : zone∈entities.zones) :
    ∃ operand∈snapshot.operands,operand.ruleId∈ruleIds ∧ operand.targetZoneId=some zone.id := by
  obtain ⟨other,hother,-,-,hzones⟩ := exists_snapshot_of_read h
  rw [hfind,Option.some.injEq] at hother
  subst hother
  rw [hzones,(getCanonicalRuleScope_eq hselects).1,CanonicalSnapshot.collectZones,if_pos rfl]
    at hzone
  obtain ⟨source,hsource,rfl⟩ := List.mem_map.mp hzone
  obtain ⟨-,hin⟩ := List.mem_filter.mp hsource
  obtain ⟨operand,ho,htarget⟩ := List.mem_filterMap.mp (of_decide_eq_true hin)
  obtain ⟨hoperand,hrule⟩ := mem_getOperandsByRuleIds.mp ho
  exact ⟨operand,hoperand,hrule,htarget⟩

/-- A leaf that is read stands below the object of an operand of its family. -/
theorem exists_operand_of_leaf {family : ObjectFamily} {entity : ℕ}
    (hpart : InScope snapshot ruleIds family entity) (hleaf : ¬snapshot.graph.IsGroup entity) :
    ∃ operand∈snapshot.operands,operand.ruleId∈ruleIds ∧
      roleFamily operand.operandRole=some family ∧
      ∃ objectId,operand.targetObjectId=some objectId ∧
        snapshot.graph.LeafOf objectId entity := by
  obtain ⟨⟨object,ho,rfl,hfamily⟩,seed,hseed,hbelow⟩ := hpart
  obtain ⟨operand,hoperand,hrule,htarget⟩ := mem_seedIds.mp hseed
  refine ⟨operand,hoperand,hrule,?_,seed,htarget,hbelow,hleaf⟩
  cases hrole : roleFamily operand.operandRole with
  | none =>
    rw [(snapshot.zone_refs operand hoperand hrole).1] at htarget
    cases htarget
  | some other =>
    -- everything below an object is of its family
    obtain ⟨objectId,hobject,hscope⟩ := inScope_of_operand hoperand hrule hrole
    rw [htarget,Option.some.injEq] at hobject
    obtain ⟨⟨found,hf,hid,hof⟩,-⟩ := inScope_of_below (hobject▸hscope) hbelow
    rw [←hof,snapshot.object_ext hf ho hid,hfamily]

/-- A selection that could be read was read in full, and only what its operands ask for. -/
theorem exists_scopeRead {rules : List MappingSchemas.CanonicalRule}
    (hentities : getCanonicalScopeEntitiesData snapshots snapshotId ruleIds=.ok entities)
    (hrules : getCanonicalScopeRules snapshots snapshotId ruleIds=.ok rules) :
    ∃ addrs services,ScopeRead ruleIds entities rules addrs services := by
  obtain ⟨snapshot,hfind,hselects⟩ := selects_of_read hentities
  obtain ⟨found,hfound,hnodup,hzones,haddrs,hservices⟩ :=
    getCanonicalScopeEntitiesData_spec hfind hselects
  rw [hentities,Except.ok.injEq] at hfound
  subst hfound
  obtain ⟨others,hothers,hperm,hoperands⟩ := getCanonicalScopeRules_spec hfind hselects
  rw [hrules,Except.ok.injEq] at hothers
  subst hothers
  obtain ⟨addrs,haddrsIndex,haddrsRep⟩ := haddrs.create
  obtain ⟨services,hservicesIndex,hservicesRep⟩ := hservices.create
  have hread : ∀ source∈snapshot.operands,source.ruleId∈ruleIds →
      OperandRead (fun zoneId => ∃ zone∈entities.zones,zone.id=zoneId)
        (InScope snapshot ruleIds .addr) (InScope snapshot ruleIds .service)
        (mapOperand source) := fun source hs hrule => operandRead hzones hs hrule
  -- an operand of the snapshot is one of a rule that was read
  have hasked : ∀ source∈snapshot.operands,source.ruleId∈ruleIds → ∀ entity,
      (source.targetZoneId=some entity ∨ ∃ objectId,source.targetObjectId=some objectId ∧
        snapshot.graph.LeafOf objectId entity) → ∃ rule∈rules,
        ∃ operand∈rule.operands,operandEntityType operand.role=
          familyEntityType (roleFamily source.operandRole) ∧
          ∀ ids,ResolvesTo addrs services operand ids → entity∈ids := by
    intro source hs hrule entity htarget
    obtain ⟨rule,hr,hid⟩ := List.mem_map.mp (hperm.mem_iff.mpr hrule)
    refine ⟨rule,hr,mapOperand source,(hoperands rule hr _).mpr ⟨source,hs,hid.symm,rfl⟩,
      operandEntityType_mapOperand source,fun ids hids => ?_⟩
    exact mem_of_resolvesTo haddrsRep hservicesRep (hread source hs hrule) hids
      ((operandTarget_mapOperand hs entity).mpr htarget)
  refine ⟨addrs,services,hnodup,hperm,hperm.nodup_iff.mpr hselects.nodup,haddrsIndex,
    hservicesIndex,?_,?_⟩
  · intro rule hr operand ho htype zoneId htarget
    obtain ⟨source,hs,hrule,rfl⟩ := (hoperands rule hr operand).mp ho
    have hselected : source.ruleId∈ruleIds :=
      hrule▸hperm.mem_iff.mp (List.mem_map_of_mem hr)
    have hone := hread source hs hselected
    simp only [OperandRead,htype] at hone
    obtain ⟨other,hother,hin⟩ := hone
    rw [htarget,Option.some.injEq] at hother
    rwa [hother]
  · intro entityType entity hmapped
    cases entityType with
    | zone =>
      obtain ⟨zone,hz,rfl⟩ := hmapped
      obtain ⟨source,hs,hrule,htarget⟩ := exists_operand_of_zone hentities hfind hselects hz
      have hfamily : roleFamily source.operandRole=none := by
        cases hrole : roleFamily source.operandRole with
        | none => rfl
        | some family =>
          rw [(snapshot.object_refs source hs family hrole).1] at htarget
          cases htarget
      have hzone := hasked source hs hrule zone.id (Or.inl htarget)
      rwa [hfamily] at hzone
    | addr =>
      obtain ⟨object,ho,hkind,rfl⟩ := hmapped
      have hleaf : ¬snapshot.graph.IsGroup object.id := fun hg =>
        hkind (of_decide_eq_true ((haddrs.group object ho).mpr hg))
      obtain ⟨source,hs,hrule,hfamily,htarget⟩ :=
        exists_operand_of_leaf ((haddrs.ids object.id).mp (List.mem_map_of_mem ho)) hleaf
      have hobject := hasked source hs hrule object.id (Or.inr htarget)
      rwa [hfamily] at hobject
    | service =>
      obtain ⟨service,hservice,hkind,rfl⟩ := hmapped
      have hleaf : ¬snapshot.graph.IsGroup service.id := fun hg =>
        hkind (of_decide_eq_true ((hservices.group service hservice).mpr hg))
      obtain ⟨source,hs,hrule,hfamily,htarget⟩ := exists_operand_of_leaf
        ((hservices.ids service.id).mp (List.mem_map_of_mem hservice)) hleaf
      have hobject := hasked source hs hrule service.id (Or.inr htarget)
      rwa [hfamily] at hobject

end Selections

end NspMigrator.MappingScopeRead
