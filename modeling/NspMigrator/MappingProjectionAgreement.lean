import Mathlib
import NspMigrator.MappingProjectionRows
import NspMigrator.MappingReaderIds

/-!
# What is shown is what is read for a plan

A rule is shown as mapped exactly when every slot shows a result and every
result it shows is matched. So for a scope whose rules are linked to their
canonical rules, all rules are shown as mapped exactly when the scope can be
read for a plan, and then both name the same objects.
-/

namespace NspMigrator.MappingProjectionAgreement

open PyDict PyExcept SdwanModels ExecuteRepository MappingEntities MappingRepository MappingReader
open MappingSchemas MappingGroupIndex MappingRules CanonicalReader MappingScopeSpec
open MappingScopeInvariant MappingReaderIds MappingProjection MappingProjectionRows
open ExecutePlan (MappedRuleData)

/-! ## Statuses -/

/-- A rule is mapped when there is something to map and all of it is matched. -/
theorem aggregateMappingStatuses_eq_mapped {statuses : List MappingResultStatus} :
    aggregateMappingStatuses statuses=.mapped ↔
      statuses≠[] ∧ ∀ status∈statuses,status=.matched := by
  rw [aggregateMappingStatuses]
  by_cases hempty : statuses=[]
  · rw [if_pos hempty]
    exact iff_of_false (fun h => MappedRuleStatus.noConfusion h) fun h => h.1 hempty
  rw [if_neg hempty]
  by_cases hall : statuses.count .matched=statuses.length
  · rw [if_pos hall]
    exact ⟨fun _ => ⟨hempty,fun status hs => (List.count_eq_length.mp hall status hs).symm⟩,
      fun _ => rfl⟩
  · rw [if_neg hall]
    have hother : ¬∀ status∈statuses,status=.matched := fun h =>
      hall (List.count_eq_length.mpr fun status hs => (h status hs).symm)
    refine ⟨fun h => ?_,fun h => absurd h.2 hother⟩
    split at h
    · split at h <;> cases h
    · split at h <;> cases h

/-- All rows of a rule, slot by slot. -/
theorem mem_slots {α : Type} {slots : RuleSlots α} {item : α} :
    item∈slots.srcZones++slots.dstZones++slots.srcAddrObjects++slots.dstAddrObjects++
      slots.services ↔ ∃ role,item∈slots.slot role := by
  simp only [List.mem_append]
  constructor
  · rintro ((((h|h)|h)|h)|h)
    · exact ⟨.srcZone,h⟩
    · exact ⟨.dstZone,h⟩
    · exact ⟨.srcAddrObject,h⟩
    · exact ⟨.dstAddrObject,h⟩
    · exact ⟨.service,h⟩
  · rintro ⟨role,h⟩
    cases role with
    | srcZone => exact Or.inl (Or.inl (Or.inl (Or.inl h)))
    | dstZone => exact Or.inl (Or.inl (Or.inl (Or.inr h)))
    | srcAddrObject => exact Or.inl (Or.inl (Or.inr h))
    | dstAddrObject => exact Or.inl (Or.inr h)
    | service => exact Or.inr h

/-- Rows show something when one of them has a result. -/
theorem any_isSome_iff {rows : List CanonicalToSdwanEntityProjectionDTO} :
    rows.any (·.sdwan.isSome)=true ↔ ∃ display,display∈extractSdwanEntities rows := by
  simp only [List.any_eq_true,Option.isSome_iff_exists,extractSdwanEntities,List.mem_filterMap]
  exact ⟨fun ⟨row,hr,display,hd⟩ => ⟨display,row,hr,hd⟩,
    fun ⟨display,row,hr,hd⟩ => ⟨row,hr,display,hd⟩⟩

/-- A rule is shown as mapped when every slot shows a result and every result that
is shown is matched with an object. -/
theorem aggregateRuleStatusByRoles_eq_mapped
    {slots : RuleSlots CanonicalToSdwanEntityProjectionDTO} :
    aggregateRuleStatusByRoles slots=.mapped ↔
      (∀ role,∃ display,display∈extractSdwanEntities (slots.slot role)) ∧
      ∀ role,∀ display∈extractSdwanEntities (slots.slot role),
        display.matchStatus=.matched ∧ display.sdwanId≠none := by
  have hrequired : [slots.srcZones,slots.dstZones,slots.srcAddrObjects,slots.dstAddrObjects,
      slots.services].all (fun rows => rows.any (·.sdwan.isSome))=true ↔
      ∀ role,∃ display,display∈extractSdwanEntities (slots.slot role) := by
    simp only [List.all_cons,List.all_nil,Bool.and_true,Bool.and_eq_true,any_isSome_iff]
    constructor
    · rintro ⟨hsrcZones,hdstZones,hsrc,hdst,hservices⟩ role
      cases role with
      | srcZone => exact hsrcZones
      | dstZone => exact hdstZones
      | srcAddrObject => exact hsrc
      | dstAddrObject => exact hdst
      | service => exact hservices
    · exact fun h => ⟨h .srcZone,h .dstZone,h .srcAddrObject,h .dstAddrObject,h .service⟩
  have hshown : ∀ display,display∈extractSdwanEntities (slots.srcZones++slots.dstZones++
      slots.srcAddrObjects++slots.dstAddrObjects++slots.services) ↔
      ∃ role,display∈extractSdwanEntities (slots.slot role) := by
    intro display
    simp only [extractSdwanEntities,List.mem_filterMap]
    constructor
    · rintro ⟨row,hrow,hd⟩
      obtain ⟨role,hin⟩ := mem_slots.mp hrow
      exact ⟨role,row,hin,hd⟩
    · rintro ⟨role,row,hin,hd⟩
      exact ⟨row,mem_slots.mpr ⟨role,hin⟩,hd⟩
  have hstatuses : (∀ status∈extractMappingStatuses (slots.srcZones++slots.dstZones++
      slots.srcAddrObjects++slots.dstAddrObjects++slots.services),status=.matched) ↔
      ∀ role,∀ display∈extractSdwanEntities (slots.slot role),
        display.matchStatus=.matched ∧ display.sdwanId≠none := by
    simp only [extractMappingStatuses,List.forall_mem_map,hshown]
    constructor
    · intro h role display hd
      have hstatus := h display ⟨role,hd⟩
      by_cases hcase : display.matchStatus=.matched ∧ display.sdwanId=none
      · rw [if_pos hcase] at hstatus
        cases hstatus
      · rw [if_neg hcase] at hstatus
        exact ⟨hstatus,fun hnone => hcase ⟨hstatus,hnone⟩⟩
    · rintro h display ⟨role,hd⟩
      obtain ⟨hmatched,hsome⟩ := h role display hd
      rw [if_neg fun hcase => hsome hcase.2,hmatched]
  rw [aggregateRuleStatusByRoles]
  by_cases hall : ∀ role,∃ display,display∈extractSdwanEntities (slots.slot role)
  · rw [if_pos (hrequired.mpr hall),aggregateMappingStatuses_eq_mapped,hstatuses]
    refine ⟨fun h => ⟨hall,h.2⟩,fun h => ⟨fun hempty => ?_,h.2⟩⟩
    obtain ⟨display,hd⟩ := hall .srcZone
    have hin := (hshown display).mpr ⟨_,hd⟩
    rw [extractMappingStatuses,List.map_eq_nil_iff] at hempty
    rw [hempty] at hin
    cases hin
  · rw [if_neg fun h => hall (hrequired.mp h),aggregateMappingStatuses_eq_mapped]
    refine ⟨fun h => ?_,fun h => absurd h.1 hall⟩
    have hlast := h.2 .unresolved (List.mem_append_right _ (List.mem_singleton_self _))
    cases hlast

/-! ## Rules -/

/-- A rule as it is shown: every slot shows the results of its operands, and the
rule is mapped when no slot is empty and all these results are matched. -/
structure RuleShown (results : Dict ℕ MappingEntityResult) (rule : MappingScopeRule)
    (row : MappingScopeRuleDisplayDTO) : Prop where
  /-- It is shown under its number. -/
  rule_id : row.mappingScopeRuleId=rule.id
  /-- What a slot shows is a result of one of its operands. -/
  shown : ∀ role,∀ display∈row.slot role,
    ∃ result,SlotResult results rule role result ∧ Displays result display
  /-- Every result of an operand is shown in its slot. -/
  all : ∀ role result,SlotResult results rule role result →
    ∃ display∈row.slot role,Displays result display
  /-- It is mapped when no slot is empty and everything shown is matched. -/
  status : row.status=.mapped ↔ (∀ role,∃ display,display∈row.slot role) ∧
    ∀ role,∀ display∈row.slot role,display.matchStatus=.matched ∧ display.sdwanId≠none

section Rules

variable {entities : CanonicalScopeEntities} {results : Dict ℕ MappingEntityResult}
  {catalog : SdwanFullCatalog} {indexes : ProjectionIndexes} {canonicalRule : CanonicalRule}
  {rule : MappingScopeRule}

/-- A rule that is linked to its canonical rule is shown with the results of its operands. -/
theorem buildRuleDetails_spec (h : IndexesOf entities results catalog indexes)
    (hids : ∀ resultId result,results.get? resultId=some result → result.id=resultId)
    (hlinked : Linked entities indexes.addrs indexes.services results canonicalRule rule) :
    ∃ details,buildRuleDetails indexes rule canonicalRule=.ok details ∧
      RuleShown results rule (buildMappedRuleRow rule details) := by
  obtain ⟨srcZones,hsrcZones,hsrcZonesShow⟩ := buildRoleProjection_spec h hids hlinked .srcZone
  obtain ⟨dstZones,hdstZones,hdstZonesShow⟩ := buildRoleProjection_spec h hids hlinked .dstZone
  obtain ⟨srcAddrs,hsrcAddrs,hsrcAddrsShow⟩ := buildRoleProjection_spec h hids hlinked .srcObject
  obtain ⟨dstAddrs,hdstAddrs,hdstAddrsShow⟩ := buildRoleProjection_spec h hids hlinked .dstObject
  obtain ⟨services,hservices,hservicesShow⟩ := buildRoleProjection_spec h hids hlinked .service
  refine ⟨_,bind_eq_ok.mpr ⟨srcZones,hsrcZones,bind_eq_ok.mpr ⟨dstZones,hdstZones,
    bind_eq_ok.mpr ⟨srcAddrs,hsrcAddrs,bind_eq_ok.mpr ⟨dstAddrs,hdstAddrs,
      bind_eq_ok.mpr ⟨services,hservices,rfl⟩⟩⟩⟩⟩,?_⟩
  have hslot : ∀ role,ShowsExactly
      ((⟨srcZones,dstZones,srcAddrs,dstAddrs,services⟩ : RuleSlots _).slot role)
      (SlotResult results rule role) := by
    intro role
    cases role with
    | srcZone => exact hsrcZonesShow
    | dstZone => exact hdstZonesShow
    | srcAddrObject => exact hsrcAddrsShow
    | dstAddrObject => exact hdstAddrsShow
    | service => exact hservicesShow
  have hrow : ∀ role,(buildMappedRuleRow rule
      { (⟨srcZones,dstZones,srcAddrs,dstAddrs,services⟩ : RuleSlots _) with
        mappingScopeRuleId := rule.id, canonicalRuleId := canonicalRule.id, name := rule.name,
        action := rule.action, status := aggregateRuleStatusByRoles
          ⟨srcZones,dstZones,srcAddrs,dstAddrs,services⟩ }).slot role=
      extractSdwanEntities
        ((⟨srcZones,dstZones,srcAddrs,dstAddrs,services⟩ : RuleSlots _).slot role) := by
    intro role
    cases role <;> rfl
  constructor
  case rule_id => rfl
  case shown =>
    intro role display hd
    rw [hrow] at hd
    exact (hslot role).shown display hd
  case all =>
    intro role result hr
    rw [hrow]
    exact (hslot role).all result hr
  case status =>
    simp only [hrow]
    exact aggregateRuleStatusByRoles_eq_mapped

/-- The row of a canonical rule is built when its operands resolve. -/
theorem exists_buildCanonicalRuleRow (h : IndexesOf entities results catalog indexes)
    (hlinked : Linked entities indexes.addrs indexes.services results canonicalRule rule) :
    ∃ row,buildCanonicalRuleRow indexes canonicalRule=.ok row := by
  have hone : ∀ operand∈canonicalRule.operands,
      ∃ displays,canonicalOperandSummaryEntities indexes operand=.ok displays := by
    intro operand ho
    obtain ⟨ids,hresolves,hzones,-⟩ := hlinked.targets operand ho
    rw [canonicalOperandSummaryEntities]
    simp only [ResolvesTo,resolveOperandTargets] at hresolves
    have hzone : operandEntityType operand.role=.zone → ∀ zoneId,operand.targetZoneId=some zoneId →
        ∃ displays,(do
          let zone ← getZone indexes.zones zoneId
          return [canonicalZoneDisplay zone])=
            (.ok displays : Except PyException (List CanonicalEntityDisplayDTO)) := by
      intro htype zoneId htarget
      rw [htype] at hresolves
      dsimp only at hresolves
      rw [htarget,Except.ok.injEq] at hresolves
      subst hresolves
      obtain ⟨zone,hzone,rfl⟩ := hzones htype zoneId (List.mem_singleton_self zoneId)
      obtain ⟨found,hfound,-⟩ := h.zones zone hzone
      exact ⟨_,bind_eq_ok.mpr ⟨found,by rw [getZone,hfound],rfl⟩⟩
    cases hrole : operand.role with
    | srcZone | dstZone =>
      cases htarget : operand.targetZoneId with
      | none => exact ⟨[],rfl⟩
      | some zoneId => exact hzone (by rw [hrole]; rfl) zoneId htarget
    | srcObject | dstObject =>
      rw [hrole] at hresolves
      exact exists_objectOperandSummary addrFamily hresolves
    | service =>
      rw [hrole] at hresolves
      exact exists_objectOperandSummary serviceFamily hresolves
  obtain ⟨entries,hentries⟩ := exists_mapM_eq_ok (f:=fun operand : CanonicalRuleOperand => do
      let displays ← canonicalOperandSummaryEntities indexes operand
      return (operand.role,displays))
    fun operand ho => (hone operand ho).imp' _ fun displays hd => bind_eq_ok.mpr ⟨displays,hd,rfl⟩
  exact ⟨_,bind_eq_ok.mpr ⟨entries,hentries,rfl⟩⟩

end Rules

/-! ## Scopes -/

/-- The canonical rules of the rules of a scope, in the order they are read. -/
def canonicalIds (entry : MappingScopeCacheEntry) : List ℕ :=
  (rulesByPriority entry).map (·.canonicalRuleId)

/-- A scope whose rules are linked to the canonical rules that are read for it. -/
structure EntryLinked (snapshots : SnapshotStore) (entry : MappingScopeCacheEntry)
    (entities : CanonicalScopeEntities) (canonicalRules : List CanonicalRule)
    (addrs : CanonicalObjectIndex CanonicalAddrObject)
    (services : CanonicalObjectIndex CanonicalService) : Prop where
  /-- The entities are those of the canonical rules of the scope. -/
  entities_read : getCanonicalScopeEntitiesData snapshots entry.scope.canonicalSnapshotId
    (canonicalIds entry)=.ok entities
  /-- So are the canonical rules. -/
  rules_read : getCanonicalScopeRules snapshots entry.scope.canonicalSnapshotId
    (canonicalIds entry)=.ok canonicalRules
  /-- The address objects can be indexed. -/
  addrs_index : CanonicalObjectIndex.create entities.addrObjects=.ok addrs
  /-- The services can be indexed. -/
  services_index : CanonicalObjectIndex.create entities.services=.ok services
  /-- No canonical rule is read twice. -/
  canonical_nodup : (canonicalRules.map (·.id)).Nodup
  /-- Every rule is linked to the canonical rule it was made from. -/
  linked : ∀ ruleId rule,entry.rules.get? ruleId=some rule → rule.operands≠none ∧
    ∃ canonicalRule∈canonicalRules,canonicalRule.id=rule.canonicalRuleId ∧
      Linked entities addrs services entry.results canonicalRule rule
  /-- A result without an operand that points at it is matched. -/
  covered : ∀ resultId result,entry.results.get? resultId=some result →
    result.resultStatus=.matched ∨ ∃ ruleId rule,entry.rules.get? ruleId=some rule ∧
      ∃ own∈rule.operands.getD [],own.mappingEntityResultId=resultId
  /-- Only zones have results without a canonical entity. -/
  keyed : ∀ resultId result,entry.results.get? resultId=some result →
    result.entityType=.zone ∨ ∃ entity,result.canonicalEntityId=.ok entity

section Scopes

variable {store : ScopeStore} {scopeId : ℕ} {snapshots : SnapshotStore}
  {entry : MappingScopeCacheEntry} {entities : CanonicalScopeEntities}
  {canonicalRules : List CanonicalRule} {addrs : CanonicalObjectIndex CanonicalAddrObject}
  {services : CanonicalObjectIndex CanonicalService} {catalog : SdwanFullCatalog}

/-- The results of a scope are listed as they are stored. -/
theorem mem_listResults (hentry : store.get? scopeId=some entry)
    (hwf : ScopeEntryWf scopeId entry) {result : MappingEntityResult} :
    result∈listResults store scopeId none none ↔ entry.results.get? result.id=some result := by
  simp only [listResults,hentry,Option.all_none,Bool.and_self,List.filter_true,
    List.mem_insertionSort]
  constructor
  · intro h
    obtain ⟨key,hkey⟩ := Dict.exists_get?_of_mem_values h
    rwa [(hwf.result_id key result hkey).1]
  · exact Dict.mem_values_of_get?

/-- The rules of a scope by priority are the stored ones. -/
theorem mem_rulesByPriority (hwf : ScopeEntryWf scopeId entry) {rule : MappingScopeRule} :
    rule∈rulesByPriority entry ↔ entry.rules.get? rule.id=some rule := by
  rw [rulesByPriority,List.mem_insertionSort]
  constructor
  · intro h
    obtain ⟨key,hkey⟩ := Dict.exists_get?_of_mem_values h
    rwa [hwf.rule_id key rule hkey]
  · exact Dict.mem_values_of_get?

/-- Results of distinct entities are indexed by entity, those of zones assigned by
hand being left out. -/
theorem mappingResultsIndex_eq_ok {listed : List MappingEntityResult}
    (hkeyed : ∀ result∈listed,
      result.entityType=.zone ∨ ∃ entity,result.canonicalEntityId=.ok entity)
    (hunique : ∀ result∈listed,∀ other∈listed,result.entityType=other.entityType →
      ∀ entity,result.canonicalEntityId=.ok entity → other.canonicalEntityId=.ok entity →
        result=other) :
    ∃ byKey,mappingResultsIndex listed=.ok byKey ∧ ∀ key result,byKey.get? key=some result ↔
      result∈listed ∧ result.entityType=key.1 ∧ result.canonicalEntityId=.ok key.2 := by
  -- what is indexed of a part of the list
  have hgen : ∀ (rest : List MappingEntityResult) (byKey : Dict MappingResultLookupKey
      MappingEntityResult) (before : List MappingEntityResult),before++rest=listed →
      (∀ key result,byKey.get? key=some result ↔ result∈before ∧ result.entityType=key.1 ∧
        result.canonicalEntityId=.ok key.2) →
      ∃ out,rest.foldlM indexResult byKey=.ok out ∧ ∀ key result,out.get? key=some result ↔
        result∈listed ∧ result.entityType=key.1 ∧ result.canonicalEntityId=.ok key.2 := by
    intro rest
    induction rest with
    | nil =>
      intro byKey before hsplit hget
      rw [List.append_nil] at hsplit
      exact ⟨byKey,rfl,hsplit▸hget⟩
    | cons first rest ih =>
      intro byKey before hsplit hget
      have hfirst : first∈listed := hsplit▸List.mem_append_right _ List.mem_cons_self
      have hsplit' : (before++[first])++rest=listed := by
        rw [List.append_assoc]
        exact hsplit
      cases hid : first.canonicalEntityId with
      | ok entity =>
        obtain ⟨out,hout,hspec⟩ := ih (byKey.insert (first.entityType,entity) first)
          (before++[first]) hsplit' fun key result => by
            rw [Dict.get?_insert,List.mem_append,List.mem_singleton]
            by_cases hkey : key=(first.entityType,entity)
            · subst hkey
              rw [if_pos rfl,Option.some.injEq]
              constructor
              · rintro rfl
                exact ⟨Or.inr rfl,rfl,hid⟩
              · rintro ⟨hin,htype,hentity⟩
                refine hunique first hfirst result ?_ htype.symm entity hid hentity
                rcases hin with hin|rfl
                · exact hsplit▸List.mem_append_left _ hin
                · exact hfirst
            · rw [if_neg hkey,hget]
              constructor
              · exact fun h => ⟨Or.inl h.1,h.2⟩
              · rintro ⟨hin|rfl,htype,hentity⟩
                · exact ⟨hin,htype,hentity⟩
                · rw [hid,Except.ok.injEq] at hentity
                  exact absurd (Prod.ext htype.symm hentity.symm) hkey
        refine ⟨out,?_,hspec⟩
        rw [List.foldlM_cons]
        exact bind_eq_ok.mpr ⟨_,by rw [indexResult,hid],hout⟩
      | error error =>
        have hzone : first.entityType=.zone := by
          rcases hkeyed first hfirst with hzone|⟨entity,hentity⟩
          · exact hzone
          · rw [hid] at hentity
            cases hentity
        obtain ⟨out,hout,hspec⟩ := ih byKey (before++[first]) hsplit' fun key result => by
          rw [hget,List.mem_append,List.mem_singleton]
          constructor
          · exact fun h => ⟨Or.inl h.1,h.2⟩
          · rintro ⟨hin|rfl,htype,hentity⟩
            · exact ⟨hin,htype,hentity⟩
            · rw [hid] at hentity
              cases hentity
        refine ⟨out,?_,hspec⟩
        rw [List.foldlM_cons]
        refine bind_eq_ok.mpr ⟨byKey,?_,hout⟩
        rw [indexResult,hid]
        exact if_pos hzone
  refine hgen listed Dict.empty [] rfl fun key result => ?_
  rw [Dict.get?_empty]
  exact iff_of_false (fun h => by cases h) fun h => List.not_mem_nil h.1

/-- Zones of their own identifiers are indexed. -/
theorem canonicalZoneIndex_eq_ok {zones : List CanonicalZone} (h : (zones.map (·.id)).Nodup) :
    ∃ zonesById,canonicalZoneIndex zones=.ok zonesById ∧
      ∀ zone∈zones,∃ found,zonesById.get? zone.id=some found ∧ found.id=zone.id := by
  have hput : ∀ d : Dict ℕ CanonicalZone,∀ zone∈zones,d.get? zone.id=none →
      addZone d zone=.ok (d.insert zone.id zone) := by
    intro d zone _ hfree
    rw [addZone,if_neg]
    simp [Dict.contains,hfree]
  obtain ⟨zonesById,heq,hget⟩ := foldlM_insert h hput fun _ _ => Dict.get?_empty _
  refine ⟨zonesById,heq,fun zone hz => ⟨zone,?_,rfl⟩⟩
  exact (hget _ _).mpr (Or.inr ⟨zone,hz,rfl,rfl⟩)

/-- Every object that is selected in a scope is in the catalog. -/
def SelectionsIn (catalog : SdwanFullCatalog) (entry : MappingScopeCacheEntry) : Prop :=
  ∀ resultId result,entry.results.get? resultId=some result →
    ∀ id,result.selectedSdwanEntityId=some id → InCatalog catalog result.entityType id

/-- What a projection of a linked scope looks things up in. -/
theorem exists_indexes (hentry : store.get? scopeId=some entry) (hwf : ScopeEntryWf scopeId entry)
    (hok : ScopeOk entry) (h : EntryLinked snapshots entry entities canonicalRules addrs services)
    (hzones : (entities.zones.map (·.id)).Nodup) (hselected : SelectionsIn catalog entry) :
    ∃ indexes,ProjectionIndexes.create canonicalRules entities
        (listResults store scopeId none none) catalog=.ok indexes ∧
      IndexesOf entities entry.results catalog indexes ∧ indexes.addrs=addrs ∧
      indexes.services=services ∧ ∀ rule∈canonicalRules,
        indexes.canonicalRulesById.get? rule.id=some rule := by
  obtain ⟨zones,hzonesIndex,hzonesGet⟩ := canonicalZoneIndex_eq_ok hzones
  obtain ⟨byKey,hbyKey,hkey⟩ := mappingResultsIndex_eq_ok
    (fun result hr => h.keyed _ result ((mem_listResults hentry hwf).mp hr))
    fun result hr other ho htype entity he ho' => by
      have hresult := (mem_listResults hentry hwf).mp hr
      have hother := (mem_listResults hentry hwf).mp ho
      have hid := hok.unique _ result _ other hresult hother htype entity he ho'
      rw [hid,hother,Option.some.injEq] at hresult
      exact hresult.symm
  refine ⟨⟨Dict.ofList (canonicalRules.map fun rule => (rule.id,rule)),
    Dict.ofList ((listResults store scopeId none none).map fun result => (result.id,result)),
    zones,addrs,services,byKey,.create catalog⟩,?_,?_,rfl,rfl,?_⟩
  · exact bind_eq_ok.mpr ⟨zones,hzonesIndex,bind_eq_ok.mpr ⟨addrs,h.addrs_index,
      bind_eq_ok.mpr ⟨services,h.services_index,bind_eq_ok.mpr ⟨byKey,hbyKey,rfl⟩⟩⟩⟩
  · constructor
    case addrs => exact h.addrs_index
    case services => exact h.services_index
    case zones => exact hzonesGet
    case byEntity =>
      intro key result
      rw [hkey]
      refine and_congr_left fun _ => ⟨fun hr => ⟨_,(mem_listResults hentry hwf).mp hr⟩,?_⟩
      rintro ⟨resultId,hr⟩
      rw [mem_listResults hentry hwf,(hwf.result_id resultId result hr).1,hr]
    case resultsById => exact PlanStaleness.get?_resultsById hentry hwf
    case sdwan => rfl
    case selectable =>
      intro resultId result hr hmatched
      obtain ⟨id,hid⟩ := Option.isSome_iff_exists.mp
        (((hok.results resultId result hr).selected).mp hmatched)
      exact ⟨id,hid,hselected resultId result hr id hid⟩
  · intro rule hr
    obtain ⟨found,hfound⟩ := Dict.exists_get?_ofList
      (List.mem_map_of_mem (f:=fun rule : CanonicalRule => (rule.id,rule)) hr)
    obtain ⟨other,ho,heq⟩ := List.mem_map.mp (Dict.mem_of_get?_ofList hfound)
    obtain ⟨hid,rfl⟩ := Prod.mk.inj heq
    rw [List.inj_on_of_nodup_map h.canonical_nodup ho hr hid] at hfound
    exact hfound

/-- A linked scope is shown, every rule with the results of its operands. -/
theorem exists_projection (hentry : store.get? scopeId=some entry)
    (hwf : ScopeEntryWf scopeId entry) (hok : ScopeOk entry)
    (h : EntryLinked snapshots entry entities canonicalRules addrs services)
    (hzones : (entities.zones.map (·.id)).Nodup) (hselected : SelectionsIn catalog entry) :
    ∃ view,getMappingScopeRulesProjection store snapshots catalog scopeId=.ok view ∧
      List.Forall₂ (RuleShown entry.results) (rulesByPriority entry) view.mappedRules := by
  obtain ⟨indexes,hindexes,hof,haddrs,hservices,hcanonical⟩ :=
    exists_indexes hentry hwf hok h hzones hselected
  have hrule : ∀ rule∈rulesByPriority entry,∃ view,buildRule indexes rule=.ok view ∧
      RuleShown entry.results rule view.mapped := by
    intro rule hr
    obtain ⟨-,canonicalRule,hc,hid,hlinked⟩ :=
      h.linked _ rule ((mem_rulesByPriority hwf).mp hr)
    rw [←haddrs,←hservices] at hlinked
    obtain ⟨details,hdetails,hshown⟩ := buildRuleDetails_spec hof
      (fun resultId result hr => (hwf.result_id resultId result hr).1) hlinked
    obtain ⟨row,hrow⟩ := exists_buildCanonicalRuleRow hof hlinked
    have hget : getCanonicalRule indexes rule.canonicalRuleId=.ok canonicalRule := by
      rw [getCanonicalRule,←hid,hcanonical canonicalRule hc]
    exact ⟨⟨row,buildMappedRuleRow rule details,details⟩,bind_eq_ok.mpr ⟨canonicalRule,hget,
      bind_eq_ok.mpr ⟨details,hdetails,bind_eq_ok.mpr ⟨row,hrow,rfl⟩⟩⟩,hshown⟩
  obtain ⟨views,hviews,hshown⟩ := exists_mapM_forall₂ hrule
  have hsorted : (rulesByPriority entry).insertionSort (fun a b => a.priority≤b.priority)=
      rulesByPriority entry := (List.pairwise_insertionSort _ _).insertionSort_eq
  refine ⟨⟨entry.scope.id,entry.scope.canonicalSnapshotId,entry.scope.sdwanTargetId,
    views.map (·.canonical),views.map (·.mapped),Dict.ofList (views.map fun view =>
      (view.details.mappingScopeRuleId,view.details))⟩,?_,List.forall₂_map_right_iff.mpr hshown⟩
  rw [getMappingScopeRulesProjection,getScopeById,hentry,Option.map_some,materializeScope]
  refine bind_eq_ok.mpr ⟨canonicalRules,h.rules_read,bind_eq_ok.mpr ⟨entities,h.entities_read,
    bind_eq_ok.mpr ⟨indexes,?_,bind_eq_ok.mpr ⟨views,?_,rfl⟩⟩⟩⟩
  · rw [hwf.scope_id]
    exact hindexes
  · rw [rulesByPriority] at hsorted hviews
    rw [hsorted]
    exact hviews

/-- A rule is read when its operands have objects and no slot is empty. -/
theorem exists_mappedRuleData_iff {results : Dict ℕ MappingEntityResult} {rule : MappingScopeRule}
    (hoperands : rule.operands≠none)
    (hselected : ∀ own∈rule.operands.getD [],∃ id,selectedId results own=some id) :
    (∃ data,mappedRuleData results rule=.ok data) ↔
      ∀ role,∃ own∈rule.operands.getD [],own.role=role := by
  obtain ⟨operands,hsome⟩ := Option.ne_none_iff_exists'.mp hoperands
  have hown : rule.operands.getD []=operands := by rw [hsome,Option.getD_some]
  rw [hown] at hselected ⊢
  have hone : ∀ own∈operands,∃ entity,operandEntity results own=.ok entity := by
    intro own ho
    obtain ⟨id,hid⟩ := hselected own ho
    obtain ⟨result,hresult,hentity⟩ := Option.bind_eq_some_iff.mp hid
    refine ⟨(own.role,id),?_⟩
    rw [operandEntity,hresult]
    simp only [hentity]
  obtain ⟨entities,hentities⟩ := exists_mapM_eq_ok hone
  have hempty : ∀ role,entitiesOfRole entities role=[] ↔ ¬∃ own∈operands,own.role=role := by
    intro role
    have hslot := map_entitiesOfRole hentities role
    rw [←List.map_eq_nil_iff (f:=some),hslot,List.map_eq_nil_iff,List.filter_eq_nil_iff]
    simp only [decide_eq_true_eq,not_exists,not_and]
  have hmissing : operandRoles.filter (fun role => decide (entitiesOfRole entities role=[]))=[] ↔
      ∀ role,∃ own∈operands,own.role=role := by
    simp only [List.filter_eq_nil_iff,decide_eq_true_eq,hempty,not_not]
    refine ⟨fun h role => h role ?_,fun h role _ => h role⟩
    cases role <;> decide
  rw [←hmissing,mappedRuleData,hsome]
  constructor
  · rintro ⟨data,hdata⟩
    obtain ⟨others,hothers,hrest⟩ := bind_eq_ok.mp hdata
    rw [hentities,Except.ok.injEq] at hothers
    subst hothers
    by_contra hne
    exact absurd ((if_pos hne).symm.trans hrest) (by intro h; cases h)
  · intro hnone
    exact ⟨_,bind_eq_ok.mpr ⟨entities,hentities,if_neg (not_not_intro hnone)⟩⟩

/-- A scope is read when it has rules, all its results are matched and no slot of a
rule is empty. -/
theorem exists_getMappingScopeRules_iff (hentry : store.get? scopeId=some entry)
    (hwf : ScopeEntryWf scopeId entry) (hok : ScopeOk entry)
    (hoperands : ∀ ruleId rule,entry.rules.get? ruleId=some rule → rule.operands≠none) :
    (∃ rules,getMappingScopeRules store scopeId=.ok rules) ↔
      rulesByPriority entry≠[] ∧
      (∀ resultId result,entry.results.get? resultId=some result →
        result.resultStatus=.matched) ∧
      ∀ rule∈rulesByPriority entry,∀ role,∃ own∈rule.operands.getD [],own.role=role := by
  have hsorted : (rulesByPriority entry).insertionSort (fun a b => a.priority≤b.priority)=
      rulesByPriority entry := (List.pairwise_insertionSort _ _).insertionSort_eq
  have hmatched : ((listResults store scopeId none none).any fun result =>
      decide (result.resultStatus≠.matched))=true ↔
      ¬∀ resultId result,entry.results.get? resultId=some result →
        result.resultStatus=.matched := by
    rw [List.any_eq_true]
    constructor
    · rintro ⟨result,hr,hne⟩ hall
      exact of_decide_eq_true hne (hall _ result ((mem_listResults hentry hwf).mp hr))
    · intro hnot
      push Not at hnot
      obtain ⟨resultId,result,hr,hne⟩ := hnot
      refine ⟨result,(mem_listResults hentry hwf).mpr ?_,decide_eq_true hne⟩
      rw [(hwf.result_id resultId result hr).1,hr]
  rw [getMappingScopeRules,getScopeById,hentry,Option.map_some]
  simp only [materializeScope,Option.getD_some,hwf.scope_id]
  rw [rulesByPriority] at hsorted ⊢
  rw [hsorted,←rulesByPriority]
  by_cases hnone : rulesByPriority entry=[]
  · rw [if_pos hnone]
    refine iff_of_false ?_ fun h => h.1 hnone
    rintro ⟨rules,hread⟩
    cases hread
  rw [if_neg hnone]
  by_cases hall : ∀ resultId result,entry.results.get? resultId=some result →
      result.resultStatus=.matched
  · rw [if_neg fun h => hmatched.mp h hall]
    have hrule : ∀ rule∈rulesByPriority entry,
        (∃ data,mappedRuleData (Dict.ofList ((listResults store scopeId none none).map
          fun result => (result.id,result))) rule=.ok data) ↔
        ∀ role,∃ own∈rule.operands.getD [],own.role=role := by
      intro rule hr
      have hstored := (mem_rulesByPriority hwf).mp hr
      refine exists_mappedRuleData_iff (hoperands _ rule hstored) fun own ho => ?_
      obtain ⟨result,hresult⟩ := hok.operands _ rule hstored own ho
      obtain ⟨id,hid⟩ := Option.isSome_iff_exists.mp
        ((hok.results _ result hresult).selected.mp (hall _ result hresult))
      refine ⟨id,?_⟩
      rw [selectedId,PlanStaleness.get?_resultsById hentry hwf,hresult,Option.bind_some,hid]
    constructor
    · rintro ⟨rules,hrules⟩
      refine ⟨hnone,hall,fun rule hr => (hrule rule hr).mp ?_⟩
      obtain ⟨data,-,hdata⟩ := exists_of_mapM_eq_ok hrules hr
      exact ⟨data,hdata⟩
    · exact fun h => exists_mapM_eq_ok fun rule hr => (hrule rule hr).mpr (h.2.2 rule hr)
  · rw [if_pos (hmatched.mpr hall)]
    refine iff_of_false ?_ fun h => hall h.2.1
    rintro ⟨rules,hread⟩
    cases hread

/-- A rule is shown with exactly the objects it is read with. -/
structure ShownAsRead (row : MappingScopeRuleDisplayDTO) (data : MappedRuleData) : Prop where
  /-- The row and the data are of one rule. -/
  rule_id : row.mappingScopeRuleId=data.id
  /-- A slot shows the objects that are read for it and no others. -/
  ids : ∀ role sdwanEntityId,sdwanEntityId∈idsOfRole data role ↔
    ∃ display∈row.slot role,display.sdwanId=some sdwanEntityId

/-- What is shown of a scope agrees with what is read for a plan: all rules are
shown as mapped exactly when the scope can be read, and then with the objects
that are read. -/
structure ViewAgrees (view : MappingScopeRulesProjectionDTO)
    (read : Except PyException (List MappedRuleData)) : Prop where
  /-- All rules are shown as mapped exactly when the scope can be read. -/
  ready : (∀ row∈view.mappedRules,row.status=.mapped) ↔ ∃ rules,read=.ok rules
  /-- Then rule by rule with the objects that are read. -/
  same : ∀ rules,read=.ok rules → List.Forall₂ ShownAsRead view.mappedRules rules

/-- A rule is shown as mapped when no slot is empty and its results are matched. -/
theorem RuleShown.mapped_iff (hok : ScopeOk entry) {ruleId : ℕ} {rule : MappingScopeRule}
    (hrule : entry.rules.get? ruleId=some rule) {row : MappingScopeRuleDisplayDTO}
    (h : RuleShown entry.results rule row) :
    row.status=.mapped ↔ (∀ role,∃ own∈rule.operands.getD [],own.role=role) ∧
      ∀ own∈rule.operands.getD [],∀ result,
        entry.results.get? own.mappingEntityResultId=some result →
          result.resultStatus=.matched := by
  rw [h.status]
  constructor
  · rintro ⟨hfull,hmatched⟩
    constructor
    · intro role
      obtain ⟨display,hd⟩ := hfull role
      obtain ⟨result,⟨own,ho,hrole,-⟩,-⟩ := h.shown role display hd
      exact ⟨own,ho,hrole⟩
    · intro own ho result hresult
      obtain ⟨display,hd,hshows⟩ := h.all own.role result ⟨own,ho,rfl,hresult⟩
      rw [←hshows.status]
      exact (hmatched own.role display hd).1
  · rintro ⟨hfull,hmatched⟩
    constructor
    · intro role
      obtain ⟨own,ho,hrole⟩ := hfull role
      obtain ⟨result,hresult⟩ := hok.operands ruleId rule hrule own ho
      obtain ⟨display,hd,-⟩ := h.all role result ⟨own,ho,hrole,hresult⟩
      exact ⟨display,hd⟩
    · intro role display hd
      obtain ⟨result,⟨own,ho,-,hresult⟩,hshows⟩ := h.shown role display hd
      have hone := hmatched own ho result hresult
      have hsome := (hok.results _ result hresult).selected.mp hone
      rw [hshows.status,hshows.object,if_pos hone]
      exact ⟨hone,fun hnone => by rw [hnone] at hsome; cases hsome⟩

/-- The objects that are shown are those the operands of the slot select. -/
theorem RuleShown.shownAsRead {rule : MappingScopeRule} {row : MappingScopeRuleDisplayDTO}
    (h : RuleShown entry.results rule row)
    (hmatched : ∀ resultId result,entry.results.get? resultId=some result →
      result.resultStatus=.matched) {data : MappedRuleData}
    (hdata : HoldsSelected entry.results rule data) : ShownAsRead row data := by
  refine ⟨h.rule_id.trans hdata.rule_id.symm,fun role sdwanEntityId => ?_⟩
  rw [hdata.mem_iff]
  simp only [operandsOfRole,List.mem_filter,decide_eq_true_eq]
  constructor
  · rintro ⟨own,⟨ho,hrole⟩,hselected⟩
    obtain ⟨result,hresult,hid⟩ := Option.bind_eq_some_iff.mp hselected
    obtain ⟨display,hd,hshows⟩ := h.all role result ⟨own,ho,hrole,hresult⟩
    exact ⟨display,hd,by rw [hshows.object,if_pos (hmatched _ result hresult),hid]⟩
  · rintro ⟨display,hd,hid⟩
    obtain ⟨result,⟨own,ho,hrole,hresult⟩,hshows⟩ := h.shown role display hd
    rw [hshows.object,if_pos (hmatched _ result hresult)] at hid
    exact ⟨own,⟨ho,hrole⟩,by rw [selectedId,hresult,Option.bind_some,hid]⟩

/-- A linked scope with rules is shown as it is read. -/
theorem viewAgrees (hentry : store.get? scopeId=some entry) (hwf : ScopeEntryWf scopeId entry)
    (hok : ScopeOk entry) (h : EntryLinked snapshots entry entities canonicalRules addrs services)
    (hzones : (entities.zones.map (·.id)).Nodup) (hselected : SelectionsIn catalog entry)
    (hrules : rulesByPriority entry≠[]) :
    ∃ view,getMappingScopeRulesProjection store snapshots catalog scopeId=.ok view ∧
      ViewAgrees view (getMappingScopeRules store scopeId) := by
  obtain ⟨view,hview,hshown⟩ := exists_projection hentry hwf hok h hzones hselected
  refine ⟨view,hview,?_,fun rules hread => ?_⟩
  · rw [exists_getMappingScopeRules_iff hentry hwf hok
      fun ruleId rule hr => (h.linked ruleId rule hr).1]
    have hpair : ∀ rule∈rulesByPriority entry,∃ row∈view.mappedRules,
        RuleShown entry.results rule row := fun rule hr => by
      obtain ⟨i,hi,rfl⟩ := List.mem_iff_getElem.mp hr
      exact ⟨_,List.getElem_mem (hshown.length_eq▸hi),hshown.get hi (hshown.length_eq▸hi)⟩
    have hback : ∀ row∈view.mappedRules,∃ rule∈rulesByPriority entry,
        RuleShown entry.results rule row := fun row hr => by
      obtain ⟨i,hi,rfl⟩ := List.mem_iff_getElem.mp hr
      exact ⟨_,List.getElem_mem (hshown.length_eq▸hi),hshown.get (hshown.length_eq▸hi) hi⟩
    constructor
    · intro hall
      have hmapped : ∀ ruleId rule,entry.rules.get? ruleId=some rule →
          (∀ role,∃ own∈rule.operands.getD [],own.role=role) ∧
          ∀ own∈rule.operands.getD [],∀ result,
            entry.results.get? own.mappingEntityResultId=some result →
              result.resultStatus=.matched := by
        intro ruleId rule hr
        have hin : rule∈rulesByPriority entry :=
          (mem_rulesByPriority hwf).mpr (by rw [hwf.rule_id ruleId rule hr,hr])
        obtain ⟨row,hrow,hone⟩ := hpair rule hin
        exact (hone.mapped_iff hok hr).mp (hall row hrow)
      refine ⟨hrules,fun resultId result hr => ?_,fun rule hr =>
        (hmapped _ rule ((mem_rulesByPriority hwf).mp hr)).1⟩
      rcases h.covered resultId result hr with hmatched|⟨ruleId,rule,hrule,own,ho,rfl⟩
      · exact hmatched
      · exact (hmapped ruleId rule hrule).2 own ho result hr
    · rintro ⟨-,hmatched,hfull⟩ row hrow
      obtain ⟨rule,hr,hone⟩ := hback row hrow
      exact (hone.mapped_iff hok ((mem_rulesByPriority hwf).mp hr)).mpr
        ⟨hfull rule hr,fun own _ result hresult => hmatched _ result hresult⟩
  · have hmatched := ((exists_getMappingScopeRules_iff hentry hwf hok
      fun ruleId rule hr => (h.linked ruleId rule hr).1).mp ⟨rules,hread⟩).2.1
    have hholds := holdsSelected_of_getMappingScopeRules hentry hwf hread
    refine List.forall₂_iff_get.mpr ⟨hshown.length_eq.symm.trans hholds.length_eq,
      fun i hi hj => ?_⟩
    have hk : i<(rulesByPriority entry).length := hholds.length_eq▸hj
    exact (hshown.get hk hi).shownAsRead hmatched (hholds.get hk hj)

end Scopes

end NspMigrator.MappingProjectionAgreement
