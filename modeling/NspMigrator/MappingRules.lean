import Mathlib
import NspMigrator.MappingEntities
import NspMigrator.MappingGroupIndex

/-!
# Rules of a scope

The operands of a canonical rule become operands that point at results. A
group operand is opened into its leaves first, so that every operand of the
new rule has a result of its own.
-/

namespace NspMigrator.MappingRules

open PyDict PyExcept ExecuteRepository GroupReach MappingEntities MappingSchemas
open MappingGroupIndex

/-- The key of a result: what kind of entity it is for, and which one. -/
abbrev MappingResultLookupKey := MappingEntityType × ℕ

/-- Put a result under its entity. Zones assigned by hand have none. -/
def indexResult (byKey : Dict MappingResultLookupKey MappingEntityResult)
    (result : MappingEntityResult) :
    Except PyException (Dict MappingResultLookupKey MappingEntityResult) :=
  match result.canonicalEntityId with
  | .ok canonicalEntityId => .ok (byKey.insert (result.entityType,canonicalEntityId) result)
  | .error error => if result.entityType=.zone then .ok byKey else .error error

/-- Results by entity. -/
def mappingResultsIndex (results : List MappingEntityResult) :
    Except PyException (Dict MappingResultLookupKey MappingEntityResult) :=
  results.foldlM indexResult Dict.empty

/-- What the operands of a rule are resolved with. -/
structure RuleIndexes where
  /-- The results by the entity they stand for. -/
  results : Dict MappingResultLookupKey MappingEntityResult
  /-- The address objects, with their groups. -/
  addrs : CanonicalObjectIndex CanonicalAddrObject
  /-- The services, with their groups. -/
  services : CanonicalObjectIndex CanonicalService

/-- The object of an operand, or the leaves of its group. -/
def resolveObjectTargets {α : Type} [GroupedObject α] (index : CanonicalObjectIndex α)
    (noun leaves : String) (operand : CanonicalRuleOperand) : Except PyException (List ℕ) :=
  match operand.targetObjectId with
  | none => .error (domainError
      (noun++" operand "++toString operand.id++" has no target_object_id"))
  | some objectId => do
    if ← index.hasGroup objectId then
      let leafObjects ← index.resolveGroupLeaves objectId
      if leafObjects=[] then
        throw (domainError
          (noun++" group operand "++toString operand.id++" has no leaf "++leaves))
      return leafObjects.map GroupedObject.objectId
    else return [objectId]

/-- The kind of entity a slot refers to. -/
def operandEntityType : CanonicalRuleOperandRole → MappingEntityType
  | .srcZone | .dstZone => .zone
  | .srcObject | .dstObject => .addr
  | .service => .service

/-- The entities of an operand. -/
def resolveOperandTargets (indexes : RuleIndexes) (operand : CanonicalRuleOperand) :
    Except PyException (List ℕ) :=
  match operandEntityType operand.role with
  | .zone =>
    match operand.targetZoneId with
    | none => .error (domainError ("ZONE operand "++toString operand.id++" has no target_zone_id"))
    | some zoneId => .ok [zoneId]
  | .addr => resolveObjectTargets indexes.addrs "ADDR" "objects" operand
  | .service => resolveObjectTargets indexes.services "SERVICE" "services" operand

/-- The slot of a mapped rule. -/
def mapOperandRole : CanonicalRuleOperandRole → MappingScopeRuleOperandRole
  | .srcZone => .srcZone
  | .dstZone => .dstZone
  | .srcObject => .srcAddrObject
  | .dstObject => .dstAddrObject
  | .service => .service

/-- The action of a mapped rule. -/
def mapRuleAction : CanonicalRuleAction → MappingScopeRuleAction
  | .permit => .accept
  | .deny => .reject

/-- An operand before it has an identifier. -/
structure MappingScopeRuleOperandPayload where
  /-- The slot of the operand. -/
  role : MappingScopeRuleOperandRole
  /-- The result it points at. -/
  mappingEntityResultId : ℕ
  deriving DecidableEq

/-- The operand of one entity, which must have a result. -/
def operandPayload (indexes : RuleIndexes) (rule : CanonicalRule)
    (operand : CanonicalRuleOperand) (canonicalEntityId : ℕ) :
    Except PyException MappingScopeRuleOperandPayload :=
  let entityType := operandEntityType operand.role
  match indexes.results.get? (entityType,canonicalEntityId) with
  | none => .error (domainError ("Mapping result not found for rule operand: rule_id="++
      toString rule.id++", operand_id="++toString operand.id++", entity_type="++
      entityType.value++", canonical_entity_id="++toString canonicalEntityId))
  | some result => .ok ⟨mapOperandRole operand.role,result.id⟩

/-- The operands of a rule, one for every entity. -/
def buildRuleOperandPayloads (indexes : RuleIndexes) (rule : CanonicalRule) :
    Except PyException (List MappingScopeRuleOperandPayload) := do
  let payloads ← rule.operands.mapM fun operand => do
    (← resolveOperandTargets indexes operand).mapM (operandPayload indexes rule operand)
  return payloads.flatten

/-- A rule with its operands, numbered from the first free number on. -/
def createRule (firstId scopeId : ℕ) (rule : CanonicalRule)
    (payloads : List MappingScopeRuleOperandPayload) : MappingScopeRule where
  id := firstId
  mappingScopeId := scopeId
  canonicalRuleId := rule.id
  name := rule.name
  action := mapRuleAction rule.action
  priority := rule.priority
  operands := some (payloads.mapIdx fun i payload =>
    ⟨firstId+1+i,firstId,payload.role,payload.mappingEntityResultId⟩)

/-- Rules in their order, each with numbers of its own. -/
def createRules (indexes : RuleIndexes) (scopeId : ℕ) :
    ℕ → List CanonicalRule → Except PyException (List MappingScopeRule)
  | _,[] => .ok []
  | firstId,rule::rest => do
    let payloads ← buildRuleOperandPayloads indexes rule
    let created ← createRules indexes scopeId (firstId+1+payloads.length) rest
    return createRule firstId scopeId rule payloads::created

/-- The rules of a scope. -/
def build (firstId scopeId : ℕ) (rules : List CanonicalRule) (entities : CanonicalScopeEntities)
    (mappingResults : List MappingEntityResult) : Except PyException (List MappingScopeRule) := do
  let results ← mappingResultsIndex mappingResults
  let addrs ← CanonicalObjectIndex.create entities.addrObjects
  let services ← CanonicalObjectIndex.create entities.services
  createRules ⟨results,addrs,services⟩ scopeId firstId rules

section Targets

variable {graph : GroupGraph ℕ}

/-- The object of an operand resolves to exactly its leaves. -/
theorem resolveObjectTargets_spec {α : Type} [GroupedObject α] {index : CanonicalObjectIndex α}
    {Part : ℕ → Prop} (h : Represents graph Part index) (hne : graph.NonemptyGroups)
    (hnested : graph.NestedWithin maxGroupDepth) {operand : CanonicalRuleOperand} {objectId : ℕ}
    (htarget : operand.targetObjectId=some objectId) (hpart : Part objectId)
    (noun leaves : String) :
    ∃ ids,resolveObjectTargets index noun leaves operand=.ok ids ∧
      ∀ node,node∈ids ↔ graph.LeafOf objectId node := by
  obtain ⟨group,hgroup,hkind⟩ := h.hasGroup hpart
  rw [resolveObjectTargets,htarget]
  cases group with
  | false =>
    have hleaf : ¬graph.IsGroup objectId := fun hg => Bool.false_ne_true (hkind.mpr hg)
    refine ⟨[objectId],bind_eq_ok.mpr ⟨false,hgroup,rfl⟩,?_⟩
    intro node
    rw [GroupGraph.leafOf_of_not_isGroup hleaf,List.mem_singleton]
  | true =>
    obtain ⟨found,hfound,hmem⟩ := h.resolveGroupLeaves hnested hpart (hkind.mp rfl)
    obtain ⟨leaf,hleaf⟩ := (hnested.opensWithin objectId).exists_leafOf hne
    have hsome : found≠[] := by
      rintro rfl
      cases (hmem leaf).mpr hleaf
    have hids : (if found=[] then throw (domainError
          (noun++" group operand "++toString operand.id++" has no leaf "++leaves))
        else pure (found.map GroupedObject.objectId))=
        Except.ok (ε:=PyException) (found.map GroupedObject.objectId) := if_neg hsome
    refine ⟨found.map GroupedObject.objectId,bind_eq_ok.mpr ⟨true,hgroup,?_⟩,hmem⟩
    refine bind_eq_ok.mpr ⟨found,hfound,?_⟩
    simpa [hsome] using hids

/-- The entities an operand stands for. -/
def OperandTarget (graph : GroupGraph ℕ) (operand : CanonicalRuleOperand) (entity : ℕ) : Prop :=
  if operandEntityType operand.role=.zone then operand.targetZoneId=some entity
  else ∃ objectId,operand.targetObjectId=some objectId ∧ graph.LeafOf objectId entity

/-- An operand has a target of the kind its slot asks for, among those that were read. -/
def OperandRead (Zone Addr Service : ℕ → Prop) (operand : CanonicalRuleOperand) : Prop :=
  match operandEntityType operand.role with
  | .zone => ∃ zoneId,operand.targetZoneId=some zoneId ∧ Zone zoneId
  | .addr => ∃ objectId,operand.targetObjectId=some objectId ∧ Addr objectId
  | .service => ∃ objectId,operand.targetObjectId=some objectId ∧ Service objectId

variable {Zone Addr Service : ℕ → Prop} {indexes : RuleIndexes}

/-- An operand that was read resolves to exactly the entities it stands for. -/
theorem resolveOperandTargets_spec (haddrs : Represents graph Addr indexes.addrs)
    (hservices : Represents graph Service indexes.services) (hne : graph.NonemptyGroups)
    (hnested : graph.NestedWithin maxGroupDepth) {operand : CanonicalRuleOperand}
    (hread : OperandRead Zone Addr Service operand) :
    ∃ ids,resolveOperandTargets indexes operand=.ok ids ∧
      ∀ entity,entity∈ids ↔ OperandTarget graph operand entity := by
  rw [resolveOperandTargets]
  simp only [OperandRead] at hread
  simp only [OperandTarget]
  cases htype : operandEntityType operand.role with
  | zone =>
    rw [htype] at hread
    obtain ⟨zoneId,htarget,-⟩ := hread
    refine ⟨[zoneId],by simp only [htarget],?_⟩
    intro entity
    simp only [htarget,if_true,List.mem_singleton,Option.some.injEq]
    exact eq_comm
  | addr =>
    rw [htype] at hread
    obtain ⟨objectId,htarget,hpart⟩ := hread
    obtain ⟨ids,hids,hmem⟩ :=
      resolveObjectTargets_spec haddrs hne hnested htarget hpart "ADDR" "objects"
    refine ⟨ids,hids,?_⟩
    intro entity
    simp only [reduceCtorEq,if_false,htarget,Option.some.injEq,exists_eq_left',hmem]
  | service =>
    rw [htype] at hread
    obtain ⟨objectId,htarget,hpart⟩ := hread
    obtain ⟨ids,hids,hmem⟩ :=
      resolveObjectTargets_spec hservices hne hnested htarget hpart "SERVICE" "services"
    refine ⟨ids,hids,?_⟩
    intro entity
    simp only [reduceCtorEq,if_false,htarget,Option.some.injEq,exists_eq_left',hmem]

/-- The operand of an entity points at the result of the entity. -/
theorem operandPayload_eq_ok {rule : CanonicalRule} {operand : CanonicalRuleOperand}
    {entity : ℕ} {payload : MappingScopeRuleOperandPayload} :
    operandPayload indexes rule operand entity=.ok payload ↔
      ∃ result,indexes.results.get? (operandEntityType operand.role,entity)=some result ∧
        payload=⟨mapOperandRole operand.role,result.id⟩ := by
  rw [operandPayload]
  cases h : indexes.results.get? (operandEntityType operand.role,entity) with
  | none => simp
  | some result =>
    simp only [Except.ok.injEq,Option.some.injEq,exists_eq_left']
    exact eq_comm

/-- The operands of a rule are those of the results of its entities. -/
theorem buildRuleOperandPayloads_spec {rule : CanonicalRule}
    (htargets : ∀ operand∈rule.operands,∃ ids,resolveOperandTargets indexes operand=.ok ids ∧
      ∀ entity,entity∈ids ↔ OperandTarget graph operand entity)
    (hresults : ∀ operand∈rule.operands,∀ entity,OperandTarget graph operand entity →
      ∃ result,indexes.results.get? (operandEntityType operand.role,entity)=some result) :
    ∃ payloads,buildRuleOperandPayloads indexes rule=.ok payloads ∧
      ∀ payload,payload∈payloads ↔ ∃ operand∈rule.operands,∃ entity,
        OperandTarget graph operand entity ∧
          operandPayload indexes rule operand entity=.ok payload := by
  have hoperand : ∀ operand∈rule.operands,∃ payloads,
      (resolveOperandTargets indexes operand>>=
        fun ids => ids.mapM (operandPayload indexes rule operand))=.ok payloads := by
    intro operand ho
    obtain ⟨ids,hids,hmem⟩ := htargets operand ho
    have hall : ∀ entity∈ids,∃ payload,operandPayload indexes rule operand entity=.ok payload := by
      intro entity he
      obtain ⟨result,hresult⟩ := hresults operand ho entity ((hmem entity).mp he)
      exact ⟨_,operandPayload_eq_ok.mpr ⟨result,hresult,rfl⟩⟩
    obtain ⟨payloads,hpayloads⟩ := exists_mapM_eq_ok hall
    exact ⟨payloads,bind_eq_ok.mpr ⟨ids,hids,hpayloads⟩⟩
  obtain ⟨groups,hgroups⟩ := exists_mapM_eq_ok hoperand
  refine ⟨groups.flatten,bind_eq_ok.mpr ⟨groups,hgroups,rfl⟩,?_⟩
  intro payload
  rw [List.mem_flatten]
  constructor
  · rintro ⟨payloads,hp,hin⟩
    obtain ⟨operand,ho,heq⟩ := exists_of_mem_mapM hgroups hp
    obtain ⟨ids,hids,hpayloads⟩ := bind_eq_ok.mp heq
    obtain ⟨entity,he,hpayload⟩ := exists_of_mem_mapM hpayloads hin
    obtain ⟨found,hfound,hmem⟩ := htargets operand ho
    rw [hfound,Except.ok.injEq] at hids
    subst hids
    exact ⟨operand,ho,entity,(hmem entity).mp he,hpayload⟩
  · rintro ⟨operand,ho,entity,htarget,hpayload⟩
    obtain ⟨payloads,hp,heq⟩ := exists_of_mapM_eq_ok hgroups ho
    obtain ⟨ids,hids,hpayloads⟩ := bind_eq_ok.mp heq
    obtain ⟨found,hfound,hmem⟩ := htargets operand ho
    rw [hfound,Except.ok.injEq] at hids
    subst hids
    obtain ⟨other,hother,hsame⟩ := exists_of_mapM_eq_ok hpayloads ((hmem entity).mpr htarget)
    rw [hpayload,Except.ok.injEq] at hsame
    exact ⟨payloads,hp,hsame▸hother⟩

end Targets

/-- A rule and the canonical rule it was created from. -/
structure CreatedFrom (indexes : RuleIndexes) (scopeId : ℕ) (rule : CanonicalRule)
    (created : MappingScopeRule) : Prop where
  /-- It belongs to the scope. -/
  scope : created.mappingScopeId=scopeId
  /-- It names its canonical rule. -/
  canonical : created.canonicalRuleId=rule.id
  /-- It keeps the name. -/
  name : created.name=rule.name
  /-- It keeps the action. -/
  action : created.action=mapRuleAction rule.action
  /-- It keeps the priority. -/
  priority : created.priority=rule.priority
  /-- Its operands are those of the payloads, in order. -/
  operands : ∃ payloads operands,buildRuleOperandPayloads indexes rule=.ok payloads ∧
    created.operands=some operands ∧
    operands.map (fun operand => (operand.role,operand.mappingEntityResultId))=
      payloads.map fun payload => (payload.role,payload.mappingEntityResultId)

/-- Rules are created one by one when all their operands can be. -/
theorem createRules_spec {indexes : RuleIndexes} (scopeId firstId : ℕ) {rules : List CanonicalRule}
    (h : ∀ rule∈rules,∃ payloads,buildRuleOperandPayloads indexes rule=.ok payloads) :
    ∃ created,createRules indexes scopeId firstId rules=.ok created ∧
      List.Forall₂ (CreatedFrom indexes scopeId) rules created := by
  induction rules generalizing firstId with
  | nil => exact ⟨[],rfl,List.Forall₂.nil⟩
  | cons rule rest ih =>
    obtain ⟨payloads,hpayloads⟩ := h rule List.mem_cons_self
    obtain ⟨created,hcreated,hfrom⟩ := ih (firstId+1+payloads.length)
      fun other ho => h other (List.mem_cons_of_mem _ ho)
    refine ⟨createRule firstId scopeId rule payloads::created,?_,List.Forall₂.cons ?_ hfrom⟩
    · exact bind_eq_ok.mpr ⟨payloads,hpayloads,bind_eq_ok.mpr ⟨created,hcreated,rfl⟩⟩
    · refine ⟨rfl,rfl,rfl,rfl,rfl,payloads,_,hpayloads,rfl,?_⟩
      apply List.ext_getElem
      · simp
      · intro i hi hj
        simp

/-- Results of distinct entities can be indexed, and each is found under its entity. -/
theorem mappingResultsIndex_spec {results : List MappingEntityResult}
    {entityOf : MappingEntityResult → ℕ}
    (hentity : ∀ result∈results,result.canonicalEntityId=.ok (entityOf result))
    (hnodup : (results.map fun result => (result.entityType,entityOf result)).Nodup) :
    ∃ byKey,mappingResultsIndex results=.ok byKey ∧ ∀ key result,byKey.get? key=some result ↔
      result∈results ∧ (result.entityType,entityOf result)=key := by
  have hput : ∀ d : Dict MappingResultLookupKey MappingEntityResult,∀ result∈results,
      d.get? (result.entityType,entityOf result)=none →
      indexResult d result=.ok (d.insert (result.entityType,entityOf result) result) := by
    intro d result hr _
    rw [indexResult,hentity result hr]
  obtain ⟨byKey,heq,hget⟩ := foldlM_insert hnodup hput fun _ _ => Dict.get?_empty _
  refine ⟨byKey,heq,fun key result => ?_⟩
  rw [hget,Dict.get?_empty]
  simp only [reduceCtorEq,false_or]
  constructor
  · rintro ⟨found,hf,hk,rfl⟩
    exact ⟨hf,hk⟩
  · rintro ⟨hr,hk⟩
    exact ⟨result,hr,hk,rfl⟩

end NspMigrator.MappingRules
