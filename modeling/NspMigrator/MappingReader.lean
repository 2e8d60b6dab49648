import Mathlib
import NspMigrator.ExecutePush
import NspMigrator.MappingRepository

/-!
# Reading a mapping scope for a plan

A scope is read for a plan only when every result has an object. The reader
then gives every rule the objects selected for its operands, slot by slot.
-/

namespace NspMigrator.MappingReader

open PyDict SdwanModels ExecuteRepository ExecuteRuleValues ExecutePlan ExecutePush
open MappingEntities MappingRepository

/-- The block of a placement. -/
def sdwanRulePriority : MappingScopeRulesPriority → SdwanRulePriority
  | .localBlock => .localBlock
  | .pre => .pre
  | .post => .post

/-- The action of a mapped rule. -/
def sdwanRuleAction : MappingScopeRuleAction → SdwanRuleAction
  | .accept => .accept
  | .reject => .reject

/-- The data of a scope a plan is prepared and pushed with. -/
def getMappingScopeData (store : ScopeStore) (scopeId : ℕ) :
    Except PyException MappingScopeData :=
  match getScopeById store scopeId with
  | none => .error ⟨"MappingModuleNotFoundError","Mapping scope "++toString scopeId++" not found"⟩
  | some scope => .ok ⟨scope.id,scope.title,scope.cspProfileId,scope.vpcId,scope.sdwanTargetId,
      sdwanRulePriority scope.rulesPriority,scope.catalogFingerprint⟩

/-- A stored scope is read with its profile, project and fingerprint. -/
theorem getMappingScopeData_of_get? {store : ScopeStore} {scopeId : ℕ}
    {entry : MappingScopeCacheEntry} (h : store.get? scopeId=some entry) :
    ∃ data,getMappingScopeData store scopeId=.ok data ∧
      data.cspProfileId=entry.scope.cspProfileId ∧ data.vpcId=entry.scope.vpcId ∧
      data.catalogFingerprint=entry.scope.catalogFingerprint := by
  rw [getMappingScopeData,getScopeById,h]
  exact ⟨_,rfl,rfl,rfl,rfl⟩

/-- The object selected for an operand, with its slot. -/
def operandEntity (resultsById : Dict ℕ MappingEntityResult)
    (operand : MappingScopeRuleOperand) :
    Except PyException (MappingScopeRuleOperandRole × ℤ) :=
  match resultsById.get? operand.mappingEntityResultId with
  | none => .error ⟨"ExecuteModuleError",
      "Not found mapping result for mapped rule operand "++toString operand.id⟩
  | some result =>
    match result.selectedSdwanEntityId with
    | none => .error ⟨"ExecuteModuleError","Mapping result of mapped rule operand "++
        toString operand.id++" has no assigned sdwan id"⟩
    | some sdwanEntityId => .ok (operand.role,sdwanEntityId)

/-- The slots of a rule, in the order they are checked. -/
def operandRoles : List MappingScopeRuleOperandRole :=
  [.srcZone,.dstZone,.srcAddrObject,.dstAddrObject,.service]

/-- The objects of one slot. -/
def entitiesOfRole (entities : List (MappingScopeRuleOperandRole × ℤ))
    (role : MappingScopeRuleOperandRole) : List ℤ :=
  (entities.filter fun entity => decide (entity.1=role)).map Prod.snd

/-- An operand that is read has an object, and keeps its slot. -/
theorem selected_of_operandEntity {resultsById : Dict ℕ MappingEntityResult}
    {operand : MappingScopeRuleOperand} {entity : MappingScopeRuleOperandRole × ℤ}
    (h : operandEntity resultsById operand=.ok entity) : entity.1=operand.role ∧
      (resultsById.get? operand.mappingEntityResultId).bind (·.selectedSdwanEntityId)=
        some entity.2 := by
  unfold operandEntity at h
  split at h
  · cases h
  next result hresult =>
  split at h
  · cases h
  next sdwanEntityId hid =>
  cases h
  exact ⟨rfl,by rw [hresult,Option.bind_some,hid]⟩

/-- Slot by slot, the objects that are read are those selected for the operands. -/
theorem map_entitiesOfRole {resultsById : Dict ℕ MappingEntityResult}
    {operands : List MappingScopeRuleOperand}
    {entities : List (MappingScopeRuleOperandRole × ℤ)}
    (h : operands.mapM (operandEntity resultsById)=.ok entities)
    (role : MappingScopeRuleOperandRole) : (entitiesOfRole entities role).map some=
      (operands.filter fun operand => decide (operand.role=role)).map fun operand =>
        (resultsById.get? operand.mappingEntityResultId).bind (·.selectedSdwanEntityId) := by
  have hall := PyExcept.mapM_eq_ok.mp h
  clear h
  induction hall with
  | nil => rfl
  | @cons operand entity operands entities hone hrest ih =>
    obtain ⟨hrole,hselected⟩ := selected_of_operandEntity hone
    by_cases hr : operand.role=role
    · rw [List.filter_cons_of_pos (by simpa using hr),List.map_cons,hselected,←ih,
        entitiesOfRole,List.filter_cons_of_pos (by simpa using hrole.trans hr)]
      rfl
    · rw [List.filter_cons_of_neg (by simpa using hr),←ih,entitiesOfRole,
        List.filter_cons_of_neg (by simpa [hrole] using hr)]
      rfl

/-- A rule with the objects of its slots, refused when a slot is empty. -/
def mappedRuleData (resultsById : Dict ℕ MappingEntityResult) (rule : MappingScopeRule) :
    Except PyException MappedRuleData :=
  match rule.operands with
  | none =>
    .error ⟨"ExecuteModuleError","Not provided operands for rule "++toString rule.id⟩
  | some operands => do
    let entities ← operands.mapM (operandEntity resultsById)
    let missing := operandRoles.filter fun role => decide (entitiesOfRole entities role=[])
    if missing≠[] then
      .error ⟨"ExecuteModuleError","Mapped rule "++toString rule.id++
        " has no selected SD-WAN objects for required roles: "++
        ", ".intercalate (missing.map (·.value))⟩
    else
      return {
        id := rule.id, name := rule.name, action := sdwanRuleAction rule.action,
        priority := rule.priority, srcZones := entitiesOfRole entities .srcZone,
        dstZones := entitiesOfRole entities .dstZone,
        srcAddrObjects := entitiesOfRole entities .srcAddrObject,
        dstAddrObjects := entitiesOfRole entities .dstAddrObject,
        services := entitiesOfRole entities .service }

/-- The rules of a scope whose results all have objects. -/
def getMappingScopeRules (store : ScopeStore) (scopeId : ℕ) :
    Except PyException (List MappedRuleData) :=
  match getScopeById store scopeId with
  | none => .error ⟨"MappingModuleNotFoundError","Mapping scope "++toString scopeId++" not found"⟩
  | some scope =>
    let rules := scope.rules.getD []
    if rules=[] then .error ⟨"MappingModuleNotFoundError",
      "Not provided rules for mapping scope "++toString scopeId⟩
    else
      let results := listResults store scope.id none none
      if (results.any fun result => decide (result.resultStatus≠.matched))=true then
        .error ⟨"ExecuteModuleError",
          "Mapping scope "++toString scopeId++" has unmatched objects."⟩
      else
        let resultsById := Dict.ofList (results.map fun result => (result.id,result))
        (rules.insertionSort fun a b => a.priority≤b.priority).mapM (mappedRuleData resultsById)

end NspMigrator.MappingReader
