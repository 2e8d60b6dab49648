import Mathlib
import NspMigrator.ExecutePush

/-!
# Preparing a plan

A plan is prepared from the rules of a mapping scope while the controller's
catalog is the one the scope was mapped on. Every rule is stored with the
outcome of its comparison with the policies of the target.
-/

namespace NspMigrator.ExecutePrepare

open PyAsync PyText SdwanModels SdwanFingerprint ExecuteRuleValues ExecuteRulesComparer
open ExecutePlan ExecuteRepository ExecutePush

/-- The operations a preparation awaits. -/
inductive PrepareOp where
  | newIds
  | getMappingScopeData (scopeId : ℕ)
  | getMappingScopeRules (scopeId : ℕ)
  | acquire (profileId : ℕ) (vpcId : String)
  | release
  | getSdwanFullCatalog
  | getSdwanPolicyCatalog (targetId : String)
      (extraZoneIds extraServiceIds extraAddrObjectIds : Finset ℤ)
  | addPlanWithRules (plan : ExecutePlan) (rules : List StoredPlanRule)

/-- What the operations of a preparation answer. -/
@[reducible] def PrepareAns : PrepareOp → Type
  | .newIds => ℕ
  | .getMappingScopeData _ => MappingScopeData
  | .getMappingScopeRules _ => List MappedRuleData
  | .acquire _ _ | .release | .addPlanWithRules _ _ => Unit
  | .getSdwanFullCatalog => SdwanFullCatalog
  | .getSdwanPolicyCatalog _ _ _ _ => SdwanPolicyCatalog

/-- A computation of a preparation. -/
abbrev Prepare := Async PrepareOp PrepareAns PyException

/-- One awaited operation of a preparation. -/
abbrev PrepareEvent := Event PrepareOp PrepareAns PyException

/-- Await an operation. -/
abbrev await (op : PrepareOp) : Prepare (PrepareAns op) := Async.call op

/-- What preparing a plan returns. -/
structure PrepareExecutePlanResult where
  /-- The number of the plan. -/
  id : ℕ
  /-- The scope it was prepared from. -/
  mappingScopeId : ℕ
  /-- The target it is for. -/
  sdwanTargetId : String
  /-- How many rules it has. -/
  totalRules : ℕ
  /-- How many are to be created. -/
  newRules : ℕ
  /-- How many are there already. -/
  matchedRules : ℕ
  /-- How many are covered by others. -/
  coveredRules : ℕ
  /-- How many could not be compared. -/
  errorsThroughMatch : ℕ
  /-- The policies that were not compared with. -/
  excludedExistingRules : List ExcludedExistingRule
  deriving DecidableEq

/-- The rules of a new plan under their identifiers. -/
def storedRules [PyUnicode] (hashFunc : String → String) (catalog : SdwanPolicyCatalog)
    (planId firstRuleId : ℕ) (mapped : List MappedRuleData) : List StoredPlanRule :=
  (sortedMappedRules mapped).mapIdx fun i rule =>
    { planRule hashFunc catalog rule with id := firstRuleId+i, executePlanId := planId }

/-- How many rules have a status. -/
def countMatchStatus (rules : List StoredPlanRule) (status : RuleMatchStatus) : ℕ :=
  rules.countP fun rule => decide (rule.matchStatus=status)

/-- The check of the catalog and the policies to compare with. -/
def readPolicyCatalog [PyUnicode] (hashFunc : String → String) (scope : MappingScopeData)
    (mapped : List MappedRuleData) : Prepare (String × SdwanPolicyCatalog) := do
  let catalog : SdwanFullCatalog ← await .getSdwanFullCatalog
  if getFingerprint hashFunc catalog≠scope.catalogFingerprint then
    Async.raise ⟨"ConflictError","SD-WAN catalog changed after mapping. "++
      "Create a new mapping scope before preparing an execute plan."⟩
  else
    let refs := collectRuleRefs ((sortedMappedRules mapped).map buildDraft)
    let policies : SdwanPolicyCatalog ←
      await (.getSdwanPolicyCatalog scope.sdwanTargetId refs.1 refs.2.1 refs.2.2)
    return (getFingerprint hashFunc catalog,policies)

/-- Prepare the plan of a mapping scope. -/
def prepareExecutePlan [PyUnicode] (hashFunc : String → String) (scopeId : ℕ) :
    Prepare PrepareExecutePlanResult := do
  let scope : MappingScopeData ← await (.getMappingScopeData scopeId)
  let mapped : List MappedRuleData ← await (.getMappingScopeRules scopeId)
  let read ← Async.within (.acquire scope.cspProfileId scope.vpcId) .release
    (readPolicyCatalog hashFunc scope mapped)
  let planId : ℕ ← await .newIds
  let firstRuleId : ℕ ← await .newIds
  let rules := storedRules hashFunc read.2 planId firstRuleId mapped
  let _ ← await (.addPlanWithRules ⟨planId,scopeId,read.1,.pending⟩ rules)
  return {
    id := planId, mappingScopeId := scopeId, sdwanTargetId := scope.sdwanTargetId,
    totalRules := rules.length, newRules := countMatchStatus rules .new,
    matchedRules := countMatchStatus rules .exactMatch,
    coveredRules := countMatchStatus rules .coveredMatch,
    errorsThroughMatch := countMatchStatus rules .matchError,
    excludedExistingRules := (RulesComparer.ofCatalog hashFunc read.2).excludedExistingRules }

/-- A plan is stored with the rules that were read, under the fingerprint of
scope and catalog. -/
def PrepareSpec [PyUnicode] (hashFunc : String → String) (scopeId : ℕ)
    (history : List PrepareEvent) : PrepareOp → Prop
  | .addPlanWithRules plan rules => plan.mappingScopeId=scopeId ∧ plan.pushStatus=.pending ∧
      (∃ mapped catalog firstRuleId,⟨.getMappingScopeRules scopeId,.ok mapped⟩∈history ∧
        rules=storedRules hashFunc catalog plan.id firstRuleId mapped) ∧
      ∃ scope catalog,⟨.getMappingScopeData scopeId,.ok scope⟩∈history ∧
        ⟨.getSdwanFullCatalog,.ok catalog⟩∈history ∧
        getFingerprint hashFunc catalog=scope.catalogFingerprint ∧
        plan.catalogFingerprint=scope.catalogFingerprint
  | _ => True

section Spec

variable [PyUnicode] {hashFunc : String → String} {scopeId : ℕ} {history : List PrepareEvent}

/-- The catalog that was checked stays in the history. -/
theorem readPolicyCatalog_sound (scope : MappingScopeData) (mapped : List MappedRuleData)
    {Q : List PrepareEvent → Except PyException (String × SdwanPolicyCatalog) → Prop}
    (herror : ∀ later error,Q (history++later) (.error error))
    (hok : ∀ later catalog policies,⟨.getSdwanFullCatalog,.ok catalog⟩∈history++later →
      getFingerprint hashFunc catalog=scope.catalogFingerprint →
      Q (history++later) (.ok (getFingerprint hashFunc catalog,policies))) :
    (readPolicyCatalog hashFunc scope mapped).Sound (fun _ _ => True)
      (PrepareSpec hashFunc scopeId) Q history := by
  refine Async.sound_call_bind trivial (fun error _ => herror _ error) fun catalog _ => ?_
  split
  · exact herror _ _
  next hequal =>
  refine Async.sound_call_bind trivial (fun error _ => ?_) fun policies _ => ?_
  · rw [List.append_assoc]
    exact herror _ error
  · refine Async.sound_pure ?_
    rw [List.append_assoc]
    exact hok _ catalog policies (by simp) (not_not.mp hequal)

/-- A preparation keeps to what a preparation does. -/
theorem prepareExecutePlan_sound (hashFunc : String → String) (scopeId : ℕ) :
    (prepareExecutePlan hashFunc scopeId).Sound (fun _ _ => True) (PrepareSpec hashFunc scopeId)
      (fun _ _ => True) [] := by
  refine Async.sound_call_bind trivial (fun _ _ => trivial) fun scope _ => ?_
  refine Async.sound_call_bind trivial (fun _ _ => trivial) fun mapped _ => ?_
  refine Async.sound_bind (Async.sound_within trivial (fun _ => trivial) fun _ =>
    readPolicyCatalog_sound scope mapped
      (fun later error => ⟨trivial,fun _ => trivial,fun _ => trivial⟩)
      fun later catalog policies hcatalog hequal => ⟨trivial,fun _ => trivial,fun _ => ?_⟩)
  refine Async.sound_call_bind trivial (fun _ _ => trivial) fun planId _ => ?_
  refine Async.sound_call_bind trivial (fun _ _ => trivial) fun firstRuleId _ => ?_
  refine Async.sound_call_bind ?_ (fun _ _ => trivial) fun _ _ => trivial
  refine ⟨rfl,rfl,⟨mapped,policies,firstRuleId,?_,rfl⟩,scope,catalog,?_,?_,hequal,hequal⟩
  · simp
  · simp
  · simp only [List.mem_append] at hcatalog ⊢
    tauto

end Spec

end NspMigrator.ExecutePrepare
