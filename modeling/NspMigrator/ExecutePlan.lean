import Mathlib
import NspMigrator.ExecuteGateway

/-!
# Execute plans

A plan compares the mapped rules, in priority order, with the policies of the
target. Pushing a plan requests the creation of its new rules, again in
priority order, each at the tail of the chosen block.
-/

namespace NspMigrator.ExecutePlan

open PyText SdwanModels ExecuteRuleValues ExecuteRulesComparer ExecuteGateway

/-- Whether a planned rule has been created. -/
inductive RulePushStatus where
  | pending
  | succeeded
  | failed
  deriving DecidableEq

/-- A rule of a mapping scope. -/
structure MappedRuleData extends RuleBody where
  /-- The number of the mapped rule. -/
  id : ℕ
  /-- Its name. -/
  name : String
  /-- Its place among the rules. -/
  priority : ℤ
  deriving DecidableEq

/-- The draft of a mapped rule. -/
def buildDraft (mapped : MappedRuleData) : PlannedRuleDraft :=
  ⟨mapped.toRuleBody,mapped.name⟩

/-- One rule of a plan with its comparison result. -/
structure ExecutePlanRule where
  /-- The mapped rule it stands for. -/
  mappingScopeRuleId : ℕ
  /-- Its place among the rules. -/
  priority : ℤ
  /-- The policy it asks for. -/
  draft : PlannedRuleDraft
  /-- The existing policy it was matched with. -/
  matchedSdwanRuleId : Option ℤ
  /-- What the comparison found. -/
  matchStatus : RuleMatchStatus
  /-- The words of that. -/
  matchInfo : String
  /-- Which existing values cover its values. -/
  coverageDetails : List CoverageDetail
  /-- What became of it in the push. -/
  pushStatus : RulePushStatus := .pending
  deriving DecidableEq

/-- Zone, service and address object numbers of drafts. -/
def collectRuleRefs (drafts : List PlannedRuleDraft) : Finset ℤ × Finset ℤ × Finset ℤ :=
  ((drafts.flatMap fun draft => draft.srcZones++draft.dstZones).toFinset,
    (drafts.flatMap fun draft => draft.services).toFinset,
    (drafts.flatMap fun draft => draft.srcAddrObjects++draft.dstAddrObjects).toFinset)

/-- Mapped rules by priority, in their given order where priorities agree. -/
def sortedMappedRules (mapped : List MappedRuleData) : List MappedRuleData :=
  mapped.insertionSort fun a b => a.priority≤b.priority

/-- The catalog a plan is prepared with. -/
def planCatalog {ι : Type} (gateway : SDWANCatalogGateway) (targetId : String)
    (policies : List (PolicyResponse ι)) (mapped : List MappedRuleData) : SdwanPolicyCatalog :=
  let refs := collectRuleRefs ((sortedMappedRules mapped).map buildDraft)
  getSdwanPolicyCatalog gateway targetId policies refs.1 refs.2.1 refs.2.2

/-- The plan rule of a mapped rule. -/
def planRule [PyUnicode] (hashFunc : String → String) (catalog : SdwanPolicyCatalog)
    (mapped : MappedRuleData) : ExecutePlanRule :=
  let result := compareWithCatalog hashFunc catalog (buildDraft mapped).toRuleBody
  { mappingScopeRuleId := mapped.id, priority := mapped.priority, draft := buildDraft mapped,
    matchedSdwanRuleId := result.matchedSdwanRuleId, matchStatus := result.matchStatus,
    matchInfo := result.matchInfo, coverageDetails := result.coverageDetails }

/-- The rules of a prepared plan. -/
def preparePlan [PyUnicode] {ι : Type} (hashFunc : String → String)
    (gateway : SDWANCatalogGateway) (targetId : String) (policies : List (PolicyResponse ι))
    (mapped : List MappedRuleData) : List ExecutePlanRule :=
  (sortedMappedRules mapped).map
    (planRule hashFunc (planCatalog gateway targetId policies mapped))

/-- Plan rules of a status that are still pending, by priority. -/
def listPlanRules (matchStatus : RuleMatchStatus) (rules : List ExecutePlanRule) :
    List ExecutePlanRule :=
  (rules.filter fun rule => decide (rule.matchStatus=matchStatus) &&
    decide (rule.pushStatus=.pending)).insertionSort fun a b => a.priority≤b.priority

/-- What a policy may be created for. -/
inductive DeviceObjectType where
  | device
  | group
  deriving DecidableEq

/-- Devices take policies in their own block, groups before or after it. -/
def PlacementAllowed (parentType : DeviceObjectType) (priority : SdwanRulePriority) : Prop :=
  (parentType=.device → priority=.localBlock) ∧
    (parentType=.group → priority=.pre ∨ priority=.post)

instance (parentType : DeviceObjectType) (priority : SdwanRulePriority) :
    Decidable (PlacementAllowed parentType priority) :=
  inferInstanceAs (Decidable (_ ∧ _))

/-- A request to create a policy at the tail of a block. -/
structure CreatePolicyRequest where
  /-- The name of the policy. -/
  name : String
  /-- Whether it is to be in force. -/
  activated : Bool
  /-- What it is to do. -/
  body : RuleBody
  /-- The device or template it is created under. -/
  parent : String
  /-- Which of the two that is. -/
  parentType : DeviceObjectType
  /-- The block it goes to. -/
  priority : SdwanRulePriority
  /-- The block fits the kind of device object. -/
  allowed : PlacementAllowed parentType priority

/-- The request for one plan rule, refused where the block does not fit. -/
def createPolicyRequest (targetId : String) (parentType : DeviceObjectType)
    (priority : SdwanRulePriority) (rule : ExecutePlanRule) :
    Except String CreatePolicyRequest :=
  if h : PlacementAllowed parentType priority then
    .ok ⟨rule.draft.name,true,rule.draft.toRuleBody,targetId,parentType,priority,h⟩
  else match parentType with
    | .device => .error "Policies for DEVICE can be placed only in LOCAL placements"
    | .group => .error "Policies for GROUP can be placed only in PRE, POST placements"

/-- The bodies of the policies created for plan rules, in order. -/
def createdBodies (targetId : String) (parentType : DeviceObjectType)
    (priority : SdwanRulePriority) (rules : List ExecutePlanRule) : List RuleBody :=
  rules.filterMap fun rule =>
    match createPolicyRequest targetId parentType priority rule with
    | .error _ => none
    | .ok request => some request.body

/-- The plan rules a push creates, in the order of creation. -/
def rulesToPush (plan : List ExecutePlanRule) : List ExecutePlanRule :=
  (listPlanRules .new plan).insertionSort fun a b => a.priority≤b.priority

/-- Rules are created for all plan rules or, where the block does not fit, for none. -/
theorem createdBodies_eq (targetId : String) (parentType : DeviceObjectType)
    (priority : SdwanRulePriority) (rules : List ExecutePlanRule) :
    createdBodies targetId parentType priority rules=
      if PlacementAllowed parentType priority then
        rules.map fun rule => rule.draft.toRuleBody
      else [] := by
  unfold createdBodies createPolicyRequest
  split
  · simp
  · cases parentType <;> simp

section Order

variable [PyUnicode] {ι : Type}

/-- A prepared plan stands in priority order. -/
theorem preparePlan_sorted (hashFunc : String → String) (gateway : SDWANCatalogGateway)
    (targetId : String) (policies : List (PolicyResponse ι)) (mapped : List MappedRuleData) :
    (preparePlan hashFunc gateway targetId policies mapped).Pairwise
      fun a b => a.priority≤b.priority := by
  have htotal : Std.Total fun a b : MappedRuleData => a.priority≤b.priority :=
    ⟨fun a b => le_total a.priority b.priority⟩
  have htrans : IsTrans MappedRuleData fun a b => a.priority≤b.priority :=
    ⟨fun _ _ _ => le_trans⟩
  rw [preparePlan,List.pairwise_map]
  exact List.pairwise_insertionSort _ mapped

/-- All rules of a prepared plan are pending. -/
theorem pushStatus_of_mem_preparePlan {hashFunc : String → String}
    {gateway : SDWANCatalogGateway} {targetId : String} {policies : List (PolicyResponse ι)}
    {mapped : List MappedRuleData} {rule : ExecutePlanRule}
    (h : rule∈preparePlan hashFunc gateway targetId policies mapped) :
    rule.pushStatus=.pending := by
  obtain ⟨m,-,rfl⟩ := List.mem_map.mp h
  rfl

/-- A push creates the new rules of a prepared plan in the order of the plan. -/
theorem rulesToPush_preparePlan (hashFunc : String → String) (gateway : SDWANCatalogGateway)
    (targetId : String) (policies : List (PolicyResponse ι)) (mapped : List MappedRuleData) :
    rulesToPush (preparePlan hashFunc gateway targetId policies mapped)=
      (preparePlan hashFunc gateway targetId policies mapped).filter
        fun rule => decide (rule.matchStatus=.new) := by
  have hsorted := preparePlan_sorted hashFunc gateway targetId policies mapped
  have hfilter : (preparePlan hashFunc gateway targetId policies mapped).filter
      (fun rule => decide (rule.matchStatus=.new) && decide (rule.pushStatus=.pending))=
      (preparePlan hashFunc gateway targetId policies mapped).filter
        fun rule => decide (rule.matchStatus=.new) := by
    apply List.filter_congr
    intro rule hr
    rw [pushStatus_of_mem_preparePlan hr,decide_eq_true rfl,Bool.and_true]
  rw [rulesToPush,listPlanRules,hfilter,(hsorted.filter _).insertionSort_eq,
    (hsorted.filter _).insertionSort_eq]

end Order

end NspMigrator.ExecutePlan
