import Mathlib
import NspMigrator.PyAsync
import NspMigrator.ReportRules

/-!
# Pushing a plan

A push awaits the plan, its rules, its scope and the catalog, marks the plan,
creates the policies one by one, records their outcomes, commits and saves a
report. Every one of these operations may raise.
-/

namespace NspMigrator.ExecutePush

open PyAsync PyDict PyText SdwanModels SdwanFingerprint
open ExecuteGateway ExecuteRulesComparer ExecutePlan ExecuteRepository ReportRules

/-- What a push reads of a mapping scope. -/
structure MappingScopeData where
  /-- The number of the scope. -/
  id : ℕ
  /-- Its title. -/
  title : String
  /-- The connection it uses. -/
  cspProfileId : ℕ
  /-- The network it is for. -/
  vpcId : String
  /-- The target policies are created on. -/
  sdwanTargetId : String
  /-- The block they go to. -/
  rulesPriority : SdwanRulePriority
  /-- The fingerprint of the catalog it was mapped with. -/
  catalogFingerprint : String
  deriving DecidableEq

/-- A device or a group of devices policies are created for. -/
structure SdwanDeviceObject where
  /-- The number of the object. -/
  devObjId : String
  /-- Its name. -/
  name : String
  /-- Whether it is a device or a template. -/
  type : DeviceObjectType

/-- The outcome of one attempt to create a policy. -/
structure PushRuleResult where
  /-- The rule of the plan. -/
  executePlanRuleId : ℕ
  /-- Its name. -/
  ruleName : String
  /-- The policy that was created. -/
  sdwanRuleId : Option ℤ
  /-- Why none was. -/
  error : Option String
  deriving DecidableEq

/-- A commit of the controller. -/
structure CommitInfo where
  /-- The number of the commit. -/
  commitId : ℤ
  /-- Its name. -/
  name : String
  /-- A remark. -/
  description : String
  deriving DecidableEq

/-- A project a profile may work in. -/
structure AllowedVPC where
  /-- The number of the network. -/
  vpcId : String
  /-- The project it belongs to. -/
  projectName : String
  deriving DecidableEq

/-- The operations a push awaits. A creation names the plan rule it is for. -/
inductive PushOp where
  | getPlan (planId : ℕ)
  | listPlanRules (planId : ℕ) (matchStatus : Option RuleMatchStatus)
      (pushStatuses : Option (List RulePushStatus))
  | getMappingScopeData (scopeId : ℕ)
  | acquire (profileId : ℕ) (vpcId : String)
  | release
  | getSdwanFullCatalog
  | updatePlan (plan : ExecutePlan)
  | getSdwanDeviceObject (devObjId : String)
  | createPolicy (planRuleId : ℕ) (request : CreatePolicyRequest)
  | updatePlanRule (rule : StoredPlanRule)
  | getPoliciesByIds (ids : List ℤ)
  | commitFullState
  | getCommitInfo (commitId : ℤ)
  | discoverVpcs (profileId : ℕ)
  | saveReport (report : Report)
  | commitReports

/-- What the operations of a push answer. -/
@[reducible] def PushAns : PushOp → Type
  | .getPlan _ => Option ExecutePlan
  | .listPlanRules _ _ _ => List StoredPlanRule
  | .getMappingScopeData _ => MappingScopeData
  | .acquire _ _ | .release | .saveReport _ | .commitReports => Unit
  | .getSdwanFullCatalog => SdwanFullCatalog
  | .updatePlan _ => ExecutePlan
  | .getSdwanDeviceObject _ => Option SdwanDeviceObject
  | .createPolicy _ _ => ℤ
  | .updatePlanRule _ => StoredPlanRule
  | .getPoliciesByIds _ => List (PolicyResponse String)
  | .commitFullState => ℤ
  | .getCommitInfo _ => CommitInfo
  | .discoverVpcs _ => List AllowedVPC

/-- A computation of a push. -/
abbrev Push := Async PushOp PushAns PyException

/-- One awaited operation of a push. -/
abbrev PushEvent := Event PushOp PushAns PyException

/-- Await an operation. -/
abbrev await (op : PushOp) : Push (PushAns op) := Async.call op

/-- Work with an acquired client, which is released however the work ends. -/
def withGateway {α : Type} (profileId : ℕ) (vpcId : String) (body : Push α) : Push α := do
  let _ ← await (.acquire profileId vpcId)
  let result ← body.attempt
  let _ ← await .release
  Async.ofExcept result

/-- Try to create the policy of one rule. -/
def createRule (targetId : String) (parentType : DeviceObjectType) (priority : SdwanRulePriority)
    (rule : StoredPlanRule) : Push PushRuleResult :=
  match createPolicyRequest targetId parentType priority rule.toExecutePlanRule with
  | .error message => pure ⟨rule.id,rule.draft.name,none,some message⟩
  | .ok request => do
    let answer : Except PyException ℤ ← (await (.createPolicy rule.id request)).attempt
    match answer with
    | .error error => return ⟨rule.id,rule.draft.name,none,some error.text⟩
    | .ok sdwanRuleId => return ⟨rule.id,rule.draft.name,some sdwanRuleId,none⟩

/-- Create the policies of rules in order, with an outcome for every rule. -/
def pushRules (targetId : String) (planRules : List StoredPlanRule)
    (priority : SdwanRulePriority) : Push (List PushRuleResult) := do
  let target : Option SdwanDeviceObject ← await (.getSdwanDeviceObject targetId)
  match target with
  | none => Async.raise ⟨"ExecuteModuleNotFoundError","Not found device object "++targetId⟩
  | some target =>
    planRules.foldlM (fun results rule => do
      let result ← createRule targetId target.type priority rule
      return results++[result]) []

/-- The error text recorded for a failed creation. -/
def pushErrorText (error : Option String) : String :=
  if error.getD ""="" then "Push failed" else error.getD ""

/-- The rule with the outcome of its creation. -/
def recordedRule (rule : StoredPlanRule) (result : PushRuleResult) : StoredPlanRule :=
  match result.sdwanRuleId with
  | some sdwanRuleId => rule.markPushSucceeded sdwanRuleId
  | none => rule.markPushFailed (pushErrorText result.error)

/-- Record the outcomes of creations. -/
def recordResults (planRules : List StoredPlanRule) (results : List PushRuleResult) :
    Push Unit :=
  let planRulesById := Dict.ofList (planRules.map fun rule => (rule.id,rule))
  results.foldlM (fun _ result => do
    match planRulesById.get? result.executePlanRuleId with
    | none => Async.raise ⟨"KeyError",toString result.executePlanRuleId⟩
    | some rule => do
      let _ ← await (.updatePlanRule (recordedRule rule result))
      return ()) ()

/-- Commit the changes of the controller. -/
def commitCspChanges : Push CommitInfo := do
  let commitId : ℤ ← await .commitFullState
  await (.getCommitInfo commitId)

/-- Save the report of a plan. -/
def saveReport [PyUnicode] (scope : MappingScopeData) (commitId : ℤ)
    (planRules : List StoredPlanRule) : Push Unit := do
  let vpcs : List AllowedVPC ← await (.discoverVpcs scope.cspProfileId)
  match vpcs.find? fun vpc => decide (vpc.vpcId=scope.vpcId) with
  | none => Async.raise ⟨"ReportsModuleNotFoundError","VPC "++scope.vpcId++
      " not found for profile "++toString scope.cspProfileId⟩
  | some vpc =>
    let (target,catalog) ← withGateway scope.cspProfileId scope.vpcId do
      let target : Option SdwanDeviceObject ←
        await (.getSdwanDeviceObject scope.sdwanTargetId)
      match target with
      | none => Async.raise ⟨"ReportsModuleNotFoundError",
          "SD-WAN target "++scope.sdwanTargetId++" not found"⟩
      | some target =>
        let catalog : SdwanFullCatalog ← await .getSdwanFullCatalog
        return (target,catalog)
    match Report.create scope.title scope.cspProfileId commitId
        ⟨vpc.projectName,vpc.vpcId,target.name,target.devObjId⟩
        (planRules.map fun rule => resolve catalog (toRuleCommand rule)) with
    | .error error => Async.raise error
    | .ok report =>
      let _ ← await (.saveReport report)
      let _ ← await .commitReports
      return ()

/-- What a push returns. -/
structure PushResult where
  /-- The created policies, as the controller lists them. -/
  rules : List (PolicyResponse String)
  /-- What became of each rule. -/
  pushResults : List PushRuleResult
  /-- The commit. -/
  commitInfo : CommitInfo

/-- The work of a push with its client: check the catalog, mark the plan,
create the policies, record the outcomes and commit. -/
def pushWithGateway [PyUnicode] (hashFunc : String → String) (plan : ExecutePlan)
    (planRules : List StoredPlanRule) (scope : MappingScopeData) : Push PushResult := do
  let catalog : SdwanFullCatalog ← await .getSdwanFullCatalog
  if getFingerprint hashFunc catalog≠plan.catalogFingerprint then
    Async.raise ⟨"ConflictError","SD-WAN catalog changed after preparing the execute plan. "++
      "Prepare a new execute plan before push."⟩
  else
    let _ ← await (.updatePlan plan.markPushExecuted)
    let results ← pushRules scope.sdwanTargetId
      (planRules.insertionSort fun a b => a.priority≤b.priority) scope.rulesPriority
    recordResults planRules results
    let pushedRuleIds := results.filterMap (·.sdwanRuleId)
    let pushedRules ← if pushedRuleIds=[] then pure []
      else await (.getPoliciesByIds pushedRuleIds)
    let commitInfo ← commitCspChanges
    return ⟨pushedRules,results,commitInfo⟩

/-- Push the new rules of a plan. -/
def pushExecutePlanRules [PyUnicode] (hashFunc : String → String) (planId : ℕ) :
    Push PushResult := do
  let plan : Option ExecutePlan ← await (.getPlan planId)
  match plan with
  | none => Async.raise ⟨"NotFoundError","Execute plan "++toString planId++" not found"⟩
  | some plan =>
    if plan.pushStatus=.executed then
      Async.raise ⟨"DomainValidationError","Execute plan "++toString plan.id++
        " was already pushed. Prepare a new execute plan before push."⟩
    else
      let planRules : List StoredPlanRule ←
        await (.listPlanRules plan.id (some .new) (some [.pending]))
      if planRules=[] then
        Async.raise ⟨"DomainValidationError","Execute plan "++toString plan.id++
          " has no rules for push"⟩
      else
        let scope : MappingScopeData ← await (.getMappingScopeData plan.mappingScopeId)
        if scope.catalogFingerprint≠plan.catalogFingerprint then
          Async.raise ⟨"ConflictError","Mapping scope catalog baseline changed after preparing "++
            "the execute plan. Prepare a new execute plan before push."⟩
        else
          let result ← withGateway scope.cspProfileId scope.vpcId
            (pushWithGateway hashFunc plan planRules scope)
          let allPlanRules : List StoredPlanRule ← await (.listPlanRules plan.id none none)
          saveReport scope result.commitInfo.commitId allPlanRules
          return result

/-- Operations on the store answer as the repository does; all others may
answer anything and leave the store alone. -/
def storeHandles (store : PlanStore) :
    (op : PushOp) → Except PyException (PushAns op) → PlanStore → Prop
  | .getPlan planId,answer,next => answer=.ok (getPlan store planId) ∧ next=store
  | .listPlanRules planId matchStatus pushStatuses,answer,next =>
    answer=.ok (listPlanRules store planId matchStatus pushStatuses) ∧ next=store
  | .updatePlan plan,answer,next => match updatePlan store plan with
    | .ok (changed,plan) => answer=.ok plan ∧ next=changed
    | .error error => answer=.error error ∧ next=store
  | .updatePlanRule rule,answer,next => match updatePlanRule store rule with
    | .ok (changed,rule) => answer=.ok rule ∧ next=changed
    | .error error => answer=.error error ∧ next=store
  | _,_,next => next=store

/-- The repository with fixed answers to all other operations. -/
def storeOracle (remote : (op : PushOp) → Except PyException (PushAns op)) (store : PlanStore) :
    (op : PushOp) → Except PyException (PushAns op) × PlanStore
  | .getPlan planId => (.ok (getPlan store planId),store)
  | .listPlanRules planId matchStatus pushStatuses =>
    (.ok (listPlanRules store planId matchStatus pushStatuses),store)
  | .updatePlan plan => match updatePlan store plan with
    | .ok (changed,plan) => (.ok plan,changed)
    | .error error => (.error error,store)
  | .updatePlanRule rule => match updatePlanRule store rule with
    | .ok (changed,rule) => (.ok rule,changed)
    | .error error => (.error error,store)
  | op => (remote op,store)

theorem storeHandles_storeOracle (remote : (op : PushOp) → Except PyException (PushAns op))
    (store : PlanStore) (op : PushOp) :
    storeHandles store op (storeOracle remote store op).1 (storeOracle remote store op).2 := by
  cases op with
  | getPlan planId => exact ⟨rfl,rfl⟩
  | listPlanRules planId matchStatus pushStatuses => exact ⟨rfl,rfl⟩
  | updatePlan plan =>
    rw [storeOracle,storeHandles]
    cases updatePlan store plan with
    | ok changed => exact ⟨rfl,rfl⟩
    | error error => exact ⟨rfl,rfl⟩
  | updatePlanRule rule =>
    rw [storeOracle,storeHandles]
    cases updatePlanRule store rule with
    | ok changed => exact ⟨rfl,rfl⟩
    | error error => exact ⟨rfl,rfl⟩
  | _ => exact rfl

/-- Replacing a plan succeeds in the store or fails and changes nothing. -/
theorem storeHandles_updatePlan {store next : PlanStore} {plan : ExecutePlan}
    {answer : Except PyException ExecutePlan}
    (h : storeHandles store (.updatePlan plan) answer next) :
    (∃ marked,answer=.ok marked ∧ updatePlan store plan=.ok (next,marked)) ∨
      ∃ error,answer=.error error ∧ updatePlan store plan=.error error ∧ next=store := by
  rw [storeHandles] at h
  split at h
  · next changed marked hupdate =>
    obtain ⟨rfl,rfl⟩ := h
    exact Or.inl ⟨marked,rfl,hupdate⟩
  · next error hupdate =>
    obtain ⟨rfl,rfl⟩ := h
    exact Or.inr ⟨error,rfl,hupdate,rfl⟩

/-- Replacing a rule succeeds in the store or fails and changes nothing. -/
theorem storeHandles_updatePlanRule {store next : PlanStore} {rule : StoredPlanRule}
    {answer : Except PyException StoredPlanRule}
    (h : storeHandles store (.updatePlanRule rule) answer next) :
    (∃ result,answer=.ok result ∧ updatePlanRule store rule=.ok (next,result)) ∨
      ∃ error,answer=.error error ∧ updatePlanRule store rule=.error error ∧ next=store := by
  rw [storeHandles] at h
  split at h
  · next changed result hupdate =>
    obtain ⟨rfl,rfl⟩ := h
    exact Or.inl ⟨result,rfl,hupdate⟩
  · next error hupdate =>
    obtain ⟨rfl,rfl⟩ := h
    exact Or.inr ⟨error,rfl,hupdate,rfl⟩

/-- The creation an operation stands for: its plan rule and its answer. -/
def creation : PushEvent → Option (ℕ × Except PyException ℤ)
  | ⟨.createPolicy planRuleId _,answer⟩ => some (planRuleId,answer)
  | _ => none

/-- Whether an operation reads the plan as not pushed yet. -/
def readsPending (planId : ℕ) : PushEvent → Bool
  | ⟨.getPlan id,.ok (some plan)⟩ => decide (id=planId ∧ plan.pushStatus=.pending)
  | _ => false

/-- Whether an operation marks the plan as pushed. -/
def marks : PushEvent → Bool
  | ⟨.updatePlan _,.ok _⟩ => true
  | _ => false

/-- Whether an operation records an outcome. -/
def records : PushEvent → Bool
  | ⟨.updatePlanRule _,_⟩ => true
  | _ => false

/-- The rule an operation has recorded. -/
def recording : PushEvent → Option StoredPlanRule
  | ⟨.updatePlanRule rule,.ok _⟩ => some rule
  | _ => none

/-- Whether an operation fails to record an outcome. -/
def recordFails : PushEvent → Bool
  | ⟨.updatePlanRule _,.error _⟩ => true
  | _ => false

/-- The rules an operation lists. -/
def listed : PushEvent → List ℕ
  | ⟨.listPlanRules _ _ _,.ok rules⟩ => rules.map (·.id)
  | _ => []

/-- Whether an operation writes a report. -/
def savesReport : PushEvent → Bool
  | ⟨.saveReport _,.ok _⟩ => true
  | _ => false

/-- Whether an operation makes the written reports permanent. -/
def commitsReport : PushEvent → Bool
  | ⟨.commitReports,.ok _⟩ => true
  | _ => false

/-- Operations that neither touch the plan, nor create a policy, nor save a report. -/
def Inert : PushOp → Prop
  | .getPlan _ | .listPlanRules _ _ _ | .updatePlan _ | .createPolicy _ _
  | .updatePlanRule _ | .saveReport _ | .commitReports => False
  | _ => True

theorem commitCspChanges_only : commitCspChanges.Only Inert :=
  Async.only_bind (Async.only_call trivial) fun _ => Async.only_call trivial

theorem withGateway_only {α : Type} {body : Push α} (profileId : ℕ) (vpcId : String)
    (h : body.Only Inert) : (withGateway profileId vpcId body).Only Inert :=
  Async.only_bind (Async.only_call trivial) fun _ =>
    Async.only_bind (Async.only_attempt h) fun _ =>
      Async.only_bind (Async.only_call trivial) fun _ => trivial

end NspMigrator.ExecutePush
