import Mathlib
import NspMigrator.ExecutePrepare
import NspMigrator.ExecutePushSpec

/-!
# Created policies and what they were compared with

A plan is compared with the policies of its target when it is prepared, and
pushed some time later. A policy it creates repeats none of those it was
compared with, but may repeat one that came to the target since.
-/

namespace NspMigrator.ExecuteDuplicates

open PyAsync PyDict PyText SdwanModels SdwanFingerprint
open ExecuteRuleValues ExecuteRulesComparer ExecuteGateway ExecutePlan ExecuteRepository
open ExecutePush ExecutePushSpec ExecutePrepare

/-- The policies of the target and the catalog made of them for a comparison. -/
structure PolicyRead where
  /-- The policies that were read. -/
  policies : List (PolicyResponse String)
  /-- The catalog built from them. -/
  catalog : SdwanPolicyCatalog
  /-- The catalog holds the policies, converted. -/
  rules_eq : catalog.rules=policies.map PolicyResponse.toSdwanRule

/-- A rule resolves, and to other values than each of the policies. -/
def PolicyRead.NewFor [PyUnicode] (read : PolicyRead) (body : RuleBody) : Prop :=
  ∃ values,(catalogResolver read.catalog).resolveRule body=.ok values ∧
    ∀ policy∈read.policies,
      policyValues (catalogResolver read.catalog) policy≠some values.normalized

/-- The request of a policy, the policies on the target at that moment, and what
its plan was compared with. -/
structure PolicyCreation where
  /-- What the policy was to be. -/
  body : RuleBody
  /-- The policies that were there. -/
  present : List (PolicyResponse String)
  /-- The reading its rule was compared with. -/
  compared : Option PolicyRead

/-- The stored plans and the policies and objects of one target. The last three
fields record what has been read and requested; no operation depends on them. -/
structure TargetWorld where
  /-- The stored plans. -/
  plans : PlanStore
  /-- The policies of the target. -/
  policies : List (PolicyResponse String)
  /-- The objects of the controller. -/
  gateway : SDWANCatalogGateway
  /-- The last reading of the policies. -/
  lastRead : Option PolicyRead := none
  /-- The reading each plan was compared with. -/
  compared : Dict ℕ PolicyRead := .empty
  /-- The policies asked for. -/
  creations : List PolicyCreation := []

/-- Plans expire, and policies and objects are edited from outside. -/
def Moves (world next : TargetWorld) : Prop :=
  ∃ plans policies gateway,Evicts world.plans plans ∧
    next={ world with plans := plans, policies := policies, gateway := gateway }

/-- The policy a request asks for, as the controller lists it. -/
def createdPolicy (request : CreatePolicyRequest) (policyId : ℤ) (order : String) :
    PolicyResponse String where
  policyId := policyId
  priority := request.priority
  order := order
  activated := request.activated
  action := request.body.action
  ingressZone := request.body.srcZones
  egressZone := request.body.dstZones
  srcAddress := request.body.srcAddrObjects
  dstAddress := request.body.dstAddrObjects
  service := request.body.services
  srcIdents := []
  dstIdents := []

/-- A creation adds its policy. One that raises may have added it all the same. -/
def Creates (policies : List (PolicyResponse String)) (request : CreatePolicyRequest)
    (answer : Except PyException ℤ) (next : List (PolicyResponse String)) : Prop :=
  match answer with
  | .ok policyId => ∃ order,next=policies++[createdPolicy request policyId order]
  | .error _ => next=policies ∨
      ∃ policyId order,next=policies++[createdPolicy request policyId order]

/-- Every scope is one of the target. -/
def OfTarget (targetId : String) (answer : Except PyException MappingScopeData) : Prop :=
  ∀ scope,answer=.ok scope → scope.sdwanTargetId=targetId

/-- What reading the policies of the target answers with. -/
def policyRead (world : TargetWorld) (targetId : String)
    (zoneIds serviceIds addrObjectIds : Finset ℤ) : PolicyRead where
  policies := world.policies
  catalog := getSdwanPolicyCatalog world.gateway targetId world.policies zoneIds serviceIds
    addrObjectIds
  rules_eq := rfl

/-- What the operations of a preparation do. -/
def prepareHandles (targetId : String) (world : TargetWorld) :
    (op : PrepareOp) → Except PyException (PrepareAns op) → TargetWorld → Prop
  | .getMappingScopeData _,answer,next => OfTarget targetId answer ∧ next=world
  | .getSdwanPolicyCatalog target zoneIds serviceIds addrObjectIds,answer,next =>
    ((∃ error,answer=.error error) ∧ next=world) ∨
      (answer=.ok (policyRead world target zoneIds serviceIds addrObjectIds).catalog ∧
        next={ world with
          lastRead := some (policyRead world target zoneIds serviceIds addrObjectIds) })
  | .addPlanWithRules plan rules,answer,next =>
    match addPlanWithRules world.plans plan rules with
    | .ok plans => answer=.ok () ∧ next={ world with
        plans := plans
        compared := (world.lastRead.map (world.compared.insert plan.id)).getD world.compared }
    | .error error => answer=.error error ∧ next=world
  | _,_,next => next=world

/-- What the operations of a push of a plan do. -/
def pushHandles (targetId : String) (planId : ℕ) (world : TargetWorld) :
    (op : PushOp) → Except PyException (PushAns op) → TargetWorld → Prop
  | .getMappingScopeData _,answer,next => OfTarget targetId answer ∧ next=world
  | .createPolicy _ request,answer,next =>
    ∃ policies,Creates world.policies request answer policies ∧ next={ world with
      policies := policies
      creations := world.creations++
        [⟨request.body,world.policies,world.compared.get? planId⟩] }
  | op,answer,next => ∃ plans,storeHandles world.plans op answer plans ∧
      next={ world with plans := plans }

/-- An operation after moves of the rest of the world. -/
def Amid {Op : Type} {Ans : Op → Type}
    (handles : TargetWorld → (op : Op) → Except PyException (Ans op) → TargetWorld → Prop)
    (world : TargetWorld) (op : Op) (answer : Except PyException (Ans op))
    (next : TargetWorld) : Prop :=
  ∃ mid,Moves world mid ∧ handles mid op answer next

/-- The worlds reached by preparing and pushing plans of one target, from any
policies and objects. -/
inductive Reached [PyUnicode] (hashFunc : String → String) (targetId : String) :
    TargetWorld → Prop where
  | start (policies : List (PolicyResponse String)) (gateway : SDWANCatalogGateway) :
      Reached hashFunc targetId ⟨.empty,policies,gateway,none,.empty,[]⟩
  | prepare {world next : TargetWorld} (hreach : Reached hashFunc targetId world) (scopeId : ℕ)
      {events : List PrepareEvent} {result : Except PyException PrepareExecutePlanResult}
      (hrun : Async.Runs (Amid (prepareHandles targetId)) world
        (prepareExecutePlan hashFunc scopeId) events next result) : Reached hashFunc targetId next
  | push {world next : TargetWorld} (hreach : Reached hashFunc targetId world) (planId : ℕ)
      {events : List PushEvent} {result : Except PyException PushResult}
      (hrun : Async.Runs (Amid (pushHandles targetId planId)) world
        (pushExecutePlanRules hashFunc planId) events next result) : Reached hashFunc targetId next
  | moves {world next : TargetWorld} (hreach : Reached hashFunc targetId world)
      (hmoves : Moves world next) : Reached hashFunc targetId next

section Comparison

variable [PyUnicode] {hashFunc : String → String}

/-- A rule found new resolves, and to other values than each existing rule. -/
theorem values_of_new {catalog : SdwanPolicyCatalog} {body : RuleBody}
    (h : (compareWithCatalog hashFunc catalog body).matchStatus=.new) :
    ∃ values,(catalogResolver catalog).resolveRule body=.ok values ∧
      ∀ r∈resolvedRules (catalogResolver catalog) catalog.rules,
        r.values.normalized≠values.normalized := by
  unfold compareWithCatalog RulesComparer.compareRule at h
  rw [ofCatalog_resolver] at h
  cases hvalues : (catalogResolver catalog).resolveRule body with
  | error reason =>
    rw [hvalues] at h
    cases h
  | ok values =>
    refine ⟨values,rfl,fun r hr hequal => ?_⟩
    -- an equal rule lies under the signature that is looked up
    have hindex := (RulesComparer.ofCatalog hashFunc catalog).index_eq
      (values.normalized.exactSignature hashFunc)
    rw [ofCatalog_resolvedSdwanRules] at hindex
    have hmem : r∈((RulesComparer.ofCatalog hashFunc catalog).rulesIndex.get?
        (values.normalized.exactSignature hashFunc)).getD [] := by
      rw [hindex]
      exact List.mem_filter.mpr ⟨hr,decide_eq_true (by rw [hequal])⟩
    rw [hvalues] at h
    dsimp only at h
    split at h
    · cases h
    · next hnone =>
      rw [hnone] at hmem
      cases hmem

/-- A planned rule found new is new for the policies read. -/
theorem newFor_of_new {read : PolicyRead} {body : RuleBody}
    (h : (compareWithCatalog hashFunc read.catalog body).matchStatus=.new) : read.NewFor body := by
  obtain ⟨values,hvalues,hother⟩ := values_of_new h
  refine ⟨values,hvalues,fun policy hpolicy hequal => ?_⟩
  obtain ⟨resolved,hresolved,hnormalized⟩ := policyValues_eq_some.mp hequal
  refine hother ⟨policy.toSdwanRule,resolved⟩ (mem_resolvedRules.mpr ⟨?_,hresolved⟩) hnormalized
  rw [read.rules_eq]
  exact List.mem_map_of_mem hpolicy

end Comparison

/-- Everything stored and requested has been compared: plans with what is noted
for them, and creations with what was noted at their time. -/
structure AllCompared [PyUnicode] (world : TargetWorld) : Prop where
  /-- Plans and rules stand under their own numbers. -/
  plans_wf : StoreWf world.plans
  /-- A rule that is to be created was new for the reading of its plan. -/
  plans : ∀ planId entry,world.plans.get? planId=some entry →
    ∃ read,world.compared.get? planId=some read ∧ ∀ rule∈entry.rules.values,
      rule.matchStatus=.new → read.NewFor rule.draft.toRuleBody
  /-- Every policy asked for was new for a reading. -/
  creations : ∀ creation∈world.creations,
    ∃ read,creation.compared=some read ∧ read.NewFor creation.body

section Steps

variable [PyUnicode] {hashFunc : String → String} {targetId : String} {world next : TargetWorld}

/-- Expired plans and edits from outside change nothing that was compared. -/
theorem AllCompared.moves (h : AllCompared world) (hmoves : Moves world next) :
    AllCompared next := by
  obtain ⟨plans,policies,gateway,hevicts,rfl⟩ := hmoves
  refine ⟨hevicts.wf h.plans_wf,fun planId entry hget => ?_,h.creations⟩
  rcases hevicts planId with hsame|hnone
  · exact h.plans planId entry (hsame▸hget)
  · dsimp only at hget
    rw [hnone] at hget
    cases hget

/-- One entry is replaced by another whose rules are as new. -/
theorem AllCompared.insert (h : AllCompared world) {planId : ℕ} {entry : ExecutePlanCacheEntry}
    {plans : PlanStore} (hplans : plans=world.plans.insert planId entry) (hw : StoreWf plans)
    {read : PolicyRead} (hread : world.compared.get? planId=some read)
    (hnew : ∀ rule∈entry.rules.values,rule.matchStatus=.new →
      read.NewFor rule.draft.toRuleBody) : AllCompared { world with plans := plans } := by
  refine ⟨hw,fun otherId other hget => ?_,h.creations⟩
  dsimp only at hget ⊢
  rw [hplans,Dict.get?_insert] at hget
  split at hget
  · next hid =>
    cases hget
    exact ⟨read,hid▸hread,hnew⟩
  · exact h.plans otherId other hget

/-- The catalog a preparation has read. -/
def readCatalog : PrepareEvent → Option SdwanPolicyCatalog
  | ⟨.getSdwanPolicyCatalog _ _ _ _,.ok catalog⟩ => some catalog
  | _ => none

/-- The catalogs read so far. -/
def readCatalogs (history : List PrepareEvent) : List SdwanPolicyCatalog :=
  history.filterMap readCatalog

/-- A plan is stored as compared with the last catalog read. -/
def ComparedSpec (hashFunc : String → String) (history : List PrepareEvent) : PrepareOp → Prop
  | .addPlanWithRules plan rules => ∃ catalog mapped firstRuleId,
      (readCatalogs history).getLast?=some catalog ∧
      rules=storedRules hashFunc catalog plan.id firstRuleId mapped
  | _ => True

/-- The catalog of the comparison is the last one read. -/
theorem readPolicyCatalog_last (scope : MappingScopeData) (mapped : List MappedRuleData)
    {history : List PrepareEvent}
    {Q : List PrepareEvent → Except PyException (String × SdwanPolicyCatalog) → Prop}
    (herror : ∀ history error,Q history (.error error))
    (hok : ∀ history fingerprint catalog,(readCatalogs history).getLast?=some catalog →
      Q history (.ok (fingerprint,catalog))) :
    (readPolicyCatalog hashFunc scope mapped).Sound (fun _ _ => True) (ComparedSpec hashFunc) Q
      history := by
  refine Async.sound_call_bind trivial (fun error _ => herror _ error) fun catalog _ => ?_
  split
  · exact herror _ _
  refine Async.sound_call_bind trivial (fun error _ => herror _ error) fun policies _ => ?_
  refine Async.sound_pure (hok _ _ policies ?_)
  rw [readCatalogs,List.filterMap_append]
  exact List.getLast?_concat

/-- A preparation stores its plan as compared with what it has read. -/
theorem prepareExecutePlan_compared (hashFunc : String → String) (scopeId : ℕ) :
    (prepareExecutePlan hashFunc scopeId).Sound (fun _ _ => True) (ComparedSpec hashFunc)
      (fun _ _ => True) [] := by
  refine Async.sound_call_bind trivial (fun _ _ => trivial) fun scope _ => ?_
  refine Async.sound_call_bind trivial (fun _ _ => trivial) fun mapped _ => ?_
  refine Async.sound_bind (Async.sound_within trivial (fun _ => trivial) fun _ =>
    readPolicyCatalog_last scope mapped (fun _ _ => ⟨trivial,fun _ => trivial,fun _ => trivial⟩)
      fun history fingerprint catalog hlast => ⟨trivial,fun _ => trivial,fun _ => ?_⟩)
  refine Async.sound_call_bind trivial (fun _ _ => trivial) fun planId _ => ?_
  refine Async.sound_call_bind trivial (fun _ _ => trivial) fun firstRuleId _ => ?_
  refine Async.sound_call_bind ⟨catalog,mapped,firstRuleId,?_,rfl⟩ (fun _ _ => trivial)
    fun _ _ => trivial
  simpa only [readCatalogs,List.filterMap_append,List.filterMap_cons,List.filterMap_nil,
    List.append_nil,readCatalog] using hlast

/-- The last catalog read is the one noted. -/
def NotesLast (history : List PrepareEvent) (world : TargetWorld) : Prop :=
  ∀ catalog,(readCatalogs history).getLast?=some catalog →
    ∃ read,world.lastRead=some read ∧ read.catalog=catalog

omit [PyUnicode] in
/-- What reads no policies keeps what is noted. -/
theorem NotesLast.append {history : List PrepareEvent} (h : NotesLast history world)
    {event : PrepareEvent} (hevent : readCatalog event=none)
    (hsame : next.lastRead=world.lastRead) :
    NotesLast (history++[event]) next := by
  intro catalog hlast
  rw [readCatalogs,List.filterMap_append,List.filterMap_cons_none hevent,List.filterMap_nil,
    List.append_nil] at hlast
  rw [hsame]
  exact h catalog hlast

/-- An operation of a preparation keeps everything compared. -/
theorem AllCompared.prepareStep (h : AllCompared world) {history : List PrepareEvent}
    (hnotes : NotesLast history world) {op : PrepareOp}
    {answer : Except PyException (PrepareAns op)} (hspec : ComparedSpec hashFunc history op)
    (hop : prepareHandles targetId world op answer next) :
    AllCompared next ∧ NotesLast (history++[⟨op,answer⟩]) next := by
  cases op with
  | getMappingScopeData scopeId =>
    obtain ⟨-,rfl⟩ := hop
    exact ⟨h,hnotes.append rfl rfl⟩
  | getSdwanPolicyCatalog target zoneIds serviceIds addrObjectIds =>
    rcases hop with ⟨⟨error,rfl⟩,rfl⟩|⟨rfl,rfl⟩
    · exact ⟨h,hnotes.append rfl rfl⟩
    · refine ⟨⟨h.plans_wf,h.plans,h.creations⟩,fun catalog hlast => ⟨_,rfl,?_⟩⟩
      rw [readCatalogs,List.filterMap_append] at hlast
      exact Option.some.inj (List.getLast?_concat.symm.trans hlast)
  | addPlanWithRules plan rules =>
    rw [prepareHandles] at hop
    split at hop
    · next plans hadd =>
      obtain ⟨rfl,rfl⟩ := hop
      obtain ⟨catalog,mapped,firstRuleId,hlast,rfl⟩ := hspec
      obtain ⟨read,hread,rfl⟩ := hnotes catalog hlast
      refine ⟨?_,hnotes.append rfl rfl⟩
      obtain ⟨-,rulesById,hplans,hrules⟩ := addPlanWithRules_eq_ok hadd
      refine ⟨addPlanWithRules_wf h.plans_wf hadd,fun planId entry hget => ?_,h.creations⟩
      dsimp only at hget ⊢
      rw [hread,Option.map_some,Option.getD_some,Dict.get?_insert]
      rw [hplans,Dict.get?_insert] at hget
      by_cases hid : planId=plan.id
      · rw [if_pos hid] at hget ⊢
        cases hget
        refine ⟨read,rfl,fun rule hrule hnew => ?_⟩
        obtain ⟨i,hi,rfl⟩ := List.mem_mapIdx.mp (hrules rule hrule)
        exact newFor_of_new hnew
      · rw [if_neg hid] at hget ⊢
        exact h.plans planId entry hget
    · obtain ⟨rfl,rfl⟩ := hop
      exact ⟨h,hnotes.append rfl rfl⟩
  | _ =>
    cases hop
    exact ⟨h,hnotes.append rfl rfl⟩

/-- A preparation keeps everything compared. -/
theorem AllCompared.prepare (h : AllCompared world) {scopeId : ℕ} {events : List PrepareEvent}
    {result : Except PyException PrepareExecutePlanResult}
    (hrun : Async.Runs (Amid (prepareHandles targetId)) world
      (prepareExecutePlan hashFunc scopeId) events next result) : AllCompared next := by
  refine (hrun.inv (prepareExecutePlan_compared hashFunc scopeId)
    (I:=fun history world => AllCompared world ∧ NotesLast history world)
    ⟨h,fun catalog hlast => by cases hlast⟩ ?_).1.1
  intro history op answer world next hinv hspec hstep
  obtain ⟨mid,hmoves,hop⟩ := hstep
  have hmid : mid.lastRead=world.lastRead := by
    obtain ⟨plans,policies,gateway,-,rfl⟩ := hmoves
    rfl
  have hnotes : NotesLast history mid := by
    intro catalog hlast
    rw [hmid]
    exact hinv.2 catalog hlast
  exact ⟨trivial,(hinv.1.moves hmoves).prepareStep hnotes hspec hop⟩

end Steps

/-- The new rules a push has listed. -/
def listedNew : PushEvent → List StoredPlanRule
  | ⟨.listPlanRules _ (some .new) _,.ok rules⟩ => rules
  | _ => []

/-- Policies are requested as some of the rules are drafted, and outcomes are
recorded under the drafts. -/
def Drafted (planRules : List StoredPlanRule) : PushOp → Prop
  | .createPolicy _ request => ∃ rule∈planRules,request.body=rule.draft.toRuleBody
  | .updatePlanRule rule => ∃ old∈planRules,rule.draft=old.draft
  | _ => True

section Drafts

variable {planRules : List StoredPlanRule}

/-- What neither requests nor records anything is no matter of drafts. -/
theorem drafted_of_inert {op : PushOp} (h : Inert op) : Drafted planRules op := by
  cases op with
  | createPolicy _ _ | updatePlanRule _ => exact h.elim
  | _ => exact trivial

/-- A policy is requested as drafted. -/
theorem createRule_drafted (targetId : String) (parentType : DeviceObjectType)
    (priority : SdwanRulePriority) {rule : StoredPlanRule} (hrule : rule∈planRules) :
    (createRule targetId parentType priority rule).Only (Drafted planRules) := by
  unfold createRule
  split
  · exact trivial
  · next request hrequest =>
    have hbody : request.body=rule.draft.toRuleBody := by
      unfold createPolicyRequest at hrequest
      split at hrequest
      · cases hrequest
        rfl
      · split at hrequest <;> cases hrequest
    have hcall : Drafted planRules (.createPolicy rule.id request) := ⟨rule,hrule,hbody⟩
    refine Async.only_bind (Async.only_attempt (Async.only_call hcall)) fun answer => ?_
    cases answer with
    | error error => exact trivial
    | ok sdwanRuleId => exact trivial

/-- All policies are requested as drafted. -/
theorem pushRules_drafted (targetId : String) {rules : List StoredPlanRule}
    (hrules : ∀ rule∈rules,rule∈planRules) (priority : SdwanRulePriority) :
    (pushRules targetId rules priority).Only (Drafted planRules) := by
  refine Async.only_bind (Async.only_call trivial) fun target => ?_
  cases target with
  | none => exact trivial
  | some target =>
    exact Async.only_foldlM (fun results rule hrule => Async.only_bind
      (createRule_drafted _ _ _ (hrules rule hrule)) fun _ => Async.only_pure _) []

/-- Outcomes are recorded under the drafts. -/
theorem recordResults_drafted (results : List PushRuleResult) :
    (recordResults planRules results).Only (Drafted planRules) := by
  refine Async.only_foldlM (fun _ result _ => ?_) ()
  cases hget : (Dict.ofList (planRules.map fun rule => (rule.id,rule))).get?
      result.executePlanRuleId with
  | none => exact trivial
  | some rule =>
    obtain ⟨other,hother,he⟩ := List.mem_map.mp (Dict.mem_of_get?_ofList hget)
    obtain ⟨-,rfl⟩ := Prod.mk.inj he
    have hdraft : (recordedRule other result).draft=other.draft := by
      unfold recordedRule
      split <;> rfl
    have hcall : Drafted planRules (.updatePlanRule (recordedRule other result)) :=
      ⟨other,hother,hdraft⟩
    exact Async.only_bind (Async.only_call hcall) fun _ => trivial

/-- The work with the controller keeps to the drafts. -/
theorem pushWithGateway_drafted [PyUnicode] (hashFunc : String → String) (plan : ExecutePlan)
    (scope : MappingScopeData) :
    (pushWithGateway hashFunc plan planRules scope).Only (Drafted planRules) := by
  refine Async.only_bind (Async.only_call trivial) fun catalog => ?_
  split
  · exact trivial
  refine Async.only_bind (Async.only_call trivial) fun _ => ?_
  refine Async.only_bind (pushRules_drafted _ (fun rule h => (List.mem_insertionSort _).mp h) _)
    fun results => ?_
  refine Async.only_bind (recordResults_drafted results) fun _ => ?_
  have hcommit := commitCspChanges_only.mono fun op h => @drafted_of_inert planRules op h
  have hend : ∀ pushedRules : List (PolicyResponse String),Async.Only (Drafted planRules) (do
      let commitInfo ← commitCspChanges
      return (⟨pushedRules,results,commitInfo⟩ : PushResult)) :=
    fun pushedRules => Async.only_bind hcommit fun _ => Async.only_pure _
  dsimp only
  split
  · exact Async.only_bind (Async.only_pure _) hend
  · exact Async.only_bind (Async.only_call trivial) hend

/-- Saving a report is no matter of drafts. -/
theorem saveReport_drafted [PyUnicode] (scope : MappingScopeData) (commitId : ℤ)
    (allPlanRules : List StoredPlanRule) :
    (saveReport scope commitId allPlanRules).Only (Drafted planRules) := by
  refine Async.only_bind (Async.only_call trivial) fun vpcs => ?_
  split
  · exact trivial
  refine Async.only_bind ?_ fun pair => ?_
  · refine (withGateway_only _ _ ?_).mono fun op h => drafted_of_inert h
    refine Async.only_bind (Async.only_call trivial) fun target => ?_
    cases target with
    | none => exact trivial
    | some target => exact Async.only_bind (Async.only_call trivial) fun _ => Async.only_pure _
  · dsimp only
    split
    · exact trivial
    · exact Async.only_bind (Async.only_call trivial) fun _ =>
        Async.only_bind (Async.only_call trivial) fun _ => Async.only_pure _

end Drafts

section Push

variable [PyUnicode] {hashFunc : String → String} {targetId : String} {planId : ℕ}
  {world next : TargetWorld}

/-- A push keeps to the drafts of the new rules it has listed. -/
theorem pushExecutePlanRules_drafted (hashFunc : String → String) (planId : ℕ)
    {A : List PushEvent → PushEvent → Prop} :
    (pushExecutePlanRules hashFunc planId).Sound A
      (fun history => Drafted (history.flatMap listedNew)) (fun _ _ => True) [] := by
  refine Async.sound_call_bind trivial (fun _ _ => trivial) fun plan _ => ?_
  cases plan with
  | none => exact trivial
  | some plan =>
    dsimp only
    split
    · exact trivial
    refine Async.sound_call_bind trivial (fun _ _ => trivial) fun planRules _ => ?_
    split
    · exact trivial
    have hrest : Async.Only (Drafted planRules) (do
        let scope : MappingScopeData ← ExecutePush.await (.getMappingScopeData plan.mappingScopeId)
        if scope.catalogFingerprint≠plan.catalogFingerprint then
          Async.raise ⟨"ConflictError","Mapping scope catalog baseline changed after preparing "++
            "the execute plan. Prepare a new execute plan before push."⟩
        else
          let result ← withGateway scope.cspProfileId scope.vpcId
            (pushWithGateway hashFunc plan planRules scope)
          let allPlanRules : List StoredPlanRule ←
            ExecutePush.await (.listPlanRules plan.id none none)
          saveReport scope result.commitInfo.commitId allPlanRules
          return result) := by
      refine Async.only_bind (Async.only_call trivial) fun scope => ?_
      split
      · exact trivial
      refine Async.only_bind ?_ fun result => Async.only_bind (Async.only_call trivial)
        fun allPlanRules => Async.only_bind ?_ fun _ => Async.only_pure _
      · exact Async.only_bind (Async.only_call trivial) fun _ =>
          Async.only_bind (Async.only_attempt (pushWithGateway_drafted hashFunc plan scope))
            fun _ =>
            Async.only_bind (Async.only_call trivial) fun _ => trivial
      · exact saveReport_drafted scope _ allPlanRules
    refine hrest.sound (fun history => ∀ rule∈planRules,rule∈history.flatMap listedNew) ?_ ?_
      (fun _ _ _ => trivial) ?_
    · intro history op hlisted hop
      cases op with
      | createPolicy planRuleId request =>
        obtain ⟨rule,hrule,hbody⟩ := hop
        exact ⟨rule,hlisted rule hrule,hbody⟩
      | updatePlanRule rule =>
        obtain ⟨old,hold,hdraft⟩ := hop
        exact ⟨old,hlisted old hold,hdraft⟩
      | _ => exact trivial
    · intro history op answer hlisted _ rule hrule
      rw [List.flatMap_append]
      exact List.mem_append_left _ (hlisted rule hrule)
    · intro rule hrule
      rw [List.flatMap_append,List.flatMap_singleton]
      exact List.mem_append_right _ hrule

/-- What is noted for the plan tells every listed new rule from the policies read. -/
def ListedNew (planId : ℕ) (history : List PushEvent) (world : TargetWorld) : Prop :=
  ∀ rule∈history.flatMap listedNew,∃ read,world.compared.get? planId=some read ∧
    read.NewFor rule.draft.toRuleBody

/-- What lists no new rules keeps what is known of them. -/
theorem ListedNew.append {history : List PushEvent} (h : ListedNew planId history world)
    {event : PushEvent} (hevent : listedNew event=[]) (hsame : next.compared=world.compared) :
    ListedNew planId (history++[event]) next := by
  intro rule hrule
  rw [List.flatMap_append,List.flatMap_singleton,hevent,List.append_nil] at hrule
  rw [hsame]
  exact h rule hrule

/-- The new rules listed are new for what is noted for their plan. -/
theorem AllCompared.listed (h : AllCompared world) {history : List PushEvent}
    (hlisted : ListedNew planId history world) {matchStatus : Option RuleMatchStatus}
    {pushStatuses : Option (List RulePushStatus)} :
    ListedNew planId (history++[⟨.listPlanRules planId matchStatus pushStatuses,
      .ok (ExecuteRepository.listPlanRules world.plans planId matchStatus pushStatuses)⟩])
        world := by
  intro rule hrule
  rw [List.flatMap_append,List.flatMap_singleton,List.mem_append] at hrule
  rcases hrule with hrule|hrule
  · exact hlisted rule hrule
  · cases matchStatus with
    | none => cases hrule
    | some status =>
      cases status with
      | new =>
        obtain ⟨-,hfilters,entry,hentry,hget⟩ := mem_listPlanRules (h.plans_wf planId) hrule
        obtain ⟨read,hread,hnew⟩ := h.plans planId entry hentry
        simp only [matchesFilters,Option.all_some,Bool.and_eq_true,decide_eq_true_eq] at hfilters
        exact ⟨read,hread,hnew rule (Dict.mem_values_of_get? hget) hfilters.1⟩
      | exactMatch | coveredMatch | matchError => cases hrule

/-- An operation of a push keeps everything compared. -/
theorem AllCompared.pushStep (h : AllCompared world) {history : List PushEvent}
    (hlisted : ListedNew planId history world) {op : PushOp}
    {answer : Except PyException (PushAns op)} (hspec : PushSpec planId history op)
    (hdrafted : Drafted (history.flatMap listedNew) op)
    (hop : pushHandles targetId planId world op answer next) :
    AnswerOk op answer ∧ AllCompared next ∧ ListedNew planId (history++[⟨op,answer⟩]) next := by
  have hanswer : ∀ plans,storeHandles world.plans op answer plans → AnswerOk op answer :=
    fun plans => answerOk_of_storeHandles (h.plans_wf planId) ⟨op,answer⟩ hspec
  cases op with
  | getMappingScopeData scopeId =>
    obtain ⟨-,rfl⟩ := hop
    exact ⟨trivial,h,hlisted.append rfl rfl⟩
  | createPolicy planRuleId request =>
    obtain ⟨policies,-,rfl⟩ := hop
    refine ⟨trivial,⟨h.plans_wf,h.plans,fun creation hcreation => ?_⟩,hlisted.append rfl rfl⟩
    rcases List.mem_append.mp hcreation with hcreation|hcreation
    · exact h.creations creation hcreation
    · obtain ⟨rule,hrule,hbody⟩ := hdrafted
      rw [List.mem_singleton.mp hcreation]
      exact hbody▸hlisted rule hrule
  | listPlanRules id matchStatus pushStatuses =>
    obtain ⟨plans,hstore,rfl⟩ := hop
    have hid : id=planId := hspec
    subst hid
    refine ⟨hanswer plans hstore,?_⟩
    obtain ⟨rfl,rfl⟩ := hstore
    exact ⟨h,h.listed hlisted⟩
  | updatePlan plan =>
    obtain ⟨plans,hstore,rfl⟩ := hop
    refine ⟨trivial,?_,hlisted.append rfl rfl⟩
    rcases storeHandles_updatePlan hstore with ⟨marked,rfl,hok⟩|⟨error,rfl,-,rfl⟩
    · obtain ⟨entry,hentry,hplans,-⟩ := updatePlan_eq_ok.mp hok
      obtain ⟨read,hread,hnew⟩ := h.plans plan.id entry hentry
      exact h.insert hplans (updatePlan_wf h.plans_wf hok) hread hnew
    · exact h
  | updatePlanRule rule =>
    obtain ⟨plans,hstore,rfl⟩ := hop
    refine ⟨trivial,?_,hlisted.append rfl rfl⟩
    rcases storeHandles_updatePlanRule hstore with ⟨saved,rfl,hok⟩|⟨error,rfl,-,rfl⟩
    · obtain ⟨entry,hentry,-,hplans,-⟩ := updatePlanRule_eq_ok.mp hok
      obtain ⟨-,hplan,-⟩ := hspec
      rw [hplan] at hentry hplans
      obtain ⟨read,hread,hnew⟩ := h.plans planId entry hentry
      refine h.insert hplans (updatePlanRule_wf h.plans_wf hok) hread fun other hother hstatus => ?_
      obtain ⟨ruleId,hget⟩ := Dict.exists_get?_of_mem_values hother
      rw [Dict.get?_insert] at hget
      split at hget
      · obtain ⟨old,hold,hdraft⟩ := hdrafted
        obtain ⟨listedRead,hlistedRead,hlistedNew⟩ := hlisted old hold
        rw [hread] at hlistedRead
        cases hlistedRead
        cases hget
        exact hdraft▸hlistedNew
      · exact hnew other (Dict.mem_values_of_get? hget) hstatus
    · exact h
  | getPlan id =>
    obtain ⟨plans,hstore,rfl⟩ := hop
    refine ⟨hanswer plans hstore,?_⟩
    obtain ⟨-,rfl⟩ := hstore
    exact ⟨h,hlisted.append rfl rfl⟩
  | _ =>
    obtain ⟨plans,hstore,rfl⟩ := hop
    cases hstore
    exact ⟨trivial,h,hlisted.append rfl rfl⟩

/-- A push keeps everything compared. -/
theorem AllCompared.push (h : AllCompared world) {events : List PushEvent}
    {result : Except PyException PushResult}
    (hrun : Async.Runs (Amid (pushHandles targetId planId)) world
      (pushExecutePlanRules hashFunc planId) events next result) : AllCompared next := by
  refine (hrun.inv ((pushExecutePlanRules_sound hashFunc planId).and
      (pushExecutePlanRules_drafted hashFunc planId))
    (I:=fun history world => AllCompared world ∧ ListedNew planId history world)
    ⟨h,fun rule hrule => by cases hrule⟩ ?_).1.1
  intro history op answer world next hinv hspec hstep
  obtain ⟨mid,hmoves,hop⟩ := hstep
  have hmid : mid.compared=world.compared := by
    obtain ⟨plans,policies,gateway,-,rfl⟩ := hmoves
    rfl
  have hlisted : ListedNew planId history mid := by
    intro rule hrule
    rw [hmid]
    exact hinv.2 rule hrule
  exact (hinv.1.moves hmoves).pushStep hlisted hspec.1 hspec.2 hop

/-- Every policy requested by a push has other values than each policy its plan
was compared with. -/
theorem created_policies_new (h : Reached hashFunc targetId world) :
    ∀ creation∈world.creations,
      ∃ read,creation.compared=some read ∧ read.NewFor creation.body := by
  have hall : AllCompared world := by
    induction h with
    | start policies gateway =>
      refine ⟨fun planId entry hget => ?_,fun planId entry hget => ?_,fun creation hc => ?_⟩
      · cases hget
      · cases hget
      · cases hc
    | prepare hreach scopeId hrun ih => exact ih.prepare hrun
    | push hreach planId hrun ih => exact ih.push hrun
    | moves hreach hmoves ih => exact ih.moves hmoves
  exact hall.creations

end Push

section Twins

/-- The objects of the sample target. -/
def twinCatalog : SdwanFullCatalog where
  zones := [⟨3,3,"Inside",.lan⟩]
  services := [.ofTcp 8 "https" (443,443) []]
  addrObjs := [.ofHost 5 [] "h1" (.ofNat 167772161)]
  networks := []

/-- A scope of the sample target, mapped on its catalog. -/
def twinScope : MappingScopeData :=
  { siteScope with catalogFingerprint := @getFingerprint asciiUnicode id twinCatalog }

/-- The body of both rules of the scope. -/
def twinBody : RuleBody := ⟨.accept,[3],[3],[5],[5],[8]⟩

/-- A controller on which every call succeeds while a plan is prepared. -/
def twinPrepare : (op : PrepareOp) → Except PyException (PrepareAns op)
  | .newIds => .ok 1
  | .getMappingScopeData _ => .ok twinScope
  | .getMappingScopeRules _ => .ok [⟨twinBody,11,"first",10⟩,⟨twinBody,12,"second",20⟩]
  | .acquire _ _ | .release | .addPlanWithRules _ _ => .ok ()
  | .getSdwanFullCatalog => .ok twinCatalog
  | .getSdwanPolicyCatalog _ _ _ _ => .error ⟨"SDWANCspHttpResponseError",""⟩

/-- A controller on which every call succeeds while a plan is pushed. -/
def twinPush : (op : PushOp) → Except PyException (PushAns op)
  | .getMappingScopeData _ => .ok twinScope
  | .getSdwanFullCatalog => .ok twinCatalog
  | op => siteAnswers op

/-- The answers of a preparation's operations. -/
def prepareOracle (world : TargetWorld) :
    (op : PrepareOp) → Except PyException (PrepareAns op) × TargetWorld
  | .getSdwanPolicyCatalog target zoneIds serviceIds addrObjectIds =>
    (.ok (policyRead world target zoneIds serviceIds addrObjectIds).catalog,{ world with
      lastRead := some (policyRead world target zoneIds serviceIds addrObjectIds) })
  | .addPlanWithRules plan rules =>
    match addPlanWithRules world.plans plan rules with
    | .ok plans => (.ok (),{ world with
        plans := plans
        compared := (world.lastRead.map (world.compared.insert plan.id)).getD world.compared })
    | .error error => (.error error,world)
  | op => (twinPrepare op,world)

/-- The answers of a push's operations. -/
def pushOracle (planId : ℕ) (world : TargetWorld) :
    (op : PushOp) → Except PyException (PushAns op) × TargetWorld
  | .createPolicy _ request => (.ok (901+world.policies.length),{ world with
      policies := world.policies++[createdPolicy request (901+world.policies.length) ""]
      creations := world.creations++
        [⟨request.body,world.policies,world.compared.get? planId⟩] })
  | op =>
    let outcome := storeOracle twinPush world.plans op
    (outcome.1,{ world with plans := outcome.2 })

/-- An operation while the rest of the world stays. -/
theorem amid_of_handles {Op : Type} {Ans : Op → Type}
    {handles : TargetWorld → (op : Op) → Except PyException (Ans op) → TargetWorld → Prop}
    {world next : TargetWorld} {op : Op} {answer : Except PyException (Ans op)}
    (hop : handles world op answer next) : Amid handles world op answer next :=
  ⟨world,⟨world.plans,world.policies,world.gateway,fun _ => Or.inl rfl,rfl⟩,hop⟩

theorem amid_prepareOracle (world : TargetWorld) (op : PrepareOp) :
    Amid (prepareHandles "device-1") world op (prepareOracle world op).1
      (prepareOracle world op).2 := by
  refine amid_of_handles ?_
  cases op with
  | getMappingScopeData scopeId =>
    refine ⟨fun scope hscope => ?_,rfl⟩
    cases hscope
    rfl
  | getSdwanPolicyCatalog => exact Or.inr ⟨rfl,rfl⟩
  | addPlanWithRules plan rules =>
    simp only [prepareHandles,prepareOracle]
    cases addPlanWithRules world.plans plan rules with
    | ok plans => exact ⟨rfl,rfl⟩
    | error error => exact ⟨rfl,rfl⟩
  | _ => exact rfl

theorem amid_pushOracle (planId : ℕ) (world : TargetWorld) (op : PushOp) :
    Amid (pushHandles "device-1" planId) world op (pushOracle planId world op).1
      (pushOracle planId world op).2 := by
  refine amid_of_handles ?_
  cases op with
  | getMappingScopeData scopeId =>
    refine ⟨fun scope hscope => ?_,rfl⟩
    cases hscope
    rfl
  | createPolicy planRuleId request => exact ⟨_,⟨"",rfl⟩,rfl⟩
  | _ => exact ⟨_,storeHandles_storeOracle twinPush world.plans _,rfl⟩

/-- The sample target before any plan: no policies. -/
def twinStart : TargetWorld where
  plans := .empty
  policies := []
  gateway := ⟨fun _ => twinCatalog.zones,fun _ => twinCatalog.services,
    fun _ => twinCatalog.addrObjs⟩

/-- The sample target after plan 1 was prepared. -/
def twinPrepared : TargetWorld :=
  ((@prepareExecutePlan asciiUnicode id 3).exec prepareOracle twinStart).2.1

/-- The sample target after plan 1 was pushed. -/
def twinPushed : TargetWorld :=
  ((@pushExecutePlanRules asciiUnicode id 1).exec (pushOracle 1) twinPrepared).2.1

/-- The plan is prepared. -/
theorem reached_twinPrepared : @Reached asciiUnicode id "device-1" twinPrepared := by
  refine @Reached.prepare asciiUnicode _ _ twinStart _ ?_ 3 _ _ (Async.runs_exec ?_ _ _)
  · exact @Reached.start asciiUnicode _ _ _ _
  · exact amid_prepareOracle

/-- The plan is pushed. -/
theorem reached_twinPushed : @Reached asciiUnicode id "device-1" twinPushed := by
  refine @Reached.push asciiUnicode _ _ twinPrepared _ reached_twinPrepared 1 _ _
    (Async.runs_exec ?_ _ _)
  exact amid_pushOracle 1

/-- Whether a policy on the target has the values of the requested one. -/
def repeatsPresent [PyUnicode] (creation : PolicyCreation) : Bool :=
  creation.compared.any fun read => creation.present.any fun policy =>
    match (catalogResolver read.catalog).resolveRule creation.body with
    | .error _ => false
    | .ok values =>
      decide (policyValues (catalogResolver read.catalog) policy=some values.normalized)

/-- Both policies of the sample plan are new, but the second repeats the first. -/
theorem created_policies_new_twins :
    (∀ creation∈twinPushed.creations,∃ read,creation.compared=some read ∧
      @PolicyRead.NewFor asciiUnicode read creation.body) ∧
      twinPushed.creations.map (@repeatsPresent asciiUnicode)=[false,true] :=
  ⟨@created_policies_new asciiUnicode _ _ _ reached_twinPushed,by decide +kernel⟩

end Twins

end NspMigrator.ExecuteDuplicates
