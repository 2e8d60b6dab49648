import Mathlib
import NspMigrator.ExecutePushSpec

/-!
# Accounting for created policies

Whatever fails during a push, a policy whose creation was answered is recorded
under its number while the plan stays in the cache. A failure after the
creations ends the push with an error and may leave it without a report.
-/

namespace NspMigrator.ExecutePushAccounting

open PyAsync PyDict PyText SdwanModels SdwanFingerprint
open ExecuteGateway ExecuteRulesComparer ExecutePlan ExecuteRepository ReportRules ExecutePush
open ExecutePushSpec

/-- The world of one push: the plans, the policies created for plan rules, and
the reports written and made permanent. -/
structure PushWorld where
  /-- The stored plans. -/
  store : PlanStore
  /-- The policies on the controller, by the rule each was created for. -/
  created : List (ℕ × ℤ) := []
  /-- Reports that are written and not committed. -/
  drafts : List Report := []
  /-- Reports that are permanent. -/
  reports : List Report := []

/-- What an operation does beside the store. A creation or a commit that
raises may still have happened. -/
def remoteEffect (world : PushWorld) :
    (op : PushOp) → Except PyException (PushAns op) → PushWorld → Prop
  | .createPolicy planRuleId _,.ok sdwanRuleId,next =>
    next.created=world.created++[(planRuleId,sdwanRuleId)] ∧ next.drafts=world.drafts ∧
      next.reports=world.reports
  | .createPolicy planRuleId _,.error _,next =>
    (next.created=world.created ∨
      ∃ sdwanRuleId,next.created=world.created++[(planRuleId,sdwanRuleId)]) ∧
      next.drafts=world.drafts ∧ next.reports=world.reports
  | .saveReport report,.ok _,next => next.created=world.created ∧
      next.drafts=world.drafts++[report] ∧ next.reports=world.reports
  | .commitReports,.ok _,next => next.created=world.created ∧ next.drafts=[] ∧
      next.reports=world.reports++world.drafts
  | .commitReports,.error _,next => next.created=world.created ∧ next.drafts=[] ∧
      (next.reports=world.reports ∨ next.reports=world.reports++world.drafts)
  | _,_,next => next.created=world.created ∧ next.drafts=world.drafts ∧
      next.reports=world.reports

/-- Any operation may raise, and plans may expire before it. -/
def pushHandles (world : PushWorld) (op : PushOp) (answer : Except PyException (PushAns op))
    (next : PushWorld) : Prop :=
  (∃ store,Evicts world.store store ∧ storeHandles store op answer next.store) ∧
    remoteEffect world op answer next

/-- While the plan is in the cache it holds every outcome recorded so far. -/
structure StoreAccounts (planId : ℕ) (history : List PushEvent) (store : PlanStore) : Prop where
  /-- Plans and rules stand under their own numbers. -/
  wf : StoreWf store
  /-- Outcomes that were recorded are in the plan. -/
  recorded : ∀ entry,store.get? planId=some entry → ∀ rule∈recordings history,
    entry.rules.get? rule.id=some rule
  /-- Rules that were listed are in the plan. -/
  listed : ∀ entry,store.get? planId=some entry → ∀ ruleId∈listedIds history,
    entry.rules.contains ruleId=true
  /-- An outcome is refused only where the plan has gone. -/
  failed : history.any recordFails=true → store.get? planId=none

/-- Every policy on the controller was asked for, and a report that is
permanent is there. -/
structure RemoteAccounts (history : List PushEvent) (world : PushWorld) : Prop where
  /-- Every policy on the controller was asked for. -/
  created : ∀ entry∈world.created,(entry.1,.ok entry.2)∈creations history ∨
    ∃ error,(entry.1,.error error)∈creations history
  /-- A report that was just written is there as a draft. -/
  written : justWritten history=true → world.drafts≠[]
  /-- A report that was committed is there. -/
  permanent : history.any commitsReport=true → world.reports≠[]

/-- Operations whose errors a push keeps as outcomes. -/
def Creates : PushOp → Prop
  | .createPolicy _ _ => True
  | _ => False

section Errors

/-- An error of the work with a client is raised once the client is released. -/
theorem withGateway_strict {α : Type} {body : Push α} (profileId : ℕ) (vpcId : String)
    (h : body.Strict Creates fun _ => False) :
    (withGateway profileId vpcId body).Strict Creates (·=.release) :=
  Async.strict_bind (Async.strict_call _) fun _ => Async.strict_attempt_close rfl h

theorem createRule_strict (targetId : String) (parentType : DeviceObjectType)
    (priority : SdwanRulePriority) (rule : StoredPlanRule) :
    (createRule targetId parentType priority rule).Strict Creates fun _ => False := by
  unfold createRule
  split
  · exact trivial
  · refine Async.strict_bind (Async.strict_attempt_call trivial) fun answer => ?_
    cases answer with
    | ok sdwanRuleId => exact trivial
    | error error => exact trivial

theorem pushRules_strict (targetId : String) (planRules : List StoredPlanRule)
    (priority : SdwanRulePriority) :
    (pushRules targetId planRules priority).Strict Creates fun _ => False := by
  refine Async.strict_bind (Async.strict_call _) fun target => ?_
  cases target with
  | none => exact trivial
  | some target =>
    refine Async.strict_foldlM (fun results rule => ?_) []
    exact Async.strict_bind (createRule_strict targetId target.type priority rule) fun _ => trivial

theorem recordResults_strict (planRules : List StoredPlanRule) (results : List PushRuleResult) :
    (recordResults planRules results).Strict Creates fun _ => False := by
  refine Async.strict_foldlM (fun _ result => ?_) ()
  split
  · exact trivial
  · exact Async.strict_bind (Async.strict_call _) fun _ => trivial

theorem commitCspChanges_strict : commitCspChanges.Strict Creates fun _ => False :=
  Async.strict_bind (Async.strict_call _) fun _ => Async.strict_call _

theorem saveReport_strict [PyUnicode] (scope : MappingScopeData) (commitId : ℤ)
    (planRules : List StoredPlanRule) :
    (saveReport scope commitId planRules).Strict Creates (·=.release) := by
  refine Async.strict_bind (Async.strict_call _) fun vpcs => ?_
  split
  · exact trivial
  refine Async.strict_bind (withGateway_strict _ _ ?_) fun found => ?_
  · refine Async.strict_bind (Async.strict_call _) fun target => ?_
    cases target with
    | none => exact trivial
    | some target => exact Async.strict_bind (Async.strict_call _) fun _ => trivial
  · obtain ⟨target,catalog⟩ := found
    dsimp only
    split
    · exact trivial
    · exact Async.strict_bind (Async.strict_call _) fun _ =>
        Async.strict_bind (Async.strict_call _) fun _ => trivial

theorem pushWithGateway_strict [PyUnicode] (hashFunc : String → String) (plan : ExecutePlan)
    (planRules : List StoredPlanRule) (scope : MappingScopeData) :
    (pushWithGateway hashFunc plan planRules scope).Strict Creates fun _ => False := by
  refine Async.strict_bind (Async.strict_call _) fun catalog => ?_
  split
  · exact trivial
  refine Async.strict_bind (Async.strict_call _) fun _ => ?_
  refine Async.strict_bind (pushRules_strict _ _ _) fun results => ?_
  refine Async.strict_bind (recordResults_strict _ _) fun _ => ?_
  have hcommit : ∀ rules : List (PolicyResponse String),(do
      let commitInfo ← commitCspChanges
      return (⟨rules,results,commitInfo⟩ : PushResult) : Push PushResult).Strict Creates
        fun _ => False :=
    fun rules => Async.strict_bind commitCspChanges_strict fun _ => trivial
  dsimp only
  split
  · exact hcommit []
  · exact Async.strict_bind (Async.strict_call _) hcommit

/-- An operation that raises ends the push, unless it was to create a policy. -/
theorem pushExecutePlanRules_strict [PyUnicode] (hashFunc : String → String) (planId : ℕ) :
    (pushExecutePlanRules hashFunc planId).Strict Creates (·=.release) := by
  refine Async.strict_bind (Async.strict_call _) fun plan => ?_
  cases plan with
  | none => exact trivial
  | some plan =>
    dsimp only
    split
    · exact trivial
    refine Async.strict_bind (Async.strict_call _) fun planRules => ?_
    split
    · exact trivial
    refine Async.strict_bind (Async.strict_call _) fun scope => ?_
    split
    · exact trivial
    refine Async.strict_bind (withGateway_strict _ _ (pushWithGateway_strict _ _ _ _)) fun result =>
      Async.strict_bind (Async.strict_call _) fun allPlanRules =>
        Async.strict_bind (saveReport_strict _ _ _) fun _ => trivial

end Errors

section Accounts

variable {planId : ℕ} {history : List PushEvent} {store : PlanStore} {world after : PushWorld}

/-- Expired plans hold nothing, all others what they held. -/
theorem StoreAccounts.evicts {next : PlanStore} (h : StoreAccounts planId history store)
    (he : Evicts store next) : StoreAccounts planId history next := by
  have hback : ∀ entry,next.get? planId=some entry → store.get? planId=some entry := by
    intro entry hentry
    rcases he planId with hsame|hnone
    · rwa [←hsame]
    · rw [hnone] at hentry
      cases hentry
  refine ⟨he.wf h.wf,fun entry hentry => h.recorded entry (hback entry hentry),
    fun entry hentry => h.listed entry (hback entry hentry),fun hf => ?_⟩
  rcases he planId with hsame|hnone
  · rw [hsame]
    exact h.failed hf
  · exact hnone

/-- Operations that neither list nor record leave the account of the store. -/
theorem StoreAccounts.keep (h : StoreAccounts planId history store) {event : PushEvent}
    (hr : recording event=none) (hl : ExecutePush.listed event=[])
    (hf : recordFails event=false) : StoreAccounts planId (history++[event]) store := by
  refine ⟨h.wf,?_,?_,?_⟩
  · rw [recordings_append,hr,Option.toList_none,List.append_nil]
    exact h.recorded
  · rw [listedIds_append,hl,List.append_nil]
    exact h.listed
  · rw [List.any_append]
    simpa [hf] using h.failed

theorem StoreAccounts.listPlanRules (h : StoreAccounts planId history store)
    (matchStatus : Option RuleMatchStatus) (pushStatuses : Option (List RulePushStatus)) :
    StoreAccounts planId (history++[⟨.listPlanRules planId matchStatus pushStatuses,
      .ok (ExecuteRepository.listPlanRules store planId matchStatus pushStatuses)⟩]) store := by
  refine ⟨h.wf,?_,?_,?_⟩
  · rw [recordings_append]
    simpa [recording] using h.recorded
  · intro entry he ruleId hm
    rw [listedIds_append,List.mem_append] at hm
    rcases hm with hm|hm
    · exact h.listed entry he ruleId hm
    · rw [ExecutePush.listed] at hm
      obtain ⟨rule,hr,rfl⟩ := List.mem_map.mp hm
      obtain ⟨-,-,entry',he',hget⟩ := mem_listPlanRules (h.wf planId) hr
      rw [he] at he'
      cases he'
      rw [Dict.contains,hget]
      rfl
  · rw [List.any_append]
    simpa [recordFails] using h.failed

/-- Marking the plan keeps its rules. -/
theorem StoreAccounts.updatePlan {next : PlanStore} {plan marked : ExecutePlan}
    (h : StoreAccounts planId history store) (hid : plan.id=planId)
    (hupdate : ExecuteRepository.updatePlan store plan=.ok (next,marked)) :
    StoreAccounts planId history next := by
  obtain ⟨old,hold,hnext,-⟩ := updatePlan_eq_ok.mp hupdate
  rw [hid] at hold hnext
  have hentry : ∀ entry,next.get? planId=some entry → entry.rules=old.rules := by
    intro entry he
    rw [hnext,Dict.get?_insert_self] at he
    cases he
    rfl
  refine ⟨updatePlan_wf h.wf hupdate,?_,?_,?_⟩
  · intro entry he
    rw [hentry entry he]
    exact h.recorded old hold
  · intro entry he
    rw [hentry entry he]
    exact h.listed old hold
  · intro hf
    rw [h.failed hf] at hold
    cases hold

/-- A recorded rule replaces its old self only. -/
theorem StoreAccounts.updatePlanRule {next : PlanStore} {rule result : StoredPlanRule}
    (h : StoreAccounts planId history store) (hplan : rule.executePlanId=planId)
    (hnew : rule.id∉(recordings history).map (·.id))
    (hupdate : ExecuteRepository.updatePlanRule store rule=.ok (next,result)) :
    StoreAccounts planId (history++[⟨.updatePlanRule rule,.ok result⟩]) next := by
  obtain ⟨old,hold,-,hnext,-⟩ := updatePlanRule_eq_ok.mp hupdate
  rw [hplan] at hold hnext
  have hentry : ∀ entry,next.get? planId=some entry →
      entry.rules=old.rules.insert rule.id rule := by
    intro entry he
    rw [hnext,Dict.get?_insert_self] at he
    cases he
    rfl
  refine ⟨updatePlanRule_wf h.wf hupdate,?_,?_,?_⟩
  · intro entry he other ho
    rw [hentry entry he]
    rw [recordings_append,List.mem_append] at ho
    rcases ho with ho|ho
    · have hne : other.id≠rule.id := by
        intro heq
        exact hnew (heq▸List.mem_map_of_mem ho)
      rw [Dict.get?_insert_of_ne _ hne]
      exact h.recorded old hold other ho
    · rw [recording,Option.toList_some,List.mem_singleton] at ho
      rw [ho,Dict.get?_insert_self]
  · intro entry he ruleId hm
    rw [listedIds_append,List.mem_append] at hm
    have hm' : ruleId∈listedIds history := by
      rcases hm with hm|hm
      · exact hm
      · cases hm
    rw [hentry entry he,Dict.contains,Dict.get?_insert]
    split
    · rfl
    · exact h.listed old hold ruleId hm'
  · intro hf
    have hf' : history.any recordFails=true := by
      rw [List.any_append] at hf
      simpa [recordFails] using hf
    rw [h.failed hf'] at hold
    cases hold

/-- Recording fails only where the plan has expired. -/
theorem StoreAccounts.updatePlanRule_error {rule : StoredPlanRule} {error : PyException}
    (h : StoreAccounts planId history store) (hplan : rule.executePlanId=planId)
    (hlisted : rule.id∈listedIds history)
    (hupdate : ExecuteRepository.updatePlanRule store rule=.error error) :
    StoreAccounts planId (history++[⟨.updatePlanRule rule,.error error⟩]) store := by
  have hnone : store.get? planId=none := by
    cases hget : store.get? planId with
    | none => rfl
    | some entry =>
      rw [ExecuteRepository.updatePlanRule,hplan,hget] at hupdate
      dsimp only at hupdate
      rw [if_pos (h.listed entry hget rule.id hlisted)] at hupdate
      cases hupdate
  have habsurd : ∀ {entry : ExecutePlanCacheEntry} {p : Prop},
      store.get? planId=some entry → p := by
    intro entry p he
    rw [hnone] at he
    cases he
  exact ⟨h.wf,fun entry he => habsurd he,fun entry he => habsurd he,fun _ => hnone⟩

/-- Every operation of a push keeps the account of the store. -/
theorem StoreAccounts.step {op : PushOp} {answer : Except PyException (PushAns op)}
    {next : PlanStore} (h : StoreAccounts planId history store)
    (hspec : PushSpec planId history op) (hhandles : storeHandles store op answer next) :
    StoreAccounts planId (history++[⟨op,answer⟩]) next := by
  cases op with
  | getPlan id =>
    obtain ⟨rfl,rfl⟩ := hhandles
    exact h.keep rfl rfl rfl
  | listPlanRules id matchStatus pushStatuses =>
    obtain ⟨rfl,rfl⟩ := hhandles
    cases hspec
    exact h.listPlanRules matchStatus pushStatuses
  | updatePlan plan =>
    rcases storeHandles_updatePlan hhandles with ⟨marked,rfl,hupdate⟩|⟨error,rfl,-,rfl⟩
    · exact (h.updatePlan hspec.1 hupdate).keep rfl rfl rfl
    · exact h.keep rfl rfl rfl
  | updatePlanRule rule =>
    obtain ⟨-,hplan,-,-,hnew,hlisted⟩ := hspec
    rcases storeHandles_updatePlanRule hhandles with ⟨result,rfl,hupdate⟩|⟨error,rfl,hupdate,rfl⟩
    · exact h.updatePlanRule hplan hnew hupdate
    · exact h.updatePlanRule_error hplan hlisted hupdate
  | _ =>
    cases hhandles
    exact h.keep rfl rfl rfl

/-- Operations without effect on the controller leave its account. -/
theorem RemoteAccounts.keep (h : RemoteAccounts history world) {event : PushEvent}
    (hs : savesReport event=false) (hc : commitsReport event=false)
    (hcreated : after.created=world.created) (hreports : after.reports=world.reports) :
    RemoteAccounts (history++[event]) after := by
  refine ⟨?_,?_,?_⟩
  · rw [hcreated]
    intro entry he
    rw [creations_append]
    rcases h.created entry he with hok|⟨error,herror⟩
    · exact Or.inl (List.mem_append_left _ hok)
    · exact Or.inr ⟨error,List.mem_append_left _ herror⟩
  · rw [justWritten_append,hs]
    exact fun hfalse => by cases hfalse
  · rw [hreports,List.any_append]
    simpa [hc] using h.permanent

/-- Every operation of a push keeps the account of the controller. -/
theorem RemoteAccounts.step {op : PushOp} {answer : Except PyException (PushAns op)}
    (h : RemoteAccounts history world) (hspec : PushSpec planId history op)
    (heffect : remoteEffect world op answer after) :
    RemoteAccounts (history++[⟨op,answer⟩]) after := by
  cases op with
  | createPolicy planRuleId request =>
    have hcreations : creations (history++[⟨.createPolicy planRuleId request,answer⟩])=
        creations history++[(planRuleId,answer)] := creations_append _
    have hlast : (planRuleId,answer)∈
        creations (history++[⟨.createPolicy planRuleId request,answer⟩]) := by
      rw [hcreations]
      exact List.mem_append_right _ List.mem_cons_self
    have hold : ∀ entry∈world.created,
        (entry.1,.ok entry.2)∈creations (history++[⟨.createPolicy planRuleId request,answer⟩]) ∨
        ∃ error,(entry.1,.error error)∈
          creations (history++[⟨.createPolicy planRuleId request,answer⟩]) := by
      intro entry he
      rw [hcreations]
      rcases h.created entry he with hok|⟨error,herror⟩
      · exact Or.inl (List.mem_append_left _ hok)
      · exact Or.inr ⟨error,List.mem_append_left _ herror⟩
    have hreports : after.reports=world.reports := by
      cases answer with
      | ok sdwanRuleId => exact heffect.2.2
      | error error => exact heffect.2.2
    refine ⟨?_,?_,?_⟩
    · intro entry he
      cases answer with
      | ok sdwanRuleId =>
        rw [heffect.1,List.mem_append,List.mem_singleton] at he
        rcases he with he|rfl
        · exact hold entry he
        · exact Or.inl hlast
      | error error =>
        rcases heffect.1 with hsame|⟨sdwanRuleId,hnew⟩
        · exact hold entry (hsame▸he)
        · rw [hnew,List.mem_append,List.mem_singleton] at he
          rcases he with he|rfl
          · exact hold entry he
          · exact Or.inr ⟨error,hlast⟩
    · rw [justWritten_append]
      exact fun hfalse => by cases hfalse
    · rw [hreports,List.any_append]
      simpa [commitsReport] using h.permanent
  | saveReport report =>
    cases answer with
    | error error => exact h.keep rfl rfl heffect.1 heffect.2.2
    | ok _ =>
      obtain ⟨hcreated,hdrafts,hreports⟩ := heffect
      refine ⟨?_,fun _ => ?_,?_⟩
      · rw [hcreated,creations_append]
        simpa [creation] using h.created
      · rw [hdrafts]
        exact List.append_ne_nil_of_right_ne_nil _ (List.cons_ne_nil _ _)
      · rw [hreports,List.any_append]
        simpa [commitsReport] using h.permanent
  | commitReports =>
    have hnotWritten : justWritten (history++[⟨.commitReports,answer⟩])=true →
        after.drafts≠[] := by
      rw [justWritten_append]
      exact fun hfalse => by cases hfalse
    have hcreated : after.created=world.created := by
      cases answer with
      | ok _ => exact heffect.1
      | error _ => exact heffect.1
    have hcreations : ∀ entry∈after.created,
        (entry.1,.ok entry.2)∈creations (history++[⟨.commitReports,answer⟩]) ∨
        ∃ error,(entry.1,.error error)∈creations (history++[⟨.commitReports,answer⟩]) := by
      rw [hcreated,creations_append]
      simpa [creation] using h.created
    refine ⟨hcreations,hnotWritten,?_⟩
    cases answer with
    | ok _ =>
      intro _
      rw [heffect.2.2]
      exact List.append_ne_nil_of_right_ne_nil _ (h.written hspec)
    | error error =>
      rw [List.any_append]
      intro hpermanent
      have hreports := h.permanent (by simpa [commitsReport] using hpermanent)
      rcases heffect.2.2 with hsame|hnew
      · rwa [hsame]
      · rw [hnew]
        exact List.append_ne_nil_of_left_ne_nil hreports _
  | _ => exact h.keep rfl rfl heffect.1 heffect.2.2

/-- Whatever fails during a push: every policy was created by a call that was
answered with its number or raised. While the plan stays in the cache, the rule
of a call that was answered is recorded as succeeded under that number, the rule
of one that raised as failed with its error, and a push that returns has saved
its report. What was recorded stays, and any other operation that raises ends
the push with its error once the client is released. -/
theorem push_accounts [PyUnicode] (hashFunc : String → String) {store : PlanStore}
    (hw : StoreWf store) {events : List PushEvent} {result : Except PyException PushResult}
    (hrun : Async.Runs pushHandles ⟨store,[],[],[]⟩ (pushExecutePlanRules hashFunc planId) events
      world result) :
    (∀ ruleId sdwanRuleId,(ruleId,sdwanRuleId)∈world.created →
      (ruleId,.ok sdwanRuleId)∈creations events ∨
      ∃ error,(ruleId,.error error)∈creations events) ∧
    (∀ entry,world.store.get? planId=some entry → ∀ created∈creations events,
      ∃ rule,entry.rules.get? created.1=some rule ∧ OutcomeOf created.2 rule) ∧
    ((∃ value,result=.ok value) → world.reports≠[]) ∧
    (∀ entry,world.store.get? planId=some entry → ∀ rule∈recordings events,
      entry.rules.get? rule.id=some rule) ∧
    ∀ before op error after,events=before++⟨op,.error error⟩::after → ¬Creates op →
      after=[] ∧ result=.error error ∨
      ∃ answer,after=[⟨.release,answer⟩] ∧ result=.error (Async.lastError error answer) := by
  have hstart : StoreAccounts planId [] store ∧
      RemoteAccounts [] (⟨store,[],[],[]⟩ : PushWorld) := by
    refine ⟨⟨hw,by simp [recordings],by simp [listedIds],by simp⟩,?_⟩
    exact ⟨by simp,by simp [justWritten],by simp⟩
  have hend := hrun.inv (pushExecutePlanRules_sound hashFunc planId)
    (I:=fun history world => StoreAccounts planId history world.store ∧
      RemoteAccounts history world) hstart (by
    intro history op answer world next haccounts hspec hanswers
    obtain ⟨hstore,hremote⟩ := haccounts
    obtain ⟨⟨kept,hevicts,hhandles⟩,heffect⟩ := hanswers
    have hkept := hstore.evicts hevicts
    exact ⟨answerOk_of_storeHandles (hkept.wf planId) _ hspec hhandles,
      hkept.step hspec hhandles,hremote.step hspec heffect⟩)
  rw [List.nil_append] at hend
  obtain ⟨⟨hstore,hremote⟩,hsettled,hreport⟩ := hend
  refine ⟨fun _ _ hcreated => hremote.created _ hcreated,fun entry he created hc => ?_,
    fun hok => hremote.permanent (hreport hok),hstore.recorded,?_⟩
  · rcases hsettled with hfail|hall
    · rw [hstore.failed hfail] at he
      cases he
    · obtain ⟨rule,hrule,hid,hout⟩ := hall created hc
      exact ⟨rule,hid▸hstore.recorded entry he rule hrule,hout⟩
  · intro before op error after hsplit hop
    rcases hrun.ends_of_strict (pushExecutePlanRules_strict hashFunc planId) hsplit hop with
      hlast|⟨_,answer,rfl,hlast⟩
    · exact Or.inl hlast
    · exact Or.inr ⟨answer,hlast⟩

end Accounts

/-- A controller with fixed answers, on which what raises has not happened. -/
def worldOracle (remote : (op : PushOp) → Except PyException (PushAns op)) (world : PushWorld)
    (op : PushOp) : Except PyException (PushAns op) × PushWorld :=
  let outcome := storeOracle remote world.store op
  (outcome.1,{ effect op outcome.1 with store := outcome.2 })
where
  /-- What an operation does beside the store. -/
  effect : (op : PushOp) → Except PyException (PushAns op) → PushWorld
    | .createPolicy planRuleId _,.ok sdwanRuleId =>
      { world with created := world.created++[(planRuleId,sdwanRuleId)] }
    | .saveReport report,.ok _ => { world with drafts := world.drafts++[report] }
    | .commitReports,.ok _ =>
      { world with drafts := [], reports := world.reports++world.drafts }
    | .commitReports,.error _ => { world with drafts := [] }
    | _,_ => world

theorem pushHandles_worldOracle (remote : (op : PushOp) → Except PyException (PushAns op))
    (world : PushWorld) (op : PushOp) :
    pushHandles world op (worldOracle remote world op).1 (worldOracle remote world op).2 := by
  refine ⟨⟨world.store,fun _ => Or.inl rfl,storeHandles_storeOracle remote world.store op⟩,?_⟩
  unfold worldOracle
  dsimp only
  generalize storeOracle remote world.store op=outcome
  obtain ⟨answer,store⟩ := outcome
  cases op with
  | createPolicy planRuleId request =>
    cases answer with
    | ok sdwanRuleId => exact ⟨rfl,rfl,rfl⟩
    | error error => exact ⟨Or.inl rfl,rfl,rfl⟩
  | saveReport report =>
    cases answer with
    | ok _ => exact ⟨rfl,rfl,rfl⟩
    | error error => exact ⟨rfl,rfl,rfl⟩
  | commitReports =>
    cases answer with
    | ok _ => exact ⟨rfl,rfl,rfl⟩
    | error error => exact ⟨rfl,rfl,Or.inl rfl⟩
  | _ => exact ⟨rfl,rfl,rfl⟩

/-- The push of plan 1, with the given answers of the controller. -/
def sitePush (remote : (op : PushOp) → Except PyException (PushAns op)) :
    List PushEvent × PushWorld × Except PyException PushResult :=
  (@pushExecutePlanRules asciiUnicode id 1).exec (worldOracle remote) ⟨siteStore,[],[],[]⟩

theorem runs_sitePush (remote : (op : PushOp) → Except PyException (PushAns op)) :
    Async.Runs pushHandles ⟨siteStore,[],[],[]⟩ (@pushExecutePlanRules asciiUnicode id 1)
      (sitePush remote).1 (sitePush remote).2.1 (sitePush remote).2.2 :=
  Async.runs_exec (pushHandles_worldOracle remote) _ _

/-- A controller that refuses to commit. -/
def refusingAnswers : (op : PushOp) → Except PyException (PushAns op)
  | .commitFullState => .error ⟨"SDWANCspHttpResponseError","commit failed"⟩
  | op => siteAnswers op

/-- Whether an operation is a commit that raises. -/
def commitFails : PushEvent → Bool
  | ⟨.commitFullState,.error _⟩ => true
  | _ => false

/-- Where everything succeeds, the policy is recorded and the report is saved. Where
the commit fails, the outcome stays recorded and the push raises. -/
theorem push_accounts_sitePush : ((sitePush siteAnswers).2.1.created=[(7,901)] ∧
    (sitePush siteAnswers).2.1.reports≠[] ∧
    ∀ entry,(sitePush siteAnswers).2.1.store.get? 1=some entry →
      ∃ rule,entry.rules.get? 7=some rule ∧ rule.pushStatus=.succeeded ∧
        rule.pushedSdwanRuleId=some 901) ∧
    (sitePush refusingAnswers).2.1.created=[(7,901)] ∧
    (∃ error,(sitePush refusingAnswers).2.2=.error error) ∧
    ∀ entry,(sitePush refusingAnswers).2.1.store.get? 1=some entry →
      ∀ rule∈recordings (sitePush refusingAnswers).1,entry.rules.get? rule.id=some rule := by
  have hcreated : (sitePush siteAnswers).2.1.created=[(7,901)] := by decide +kernel
  have hok : ∃ value,(sitePush siteAnswers).2.2=.ok value := by
    have hisOk : (sitePush siteAnswers).2.2.isOk=true := by decide +kernel
    cases h : (sitePush siteAnswers).2.2 with
    | ok value => exact ⟨value,rfl⟩
    | error error =>
      rw [h] at hisOk
      cases hisOk
  obtain ⟨-,hrecorded,hreport,-,-⟩ :=
    @push_accounts 1 _ asciiUnicode id _ storeWf_siteStore _ _ (runs_sitePush siteAnswers)
  obtain ⟨-,-,-,hkept,hends⟩ :=
    @push_accounts 1 _ asciiUnicode id _ storeWf_siteStore _ _ (runs_sitePush refusingAnswers)
  refine ⟨⟨hcreated,hreport hok,fun entry he => ?_⟩,by decide +kernel,?_,hkept⟩
  · have hanswered : (7,.ok 901)∈creations (sitePush siteAnswers).1 := by decide +kernel
    exact hrecorded entry he (7,.ok 901) hanswered
  · have hany : (sitePush refusingAnswers).1.any commitFails=true := by decide +kernel
    obtain ⟨⟨op,answer⟩,hin,hfails⟩ := List.any_eq_true.mp hany
    unfold commitFails at hfails
    split at hfails
    next error heq =>
      cases heq
      obtain ⟨before,after,hsplit⟩ := List.append_of_mem hin
      rcases hends before _ error after hsplit id with ⟨-,hresult⟩|⟨_,-,hresult⟩
      · exact ⟨_,hresult⟩
      · exact ⟨_,hresult⟩
    next => cases hfails

/-- A controller whose answer to a creation is lost on the way. -/
def losingOracle (world : PushWorld) (op : PushOp) :
    Except PyException (PushAns op) × PushWorld :=
  match op with
  | .createPolicy planRuleId _ => (.error ⟨"SDWANCspHttpConnectionError","connection lost"⟩,
      { world with created := world.created++[(planRuleId,901)] })
  | op => worldOracle siteAnswers world op

theorem pushHandles_losingOracle (world : PushWorld) (op : PushOp) :
    pushHandles world op (losingOracle world op).1 (losingOracle world op).2 := by
  cases op with
  | createPolicy planRuleId request =>
    exact ⟨⟨world.store,fun _ => Or.inl rfl,rfl⟩,Or.inr ⟨901,rfl⟩,rfl,rfl⟩
  | _ => exact pushHandles_worldOracle siteAnswers world _

/-- A cache whose plans expire before an outcome is recorded. -/
def expiringOracle (world : PushWorld) (op : PushOp) :
    Except PyException (PushAns op) × PushWorld :=
  match op with
  | .updatePlanRule rule =>
    worldOracle siteAnswers { world with store := Dict.empty } (.updatePlanRule rule)
  | op => worldOracle siteAnswers world op

theorem pushHandles_expiringOracle (world : PushWorld) (op : PushOp) :
    pushHandles world op (expiringOracle world op).1 (expiringOracle world op).2 := by
  cases op with
  | updatePlanRule rule =>
    obtain ⟨⟨store,hevicts,hstore⟩,heffect⟩ := pushHandles_worldOracle siteAnswers
      { world with store := Dict.empty } (.updatePlanRule rule)
    refine ⟨⟨store,fun planId => Or.inr ?_,hstore⟩,heffect⟩
    rcases hevicts planId with hsame|hnone
    · exact hsame
    · exact hnone
  | _ => exact pushHandles_worldOracle siteAnswers world _

/-- What plan 1 records of the push of rule 7. -/
def recordedStatus (store : PlanStore) : Option RulePushStatus :=
  ((store.get? 1).bind fun entry => entry.rules.get? 7).map (·.pushStatus)

/-- A created policy may be left without a report where the commit fails, recorded
as failed where its creation raises, and not recorded at all where the plan expires. -/
theorem created_unaccounted :
    (∃ events world result,Async.Runs pushHandles ⟨siteStore,[],[],[]⟩
      (@pushExecutePlanRules asciiUnicode id 1) events world result ∧
      world.created=[(7,901)] ∧ world.reports=[]) ∧
    (∃ events world result,Async.Runs pushHandles ⟨siteStore,[],[],[]⟩
      (@pushExecutePlanRules asciiUnicode id 1) events world result ∧
      world.created=[(7,901)] ∧ recordedStatus world.store=some .failed) ∧
    ∃ events world result,Async.Runs pushHandles ⟨siteStore,[],[],[]⟩
      (@pushExecutePlanRules asciiUnicode id 1) events world result ∧
      world.created=[(7,901)] ∧ recordedStatus world.store=none := by
  refine ⟨⟨_,_,_,runs_sitePush refusingAnswers,?_,?_⟩,
    ⟨_,_,_,Async.runs_exec pushHandles_losingOracle _ _,?_,?_⟩,
    ⟨_,_,_,Async.runs_exec pushHandles_expiringOracle _ _,?_,?_⟩⟩
  all_goals decide +kernel

end NspMigrator.ExecutePushAccounting
