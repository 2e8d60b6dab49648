import Mathlib
import NspMigrator.ExecutePushAccounting
import NspMigrator.MappingReader
import NspMigrator.MappingUseCases

/-!
# Outcomes of a push

A push that returns has tried to create each new and pending rule of its plan
once, in priority order, and has recorded what came of it. All other rules are
as they were, and the report has one row for every rule of the plan.
-/

namespace NspMigrator.ExecutePushOutcomes

open PyAsync PyDict PyText SdwanModels
open ExecuteRulesComparer ExecutePlan ExecuteRepository ReportRules ExecutePush ExecutePushSpec
open ExecutePushAccounting MappingReader MappingUseCases

/-- Whether a push is to create a rule. -/
def ToPush (rule : StoredPlanRule) : Prop := rule.matchStatus=.new ∧ rule.pushStatus=.pending

instance : DecidablePred ToPush := fun _ => inferInstanceAs (Decidable (_ ∧ _))

/-- The rules of a plan a push is to create, in the order of creation. -/
def pushOrder (entry : ExecutePlanCacheEntry) : List StoredPlanRule :=
  (entry.rules.values.filter fun rule => decide (ToPush rule)).insertionSort
    fun a b => a.priority≤b.priority

/-- A rule a push was to create, recorded with what its own creation answered.
Where the block does not fit the target no creation is asked for. -/
def Recorded (fits : Prop) (created : List (ℕ × Except PyException ℤ))
    (before after : StoredPlanRule) : Prop :=
  (∃ sdwanRuleId,(before.id,.ok sdwanRuleId)∈created ∧
    after=before.markPushSucceeded sdwanRuleId) ∨
  ∃ text,text≠"" ∧ after=before.markPushFailed text ∧
    ((∃ error,(before.id,.error error)∈created) ∨ ¬fits)

/-- A rule of a plan after a push. -/
def RuleOutcome (fits : Prop) (created : List (ℕ × Except PyException ℤ))
    (before after : StoredPlanRule) : Prop :=
  if ToPush before then Recorded fits created before after else after=before

/-- The rules a result of a report stands for. -/
def RowMatches (rule : StoredPlanRule) : ReportRuleMigrationResult → Prop
  | .pushed => rule.matchStatus=.new ∧ rule.pushStatus=.succeeded
  | .failed => rule.matchStatus=.new ∧ rule.pushStatus=.failed
  | .matched => rule.matchStatus=.exactMatch
  | .covered => rule.matchStatus=.coveredMatch
  | .error => rule.matchStatus=.matchError

/-- Operations that change neither plans nor reports. -/
def Reads : PushOp → Prop
  | .updatePlan _ | .updatePlanRule _ | .saveReport _ | .commitReports => False
  | _ => True

/-- While the plan is in the cache its rules are the given ones, and nothing
has been reported yet. -/
structure Quiet (planId : ℕ) (rules : Dict ℕ StoredPlanRule) (world : PushWorld) : Prop where
  /-- The rules of the plan are as they were. -/
  rules_eq : ∀ entry,world.store.get? planId=some entry → entry.rules=rules
  /-- No report is written. -/
  drafts : world.drafts=[]
  /-- None is permanent. -/
  reports : world.reports=[]

section Steps

variable {planId : ℕ} {rules : Dict ℕ StoredPlanRule} {world next : PushWorld}

/-- Expired plans keep no rules, others the ones they have. -/
theorem Quiet.evicts {store : PlanStore} (h : Quiet planId rules world)
    (he : Evicts world.store store) (entry : ExecutePlanCacheEntry)
    (hentry : store.get? planId=some entry) : entry.rules=rules := by
  rcases he planId with hsame|hnone
  · exact h.rules_eq entry (hsame▸hentry)
  · rw [hnone] at hentry
    cases hentry

/-- Reading keeps everything quiet. -/
theorem Quiet.reads (h : Quiet planId rules world) {op : PushOp}
    {answer : Except PyException (PushAns op)} (hstep : pushHandles world op answer next)
    (hop : Reads op) : Quiet planId rules next := by
  obtain ⟨⟨store,hevicts,hstore⟩,heffect⟩ := hstep
  have hsame : next.store=store := by
    cases op with
    | getPlan _ | listPlanRules _ _ _ => exact hstore.2
    | updatePlan _ | updatePlanRule _ | saveReport _ | commitReports => exact hop.elim
    | _ => exact hstore
  have hreports : next.drafts=world.drafts ∧ next.reports=world.reports := by
    cases op with
    | updatePlan _ | updatePlanRule _ | saveReport _ | commitReports => exact hop.elim
    | createPolicy _ _ =>
      cases answer with
      | ok _ => exact heffect.2
      | error _ => exact heffect.2
    | _ => exact heffect.2
  refine ⟨?_,hreports.1.trans h.drafts,hreports.2.trans h.reports⟩
  rw [hsame]
  exact h.evicts hevicts

/-- Marking the plan keeps its rules. -/
theorem Quiet.updatePlan (h : Quiet planId rules world) {plan marked : ExecutePlan}
    (hid : plan.id=planId)
    (hstep : pushHandles world (.updatePlan plan) (.ok marked) next) : Quiet planId rules next := by
  obtain ⟨⟨store,hevicts,hstore⟩,heffect⟩ := hstep
  refine ⟨?_,heffect.2.1.trans h.drafts,heffect.2.2.trans h.reports⟩
  rcases storeHandles_updatePlan hstore with ⟨other,hok,hupdate⟩|⟨error,herror,-⟩
  · obtain ⟨old,hold,hnext,-⟩ := updatePlan_eq_ok.mp hupdate
    rw [hid] at hold hnext
    intro entry hentry
    rw [hnext,Dict.get?_insert_self] at hentry
    cases hentry
    exact h.evicts hevicts old hold
  · cases herror

/-- Recording a rule replaces that rule. -/
theorem Quiet.updatePlanRule (h : Quiet planId rules world) {rule stored : StoredPlanRule}
    (hplan : rule.executePlanId=planId)
    (hstep : pushHandles world (.updatePlanRule rule) (.ok stored) next) :
    Quiet planId (rules.insert rule.id rule) next := by
  obtain ⟨⟨store,hevicts,hstore⟩,heffect⟩ := hstep
  refine ⟨?_,heffect.2.1.trans h.drafts,heffect.2.2.trans h.reports⟩
  rcases storeHandles_updatePlanRule hstore with ⟨other,hok,hupdate⟩|⟨error,herror,-⟩
  · obtain ⟨old,hold,-,hnext,-⟩ := updatePlanRule_eq_ok.mp hupdate
    rw [hplan] at hold hnext
    intro entry hentry
    rw [hnext,Dict.get?_insert_self] at hentry
    cases hentry
    rw [h.evicts hevicts old hold]
  · cases herror

/-- The rules listed of a plan that is in the cache. -/
theorem Quiet.listPlanRules (h : Quiet planId rules world)
    {matchStatus : Option RuleMatchStatus} {pushStatuses : Option (List RulePushStatus)}
    {listed : List StoredPlanRule}
    (hstep : pushHandles world (.listPlanRules planId matchStatus pushStatuses) (.ok listed) next) :
    listed=[] ∨ listed=(rules.values.filter (matchesFilters matchStatus pushStatuses)).insertionSort
      fun a b => a.priority≤b.priority := by
  obtain ⟨⟨store,hevicts,hanswer,-⟩,-⟩ := hstep
  cases hanswer
  rw [ExecuteRepository.listPlanRules]
  split
  · exact Or.inl rfl
  next entry hentry =>
  rw [h.evicts hevicts entry hentry]
  exact Or.inr rfl

end Steps

/-- What a result says of its rule: what the rule's creation answered or, where
the block does not fit, that nothing was created. -/
def ResultFor (fits : Prop) (created : List (ℕ × Except PyException ℤ)) (rule : StoredPlanRule)
    (result : PushRuleResult) : Prop :=
  result.executePlanRuleId=rule.id ∧
    ((∃ answer,(rule.id,answer)∈created ∧ ResultOf answer result) ∨
      (¬fits ∧ result.sdwanRuleId=none))

theorem ResultFor.append {fits : Prop} {created : List (ℕ × Except PyException ℤ)}
    {rule : StoredPlanRule} {result : PushRuleResult} (h : ResultFor fits created rule result)
    (later : List (ℕ × Except PyException ℤ)) : ResultFor fits (created++later) rule result := by
  obtain ⟨hid,⟨answer,hmem,hof⟩|hrefused⟩ := h
  · exact ⟨hid,Or.inl ⟨answer,List.mem_append_left _ hmem,hof⟩⟩
  · exact ⟨hid,Or.inr hrefused⟩

theorem ResultFor.prepend {fits : Prop} {created : List (ℕ × Except PyException ℤ)}
    {rule : StoredPlanRule} {result : PushRuleResult} (h : ResultFor fits created rule result)
    (earlier : List (ℕ × Except PyException ℤ)) :
    ResultFor fits (earlier++created) rule result := by
  obtain ⟨hid,⟨answer,hmem,hof⟩|hrefused⟩ := h
  · exact ⟨hid,Or.inl ⟨answer,List.mem_append_right _ hmem,hof⟩⟩
  · exact ⟨hid,Or.inr hrefused⟩

/-- The recorded error is never empty. -/
theorem pushErrorText_ne (error : Option String) : pushErrorText error≠"" := by
  unfold pushErrorText
  split
  · decide
  next h => exact h

/-- A rule recorded with its result is recorded with what its creation answered. -/
theorem ResultFor.recorded {fits : Prop} {created : List (ℕ × Except PyException ℤ)}
    {rule : StoredPlanRule} {result : PushRuleResult} (h : ResultFor fits created rule result) :
    Recorded fits created rule (recordedRule rule result) := by
  have hfailed : result.sdwanRuleId=none → ((∃ error,(rule.id,.error error)∈created) ∨ ¬fits) →
      Recorded fits created rule (recordedRule rule result) := by
    intro hnone hwhy
    rw [recordedRule,hnone]
    exact Or.inr ⟨_,pushErrorText_ne _,rfl,hwhy⟩
  obtain ⟨-,⟨answer,hmem,hof⟩|⟨hfits,hnone⟩⟩ := h
  · cases answer with
    | ok sdwanRuleId =>
      have hid : result.sdwanRuleId=some sdwanRuleId := hof
      rw [recordedRule,hid]
      exact Or.inl ⟨sdwanRuleId,hmem,rfl⟩
    | error error => exact hfailed hof.1 (Or.inl ⟨error,hmem⟩)
  · exact hfailed hnone (Or.inr hfits)

section Loops

variable {planId : ℕ} {rules : Dict ℕ StoredPlanRule} {world last : PushWorld}
  {events : List PushEvent}

/-- One rule: its policy is asked for once, or not at all where the block does not fit. -/
theorem createRule_runs {targetId : String} {parentType : DeviceObjectType}
    {priority : SdwanRulePriority} {rule : StoredPlanRule} {result : PushRuleResult}
    (h : Quiet planId rules world)
    (hrun : Async.Runs pushHandles world (createRule targetId parentType priority rule) events last
      (.ok result)) :
    Quiet planId rules last ∧
      ResultFor (PlacementAllowed parentType priority) (creations events) rule result ∧
      (creations events).map Prod.fst=
        if PlacementAllowed parentType priority then [rule.id] else [] := by
  unfold createRule createPolicyRequest at hrun
  split at hrun
  · next message hmessage =>
    have hfits : ¬PlacementAllowed parentType priority := by
      intro hallowed
      rw [dif_pos hallowed] at hmessage
      cases hmessage
    obtain ⟨rfl,rfl,hresult⟩ := Async.runs_done hrun
    cases hresult
    rw [if_neg hfits]
    exact ⟨h,⟨rfl,Or.inr ⟨hfits,rfl⟩⟩,rfl⟩
  · next request hrequest =>
    have hfits : PlacementAllowed parentType priority := by
      by_contra hnot
      rw [dif_neg hnot] at hrequest
      cases parentType <;> cases hrequest
    rw [if_pos hfits]
    obtain ⟨answer,before,mid,after,hcall,rfl,hrest⟩ := Async.returns_bind hrun
    obtain ⟨outcome,houtcome,hcall⟩ := Async.runs_attempt hcall
    cases houtcome
    cases hcall with
    | await hop hdone =>
      obtain ⟨rfl,rfl,rfl⟩ := Async.runs_done hdone
      have hquiet := h.reads hop trivial
      cases answer with
      | error error =>
        obtain ⟨rfl,rfl,hresult⟩ := Async.runs_done hrest
        cases hresult
        exact ⟨hquiet,⟨rfl,Or.inl ⟨_,List.mem_cons_self,rfl,rfl⟩⟩,rfl⟩
      | ok sdwanRuleId =>
        obtain ⟨rfl,rfl,hresult⟩ := Async.runs_done hrest
        cases hresult
        exact ⟨hquiet,⟨rfl,Or.inl ⟨_,List.mem_cons_self,rfl⟩⟩,rfl⟩

/-- Operations done one after the other create what each of them creates. -/
theorem creations_append_list (before after : List PushEvent) :
    creations (before++after)=creations before++creations after := List.filterMap_append

/-- All rules: their policies are asked for once and in order, each with its own result. -/
theorem pushRules_runs {targetId : String} {planRules : List StoredPlanRule}
    {priority : SdwanRulePriority} {results : List PushRuleResult} (h : Quiet planId rules world)
    (hrun : Async.Runs pushHandles world (pushRules targetId planRules priority) events last
      (.ok results)) :
    ∃ target : SdwanDeviceObject,⟨.getSdwanDeviceObject targetId,.ok (some target)⟩∈events ∧
      Quiet planId rules last ∧ results.map (·.executePlanRuleId)=planRules.map (·.id) ∧
      (∀ rule∈planRules,∃ result∈results,
        ResultFor (PlacementAllowed target.type priority) (creations events) rule result) ∧
      (creations events).map Prod.fst=
        if PlacementAllowed target.type priority then planRules.map (·.id) else [] := by
  obtain ⟨found,mid,after,hfound,rfl,hrest⟩ := Async.returns_call_bind hrun
  have hmid := h.reads hfound trivial
  cases found with
  | none =>
    obtain ⟨-,-,hresult⟩ := Async.runs_done hrest
    cases hresult
  | some target =>
    refine ⟨target,List.mem_cons_self,?_⟩
    have hnone : ∀ later,creations (⟨.getSdwanDeviceObject targetId,.ok (some target)⟩::later)=
        creations later := creations_cons rfl
    rw [hnone]
    refine Async.returns_foldlM (fun earlier results events world => Quiet planId rules world ∧
      results.map (·.executePlanRuleId)=earlier.map (·.id) ∧
      (∀ rule∈earlier,∃ result∈results,
        ResultFor (PlacementAllowed target.type priority) (creations events) rule result) ∧
      (creations events).map Prod.fst=
        if PlacementAllowed target.type priority then earlier.map (·.id) else []) ?_ hrest
      ⟨hmid,rfl,by simp,by split <;> rfl⟩
    intro earlier rule later results before world events next results' _
      ⟨hquiet,hids,hall,hnames⟩ hround
    obtain ⟨result,done,mid,rest,hcreate,rfl,hdone⟩ := Async.returns_bind hround
    obtain ⟨hnext,hresult,hcreated⟩ := createRule_runs hquiet hcreate
    obtain ⟨rfl,rfl,hresults⟩ := Async.runs_done hdone
    cases hresults
    rw [List.append_nil,creations_append_list]
    refine ⟨hnext,?_,?_,?_⟩
    · rw [List.map_append,List.map_append,hids,List.map_singleton,List.map_singleton,hresult.1]
    · intro other hother
      rcases List.mem_append.mp hother with hearlier|hlast
      · obtain ⟨result',hmem,hfor⟩ := hall other hearlier
        exact ⟨result',List.mem_append_left _ hmem,hfor.append _⟩
      · rw [List.mem_singleton.mp hlast]
        exact ⟨result,List.mem_append_right _ List.mem_cons_self,hresult.prepend _⟩
    · rw [List.map_append,hnames,hcreated]
      split
      · rw [List.map_append,List.map_singleton]
      · rfl

/-- Recording: every rule with a result is replaced by its recorded self, and no other. -/
theorem recordResults_runs {planRules : List StoredPlanRule} {results : List PushRuleResult}
    (h : Quiet planId rules world) (hnodup : (planRules.map (·.id)).Nodup)
    (hplan : ∀ rule∈planRules,rule.executePlanId=planId)
    (hids : (results.map (·.executePlanRuleId)).Nodup)
    (hrun : Async.Runs pushHandles world (recordResults planRules results) events last (.ok ())) :
    creations events=[] ∧ ∃ recorded,Quiet planId recorded last ∧
      (∀ rule∈planRules,∀ result∈results,result.executePlanRuleId=rule.id →
        recorded.get? rule.id=some (recordedRule rule result)) ∧
      ∀ ruleId∉results.map (·.executePlanRuleId),recorded.get? ruleId=rules.get? ruleId := by
  refine Async.returns_foldlM (fun earlier _ events world => creations events=[] ∧
    ∃ recorded,Quiet planId recorded world ∧
      (∀ rule∈planRules,∀ result∈earlier,result.executePlanRuleId=rule.id →
        recorded.get? rule.id=some (recordedRule rule result)) ∧
      ∀ ruleId∉earlier.map (·.executePlanRuleId),recorded.get? ruleId=rules.get? ruleId) ?_ hrun
    ⟨rfl,rules,h,by simp,fun _ _ => rfl⟩
  intro earlier result later _ before world events next _ hsplit
    ⟨hnone,recorded,hquiet,hdone,hrest⟩ hround
  split at hround
  · obtain ⟨-,-,hresult⟩ := Async.runs_done hround
    cases hresult
  next rule hrule =>
  obtain ⟨hmem,hid⟩ : rule∈planRules ∧ rule.id=result.executePlanRuleId := by
    obtain ⟨other,hother,heq⟩ := List.mem_map.mp (Dict.mem_of_get?_ofList hrule)
    obtain ⟨hid,rfl⟩ := Prod.mk.inj heq
    exact ⟨hother,hid⟩
  obtain ⟨stored,mid,after,hop,rfl,hend⟩ := Async.returns_call_bind hround
  obtain ⟨rfl,rfl,-⟩ := Async.runs_done hend
  obtain ⟨hrid,hrplan⟩ := recordedRule_id rule result
  refine ⟨?_,_,hquiet.updatePlanRule (hrplan.trans (hplan rule hmem)) hop,?_,?_⟩
  · rw [creations_append_list,hnone]
    rfl
  · intro other hother otherResult hresult hsame
    rw [hrid]
    rcases List.mem_append.mp hresult with hearlier|hlast
    · have hne : other.id≠rule.id := by
        intro heq
        rw [hsplit,List.map_append,List.map_cons] at hids
        refine (List.nodup_append.mp hids).2.2 _ (List.mem_map_of_mem hearlier) _
          List.mem_cons_self ?_
        rw [hsame,heq,hid]
      rw [Dict.get?_insert_of_ne _ hne]
      exact hdone other hother otherResult hearlier hsame
    · rw [List.mem_singleton.mp hlast] at hsame ⊢
      have heq : other.id=rule.id := hsame.symm.trans hid.symm
      rw [List.inj_on_of_nodup_map hnodup hother hmem heq,Dict.get?_insert_self]
  · intro ruleId hruleId
    rw [List.map_append,List.mem_append,not_or,List.map_singleton,List.mem_singleton] at hruleId
    rw [hrid,Dict.get?_insert_of_ne _ (hid▸hruleId.2)]
    exact hrest ruleId hruleId.1

/-- Committing creates nothing. -/
theorem commitCspChanges_runs {commitInfo : CommitInfo} (h : Quiet planId rules world)
    (hrun : Async.Runs pushHandles world commitCspChanges events last (.ok commitInfo)) :
    Quiet planId rules last ∧ creations events=[] := by
  obtain ⟨commitId,mid,after,hcommit,rfl,hrest⟩ := Async.returns_call_bind hrun
  have hmid := h.reads hcommit trivial
  cases hrest with
  | await hop hdone =>
    obtain ⟨rfl,rfl,-⟩ := Async.runs_done hdone
    exact ⟨hmid.reads hop trivial,rfl⟩

/-- The work of a push with its client: the rules to create are tried in order
and recorded, all others are left. -/
theorem pushWithGateway_runs [PyUnicode] {hashFunc : String → String} {plan : ExecutePlan}
    {planRules : List StoredPlanRule} {scope : MappingScopeData} {result : PushResult}
    (h : Quiet planId rules world) (hid : plan.id=planId)
    (hsorted : planRules.Pairwise fun a b => a.priority≤b.priority)
    (hnodup : (planRules.map (·.id)).Nodup) (hplan : ∀ rule∈planRules,rule.executePlanId=planId)
    (hrun : Async.Runs pushHandles world (pushWithGateway hashFunc plan planRules scope) events last
      (.ok result)) :
    ∃ target : SdwanDeviceObject,
      ⟨.getSdwanDeviceObject scope.sdwanTargetId,.ok (some target)⟩∈events ∧
      (creations events).map Prod.fst=
        (if PlacementAllowed target.type scope.rulesPriority then planRules.map (·.id) else []) ∧
      ∃ recorded,Quiet planId recorded last ∧
        (∀ rule∈planRules,∃ after,recorded.get? rule.id=some after ∧
          Recorded (PlacementAllowed target.type scope.rulesPriority) (creations events) rule
            after) ∧
        ∀ ruleId∉planRules.map (·.id),recorded.get? ruleId=rules.get? ruleId := by
  obtain ⟨catalog,world1,events1,hcatalog,rfl,hrun1⟩ := Async.returns_call_bind hrun
  have hquiet1 := h.reads hcatalog trivial
  split at hrun1
  · obtain ⟨-,-,hresult⟩ := Async.runs_done hrun1
    cases hresult
  obtain ⟨marked,world2,events2,hmark,rfl,hrun2⟩ := Async.returns_call_bind hrun1
  have hmarkedId : plan.markPushExecuted.id=planId := hid
  have hquiet2 := hquiet1.updatePlan hmarkedId hmark
  obtain ⟨results,tried,world3,events3,hpush,rfl,hrun3⟩ := Async.returns_bind hrun2
  rw [hsorted.insertionSort_eq] at hpush
  obtain ⟨target,htarget,hquiet3,hids,hresults,hcreated⟩ := pushRules_runs hquiet2 hpush
  obtain ⟨done,recording,world4,events4,hrecord,rfl,hrun4⟩ := Async.returns_bind hrun3
  obtain ⟨hnone4,recorded,hquiet4,hdone,hrest⟩ :=
    recordResults_runs hquiet3 hnodup hplan (by rw [hids]; exact hnodup) hrecord
  -- reading the policies back and committing creates nothing more
  have hend : Quiet planId recorded last ∧ creations events4=[] := by
    have hcommit : ∀ {pushed world events},Quiet planId recorded world →
        Async.Runs pushHandles world (do
          let commitInfo ← commitCspChanges
          return (⟨pushed,results,commitInfo⟩ : PushResult)) events last (.ok result) →
        Quiet planId recorded last ∧ creations events=[] := by
      intro pushed world events hquiet hrun
      obtain ⟨commitInfo,before,mid,after,hcommits,rfl,hreturn⟩ := Async.returns_bind hrun
      obtain ⟨rfl,rfl,-⟩ := Async.runs_done hreturn
      rw [List.append_nil]
      exact commitCspChanges_runs hquiet hcommits
    dsimp only at hrun4
    split at hrun4
    · exact hcommit hquiet4 hrun4
    · obtain ⟨pushed,world5,events5,hread,rfl,hrun5⟩ := Async.returns_call_bind hrun4
      rw [creations_cons rfl]
      exact hcommit (hquiet4.reads hread trivial) hrun5
  have hcreations : creations (⟨.getSdwanFullCatalog,.ok catalog⟩::
      ⟨.updatePlan plan.markPushExecuted,.ok marked⟩::(tried++(recording++events4)))=
      creations tried := by
    rw [creations_cons rfl,creations_cons rfl,creations_append_list,creations_append_list,hnone4,
      hend.2,List.append_nil,List.append_nil]
  rw [hcreations]
  refine ⟨target,?_,hcreated,recorded,hend.1,?_,?_⟩
  · exact List.mem_cons_of_mem _ (List.mem_cons_of_mem _ (List.mem_append_left _ htarget))
  · intro rule hrule
    obtain ⟨result,hresult,hfor⟩ := hresults rule hrule
    exact ⟨_,hdone rule hrule result hresult hfor.1,hfor.recorded⟩
  · rw [←hids]
    exact hrest

/-- Saving a report writes and keeps one report, with one row for every rule given. -/
theorem saveReport_runs [PyUnicode] {scope : MappingScopeData} {commitId : ℤ}
    {planRules : List StoredPlanRule} (h : Quiet planId rules world)
    (hrun : Async.Runs pushHandles world (saveReport scope commitId planRules) events last
      (.ok ())) :
    creations events=[] ∧ planRules≠[] ∧
      (∀ entry,last.store.get? planId=some entry → entry.rules=rules) ∧
      ∃ catalog report,last.reports=[report] ∧
        report.rules=planRules.map fun rule => resolve catalog (toRuleCommand rule) := by
  obtain ⟨vpcs,world1,events1,hvpcs,rfl,hrun1⟩ := Async.returns_call_bind hrun
  have hquiet1 := h.reads hvpcs trivial
  split at hrun1
  · obtain ⟨-,-,hresult⟩ := Async.runs_done hrun1
    cases hresult
  next vpc hvpc =>
  obtain ⟨found,before,world2,events2,hgateway,rfl,hrun2⟩ := Async.returns_bind hrun1
  have hlookup : Quiet planId rules world2 ∧ creations before=[] := by
    obtain ⟨_,entered,work,worked,_,henter,hbody,hexit,rfl⟩ := Async.runs_within_ok hgateway
    have hentered := hquiet1.reads henter trivial
    obtain ⟨target,world3,events3,htarget,rfl,hrun3⟩ := Async.returns_call_bind hbody
    have hquiet3 := hentered.reads htarget trivial
    cases target with
    | none =>
      obtain ⟨-,-,hresult⟩ := Async.runs_done hrun3
      cases hresult
    | some target =>
      obtain ⟨catalog,world4,events4,hcatalog,rfl,hdone⟩ := Async.returns_call_bind hrun3
      obtain ⟨rfl,rfl,-⟩ := Async.runs_done hdone
      exact ⟨(hquiet3.reads hcatalog trivial).reads hexit trivial,rfl⟩
  obtain ⟨hquiet2,hnone⟩ := hlookup
  obtain ⟨target,catalog⟩ := found
  dsimp only at hrun2
  split at hrun2
  · obtain ⟨-,-,hresult⟩ := Async.runs_done hrun2
    cases hresult
  next report hreport =>
  obtain ⟨_,world5,events5,hsave,rfl,hrun5⟩ := Async.returns_call_bind hrun2
  obtain ⟨_,world6,events6,hcommit,rfl,hdone⟩ := Async.returns_call_bind hrun5
  obtain ⟨rfl,rfl,-⟩ := Async.runs_done hdone
  obtain ⟨hrows,hreportRules⟩ : planRules≠[] ∧
      report.rules=planRules.map fun rule => resolve catalog (toRuleCommand rule) := by
    unfold Report.create at hreport
    split at hreport
    · cases hreport
    split at hreport
    · cases hreport
    next hne =>
    cases hreport
    exact ⟨fun hnil => hne (by rw [hnil,List.map_nil]),rfl⟩
  obtain ⟨⟨store5,hevicts5,hstore5⟩,-,hdrafts5,hreports5⟩ := hsave
  obtain ⟨⟨store6,hevicts6,hstore6⟩,-,-,hreports6⟩ := hcommit
  have hrules5 : ∀ entry,world5.store.get? planId=some entry → entry.rules=rules := by
    rw [show world5.store=store5 from hstore5]
    exact hquiet2.evicts hevicts5
  refine ⟨?_,hrows,?_,catalog,report,?_,hreportRules⟩
  · rw [creations_cons rfl,creations_append_list,hnone]
    rfl
  · rw [show last.store=store6 from hstore6]
    intro entry hentry
    rcases hevicts6 planId with hsame|hgone
    · exact hrules5 entry (hsame▸hentry)
    · rw [hgone] at hentry
      cases hentry
  · rw [hreports6,hreports5,hdrafts5,hquiet2.drafts,hquiet2.reports]
    rfl

end Loops

/-- A scope is mapped only where its block fits its target, so a push finds a
block that does not fit only if the target has changed its kind since. -/
theorem placementAllowed_of_readTargetCatalog {σ : Type}
    {handles : σ → (op : MappingOp) → Except PyException (MappingAns op) → σ → Prop} {s last : σ}
    {command : MapCanonicalToSdwanCommand} {events : List (Event MappingOp MappingAns PyException)}
    {catalog : SdwanFullCatalog}
    (hrun : Async.Runs handles s (readTargetCatalog command) events last (.ok catalog)) :
    ∃ target : SdwanDeviceObject,
      ⟨.getDeviceObject command.sdwanTargetId,.ok (some target)⟩∈events ∧
        PlacementAllowed target.type (sdwanRulePriority command.rulesPriority) := by
  obtain ⟨target,mid,after,-,rfl,hrest⟩ := Async.returns_call_bind hrun
  cases target with
  | none =>
    obtain ⟨-,-,hresult⟩ := Async.runs_done hrest
    cases hresult
  | some target =>
    refine ⟨target,List.mem_cons_self,?_⟩
    dsimp only at hrest
    split at hrest
    · obtain ⟨-,-,hresult⟩ := Async.runs_done hrest
      cases hresult
    split at hrest
    · obtain ⟨-,-,hresult⟩ := Async.runs_done hrest
      cases hresult
    next hdevice =>
    split at hrest
    · obtain ⟨-,-,hresult⟩ := Async.runs_done hrest
      cases hresult
    next hgroup =>
    cases hpriority : command.rulesPriority <;> cases htype : target.type <;>
      simp_all [PlacementAllowed,sdwanRulePriority]

/-- The row of a rule that is no longer pending fits its status. -/
theorem rowMatches_toRuleCommand {rule : StoredPlanRule} (h : ¬ToPush rule) :
    RowMatches rule (toRuleCommand rule).migrationResult := by
  unfold toRuleCommand reportRuleStatusOutcome
  cases hmatch : rule.matchStatus with
  | exactMatch | coveredMatch | matchError => exact hmatch
  | new =>
    cases hpush : rule.pushStatus with
    | pending => exact absurd ⟨hmatch,hpush⟩ h
    | succeeded | failed => exact ⟨hmatch,hpush⟩

/-- Recorded rules are no longer pending. -/
theorem RuleOutcome.not_toPush {fits : Prop} {created : List (ℕ × Except PyException ℤ)}
    {before after : StoredPlanRule} (h : RuleOutcome fits created before after) :
    ¬ToPush after := by
  unfold RuleOutcome at h
  split at h
  · rintro ⟨-,hpending⟩
    rcases h with ⟨sdwanRuleId,-,rfl⟩|⟨text,-,rfl,-⟩
    · cases hpending
    · cases hpending
  next hkept =>
  rw [h]
  exact hkept

/-- The rules a push reads are those it is to create, in order. -/
theorem filter_matchesFilters (rules : List StoredPlanRule) :
    rules.filter (matchesFilters (some .new) (some [.pending]))=
      rules.filter fun rule => decide (ToPush rule) := by
  refine List.filter_congr fun rule _ => ?_
  rw [Bool.eq_iff_iff,decide_eq_true_eq]
  simp [matchesFilters,ToPush]

theorem pushOrder_sorted (entry : ExecutePlanCacheEntry) :
    (pushOrder entry).Pairwise fun a b => a.priority≤b.priority := by
  have htotal : Std.Total fun a b : StoredPlanRule => a.priority≤b.priority :=
    ⟨fun a b => le_total a.priority b.priority⟩
  have htrans : IsTrans StoredPlanRule fun a b => a.priority≤b.priority :=
    ⟨fun _ _ _ => le_trans⟩
  exact List.pairwise_insertionSort _ _

theorem mem_pushOrder {entry : ExecutePlanCacheEntry} {rule : StoredPlanRule} :
    rule∈pushOrder entry ↔ rule∈entry.rules.values ∧ ToPush rule := by
  rw [pushOrder,List.mem_insertionSort,List.mem_filter,decide_eq_true_eq]

section Stages

variable {planId : ℕ} {store : PlanStore} {start : ExecutePlanCacheEntry}
  {rules : Dict ℕ StoredPlanRule} {world : PushWorld} {fits : Prop}
  {created : List (ℕ × Except PyException ℤ)}

/-- A plan that is read is in the cache, with the rules it keeps. -/
theorem quiet_of_getPlan {plan : ExecutePlan}
    (hread : pushHandles ⟨store,[],[],[]⟩ (.getPlan planId) (.ok (some plan)) world) :
    ∃ start,store.get? planId=some start ∧ start.plan=plan ∧ Quiet planId start.rules world := by
  obtain ⟨⟨kept,hevicts,hanswer,hstore⟩,-,hdrafts,hreports⟩ := hread
  have hget : (kept.get? planId).map (·.plan)=some plan := (Except.ok.inj hanswer).symm
  obtain ⟨start,hkept,hplan⟩ := Option.map_eq_some_iff.mp hget
  have hstart : store.get? planId=some start := by
    rcases hevicts planId with hsame|hnone
    · exact hsame▸hkept
    · rw [hnone] at hkept
      cases hkept
  refine ⟨start,hstart,hplan,fun entry hentry => ?_,hdrafts,hreports⟩
  rw [show world.store=kept from hstore,hkept] at hentry
  rw [Option.some.inj hentry]

/-- The rules a push is to create are in the cache under their numbers. -/
theorem get?_of_mem_pushOrder (hwf : EntryWf planId start) {rule : StoredPlanRule}
    (hrule : rule∈pushOrder start) :
    start.rules.get? rule.id=some rule ∧ rule.executePlanId=planId := by
  obtain ⟨ruleId,hget⟩ := Dict.exists_get?_of_mem_values (mem_pushOrder.mp hrule).1
  obtain ⟨hid,hplanId⟩ := hwf.rule_id ruleId rule hget
  exact ⟨hid▸hget,hplanId⟩

theorem nodup_pushOrder (hw : StoreWf store) (hstart : store.get? planId=some start) :
    ((pushOrder start).map (·.id)).Nodup := by
  have hlisted := nodup_listPlanRules (hw planId) (some .new) (some [.pending])
  rw [ExecuteRepository.listPlanRules,hstart] at hlisted
  dsimp only at hlisted
  rw [filter_matchesFilters] at hlisted
  exact hlisted

/-- Where the rules to create are recorded and all others are left, every rule has its outcome. -/
theorem ruleOutcomes_of_recorded (hwf : EntryWf planId start)
    (hdone : ∀ rule∈pushOrder start,∃ after,rules.get? rule.id=some after ∧
      Recorded fits created rule after)
    (hrest : ∀ ruleId∉(pushOrder start).map (·.id),rules.get? ruleId=start.rules.get? ruleId)
    (ruleId : ℕ) :
    Option.Rel (RuleOutcome fits created) (start.rules.get? ruleId) (rules.get? ruleId) := by
  by_cases hpushed : ruleId∈(pushOrder start).map (·.id)
  · obtain ⟨rule,hrule,rfl⟩ := List.mem_map.mp hpushed
    obtain ⟨after,hafter,hrecorded⟩ := hdone rule hrule
    rw [(get?_of_mem_pushOrder hwf hrule).1,hafter]
    refine .some ?_
    rw [RuleOutcome,if_pos (mem_pushOrder.mp hrule).2]
    exact hrecorded
  · rw [hrest ruleId hpushed]
    cases hbefore : start.rules.get? ruleId with
    | none => exact .none
    | some rule =>
      refine .some ?_
      have hnot : ¬ToPush rule := by
        intro hpush
        have hmem := mem_pushOrder.mpr ⟨Dict.mem_values_of_get? hbefore,hpush⟩
        exact hpushed ((hwf.rule_id ruleId rule hbefore).1▸List.mem_map_of_mem hmem)
      rw [RuleOutcome,if_neg hnot]

/-- A rule that was there has an outcome. -/
theorem exists_of_outcome {before : StoredPlanRule} {found after : Option StoredPlanRule}
    (h : Option.Rel (RuleOutcome fits created) found after) (hfound : found=some before) :
    ∃ rule,after=some rule ∧ RuleOutcome fits created before rule := by
  rw [hfound] at h
  cases h with
  | some hout => exact ⟨_,rfl,hout⟩

/-- Rules that have their outcomes fit their rows. -/
theorem rowMatches_of_outcomes {reported : List StoredPlanRule}
    (houtcome : ∀ ruleId,Option.Rel (RuleOutcome fits created) (start.rules.get? ruleId)
      (rules.get? ruleId))
    (hperm : reported.Perm rules.values) {rule : StoredPlanRule} (hrule : rule∈reported) :
    RowMatches rule (toRuleCommand rule).migrationResult := by
  obtain ⟨ruleId,hget⟩ := Dict.exists_get?_of_mem_values (hperm.mem_iff.mp hrule)
  have hrel := houtcome ruleId
  rw [hget] at hrel
  cases hbefore : start.rules.get? ruleId with
  | none =>
    rw [hbefore] at hrel
    cases hrel
  | some before =>
    obtain ⟨after,hafter,hout⟩ := exists_of_outcome hrel hbefore
    cases hafter
    exact rowMatches_toRuleCommand hout.not_toPush

/-- The rules listed last are all rules of the plan. -/
theorem perm_of_listed {next : PushWorld} {all : List StoredPlanRule}
    (hquiet : Quiet planId rules world)
    (hall : pushHandles world (.listPlanRules planId none none) (.ok all) next) (hne : all≠[]) :
    all.Perm rules.values := by
  rcases hquiet.listPlanRules hall with hnil|hlisted
  · exact absurd hnil hne
  · have hfilter : rules.values.filter (matchesFilters none none)=rules.values :=
      List.filter_eq_self.mpr fun rule _ => rfl
    rw [hlisted,hfilter]
    exact List.perm_insertionSort _ _

end Stages

/-- When a push returns, every new and pending rule of its plan is recorded with
the outcome of its own creation, all other rules are unchanged, each creation was
asked for once and in priority order, and the report has one row for every rule
of the plan, with a result that fits the rule's status. Where the block of the
scope does not fit the target, nothing is created and the rules have failed. -/
theorem push_outcomes_recorded [PyUnicode] (hashFunc : String → String) {store : PlanStore}
    (hw : StoreWf store) {planId : ℕ} {events : List PushEvent} {world : PushWorld}
    {result : PushResult}
    (hrun : Async.Runs pushHandles ⟨store,[],[],[]⟩ (pushExecutePlanRules hashFunc planId) events
      world (.ok result)) :
    ∃ (start : ExecutePlanCacheEntry) (rules : Dict ℕ StoredPlanRule) (scope : MappingScopeData)
      (target : SdwanDeviceObject),
      store.get? planId=some start ∧
      ⟨.getMappingScopeData start.plan.mappingScopeId,.ok scope⟩∈events ∧
      ⟨.getSdwanDeviceObject scope.sdwanTargetId,.ok (some target)⟩∈events ∧
      (∀ entry,world.store.get? planId=some entry → entry.rules=rules) ∧
      (∀ ruleId,Option.Rel
        (RuleOutcome (PlacementAllowed target.type scope.rulesPriority) (creations events))
        (start.rules.get? ruleId) (rules.get? ruleId)) ∧
      (creations events).map Prod.fst=
        (if PlacementAllowed target.type scope.rulesPriority then (pushOrder start).map (·.id)
        else []) ∧
      ((pushOrder start).map (·.id)).Nodup ∧
      ((pushOrder start).Pairwise fun a b => a.priority≤b.priority) ∧
      (∀ rule,rule∈pushOrder start ↔ rule∈start.rules.values ∧ ToPush rule) ∧
      ∃ (reported : List StoredPlanRule) (catalog : SdwanFullCatalog) (report : Report),
        world.reports=[report] ∧ reported.Perm rules.values ∧
        report.rules=(reported.map toRuleCommand).map (resolve catalog) ∧
        ∀ rule∈reported,RowMatches rule (toRuleCommand rule).migrationResult := by
  obtain ⟨plan,world1,events1,hplan,rfl,hrun1⟩ := Async.returns_call_bind hrun
  cases plan with
  | none =>
    obtain ⟨-,-,hresult⟩ := Async.runs_done hrun1
    cases hresult
  | some plan =>
  obtain ⟨start,hstart,rfl,hquiet1⟩ := quiet_of_getPlan hplan
  have hwf := hw planId start hstart
  have hnodup := nodup_pushOrder hw hstart
  dsimp only at hrun1
  split at hrun1
  · obtain ⟨-,-,hresult⟩ := Async.runs_done hrun1
    cases hresult
  rw [hwf.plan_id] at hrun1
  obtain ⟨planRules,world2,events2,hlist,rfl,hrun2⟩ := Async.returns_call_bind hrun1
  have hquiet2 := hquiet1.reads hlist trivial
  split at hrun2
  · obtain ⟨-,-,hresult⟩ := Async.runs_done hrun2
    cases hresult
  next hsome =>
  have hplanRules : planRules=pushOrder start := by
    rcases hquiet1.listPlanRules hlist with hnil|hrules
    · exact absurd hnil hsome
    · rw [hrules,filter_matchesFilters]
      rfl
  rw [hplanRules] at hrun2
  obtain ⟨scope,world3,events3,hscope,rfl,hrun3⟩ := Async.returns_call_bind hrun2
  have hquiet3 := hquiet2.reads hscope trivial
  split at hrun3
  · obtain ⟨-,-,hresult⟩ := Async.runs_done hrun3
    cases hresult
  -- the work with the client creates and records
  obtain ⟨pushed,work,world4,events4,hgateway,rfl,hrun4⟩ := Async.returns_bind hrun3
  obtain ⟨_,entered,body,worked,_,henter,hbody,hexit,rfl⟩ := Async.runs_within_ok hgateway
  obtain ⟨target,htarget,hcreated,rules,hquiet,hdone,hrest⟩ :=
    pushWithGateway_runs (hquiet3.reads henter trivial) hwf.plan_id (pushOrder_sorted start) hnodup
      (fun rule hrule => (get?_of_mem_pushOrder hwf hrule).2) hbody
  have hquiet4 := hquiet.reads hexit trivial
  -- the report is made of the rules listed afterwards
  obtain ⟨all,world5,events5,hall,rfl,hrun5⟩ := Async.returns_call_bind hrun4
  have hquiet5 := hquiet4.reads hall trivial
  obtain ⟨_,saved,world6,events6,hsave,rfl,hreturn⟩ := Async.returns_bind hrun5
  obtain ⟨rfl,rfl,-⟩ := Async.runs_done hreturn
  obtain ⟨hnone,hrows,hrules,catalog,report,hreports,hreportRules⟩ := saveReport_runs hquiet5 hsave
  have hcreations : creations (⟨.getPlan planId,.ok (some start.plan)⟩::
      ⟨.listPlanRules planId (some .new) (some [.pending]),.ok planRules⟩::
      ⟨.getMappingScopeData start.plan.mappingScopeId,.ok scope⟩::
      ((⟨.acquire scope.cspProfileId scope.vpcId,.ok ()⟩::(body++[⟨.release,.ok ()⟩]))++
        ⟨.listPlanRules planId none none,.ok all⟩::(saved++[])))=creations body := by
    rw [creations_cons rfl,creations_cons rfl,creations_cons rfl,creations_append_list,
      creations_cons rfl,creations_cons rfl,creations_append_list,creations_append_list,hnone]
    simp [creations,creation]
  rw [hcreations]
  have houtcome := ruleOutcomes_of_recorded hwf hdone hrest
  have hperm := perm_of_listed hquiet4 hall hrows
  refine ⟨start,rules,scope,target,hstart,?_,?_,hrules,houtcome,hcreated,hnodup,
    pushOrder_sorted start,fun rule => mem_pushOrder,all,catalog,report,hreports,hperm,?_,
    fun rule hrule => rowMatches_of_outcomes houtcome hperm hrule⟩
  · simp
  · have hmem := List.mem_cons_of_mem ⟨.acquire scope.cspProfileId scope.vpcId,.ok ()⟩
      (List.mem_append_left [⟨.release,.ok ()⟩] htarget)
    exact List.mem_cons_of_mem _ (List.mem_cons_of_mem _ (List.mem_cons_of_mem _
      (List.mem_append_left _ hmem)))
  · rw [hreportRules,List.map_map]
    rfl

/-- A rule of plan 1 that is to come last. -/
def lastRule : StoredPlanRule :=
  { siteRule with id := 8, priority := 20, draft := { siteRule.draft with name := "rest" } }

/-- A rule of plan 1 whose policy exists. -/
def matchedRule : StoredPlanRule :=
  { siteRule with
    id := 9, priority := 15, matchStatus := .exactMatch, matchedSdwanRuleId := some 4 }

/-- Plan 1 with two rules to create and one to leave. -/
def threeRules : PlanStore :=
  Dict.empty.insert 1 ⟨⟨1,3,siteScope.catalogFingerprint,.pending⟩,
    ((Dict.empty.insert 8 lastRule).insert 9 matchedRule).insert 7 siteRule⟩

/-- A controller that refuses the policy of the last rule. -/
def partialAnswers : (op : PushOp) → Except PyException (PushAns op)
  | .createPolicy planRuleId _ =>
    if planRuleId=8 then .error ⟨"SDWANCspHttpResponseError","name is taken"⟩ else .ok 901
  | op => siteAnswers op

theorem storeWf_threeRules : StoreWf threeRules := by
  refine StoreWf.insert (fun planId entry he => by cases he) ⟨rfl,fun ruleId rule hr => ?_⟩
  rw [Dict.get?_insert,Dict.get?_insert,Dict.get?_insert] at hr
  split at hr
  · next hid =>
    cases hr
    exact ⟨hid.symm,rfl⟩
  split at hr
  · next hid =>
    cases hr
    exact ⟨hid.symm,rfl⟩
  split at hr
  · next hid =>
    cases hr
    exact ⟨hid.symm,rfl⟩
  · cases hr

/-- The push of the three rules. -/
def threeRulesPush : List PushEvent × PushWorld × Except PyException PushResult :=
  (@pushExecutePlanRules asciiUnicode id 1).exec (worldOracle partialAnswers) ⟨threeRules,[],[],[]⟩

/-- The policies of the first and the last rule are asked for in this order. The first
succeeds, the last fails, the rule between them is left, and all three are reported. -/
theorem push_outcomes_recorded_threeRules : ∃ (rules : Dict ℕ StoredPlanRule) (report : Report),
    (∀ entry,threeRulesPush.2.1.store.get? 1=some entry → entry.rules=rules) ∧
    (creations threeRulesPush.1).map Prod.fst=[7,8] ∧
    (∃ sdwanRuleId,rules.get? 7=some (siteRule.markPushSucceeded sdwanRuleId)) ∧
    (∃ text,text≠"" ∧ rules.get? 8=some (lastRule.markPushFailed text)) ∧
    rules.get? 9=some matchedRule ∧ threeRulesPush.2.1.reports=[report] ∧
    report.rules.length=rules.values.length := by
  have hisOk : threeRulesPush.2.2.isOk=true := by decide +kernel
  have hanswers : (creations threeRulesPush.1).map (fun entry => (entry.1,entry.2.isOk))=
      [(7,true),(8,false)] := by decide +kernel
  have hids : (creations threeRulesPush.1).map Prod.fst=[7,8] := by
    have hfirst := congrArg (List.map Prod.fst) hanswers
    rwa [List.map_map] at hfirst
  cases h : threeRulesPush.2.2 with
  | error error =>
    rw [h] at hisOk
    cases hisOk
  | ok result =>
    have hrun : Async.Runs pushHandles ⟨threeRules,[],[],[]⟩
        (@pushExecutePlanRules asciiUnicode id 1) threeRulesPush.1
          threeRulesPush.2.1 (.ok result) :=
      h▸Async.runs_exec (pushHandles_worldOracle partialAnswers) _ _
    obtain ⟨start,rules,scope,target,hstart,-,-,hrules,houtcome,hcreated,-,-,-,reported,catalog,
      report,hreports,hperm,hrows,-⟩ :=
      @push_outcomes_recorded asciiUnicode id _ storeWf_threeRules 1 _ _ result hrun
    have hone : threeRules.get? 1=some ⟨⟨1,3,siteScope.catalogFingerprint,.pending⟩,
        ((Dict.empty.insert 8 lastRule).insert 9 matchedRule).insert 7 siteRule⟩ :=
      Dict.get?_insert_self _ _ _
    rw [hone] at hstart
    obtain rfl := Option.some.inj hstart
    -- nothing is created where the block does not fit the target
    have hfits : PlacementAllowed target.type scope.rulesPriority := by
      by_contra hnot
      rw [if_neg hnot] at hcreated
      rw [hcreated] at hids
      cases hids
    have hanswer : ∀ entry∈creations threeRulesPush.1,
        (entry.1,entry.2.isOk)∈[(7,true),(8,false)] := by
      intro entry he
      rw [←hanswers]
      exact List.mem_map_of_mem (f:=fun entry : ℕ × Except PyException ℤ =>
        (entry.1,entry.2.isOk)) he
    refine ⟨rules,report,hrules,hids,?_,?_,?_,hreports,?_⟩
    · obtain ⟨after,hafter,hout⟩ := exists_of_outcome (houtcome 7) rfl
      rw [RuleOutcome,if_pos (by decide)] at hout
      rcases hout with ⟨sdwanRuleId,-,rfl⟩|⟨text,-,-,⟨error,hin⟩|hnot⟩
      · exact ⟨sdwanRuleId,hafter⟩
      · exact absurd (hanswer _ hin) (by simp [siteRule,Except.isOk,Except.toBool])
      · exact absurd hfits hnot
    · obtain ⟨after,hafter,hout⟩ := exists_of_outcome (houtcome 8) rfl
      rw [RuleOutcome,if_pos (by decide)] at hout
      rcases hout with ⟨sdwanRuleId,hin,-⟩|⟨text,hne,rfl,-⟩
      · exact absurd (hanswer _ hin) (by simp [lastRule,Except.isOk,Except.toBool])
      · exact ⟨text,hne,hafter⟩
    · obtain ⟨after,hafter,hout⟩ := exists_of_outcome (houtcome 9) rfl
      rw [RuleOutcome,if_neg (by decide)] at hout
      rw [hafter,hout]
    · rw [hrows,List.length_map,List.length_map]
      exact hperm.length_eq

end NspMigrator.ExecutePushOutcomes
