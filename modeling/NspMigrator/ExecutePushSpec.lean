import Mathlib
import NspMigrator.ExecutePush

/-!
# What a push does

A push, answered by the repository, marks the plan it has read as new, creates
a policy for every rule at most once, then records what came of each creation,
and returns only when its report is saved.
-/

namespace NspMigrator.ExecutePushSpec

open PyAsync PyDict PyText SdwanModels SdwanFingerprint
open ExecuteGateway ExecuteRulesComparer ExecutePlan ExecuteRepository ReportRules ExecutePush

/-- The creations among the operations done, with their plan rules. -/
def creations (history : List PushEvent) : List (ℕ × Except PyException ℤ) :=
  history.filterMap creation

/-- The outcomes recorded so far. -/
def recordings (history : List PushEvent) : List StoredPlanRule := history.filterMap recording

/-- The rules listed so far. -/
def listedIds (history : List PushEvent) : List ℕ := history.flatMap listed

/-- Whether the last operation wrote a report. -/
def justWritten (history : List PushEvent) : Bool := (history.getLast?.map savesReport).getD false

/-- A rule is recorded with what its creation answered. -/
def OutcomeOf (answer : Except PyException ℤ) (rule : StoredPlanRule) : Prop :=
  match answer with
  | .ok sdwanRuleId => rule.pushStatus=.succeeded ∧ rule.pushedSdwanRuleId=some sdwanRuleId
  | .error error => rule.pushStatus=.failed ∧ rule.pushedSdwanRuleId=none ∧
      rule.pushError=some (pushErrorText (some error.text))

/-- A result is what its creation answered. -/
def ResultOf (answer : Except PyException ℤ) (result : PushRuleResult) : Prop :=
  match answer with
  | .ok sdwanRuleId => result.sdwanRuleId=some sdwanRuleId
  | .error error => result.sdwanRuleId=none ∧ result.error=some error.text

/-- The outcome of a rule is the outcome of its own creation. -/
def OwnOutcome (created : List (ℕ × Except PyException ℤ)) (rule : StoredPlanRule) : Prop :=
  match rule.pushStatus with
  | .pending => rule.pushedSdwanRuleId=none
  | .succeeded => ∃ sdwanRuleId,(rule.id,.ok sdwanRuleId)∈created ∧
      rule.pushedSdwanRuleId=some sdwanRuleId
  | .failed => rule.pushedSdwanRuleId=none ∧
      ((∃ error,(rule.id,.error error)∈created ∧
        rule.pushError=some (pushErrorText (some error.text))) ∨ rule.id∉created.map Prod.fst)

/-- The result of a rule is the result of its own creation. -/
def OwnResult (created : List (ℕ × Except PyException ℤ)) (result : PushRuleResult) : Prop :=
  (∃ sdwanRuleId,(result.executePlanRuleId,.ok sdwanRuleId)∈created ∧
    result.sdwanRuleId=some sdwanRuleId) ∨
  (result.sdwanRuleId=none ∧ ((∃ error,(result.executePlanRuleId,.error error)∈created ∧
    result.error=some error.text) ∨ result.executePlanRuleId∉created.map Prod.fst))

/-- What the repository answers: a plan under its identifier, rules of a plan
without repetition. -/
def AnswerOk : (op : PushOp) → Except PyException (PushAns op) → Prop
  | .getPlan planId,.ok (some plan) => plan.id=planId
  | .listPlanRules planId _ _,.ok rules =>
    (rules.map (·.id)).Nodup ∧ ∀ rule∈rules,rule.executePlanId=planId
  | _,_ => True

/-- What a push does, given what it has done: it marks the plan it has read as
new, creates a policy for a rule once, then records the outcome of each rule
once, and makes its report permanent right after it is written. -/
def PushSpec (planId : ℕ) (history : List PushEvent) : PushOp → Prop
  | .getPlan id | .listPlanRules id _ _ => id=planId
  | .updatePlan plan => plan.id=planId ∧ plan.pushStatus=.executed ∧
      history.any (readsPending planId)=true ∧ history.any marks=false
  | .createPolicy planRuleId _ => history.any marks=true ∧
      planRuleId∉(creations history).map Prod.fst ∧ history.any records=false
  | .updatePlanRule rule => history.any marks=true ∧ rule.executePlanId=planId ∧
      rule.pushStatus≠.pending ∧ OwnOutcome (creations history) rule ∧
      rule.id∉(recordings history).map (·.id) ∧ rule.id∈listedIds history
  | .commitReports => justWritten history=true
  | _ => True

/-- Every creation is recorded, unless recording itself has failed. -/
def Settled (history : List PushEvent) : Prop :=
  history.any recordFails=true ∨ ∀ entry∈creations history,
    ∃ rule∈recordings history,rule.id=entry.1 ∧ OutcomeOf entry.2 rule

/-- Rules tried so far: every creation has a result, every result its creation. -/
structure Tried (start : List PushEvent) (rules : List StoredPlanRule)
    (results : List PushRuleResult) (history : List PushEvent) : Prop where
  /-- The plan has been marked. -/
  marks : history.any marks=true
  /-- No outcome has been recorded. -/
  unrecorded : history.any records=false
  /-- The rules listed before still are. -/
  listed : ∀ ruleId∈listedIds start,ruleId∈listedIds history
  /-- There is a result for each rule, in order. -/
  ids : results.map (·.executePlanRuleId)=rules.map (·.id)
  /-- Every creation has its result. -/
  created : ∀ entry∈creations history,∃ result∈results,
    result.executePlanRuleId=entry.1 ∧ ResultOf entry.2 result
  /-- Every result is that of the creation for its rule. -/
  own : ∀ result∈results,OwnResult (creations history) result

/-- How a push ends: settled, and with a permanent report where it returns. -/
def PushEnd {α : Type} (history : List PushEvent) (result : Except PyException α) : Prop :=
  Settled history ∧ ((∃ value,result=.ok value) → history.any commitsReport=true)

/-- Pushes answered by the repository keep to what a push does. -/
abbrev PushSound {α : Type} (planId : ℕ) (Q : List PushEvent → Except PyException α → Prop)
    (history : List PushEvent) (x : Push α) : Prop :=
  x.Sound (fun _ event => AnswerOk event.op event.answer) (PushSpec planId) Q history

section Spec

variable {planId : ℕ} {history : List PushEvent}

theorem creations_append (event : PushEvent) :
    creations (history++[event])=creations history++(creation event).toList := by
  rw [creations,List.filterMap_append,←creations]
  cases h : creation event <;> simp [h]

/-- What creates nothing adds no creation. -/
theorem creations_cons {event : PushEvent} (h : creation event=none) (later : List PushEvent) :
    creations (event::later)=creations later := List.filterMap_cons_none h

theorem any_append_of_any {p : PushEvent → Bool} (h : history.any p=true) (event : PushEvent) :
    (history++[event]).any p=true := by
  rw [List.any_append,h,Bool.true_or]

theorem any_append_of_not {p : PushEvent → Bool} (h : history.any p=false) {e : PushEvent}
    (he : p e=false) : (history++[e]).any p=false := by
  rw [List.any_append,h,List.any_cons,List.any_nil,he]
  rfl

theorem recordings_append (event : PushEvent) :
    recordings (history++[event])=recordings history++(recording event).toList := by
  rw [recordings,List.filterMap_append,←recordings]
  cases h : recording event <;> simp [h]

theorem listedIds_append (event : PushEvent) :
    listedIds (history++[event])=listedIds history++listed event := by
  rw [listedIds,List.flatMap_append,←listedIds,List.flatMap_singleton]

theorem justWritten_append (event : PushEvent) :
    justWritten (history++[event])=savesReport event := by
  rw [justWritten,List.getLast?_concat]
  rfl

theorem mem_recordings_append {rule : StoredPlanRule} (h : rule∈recordings history)
    (event : PushEvent) : rule∈recordings (history++[event]) := by
  rw [recordings_append]
  exact List.mem_append_left _ h

theorem mem_listedIds_append {ruleId : ℕ} (h : ruleId∈listedIds history) (event : PushEvent) :
    ruleId∈listedIds (history++[event]) := by
  rw [listedIds_append]
  exact List.mem_append_left _ h

/-- Nothing is recorded before the first recording. -/
theorem recordings_eq_nil (h : history.any records=false) : recordings history=[] := by
  rw [recordings,List.filterMap_eq_nil_iff]
  intro event he
  have hr : records event=false := by
    rw [List.any_eq_false] at h
    exact Bool.not_eq_true _▸h event he
  obtain ⟨op,answer⟩ := event
  cases op with
  | updatePlanRule rule => cases hr
  | _ => rfl

/-- What is settled stays settled while nothing is created. -/
theorem Settled.append (h : Settled history) {event : PushEvent} (hc : creation event=none) :
    Settled (history++[event]) := by
  rcases h with h|h
  · exact Or.inl (any_append_of_any h event)
  · refine Or.inr fun entry he => ?_
    rw [creations_append,hc,Option.toList_none,List.append_nil] at he
    obtain ⟨rule,hr,hout⟩ := h entry he
    exact ⟨rule,mem_recordings_append hr event,hout⟩

theorem settled_of_none (h : creations history=[]) : Settled history := by
  refine Or.inr fun entry he => ?_
  rw [h] at he
  cases he

/-- Inert operations create nothing. -/
theorem creation_of_inert {op : PushOp} (h : Inert op) (answer : Except PyException (PushAns op)) :
    creation ⟨op,answer⟩=none := by
  cases op with
  | createPolicy _ _ => exact h.elim
  | _ => rfl

theorem pushSpec_of_inert {op : PushOp} (h : Inert op) (history : List PushEvent) :
    PushSpec planId history op := by
  cases op with
  | getPlan _ | listPlanRules _ _ _ | updatePlan _ | createPolicy _ _ | updatePlanRule _
  | commitReports => exact h.elim
  | _ => exact trivial

/-- A result stays the result of its creation while others are created. -/
theorem OwnResult.append {created : List (ℕ × Except PyException ℤ)} {result : PushRuleResult}
    (h : OwnResult created result) {entry : ℕ × Except PyException ℤ}
    (hne : entry.1≠result.executePlanRuleId) : OwnResult (created++[entry]) result := by
  rcases h with ⟨sdwanRuleId,hmem,hid⟩|⟨hid,⟨error,hmem,herror⟩|hnone⟩
  · exact Or.inl ⟨sdwanRuleId,List.mem_append_left _ hmem,hid⟩
  · exact Or.inr ⟨hid,Or.inl ⟨error,List.mem_append_left _ hmem,herror⟩⟩
  · refine Or.inr ⟨hid,Or.inr ?_⟩
    rw [List.map_append,List.mem_append,List.map_singleton,List.mem_singleton]
    rintro (h|h)
    · exact hnone h
    · exact hne h.symm

theorem OwnResult.append_all {created : List (ℕ × Except PyException ℤ)}
    {result : PushRuleResult} (h : OwnResult created result)
    {entries : List (ℕ × Except PyException ℤ)}
    (hne : ∀ entry∈entries,entry.1≠result.executePlanRuleId) :
    OwnResult (created++entries) result := by
  induction entries using List.reverseRecOn with
  | nil => rwa [List.append_nil]
  | append_singleton entries entry ih =>
    rw [←List.append_assoc]
    exact (ih fun e he => hne e (List.mem_append_left _ he)).append
      (hne entry (List.mem_append_right _ List.mem_cons_self))

/-- The recorded rule has the outcome of its creation. -/
theorem OwnResult.recorded {created : List (ℕ × Except PyException ℤ)} {result : PushRuleResult}
    {rule : StoredPlanRule} (h : OwnResult created result)
    (hid : rule.id=result.executePlanRuleId) :
    (recordedRule rule result).pushStatus≠.pending ∧
      OwnOutcome created (recordedRule rule result) := by
  rcases h with ⟨sdwanRuleId,hmem,hok⟩|⟨hnone,herror⟩
  · rw [recordedRule,hok]
    exact ⟨by simp [StoredPlanRule.markPushSucceeded],sdwanRuleId,hid▸hmem,rfl⟩
  · rw [recordedRule,hnone]
    refine ⟨by simp [StoredPlanRule.markPushFailed],rfl,?_⟩
    rcases herror with ⟨error,hmem,htext⟩|hno
    · refine Or.inl ⟨error,?_,?_⟩
      · rw [StoredPlanRule.markPushFailed]
        exact hid▸hmem
      · rw [StoredPlanRule.markPushFailed,htext]
    · exact Or.inr (by rw [StoredPlanRule.markPushFailed]; exact hid▸hno)

/-- What was answered is what is recorded. -/
theorem ResultOf.recorded {answer : Except PyException ℤ} {result : PushRuleResult}
    (h : ResultOf answer result) (rule : StoredPlanRule) :
    OutcomeOf answer (recordedRule rule result) := by
  cases answer with
  | ok sdwanRuleId =>
    rw [ResultOf] at h
    rw [recordedRule,h]
    exact ⟨rfl,rfl⟩
  | error error =>
    obtain ⟨hnone,htext⟩ := h
    rw [recordedRule,hnone]
    refine ⟨rfl,rfl,?_⟩
    rw [StoredPlanRule.markPushFailed,htext]

theorem recordedRule_id (rule : StoredPlanRule) (result : PushRuleResult) :
    (recordedRule rule result).id=rule.id ∧
      (recordedRule rule result).executePlanId=rule.executePlanId := by
  rw [recordedRule]
  split <;> exact ⟨rfl,rfl⟩

/-- One creation: the rule has not been created before and gets its own result. -/
theorem createRule_sound (targetId : String) (parentType : DeviceObjectType)
    (priority : SdwanRulePriority) (rule : StoredPlanRule) (hmarks : history.any marks=true)
    (hrecords : history.any records=false) (hnew : rule.id∉(creations history).map Prod.fst) :
    PushSound planId (fun history' answer => history'.any marks=true ∧
      history'.any records=false ∧ (∀ ruleId∈listedIds history,ruleId∈listedIds history') ∧
      ∃ entries : List (ℕ × Except PyException ℤ),creations history'=creations history++entries ∧
        ∃ result,answer=.ok result ∧ result.executePlanRuleId=rule.id ∧
          (∀ entry∈entries,entry.1=rule.id ∧ ResultOf entry.2 result) ∧
          OwnResult (creations history') result) history
      (createRule targetId parentType priority rule) := by
  unfold createRule
  split
  · refine ⟨hmarks,hrecords,fun _ h => h,[],(List.append_nil _).symm,_,rfl,rfl,by simp,?_⟩
    exact Or.inr ⟨rfl,Or.inr hnew⟩
  · next request hrequest =>
    refine Async.sound_bind (Async.sound_attempt ?_)
    have hop : PushSpec planId history (.createPolicy rule.id request) := ⟨hmarks,hnew,hrecords⟩
    refine Async.sound_call hop fun answer _ => ?_
    have hcreated : creations (history++[⟨.createPolicy rule.id request,answer⟩])=
        creations history++[(rule.id,answer)] := creations_append _
    have hmem : (rule.id,answer)∈creations (history++[⟨.createPolicy rule.id request,answer⟩]) := by
      rw [hcreated]
      exact List.mem_append_right _ List.mem_cons_self
    have hm := any_append_of_any hmarks ⟨.createPolicy rule.id request,answer⟩
    have hr := any_append_of_not hrecords (e:=⟨.createPolicy rule.id request,answer⟩) rfl
    have hl : ∀ ruleId∈listedIds history,
        ruleId∈listedIds (history++[⟨.createPolicy rule.id request,answer⟩]) :=
      fun ruleId h => mem_listedIds_append h _
    cases answer with
    | error error =>
      refine ⟨hm,hr,hl,_,hcreated,_,rfl,rfl,?_,Or.inr ⟨rfl,Or.inl ⟨error,hmem,rfl⟩⟩⟩
      intro entry he
      rw [List.mem_singleton.mp he]
      exact ⟨rfl,rfl,rfl⟩
    | ok sdwanRuleId =>
      refine ⟨hm,hr,hl,_,hcreated,_,rfl,rfl,?_,Or.inl ⟨sdwanRuleId,hmem,rfl⟩⟩
      intro entry he
      rw [List.mem_singleton.mp he]
      exact ⟨rfl,rfl⟩

/-- Trying one more rule. -/
theorem Tried.step {start history' history'' : List PushEvent} {rules : List StoredPlanRule}
    {results : List PushRuleResult} (h : Tried start rules results history')
    {rule : StoredPlanRule} (hfresh : rule.id∉rules.map (·.id)) {result : PushRuleResult}
    (hid : result.executePlanRuleId=rule.id) (hmarks : history''.any ExecutePush.marks=true)
    (hrecords : history''.any records=false)
    (hlisted : ∀ ruleId∈listedIds history',ruleId∈listedIds history'')
    {entries : List (ℕ × Except PyException ℤ)}
    (hentries : creations history''=creations history'++entries)
    (hof : ∀ entry∈entries,entry.1=rule.id ∧ ResultOf entry.2 result)
    (hown : OwnResult (creations history'') result) :
    Tried start (rules++[rule]) (results++[result]) history'' := by
  refine ⟨hmarks,hrecords,fun ruleId hr => hlisted ruleId (h.listed ruleId hr),?_,?_,?_⟩
  · rw [List.map_append,List.map_append,h.ids,List.map_singleton,List.map_singleton,hid]
  · intro entry he
    rw [hentries] at he
    rcases List.mem_append.mp he with he|he
    · obtain ⟨other,ho,hmatch⟩ := h.created entry he
      exact ⟨other,List.mem_append_left _ ho,hmatch⟩
    · obtain ⟨hruleId,hresult⟩ := hof entry he
      exact ⟨result,List.mem_append_right _ List.mem_cons_self,hid.trans hruleId.symm,hresult⟩
  · intro other ho
    rcases List.mem_append.mp ho with ho|ho
    · have hne : ∀ entry∈entries,entry.1≠other.executePlanRuleId := by
        intro entry he heq
        rw [(hof entry he).1] at heq
        have hmem := List.mem_map_of_mem (f:=fun r : PushRuleResult => r.executePlanRuleId) ho
        rw [h.ids,←heq] at hmem
        exact hfresh hmem
      rw [hentries]
      exact (h.own other ho).append_all hne
    · rw [List.mem_singleton.mp ho]
      exact hown

/-- Creations done in order, each with its own result; only the device can be missing. -/
theorem pushRules_sound (targetId : String) (planRules : List StoredPlanRule)
    (priority : SdwanRulePriority) (hnodup : (planRules.map (·.id)).Nodup)
    (hmarks : history.any marks=true) (hrecords : history.any records=false)
    (hnone : creations history=[]) :
    PushSound planId (fun history' answer => match answer with
      | .error _ => creations history'=[]
      | .ok results => Tried history planRules results history') history
      (pushRules targetId planRules priority) := by
  have hevent : ∀ answer : Except PyException (Option SdwanDeviceObject),
      creations (history++[⟨.getSdwanDeviceObject targetId,answer⟩])=[] := by
    intro answer
    rw [creations_append,hnone]
    rfl
  refine Async.sound_call_bind trivial (fun error _ => hevent (.error error)) fun target _ => ?_
  cases target with
  | none => exact hevent (.ok none)
  | some target =>
    refine Async.sound_foldlM (Tried history) ?_ (fun _ _ h => h) ?_
    · intro earlier rule later results history' hsplit h
      have hfresh : rule.id∉earlier.map (·.id) := by
        rw [hsplit,List.map_append,List.map_cons] at hnodup
        intro hmem
        exact (List.nodup_append.mp hnodup).2.2 _ hmem _ List.mem_cons_self rfl
      have hnew : rule.id∉(creations history').map Prod.fst := by
        intro hmem
        obtain ⟨entry,he,hid⟩ := List.mem_map.mp hmem
        obtain ⟨result,hr,hentry,-⟩ := h.created entry he
        have hresult := List.mem_map_of_mem (f:=fun r : PushRuleResult => r.executePlanRuleId) hr
        rw [h.ids,hentry,hid] at hresult
        exact hfresh hresult
      refine Async.sound_bind ((createRule_sound targetId target.type priority rule h.marks
        h.unrecorded hnew).mono ?_)
      rintro history'' answer ⟨hm,hr,hl,entries,hentries,result,rfl,hid,hof,hown⟩
      exact h.step hfresh hid hm hr hl hentries hof hown
    · refine ⟨any_append_of_any hmarks _,any_append_of_not hrecords rfl,
        fun ruleId hr => mem_listedIds_append hr _,rfl,?_,by simp⟩
      intro entry he
      rw [hevent (.ok (some target))] at he
      cases he

/-- Recording writes the outcome of every rule's own creation. -/
theorem recordResults_sound {start : List PushEvent} {planRules rules : List StoredPlanRule}
    {results : List PushRuleResult} (htried : Tried start rules results history)
    (hnodup : (rules.map (·.id)).Nodup) (hperm : rules.Perm planRules)
    (hplan : ∀ rule∈planRules,rule.executePlanId=planId)
    (hlisted : ∀ rule∈planRules,rule.id∈listedIds start) :
    PushSound planId (fun history' _ => Settled history') history
      (recordResults planRules results) := by
  have hresultIds : (results.map (·.executePlanRuleId)).Nodup := by
    rw [htried.ids]
    exact hnodup
  -- the outcomes recorded so far are those of the results done
  refine Async.sound_foldlM (fun earlier _ history' => history'.any marks=true ∧
    creations history'=creations history ∧
    (∀ ruleId∈listedIds history,ruleId∈listedIds history') ∧
    (recordings history').map (·.id)=earlier.map (·.executePlanRuleId) ∧
    ∀ result∈earlier,∃ rule,rule.id=result.executePlanRuleId ∧
      recordedRule rule result∈recordings history') ?_ ?_ ?_
  · intro earlier result later _ history' hsplit ⟨hm,hc,hl,hids,hrec⟩
    have hresult : result∈results := hsplit▸List.mem_append_right _ List.mem_cons_self
    have hrule : result.executePlanRuleId∈planRules.map (·.id) := by
      rw [←(hperm.map (·.id)).mem_iff,←htried.ids]
      exact List.mem_map_of_mem hresult
    obtain ⟨rule,hmem,hid⟩ := List.mem_map.mp hrule
    have hpair : (rule.id,rule)∈planRules.map fun rule => (rule.id,rule) :=
      List.mem_map_of_mem hmem
    obtain ⟨found,hfound⟩ := Dict.exists_get?_ofList hpair
    rw [hid] at hfound
    rw [hfound]
    obtain ⟨rule',hrule',heq⟩ := List.mem_map.mp (Dict.mem_of_get?_ofList hfound)
    obtain ⟨hid',rfl⟩ := Prod.mk.inj heq
    have hown : OwnResult (creations history') result := by
      rw [hc]
      exact htried.own result hresult
    obtain ⟨hdone,houtcome⟩ := hown.recorded hid'
    obtain ⟨hrid,hrplan⟩ := recordedRule_id rule' result
    have hnew : (recordedRule rule' result).id∉(recordings history').map (·.id) := by
      rw [hids,hrid,hid']
      rw [hsplit,List.map_append,List.map_cons] at hresultIds
      intro h
      exact (List.nodup_append.mp hresultIds).2.2 _ h _ List.mem_cons_self rfl
    have hop : PushSpec planId history' (.updatePlanRule (recordedRule rule' result)) :=
      ⟨hm,hrplan.trans (hplan rule' hrule'),hdone,houtcome,hnew,
        hrid▸hl _ (htried.listed _ (hlisted rule' hrule'))⟩
    refine Async.sound_call_bind hop (fun error _ => ?_) fun stored _ => ?_
    · refine Or.inl ?_
      rw [List.any_append]
      exact Bool.or_true _
    · refine ⟨any_append_of_any hm _,?_,fun ruleId h => mem_listedIds_append (hl ruleId h) _,
        ?_,?_⟩
      · rw [creations_append,hc]
        exact List.append_nil _
      · rw [recordings_append,List.map_append,List.map_append,hids]
        simp [recording,hrid,hid']
      · intro other ho
        rcases List.mem_append.mp ho with ho|ho
        · obtain ⟨base,hbase,hm'⟩ := hrec other ho
          exact ⟨base,hbase,mem_recordings_append hm' _⟩
        · rw [List.mem_singleton.mp ho]
          refine ⟨rule',hid',?_⟩
          rw [recordings_append]
          exact List.mem_append_right _ (by simp [recording])
  · rintro _ history' ⟨-,hc,-,-,hrec⟩
    refine Or.inr fun entry he => ?_
    rw [hc] at he
    obtain ⟨result,hresult,hid,hof⟩ := htried.created entry he
    obtain ⟨rule,hrule,hmem⟩ := hrec result hresult
    exact ⟨_,hmem,(recordedRule_id rule result).1.trans (hrule.trans hid),hof.recorded rule⟩
  · refine ⟨htried.marks,rfl,fun _ h => h,?_,by simp⟩
    rw [recordings_eq_nil htried.unrecorded]
    rfl

/-- Committing keeps what is settled. -/
theorem commitCspChanges_sound (h : Settled history) :
    PushSound planId (fun history' _ => Settled history') history commitCspChanges :=
  (Async.only_bind (Async.only_call trivial) fun _ => Async.only_call trivial :
    commitCspChanges.Only Inert).sound Settled
      (fun history _ _ hop => pushSpec_of_inert hop history)
    (fun _ _ _ h hop => h.append (creation_of_inert hop _)) (fun _ _ h => h) h

/-- Work with a client keeps what is settled. -/
theorem withGateway_sound {α : Type} {body : Push α} (profileId : ℕ) (vpcId : String)
    (hacquire : ∀ error : PyException,Settled (history++[⟨.acquire profileId vpcId,.error error⟩]))
    (h : PushSound planId (fun history' _ => Settled history')
      (history++[⟨.acquire profileId vpcId,.ok ()⟩]) body) :
    PushSound planId (fun history' _ => Settled history') history
      (withGateway profileId vpcId body) := by
  refine Async.sound_call_bind trivial (fun error _ => hacquire error) fun _ _ => ?_
  refine Async.sound_bind (Async.sound_attempt (h.mono fun history' result hs => ?_))
  exact Async.sound_call_bind trivial (fun _ _ => hs.append rfl) fun _ _ => hs.append rfl

/-- The report is permanent when saving it returns. -/
theorem saveReport_sound [PyUnicode] (scope : MappingScopeData) (commitId : ℤ)
    (planRules : List StoredPlanRule) (h : Settled history) :
    PushSound planId PushEnd history (saveReport scope commitId planRules) := by
  have herror : ∀ (error : PyException) {history : List PushEvent},Settled history →
      PushEnd history (.error error : Except PyException Unit) :=
    fun error history hs => ⟨hs,fun ⟨_,hv⟩ => by cases hv⟩
  refine Async.sound_call_bind trivial (fun error _ => herror error (h.append rfl)) fun vpcs _ => ?_
  have h1 : Settled (history++[⟨.discoverVpcs scope.cspProfileId,.ok vpcs⟩]) := h.append rfl
  split
  · exact herror _ h1
  next vpc hvpc =>
  refine Async.sound_bind ((withGateway_sound scope.cspProfileId scope.vpcId
    (fun _ => h1.append rfl) ?_).mono fun history' found hs => ?_)
  · refine Async.sound_call_bind trivial (fun _ _ => (h1.append rfl).append rfl) fun target _ => ?_
    cases target with
    | none => exact (h1.append rfl).append rfl
    | some target =>
      exact Async.sound_call_bind trivial (fun _ _ => ((h1.append rfl).append rfl).append rfl)
        fun _ _ => ((h1.append rfl).append rfl).append rfl
  cases found with
  | error error => exact herror error hs
  | ok found =>
    obtain ⟨target,catalog⟩ := found
    dsimp only
    split
    · exact herror _ hs
    next report hreport =>
    refine Async.sound_call_bind trivial (fun error _ => herror error (hs.append rfl)) fun _ _ => ?_
    have hop : PushSpec planId (history'++[⟨.saveReport report,.ok ()⟩]) .commitReports :=
      justWritten_append _
    refine Async.sound_call_bind hop (fun error _ => herror error ((hs.append rfl).append rfl))
      fun _ _ => ⟨(hs.append rfl).append rfl,fun _ => ?_⟩
    rw [List.any_append]
    exact Bool.or_true _

/-- The work of a push that has read its plan as new. -/
theorem pushWithGateway_sound [PyUnicode] (hashFunc : String → String) {plan : ExecutePlan}
    {planRules : List StoredPlanRule} {scope : MappingScopeData} (hid : plan.id=planId)
    (hnodup : (planRules.map (·.id)).Nodup) (hplan : ∀ rule∈planRules,rule.executePlanId=planId)
    (hlisted : ∀ rule∈planRules,rule.id∈listedIds history)
    (hread : history.any (readsPending planId)=true) (hmarks : history.any marks=false)
    (hrecords : history.any records=false) (hnone : creations history=[]) :
    PushSound planId (fun history' _ => Settled history') history
      (pushWithGateway hashFunc plan planRules scope) := by
  have hsettled := settled_of_none hnone
  refine Async.sound_call_bind trivial (fun _ _ => hsettled.append rfl) fun catalog _ => ?_
  split
  · exact hsettled.append rfl
  have hop : PushSpec planId (history++[⟨.getSdwanFullCatalog,.ok catalog⟩])
      (.updatePlan plan.markPushExecuted) :=
    ⟨hid,rfl,any_append_of_any hread _,any_append_of_not hmarks rfl⟩
  refine Async.sound_call_bind hop (fun _ _ => (hsettled.append rfl).append rfl) fun marked _ => ?_
  have hsorted := List.perm_insertionSort (fun a b : StoredPlanRule => a.priority≤b.priority)
    planRules
  have hsortedIds := (hsorted.map (·.id)).nodup_iff.mpr hnodup
  refine Async.sound_bind ((pushRules_sound scope.sdwanTargetId _ scope.rulesPriority
    hsortedIds ?_ ?_ ?_).mono fun history' answer h => ?_)
  · rw [List.any_append]
    exact Bool.or_true _
  · exact any_append_of_not (any_append_of_not hrecords rfl) rfl
  · rw [creations_append,creations_append,hnone]
    rfl
  cases answer with
  | error _ => exact settled_of_none h
  | ok results =>
    have hl : ∀ rule∈planRules,rule.id∈listedIds ((history++[⟨.getSdwanFullCatalog,.ok catalog⟩])++
        [⟨.updatePlan plan.markPushExecuted,.ok marked⟩]) :=
      fun rule hr => mem_listedIds_append (mem_listedIds_append (hlisted rule hr) _) _
    refine Async.sound_bind ((recordResults_sound h hsortedIds hsorted hplan hl).mono
      fun history'' answer hs => ?_)
    cases answer with
    | error _ => exact hs
    | ok _ =>
      have hcommit : ∀ (rules : List (PolicyResponse String)) {history : List PushEvent},
          Settled history → PushSound planId (fun history' _ => Settled history') history
            (do
              let commitInfo ← commitCspChanges
              return (⟨rules,results,commitInfo⟩ : PushResult)) := by
        intro rules history hs
        refine Async.sound_bind ((commitCspChanges_sound hs).mono fun history' answer hs => ?_)
        cases answer with
        | error _ => exact hs
        | ok commitInfo => exact hs
      dsimp only
      split
      · exact hcommit [] hs
      · exact Async.sound_call_bind trivial (fun _ _ => hs.append rfl) fun rules _ =>
          hcommit rules (hs.append rfl)

/-- A push keeps to what a push does, and ends as a push does. -/
theorem pushExecutePlanRules_sound [PyUnicode] (hashFunc : String → String) (planId : ℕ) :
    PushSound planId PushEnd [] (pushExecutePlanRules hashFunc planId) := by
  have herror : ∀ (error : PyException) {history : List PushEvent},Settled history →
      PushEnd history (.error error : Except PyException PushResult) :=
    fun error history hs => ⟨hs,fun ⟨_,hv⟩ => by cases hv⟩
  have hstart : Settled [] := settled_of_none rfl
  refine Async.sound_call_bind rfl (fun error _ => herror error (hstart.append rfl))
    fun plan hplan => ?_
  have h1 : Settled ([]++[⟨.getPlan planId,.ok plan⟩]) := hstart.append rfl
  cases plan with
  | none => exact herror _ h1
  | some plan =>
    have hid : plan.id=planId := hplan
    dsimp only
    split
    · exact herror _ h1
    next hstatus =>
    have hpending : plan.pushStatus=.pending := by
      cases h : plan.pushStatus with
      | pending => rfl
      | executed => exact absurd h hstatus
    refine Async.sound_call_bind hid (fun error _ => herror error (h1.append rfl))
      fun planRules hrules => ?_
    split
    · exact herror _ (h1.append rfl)
    refine Async.sound_call_bind trivial
      (fun error _ => herror error ((h1.append rfl).append rfl)) fun scope _ => ?_
    split
    · exact herror _ ((h1.append rfl).append rfl)
    have hlisted : ∀ rule∈planRules,rule.id∈listedIds ([⟨.getPlan planId,.ok (some plan)⟩,
        ⟨.listPlanRules plan.id (some .new) (some [.pending]),.ok planRules⟩,
        ⟨.getMappingScopeData plan.mappingScopeId,.ok scope⟩,
        ⟨.acquire scope.cspProfileId scope.vpcId,.ok ()⟩] : List PushEvent) := by
      intro rule hr
      simp only [listedIds,List.flatMap_cons,listed,List.nil_append,List.mem_append]
      exact Or.inl (List.mem_map_of_mem hr)
    refine Async.sound_bind ((withGateway_sound scope.cspProfileId scope.vpcId
      (fun _ => ((h1.append rfl).append rfl).append rfl)
      (pushWithGateway_sound hashFunc hid hrules.1 (hid▸hrules.2) hlisted ?_ rfl rfl rfl)).mono
      fun history answer hs => ?_)
    · simp [readsPending,hpending]
    · cases answer with
      | error error => exact herror error hs
      | ok result =>
        refine Async.sound_call_bind hid (fun error _ => herror error (hs.append rfl))
          fun allPlanRules _ => ?_
        refine Async.sound_bind ((saveReport_sound scope result.commitInfo.commitId allPlanRules
          (hs.append rfl)).mono fun history' answer h => ?_)
        cases answer with
        | error error => exact herror error h.1
        | ok _ => exact ⟨h.1,fun _ => h.2 ⟨_,rfl⟩⟩

/-- The repository answers as it should for the plan of the pushes. -/
theorem answerOk_of_storeHandles {store after : PlanStore}
    (hentry : ∀ entry,store.get? planId=some entry → EntryWf planId entry) (event : PushEvent)
    (hspec : PushSpec planId history event.op)
    (h : storeHandles store event.op event.answer after) : AnswerOk event.op event.answer := by
  obtain ⟨op,answer⟩ := event
  cases op with
  | getPlan id =>
    obtain ⟨rfl,-⟩ := h
    cases hspec
    cases hget : store.get? planId with
    | none => simp [getPlan,hget,AnswerOk]
    | some entry =>
      have hid := (hentry entry hget).plan_id
      simp [getPlan,hget,AnswerOk,hid]
  | listPlanRules id matchStatus pushStatuses =>
    obtain ⟨rfl,-⟩ := h
    cases hspec
    exact ⟨nodup_listPlanRules hentry _ _,fun rule hr => (mem_listPlanRules hentry hr).1⟩
  | _ => exact trivial

end Spec

/-- A scope for the only device of a site. -/
def siteScope : MappingScopeData where
  id := 3
  title := "site"
  cspProfileId := 1
  vpcId := "vpc-1"
  sdwanTargetId := "device-1"
  rulesPriority := .localBlock
  catalogFingerprint := @getFingerprint asciiUnicode id ⟨[],[],[],[]⟩

/-- One new rule of plan 1. -/
def siteRule : StoredPlanRule where
  mappingScopeRuleId := 5
  priority := 10
  draft := ⟨⟨.accept,[],[],[],[],[]⟩,"allow"⟩
  matchedSdwanRuleId := none
  matchStatus := .new
  matchInfo := ""
  coverageDetails := []
  id := 7
  executePlanId := 1

/-- Plan 1 as prepared, with its rule. -/
def siteStore : PlanStore :=
  Dict.empty.insert 1 ⟨⟨1,3,siteScope.catalogFingerprint,.pending⟩,Dict.empty.insert 7 siteRule⟩

/-- A controller on which everything succeeds. -/
def siteAnswers : (op : PushOp) → Except PyException (PushAns op)
  | .getPlan _ => .ok none
  | .listPlanRules _ _ _ => .ok []
  | .getMappingScopeData _ => .ok siteScope
  | .acquire _ _ | .release | .saveReport _ | .commitReports => .ok ()
  | .getSdwanFullCatalog => .ok ⟨[],[],[],[]⟩
  | .updatePlan plan => .ok plan
  | .getSdwanDeviceObject devObjId => .ok (some ⟨devObjId,"edge",.device⟩)
  | .createPolicy _ _ => .ok 901
  | .updatePlanRule rule => .ok rule
  | .getPoliciesByIds _ => .ok []
  | .commitFullState => .ok 4
  | .getCommitInfo commitId => .ok ⟨commitId,"commit",""⟩
  | .discoverVpcs _ => .ok [⟨"vpc-1","project"⟩]

theorem storeWf_siteStore : StoreWf siteStore := by
  refine StoreWf.insert (fun planId entry he => by cases he) ⟨rfl,fun ruleId rule hr => ?_⟩
  rw [Dict.get?_insert] at hr
  split at hr
  · next hid =>
    cases hr
    exact ⟨hid.symm,rfl⟩
  · cases hr

end NspMigrator.ExecutePushSpec
