import Mathlib
import NspMigrator.ExecutePushSpec

/-!
# Pushing a plan once

A push tells a pushed plan from a new one when it reads the plan, and marks
the plan several operations later. Pushes of one plan that never read it
between the reading and the marking of another create every policy once.
-/

namespace NspMigrator.ExecutePushOnce

open PyAsync PyDict PyText SdwanModels SdwanFingerprint
open ExecuteRulesComparer ExecutePlan ExecuteRepository ExecutePush ExecutePushSpec

/-- Pushes of one plan, side by side. -/
abbrev PushPool (ι : Type) := Pool PlanStore ι PushOp PushAns PyException PushResult

section Interleaving

variable {ι : Type} [DecidableEq ι]

/-- A push that has marked the plan. -/
def Marked (pool : PushPool ι) (i : ι) : Prop := (Pool.history pool.trace i).any marks=true

/-- A push between its reading of the plan as new and its marking. -/
def Holding (planId : ℕ) (pool : PushPool ι) (i : ι) : Prop :=
  (Pool.history pool.trace i).any (readsPending planId)=true ∧ ¬Marked pool i ∧
    (pool.tasks i).ended=false

/-- No push reads the plan as new while another is between its reading and its marking. -/
def ReadAlone (planId : ℕ) (pool : PushPool ι) (label : Option (ι × PushEvent)) : Prop :=
  ∀ i event,label=some (i,event) → readsPending planId event=true →
    ∀ j,j≠i → ¬Holding planId pool j

/-- A push that has not begun, or has ended, holds nothing. -/
theorem not_holding_of_idle {planId : ℕ} {pool : PushPool ι} {i : ι} (h : Pool.Idle pool i) :
    ¬Holding planId pool i := by
  rintro ⟨hread,-,hlive⟩
  rcases h with hnone|hended
  · rw [hnone] at hread
    cases hread
  · rw [hended] at hlive
    cases hlive

/-- A push reads alone while the others have not begun, or have ended. -/
theorem readAlone_of_idle {planId : ℕ} {pool : PushPool ι} {i : ι}
    (h : ∀ j,j≠i → Pool.Idle pool j) (event : PushEvent) :
    ReadAlone planId pool (some (i,event)) := by
  intro k other hlabel _ j hj
  cases hlabel
  exact not_holding_of_idle (h j hj)

/-- What happens besides the pushes of a plan: its entry stays or expires. -/
def EntryKept (planId : ℕ) (store next : PlanStore) : Prop :=
  next.get? planId=store.get? planId ∨ next.get? planId=none

/-- A plan as it is prepared: not pushed, and without outcomes. -/
def PreparedAt (planId : ℕ) (store : PlanStore) : Prop :=
  ∀ entry,store.get? planId=some entry → EntryWf planId entry ∧
    entry.plan.pushStatus=.pending ∧ ∀ ruleId rule,entry.rules.get? ruleId=some rule →
      rule.pushStatus=.pending ∧ rule.pushedSdwanRuleId=none

/-- All creations so far. -/
def allCreations (pool : PushPool ι) : List (ℕ × Except PyException ℤ) :=
  creations (pool.trace.map Prod.snd)

/-- Every rule is created at most once, and recorded with the outcome of its creation. -/
structure PushedOnce (planId : ℕ) (pool : PushPool ι) : Prop where
  /-- No rule of the plan is created twice. -/
  once : ((allCreations pool).map Prod.fst).Nodup
  /-- Every rule of the plan has its own outcome. -/
  outcome : ∀ entry,pool.world.get? planId=some entry → ∀ ruleId rule,
    entry.rules.get? ruleId=some rule → OwnOutcome (allCreations pool) rule

/-- A push that holds the plan or has marked it. -/
def Claimed (planId : ℕ) (pool : PushPool ι) (i : ι) : Prop :=
  Marked pool i ∨ (Pool.history pool.trace i).any (readsPending planId)=true ∧
    (pool.tasks i).ended=false

/-- Pushes that never overlap: one at most claims the plan, only it creates
and records, and the plan is no longer new once it is marked. -/
structure Exclusive (planId : ℕ) (pool : PushPool ι) : Prop where
  /-- Every push keeps to what a push does. -/
  sound : pool.SoundAll (fun _ event => AnswerOk event.op event.answer) (PushSpec planId)
    PushEnd
  /-- The plan and its rules stand under their own numbers. -/
  entry : ∀ entry,pool.world.get? planId=some entry → EntryWf planId entry
  /-- One push at most claims the plan. -/
  single : ∀ i j,Claimed planId pool i → Claimed planId pool j → i=j
  /-- Once it is marked the plan is no longer new. -/
  executed : ∀ i,Marked pool i → ∀ entry,pool.world.get? planId=some entry →
    entry.plan.pushStatus=.executed
  /-- All policies were created by the push that marked the plan. -/
  created : ∀ i,Marked pool i → allCreations pool=creations (Pool.history pool.trace i)
  /-- None is created before. -/
  uncreated : (∀ i,¬Marked pool i) → allCreations pool=[]
  /-- Only the push that marked the plan records outcomes. -/
  records_marked : ∀ i,(Pool.history pool.trace i).any records=true → Marked pool i
  /-- A rule with an outcome was recorded. -/
  recorded : ∀ entry,pool.world.get? planId=some entry → ∀ ruleId rule,
    entry.rules.get? ruleId=some rule → rule.pushStatus≠.pending →
      ∃ i,(Pool.history pool.trace i).any records=true
  /-- Policies are created at most once, and rules have their own outcomes. -/
  once : PushedOnce planId pool

variable {planId : ℕ} {pool next : PushPool ι}

/-- Whoever holds the plan without having marked it claims it. -/
theorem claimed_iff {i : ι} : Claimed planId pool i ↔ Marked pool i ∨ Holding planId pool i := by
  unfold Claimed Holding
  tauto

/-- One step of one push: what it awaited and what may have changed. -/
structure Took (pool : PushPool ι) (k : ι) (event : PushEvent) (next : PushPool ι) : Prop where
  /-- The operation is the last of the trace. -/
  trace : next.trace=pool.trace++[(k,event)]
  /-- A push that has ended stays ended. -/
  ended : ∀ i,(next.tasks i).ended=false → (pool.tasks i).ended=false

section Took

variable {k : ι} {event : PushEvent} (h : Took pool k event next)

include h

theorem Took.any_history (p : PushEvent → Bool) (i : ι) :
    (Pool.history next.trace i).any p=true ↔
      (Pool.history pool.trace i).any p=true ∨ i=k ∧ p event=true := by
  rw [h.trace,Pool.any_history_append,Bool.or_eq_true,Bool.and_eq_true,decide_eq_true_eq]

omit [DecidableEq ι] in
theorem Took.allCreations : allCreations next=allCreations pool++(creation event).toList := by
  rw [ExecutePushOnce.allCreations,h.trace,List.map_append,List.map_singleton,creations_append]
  rfl

theorem Took.creations_history (i : ι) : creations (Pool.history next.trace i)=
    creations (Pool.history pool.trace i)++if i=k then (creation event).toList else [] := by
  rw [h.trace]
  by_cases hi : i=k
  · rw [if_pos hi,hi,Pool.history_append_self,creations_append]
  · rw [if_neg hi,Pool.history_append_of_ne _ (Ne.symm hi),List.append_nil]

theorem Took.marked_iff (i : ι) : Marked next i ↔ Marked pool i ∨ i=k ∧ marks event=true :=
  h.any_history marks i

/-- A step claims the plan only for its own push, by reading or marking it. -/
theorem Took.claimed {i : ι} (hi : Claimed planId next i) : Claimed planId pool i ∨
    i=k ∧ (readsPending planId event=true ∨ marks event=true) := by
  rcases hi with hi|⟨hi,hended⟩
  · rcases (h.marked_iff i).mp hi with hi|hi
    · exact Or.inl (Or.inl hi)
    · exact Or.inr ⟨hi.1,Or.inr hi.2⟩
  · rcases (h.any_history _ i).mp hi with hi|hi
    · exact Or.inl (Or.inr ⟨hi,h.ended i hended⟩)
    · exact Or.inr ⟨hi.1,Or.inl hi.2⟩

end Took

/-- Operations that neither mark, create nor record keep pushes apart. -/
theorem Exclusive.keep (hinv : Exclusive planId pool) {k : ι} {event : PushEvent}
    (h : Took pool k event next)
    (hsound : next.SoundAll (fun _ event => AnswerOk event.op event.answer) (PushSpec planId)
      PushEnd)
    (hsingle : ∀ i j,Claimed planId next i → Claimed planId next j → i=j)
    (hworld : next.world=pool.world) (hmarks : marks event=false) (hrecords : records event=false)
    (hcreation : creation event=none) : Exclusive planId next := by
  have hmarked : ∀ i,Marked next i ↔ Marked pool i := by
    intro i
    rw [h.marked_iff,hmarks]
    simp
  have hrecs : ∀ i,(Pool.history next.trace i).any records=true ↔
      (Pool.history pool.trace i).any records=true := by
    intro i
    rw [h.any_history,hrecords]
    simp
  have hall : allCreations next=allCreations pool := by
    rw [h.allCreations,hcreation]
    exact List.append_nil _
  have hown : ∀ i,creations (Pool.history next.trace i)=creations (Pool.history pool.trace i) := by
    intro i
    rw [h.creations_history,hcreation]
    simp
  constructor
  case sound => exact hsound
  case entry => rw [hworld]; exact hinv.entry
  case single => exact hsingle
  case executed => rw [hworld]; exact fun i hi => hinv.executed i ((hmarked i).mp hi)
  case created => exact fun i hi => by rw [hall,hown]; exact hinv.created i ((hmarked i).mp hi)
  case uncreated =>
    exact fun hi => by rw [hall]; exact hinv.uncreated fun i h' => hi i ((hmarked i).mpr h')
  case records_marked =>
    exact fun i hi => (hmarked i).mpr (hinv.records_marked i ((hrecs i).mp hi))
  case recorded =>
    rw [hworld]
    intro entry he ruleId rule hr hp
    obtain ⟨i,hi⟩ := hinv.recorded entry he ruleId rule hr hp
    exact ⟨i,(hrecs i).mpr hi⟩
  case once =>
    refine ⟨by rw [hall]; exact hinv.once.once,?_⟩
    rw [hworld,hall]
    exact hinv.once.outcome

/-- Marking the plan: only the push that holds it does. -/
theorem Exclusive.mark (hinv : Exclusive planId pool) {k : ι} {plan marked : ExecutePlan}
    (h : Took pool k ⟨.updatePlan plan,.ok marked⟩ next)
    (hsound : next.SoundAll (fun _ event => AnswerOk event.op event.answer) (PushSpec planId)
      PushEnd)
    (hspec : PushSpec planId (Pool.history pool.trace k) (.updatePlan plan))
    (hended : (pool.tasks k).ended=false)
    (hworld : updatePlan pool.world plan=.ok (next.world,marked)) : Exclusive planId next := by
  obtain ⟨hid,hexecuted,hread,hunmarked⟩ := hspec
  obtain ⟨stored,hstored,hnext,-⟩ := updatePlan_eq_ok.mp hworld
  have hclaim : Claimed planId pool k := Or.inr ⟨hread,hended⟩
  have hnone : ∀ i,¬Marked pool i := by
    intro i hi
    have hik : i=k := hinv.single i k (Or.inl hi) hclaim
    rw [hik,Marked,hunmarked] at hi
    cases hi
  have hclaimed : ∀ i,Claimed planId next i → i=k := by
    intro i hi
    rcases h.claimed hi with hi|hi
    · exact hinv.single i k hi hclaim
    · exact hi.1
  have hentry : ∀ entry,next.world.get? planId=some entry →
      entry=⟨plan,stored.rules⟩ := by
    intro entry he
    rw [hnext,hid,Dict.get?_insert_self] at he
    cases he
    rfl
  have hall : allCreations next=[] := by
    rw [h.allCreations,hinv.uncreated hnone]
    rfl
  rw [hid] at hstored
  constructor
  case sound => exact hsound
  case entry =>
    intro entry he
    rw [hentry entry he]
    exact ⟨hid,(hinv.entry stored hstored).rule_id⟩
  case single => exact fun i j hi hj => (hclaimed i hi).trans (hclaimed j hj).symm
  case executed =>
    intro i _ entry he
    rw [hentry entry he]
    exact hexecuted
  case created =>
    intro i hi
    rw [hall]
    have hsub := ((Pool.history_sublist next.trace i).filterMap creation)
    have hnil : creations (next.trace.map Prod.snd)=[] := hall
    rw [creations] at hnil
    rw [hnil] at hsub
    exact (List.sublist_nil.mp hsub).symm
  case uncreated => exact fun _ => hall
  case records_marked =>
    intro i hi
    rcases (h.any_history records i).mp hi with hi|hi
    · exact absurd (hinv.records_marked i hi) (hnone i)
    · cases hi.2
  case recorded =>
    intro entry he ruleId rule hr hp
    rw [hentry entry he] at hr
    obtain ⟨i,hi⟩ := hinv.recorded stored hstored ruleId rule hr hp
    exact ⟨i,(h.any_history records i).mpr (Or.inl hi)⟩
  case once =>
    refine ⟨by rw [hall]; exact List.nodup_nil,?_⟩
    intro entry he ruleId rule hr
    rw [hentry entry he] at hr
    have hout := hinv.once.outcome stored hstored ruleId rule hr
    rw [hinv.uncreated hnone] at hout
    rw [hall]
    exact hout

/-- Creating a policy: only the push that marked the plan does, before it
records anything. -/
theorem Exclusive.create (hinv : Exclusive planId pool) {k : ι} {planRuleId : ℕ}
    {request : CreatePolicyRequest} {answer : Except PyException ℤ}
    (h : Took pool k ⟨.createPolicy planRuleId request,answer⟩ next)
    (hsound : next.SoundAll (fun _ event => AnswerOk event.op event.answer) (PushSpec planId)
      PushEnd)
    (hspec : PushSpec planId (Pool.history pool.trace k) (.createPolicy planRuleId request))
    (hworld : next.world=pool.world) : Exclusive planId next := by
  obtain ⟨hmarks,hnew,hrecords⟩ := hspec
  have hk : Marked pool k := hmarks
  have hmarked : ∀ i,Marked next i ↔ Marked pool i := by
    intro i
    rw [h.marked_iff]
    simp [marks]
  have honly : ∀ i,Marked pool i → i=k := fun i hi => hinv.single i k (Or.inl hi) (Or.inl hk)
  have hrecs : ∀ i,(Pool.history next.trace i).any records=true →
      (Pool.history pool.trace i).any records=true := by
    intro i hi
    rcases (h.any_history records i).mp hi with hi|hi
    · exact hi
    · cases hi.2
  have hnorec : ∀ i,(Pool.history pool.trace i).any records=false := by
    intro i
    by_contra hi
    rw [Bool.not_eq_false] at hi
    have hik := honly i (hinv.records_marked i hi)
    rw [hik,hrecords] at hi
    cases hi
  have hall : allCreations next=allCreations pool++[(planRuleId,answer)] := h.allCreations
  have hpool := hinv.created k hk
  constructor
  case sound => exact hsound
  case entry => rw [hworld]; exact hinv.entry
  case single =>
    intro i j hi hj
    have hback : ∀ i,Claimed planId next i → Claimed planId pool i := by
      intro i hi
      rcases h.claimed hi with hi|⟨-,hi|hi⟩
      · exact hi
      · cases hi
      · cases hi
    exact hinv.single i j (hback i hi) (hback j hj)
  case executed => rw [hworld]; exact fun i hi => hinv.executed i ((hmarked i).mp hi)
  case created =>
    intro i hi
    rw [honly i ((hmarked i).mp hi),hall,hpool,h.creations_history,if_pos rfl]
    rfl
  case uncreated => exact fun hno => absurd ((hmarked k).mpr hk) (hno k)
  case records_marked =>
    exact fun i hi => (hmarked i).mpr (hinv.records_marked i (hrecs i hi))
  case recorded =>
    rw [hworld]
    intro entry he ruleId rule hr hp
    obtain ⟨i,hi⟩ := hinv.recorded entry he ruleId rule hr hp
    rw [hnorec i] at hi
    cases hi
  case once =>
    constructor
    · rw [hall,List.map_append,List.map_singleton,List.nodup_append]
      refine ⟨hinv.once.once,List.nodup_singleton _,?_⟩
      intro a ha b hb hab
      rw [List.mem_singleton.mp hb] at hab
      rw [hab,hpool] at ha
      exact hnew ha
    · rw [hworld]
      intro entry he ruleId rule hr
      by_cases hp : rule.pushStatus=.pending
      · have hout := hinv.once.outcome entry he ruleId rule hr
        unfold OwnOutcome at hout ⊢
        rw [hp] at hout ⊢
        exact hout
      · obtain ⟨i,hi⟩ := hinv.recorded entry he ruleId rule hr hp
        rw [hnorec i] at hi
        cases hi

/-- Recording an outcome: only the push that created the policies does. -/
theorem Exclusive.record (hinv : Exclusive planId pool) {k : ι} {rule : StoredPlanRule}
    {answer : Except PyException StoredPlanRule}
    (h : Took pool k ⟨.updatePlanRule rule,answer⟩ next)
    (hsound : next.SoundAll (fun _ event => AnswerOk event.op event.answer) (PushSpec planId)
      PushEnd)
    (hspec : PushSpec planId (Pool.history pool.trace k) (.updatePlanRule rule))
    (hworld : next.world=pool.world ∨ ∃ result,
      updatePlanRule pool.world rule=.ok (next.world,result)) : Exclusive planId next := by
  obtain ⟨hmarks,hplan,hdone,hout,-⟩ := hspec
  have hk : Marked pool k := hmarks
  have hmarked : ∀ i,Marked next i ↔ Marked pool i := by
    intro i
    rw [h.marked_iff]
    simp [marks]
  have hrecs : ∀ i,(Pool.history pool.trace i).any records=true →
      (Pool.history next.trace i).any records=true :=
    fun i hi => (h.any_history records i).mpr (Or.inl hi)
  have hreck : (Pool.history next.trace k).any records=true :=
    (h.any_history records k).mpr (Or.inr ⟨rfl,rfl⟩)
  have hall : allCreations next=allCreations pool := by
    rw [h.allCreations]
    exact List.append_nil _
  have hown : ∀ i,creations (Pool.history next.trace i)=creations (Pool.history pool.trace i) := by
    intro i
    rw [h.creations_history]
    simp [creation]
  -- the entry afterwards: the same, or with the rule replaced
  have hentry : ∀ entry,next.world.get? planId=some entry → ∃ old,
      pool.world.get? planId=some old ∧ entry.plan=old.plan ∧ ∀ ruleId stored,
        entry.rules.get? ruleId=some stored → old.rules.get? ruleId=some stored ∨
          stored=rule ∧ ruleId=rule.id := by
    intro entry he
    rcases hworld with hsame|⟨result,hupdate⟩
    · rw [hsame] at he
      exact ⟨entry,he,rfl,fun _ _ hr => Or.inl hr⟩
    · obtain ⟨old,hold,-,hnext,-⟩ := updatePlanRule_eq_ok.mp hupdate
      rw [hplan] at hold hnext
      rw [hnext,Dict.get?_insert_self] at he
      cases he
      refine ⟨old,hold,rfl,fun ruleId stored hr => ?_⟩
      rw [Dict.get?_insert] at hr
      split at hr
      · next hid =>
        cases hr
        exact Or.inr ⟨rfl,hid⟩
      · exact Or.inl hr
  constructor
  case sound => exact hsound
  case entry =>
    intro entry he
    obtain ⟨old,hold,hsame,hrules⟩ := hentry entry he
    refine ⟨hsame▸(hinv.entry old hold).plan_id,fun ruleId stored hr => ?_⟩
    rcases hrules ruleId stored hr with hr|⟨rfl,hid⟩
    · exact (hinv.entry old hold).rule_id ruleId stored hr
    · exact ⟨hid.symm,hplan⟩
  case single =>
    intro i j hi hj
    have hback : ∀ i,Claimed planId next i → Claimed planId pool i := by
      intro i hi
      rcases h.claimed hi with hi|⟨-,hi|hi⟩
      · exact hi
      · cases hi
      · cases hi
    exact hinv.single i j (hback i hi) (hback j hj)
  case executed =>
    intro i hi entry he
    obtain ⟨old,hold,hsame,-⟩ := hentry entry he
    rw [hsame]
    exact hinv.executed i ((hmarked i).mp hi) old hold
  case created => exact fun i hi => by rw [hall,hown]; exact hinv.created i ((hmarked i).mp hi)
  case uncreated => exact fun hno => absurd ((hmarked k).mpr hk) (hno k)
  case records_marked =>
    intro i hi
    rcases (h.any_history records i).mp hi with hi|⟨rfl,-⟩
    · exact (hmarked i).mpr (hinv.records_marked i hi)
    · exact (hmarked i).mpr hk
  case recorded =>
    intro entry he ruleId stored hr hp
    obtain ⟨old,hold,-,hrules⟩ := hentry entry he
    rcases hrules ruleId stored hr with hr|⟨rfl,-⟩
    · obtain ⟨i,hi⟩ := hinv.recorded old hold ruleId stored hr hp
      exact ⟨i,hrecs i hi⟩
    · exact ⟨k,hreck⟩
  case once =>
    refine ⟨by rw [hall]; exact hinv.once.once,fun entry he ruleId stored hr => ?_⟩
    rw [hall]
    obtain ⟨old,hold,-,hrules⟩ := hentry entry he
    rcases hrules ruleId stored hr with hr|⟨rfl,-⟩
    · exact hinv.once.outcome old hold ruleId stored hr
    · rw [hinv.created k hk]
      exact hout

/-- What happens besides the pushes keeps them apart. -/
theorem Exclusive.world (hinv : Exclusive planId pool) {world : PlanStore}
    (hkept : EntryKept planId pool.world world) :
    Exclusive planId ({ pool with world := world } : PushPool ι) := by
  have hentry : ∀ entry,world.get? planId=some entry → pool.world.get? planId=some entry := by
    intro entry he
    rcases hkept with hsame|hnone
    · rwa [←hsame]
    · rw [hnone] at he
      cases he
  exact ⟨hinv.sound,fun entry he => hinv.entry entry (hentry entry he),hinv.single,
    fun i hi entry he => hinv.executed i hi entry (hentry entry he),hinv.created,
    hinv.uncreated,hinv.records_marked,
    fun entry he => hinv.recorded entry (hentry entry he),
    hinv.once.once,fun entry he => hinv.once.outcome entry (hentry entry he)⟩

/-- Every allowed step keeps pushes apart. -/
theorem Exclusive.step (hinv : Exclusive planId pool) {label : Option (ι × PushEvent)}
    (hallowed : ReadAlone planId pool label)
    (hstep : Pool.Step storeHandles (EntryKept planId) pool label next) :
    Exclusive planId next := by
  cases label with
  | none =>
    cases hstep with
    | world hothers => exact hinv.world hothers
  | some entry =>
    obtain ⟨k,event⟩ := entry
    obtain ⟨htrace,hhandles,hlive,hended⟩ := hstep.trace_eq
    obtain ⟨hspec,hnext⟩ := hinv.sound.step hstep
    have hsound := hnext (answerOk_of_storeHandles hinv.entry _ hspec hhandles)
    have htook : Took pool k event next := ⟨htrace,hended⟩
    have hquiet : ∀ i j,readsPending planId event=false → marks event=false →
        Claimed planId next i → Claimed planId next j → i=j := by
      intro i j hread hmarks hi hj
      have hback : ∀ i,Claimed planId next i → Claimed planId pool i := by
        intro i hi
        rcases htook.claimed hi with hi|⟨-,hi|hi⟩
        · exact hi
        · rw [hread] at hi
          cases hi
        · rw [hmarks] at hi
          cases hi
      exact hinv.single i j (hback i hi) (hback j hj)
    obtain ⟨op,answer⟩ := event
    cases op with
    | getPlan id =>
      obtain ⟨rfl,hworld⟩ := hhandles
      refine hinv.keep htook hsound ?_ hworld rfl rfl rfl
      cases hread : readsPending planId ⟨.getPlan id,.ok (getPlan pool.world id)⟩ with
      | false => exact fun i j => hquiet i j hread rfl
      | true =>
        -- nobody else holds the plan, and nobody has marked it
        have hothers : ∀ i,Claimed planId pool i → i=k := by
          intro i hi
          by_contra hne
          rcases claimed_iff.mp hi with hm|hh
          · cases hspec
            cases hget : pool.world.get? planId with
            | none => simp [readsPending,getPlan,hget] at hread
            | some entry =>
              have he := hinv.executed i hm entry hget
              simp [readsPending,getPlan,hget,he] at hread
          · exact hallowed k _ rfl hread i hne hh
        have hclaimed : ∀ i,Claimed planId next i → i=k := by
          intro i hi
          rcases htook.claimed hi with hi|hi
          · exact hothers i hi
          · exact hi.1
        exact fun i j hi hj => (hclaimed i hi).trans (hclaimed j hj).symm
    | updatePlan plan =>
      rcases storeHandles_updatePlan hhandles with ⟨marked,rfl,hupdate⟩|⟨error,rfl,-,hworld⟩
      · exact hinv.mark htook hsound hspec hlive hupdate
      · exact hinv.keep htook hsound (fun i j => hquiet i j rfl rfl) hworld rfl rfl rfl
    | createPolicy planRuleId request => exact hinv.create htook hsound hspec hhandles
    | updatePlanRule rule =>
      refine hinv.record htook hsound hspec ?_
      rcases storeHandles_updatePlanRule hhandles with ⟨result,-,hupdate⟩|⟨error,-,-,hworld⟩
      · exact Or.inr ⟨result,hupdate⟩
      · exact Or.inl hworld
    | listPlanRules id matchStatus pushStatuses =>
      exact hinv.keep htook hsound (fun i j => hquiet i j rfl rfl) hhandles.2 rfl rfl rfl
    | _ => exact hinv.keep htook hsound (fun i j => hquiet i j rfl rfl) hhandles rfl rfl rfl

/-- Before any step, nothing is claimed, created or recorded. -/
theorem exclusive_start [PyUnicode] (hashFunc : String → String) {store : PlanStore}
    (hprep : PreparedAt planId store) :
    Exclusive planId (⟨store,fun _ => pushExecutePlanRules hashFunc planId,[]⟩ : PushPool ι) := by
  constructor
  case sound => exact Pool.soundAll_start fun _ => pushExecutePlanRules_sound hashFunc planId
  case entry => exact fun entry he => (hprep entry he).1
  case single =>
    rintro i j (hi|⟨hi,-⟩)
    · cases hi
    · cases hi
  case executed => exact fun i hi => by cases hi
  case created => exact fun i hi => by cases hi
  case uncreated => exact fun _ => rfl
  case records_marked => exact fun i hi => by cases hi
  case recorded =>
    intro entry he ruleId rule hr hp
    exact absurd ((hprep entry he).2.2 ruleId rule hr).1 hp
  case once =>
    refine ⟨List.nodup_nil,fun entry he ruleId rule hr => ?_⟩
    obtain ⟨hp,hnone⟩ := (hprep entry he).2.2 ruleId rule hr
    unfold OwnOutcome
    rw [hp]
    exact hnone

/-- Any number of pushes of a prepared plan, with their operations in any
order, create every policy at most once and record its own outcome, as long as
none reads the plan as new between the reading and the marking of another. -/
theorem pushedOnce_of_readAlone [PyUnicode] (hashFunc : String → String) {store : PlanStore}
    (hprep : PreparedAt planId store)
    (hrun : Pool.Run storeHandles (EntryKept planId) (ReadAlone planId)
      ⟨store,fun _ => pushExecutePlanRules hashFunc planId,[]⟩ pool) : PushedOnce planId pool := by
  have hinv : Exclusive planId pool := hrun.inv (exclusive_start hashFunc hprep)
    fun _ _ _ hinv hallowed hstep => hinv.step hallowed hstep
  exact hinv.once

end Interleaving

/-- Pushes of plan 1 in the given order of steps. -/
def sitePushes {ι : Type} [DecidableEq ι] (order : List ι) : PushPool ι :=
  order.foldl (Pool.advance (storeOracle siteAnswers))
    ⟨siteStore,fun _ => @pushExecutePlanRules asciiUnicode id 1,[]⟩

theorem preparedAt_siteStore : PreparedAt 1 siteStore := by
  intro entry he
  refine ⟨storeWf_siteStore 1 entry he,?_⟩
  have hentry : siteStore.get? 1=some ⟨⟨1,3,siteScope.catalogFingerprint,.pending⟩,
      Dict.empty.insert 7 siteRule⟩ := Dict.get?_insert_self _ _ _
  rw [hentry,Option.some.injEq] at he
  subst he
  refine ⟨rfl,fun ruleId rule hr => ?_⟩
  rw [Dict.get?_insert] at hr
  split at hr
  · cases hr
    exact ⟨rfl,rfl⟩
  · cases hr

/-- Two pushes of the plan: the second begins once the first has marked it, and
the first goes on. -/
def inTurn : List Bool := List.replicate 6 true++[false]++List.replicate 15 true

/-- The second push finds the plan marked, so that its policy is created once. -/
theorem pushedOnce_sitePushes : PushedOnce 1 (sitePushes inTurn) ∧
    (allCreations (sitePushes inTurn)).map Prod.fst=[7] ∧
    (∀ i,((sitePushes inTurn).tasks i).ended=true) ∧
    (Pool.history (sitePushes inTurn).trace false).length=1 := by
  have horacle := storeHandles_storeOracle siteAnswers
  -- the first push is alone until it has marked the plan
  have hfirst : Pool.Run storeHandles (EntryKept 1) (ReadAlone 1)
      ⟨siteStore,fun _ => @pushExecutePlanRules asciiUnicode id 1,[]⟩
      (sitePushes (List.replicate 6 true)) :=
    Pool.run_alone horacle (fun _ => readAlone_of_idle) .start (fun _ _ => Or.inl rfl) 6
  have hmarked : Marked (sitePushes (List.replicate 6 true)) true := by
    unfold Marked
    decide +kernel
  -- the second reads a plan the first holds no longer
  have hsecond : Pool.Run storeHandles (EntryKept 1) (ReadAlone 1)
      ⟨siteStore,fun _ => @pushExecutePlanRules asciiUnicode id 1,[]⟩
      (sitePushes (List.replicate 6 true++[false])) := by
    rw [sitePushes,List.foldl_append]
    refine Pool.run_schedule_of_keeps horacle (fun pool => Marked pool true)
      (fun pool i hi hm => ?_) (fun pool i hi hm event => ?_) hfirst hmarked
    · rw [List.mem_singleton.mp hi,Marked,(Pool.advance_others _ pool Bool.false_ne_true).1]
      exact hm
    · rintro i' event' hlabel - j hj ⟨-,hnot,-⟩
      cases hlabel
      have hj' : j=true := by
        rw [List.mem_singleton.mp hi] at hj
        exact Bool.eq_true_of_not_eq_false hj
      exact hnot (hj'▸hm)
  have hended : ((sitePushes (List.replicate 6 true++[false])).tasks false).ended=true := by
    decide +kernel
  have hthird : Pool.Run storeHandles (EntryKept 1) (ReadAlone 1)
      ⟨siteStore,fun _ => @pushExecutePlanRules asciiUnicode id 1,[]⟩ (sitePushes inTurn) := by
    rw [sitePushes,inTurn,List.foldl_append]
    refine Pool.run_alone horacle (fun _ => readAlone_of_idle) hsecond (fun j hj => Or.inr ?_) 15
    rw [Bool.eq_false_of_not_eq_true hj]
    exact hended
  refine ⟨@pushedOnce_of_readAlone Bool _ 1 _ asciiUnicode id _ preparedAt_siteStore hthird,
    ?_,?_,?_⟩
  all_goals decide +kernel

/-- Two pushes that both read the plan before either marks it create its policy twice. -/
theorem pushedTwice_sitePushes : PreparedAt 1 siteStore ∧
    Pool.Run storeHandles (EntryKept 1) (fun _ _ => True)
      ⟨siteStore,fun _ => @pushExecutePlanRules asciiUnicode id 1,[]⟩
      (sitePushes ([true,true,false,false]++List.replicate 6 true++List.replicate 6 false)) ∧
    ¬PushedOnce 1
      (sitePushes ([true,true,false,false]++List.replicate 6 true++List.replicate 6 false)) := by
  refine ⟨preparedAt_siteStore,Pool.run_schedule (storeHandles_storeOracle siteAnswers)
    (fun _ _ => trivial) _ _,fun h => ?_⟩
  have htwice : (allCreations (sitePushes ([true,true,false,false]++List.replicate 6 true++
      List.replicate 6 false))).map Prod.fst=[7,7] := by decide +kernel
  have honce := h.once
  rw [htwice] at honce
  exact absurd honce (by decide)

end NspMigrator.ExecutePushOnce
