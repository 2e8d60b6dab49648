import Mathlib
import NspMigrator.PyDict
import NspMigrator.ExecutePlan

/-!
# Stored execute plans

A plan and its rules are one cache entry. Reading and writing go through the
entry as a whole, and an entry may be evicted between any two operations.
-/

namespace NspMigrator.ExecuteRepository

open PyDict ExecuteRulesComparer ExecutePlan

/-- An exception: the name of its class and its text. -/
structure PyException where
  /-- The class of the exception. -/
  typeName : String
  /-- Its text. -/
  message : String
  deriving DecidableEq

/-- The text of an exception, or else the name of its class. -/
def PyException.text (error : PyException) : String :=
  if error.message="" then error.typeName else error.message

/-- Whether the one permitted push of a plan has started. -/
inductive ExecutePlanPushStatus where
  | pending
  | executed
  deriving DecidableEq

/-- A prepared plan of a mapping scope. -/
structure ExecutePlan where
  /-- The number of the plan. -/
  id : ℕ
  /-- The scope it was prepared from. -/
  mappingScopeId : ℕ
  /-- The fingerprint of the catalog it was prepared with. -/
  catalogFingerprint : String
  /-- Whether it has been pushed. -/
  pushStatus : ExecutePlanPushStatus := .pending
  deriving DecidableEq

/-- The plan after its one permitted push has started. -/
def ExecutePlan.markPushExecuted (plan : ExecutePlan) : ExecutePlan :=
  { plan with pushStatus := .executed }

/-- A plan rule under its identifier, with the outcome of its creation. -/
structure StoredPlanRule extends ExecutePlanRule where
  /-- The number of the rule. -/
  id : ℕ
  /-- The plan it belongs to. -/
  executePlanId : ℕ
  /-- The policy created for it. -/
  pushedSdwanRuleId : Option ℤ := none
  /-- Why none was. -/
  pushError : Option String := none
  deriving DecidableEq

/-- The rule with its confirmed creation. -/
def StoredPlanRule.markPushSucceeded (rule : StoredPlanRule) (sdwanRuleId : ℤ) :
    StoredPlanRule :=
  { rule with pushStatus := .succeeded, pushedSdwanRuleId := some sdwanRuleId, pushError := none }

/-- The rule with its failed creation. -/
def StoredPlanRule.markPushFailed (rule : StoredPlanRule) (error : String) : StoredPlanRule :=
  { rule with pushStatus := .failed, pushedSdwanRuleId := none, pushError := some error }

/-- A plan with its rules. -/
structure ExecutePlanCacheEntry where
  /-- The plan. -/
  plan : ExecutePlan
  /-- Its rules by number. -/
  rules : Dict ℕ StoredPlanRule

/-- The plans in the cache. -/
abbrev PlanStore := Dict ℕ ExecutePlanCacheEntry

/-- The rules of a new plan by identifier. -/
def collectRules (plan : ExecutePlan) :
    List StoredPlanRule → Dict ℕ StoredPlanRule → Except PyException (Dict ℕ StoredPlanRule)
  | [],rulesById => .ok rulesById
  | rule::rules,rulesById =>
    if rule.executePlanId≠plan.id then
      .error ⟨"ValueError","ExecutePlanRule belongs to another plan"⟩
    else if rulesById.contains rule.id=true then
      .error ⟨"ValueError","Execute plan rule "++toString rule.id++" already exists"⟩
    else collectRules plan rules (rulesById.insert rule.id rule)

/-- Store a new plan with its rules. -/
def addPlanWithRules (store : PlanStore) (plan : ExecutePlan) (rules : List StoredPlanRule) :
    Except PyException PlanStore :=
  match store.get? plan.id with
  | some _ => .error ⟨"ValueError","Execute plan "++toString plan.id++" already exists"⟩
  | none => do
    let rulesById ← collectRules plan rules .empty
    return store.insert plan.id ⟨plan,rulesById⟩

/-- The stored plan. -/
def getPlan (store : PlanStore) (planId : ℕ) : Option ExecutePlan :=
  (store.get? planId).map (·.plan)

/-- Replace a stored plan, keeping its rules. -/
def updatePlan (store : PlanStore) (plan : ExecutePlan) :
    Except PyException (PlanStore × ExecutePlan) :=
  match store.get? plan.id with
  | none => .error ⟨"ValueError","Execute plan "++toString plan.id++" not found"⟩
  | some entry => .ok (store.insert plan.id ⟨plan,entry.rules⟩,plan)

/-- Replace a stored rule, keeping its plan and the other rules. -/
def updatePlanRule (store : PlanStore) (rule : StoredPlanRule) :
    Except PyException (PlanStore × StoredPlanRule) :=
  match store.get? rule.executePlanId with
  | none => .error ⟨"ValueError","Execute plan "++toString rule.executePlanId++" not found"⟩
  | some entry =>
    if entry.rules.contains rule.id=true then
      .ok (store.insert rule.executePlanId ⟨entry.plan,entry.rules.insert rule.id rule⟩,rule)
    else .error ⟨"ValueError","Execute plan rule "++toString rule.id++" not found"⟩

/-- Whether a rule has the wanted statuses. -/
def matchesFilters (matchStatus : Option RuleMatchStatus)
    (pushStatuses : Option (List RulePushStatus)) (rule : StoredPlanRule) : Bool :=
  (matchStatus.all fun status => decide (rule.matchStatus=status)) &&
    (pushStatuses.all fun statuses => decide (rule.pushStatus∈statuses))

/-- The stored rules of a plan with the wanted statuses, by priority. -/
def listPlanRules (store : PlanStore) (planId : ℕ) (matchStatus : Option RuleMatchStatus)
    (pushStatuses : Option (List RulePushStatus)) : List StoredPlanRule :=
  match store.get? planId with
  | none => []
  | some entry => (entry.rules.values.filter
      (matchesFilters matchStatus pushStatuses)).insertionSort
      fun a b => a.priority≤b.priority

/-- Some entries expire, all others stay as they are. -/
def Evicts (store next : PlanStore) : Prop :=
  ∀ planId,next.get? planId=store.get? planId ∨ next.get? planId=none

/-- The rules of an entry lie under their own identifiers and belong to its plan. -/
structure EntryWf (planId : ℕ) (entry : ExecutePlanCacheEntry) : Prop where
  /-- The plan stands under its own number. -/
  plan_id : entry.plan.id=planId
  /-- So do its rules, and they belong to it. -/
  rule_id : ∀ ruleId rule,entry.rules.get? ruleId=some rule →
    rule.id=ruleId ∧ rule.executePlanId=planId

/-- Every stored plan lies under its own identifier, with its own rules. -/
def StoreWf (store : PlanStore) : Prop :=
  ∀ planId entry,store.get? planId=some entry → EntryWf planId entry

/-- A new plan's rules lie under their identifiers. -/
theorem collectRules_wf {plan : ExecutePlan} {rules : List StoredPlanRule}
    {start rulesById : Dict ℕ StoredPlanRule}
    (hstart : ∀ ruleId rule,start.get? ruleId=some rule →
      rule.id=ruleId ∧ rule.executePlanId=plan.id)
    (h : collectRules plan rules start=.ok rulesById) :
    ∀ ruleId rule,rulesById.get? ruleId=some rule →
      rule.id=ruleId ∧ rule.executePlanId=plan.id := by
  induction rules generalizing start with
  | nil =>
    cases h
    exact hstart
  | cons rule rules ih =>
    rw [collectRules] at h
    split at h
    · cases h
    next hplan =>
    split at h
    · cases h
    refine ih ?_ h
    intro ruleId other ho
    rw [Dict.get?_insert] at ho
    split at ho
    · next hid =>
      cases ho
      exact ⟨hid.symm,not_not.mp hplan⟩
    · exact hstart ruleId other ho

/-- The rules of a new plan are the given ones. -/
theorem mem_of_collectRules {plan : ExecutePlan} {rules : List StoredPlanRule}
    {start rulesById : Dict ℕ StoredPlanRule} (h : collectRules plan rules start=.ok rulesById)
    {ruleId : ℕ} {rule : StoredPlanRule} (hr : rulesById.get? ruleId=some rule) :
    start.get? ruleId=some rule ∨ rule∈rules := by
  induction rules generalizing start with
  | nil =>
    cases h
    exact Or.inl hr
  | cons first rules ih =>
    rw [collectRules] at h
    split at h
    · cases h
    split at h
    · cases h
    rcases ih h with hstart|hm
    · rw [Dict.get?_insert] at hstart
      split at hstart
      · cases hstart
        exact Or.inr List.mem_cons_self
      · exact Or.inl hstart
    · exact Or.inr (List.mem_cons_of_mem first hm)

/-- A new plan is stored with the given rules, under an identifier not used before. -/
theorem addPlanWithRules_eq_ok {store next : PlanStore} {plan : ExecutePlan}
    {rules : List StoredPlanRule} (h : addPlanWithRules store plan rules=.ok next) :
    store.get? plan.id=none ∧ ∃ rulesById,next=store.insert plan.id ⟨plan,rulesById⟩ ∧
      ∀ rule∈rulesById.values,rule∈rules := by
  unfold addPlanWithRules at h
  split at h
  · cases h
  next hnone =>
  obtain ⟨rulesById,hrules,hnext⟩ := PyExcept.bind_eq_ok.mp h
  refine ⟨hnone,rulesById,(PyExcept.pure_eq_ok.mp hnext).symm,fun rule hr => ?_⟩
  obtain ⟨ruleId,hget⟩ := Dict.exists_get?_of_mem_values hr
  rcases mem_of_collectRules hrules hget with hstart|hm
  · rw [Dict.get?_empty] at hstart
    cases hstart
  · exact hm

/-- A plan is replaced exactly where there is an entry for it. -/
theorem updatePlan_eq_ok {store next : PlanStore} {plan result : ExecutePlan} :
    updatePlan store plan=.ok (next,result) ↔ ∃ entry,store.get? plan.id=some entry ∧
      next=store.insert plan.id ⟨plan,entry.rules⟩ ∧ result=plan := by
  unfold updatePlan
  cases store.get? plan.id with
  | none => simp
  | some entry => simp [eq_comm]

/-- A rule is replaced exactly where there is an entry with it. -/
theorem updatePlanRule_eq_ok {store next : PlanStore} {rule result : StoredPlanRule} :
    updatePlanRule store rule=.ok (next,result) ↔
      ∃ entry,store.get? rule.executePlanId=some entry ∧ entry.rules.contains rule.id=true ∧
        next=store.insert rule.executePlanId ⟨entry.plan,entry.rules.insert rule.id rule⟩ ∧
        result=rule := by
  unfold updatePlanRule
  cases store.get? rule.executePlanId with
  | none => simp
  | some entry =>
    constructor
    · intro h
      dsimp only at h
      split at h
      · next hrule =>
        cases h
        exact ⟨entry,rfl,hrule,rfl,rfl⟩
      · cases h
    · rintro ⟨entry',he,hrule,rfl,rfl⟩
      cases he
      dsimp only
      rw [if_pos hrule]

/-- A stored entry can be replaced by one that is right for its identifier. -/
theorem StoreWf.insert {store : PlanStore} (hw : StoreWf store) {planId : ℕ}
    {entry : ExecutePlanCacheEntry} (he : EntryWf planId entry) :
    StoreWf (store.insert planId entry) := by
  intro otherId other ho
  rw [Dict.get?_insert] at ho
  split at ho
  · next hid =>
    cases ho
    rw [hid]
    exact he
  · exact hw otherId other ho

/-- New plans are stored under their identifiers. -/
theorem addPlanWithRules_wf {store next : PlanStore} {plan : ExecutePlan}
    {rules : List StoredPlanRule} (hw : StoreWf store)
    (h : addPlanWithRules store plan rules=.ok next) : StoreWf next := by
  unfold addPlanWithRules at h
  split at h
  · cases h
  · obtain ⟨rulesById,hrules,hnext⟩ := PyExcept.bind_eq_ok.mp h
    rw [←PyExcept.pure_eq_ok.mp hnext]
    refine hw.insert ⟨rfl,?_⟩
    exact collectRules_wf (fun ruleId rule hr => by simp at hr) hrules

theorem updatePlan_wf {store next : PlanStore} {plan result : ExecutePlan} (hw : StoreWf store)
    (h : updatePlan store plan=.ok (next,result)) : StoreWf next := by
  obtain ⟨entry,he,rfl,-⟩ := updatePlan_eq_ok.mp h
  exact hw.insert ⟨rfl,(hw _ _ he).rule_id⟩

theorem updatePlanRule_wf {store next : PlanStore} {rule result : StoredPlanRule}
    (hw : StoreWf store) (h : updatePlanRule store rule=.ok (next,result)) : StoreWf next := by
  obtain ⟨entry,he,-,rfl,-⟩ := updatePlanRule_eq_ok.mp h
  refine hw.insert ⟨(hw _ _ he).plan_id,?_⟩
  intro ruleId other ho
  rw [Dict.get?_insert] at ho
  split at ho
  · next hid =>
    cases ho
    exact ⟨hid.symm,rfl⟩
  · exact (hw _ _ he).rule_id ruleId other ho

theorem Evicts.wf {store next : PlanStore} (h : Evicts store next) (hw : StoreWf store) :
    StoreWf next := by
  intro planId entry he
  rcases h planId with hsame|hnone
  · exact hw planId entry (hsame▸he)
  · rw [hnone] at he
    cases he

/-- The listed rules are stored rules of the plan. -/
theorem mem_listPlanRules {store : PlanStore} {planId : ℕ}
    (hw : ∀ entry,store.get? planId=some entry → EntryWf planId entry)
    {matchStatus : Option RuleMatchStatus} {pushStatuses : Option (List RulePushStatus)}
    {rule : StoredPlanRule} (h : rule∈listPlanRules store planId matchStatus pushStatuses) :
    rule.executePlanId=planId ∧ matchesFilters matchStatus pushStatuses rule=true ∧
      ∃ entry,store.get? planId=some entry ∧ entry.rules.get? rule.id=some rule := by
  unfold listPlanRules at h
  split at h
  · cases h
  next entry he =>
  rw [List.mem_insertionSort,List.mem_filter] at h
  obtain ⟨ruleId,hr⟩ := Dict.exists_get?_of_mem_values h.1
  obtain ⟨hid,hplan⟩ := (hw _ he).rule_id ruleId rule hr
  rw [←hid] at hr
  exact ⟨hplan,h.2,entry,he,hr⟩

/-- No rule is listed twice. -/
theorem nodup_listPlanRules {store : PlanStore} {planId : ℕ}
    (hw : ∀ entry,store.get? planId=some entry → EntryWf planId entry)
    (matchStatus : Option RuleMatchStatus) (pushStatuses : Option (List RulePushStatus)) :
    ((listPlanRules store planId matchStatus pushStatuses).map (·.id)).Nodup := by
  unfold listPlanRules
  split
  · exact List.nodup_nil
  next entry he =>
  have hkeys : entry.rules.values.map (·.id)=entry.rules.keys := by
    rw [Dict.values,Dict.keys,List.map_map]
    refine List.map_congr_left fun pair hp => ?_
    exact ((hw _ he).rule_id pair.1 pair.2 (Dict.get?_eq_some_iff.mpr hp)).1
  have hperm := (List.perm_insertionSort (fun a b : StoredPlanRule => a.priority≤b.priority)
    (entry.rules.values.filter (matchesFilters matchStatus pushStatuses))).map (·.id)
  rw [hperm.nodup_iff]
  refine List.Nodup.sublist (List.filter_sublist.map _) ?_
  rw [hkeys]
  exact entry.rules.nodup

end NspMigrator.ExecuteRepository
