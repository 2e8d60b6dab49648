import Mathlib
import NspMigrator.RuntimeCacheStore
import NspMigrator.ExecutePushOnce
import NspMigrator.MappingRepository

/-!
# Plans in the runtime cache

The repository of plans keeps each plan with its rules as one entry of the
runtime cache, which it shares with other modules. What it does there it does
on a dictionary of plans too, if plans may be evicted from that dictionary
before any operation. So what holds of pushes under evictions holds of pushes
on the cache.
-/

namespace NspMigrator.ExecuteCacheRefinement

open PyAsync PyDict PyText TtlCache RuntimeCacheStore ExecuteRulesComparer ExecutePlan
open ExecuteRepository
open ExecutePush ExecutePushSpec ExecutePushOnce MappingRepository

/-- What the modules keep in the runtime cache. -/
inductive RuntimeEntry where
  | plan (entry : ExecutePlanCacheEntry)
  | scope (entry : MappingScopeCacheEntry)

/-- The namespace of the plans. -/
def executePlanNamespace : String := "execute.plan"

variable {maxEntries ttlSeconds : ℕ}
  {cache : TTLCache ℕ (CacheEntry RuntimeEntry) maxEntries ttlSeconds}

/-- The plan entry among the data of the cache. -/
def planEntry : RuntimeEntry → Option ExecutePlanCacheEntry
  | .plan entry => some entry
  | .scope _ => none

namespace RuntimeCacheExecuteRepository

/-- Read the entry of a plan. -/
def getPlanEntry (store : InMemoryTTLStore cache) (clock : Clock) (planId : ℕ) (touch : Bool) :
    Option ExecutePlanCacheEntry × InMemoryTTLStore cache :=
  let (data,next) := store.get clock executePlanNamespace planId touch
  (data.bind planEntry,next)

/-- Write the entry of a plan. -/
def setPlanEntry (store : InMemoryTTLStore cache) (clock : Clock) (planId : ℕ)
    (entry : ExecutePlanCacheEntry) : InMemoryTTLStore cache :=
  store.set clock executePlanNamespace planId (.plan entry)

/-- Store a new plan with its rules. -/
def addPlanWithRules (store : InMemoryTTLStore cache) (reading writing : Clock) (plan : ExecutePlan)
    (rules : List StoredPlanRule) : Except PyException Unit × InMemoryTTLStore cache :=
  let (entry,store) := getPlanEntry store reading plan.id false
  match entry with
  | some _ => (.error ⟨"ValueError","Execute plan "++toString plan.id++" already exists"⟩,store)
  | none =>
    match collectRules plan rules .empty with
    | .error error => (.error error,store)
    | .ok rulesById => (.ok (),setPlanEntry store writing plan.id ⟨plan,rulesById⟩)

/-- The stored plan. -/
def getPlan (store : InMemoryTTLStore cache) (clock : Clock) (planId : ℕ) :
    Option ExecutePlan × InMemoryTTLStore cache :=
  let (entry,store) := getPlanEntry store clock planId true
  (entry.map (·.plan),store)

/-- Replace a stored plan, keeping its rules. -/
def updatePlan (store : InMemoryTTLStore cache) (reading writing : Clock) (plan : ExecutePlan) :
    Except PyException ExecutePlan × InMemoryTTLStore cache :=
  let (entry,store) := getPlanEntry store reading plan.id true
  match entry with
  | none => (.error ⟨"ValueError","Execute plan "++toString plan.id++" not found"⟩,store)
  | some entry => (.ok plan,setPlanEntry store writing plan.id ⟨plan,entry.rules⟩)

/-- Replace a stored rule, keeping its plan and the other rules. -/
def updatePlanRule (store : InMemoryTTLStore cache) (reading writing : Clock)
    (rule : StoredPlanRule) :
    Except PyException StoredPlanRule × InMemoryTTLStore cache :=
  let (entry,store) := getPlanEntry store reading rule.executePlanId true
  match entry with
  | none => (.error ⟨"ValueError","Execute plan "++toString rule.executePlanId++" not found"⟩,store)
  | some entry =>
    if entry.rules.contains rule.id=true then
      (.ok rule,setPlanEntry store writing rule.executePlanId
      ⟨entry.plan,entry.rules.insert rule.id rule⟩)
    else (.error ⟨"ValueError","Execute plan rule "++toString rule.id++" not found"⟩,store)

/-- The stored rules of a plan with the wanted statuses, by priority. -/
def listPlanRules (store : InMemoryTTLStore cache) (clock : Clock) (planId : ℕ)
    (matchStatus : Option RuleMatchStatus) (pushStatuses : Option (List RulePushStatus)) :
    List StoredPlanRule × InMemoryTTLStore cache :=
  let (entry,store) := getPlanEntry store clock planId true
  match entry with
  | none => ([],store)
  | some entry => ((entry.rules.values.filter
      (matchesFilters matchStatus pushStatuses)).insertionSort 
        fun a b => a.priority≤b.priority,store)

end RuntimeCacheExecuteRepository

/-- The plan a store has at a time. -/
def planView (store : InMemoryTTLStore cache) (now : ℚ) (planId : ℕ) :
    Option ExecutePlanCacheEntry :=
  (store.view now executePlanNamespace planId).bind fun entry => planEntry entry.data

/-- The store has no other plans than a dictionary. -/
def Within (store : InMemoryTTLStore cache) (now : ℚ) (plans : PlanStore) : Prop :=
  ∀ planId entry,planView store now planId=some entry → plans.get? planId=some entry

section Entries

variable {store : InMemoryTTLStore cache} {clock : Clock} {now later : ℚ} {plans : PlanStore}

/-- A plan that is there later is there now. -/
theorem planView_of_later (h : now≤later) {planId : ℕ} {entry : ExecutePlanCacheEntry}
    (hentry : planView store later planId=some entry) : planView store now planId=some entry := by
  obtain ⟨found,hfound,hplan⟩ := Option.bind_eq_some_iff.mp hentry
  exact Option.bind_eq_some_iff.mpr ⟨found,live_of_later h hfound,hplan⟩

/-- After evictions the dictionary has exactly the plans of the store. -/
theorem exists_evicted (h : Within store now plans) :
    ∃ mid,Evicts plans mid ∧ ∀ planId,mid.get? planId=planView store now planId := by
  refine ⟨plans.filterEntries fun entry => (planView store now entry.1).isSome,?_,?_⟩
  · intro planId
    rw [Dict.get?_filterEntries]
    cases hview : planView store now planId with
    | none => exact Or.inr (Option.filter_eq_none_iff.mpr fun _ _ => by simp [hview])
    | some entry =>
      rw [h planId entry hview,Option.filter_some]
      simp [hview]
  · intro planId
    rw [Dict.get?_filterEntries]
    cases hview : planView store now planId with
    | none => exact Option.filter_eq_none_iff.mpr fun _ _ => by simp [hview]
    | some entry =>
      rw [h planId entry hview,Option.filter_some]
      simp [hview]

/-- Reading an entry finds the plan of the store, and adds no plan. -/
theorem getPlanEntry_spec (store : InMemoryTTLStore cache) (clock : Clock) (planId : ℕ)
    (touch : Bool) :
    (RuntimeCacheExecuteRepository.getPlanEntry store clock planId touch).1=
      planView store clock.timer planId ∧
    ∀ later,clock.timer≤later → ∀ otherId entry,
      planView (RuntimeCacheExecuteRepository.getPlanEntry store clock planId touch).2 later
        otherId=
        some entry → planView store clock.timer otherId=some entry := by
  have hread : ∀ later,clock.timer≤later → ∀ otherId entry,
      planView (store.withCache executePlanNamespace
        (store.readState clock executePlanNamespace planId)) later otherId=some entry →
      planView store clock.timer otherId=some entry := by
    intro later hlater otherId entry hentry
    unfold planView at hentry
    rw [InMemoryTTLStore.readState,InMemoryTTLStore.view_read hlater] at hentry
    exact planView_of_later hlater hentry
  have hfound : (cache.getItem (store.getCache clock executePlanNamespace) clock.timer planId).1=
      store.view clock.timer executePlanNamespace planId := InMemoryTTLStore.getItem_getCache
  simp only [RuntimeCacheExecuteRepository.getPlanEntry,InMemoryTTLStore.get,hfound]
  cases hview : store.view clock.timer executePlanNamespace planId with
  | none => exact ⟨by simp [planView,hview],hread⟩
  | some found =>
    cases touch with
    | false => exact ⟨by simp [planView,hview],hread⟩
    | true =>
      refine ⟨by simp [planView,hview],fun later hlater otherId entry hentry => ?_⟩
      obtain ⟨seen,hseen,hplan⟩ := Option.bind_eq_some_iff.mp hentry
      rcases InMemoryTTLStore.view_write_cases hlater hseen with ⟨-,rfl,rfl⟩|⟨-,hold⟩
      · exact Option.bind_eq_some_iff.mpr ⟨found,hview,hplan⟩
      · exact planView_of_later hlater (Option.bind_eq_some_iff.mpr ⟨seen,hold,hplan⟩)

/-- Writing an entry puts its plan there, and adds no other plan. -/
theorem setPlanEntry_spec (store : InMemoryTTLStore cache) (clock : Clock) (planId : ℕ)
    (written : ExecutePlanCacheEntry) {later : ℚ} (hlater : clock.timer≤later) {otherId : ℕ}
    {entry : ExecutePlanCacheEntry}
    (hentry : planView (RuntimeCacheExecuteRepository.setPlanEntry store clock planId written) later
      otherId=some entry) :
    (otherId=planId ∧ entry=written) ∨
      (otherId≠planId ∧ planView store clock.timer otherId=some entry) := by
  obtain ⟨seen,hseen,hplan⟩ := Option.bind_eq_some_iff.mp hentry
  rcases InMemoryTTLStore.view_write_cases hlater hseen with ⟨-,rfl,rfl⟩|⟨hother,hold⟩
  · exact Or.inl ⟨rfl,(Option.some.inj hplan).symm⟩
  · exact Or.inr ⟨fun hid => hother ⟨rfl,hid⟩,
      planView_of_later hlater (Option.bind_eq_some_iff.mpr ⟨seen,hold,hplan⟩)⟩

/-- Reading an entry: the plan of the dictionary, where it was not evicted. -/
theorem getPlanEntry_within (h : Within store now plans) (hclock : now≤clock.timer) (planId : ℕ)
    (touch : Bool) : ∃ mid,Evicts plans mid ∧
      (RuntimeCacheExecuteRepository.getPlanEntry store clock planId touch).1=mid.get? planId ∧
      ∀ later,clock.timer≤later →
        Within (RuntimeCacheExecuteRepository.getPlanEntry store clock planId touch).2 later
          mid := by
  have hnow : Within store clock.timer plans := fun planId entry hentry =>
    h planId entry (planView_of_later hclock hentry)
  obtain ⟨mid,hevicts,hmid⟩ := exists_evicted hnow
  obtain ⟨hread,hkept⟩ := getPlanEntry_spec store clock planId touch
  refine ⟨mid,hevicts,by rw [hread,hmid],fun later hlater otherId entry hentry => ?_⟩
  rw [hmid]
  exact hkept later hlater otherId entry hentry

/-- Writing an entry puts its plan into the dictionary. -/
theorem setPlanEntry_within (h : Within store clock.timer plans) (planId : ℕ)
    (written : ExecutePlanCacheEntry) :
    Within (RuntimeCacheExecuteRepository.setPlanEntry store clock planId written) clock.timer
      (plans.insert planId written) := by
  intro otherId entry hentry
  rw [Dict.get?_insert]
  rcases setPlanEntry_spec store clock planId written le_rfl hentry with ⟨rfl,rfl⟩|⟨hne,hold⟩
  · rw [if_pos rfl]
  · rw [if_neg hne]
    exact h otherId entry hold

end Entries

/-- The cache, and when it was last used. -/
structure CacheWorld (cache : TTLCache ℕ (CacheEntry RuntimeEntry) maxEntries ttlSeconds) where
  /-- The cache. -/
  store : InMemoryTTLStore cache
  /-- When it was last used. -/
  now : ℚ

/-- The plans of a dictionary are all the cache has. -/
def CacheWorld.Within (world : CacheWorld cache) (plans : PlanStore) : Prop :=
  ExecuteCacheRefinement.Within world.store world.now plans

/-- The operations of a push on the cache. Each reads the clock, and the
writing ones read it again before they write. -/
def cacheHandles (world : CacheWorld cache) :
    (op : PushOp) → Except PyException (PushAns op) → CacheWorld cache → Prop
  | .getPlan planId,answer,next => ∃ clock : Clock,world.now ≤ clock.timer ∧
      answer=.ok (RuntimeCacheExecuteRepository.getPlan world.store clock planId).1 ∧
      next=⟨(RuntimeCacheExecuteRepository.getPlan world.store clock planId).2,clock.timer⟩
  | .listPlanRules planId matchStatus pushStatuses,answer,next =>
    ∃ clock : Clock,world.now ≤ clock.timer ∧
      answer=.ok (RuntimeCacheExecuteRepository.listPlanRules world.store clock planId matchStatus
        pushStatuses).1 ∧
      next=⟨(RuntimeCacheExecuteRepository.listPlanRules world.store clock planId matchStatus
        pushStatuses).2,clock.timer⟩
  | .updatePlan plan,answer,next => ∃ reading writing : Clock,world.now ≤ reading.timer ∧
      reading.timer ≤ writing.timer ∧
      answer=(RuntimeCacheExecuteRepository.updatePlan world.store reading writing plan).1 ∧
      next=⟨(RuntimeCacheExecuteRepository.updatePlan world.store reading writing plan).2,
        writing.timer⟩
  | .updatePlanRule rule,answer,next => ∃ reading writing : Clock,world.now ≤ reading.timer ∧
      reading.timer ≤ writing.timer ∧
      answer=(RuntimeCacheExecuteRepository.updatePlanRule world.store reading writing rule).1 ∧
      next=⟨(RuntimeCacheExecuteRepository.updatePlanRule world.store reading writing rule).2,
        writing.timer⟩
  | _,_,next => next=world

/-- Whether a use of the cache does not write a plan. -/
def Foreign (planId : ℕ) : StoreOp ℕ RuntimeEntry → Prop
  | .set space key _ => ¬(space=executePlanNamespace ∧ key=planId)
  | _ => True

/-- Any use of the cache that does not write the plan: of other namespaces, of
other plans, or one that reads, touches or deletes the plan. -/
def OtherUse (planId : ℕ) (world next : CacheWorld cache) : Prop :=
  ∃ (clock : Clock) (op : StoreOp ℕ RuntimeEntry),world.now ≤ clock.timer ∧ Foreign planId op ∧
    next=⟨(world.store.step clock op).2,clock.timer⟩

section Simulation

variable {world next : CacheWorld cache} {plans : PlanStore} {planId : ℕ}

/-- A plan that is there after a use of the cache was there before, or was set. -/
theorem planView_step {store : InMemoryTTLStore cache} {clock : Clock}
    (op : StoreOp ℕ RuntimeEntry) {otherId : ℕ} {entry : ExecutePlanCacheEntry}
    (hentry : planView (store.step clock op).2 clock.timer otherId=some entry) :
    op=.set executePlanNamespace otherId (.plan entry) ∨
      planView store clock.timer otherId=some entry := by
  obtain ⟨seen,hseen,hplan⟩ := Option.bind_eq_some_iff.mp hentry
  have hread : ∀ space key,(store.withCache space (store.readState clock space key)).view
      clock.timer executePlanNamespace otherId=some seen →
      planView store clock.timer otherId=some entry := by
    intro space key hsame
    rw [InMemoryTTLStore.readState,InMemoryTTLStore.view_read le_rfl] at hsame
    exact Option.bind_eq_some_iff.mpr ⟨seen,hsame,hplan⟩
  have hrewrite : ∀ space key found,store.view clock.timer space key=some found →
      (store.withCache space (cache.setItem (store.readState clock space key) clock.timer key
        (buildEntry ttlSeconds clock found.data (some found.entryMeta)))).view
        clock.timer executePlanNamespace otherId=some seen →
      planView store clock.timer otherId=some entry := by
    intro space key found hfound hsame
    rcases InMemoryTTLStore.view_write_cases le_rfl hsame with ⟨rfl,rfl,rfl⟩|⟨-,hold⟩
    · exact Option.bind_eq_some_iff.mpr ⟨found,hfound,hplan⟩
    · exact Option.bind_eq_some_iff.mpr ⟨seen,hold,hplan⟩
  have hitem : ∀ space key,(cache.getItem (store.getCache clock space) clock.timer key).1=
      store.view clock.timer space key := fun _ _ => InMemoryTTLStore.getItem_getCache
  cases op with
  | get space key touch =>
    simp only [InMemoryTTLStore.step,InMemoryTTLStore.get,hitem] at hseen
    cases hview : store.view clock.timer space key with
    | none =>
      rw [hview] at hseen
      exact Or.inr (hread space key hseen)
    | some found =>
      rw [hview] at hseen
      cases touch with
      | false => exact Or.inr (hread space key hseen)
      | true => exact Or.inr (hrewrite space key found hview hseen)
  | set space key value =>
    rcases InMemoryTTLStore.view_write_cases le_rfl hseen with ⟨hspace,hkey,rfl⟩|⟨-,hold⟩
    · left
      cases value with
      | plan written =>
        have hwritten : written=entry := Option.some.inj hplan
        rw [←hspace,←hkey,hwritten]
      | scope written => cases hplan
    · exact Or.inr (Option.bind_eq_some_iff.mpr ⟨seen,hold,hplan⟩)
  | delete space key =>
    right
    rw [InMemoryTTLStore.step,InMemoryTTLStore.delete,InMemoryTTLStore.view_withCache] at hseen
    by_cases hspace : executePlanNamespace=space
    · subst hspace
      rw [if_pos rfl,cache.live_popItem _ _ _ _ _ le_rfl,
        InMemoryTTLStore.live_getCache le_rfl] at hseen
      by_cases hkey : otherId=key
      · rw [if_pos hkey] at hseen
        cases hseen
      · rw [if_neg hkey] at hseen
        exact Option.bind_eq_some_iff.mpr ⟨seen,hseen,hplan⟩
    · rw [if_neg hspace] at hseen
      exact Option.bind_eq_some_iff.mpr ⟨seen,hseen,hplan⟩
  | touch space key =>
    simp only [InMemoryTTLStore.step,InMemoryTTLStore.touch,hitem] at hseen
    cases hview : store.view clock.timer space key with
    | none =>
      rw [hview] at hseen
      exact Or.inr (hread space key hseen)
    | some found =>
      rw [hview] at hseen
      exact Or.inr (hrewrite space key found hview hseen)
  | getMeta space key => exact Or.inr (hread space key hseen)

/-- Other uses of the cache are what may happen besides the pushes of a plan. -/
theorem OtherUse.simulated (h : OtherUse planId world next) (hwithin : world.Within plans) :
    ∃ after,EntryKept planId plans after ∧ next.Within after := by
  obtain ⟨clock,op,hclock,hforeign,rfl⟩ := h
  have hnow : ∀ otherId entry,planView world.store clock.timer otherId=some entry →
      plans.get? otherId=some entry := fun otherId entry hentry =>
    hwithin otherId entry (planView_of_later hclock hentry)
  by_cases hset : ∃ otherId entry,op=.set executePlanNamespace otherId (.plan entry)
  · obtain ⟨otherId,entry,rfl⟩ := hset
    refine ⟨plans.insert otherId entry,Or.inl ?_,fun seenId seen hseen => ?_⟩
    · have hne : planId≠otherId := fun heq => hforeign ⟨rfl,heq.symm⟩
      rw [Dict.get?_insert,if_neg hne]
    · exact setPlanEntry_within hnow otherId entry seenId seen hseen
  · refine ⟨plans,Or.inl rfl,fun seenId seen hseen => ?_⟩
    rcases planView_step op hseen with hop|hold
    · exact absurd ⟨seenId,seen,hop⟩ hset
    · exact hnow seenId seen hold

/-- An operation on the cache is the same operation on the dictionary of plans,
after evictions. -/
theorem cacheHandles_simulated {op : PushOp} {answer : Except PyException (PushAns op)}
    (h : cacheHandles world op answer next) (hwithin : world.Within plans) :
    ∃ mid after,Evicts plans mid ∧ storeHandles mid op answer after ∧ next.Within after := by
  have hsame : Evicts plans plans := fun _ => Or.inl rfl
  cases op with
  | getPlan planId =>
    obtain ⟨clock,hclock,rfl,rfl⟩ := h
    obtain ⟨mid,hevicts,hread,hkept⟩ := getPlanEntry_within hwithin hclock planId true
    refine ⟨mid,mid,hevicts,⟨?_,rfl⟩,hkept clock.timer le_rfl⟩
    rw [RuntimeCacheExecuteRepository.getPlan,getPlan,←hread]
  | listPlanRules planId matchStatus pushStatuses =>
    obtain ⟨clock,hclock,rfl,rfl⟩ := h
    obtain ⟨mid,hevicts,hread,hkept⟩ := getPlanEntry_within hwithin hclock planId true
    refine ⟨mid,mid,hevicts,⟨?_,rfl⟩,?_⟩
    · unfold RuntimeCacheExecuteRepository.listPlanRules ExecuteRepository.listPlanRules
      dsimp only
      rw [hread]
      cases mid.get? planId <;> rfl
    · unfold RuntimeCacheExecuteRepository.listPlanRules
      dsimp only
      split <;> exact hkept clock.timer le_rfl
  | updatePlan plan =>
    obtain ⟨reading,writing,hreading,hwriting,rfl,rfl⟩ := h
    obtain ⟨mid,hevicts,hread,hkept⟩ := getPlanEntry_within hwithin hreading plan.id true
    unfold RuntimeCacheExecuteRepository.updatePlan storeHandles updatePlan
    dsimp only
    rw [hread]
    cases hget : mid.get? plan.id with
    | none => exact ⟨mid,mid,hevicts,by simp [hget],hkept _ hwriting⟩
    | some entry => exact ⟨mid,mid.insert plan.id ⟨plan,entry.rules⟩,hevicts,by simp [hget],
        setPlanEntry_within (hkept _ hwriting) _ _⟩
  | updatePlanRule rule =>
    obtain ⟨reading,writing,hreading,hwriting,rfl,rfl⟩ := h
    obtain ⟨mid,hevicts,hread,hkept⟩ :=
      getPlanEntry_within hwithin hreading rule.executePlanId true
    unfold RuntimeCacheExecuteRepository.updatePlanRule storeHandles updatePlanRule
    dsimp only
    rw [hread]
    cases hget : mid.get? rule.executePlanId with
    | none => exact ⟨mid,mid,hevicts,by simp [hget],hkept _ hwriting⟩
    | some entry =>
      dsimp only
      by_cases hrule : entry.rules.contains rule.id=true
      · rw [if_pos hrule]
        exact ⟨mid,mid.insert rule.executePlanId ⟨entry.plan,entry.rules.insert rule.id rule⟩,
          hevicts,by simp [hget,hrule],setPlanEntry_within (hkept _ hwriting) _ _⟩
      · rw [if_neg hrule]
        exact ⟨mid,mid,hevicts,by simp [hget,hrule],hkept _ hwriting⟩
  | _ =>
    cases h
    exact ⟨plans,plans,hsame,rfl,hwithin⟩

/-- Storing a new plan in the cache is storing it in the dictionary, after evictions. -/
theorem addPlanWithRules_simulated (hwithin : world.Within plans) {reading writing : Clock}
    (hreading : world.now ≤ reading.timer) (hwriting : reading.timer ≤ writing.timer)
    (plan : ExecutePlan) (rules : List StoredPlanRule) :
    ∃ mid after,Evicts plans mid ∧
      ((RuntimeCacheExecuteRepository.addPlanWithRules world.store reading writing plan rules).1=
          .ok () ∧ addPlanWithRules mid plan rules=.ok after ∨
        (∃ error,(RuntimeCacheExecuteRepository.addPlanWithRules world.store reading writing plan
          rules).1=.error error ∧ addPlanWithRules mid plan rules=.error error) ∧ after=mid) ∧
      Within (RuntimeCacheExecuteRepository.addPlanWithRules world.store reading writing plan
        rules).2 writing.timer after := by
  obtain ⟨mid,hevicts,hread,hkept⟩ := getPlanEntry_within hwithin hreading plan.id false
  unfold RuntimeCacheExecuteRepository.addPlanWithRules addPlanWithRules
  dsimp only
  rw [hread]
  cases hget : mid.get? plan.id with
  | some entry =>
    exact ⟨mid,mid,hevicts,Or.inr ⟨⟨_,rfl,by simp [hget]⟩,rfl⟩,hkept _ hwriting⟩
  | none =>
    dsimp only
    cases hrules : collectRules plan rules .empty with
    | error error =>
      refine ⟨mid,mid,hevicts,Or.inr ⟨⟨error,rfl,?_⟩,rfl⟩,hkept _ hwriting⟩
      rw [hget]
      rfl
    | ok rulesById =>
      refine ⟨mid,mid.insert plan.id ⟨plan,rulesById⟩,hevicts,Or.inl ⟨rfl,?_⟩,
        setPlanEntry_within (hkept _ hwriting) _ _⟩
      rw [hget]
      rfl

end Simulation

section Pools

variable {ι : Type} [DecidableEq ι] {world : CacheWorld cache} {plans : PlanStore} {planId : ℕ}

/-- Every interleaving of coroutines on the cache, with each other and with
other uses of the cache, is one on a dictionary of plans from which plans may be
evicted. What is allowed is a matter of the coroutines and of what they did. -/
theorem pool_on_runtime_cache
    (allowed : (ι → Push PushResult) → List (ι × PushEvent) → Option (ι × PushEvent) → Prop)
    (hmoves : ∀ tasks trace,allowed tasks trace none)
    {tasks : ι → Push PushResult} {trace : List (ι × PushEvent)}
    {pool : Pool (CacheWorld cache) ι PushOp PushAns PyException PushResult}
    (hwithin : world.Within plans)
    (hrun : Pool.Run cacheHandles (OtherUse planId) (fun pool => allowed pool.tasks pool.trace)
      ⟨world,tasks,trace⟩ pool) :
    ∃ last : PlanStore,Pool.Run storeHandles (EntryKept planId)
        (fun pool => allowed pool.tasks pool.trace) ⟨plans,tasks,trace⟩
        ⟨last,pool.tasks,pool.trace⟩ ∧
      pool.world.Within last := by
  refine hrun.simulate (fun pool label plans h => h) (fun pool => hmoves _ _) ?_ ?_ hwithin
  · intro world op answer next plans hwithin hop
    obtain ⟨mid,after,hevicts,hop',hnext⟩ := cacheHandles_simulated hop hwithin
    exact ⟨mid,after,hevicts planId,hop',hnext⟩
  · intro world next plans hwithin huse
    exact huse.simulated hwithin

/-- So pushes of a plan that is kept in the cache create every policy at most
once, and the plan, as long as the cache has it, records the outcomes. -/
theorem pushedOnce_on_runtime_cache [PyUnicode] (hashFunc : String → String)
    (hwithin : world.Within plans) (hprep : PreparedAt planId plans)
    {pool : Pool (CacheWorld cache) ι PushOp PushAns PyException PushResult}
    (hrun : Pool.Run cacheHandles (OtherUse planId)
      (fun pool => ReadAlone planId ⟨.empty,pool.tasks,pool.trace⟩)
      ⟨world,fun _ => pushExecutePlanRules hashFunc planId,[]⟩ pool) :
    ((creations (pool.trace.map Prod.snd)).map Prod.fst).Nodup ∧
      ∀ entry,planView pool.world.store pool.world.now planId=some entry →
        ∀ ruleId rule,entry.rules.get? ruleId=some rule →
          OwnOutcome (creations (pool.trace.map Prod.snd)) rule := by
  obtain ⟨last,hrun',hlast⟩ := pool_on_runtime_cache
    (fun tasks trace => ReadAlone planId ⟨.empty,tasks,trace⟩)
    (fun tasks trace i event h => by cases h) hwithin hrun
  have hinv : Exclusive planId _ := hrun'.inv (exclusive_start hashFunc hprep)
    fun _ _ _ hinv hallowed hstep => hinv.step hallowed hstep
  exact ⟨hinv.once.once,fun entry he => hinv.once.outcome entry (hlast planId entry he)⟩

end Pools

/-- A cache of two entries in each namespace, for a minute. -/
def siteCache : TTLCache ℕ (CacheEntry RuntimeEntry) 2 (60 : ℕ) := lastWritten 2 60

/-- Plan 1 just written to the cache. -/
def siteWorld : CacheWorld siteCache where
  store := RuntimeCacheExecuteRepository.setPlanEntry .create ⟨0,0⟩ 1
    ⟨⟨1,3,siteScope.catalogFingerprint,.pending⟩,Dict.empty.insert 7 siteRule⟩
  now := 0

theorem within_siteWorld : siteWorld.Within siteStore := by
  refine setPlanEntry_within (fun planId entry hentry => ?_) 1 _
  have hempty : planView (.create : InMemoryTTLStore siteCache) 0 planId=none := rfl
  rw [hempty] at hentry
  cases hentry

/-- A cache whose clock ticks before every reading and before every writing. -/
def cacheOracle (remote : (op : PushOp) → Except PyException (PushAns op))
    (world : CacheWorld cache) (op : PushOp) : Except PyException (PushAns op) × CacheWorld cache :=
  let reading : Clock := ⟨world.now+1,world.now+1⟩
  let writing : Clock := ⟨world.now+2,world.now+2⟩
  match op with
  | .getPlan planId =>
    let (plan,store) := RuntimeCacheExecuteRepository.getPlan world.store reading planId
    (.ok plan,⟨store,reading.timer⟩)
  | .listPlanRules planId matchStatus pushStatuses =>
    let (rules,store) := RuntimeCacheExecuteRepository.listPlanRules world.store reading planId
      matchStatus pushStatuses
    (.ok rules,⟨store,reading.timer⟩)
  | .updatePlan plan =>
    let (answer,store) := RuntimeCacheExecuteRepository.updatePlan world.store reading writing plan
    (answer,⟨store,writing.timer⟩)
  | .updatePlanRule rule =>
    let (answer,store) := RuntimeCacheExecuteRepository.updatePlanRule world.store reading writing
      rule
    (answer,⟨store,writing.timer⟩)
  | op => (remote op,world)

theorem cacheHandles_cacheOracle (remote : (op : PushOp) → Except PyException (PushAns op))
    (world : CacheWorld cache) (op : PushOp) :
    cacheHandles world op (cacheOracle remote world op).1 (cacheOracle remote world op).2 := by
  have hreading : world.now≤world.now+1 := by linarith
  have hwriting : world.now+1≤world.now+2 := by linarith
  cases op with
  | getPlan planId => exact ⟨⟨world.now+1,world.now+1⟩,hreading,rfl,rfl⟩
  | listPlanRules planId matchStatus pushStatuses =>
    exact ⟨⟨world.now+1,world.now+1⟩,hreading,rfl,rfl⟩
  | updatePlan plan =>
    exact ⟨⟨world.now+1,world.now+1⟩,⟨world.now+2,world.now+2⟩,hreading,hwriting,rfl,rfl⟩
  | updatePlanRule rule =>
    exact ⟨⟨world.now+1,world.now+1⟩,⟨world.now+2,world.now+2⟩,hreading,hwriting,rfl,rfl⟩
  | _ => exact rfl

/-- A push of the plan to its end. -/
def pushedOnCache : Pool (CacheWorld siteCache) Unit PushOp PushAns PyException PushResult :=
  (List.replicate 21 ()).foldl (Pool.advance (cacheOracle siteAnswers))
    ⟨siteWorld,fun _ => @pushExecutePlanRules asciiUnicode id 1,[]⟩

/-- The cache after the plan was deleted as well. -/
def droppedSite : CacheWorld siteCache :=
  ⟨(pushedOnCache.world.store.step ⟨30,30⟩ (.delete executePlanNamespace 1)).2,30⟩

/-- A push of the plan to its end, after which the plan is deleted from the
cache, is a push on a dictionary of plans with the same operations. -/
theorem pool_on_siteCache :
    ∃ (last : PlanStore) (tasks : Unit → Push PushResult) (trace : List (Unit × PushEvent)),
      (tasks ()).ended=true ∧ (creations (trace.map Prod.snd)).map Prod.fst=[7] ∧
      Pool.Run storeHandles (EntryKept 1) (fun _ _ => True)
        ⟨siteStore,fun _ => @pushExecutePlanRules asciiUnicode id 1,[]⟩ ⟨last,tasks,trace⟩ ∧
      droppedSite.Within last := by
  have hpush : Pool.Run cacheHandles (OtherUse 1) (fun _ _ => True)
      ⟨siteWorld,fun _ => @pushExecutePlanRules asciiUnicode id 1,[]⟩ pushedOnCache :=
    Pool.run_schedule (cacheHandles_cacheOracle siteAnswers) (fun _ _ => trivial) _ _
  have hended : (pushedOnCache.tasks ()).ended=true := by decide +kernel
  have hcreated : (creations (pushedOnCache.trace.map Prod.snd)).map Prod.fst=[7] := by
    decide +kernel
  have hlater : pushedOnCache.world.now≤30 := by decide +kernel
  have hdrop : OtherUse 1 pushedOnCache.world droppedSite :=
    ⟨⟨30,30⟩,.delete executePlanNamespace 1,hlater,trivial,rfl⟩
  obtain ⟨last,hlast,hwithin⟩ := pool_on_runtime_cache (fun _ _ _ => True) (fun _ _ => trivial)
    within_siteWorld (hpush.step trivial (.world hdrop))
  exact ⟨last,pushedOnCache.tasks,pushedOnCache.trace,hended,hcreated,hlast,hwithin⟩

end NspMigrator.ExecuteCacheRefinement
