import Mathlib
import NspMigrator.MappingRulesExact
import NspMigrator.MigrationRequests

/-!
# Plans and the decisions they were prepared from

A plan is outdated when its scope now selects other objects for its rules. A
push compares fingerprints only, so an outdated plan is refused exactly while
the fingerprint of its scope or of the catalog differs from its own.
-/

namespace NspMigrator.PlanStaleness

open PyAsync PyDict PyText SdwanFingerprint ExecuteRuleValues ExecuteRulesComparer ExecutePlan
open ExecuteRepository ExecutePush ExecutePushSpec ExecutePrepare
open MappingEntities MappingRepository MappingReader MappingUseCases MigrationRequests

/-- The objects of a rule, slot by slot. -/
structure RuleObjects where
  /-- The source zones. -/
  srcZones : Finset ℤ
  /-- The destination zones. -/
  dstZones : Finset ℤ
  /-- The source address objects. -/
  srcAddrObjects : Finset ℤ
  /-- The destination address objects. -/
  dstAddrObjects : Finset ℤ
  /-- The services. -/
  services : Finset ℤ
  deriving DecidableEq

/-- The objects a rule body names. -/
def bodyObjects (body : RuleBody) : RuleObjects :=
  ⟨body.srcZones.toFinset,body.dstZones.toFinset,body.srcAddrObjects.toFinset,
    body.dstAddrObjects.toFinset,body.services.toFinset⟩

/-- The objects selected for the operands of one slot. -/
def selectedIds (results : Dict ℕ MappingEntityResult) (operands : List MappingScopeRuleOperand)
    (role : MappingScopeRuleOperandRole) : List ℤ :=
  (operands.filter fun operand => decide (operand.role=role)).filterMap fun operand =>
    (results.get? operand.mappingEntityResultId).bind (·.selectedSdwanEntityId)

/-- The objects a scope selects for one of its rules. -/
def ruleObjects (entry : MappingScopeCacheEntry) (ruleId : ℕ) : Option RuleObjects :=
  (entry.rules.get? ruleId).map fun rule =>
    let selected := fun role => (selectedIds entry.results (rule.operands.getD []) role).toFinset
    ⟨selected .srcZone,selected .dstZone,selected .srcAddrObject,selected .dstAddrObject,
      selected .service⟩

/-- A plan whose one push has not started and would create a policy. -/
def Pushable (plan : ExecutePlanCacheEntry) : Prop :=
  plan.plan.pushStatus=.pending ∧
    ∃ rule∈plan.rules.values,rule.matchStatus=.new ∧ rule.pushStatus=.pending

/-- The scope of a plan selects other objects than a draft of the plan names. -/
def Outdated (world : MigrationWorld) (plan : ExecutePlanCacheEntry) : Prop :=
  ∃ scope,world.scopes.get? plan.plan.mappingScopeId=some scope ∧
    ∃ rule∈plan.rules.values,
      ruleObjects scope rule.mappingScopeRuleId≠some (bodyObjects rule.draft.toRuleBody)

instance (world : MigrationWorld) (plan : ExecutePlanCacheEntry) :
    Decidable (Outdated world plan) :=
  match h : world.scopes.get? plan.plan.mappingScopeId with
  | none => .isFalse fun ⟨scope,hscope,_⟩ => by rw [h] at hscope; cases hscope
  | some scope => decidable_of_iff (∃ rule∈plan.rules.values,
      ruleObjects scope rule.mappingScopeRuleId≠some (bodyObjects rule.draft.toRuleBody))
    ⟨fun hrule => ⟨scope,h,hrule⟩,fun ⟨other,hother,hrule⟩ => by
      rw [h,Option.some.injEq] at hother
      exact hother▸hrule⟩

/-- The fingerprint of the scope or of the catalog is not that of the plan. -/
def Refused [PyUnicode] (hashFunc : String → String) (world : MigrationWorld)
    (plan : ExecutePlan) : Prop :=
  ∀ scope,world.scopes.get? plan.mappingScopeId=some scope →
    scope.scope.catalogFingerprint≠plan.catalogFingerprint ∨
    getFingerprint hashFunc (world.catalogs scope.scope.cspProfileId scope.scope.vpcId)≠
      plan.catalogFingerprint

/-- The scope of a plan selects other objects for a rule of the plan than before. -/
def SelectsAnew (world next : MigrationWorld) (plan : ExecutePlanCacheEntry) : Prop :=
  ∃ scope scope',world.scopes.get? plan.plan.mappingScopeId=some scope ∧
    next.scopes.get? plan.plan.mappingScopeId=some scope' ∧ ∃ rule∈plan.rules.values,
      ruleObjects scope' rule.mappingScopeRuleId≠ruleObjects scope rule.mappingScopeRuleId

/-- Selections change only under plans that are refused, and fingerprints never
come back to a plan that is outdated. -/
structure Guarded [PyUnicode] (hashFunc : String → String) (world next : MigrationWorld) :
    Prop where
  /-- A plan whose selections change is refused already. -/
  selections : ∀ planId plan,world.plans.get? planId=some plan → Pushable plan →
    SelectsAnew world next plan → Refused hashFunc world plan.plan
  /-- An outdated plan that is refused stays refused. -/
  fingerprints : ∀ planId plan,world.plans.get? planId=some plan → Pushable plan →
    Outdated world plan → Refused hashFunc world plan.plan → Refused hashFunc next plan.plan

section Reader

variable {store : ScopeStore} {scopeId : ℕ} {entry : MappingScopeCacheEntry}

/-- All results of a scope, by their identifiers. -/
theorem get?_resultsById (hentry : store.get? scopeId=some entry)
    (hwf : ScopeEntryWf scopeId entry) (resultId : ℕ) :
    (Dict.ofList ((listResults store scopeId none none).map fun result =>
      (result.id,result))).get? resultId=entry.results.get? resultId := by
  have hmem : ∀ result,result∈listResults store scopeId none none ↔
      entry.results.get? result.id=some result := by
    intro result
    simp only [listResults,hentry,Option.all_none,Bool.and_self,List.filter_true,
      List.mem_insertionSort]
    constructor
    · intro h
      obtain ⟨key,hkey⟩ := Dict.exists_get?_of_mem_values h
      rwa [(hwf.result_id key result hkey).1]
    · exact Dict.mem_values_of_get?
  cases hget : entry.results.get? resultId with
  | none =>
    cases hof : (Dict.ofList ((listResults store scopeId none none).map fun result =>
        (result.id,result))).get? resultId with
    | none => rfl
    | some result =>
      obtain ⟨found,hf,he⟩ := List.mem_map.mp (Dict.mem_of_get?_ofList hof)
      cases he
      rw [(hmem _).mp hf] at hget
      cases hget
  | some result =>
    have hid := (hwf.result_id resultId result hget).1
    have hin : (resultId,result)∈(listResults store scopeId none none).map fun result =>
        (result.id,result) := by
      rw [←hid]
      exact List.mem_map_of_mem ((hmem result).mpr (by rwa [hid]))
    obtain ⟨other,hother⟩ := Dict.exists_get?_ofList hin
    obtain ⟨found,hf,he⟩ := List.mem_map.mp (Dict.mem_of_get?_ofList hother)
    cases he
    rw [(hmem _).mp hf] at hget
    rw [hother,hget]

/-- The objects read for the operands of a slot are the selected ones. -/
theorem entitiesOfRole_eq {resultsById : Dict ℕ MappingEntityResult}
    {operands : List MappingScopeRuleOperand}
    {entities : List (MappingScopeRuleOperandRole × ℤ)}
    (h : operands.mapM (operandEntity resultsById)=.ok entities)
    (role : MappingScopeRuleOperandRole) :
    entitiesOfRole entities role=selectedIds resultsById operands role := by
  have hslot := congrArg (List.filterMap id) (map_entitiesOfRole h role)
  simpa [List.filterMap_map,selectedIds,Function.comp_def] using hslot

/-- The rules read for a plan name the objects the scope selects. -/
theorem ruleObjects_of_mapped (hentry : store.get? scopeId=some entry)
    (hwf : ScopeEntryWf scopeId entry) {mapped : List MappedRuleData}
    (h : getMappingScopeRules store scopeId=.ok mapped) {rule : MappedRuleData}
    (hr : rule∈mapped) : ruleObjects entry rule.id=some (bodyObjects rule.toRuleBody) := by
  unfold getMappingScopeRules at h
  simp only [getScopeById,hentry,Option.map_some,materializeScope,Option.getD_some] at h
  split at h
  · cases h
  split at h
  · cases h
  obtain ⟨scopeRule,hmem,hdata⟩ := PyExcept.exists_of_mem_mapM h hr
  rw [List.mem_insertionSort,List.mem_insertionSort] at hmem
  obtain ⟨key,hkey⟩ := Dict.exists_get?_of_mem_values hmem
  rw [←hwf.rule_id key scopeRule hkey] at hkey
  unfold mappedRuleData at hdata
  split at hdata
  · cases hdata
  next operands hoperands =>
  obtain ⟨entities,hentities,hrest⟩ := PyExcept.bind_eq_ok.mp hdata
  dsimp only at hrest
  split at hrest
  · cases hrest
  cases hrest
  have hselected : ∀ role,selectedIds (Dict.ofList ((listResults store entry.scope.id none none).map
      fun result => (result.id,result))) operands role=selectedIds entry.results operands role := by
    intro role
    rw [hwf.scope_id]
    unfold selectedIds
    refine List.filterMap_congr fun operand _ => ?_
    rw [get?_resultsById hentry hwf]
  simp only [ruleObjects,hkey,Option.map_some,hoperands,Option.getD_some,bodyObjects,
    entitiesOfRole_eq hentities,hselected]

end Reader

/-- Every outdated plan that could still be pushed is refused. -/
structure PlansGuarded [PyUnicode] (hashFunc : String → String) (world : MigrationWorld) :
    Prop where
  /-- Scopes, rules and results lie under their numbers. -/
  scopes_wf : ScopesWf world.scopes
  /-- So do plans. -/
  plans_wf : StoreWf world.plans
  /-- The scope of a plan that can be pushed is stored. -/
  scope_known : ∀ planId plan,world.plans.get? planId=some plan → Pushable plan →
    ∃ scope,world.scopes.get? plan.plan.mappingScopeId=some scope
  /-- When it is outdated it is refused. -/
  refused : ∀ planId plan,world.plans.get? planId=some plan → Pushable plan →
    Outdated world plan → Refused hashFunc world plan.plan

section Steps

variable [PyUnicode] {hashFunc : String → String} {world next : MigrationWorld}

omit [PyUnicode] in
/-- Plans are outdated by their scopes alone. -/
theorem outdated_congr (hs : next.scopes=world.scopes) {plan : ExecutePlanCacheEntry} :
    Outdated next plan ↔ Outdated world plan := by
  rw [Outdated,Outdated,hs]

/-- Plans are refused by scopes and catalogs alone. -/
theorem refused_congr (hs : next.scopes=world.scopes) (hc : next.catalogs=world.catalogs)
    {plan : ExecutePlan} : Refused hashFunc next plan ↔ Refused hashFunc world plan := by
  rw [Refused,Refused,hs,hc]

/-- An allowed edit of the catalogs leaves outdated plans refused. -/
theorem PlansGuarded.edit (h : PlansGuarded hashFunc world) (hg : Guarded hashFunc world next)
    (hs : next.scopes=world.scopes) (hp : next.plans=world.plans) :
    PlansGuarded hashFunc next := by
  refine ⟨hs▸h.scopes_wf,hp▸h.plans_wf,?_,?_⟩
  · rw [hs,hp]
    exact h.scope_known
  · rw [hp]
    intro planId plan hget hpush houtdated
    have hbefore := (outdated_congr hs).mp houtdated
    exact hg.fingerprints planId plan hget hpush hbefore
      (h.refused planId plan hget hpush hbefore)

/-- Plans that can be pushed stay refused when nothing but plans changes. -/
theorem PlansGuarded.plans (h : PlansGuarded hashFunc world) (hs : next.scopes=world.scopes)
    (hc : next.catalogs=world.catalogs) (hw : StoreWf next.plans)
    (hback : ∀ planId plan,next.plans.get? planId=some plan → Pushable plan →
      world.plans.get? planId=some plan ∨
        ((∃ scope,world.scopes.get? plan.plan.mappingScopeId=some scope) ∧
          ¬Outdated world plan)) : PlansGuarded hashFunc next := by
  refine ⟨hs▸h.scopes_wf,hw,?_,?_⟩
  · rw [hs]
    intro planId plan hget hpush
    rcases hback planId plan hget hpush with hold|⟨hknown,-⟩
    · exact h.scope_known planId plan hold hpush
    · exact hknown
  · intro planId plan hget hpush houtdated
    rw [refused_congr hs hc]
    rw [outdated_congr hs] at houtdated
    rcases hback planId plan hget hpush with hold|⟨-,hcurrent⟩
    · exact h.refused planId plan hold hpush houtdated
    · exact absurd houtdated hcurrent

/-- An allowed operation of the mapping leaves outdated plans refused. -/
theorem PlansGuarded.mapping (h : PlansGuarded hashFunc world)
    (hg : Guarded hashFunc world next) {op : MappingOp}
    {answer : Except PyException (MappingAns op)} (hop : mappingHandles world op answer next) :
    PlansGuarded hashFunc next := by
  obtain ⟨hp,hs|⟨hc,hwrite⟩⟩ := mappingHandles_cases h.scopes_wf hop
  · exact h.edit hg hs hp
  refine ⟨hwrite.wf h.scopes_wf,hp▸h.plans_wf,?_,?_⟩
  · rw [hp]
    intro planId plan hget hpush
    obtain ⟨scope,hscope⟩ := h.scope_known planId plan hget hpush
    obtain ⟨scope',hscope',-⟩ := hwrite.get?_cases hscope
    exact ⟨scope',hscope'⟩
  · rw [hp]
    intro planId plan hget hpush houtdated
    obtain ⟨scope,hscope⟩ := h.scope_known planId plan hget hpush
    obtain ⟨scope',hscope',hprofile,hvpc,hsame⟩ := hwrite.get?_cases hscope
    obtain ⟨other,hother,rule,hrule,hdiffers⟩ := houtdated
    rw [hscope'] at hother
    cases hother
    by_cases hanew : SelectsAnew world next plan
    · -- a new selection has not touched the header of the scope
      have hheader : scope'.scope=scope.scope := by
        rcases hsame with hheader|⟨hrules,hresults⟩
        · exact hheader
        · obtain ⟨s,s',hs,hs',rule,-,hne⟩ := hanew
          rw [hscope] at hs
          rw [hscope'] at hs'
          cases hs
          cases hs'
          rw [ruleObjects,ruleObjects,hrules,hresults] at hne
          exact absurd rfl hne
      have hrefused := hg.selections planId plan hget hpush hanew
      intro found hfound
      rw [hscope'] at hfound
      cases hfound
      rw [hheader,hc]
      exact hrefused scope hscope
    · -- the plan was outdated before, so only fingerprints can have moved
      have hbefore : Outdated world plan := by
        refine ⟨scope,hscope,rule,hrule,?_⟩
        have hkept : ruleObjects scope' rule.mappingScopeRuleId=
            ruleObjects scope rule.mappingScopeRuleId := by
          by_contra hne
          exact hanew ⟨scope,scope',hscope,hscope',rule,hrule,hne⟩
        rwa [←hkept]
      exact hg.fingerprints planId plan hget hpush hbefore
        (h.refused planId plan hget hpush hbefore)

/-- The drafts of a new plan name what the scope selects. -/
theorem not_outdated_of_prepared (h : PlansGuarded hashFunc world) {plan : ExecutePlan}
    {rulesById : Dict ℕ StoredPlanRule} {mapped : List MappedRuleData}
    (hmapped : getMappingScopeRules world.scopes plan.mappingScopeId=.ok mapped)
    {catalog : SdwanPolicyCatalog} {firstRuleId : ℕ}
    (hrules : ∀ rule∈rulesById.values,
      rule∈storedRules hashFunc catalog plan.id firstRuleId mapped) :
    (∃ scope,world.scopes.get? plan.mappingScopeId=some scope) ∧
      ¬Outdated world ⟨plan,rulesById⟩ := by
  have hknown : ∃ scope,world.scopes.get? plan.mappingScopeId=some scope := by
    cases hget : world.scopes.get? plan.mappingScopeId with
    | some scope => exact ⟨scope,rfl⟩
    | none =>
      rw [getMappingScopeRules,getScopeById,hget] at hmapped
      cases hmapped
  refine ⟨hknown,?_⟩
  rintro ⟨scope,hscope,rule,hrule,hdiffers⟩
  obtain ⟨i,hi,rfl⟩ := List.mem_mapIdx.mp (hrules rule hrule)
  have hmem : (sortedMappedRules mapped)[i]∈mapped :=
    (List.mem_insertionSort _).mp (List.getElem_mem hi)
  exact hdiffers (ruleObjects_of_mapped hscope (h.scopes_wf _ _ hscope) hmapped hmem)

/-- What has been read of the rules is what the scopes still hold. -/
def RulesRead (history : List PrepareEvent) (scopes : ScopeStore) : Prop :=
  ∀ scopeId mapped,(⟨.getMappingScopeRules scopeId,.ok mapped⟩ : PrepareEvent)∈history →
    getMappingScopeRules scopes scopeId=.ok mapped

/-- A preparation leaves outdated plans refused. -/
theorem PlansGuarded.prepare (h : PlansGuarded hashFunc world) {scopeId : ℕ}
    {events : List PrepareEvent} {result : Except PyException PrepareExecutePlanResult}
    (hrun : Async.Runs (Amid (Guarded hashFunc) prepareHandles) world
      (prepareExecutePlan hashFunc scopeId) events next result) : PlansGuarded hashFunc next := by
  have hstart : PlansGuarded hashFunc world ∧ RulesRead [] world.scopes :=
    ⟨h,fun _ _ hm => by cases hm⟩
  refine (hrun.inv (prepareExecutePlan_sound hashFunc scopeId)
    (I:=fun history world => PlansGuarded hashFunc world ∧ RulesRead history world.scopes)
    hstart ?_).1.1
  rintro history op answer world next ⟨hg,hread⟩ hspec ⟨mid,hedit,hallowed,hop,-⟩
  have hmid := hg.edit hallowed hedit.scopes_eq hedit.plans_eq
  rw [←hedit.scopes_eq] at hread
  obtain ⟨hs,hc,hplans⟩ := prepareHandles_cases hop
  refine ⟨trivial,?_,?_⟩
  · rcases hplans with hsame|⟨plan,rules,rfl,hadd⟩
    · exact hmid.plans hs hc (hsame▸hmid.plans_wf) fun planId plan hget _ => Or.inl (hsame▸hget)
    · obtain ⟨hscope,-,⟨mapped,catalog,firstRuleId,hmapped,rfl⟩,-⟩ := hspec
      refine hmid.plans hs hc (addPlanWithRules_wf hmid.plans_wf hadd) fun planId entry hget _ => ?_
      obtain ⟨-,rulesById,hnext,hrules⟩ := addPlanWithRules_eq_ok hadd
      rw [hnext,Dict.get?_insert] at hget
      split at hget
      · cases hget
        exact Or.inr (not_outdated_of_prepared hmid (hscope▸hread _ _ hmapped) hrules)
      · exact Or.inl hget
  · rw [hs]
    intro readId mapped hm
    rcases List.mem_append.mp hm with hm|hm
    · exact hread readId mapped hm
    · cases List.mem_singleton.mp hm
      exact hop.1.symm

/-- Once a push has marked its plan, the plan is executed. -/
def MarkedExecuted (planId : ℕ) (history : List PushEvent) (plans : PlanStore) : Prop :=
  history.any marks=true → ∀ plan,plans.get? planId=some plan → plan.plan.pushStatus=.executed

/-- Plans that can still be pushed are left as they were. -/
def PushableKept (plans next : PlanStore) : Prop :=
  ∀ planId plan,next.get? planId=some plan → Pushable plan → plans.get? planId=some plan

omit [PyUnicode] in
/-- Replacing the entry of an executed plan touches no plan that can be pushed. -/
theorem pushableKept_insert {plans : PlanStore} {planId : ℕ} {entry : ExecutePlanCacheEntry}
    (hexecuted : entry.plan.pushStatus=.executed) :
    PushableKept plans (plans.insert planId entry) := by
  intro otherId plan hget hpush
  rw [Dict.get?_insert] at hget
  split at hget
  · cases hget
    have hpending := hpush.1
    rw [hexecuted] at hpending
    cases hpending
  · exact hget

omit [PyUnicode] in
/-- An operation of a push leaves plans that can still be pushed as they were. -/
theorem pushable_of_pushHandles {history : List PushEvent} {planId : ℕ} {op : PushOp}
    {answer : Except PyException (PushAns op)} (hw : StoreWf world.plans)
    (hmarked : MarkedExecuted planId history world.plans) (hspec : PushSpec planId history op)
    (hop : pushHandles world op answer next) :
    StoreWf next.plans ∧ PushableKept world.plans next.plans ∧
      MarkedExecuted planId (history++[⟨op,answer⟩]) next.plans := by
  have hsame : next.plans=world.plans → marks ⟨op,answer⟩=false → StoreWf next.plans ∧
      PushableKept world.plans next.plans ∧
      MarkedExecuted planId (history++[⟨op,answer⟩]) next.plans := by
    intro he hm
    rw [he]
    refine ⟨hw,fun _ _ hget _ => hget,fun hany => hmarked ?_⟩
    rw [List.any_append] at hany
    simpa [hm] using hany
  have hreplace : ∀ entry : ExecutePlanCacheEntry,entry.plan.pushStatus=.executed →
      next.plans=world.plans.insert planId entry → StoreWf next.plans → StoreWf next.plans ∧
      PushableKept world.plans next.plans ∧
      MarkedExecuted planId (history++[⟨op,answer⟩]) next.plans := by
    intro entry hexecuted he hwf
    refine ⟨hwf,he▸pushableKept_insert hexecuted,fun _ plan hget => ?_⟩
    rw [he,Dict.get?_insert_self] at hget
    cases hget
    exact hexecuted
  obtain ⟨-,-,hplans⟩ := pushHandles_cases hop
  cases op with
  | updatePlan plan =>
    rcases storeHandles_updatePlan hplans with ⟨marked,rfl,hok⟩|⟨error,rfl,-,hsamePlans⟩
    · obtain ⟨entry,-,hnext,-⟩ := updatePlan_eq_ok.mp hok
      obtain ⟨hid,hexecuted,-⟩ := hspec
      exact hreplace ⟨plan,entry.rules⟩ hexecuted (hid▸hnext) (updatePlan_wf hw hok)
    · exact hsame hsamePlans rfl
  | updatePlanRule rule =>
    rcases storeHandles_updatePlanRule hplans with ⟨saved,rfl,hok⟩|⟨error,rfl,-,hsamePlans⟩
    · obtain ⟨entry,hentry,-,hnext,-⟩ := updatePlanRule_eq_ok.mp hok
      obtain ⟨hmarks,hid,-⟩ := hspec
      rw [hid] at hentry hnext
      exact hreplace ⟨entry.plan,entry.rules.insert rule.id rule⟩
        (hmarked hmarks entry hentry) hnext (updatePlanRule_wf hw hok)
    · exact hsame hsamePlans rfl
  | _ => exact hsame hplans rfl

/-- A push leaves outdated plans refused. -/
theorem PlansGuarded.push (h : PlansGuarded hashFunc world) {planId : ℕ}
    {events : List PushEvent} {result : Except PyException PushResult}
    (hrun : Async.Runs (Amid (Guarded hashFunc) pushHandles) world
      (pushExecutePlanRules hashFunc planId) events next result) : PlansGuarded hashFunc next := by
  have hstart : PlansGuarded hashFunc world ∧ MarkedExecuted planId [] world.plans :=
    ⟨h,fun hm => by cases hm⟩
  refine (hrun.inv (pushExecutePlanRules_sound hashFunc planId)
    (I:=fun history world => PlansGuarded hashFunc world ∧
      MarkedExecuted planId history world.plans) hstart ?_).1.1
  rintro history op answer world next ⟨hg,hmarked⟩ hspec ⟨mid,hedit,hallowed,hop,-⟩
  have hmid := hg.edit hallowed hedit.scopes_eq hedit.plans_eq
  rw [←hedit.plans_eq] at hmarked
  obtain ⟨hs,hc,-⟩ := pushHandles_cases hop
  obtain ⟨hwf,hback,hmarks⟩ := pushable_of_pushHandles hmid.plans_wf hmarked hspec hop
  refine ⟨answerOk_of_pushHandles (hmid.plans_wf planId) hspec hop,?_,hmarks⟩
  exact hmid.plans hs hc hwf fun otherId plan hget hpush => Or.inl (hback otherId plan hget hpush)

end Steps

section Runs

variable [PyUnicode] {hashFunc : String → String} {services : MappingServices}
  {world next : MigrationWorld}

/-- Every outdated plan that could still be pushed is refused, whatever has been served. -/
theorem plansGuarded_of_reached
    (h : Reached hashFunc services (Guarded hashFunc) world) : PlansGuarded hashFunc world := by
  induction h with
  | start catalogs =>
    refine ⟨fun scopeId entry he => by simp at he,fun planId entry he => by simp at he,?_,?_⟩
    · intro planId plan hget
      simp at hget
    · intro planId plan hget
      simp at hget
  | step hreach hserved ih =>
    cases hserved with
    | mapping request hrun =>
      refine hrun.keeps ih fun op answer world next hg hstep => ?_
      obtain ⟨mid,hedit,hallowed,hop,hop'⟩ := hstep
      exact (hg.edit hallowed hedit.scopes_eq hedit.plans_eq).mapping hop' hop
    | prepare scopeId hrun => exact ih.prepare hrun
    | push planId hrun => exact ih.push hrun
    | edit hedit hallowed => exact ih.edit hallowed hedit.scopes_eq hedit.plans_eq

/-- A world with the scopes and plans of another, every outdated plan refused. -/
structure SameRecords (hashFunc : String → String) (world mid : MigrationWorld) : Prop where
  /-- The scopes are the same. -/
  scopes : mid.scopes=world.scopes
  /-- The plans are the same. -/
  plans : mid.plans=world.plans
  /-- Every outdated plan is refused. -/
  guarded : PlansGuarded hashFunc mid

/-- An operation of a push that only reads leaves the records. -/
theorem SameRecords.reads {mid after : MigrationWorld} (h : SameRecords hashFunc world mid)
    {op : PushOp} {answer : Except PyException (PushAns op)}
    (hop : Amid (Guarded hashFunc) pushHandles mid op answer after)
    (hreads : ∀ edited,pushHandles edited op answer after → after.plans=edited.plans) :
    SameRecords hashFunc world after ∧ ∃ edited,SameRecords hashFunc world edited ∧
      edited.client=mid.client ∧ pushHandles edited op answer after := by
  obtain ⟨edited,hedit,hallowed,hop,-⟩ := hop
  have hedited : SameRecords hashFunc world edited :=
    ⟨hedit.scopes_eq.trans h.scopes,hedit.plans_eq.trans h.plans,
      h.guarded.edit hallowed hedit.scopes_eq hedit.plans_eq⟩
  have hplans := hreads edited hop
  obtain ⟨hs,hc,-⟩ := pushHandles_cases hop
  refine ⟨⟨hs.trans hedited.scopes,hplans.trans hedited.plans,?_⟩,edited,hedited,?_,hop⟩
  · exact hedited.guarded.plans hs hc (hplans▸hedited.guarded.plans_wf)
      fun otherId plan hget _ => Or.inl (hplans▸hget)
  · obtain ⟨catalogs,rfl⟩ := hedit
    rfl

/-- The check of the catalog refuses a plan whose fingerprint is not the catalog's. -/
theorem pushWithGateway_rejected {start : MigrationWorld} {client : ℕ × String}
    (hsame : SameRecords hashFunc world start) (hclient : start.client=some client)
    {plan : ExecutePlan} (hrefused : ∀ mid,SameRecords hashFunc world mid →
      getFingerprint hashFunc (mid.catalogs client.1 client.2)≠plan.catalogFingerprint)
    {planRules : List StoredPlanRule} {scope : MappingScopeData} {events : List PushEvent}
    {result : Except PyException PushResult}
    (hrun : Async.Runs (Amid (Guarded hashFunc) pushHandles) start
      (pushWithGateway hashFunc plan planRules scope) events next result) :
    creations events=[] ∧ ∃ error,result=.error error := by
  obtain ⟨answer,mid,hop,hrest⟩ := Async.runs_call_bind hrun
  obtain ⟨-,edited,hedited,heclient,hread⟩ :=
    hsame.reads hop fun edited h => (pushHandles_cases h).2.2
  cases answer with
  | error error =>
    obtain ⟨rfl,-,rfl⟩ := hrest
    exact ⟨rfl,error,rfl⟩
  | ok catalog =>
    obtain ⟨after,rfl,hafter⟩ := hrest
    have hcatalog : catalog=edited.catalogs client.1 client.2 := by
      rcases hread.2 with ⟨error,herror⟩|⟨found,hfound,hok⟩
      · cases herror
      · rw [heclient,hclient] at hfound
        cases hfound
        cases hok
        rfl
    rw [if_pos (hcatalog▸hrefused edited hedited)] at hafter
    obtain ⟨rfl,-,rfl⟩ := Async.runs_done hafter
    exact ⟨rfl,_,rfl⟩

omit [PyUnicode] in
/-- A plan with listed new rules could create a policy. -/
theorem pushable_of_listPlanRules {store : PlanStore} (hw : StoreWf store) {planId : ℕ}
    {plan : ExecutePlanCacheEntry} (hplan : store.get? planId=some plan)
    (hstatus : plan.plan.pushStatus≠.executed)
    (hrules : ExecuteRepository.listPlanRules store planId (some .new) (some [.pending])≠[]) :
    Pushable plan := by
  have hpending : plan.plan.pushStatus=.pending := by
    cases h : plan.plan.pushStatus with
    | pending => rfl
    | executed => exact absurd h hstatus
  obtain ⟨rule,hrule⟩ := List.exists_mem_of_ne_nil _ hrules
  obtain ⟨-,hfilters,entry,hentry,hget⟩ := mem_listPlanRules (hw planId) hrule
  rw [hplan] at hentry
  cases hentry
  simp only [matchesFilters,Option.all_some,List.mem_singleton,Bool.and_eq_true,
    decide_eq_true_eq] at hfilters
  exact ⟨hpending,rule,Dict.mem_values_of_get? hget,hfilters.1,hfilters.2⟩

omit [PyUnicode] in
/-- A client is acquired for the profile and the project that were asked for. -/
theorem client_of_acquire {mid after : MigrationWorld} {profileId : ℕ} {vpcId : String} {u : Unit}
    (h : pushHandles mid (.acquire profileId vpcId) (.ok u) after) :
    after.client=some (profileId,vpcId) := by
  rcases h with ⟨-,rfl⟩|⟨error,herror,-⟩
  · rfl
  · cases herror

/-- The checks of scope and catalog refuse an outdated plan. -/
theorem pushRead_rejected {start : MigrationWorld} (hsame : SameRecords hashFunc world start)
    {planId : ℕ} {plan : ExecutePlanCacheEntry} (hplan : world.plans.get? planId=some plan)
    (hpush : Pushable plan) (houtdated : Outdated world plan) {scope : MappingScopeCacheEntry}
    (hscope : world.scopes.get? plan.plan.mappingScopeId=some scope)
    (hequal : scope.scope.catalogFingerprint=plan.plan.catalogFingerprint)
    {planRules : List StoredPlanRule} {data : MappingScopeData} {events : List PushEvent}
    {result : Except PyException PushResult}
    (hrun : Async.Runs (Amid (Guarded hashFunc) pushHandles) start
      (ExecutePush.withGateway scope.scope.cspProfileId scope.scope.vpcId
        (pushWithGateway hashFunc plan.plan planRules data)) events next result) :
    creations events=[] ∧ ∃ error,result=.error error := by
  obtain ⟨answer,mid,hop,hrest⟩ := Async.runs_call_bind hrun
  obtain ⟨hmid,edited,-,-,hacquire⟩ := hsame.reads hop fun edited h => (pushHandles_cases h).2.2
  cases answer with
  | error error =>
    obtain ⟨rfl,-,rfl⟩ := hrest
    exact ⟨rfl,error,rfl⟩
  | ok u =>
    obtain ⟨after,rfl,hafter⟩ := hrest
    obtain ⟨before,worked,kept,hkept,hclose⟩ := Async.runs_bind hafter
    obtain ⟨outcome,rfl,hbody⟩ := Async.runs_attempt hkept
    obtain ⟨hnone,error,rfl⟩ := pushWithGateway_rejected hmid (client_of_acquire hacquire)
      (fun mid hm => by
        have hrefused := hm.guarded.refused planId plan (hm.plans▸hplan) hpush
          ((outdated_congr hm.scopes).mpr houtdated) scope (hm.scopes▸hscope)
        exact hrefused.resolve_left (not_not.mpr hequal)) hbody
    obtain ⟨exits,rfl,hexits⟩ := hclose
    obtain ⟨closed,last,-,hend⟩ := Async.runs_call_bind hexits
    cases closed with
    | error error' =>
      obtain ⟨rfl,-,rfl⟩ := hend
      refine ⟨?_,error',rfl⟩
      rw [creations_cons rfl,creations_append,hnone]
      rfl
    | ok closed =>
      obtain ⟨rest,rfl,hrest⟩ := hend
      obtain ⟨rfl,-,rfl⟩ := Async.runs_done hrest
      refine ⟨?_,error,rfl⟩
      rw [creations_cons rfl,creations_append,hnone]
      rfl

/-- While nothing but allowed steps has been served, a push of an outdated plan
ends with an error and creates nothing. -/
theorem outdated_push_rejected (hreach : Reached hashFunc services (Guarded hashFunc) world)
    {planId : ℕ} {plan : ExecutePlanCacheEntry} (hplan : world.plans.get? planId=some plan)
    (houtdated : Outdated world plan) {events : List PushEvent}
    {result : Except PyException PushResult}
    (hrun : Async.Runs (Amid (Guarded hashFunc) pushHandles) world
      (pushExecutePlanRules hashFunc planId) events next result) :
    creations events=[] ∧ ∃ error,result=.error error := by
  have hguarded := plansGuarded_of_reached hreach
  have hworld : SameRecords hashFunc world world := ⟨rfl,rfl,hguarded⟩
  obtain ⟨scope,hscope,-⟩ := id houtdated
  obtain ⟨hid,-⟩ := hguarded.plans_wf planId plan hplan
  -- the plan is read as it is stored
  obtain ⟨answer1,mid1,hop1,hrest1⟩ := Async.runs_call_bind hrun
  obtain ⟨hmid1,edited1,hedited1,-,hread1⟩ :=
    hworld.reads hop1 fun edited h => (pushHandles_cases h).2.2
  obtain ⟨plans1,hstore1,-⟩ := hread1
  rw [storeHandles,getPlan,hedited1.plans,hplan] at hstore1
  rw [hstore1.1] at hrest1
  obtain ⟨events1,rfl,hrun1⟩ := hrest1
  dsimp only [Option.map_some] at hrun1
  split at hrun1
  · obtain ⟨rfl,-,rfl⟩ := Async.runs_done hrun1
    exact ⟨rfl,_,rfl⟩
  next hstatus =>
  -- its new rules are listed
  obtain ⟨answer2,mid2,hop2,hrest2⟩ := Async.runs_call_bind hrun1
  obtain ⟨hmid2,edited2,hedited2,-,hread2⟩ :=
    hmid1.reads hop2 fun edited h => (pushHandles_cases h).2.2
  obtain ⟨plans2,hstore2,-⟩ := hread2
  rw [storeHandles,hedited2.plans,hid] at hstore2
  rw [hstore2.1] at hrest2
  obtain ⟨events2,rfl,hrun2⟩ := hrest2
  split at hrun2
  · obtain ⟨rfl,-,rfl⟩ := Async.runs_done hrun2
    exact ⟨rfl,_,rfl⟩
  next hrules =>
  have hpush := pushable_of_listPlanRules hguarded.plans_wf hplan hstatus hrules
  -- its scope is read as it is stored
  obtain ⟨answer3,mid3,hop3,hrest3⟩ := Async.runs_call_bind hrun2
  obtain ⟨hmid3,edited3,hedited3,-,hread3⟩ :=
    hmid2.reads hop3 fun edited h => (pushHandles_cases h).2.2
  obtain ⟨data,hdata,hprofile,hvpc,hfingerprint⟩ := getMappingScopeData_of_get? hscope
  have hanswer3 : answer3=.ok data := hread3.1.trans (hedited3.scopes▸hdata)
  rw [hanswer3] at hrest3
  obtain ⟨events3,rfl,hrun3⟩ := hrest3
  split at hrun3
  · obtain ⟨rfl,-,rfl⟩ := Async.runs_done hrun3
    exact ⟨rfl,_,rfl⟩
  next hequal =>
  rw [hfingerprint] at hequal
  obtain ⟨before,mid4,outcome,hwork,hlast⟩ := Async.runs_bind hrun3
  rw [hprofile,hvpc] at hwork
  obtain ⟨hnone,error,rfl⟩ :=
    pushRead_rejected hmid3 hplan hpush houtdated hscope (not_not.mp hequal) hwork
  obtain ⟨rfl,-,rfl⟩ := hlast
  refine ⟨?_,error,rfl⟩
  rw [creations_cons rfl,creations_cons rfl,creations_cons rfl,hnone]

omit [PyUnicode] in
/-- Where the scopes stay, nothing is selected anew. -/
theorem not_selectsAnew_of_scopes (hscopes : next.scopes=world.scopes)
    (plan : ExecutePlanCacheEntry) : ¬SelectsAnew world next plan := by
  rintro ⟨scope,other,hscope,hother,rule,-,hne⟩
  rw [hscopes,hscope,Option.some.injEq] at hother
  exact absurd (by rw [hother]) hne

/-- Steps that leave scopes and catalogs alone are allowed. -/
theorem guarded_of_frame (hscopes : next.scopes=world.scopes)
    (hcatalogs : next.catalogs=world.catalogs) : Guarded hashFunc world next where
  selections _ plan _ _ hanew := absurd hanew (not_selectsAnew_of_scopes hscopes plan)
  fingerprints planId plan _ _ _ hrefused := by
    intro scope hscope
    rw [hscopes] at hscope
    rw [hcatalogs]
    exact hrefused scope hscope

/-- Steps between worlds that refuse every plan are allowed. -/
theorem guarded_of_refused
    (h : ∀ planId plan,world.plans.get? planId=some plan →
      Refused hashFunc world plan.plan ∧ Refused hashFunc next plan.plan) :
    Guarded hashFunc world next where
  selections planId plan hplan _ _ := (h planId plan hplan).1
  fingerprints planId plan hplan _ _ _ := (h planId plan hplan).2

end Runs

section Branch

open SdwanModels Ipv4 CanonicalReader MappingRulesExact

/-- A short digest: the first bytes of a text. -/
def firstBytes (s : String) : String :=
  String.ofList ((s.toByteArray.data.toList.take 18).map fun byte => Char.ofNat byte.toNat)

/-- A host of the sample controller. -/
def hostObject (id : ℤ) (name : String) (address : Ipv4Address) : SdwanAddrObject :=
  .ofHost id [] name address

/-- A service of the sample controller. -/
def httpsService : SdwanService := .ofTcp 8 "https" (443,443) []

/-- What the sample controller knows: all that the sample rule refers to, and
one more host. -/
def branchCatalog : SdwanFullCatalog where
  zones := [⟨3,3,"Inside",.lan⟩]
  services := [httpsService]
  addrObjs := [hostObject 5 "h1" (.ofNat 167772161),hostObject 6 "h2" (.ofNat 167772162)]
  networks := []

/-- A snapshot with one rule, from a host of a zone to itself. -/
def branchSnapshot : CanonicalScope.CanonicalSnapshot where
  zones := [⟨30,"zone:inside","inside"⟩]
  objects := [
    ⟨1,{ objectKey := "addr:h1", objectFamily := .addr, objectKind := .host, name := "h1",
         cidr := some "10.0.0.1/32" }⟩,
    ⟨2,{ objectKey := "service:https", objectFamily := .service, objectKind := .tcp,
         name := "https", portFrom := some 443, portTo := some 443 }⟩]
  members := []
  rules := [⟨20,"rule:1","rule 1","PERMIT",true,1,none,none⟩]
  operands := [⟨50,20,.srcZone,some 30,none,0⟩,⟨51,20,.dstZone,some 30,none,0⟩,
    ⟨52,20,.srcObject,none,some 1,0⟩,⟨53,20,.dstObject,none,some 1,0⟩,
    ⟨54,20,.service,none,some 2,0⟩]
  zones_nodup := by decide
  objects_nodup := by decide
  rules_nodup := by decide
  kind_family := by decide
  member_refs := by decide
  zone_refs := by decide
  object_refs := by decide
  action_cases := by decide

/-- The snapshot of the sample, under number 7. -/
def branchStore : SnapshotStore := Dict.empty.insert 7 branchSnapshot

/-- A controller without policies on which every call succeeds. One number is
enough, since scopes, results, rules and plans are stored apart. -/
def branchController : Controller where
  mapping
    | .newIds => .ok 100
    | .getDeviceObject devObjId => .ok (some ⟨devObjId,"edge",.device⟩)
    | .getCanonicalScopeEntitiesData snapshotId ruleIds =>
      getCanonicalScopeEntitiesData branchStore snapshotId ruleIds
    | .getCanonicalScopeRules snapshotId ruleIds =>
      getCanonicalScopeRules branchStore snapshotId ruleIds
    | .getAddrObject id =>
      .ok (branchCatalog.addrObjs.find? fun object => decide (object.id=id))
    | _ => .error ⟨"SDWANCspHttpResponseError",""⟩
  prepare
    | .newIds => .ok 100
    | .getSdwanPolicyCatalog targetId _ _ _ => .ok ⟨targetId,[],branchCatalog.zones,
        branchCatalog.services,branchCatalog.addrObjs⟩
    | _ => .error ⟨"SDWANCspHttpResponseError",""⟩
  push := siteAnswers
  created _ catalogs := catalogs

/-- The world before any request. -/
def branchStart : MigrationWorld := ⟨.empty,.empty,fun _ _ => branchCatalog,none⟩

/-- The world after a request on mapping scopes. -/
@[irreducible] def branchServed (request : MappingRequest) (world : MigrationWorld) :
    MigrationWorld :=
  ((@MappingRequest.serve asciiUnicode firstBytes (@mappingServices asciiUnicode) request).exec
    (mappingOracle branchController) world).2.1

/-- The world after rule 20 was mapped as scope 100. -/
@[irreducible] def branchMapped : MigrationWorld :=
  branchServed (.mapCanonicalToSdwan ⟨"branch",1,"vpc-1","device-1",.localBlock,7,[20]⟩)
    branchStart

/-- The world after plan 100 was prepared. -/
@[irreducible] def branchPrepared : MigrationWorld :=
  ((@prepareExecutePlan asciiUnicode firstBytes 100).exec (prepareOracle branchController)
    branchMapped).2.1

/-- The world after another host was selected for one of the source addresses. -/
def branchReselected (world : MigrationWorld) : MigrationWorld :=
  branchServed (.selectSdwanEntityDirectly 100 102 6) world

/-- A push of plan 100. -/
@[irreducible] def branchPush (world : MigrationWorld) :
    List PushEvent × MigrationWorld × Except PyException PushResult :=
  (@pushExecutePlanRules asciiUnicode firstBytes 100).exec (pushOracle branchController) world

/-- Mapping requests leave the plans alone, and on the sample controller the catalogs. -/
theorem mappingOracle_branchController (world : MigrationWorld) (op : MappingOp) :
    (mappingOracle branchController world op).2.plans=world.plans ∧
      (mappingOracle branchController world op).2.catalogs=world.catalogs := by
  have hwrite : ∀ {α : Type} (outcome : Except PyException (ScopeStore × α)),
      (writeScopes world outcome).2.plans=world.plans ∧
        (writeScopes world outcome).2.catalogs=world.catalogs := by
    intro α outcome
    cases outcome <;> exact ⟨rfl,rfl⟩
  cases op with
  | saveResult | addScope | addResults | attachRules | addRuleOperand |
      refreshCatalogFingerprint => exact hwrite _
  | _ => exact ⟨rfl,rfl⟩

/-- A request served by the sample controller is a step where the invariant of
its worlds allows it. -/
theorem served_branchServed {allowed : MigrationWorld → MigrationWorld → Prop}
    {I : MigrationWorld → Prop} (hallowed : ∀ world next,I world → I next → allowed world next)
    (hI : ∀ world op,I world → I (mappingOracle branchController world op).2)
    (request : MappingRequest) {world : MigrationWorld} (hworld : I world) :
    @Served asciiUnicode firstBytes (@mappingServices asciiUnicode) allowed world
      (branchServed request world) := by
  rw [branchServed]
  refine @Served.mapping asciiUnicode _ _ _ _ _ request _ _
    (Async.runs_exec_of_inv (I:=I) ?_ _ hworld)
  intro world op hw
  exact ⟨amid_of_handles (hallowed _ _ hw hw) (mappingHandles_mappingOracle _ _ _)
    (hallowed _ _ hw (hI world op hw)),hI world op hw⟩

/-- The plan is prepared, where steps that leave scopes and catalogs alone are allowed. -/
theorem served_branchPrepared {allowed : MigrationWorld → MigrationWorld → Prop}
    (hallowed : ∀ world next : MigrationWorld,next.scopes=world.scopes →
      next.catalogs=world.catalogs → allowed world next) :
    @Served asciiUnicode firstBytes (@mappingServices asciiUnicode) allowed branchMapped
      branchPrepared := by
  rw [branchPrepared]
  refine @Served.prepare asciiUnicode _ _ _ _ _ 100 _ _ (Async.runs_exec ?_ _ _)
  intro world op
  have hop := prepareHandles_prepareOracle branchController world op
  obtain ⟨hscopes,hcatalogs,-⟩ := prepareHandles_cases hop
  exact amid_of_handles (hallowed _ _ rfl rfl) hop (hallowed _ _ hscopes hcatalogs)

/-- The plan is pushed, where steps that leave scopes and catalogs alone are allowed. -/
theorem runs_branchPush {allowed : MigrationWorld → MigrationWorld → Prop}
    (hallowed : ∀ world next : MigrationWorld,next.scopes=world.scopes →
      next.catalogs=world.catalogs → allowed world next) (world : MigrationWorld) :
    Async.Runs (Amid allowed pushHandles) world (@pushExecutePlanRules asciiUnicode firstBytes 100)
      (branchPush world).1 (branchPush world).2.1 (branchPush world).2.2 := by
  rw [branchPush]
  refine Async.runs_exec ?_ _ _
  intro world op
  have hop := pushHandles_pushOracle branchController world op
  obtain ⟨hscopes,hcatalogs,-⟩ := pushHandles_cases hop
  exact amid_of_handles (hallowed _ _ rfl rfl) hop (hallowed _ _ hscopes hcatalogs)

/-- An outdated plan of a world, read off its plans. -/
theorem exists_outdated {world : MigrationWorld} {planId : ℕ}
    (h : ((world.plans.get? planId).any fun plan => decide (Outdated world plan))=true) :
    ∃ plan,world.plans.get? planId=some plan ∧ Outdated world plan := by
  cases hplan : world.plans.get? planId with
  | none =>
    rw [hplan] at h
    cases h
  | some plan =>
    rw [hplan] at h
    exact ⟨plan,rfl,of_decide_eq_true h⟩

/-- Every step is allowed. -/
def anyStep (_ _ : MigrationWorld) : Prop := True

/-- Selected under equal fingerprints, another host leaves the plan outdated,
and its push creates the policy all the same. -/
theorem outdated_push_creates :
    @Reached asciiUnicode firstBytes (@mappingServices asciiUnicode) anyStep
        (branchReselected branchPrepared) ∧
      (∃ plan,(branchReselected branchPrepared).plans.get? 100=some plan ∧
        Outdated (branchReselected branchPrepared) plan) ∧
      Async.Runs (Amid anyStep pushHandles) (branchReselected branchPrepared)
        (@pushExecutePlanRules asciiUnicode firstBytes 100)
        (branchPush (branchReselected branchPrepared)).1
        (branchPush (branchReselected branchPrepared)).2.1
        (branchPush (branchReselected branchPrepared)).2.2 ∧
      creations (branchPush (branchReselected branchPrepared)).1=[(100,.ok 901)] := by
  let _ : PyUnicode := asciiUnicode
  have hany : ∀ world next : MigrationWorld,True → True → anyStep world next :=
    fun _ _ _ _ => trivial
  have hmapped : Served firstBytes mappingServices anyStep branchStart branchMapped := by
    rw [branchMapped]
    exact served_branchServed hany (fun _ _ _ => trivial) _ trivial
  have hprepared : Served firstBytes mappingServices anyStep branchMapped branchPrepared :=
    served_branchPrepared fun _ _ _ _ => trivial
  have hreselected : Served firstBytes mappingServices anyStep branchPrepared
      (branchReselected branchPrepared) :=
    served_branchServed hany (fun _ _ _ => trivial) _ trivial
  have hreach := (((Reached.start _).step hmapped).step hprepared).step hreselected
  obtain ⟨houtdated,hcreated⟩ : ((branchReselected branchPrepared).plans.get? 100).any
        (fun plan => decide (Outdated (branchReselected branchPrepared) plan))=true ∧
      creations (branchPush (branchReselected branchPrepared)).1=[(100,.ok 901)] := by
    decide +kernel
  exact ⟨hreach,exists_outdated houtdated,runs_branchPush (fun _ _ _ _ => trivial) _,hcreated⟩

/-- The world after the catalog lost its address objects. -/
def branchEdited : MigrationWorld :=
  { branchPrepared with catalogs := fun _ _ => { branchCatalog with addrObjs := [] } }

/-- With the edited catalog every plan of the sample is refused. -/
theorem refused_branchEdited (world : MigrationWorld) (hplans : world.plans=branchPrepared.plans)
    (hcatalogs : world.catalogs=branchEdited.catalogs) {planId : ℕ} {plan : ExecutePlanCacheEntry}
    (hplan : world.plans.get? planId=some plan) :
    @Refused asciiUnicode firstBytes world plan.plan := by
  have hfingerprint : ∀ entry∈branchPrepared.plans.entries,
      @getFingerprint asciiUnicode firstBytes { branchCatalog with addrObjs := [] }≠
        entry.2.plan.catalogFingerprint := by decide +kernel
  intro scope _
  rw [hplans] at hplan
  rw [hcatalogs]
  exact Or.inr (hfingerprint _ (Dict.get?_eq_some_iff.mp hplan))

/-- Selected after the catalog was edited, another host leaves the plan
outdated, and its push is refused. -/
theorem outdated_push_rejected_branch :
    (∃ plan,(branchReselected branchEdited).plans.get? 100=some plan ∧
      Outdated (branchReselected branchEdited) plan) ∧
    creations (branchPush (branchReselected branchEdited)).1=[] ∧
      ∃ error,(branchPush (branchReselected branchEdited)).2.2=.error error := by
  let _ : PyUnicode := asciiUnicode
  have hframe : ∀ world next : MigrationWorld,next.scopes=world.scopes →
      next.catalogs=world.catalogs → Guarded firstBytes world next := fun _ _ => guarded_of_frame
  -- no plan exists while the scope is mapped
  have hmapped :
      Served firstBytes mappingServices (Guarded firstBytes) branchStart branchMapped := by
    rw [branchMapped]
    refine served_branchServed (I:=fun world => world.plans=Dict.empty) ?_ ?_ _ rfl
    · intro world next hworld _
      refine guarded_of_refused fun planId plan hplan => ?_
      rw [hworld] at hplan
      cases hplan
    · intro world op hworld
      exact (mappingOracle_branchController world op).1.trans hworld
  have hedit : Guarded firstBytes branchPrepared branchEdited := by
    refine ⟨fun _ plan _ _ hanew => ?_,fun _ plan hplan _ _ _ => ?_⟩
    · exact absurd hanew (not_selectsAnew_of_scopes rfl plan)
    · exact refused_branchEdited branchEdited rfl rfl hplan
  -- every plan is refused while another host is selected
  have hreselected : Served firstBytes mappingServices (Guarded firstBytes) branchEdited
      (branchReselected branchEdited) := by
    refine served_branchServed (I:=fun world => world.plans=branchPrepared.plans ∧
      world.catalogs=branchEdited.catalogs) ?_ ?_ _ ⟨rfl,rfl⟩
    · intro world next hworld hnext
      refine guarded_of_refused fun planId plan hplan => ⟨?_,?_⟩
      · exact refused_branchEdited world hworld.1 hworld.2 hplan
      · rw [hworld.1,←hnext.1] at hplan
        exact refused_branchEdited next hnext.1 hnext.2 hplan
    · intro world op hworld
      exact ⟨(mappingOracle_branchController world op).1.trans hworld.1,
        (mappingOracle_branchController world op).2.trans hworld.2⟩
  have hreach := ((((Reached.start _).step hmapped).step (served_branchPrepared hframe)).step
    (.edit ⟨_,rfl⟩ hedit)).step hreselected
  obtain ⟨plan,hplan,houtdated⟩ : ∃ plan,
      (branchReselected branchEdited).plans.get? 100=some plan ∧
        Outdated (branchReselected branchEdited) plan := exists_outdated (by decide +kernel)
  exact ⟨⟨plan,hplan,houtdated⟩,outdated_push_rejected hreach hplan houtdated
    (runs_branchPush hframe _)⟩

end Branch

end NspMigrator.PlanStaleness
