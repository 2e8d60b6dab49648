import Mathlib
import NspMigrator.MappingEntities

/-!
# Stored mapping scopes

A scope, its rules and its results are one cache entry, read and written as a
whole. Results and rules lie under their own identifiers.
-/

namespace NspMigrator.MappingRepository

open PyDict ExecuteRepository MappingEntities

/-- A scope with its rules and results. -/
structure MappingScopeCacheEntry where
  /-- The scope itself. -/
  scope : MappingScope
  /-- Its rules by number. -/
  rules : Dict ℕ MappingScopeRule
  /-- Its results by number. -/
  results : Dict ℕ MappingEntityResult
  deriving DecidableEq

/-- The scopes in the cache. -/
abbrev ScopeStore := Dict ℕ MappingScopeCacheEntry

/-- The entry of a scope that has to be there. -/
def requireScopeEntry (store : ScopeStore) (scopeId : ℕ) :
    Except PyException MappingScopeCacheEntry :=
  match store.get? scopeId with
  | some entry => .ok entry
  | none => .error ⟨"ValueError","Mapping scope not found"⟩

/-- Store a new scope without rules and results. -/
def addScope (store : ScopeStore) (scope : MappingScope) : Except PyException ScopeStore :=
  match store.get? scope.id with
  | some _ => .error ⟨"ValueError","Mapping scope "++toString scope.id++" already exists"⟩
  | none => .ok (store.insert scope.id ⟨scope,.empty,.empty⟩)

/-- A scope with its rules by priority. -/
def materializeScope (entry : MappingScopeCacheEntry) : MappingScope :=
  { entry.scope with
    rules := some (entry.rules.values.insertionSort fun a b => a.priority≤b.priority) }

/-- The scope with its rules. -/
def getScopeById (store : ScopeStore) (scopeId : ℕ) : Option MappingScope :=
  (store.get? scopeId).map materializeScope

/-- Replace the fingerprint of a scope. -/
def refreshCatalogFingerprint (store : ScopeStore) (scopeId : ℕ) (catalogFingerprint : String) :
    Except PyException (ScopeStore × MappingScope) := do
  let entry ← requireScopeEntry store scopeId
  let refreshed : MappingScopeCacheEntry :=
    { entry with scope := entry.scope.refreshCatalogFingerprint catalogFingerprint }
  return (store.insert scopeId refreshed,materializeScope refreshed)

/-- The checks before rules are attached. -/
def checkRules (entry : MappingScopeCacheEntry) (scopeId : ℕ) (rules : List MappingScopeRule) :
    Except PyException Unit :=
  rules.forM fun rule =>
    if rule.mappingScopeId≠scopeId then
      .error ⟨"ValueError","MappingScopeRule belongs to another scope"⟩
    else if entry.rules.contains rule.id=true then
      .error ⟨"ValueError","Mapping scope rule "++toString rule.id++" already exists"⟩
    else .ok ()

/-- Attach rules to a scope. -/
def attachRules (store : ScopeStore) (scopeId : ℕ) (rules : List MappingScopeRule) :
    Except PyException ScopeStore := do
  let entry ← requireScopeEntry store scopeId
  if rules=[] then return store
  else
    checkRules entry scopeId rules
    return store.insert scopeId { entry with
      rules := rules.foldl (fun d rule => d.insert rule.id rule) entry.rules }

/-- Append an operand to a rule. -/
def addRuleOperand (store : ScopeStore) (scopeId : ℕ) (operand : MappingScopeRuleOperand) :
    Except PyException ScopeStore := do
  let entry ← requireScopeEntry store scopeId
  match entry.rules.get? operand.mappingScopeRuleId with
  | none => .error ⟨"ValueError","MappingScopeRule does not belong to provided scope"⟩
  | some rule => .ok (store.insert scopeId { entry with
      rules := entry.rules.insert rule.id
        { rule with operands := some (rule.operands.getD []++[operand]) } })

/-- The checks before results are added. -/
def checkResults (entry : MappingScopeCacheEntry) (scopeId : ℕ)
    (results : List MappingEntityResult) : Except PyException Unit :=
  results.forM fun result =>
    if result.mappingScopeId≠scopeId then
      .error ⟨"ValueError","MappingEntityResult belongs to another scope"⟩
    else if entry.results.contains result.id=true then
      .error ⟨"ValueError","Mapping entity result "++toString result.id++" already exists"⟩
    else .ok ()

/-- Add results to a scope. -/
def addResults (store : ScopeStore) (scopeId : ℕ) (results : List MappingEntityResult) :
    Except PyException ScopeStore := do
  let entry ← requireScopeEntry store scopeId
  if results=[] then return store
  else
    checkResults entry scopeId results
    return store.insert scopeId { entry with
      results := results.foldl (fun d result => d.insert result.id result) entry.results }

/-- A result of a scope. -/
def getResult (store : ScopeStore) (scopeId resultId : ℕ) : Option MappingEntityResult :=
  (store.get? scopeId).bind fun entry => entry.results.get? resultId

/-- The results of a scope, by kind of entity. -/
def listResults (store : ScopeStore) (scopeId : ℕ) (entityType : Option MappingEntityType)
    (status : Option MappingResultStatus) : List MappingEntityResult :=
  match store.get? scopeId with
  | none => []
  | some entry => (entry.results.values.filter fun result =>
      (entityType.all fun type => decide (result.entityType=type)) &&
        (status.all fun status => decide (result.resultStatus=status))).insertionSort
      fun a b => a.entityType.rank≤b.entityType.rank

/-- A result with the candidates of the stored one where it has none. -/
def withStoredCandidates (current result : MappingEntityResult) : MappingEntityResult :=
  { result with
    candidates := if result.candidates=none then current.candidates else result.candidates }

/-- Replace a stored result. -/
def saveResult (store : ScopeStore) (result : MappingEntityResult) :
    Except PyException (ScopeStore × MappingEntityResult) := do
  let entry ← requireScopeEntry store result.mappingScopeId
  match entry.results.get? result.id with
  | none => .error ⟨"ValueError","Mapping entity result not found"⟩
  | some current =>
    let saved := withStoredCandidates current result
    if saved=current then .ok (store,saved)
    else .ok (store.insert result.mappingScopeId
      { entry with results := entry.results.insert result.id saved },saved)

/-- Rules and results lie under their own identifiers and belong to the scope. -/
structure ScopeEntryWf (scopeId : ℕ) (entry : MappingScopeCacheEntry) : Prop where
  /-- The scope lies under its number. -/
  scope_id : entry.scope.id=scopeId
  /-- So does every rule. -/
  rule_id : ∀ ruleId rule,entry.rules.get? ruleId=some rule → rule.id=ruleId
  /-- So does every result, which belongs to the scope. -/
  result_id : ∀ resultId result,entry.results.get? resultId=some result →
    result.id=resultId ∧ result.mappingScopeId=scopeId

/-- Every scope lies under its own identifier, with its own rules and results. -/
def ScopesWf (store : ScopeStore) : Prop :=
  ∀ scopeId entry,store.get? scopeId=some entry → ScopeEntryWf scopeId entry

/-- What a write of the cache can do: store a new scope, change the rules and
results of one scope, or change its fingerprint. -/
inductive ScopeWrite (store : ScopeStore) : ScopeStore → Prop where
  | same : ScopeWrite store store
  | new {scope : MappingScope} (hnone : store.get? scope.id=none) :
      ScopeWrite store (store.insert scope.id ⟨scope,.empty,.empty⟩)
  | content {scopeId : ℕ} {entry : MappingScopeCacheEntry} {rules : Dict ℕ MappingScopeRule}
      {results : Dict ℕ MappingEntityResult} (hentry : store.get? scopeId=some entry)
      (hwf : ScopeEntryWf scopeId ⟨entry.scope,rules,results⟩) :
      ScopeWrite store (store.insert scopeId ⟨entry.scope,rules,results⟩)
  | fingerprint {scopeId : ℕ} {entry : MappingScopeCacheEntry} {catalogFingerprint : String}
      (hentry : store.get? scopeId=some entry) :
      ScopeWrite store (store.insert scopeId
        ⟨entry.scope.refreshCatalogFingerprint catalogFingerprint,entry.rules,entry.results⟩)

/-- An entry that has to be there is there. -/
theorem requireScopeEntry_eq_ok {store : ScopeStore} {scopeId : ℕ}
    {entry : MappingScopeCacheEntry} :
    requireScopeEntry store scopeId=.ok entry ↔ store.get? scopeId=some entry := by
  unfold requireScopeEntry
  cases store.get? scopeId with
  | none => simp
  | some found => simp

/-- Adding values under keys of their own adds nothing else. -/
theorem get?_foldl_insert {α : Type} (key : α → ℕ) {items : List α} {d : Dict ℕ α} {k : ℕ}
    {value : α} (h : (items.foldl (fun d item => d.insert (key item) item) d).get? k=some value) :
    d.get? k=some value ∨ (value∈items ∧ key value=k) := by
  induction items generalizing d with
  | nil => exact Or.inl h
  | cons item items ih =>
    rw [List.foldl_cons] at h
    rcases ih h with hd|⟨hm,hk⟩
    · rw [Dict.get?_insert] at hd
      split at hd
      · next hkey =>
        cases hd
        exact Or.inr ⟨List.mem_cons_self,hkey.symm⟩
      · exact Or.inl hd
    · exact Or.inr ⟨List.mem_cons_of_mem item hm,hk⟩

section Writes

variable {store next : ScopeStore}

theorem ScopesWf.insert (hw : ScopesWf store) {scopeId : ℕ} {entry : MappingScopeCacheEntry}
    (he : ScopeEntryWf scopeId entry) : ScopesWf (store.insert scopeId entry) := by
  intro otherId other ho
  rw [Dict.get?_insert] at ho
  split at ho
  · next hid =>
    cases ho
    rw [hid]
    exact he
  · exact hw otherId other ho

/-- Every write leaves scopes, rules and results under their identifiers. -/
theorem ScopeWrite.wf (h : ScopeWrite store next) (hw : ScopesWf store) : ScopesWf next := by
  cases h with
  | same => exact hw
  | new hnone =>
    exact hw.insert ⟨rfl,fun ruleId rule hr => (by simp at hr),
      fun resultId result hr => (by simp at hr)⟩
  | content hentry hwf => exact hw.insert hwf
  | fingerprint hentry =>
    have he := hw _ _ hentry
    exact hw.insert ⟨he.scope_id,he.rule_id,he.result_id⟩

/-- A write keeps every scope, and changes its header or its contents, but not both. -/
theorem ScopeWrite.get?_cases (h : ScopeWrite store next) {scopeId : ℕ}
    {entry : MappingScopeCacheEntry} (hget : store.get? scopeId=some entry) :
    ∃ entry',next.get? scopeId=some entry' ∧ entry'.scope.cspProfileId=entry.scope.cspProfileId ∧
      entry'.scope.vpcId=entry.scope.vpcId ∧ (entry'.scope=entry.scope ∨
        (entry'.rules=entry.rules ∧ entry'.results=entry.results)) := by
  cases h with
  | same => exact ⟨entry,hget,rfl,rfl,Or.inl rfl⟩
  | new hnone =>
    refine ⟨entry,?_,rfl,rfl,Or.inl rfl⟩
    rw [Dict.get?_insert_of_ne _ (fun he => by rw [he,hnone] at hget; cases hget)]
    exact hget
  | @content writtenId old rules results hentry hwf =>
    by_cases he : scopeId=writtenId
    · subst he
      rw [hentry] at hget
      cases hget
      exact ⟨_,Dict.get?_insert_self _ _ _,rfl,rfl,Or.inl rfl⟩
    · exact ⟨entry,by rw [Dict.get?_insert_of_ne _ he,hget],rfl,rfl,Or.inl rfl⟩
  | @fingerprint writtenId old catalogFingerprint hentry =>
    by_cases he : scopeId=writtenId
    · subst he
      rw [hentry] at hget
      cases hget
      exact ⟨_,Dict.get?_insert_self _ _ _,rfl,rfl,Or.inr ⟨rfl,rfl⟩⟩
    · exact ⟨entry,by rw [Dict.get?_insert_of_ne _ he,hget],rfl,rfl,Or.inl rfl⟩

theorem addScope_write {scope : MappingScope} (h : addScope store scope=.ok next) :
    ScopeWrite store next := by
  unfold addScope at h
  split at h
  · cases h
  · next hnone =>
    cases h
    exact .new hnone

theorem refreshCatalogFingerprint_write {scopeId : ℕ} {catalogFingerprint : String}
    {scope : MappingScope}
    (h : refreshCatalogFingerprint store scopeId catalogFingerprint=.ok (next,scope)) :
    ScopeWrite store next := by
  obtain ⟨entry,he,hp⟩ := PyExcept.bind_eq_ok.mp h
  cases PyExcept.pure_eq_ok.mp hp
  exact .fingerprint (requireScopeEntry_eq_ok.mp he)

/-- Rules that pass the checks belong to the scope. -/
theorem attachRules_write (hw : ScopesWf store) {scopeId : ℕ} {rules : List MappingScopeRule}
    (h : attachRules store scopeId rules=.ok next) : ScopeWrite store next := by
  obtain ⟨entry,he,hrest⟩ := PyExcept.bind_eq_ok.mp h
  have hentry := requireScopeEntry_eq_ok.mp he
  have hwf := hw _ _ hentry
  split at hrest
  · rw [←PyExcept.pure_eq_ok.mp hrest]
    exact .same
  · obtain ⟨_,-,hp⟩ := PyExcept.bind_eq_ok.mp hrest
    rw [←PyExcept.pure_eq_ok.mp hp]
    refine .content hentry ⟨hwf.scope_id,fun ruleId rule hr => ?_,hwf.result_id⟩
    rcases get?_foldl_insert MappingScopeRule.id hr with hold|⟨-,hid⟩
    · exact hwf.rule_id ruleId rule hold
    · exact hid

theorem addRuleOperand_write (hw : ScopesWf store) {scopeId : ℕ}
    {operand : MappingScopeRuleOperand} (h : addRuleOperand store scopeId operand=.ok next) :
    ScopeWrite store next := by
  obtain ⟨entry,he,hrest⟩ := PyExcept.bind_eq_ok.mp h
  have hentry := requireScopeEntry_eq_ok.mp he
  have hwf := hw _ _ hentry
  split at hrest
  · cases hrest
  next rule hrule =>
  cases hrest
  refine .content hentry ⟨hwf.scope_id,fun ruleId other ho => ?_,hwf.result_id⟩
  rw [Dict.get?_insert] at ho
  split at ho
  · next hid =>
    cases ho
    exact hid.symm
  · exact hwf.rule_id ruleId other ho

/-- Results that pass the checks belong to the scope. -/
theorem mem_of_checkResults {entry : MappingScopeCacheEntry} {scopeId : ℕ}
    {results : List MappingEntityResult} (h : checkResults entry scopeId results=.ok ())
    {result : MappingEntityResult} (hr : result∈results) : result.mappingScopeId=scopeId := by
  induction results with
  | nil => cases hr
  | cons first rest ih =>
    rw [checkResults,List.forM_eq_forM,List.forM_cons] at h
    obtain ⟨_,hfirst,hrest⟩ := PyExcept.bind_eq_ok.mp h
    rcases List.mem_cons.mp hr with rfl|hr
    · split at hfirst
      · cases hfirst
      · next hid => exact not_not.mp hid
    · exact ih hrest hr

theorem addResults_write (hw : ScopesWf store) {scopeId : ℕ} {results : List MappingEntityResult}
    (h : addResults store scopeId results=.ok next) : ScopeWrite store next := by
  obtain ⟨entry,he,hrest⟩ := PyExcept.bind_eq_ok.mp h
  have hentry := requireScopeEntry_eq_ok.mp he
  have hwf := hw _ _ hentry
  split at hrest
  · rw [←PyExcept.pure_eq_ok.mp hrest]
    exact .same
  · obtain ⟨_,hcheck,hp⟩ := PyExcept.bind_eq_ok.mp hrest
    rw [←PyExcept.pure_eq_ok.mp hp]
    refine .content hentry ⟨hwf.scope_id,hwf.rule_id,fun resultId result hr => ?_⟩
    rcases get?_foldl_insert MappingEntityResult.id hr with hold|⟨hm,hid⟩
    · exact hwf.result_id resultId result hold
    · exact ⟨hid,mem_of_checkResults hcheck hm⟩

theorem saveResult_write (hw : ScopesWf store) {result saved : MappingEntityResult}
    (h : saveResult store result=.ok (next,saved)) : ScopeWrite store next := by
  obtain ⟨entry,he,hrest⟩ := PyExcept.bind_eq_ok.mp h
  have hentry := requireScopeEntry_eq_ok.mp he
  have hwf := hw _ _ hentry
  split at hrest
  · cases hrest
  next current hcurrent =>
  dsimp only at hrest
  split at hrest
  · cases hrest
    exact .same
  · cases hrest
    refine .content hentry ⟨hwf.scope_id,hwf.rule_id,fun resultId other ho => ?_⟩
    rw [Dict.get?_insert] at ho
    split at ho
    · next hid =>
      cases ho
      exact ⟨hid.symm,rfl⟩
    · exact hwf.result_id resultId other ho

end Writes

/-- One entry was stored, and no other changed. -/
def Updated (store next : ScopeStore) (scopeId : ℕ) (entry : MappingScopeCacheEntry) : Prop :=
  ∀ otherId,next.get? otherId=if otherId=scopeId then some entry else store.get? otherId

/-- Rules that were written have the operands of the rules before, or operands of their own. -/
def RulesWritten (old rules : Dict ℕ MappingScopeRule) (New : MappingScopeRuleOperand → Prop) :
    Prop :=
  ∀ ruleId rule,rules.get? ruleId=some rule → ∀ operand∈rule.operands.getD [],New operand ∨
    ∃ oldId before,old.get? oldId=some before ∧ operand∈before.operands.getD []

/-- Adding values under distinct keys of their own replaces exactly those. -/
theorem get?_foldl_insert_iff {α : Type} (key : α → ℕ) {items : List α}
    (hnodup : (items.map key).Nodup) {d : Dict ℕ α} {k : ℕ} {value : α} :
    (items.foldl (fun d item => d.insert (key item) item) d).get? k=some value ↔
      (value∈items ∧ key value=k) ∨ (k∉items.map key ∧ d.get? k=some value) := by
  induction items generalizing d with
  | nil => simp
  | cons item items ih =>
    rw [List.map_cons,List.nodup_cons] at hnodup
    rw [List.foldl_cons,ih hnodup.2,Dict.get?_insert]
    by_cases hk : k=key item
    · rw [if_pos hk]
      constructor
      · rintro (⟨hm,hv⟩|⟨-,hv⟩)
        · exact Or.inl ⟨List.mem_cons_of_mem item hm,hv⟩
        · cases hv
          exact Or.inl ⟨List.mem_cons_self,hk.symm⟩
      · rintro (⟨hm,hv⟩|⟨hout,-⟩)
        · rcases List.mem_cons.mp hm with rfl|hm
          · exact Or.inr ⟨hk▸hnodup.1,rfl⟩
          · exact Or.inl ⟨hm,hv⟩
        · exact absurd (hk▸List.mem_cons_self) hout
    · have hkeys : k∉key item::items.map key ↔ k∉items.map key := by
        rw [List.mem_cons,or_iff_right hk]
      have hitems : (value∈item::items ∧ key value=k) ↔ value∈items ∧ key value=k := by
        refine ⟨fun h => ⟨(List.mem_cons.mp h.1).resolve_left ?_,h.2⟩,
          fun h => ⟨List.mem_cons_of_mem item h.1,h.2⟩⟩
        intro he
        exact hk (h.2.symm.trans (congrArg key he))
      rw [if_neg hk,List.map_cons,hkeys,hitems]

section Updates

variable {store next : ScopeStore} {scopeId : ℕ}

theorem updated_insert (store : ScopeStore) (scopeId : ℕ) (entry : MappingScopeCacheEntry) :
    Updated store (store.insert scopeId entry) scopeId entry :=
  fun _ => Dict.get?_insert _ _ _ _

theorem updated_same {entry : MappingScopeCacheEntry} (h : store.get? scopeId=some entry) :
    Updated store store scopeId entry := by
  intro otherId
  by_cases hid : otherId=scopeId
  · rw [if_pos hid,hid,h]
  · rw [if_neg hid]

/-- A new scope starts without rules and results. -/
theorem addScope_updated {scope : MappingScope} (h : addScope store scope=.ok next) :
    store.get? scope.id=none ∧ Updated store next scope.id ⟨scope,.empty,.empty⟩ := by
  unfold addScope at h
  split at h
  · cases h
  · next hnone =>
    cases h
    exact ⟨hnone,updated_insert _ _ _⟩

/-- A fingerprint is replaced without its rules and results. -/
theorem refreshCatalogFingerprint_updated {catalogFingerprint : String} {scope : MappingScope}
    (h : refreshCatalogFingerprint store scopeId catalogFingerprint=.ok (next,scope)) :
    ∃ entry,store.get? scopeId=some entry ∧ Updated store next scopeId
      ⟨entry.scope.refreshCatalogFingerprint catalogFingerprint,entry.rules,entry.results⟩ := by
  obtain ⟨entry,he,hp⟩ := PyExcept.bind_eq_ok.mp h
  cases PyExcept.pure_eq_ok.mp hp
  exact ⟨entry,requireScopeEntry_eq_ok.mp he,updated_insert _ _ _⟩

/-- Rules that are attached bring their own operands. -/
theorem attachRules_updated {rules : List MappingScopeRule}
    (h : attachRules store scopeId rules=.ok next) :
    ∃ entry written,store.get? scopeId=some entry ∧
      Updated store next scopeId ⟨entry.scope,written,entry.results⟩ ∧
      RulesWritten entry.rules written
        fun operand => ∃ rule∈rules,operand∈rule.operands.getD [] := by
  obtain ⟨entry,he,hrest⟩ := PyExcept.bind_eq_ok.mp h
  have hentry := requireScopeEntry_eq_ok.mp he
  split at hrest
  · cases PyExcept.pure_eq_ok.mp hrest
    exact ⟨entry,entry.rules,hentry,updated_same hentry,
      fun ruleId rule hr operand ho => Or.inr ⟨ruleId,rule,hr,ho⟩⟩
  · obtain ⟨_,-,hp⟩ := PyExcept.bind_eq_ok.mp hrest
    cases PyExcept.pure_eq_ok.mp hp
    refine ⟨entry,_,hentry,updated_insert _ _ _,fun ruleId rule hr operand ho => ?_⟩
    rcases get?_foldl_insert MappingScopeRule.id hr with hold|⟨hm,-⟩
    · exact Or.inr ⟨ruleId,rule,hold,ho⟩
    · exact Or.inl ⟨rule,hm,ho⟩

/-- An operand that is added is the only one. -/
theorem addRuleOperand_updated {operand : MappingScopeRuleOperand}
    (h : addRuleOperand store scopeId operand=.ok next) :
    ∃ entry written,store.get? scopeId=some entry ∧
      Updated store next scopeId ⟨entry.scope,written,entry.results⟩ ∧
      RulesWritten entry.rules written fun other => other=operand := by
  obtain ⟨entry,he,hrest⟩ := PyExcept.bind_eq_ok.mp h
  split at hrest
  · cases hrest
  next rule hrule =>
  cases hrest
  refine ⟨entry,_,requireScopeEntry_eq_ok.mp he,updated_insert _ _ _,
    fun ruleId other ho one hone => ?_⟩
  rw [Dict.get?_insert] at ho
  split at ho
  · cases ho
    rcases List.mem_append.mp hone with hold|hnew
    · exact Or.inr ⟨_,rule,hrule,hold⟩
    · exact Or.inl (List.mem_singleton.mp hnew)
  · exact Or.inr ⟨ruleId,other,ho,hone⟩

/-- Results that pass the checks are new. -/
theorem get?_of_checkResults {entry : MappingScopeCacheEntry} {results : List MappingEntityResult}
    (h : checkResults entry scopeId results=.ok ()) {result : MappingEntityResult}
    (hr : result∈results) : entry.results.get? result.id=none := by
  induction results with
  | nil => cases hr
  | cons first rest ih =>
    rw [checkResults,List.forM_eq_forM,List.forM_cons] at h
    obtain ⟨_,hfirst,hrest⟩ := PyExcept.bind_eq_ok.mp h
    rcases List.mem_cons.mp hr with rfl|hr
    · split at hfirst
      · cases hfirst
      · split at hfirst
        · cases hfirst
        · next hnew =>
          cases hget : entry.results.get? result.id with
          | none => rfl
          | some stored =>
            exact absurd (Dict.contains_eq_true.mpr ⟨stored,hget⟩) hnew
    · exact ih hrest hr

/-- Results are added beside those of the scope, under identifiers that are new. -/
theorem addResults_updated {results : List MappingEntityResult}
    (hnodup : (results.map (·.id)).Nodup) (h : addResults store scopeId results=.ok next) :
    ∃ entry added,store.get? scopeId=some entry ∧
      Updated store next scopeId ⟨entry.scope,entry.rules,added⟩ ∧
      (∀ result∈results,result.mappingScopeId=scopeId ∧ entry.results.get? result.id=none) ∧
      ∀ resultId result,added.get? resultId=some result ↔
        (result∈results ∧ result.id=resultId) ∨ entry.results.get? resultId=some result := by
  obtain ⟨entry,he,hrest⟩ := PyExcept.bind_eq_ok.mp h
  have hentry := requireScopeEntry_eq_ok.mp he
  split at hrest
  next hnil =>
    cases PyExcept.pure_eq_ok.mp hrest
    subst hnil
    exact ⟨entry,entry.results,hentry,updated_same hentry,
      fun _ hr => absurd hr List.not_mem_nil,fun _ _ => by simp⟩
  next =>
    obtain ⟨_,hcheck,hp⟩ := PyExcept.bind_eq_ok.mp hrest
    cases PyExcept.pure_eq_ok.mp hp
    have hnew : ∀ result∈results,entry.results.get? result.id=none :=
      fun result hr => get?_of_checkResults hcheck hr
    refine ⟨entry,_,hentry,updated_insert _ _ _,
      fun result hr => ⟨mem_of_checkResults hcheck hr,hnew result hr⟩,?_⟩
    intro resultId result
    rw [get?_foldl_insert_iff _ hnodup]
    refine or_congr_right (and_iff_right_of_imp fun hget hin => ?_)
    obtain ⟨other,ho,rfl⟩ := List.mem_map.mp hin
    rw [hnew other ho] at hget
    cases hget

/-- A result that is saved replaces the stored one, whose candidates it may keep. -/
theorem saveResult_updated {result saved : MappingEntityResult}
    (h : saveResult store result=.ok (next,saved)) :
    ∃ entry current written,store.get? result.mappingScopeId=some entry ∧
      entry.results.get? result.id=some current ∧
      Updated store next result.mappingScopeId ⟨entry.scope,entry.rules,written⟩ ∧
      ∀ resultId,written.get? resultId=if resultId=result.id
        then some (withStoredCandidates current result) else entry.results.get? resultId := by
  obtain ⟨entry,he,hrest⟩ := PyExcept.bind_eq_ok.mp h
  have hentry := requireScopeEntry_eq_ok.mp he
  split at hrest
  · cases hrest
  next current hcurrent =>
  dsimp only at hrest
  split at hrest
  · next hsame =>
    cases hrest
    refine ⟨entry,current,entry.results,hentry,hcurrent,updated_same hentry,fun resultId => ?_⟩
    by_cases hid : resultId=result.id
    · rw [if_pos hid,hid,hcurrent,hsame]
    · rw [if_neg hid]
  · cases hrest
    exact ⟨entry,current,_,hentry,hcurrent,updated_insert _ _ _,
      fun resultId => Dict.get?_insert _ _ _ _⟩

end Updates

end NspMigrator.MappingRepository
