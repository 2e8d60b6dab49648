import Mathlib
import NspMigrator.ExecuteCoverage

/-!
# Comparing planned rules with existing ones

Existing rules are resolved once and indexed by signature; rules that cannot
be resolved are set aside. A planned rule matches the first existing rule of
its own signature, else the first existing rule that covers it.
-/

namespace NspMigrator.ExecuteRulesComparer

open PyDict PyText SdwanModels ExecuteValues ExecuteRuleValues ExecuteCoverage

/-- The outcome of a comparison. -/
inductive RuleMatchStatus where
  | exactMatch
  | coveredMatch
  | new
  | matchError
  deriving DecidableEq

/-- An existing rule left out of comparison, with the reason. -/
structure ExcludedExistingRule where
  /-- The policy. -/
  sdwanRuleId : ℤ
  /-- Why it was not compared with. -/
  reason : String
  deriving DecidableEq

/-- The result stored on a planned rule. -/
structure RuleCompareResult where
  /-- What the comparison found. -/
  matchStatus : RuleMatchStatus
  /-- The policy it found. -/
  matchedSdwanRuleId : Option ℤ
  /-- The words of that. -/
  matchInfo : String
  /-- Which existing values cover which planned ones. -/
  coverageDetails : List CoverageDetail := []
  deriving DecidableEq

/-- An existing rule with its resolved values. -/
structure ResolvedSdwanRule where
  /-- The policy. -/
  rule : SdwanRule
  /-- Its values. -/
  values : ResolvedRuleValues

variable [PyUnicode]

/-- The existing rules as the comparison reads them. -/
structure RulesComparer (hashFunc : String → String) where
  /-- What resolves rules to values. -/
  resolver : RuleValuesResolver
  /-- The policies that resolve, in order. -/
  resolvedSdwanRules : List ResolvedSdwanRule
  /-- The same policies by signature. -/
  rulesIndex : Dict String (List ResolvedSdwanRule)
  /-- The policies that do not resolve. -/
  excludedExistingRules : List ExcludedExistingRule
  /-- Every kept rule carries the values the resolver gives it. -/
  resolved_eq : ∀ r∈resolvedSdwanRules,resolver.resolveRule r.rule.toRuleBody=.ok r.values
  /-- The index lists the kept rules of a signature in their order. -/
  index_eq : ∀ signature,(rulesIndex.get? signature).getD []=
    resolvedSdwanRules.filter fun r =>
      decide (r.values.normalized.exactSignature hashFunc=signature)

variable {hashFunc : String → String}

/-- A comparer without rules. -/
def RulesComparer.start (resolver : RuleValuesResolver) : RulesComparer hashFunc where
  resolver := resolver
  resolvedSdwanRules := []
  rulesIndex := Dict.empty
  excludedExistingRules := []
  resolved_eq := fun _ h => absurd h List.not_mem_nil
  index_eq := fun _ => rfl

/-- Resolve one more existing rule and index it, or set it aside. -/
def RulesComparer.addRule (comparer : RulesComparer hashFunc) (rule : SdwanRule) :
    RulesComparer hashFunc :=
  match h : comparer.resolver.resolveRule rule.toRuleBody with
  | .error reason => { comparer with
      excludedExistingRules := comparer.excludedExistingRules++[⟨rule.id,reason⟩] }
  | .ok values => { comparer with
      resolvedSdwanRules := comparer.resolvedSdwanRules++[⟨rule,values⟩]
      rulesIndex := comparer.rulesIndex.append (values.normalized.exactSignature hashFunc)
        ⟨rule,values⟩
      resolved_eq := by
        intro r hr
        rcases List.mem_append.mp hr with hr|hr
        · exact comparer.resolved_eq r hr
        · rw [List.mem_singleton.mp hr]
          exact h
      index_eq := by
        intro signature
        rw [Dict.getD_append,comparer.index_eq,List.filter_append]
        by_cases hs : values.normalized.exactSignature hashFunc=signature
        · rw [if_pos hs.symm,List.filter_cons_of_pos (by simpa using hs),List.filter_nil]
        · rw [if_neg (Ne.symm hs),List.filter_cons_of_neg (by simpa using hs),
            List.filter_nil] }

/-- The comparer of a catalog. -/
def RulesComparer.ofCatalog (hashFunc : String → String) (catalog : SdwanPolicyCatalog) :
    RulesComparer hashFunc :=
  catalog.rules.foldl RulesComparer.addRule
    (.start (.ofObjects catalog.zones catalog.services catalog.addressObjects))

/-- Compare one planned rule with the existing ones. -/
def RulesComparer.compareRule (comparer : RulesComparer hashFunc) (rule : RuleBody) :
    RuleCompareResult :=
  match comparer.resolver.resolveRule rule with
  | .error reason =>
    ⟨.matchError,none,"Error through rules matching: "++reason,[]⟩
  | .ok plannedValues =>
    match (comparer.rulesIndex.get?
        (plannedValues.normalized.exactSignature hashFunc)).getD [] with
    | candidate::_ =>
      ⟨.exactMatch,some candidate.rule.id,
        "Found exact match sdwan rule "++toString candidate.rule.id++" for planned rule",[]⟩
    | [] =>
      match comparer.resolvedSdwanRules.find? fun existing =>
          (analyzeCoverage existing.values plannedValues).isCovered with
      | some existing =>
        ⟨.coveredMatch,some existing.rule.id,
          "Found cover sdwan rule "++toString existing.rule.id++" for planned rule",
          (analyzeCoverage existing.values plannedValues).details⟩
      | none => ⟨.new,none,"Clearly new rule for migration",[]⟩

/-- Compare one planned rule with the rules of a catalog. -/
def compareWithCatalog (hashFunc : String → String) (catalog : SdwanPolicyCatalog)
    (rule : RuleBody) : RuleCompareResult :=
  (RulesComparer.ofCatalog hashFunc catalog).compareRule rule

/-- The rules that can be resolved, with their values, in their order. -/
def resolvedRules (resolver : RuleValuesResolver) (rules : List SdwanRule) :
    List ResolvedSdwanRule :=
  rules.filterMap fun rule =>
    match resolver.resolveRule rule.toRuleBody with
    | .error _ => none
    | .ok values => some ⟨rule,values⟩

/-- Adding a rule keeps the resolver and appends the rule if it resolves. -/
theorem addRule_resolved (comparer : RulesComparer hashFunc) (rule : SdwanRule) :
    (comparer.addRule rule).resolver=comparer.resolver ∧
      (comparer.addRule rule).resolvedSdwanRules=
        comparer.resolvedSdwanRules++resolvedRules comparer.resolver [rule] := by
  unfold RulesComparer.addRule
  split
  · next reason h => simp [resolvedRules,h]
  · next values h => simp [resolvedRules,h]

/-- Adding rules in turn keeps exactly those that resolve. -/
theorem foldl_addRule_resolved (rules : List SdwanRule) (comparer : RulesComparer hashFunc) :
    (rules.foldl RulesComparer.addRule comparer).resolver=comparer.resolver ∧
      (rules.foldl RulesComparer.addRule comparer).resolvedSdwanRules=
        comparer.resolvedSdwanRules++resolvedRules comparer.resolver rules := by
  induction rules generalizing comparer with
  | nil => simp [resolvedRules]
  | cons rule rest ih =>
    obtain ⟨hr,hs⟩ := addRule_resolved comparer rule
    obtain ⟨ihr,ihs⟩ := ih (comparer.addRule rule)
    rw [List.foldl_cons]
    refine ⟨ihr.trans hr,?_⟩
    rw [ihs,hs,hr,List.append_assoc]
    simp only [resolvedRules,←List.filterMap_append,List.singleton_append]

/-- The resolver of a catalog. -/
def catalogResolver (catalog : SdwanPolicyCatalog) : RuleValuesResolver :=
  .ofObjects catalog.zones catalog.services catalog.addressObjects

theorem ofCatalog_resolver (catalog : SdwanPolicyCatalog) :
    (RulesComparer.ofCatalog hashFunc catalog).resolver=catalogResolver catalog :=
  (foldl_addRule_resolved catalog.rules _).1

theorem ofCatalog_resolvedSdwanRules (catalog : SdwanPolicyCatalog) :
    (RulesComparer.ofCatalog hashFunc catalog).resolvedSdwanRules=
      resolvedRules (catalogResolver catalog) catalog.rules := by
  rw [RulesComparer.ofCatalog,(foldl_addRule_resolved catalog.rules _).2]
  rfl

/-- A kept rule is a rule of the catalog with the values it resolves to. -/
theorem mem_resolvedRules {resolver : RuleValuesResolver} {rules : List SdwanRule}
    {r : ResolvedSdwanRule} :
    r∈resolvedRules resolver rules ↔
      r.rule∈rules ∧ resolver.resolveRule r.rule.toRuleBody=.ok r.values := by
  rw [resolvedRules,List.mem_filterMap]
  constructor
  · rintro ⟨rule,hm,hr⟩
    cases h : resolver.resolveRule rule.toRuleBody with
    | error reason => simp [h] at hr
    | ok values =>
      simp only [h,Option.some.injEq] at hr
      subst hr
      exact ⟨hm,h⟩
  · rintro ⟨hm,hr⟩
    exact ⟨r.rule,hm,by rw [hr]⟩

/-- The first existing rule with the planned values. -/
def findExact (rules : List ResolvedSdwanRule) (planned : NormalizedRuleValues) :
    Option ResolvedSdwanRule :=
  rules.find? fun r => decide (r.values.normalized=planned)

/-- The first existing rule that covers the planned values. -/
def findCovering (rules : List ResolvedSdwanRule) (planned : NormalizedRuleValues) :
    Option ResolvedSdwanRule :=
  rules.find? fun r => decide (NormalizedCovers r.values.normalized planned)

/-- The existing rule a planned rule is matched with, and how. -/
def matchExisting (rules : List ResolvedSdwanRule) (planned : NormalizedRuleValues) :
    Option (RuleMatchStatus × ResolvedSdwanRule) :=
  match findExact rules planned with
  | some r => some (.exactMatch,r)
  | none => (findCovering rules planned).map fun r => (.coveredMatch,r)

/-- Status and matched rule of a planned rule, decided on values alone. -/
def compareOutcome (resolver : RuleValuesResolver) (rules : List SdwanRule) (rule : RuleBody) :
    RuleMatchStatus × Option ℤ :=
  match resolver.resolveRule rule with
  | .error _ => (.matchError,none)
  | .ok planned =>
    match matchExisting (resolvedRules resolver rules) planned.normalized with
    | some (status,r) => (status,some r.rule.id)
    | none => (.new,none)

/-- A comparison decides status and matched rule on values alone. -/
theorem compareRule_outcome (hf : Function.Injective hashFunc) (catalog : SdwanPolicyCatalog)
    (rule : RuleBody) :
    ((compareWithCatalog hashFunc catalog rule).matchStatus,
      (compareWithCatalog hashFunc catalog rule).matchedSdwanRuleId)=
    compareOutcome (catalogResolver catalog) catalog.rules rule := by
  unfold compareOutcome compareWithCatalog RulesComparer.compareRule
  rw [ofCatalog_resolver]
  cases hr : (catalogResolver catalog).resolveRule rule with
  | error reason => rfl
  | ok planned =>
    have hindex := (RulesComparer.ofCatalog hashFunc catalog).index_eq
      (planned.normalized.exactSignature hashFunc)
    simp only [ofCatalog_resolvedSdwanRules,exactSignature_inj hf] at hindex
    have hcover : ∀ r : ResolvedSdwanRule,(analyzeCoverage r.values planned).isCovered=
        decide (NormalizedCovers r.values.normalized planned.normalized) := fun r => by
      rw [Bool.eq_iff_iff,analyzeCoverage_isCovered,decide_eq_true_eq]
    have hexact : findExact (resolvedRules (catalogResolver catalog) catalog.rules)
        planned.normalized=(List.filter (fun r => decide (r.values.normalized=planned.normalized))
          (resolvedRules (catalogResolver catalog) catalog.rules)).head? :=
      List.head?_filter.symm
    simp only [hindex,ofCatalog_resolvedSdwanRules,hcover,matchExisting,hexact]
    cases List.filter (fun r => decide (r.values.normalized=planned.normalized))
        (resolvedRules (catalogResolver catalog) catalog.rules) with
    | cons candidate rest => rfl
    | nil =>
      simp only [List.head?_nil,findCovering]
      cases List.find? (fun r => decide (NormalizedCovers r.values.normalized
          planned.normalized)) (resolvedRules (catalogResolver catalog) catalog.rules) <;> rfl

end NspMigrator.ExecuteRulesComparer
