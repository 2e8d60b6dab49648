import Mathlib
import NspMigrator.FirstMatch
import NspMigrator.ExecuteMatchSoundness

/-!
# Existing policies as the comparison receives them

The controller answers with policies that carry activation and identity
restrictions. Their conversion to existing rules keeps number, action and
operands only, so whether a policy is in force is decided before the
comparison or not at all.
-/

namespace NspMigrator.ExecuteGateway

open PyText FirstMatch SdwanModels ExecuteValues ExecuteRuleValues ExecuteCoverage
open ExecuteRulesComparer
  ExecuteMatchSoundness

/-- A policy of the controller. Identity restrictions are of any type. -/
structure PolicyResponse (ι : Type) where
  /-- The number of the policy. -/
  policyId : ℤ
  /-- The block the policy stands in. -/
  priority : SdwanRulePriority
  /-- The place of the policy in its block. -/
  order : String
  /-- Whether the policy is in force. -/
  activated : Bool
  /-- What it does with the traffic. -/
  action : SdwanRuleAction
  /-- The source zones. -/
  ingressZone : List ℤ
  /-- The destination zones. -/
  egressZone : List ℤ
  /-- The source address objects. -/
  srcAddress : List ℤ
  /-- The destination address objects. -/
  dstAddress : List ℤ
  /-- The services. -/
  service : List ℤ
  /-- The identities the traffic comes from. -/
  srcIdents : List ι
  /-- The identities the traffic goes to. -/
  dstIdents : List ι

/-- A policy that is switched on and not restricted to identities. -/
def PolicyResponse.InForce {ι : Type} (policy : PolicyResponse ι) : Prop :=
  policy.activated=true ∧ policy.srcIdents=[] ∧ policy.dstIdents=[]

instance {ι : Type} (policy : PolicyResponse ι) : Decidable policy.InForce :=
  inferInstanceAs (Decidable (_ ∧ policy.srcIdents=[] ∧ policy.dstIdents=[]))

/-- The existing rule a policy is converted to. -/
def PolicyResponse.toSdwanRule {ι : Type} (policy : PolicyResponse ι) : SdwanRule :=
  ⟨⟨policy.action,policy.ingressZone,policy.egressZone,policy.srcAddress,policy.dstAddress,
    policy.service⟩,policy.policyId⟩

/-- The objects the controller returns for sorted lists of numbers. -/
structure SDWANCatalogGateway where
  /-- The zones with some numbers. -/
  getZones : List ℤ → List SdwanZone
  /-- The services with some numbers. -/
  getServices : List ℤ → List SdwanService
  /-- The address objects with some numbers. -/
  getAddrObjects : List ℤ → List SdwanAddrObject

/-- The catalog for comparing planned rules with the policies of a target: the
converted policies, and every object they or the planned rules name. -/
def getSdwanPolicyCatalog {ι : Type} (gateway : SDWANCatalogGateway) (targetId : String)
    (policies : List (PolicyResponse ι))
    (extraZoneIds extraServiceIds extraAddrObjectIds : Finset ℤ) : SdwanPolicyCatalog where
  targetId := targetId
  rules := policies.map PolicyResponse.toSdwanRule
  zones := gateway.getZones ((extraZoneIds∪
    (policies.flatMap fun policy => policy.ingressZone++policy.egressZone).toFinset).sort (·≤·))
  services := gateway.getServices ((extraServiceIds∪
    (policies.flatMap PolicyResponse.service).toFinset).sort (·≤·))
  addressObjects := gateway.getAddrObjects ((extraAddrObjectIds∪
    (policies.flatMap fun policy => policy.srcAddress++policy.dstAddress).toFinset).sort (·≤·))

section InForce

variable [PyUnicode] {ι : Type}

/-- The normalized values of a policy, when it resolves. -/
def policyValues (resolver : RuleValuesResolver) (policy : PolicyResponse ι) :
    Option NormalizedRuleValues :=
  match resolver.resolveRule policy.toSdwanRule.toRuleBody with
  | .error _ => none
  | .ok values => some values.normalized

/-- The first policy of a list with given values. -/
def firstWithValues (resolver : RuleValuesResolver) (policies : List (PolicyResponse ι))
    (values : NormalizedRuleValues) : Option (PolicyResponse ι) :=
  policies.find? fun policy => decide (policyValues resolver policy=some values)

/-- A number under which a policy in force is known. -/
def InForceId (policies : List (PolicyResponse ι)) (policyId : ℤ) : Prop :=
  ∃ policy∈policies,policy.policyId=policyId ∧ policy.InForce

/-- Whatever values a policy resolves to, the first policy with these values
is in force. -/
def FirstOfValuesInForce (resolver : RuleValuesResolver) (policies : List (PolicyResponse ι)) :
    Prop :=
  ∀ policy∈policies,∀ values,policyValues resolver policy=some values →
    ∃ first,firstWithValues resolver policies values=some first ∧
      InForceId policies first.policyId

/-- A property of values, asked of a policy. -/
def policySatisfies (resolver : RuleValuesResolver) (p : NormalizedRuleValues → Bool)
    (policy : PolicyResponse ι) : Bool :=
  match policyValues resolver policy with
  | none => false
  | some values => p values

/-- Looking for a converted rule by its values is looking for its policy. -/
theorem find?_resolvedRules (resolver : RuleValuesResolver) (p : NormalizedRuleValues → Bool)
    (policies : List (PolicyResponse ι)) :
    ((resolvedRules resolver (policies.map PolicyResponse.toSdwanRule)).find?
        fun r => p r.values.normalized).map (fun r => r.rule.id)=
      (policies.find? (policySatisfies resolver p)).map PolicyResponse.policyId := by
  induction policies with
  | nil => rfl
  | cons policy rest ih =>
    rw [List.map_cons,resolvedRules,List.filterMap_cons,List.find?_cons]
    cases hr : resolver.resolveRule policy.toSdwanRule.toRuleBody with
    | error reason =>
      have hp : policySatisfies resolver p policy=false := by
        simp only [policySatisfies,policyValues,hr]
      rw [hp]
      exact ih
    | ok values =>
      have hp : policySatisfies resolver p policy=p values.normalized := by
        simp only [policySatisfies,policyValues,hr]
      rw [hp]
      cases hv : p values.normalized with
      | true => simp [hv,PolicyResponse.toSdwanRule]
      | false =>
        simp only [List.find?_cons,hv]
        exact ih

theorem policyValues_eq_some {resolver : RuleValuesResolver} {policy : PolicyResponse ι}
    {values : NormalizedRuleValues} :
    policyValues resolver policy=some values ↔
      ∃ resolved,resolver.resolveRule policy.toSdwanRule.toRuleBody=.ok resolved ∧
        resolved.normalized=values := by
  unfold policyValues
  cases resolver.resolveRule policy.toSdwanRule.toRuleBody with
  | error reason => simp
  | ok resolved => simp

/-- What a comparison against converted policies decides. -/
theorem compareOutcome_policies (resolver : RuleValuesResolver)
    (policies : List (PolicyResponse ι)) (rule : RuleBody) :
    compareOutcome resolver (policies.map PolicyResponse.toSdwanRule) rule=
      match resolver.resolveRule rule with
      | .error _ => (.matchError,none)
      | .ok planned =>
        match firstWithValues resolver policies planned.normalized with
        | some first => (.exactMatch,some first.policyId)
        | none =>
          match policies.find? (policySatisfies resolver fun values =>
              decide (NormalizedCovers values planned.normalized)) with
          | some first => (.coveredMatch,some first.policyId)
          | none => (.new,none) := by
  unfold compareOutcome
  cases resolver.resolveRule rule with
  | error reason => rfl
  | ok planned =>
    have hexact := find?_resolvedRules resolver
      (fun values => decide (values=planned.normalized)) policies
    have hcover := find?_resolvedRules resolver
      (fun values => decide (NormalizedCovers values planned.normalized)) policies
    have hfirst : policies.find? (policySatisfies resolver fun values =>
        decide (values=planned.normalized))=
        firstWithValues resolver policies planned.normalized := by
      rw [firstWithValues]
      congr 1
      funext policy
      unfold policySatisfies
      cases policyValues resolver policy with
      | none => simp
      | some values => simp
    rw [hfirst] at hexact
    simp only [matchExisting,findExact,findCovering]
    cases he : (resolvedRules resolver (policies.map PolicyResponse.toSdwanRule)).find?
        fun r => decide (r.values.normalized=planned.normalized) with
    | some r =>
      rw [he] at hexact
      obtain ⟨first,hf,hid⟩ := Option.map_eq_some_iff.mp hexact.symm
      simp only [hf,hid]
    | none =>
      rw [he] at hexact
      have hf := Option.map_eq_none_iff.mp hexact.symm
      simp only [hf]
      cases hc : (resolvedRules resolver (policies.map PolicyResponse.toSdwanRule)).find?
          fun r => decide (NormalizedCovers r.values.normalized planned.normalized) with
      | some r =>
        rw [hc] at hcover
        obtain ⟨first,hf,hid⟩ := Option.map_eq_some_iff.mp hcover.symm
        simp only [hf,hid,Option.map_some]
      | none =>
        rw [hc] at hcover
        have hf := Option.map_eq_none_iff.mp hcover.symm
        simp only [hf,Option.map_none]

/-- Every planned rule that is matched at all is matched with a policy in
force exactly when, for each policy that resolves, the first policy with the
same values is in force. -/
theorem matched_inForce_iff {hashFunc : String → String} (hf : Function.Injective hashFunc)
    (gateway : SDWANCatalogGateway) (targetId : String) (policies : List (PolicyResponse ι))
    (extraZoneIds extraServiceIds extraAddrObjectIds : Finset ℤ) :
    let catalog := getSdwanPolicyCatalog gateway targetId policies extraZoneIds
      extraServiceIds extraAddrObjectIds
    (∀ rule : RuleBody,
      RuleMatchStatus.IsMatch (compareWithCatalog hashFunc catalog rule).matchStatus →
      ∃ policy∈policies,
        (compareWithCatalog hashFunc catalog rule).matchedSdwanRuleId=some policy.policyId ∧
          policy.InForce) ↔
    FirstOfValuesInForce (catalogResolver catalog) policies := by
  intro catalog
  have hrules : catalog.rules=policies.map PolicyResponse.toSdwanRule := rfl
  have houtcome : ∀ rule,_=compareOutcome (catalogResolver catalog)
      (policies.map PolicyResponse.toSdwanRule) rule := fun rule =>
    hrules▸compareRule_outcome hf catalog rule
  simp only [compareOutcome_policies] at houtcome
  constructor
  · -- the policy's own body is a planned rule that is matched exactly
    intro h policy hp values hv
    obtain ⟨resolved,hr,hn⟩ := policyValues_eq_some.mp hv
    have hsome : (firstWithValues (catalogResolver catalog) policies values).isSome=true := by
      rw [firstWithValues,List.find?_isSome]
      exact ⟨policy,hp,decide_eq_true hv⟩
    obtain ⟨first,hfirst⟩ := Option.isSome_iff_exists.mp hsome
    have ho := houtcome policy.toSdwanRule.toRuleBody
    simp only [hr,hn,hfirst,Prod.mk.injEq] at ho
    obtain ⟨other,hmem,hid,hforce⟩ := h policy.toSdwanRule.toRuleBody (Or.inl ho.1)
    rw [ho.2,Option.some.injEq] at hid
    exact ⟨first,hfirst,other,hmem,hid.symm,hforce⟩
  · intro h rule hm
    have ho := houtcome rule
    cases hr : (catalogResolver catalog).resolveRule rule with
    | error reason =>
      simp only [hr,Prod.mk.injEq] at ho
      rw [ho.1] at hm
      rcases hm with hm|hm <;> cases hm
    | ok planned =>
      simp only [hr] at ho
      cases he : firstWithValues (catalogResolver catalog) policies planned.normalized with
      | some first =>
        simp only [he,Prod.mk.injEq] at ho
        have hv : policyValues (catalogResolver catalog) first=some planned.normalized := by
          simpa using List.find?_some he
        obtain ⟨other,hother,q,hq,hid,hforce⟩ :=
          h first (List.mem_of_find?_eq_some he) _ hv
        rw [he,Option.some.injEq] at hother
        exact ⟨q,hq,by rw [ho.2,hid,hother],hforce⟩
      | none =>
        simp only [he] at ho
        cases hc : policies.find? (policySatisfies (catalogResolver catalog) fun values =>
            decide (NormalizedCovers values planned.normalized)) with
        | none =>
          simp only [hc,Prod.mk.injEq] at ho
          rw [ho.1] at hm
          rcases hm with hm|hm <;> cases hm
        | some first =>
          simp only [hc,Prod.mk.injEq] at ho
          -- the first covering policy is also the first with its own values
          have hsat := List.find?_some hc
          cases hv : policyValues (catalogResolver catalog) first with
          | none => simp [policySatisfies,hv] at hsat
          | some values =>
            have hcov : NormalizedCovers values planned.normalized := by
              simpa [policySatisfies,hv] using hsat
            have hfirst : firstWithValues (catalogResolver catalog) policies values=
                some first := by
              refine find?_eq_of_imp (fun policy hp => ?_) hc (decide_eq_true hv)
              rw [policySatisfies,of_decide_eq_true hp]
              exact decide_eq_true hcov
            obtain ⟨other,hother,q,hq,hid,hforce⟩ :=
              h first (List.mem_of_find?_eq_some hc) _ hv
            rw [hfirst,Option.some.injEq] at hother
            exact ⟨q,hq,by rw [ho.2,hid,hother],hforce⟩

end InForce

/-- A controller with two zones and no other objects. -/
def twoZonesGateway : SDWANCatalogGateway where
  getZones _ := [⟨1,101,"LAN",.lan⟩,⟨2,102,"WAN",.wan⟩]
  getServices _ := []
  getAddrObjects _ := []

/-- A policy between the two zones. -/
def lanToWan (policyId : ℤ) (activated : Bool) (srcIdents : List String) :
    PolicyResponse String :=
  ⟨policyId,.pre,"1",activated,.accept,[1],[2],[],[],[],srcIdents,[]⟩

/-- A planned rule with the body of a policy is matched exactly, whatever else
the policy says. -/
theorem compareOutcome_lanToWan (policies : List (PolicyResponse String)) (policyId : ℤ)
    (activated : Bool) (srcIdents : List String) :
    @compareOutcome asciiUnicode (catalogResolver (getSdwanPolicyCatalog twoZonesGateway "branch"
      (lanToWan policyId activated srcIdents::policies) ∅ ∅ ∅))
      ((lanToWan policyId activated srcIdents::policies).map PolicyResponse.toSdwanRule)
      ⟨.accept,[1],[2],[],[],[]⟩=(.exactMatch,some policyId) := by
  rfl

/-- A policy in force in front of a restricted copy of it answers for both. -/
theorem matched_inForce_iff_lanToWan :
    ∃ policy∈[lanToWan 7 true [],lanToWan 8 true ["admins"]],
      (@compareWithCatalog asciiUnicode id (getSdwanPolicyCatalog twoZonesGateway "branch"
        [lanToWan 7 true [],lanToWan 8 true ["admins"]] ∅ ∅ ∅)
          ⟨.accept,[1],[2],[],[],[]⟩).matchedSdwanRuleId=some policy.policyId ∧
        policy.InForce := by
  have houtcome := @compareRule_outcome asciiUnicode id Function.injective_id
    (getSdwanPolicyCatalog twoZonesGateway "branch"
      [lanToWan 7 true [],lanToWan 8 true ["admins"]] ∅ ∅ ∅) ⟨.accept,[1],[2],[],[],[]⟩
  refine (@matched_inForce_iff asciiUnicode String id Function.injective_id twoZonesGateway
    "branch" [lanToWan 7 true [],lanToWan 8 true ["admins"]] ∅ ∅ ∅).mpr ?_ _
    (Or.inl (congrArg Prod.fst (houtcome.trans (compareOutcome_lanToWan _ 7 true []))))
  intro policy hp values hv
  have hbody : policy.toSdwanRule.toRuleBody=
      (lanToWan 7 true []).toSdwanRule.toRuleBody := by
    rcases List.mem_cons.mp hp with rfl|hp
    · rfl
    · rw [List.mem_singleton.mp hp]
      rfl
  have hfirst : @policyValues asciiUnicode String (catalogResolver (getSdwanPolicyCatalog
      twoZonesGateway "branch" [lanToWan 7 true [],lanToWan 8 true ["admins"]] ∅ ∅ ∅))
      (lanToWan 7 true [])=some values := by
    rw [←hv]
    unfold policyValues
    rw [hbody]
  refine ⟨lanToWan 7 true [],?_,lanToWan 7 true [],List.mem_cons_self,rfl,by decide⟩
  unfold firstWithValues
  rw [List.find?_cons,hfirst,decide_eq_true rfl]

/-- A policy that is switched off and one restricted to identities: planned
rules with their bodies are nevertheless matched exactly with them. -/
theorem matched_though_not_inForce :
    (@compareWithCatalog asciiUnicode id (getSdwanPolicyCatalog twoZonesGateway "branch"
      [lanToWan 7 false []] ∅ ∅ ∅) ⟨.accept,[1],[2],[],[],[]⟩).matchStatus=.exactMatch ∧
    (∀ policy∈[lanToWan 7 false []],¬policy.InForce) ∧
    (@compareWithCatalog asciiUnicode id (getSdwanPolicyCatalog twoZonesGateway "branch"
      [lanToWan 8 true ["admins"]] ∅ ∅ ∅) ⟨.accept,[1],[2],[],[],[]⟩).matchStatus=.exactMatch ∧
    ∀ policy∈[lanToWan 8 true ["admins"]],¬policy.InForce := by
  have hoff := @compareRule_outcome asciiUnicode id Function.injective_id
    (getSdwanPolicyCatalog twoZonesGateway "branch" [lanToWan 7 false []] ∅ ∅ ∅)
    ⟨.accept,[1],[2],[],[],[]⟩
  have hrestricted := @compareRule_outcome asciiUnicode id Function.injective_id
    (getSdwanPolicyCatalog twoZonesGateway "branch" [lanToWan 8 true ["admins"]] ∅ ∅ ∅)
    ⟨.accept,[1],[2],[],[],[]⟩
  exact ⟨congrArg Prod.fst (hoff.trans (compareOutcome_lanToWan [] 7 false [])),by decide,
    congrArg Prod.fst (hrestricted.trans (compareOutcome_lanToWan [] 8 true ["admins"])),
    by decide⟩

end NspMigrator.ExecuteGateway
