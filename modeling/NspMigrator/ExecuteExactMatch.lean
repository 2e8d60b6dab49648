import Mathlib
import NspMigrator.ExecuteRulesComparer

/-!
# Exact matches are equal values

A signature stands for the values a rule resolves to, and these are the sets
of what its operands contribute. The order of the operands, repetitions,
groups and the numbers of the objects leave no trace in it.
-/

namespace NspMigrator.ExecuteExactMatch

open PyDict PyText PyExcept SdwanModels SdwanAddressGroups ExecuteValues ExecuteRuleValues
open ExecuteCoverage ExecuteRulesComparer RuleValuesResolver

section Operands

variable {α : Type} [DecidableEq α] [CoverableMatchableObject α]

/-- Keeping the first object of every value drops no value. -/
theorem valueSet_distinct (hs : Function.Injective (CoverableMatchableObject.signature (α:=α)))
    (values : List (ResolvedCoverageValue α)) :
    valueSet (distinctResolvedValues values)=valueSet values := by
  apply Finset.ext
  intro value
  simp only [valueSet,List.mem_toFinset,List.mem_map]
  constructor
  · rintro ⟨resolved,hr,rfl⟩
    exact ⟨resolved,mem_of_mem_distinctBy hr,rfl⟩
  · rintro ⟨resolved,hr,rfl⟩
    obtain ⟨kept,hk,he⟩ := exists_mem_distinctBy
      (fun other : ResolvedCoverageValue α => CoverableMatchableObject.signature other.value) hr
    exact ⟨kept,hk,hs he⟩

end Operands

variable [PyUnicode]

/-- The zone names operands contribute. -/
def operandZoneNames (resolver : RuleValuesResolver) (zoneIds : List ℤ) : Set String :=
  {name | ∃ zoneId∈zoneIds,∃ zone,resolver.zonesById.get? zoneId=some zone ∧
    normalizeText zone.name=name}

/-- The address values operands contribute: those of the leaves of each. -/
def operandAddresses (resolver : RuleValuesResolver) (addrObjectIds : List ℤ) :
    Set AddressValue :=
  {value | ∃ addrObjectId∈addrObjectIds,∃ leaves,
    resolver.addressGroupResolver.resolveLeaves addrObjectId=.ok leaves ∧
      ∃ leaf∈leaves,addressValueFromLeaf leaf=.ok value}

/-- The service values operands contribute. -/
def operandServices (resolver : RuleValuesResolver) (serviceIds : List ℤ) : Set ServiceValue :=
  {value | ∃ serviceId∈serviceIds,∃ service,resolver.servicesById.get? serviceId=some service ∧
    ∃ values,serviceValues service=.ok values ∧ value∈values}

/-- The values of resolved address operands are those the operands contribute. -/
theorem coe_valueSet_addresses {resolver : RuleValuesResolver} {addrObjectIds : List ℤ}
    {values : List (ResolvedCoverageValue AddressValue)}
    (h : resolver.resolveAddressValues addrObjectIds=.ok values) :
    (valueSet values : Set AddressValue)=operandAddresses resolver addrObjectIds := by
  obtain ⟨lists,hlists,h⟩ := bind_eq_ok.mp h
  rw [pure_eq_ok] at h
  subst h
  rw [valueSet_distinct AddressValue.signature_injective]
  apply Set.ext
  intro value
  simp only [valueSet,Finset.mem_coe,List.mem_toFinset,List.mem_map,List.mem_flatten,
    operandAddresses,Set.mem_ofPred_eq]
  constructor
  · rintro ⟨resolved,⟨found,hfound,hr⟩,rfl⟩
    obtain ⟨addrObjectId,hid,hstep⟩ := exists_of_mem_mapM hlists hfound
    obtain ⟨leaves,hleaves,hstep⟩ := bind_eq_ok.mp hstep
    obtain ⟨leaf,hleaf,hresolved⟩ := exists_of_mem_mapM hstep hr
    obtain ⟨value,hvalue,he⟩ := bind_eq_ok.mp hresolved
    rw [pure_eq_ok] at he
    subst he
    exact ⟨addrObjectId,hid,leaves,hleaves,leaf,hleaf,hvalue⟩
  · rintro ⟨addrObjectId,hid,leaves,hleaves,leaf,hleaf,hvalue⟩
    obtain ⟨found,hfound,hstep⟩ := exists_of_mapM_eq_ok hlists hid
    obtain ⟨leaves',hleaves',hstep⟩ := bind_eq_ok.mp hstep
    have heq : leaves=leaves' := Except.ok.inj (hleaves.symm.trans hleaves')
    subst heq
    obtain ⟨resolved,hr,he⟩ := exists_of_mapM_eq_ok hstep hleaf
    obtain ⟨value',hvalue',he⟩ := bind_eq_ok.mp he
    rw [pure_eq_ok] at he
    subst he
    exact ⟨_,⟨found,hfound,hr⟩,(Except.ok.inj (hvalue.symm.trans hvalue')).symm⟩

/-- The values of resolved service operands are those the operands contribute. -/
theorem coe_valueSet_services {resolver : RuleValuesResolver} {serviceIds : List ℤ}
    {values : List (ResolvedCoverageValue ServiceValue)}
    (h : resolver.resolveServiceValues serviceIds=.ok values) :
    (valueSet values : Set ServiceValue)=operandServices resolver serviceIds := by
  obtain ⟨lists,hlists,h⟩ := bind_eq_ok.mp h
  rw [pure_eq_ok] at h
  subst h
  rw [valueSet_distinct ServiceValue.signature_injective]
  apply Set.ext
  intro value
  simp only [valueSet,Finset.mem_coe,List.mem_toFinset,List.mem_map,List.mem_flatten,
    operandServices,Set.mem_ofPred_eq]
  constructor
  · rintro ⟨resolved,⟨found,hfound,hr⟩,rfl⟩
    obtain ⟨serviceId,hid,hstep⟩ := exists_of_mem_mapM hlists hfound
    cases hservice : resolver.servicesById.get? serviceId with
    | none => simp [hservice] at hstep
    | some service =>
      simp only [hservice] at hstep
      obtain ⟨serviceVals,hvalues,he⟩ := bind_eq_ok.mp hstep
      rw [pure_eq_ok] at he
      subst he
      obtain ⟨value,hv,rfl⟩ := List.mem_map.mp hr
      exact ⟨serviceId,hid,service,hservice,serviceVals,hvalues,hv⟩
  · rintro ⟨serviceId,hid,service,hservice,serviceVals,hvalues,hv⟩
    obtain ⟨found,hfound,hstep⟩ := exists_of_mapM_eq_ok hlists hid
    simp only [hservice,hvalues] at hstep
    have heq := pure_eq_ok.mp hstep
    subst heq
    exact ⟨_,⟨_,hfound,List.mem_map_of_mem hv⟩,rfl⟩

/-- The names of resolved zone operands are those the operands contribute. -/
theorem coe_zoneNames {resolver : RuleValuesResolver} {zoneIds : List ℤ} {names : Finset String}
    (h : resolver.normalizeZones zoneIds=.ok names) :
    (names : Set String)=operandZoneNames resolver zoneIds := by
  obtain ⟨hall,hnames⟩ := mem_normalizeZones h
  apply Set.ext
  intro name
  constructor
  · intro hn
    exact hnames name hn
  · rintro ⟨zoneId,hz,zone,hzone,rfl⟩
    obtain ⟨zone',hzone',hn⟩ := hall zoneId hz
    have heq : zone=zone' := Option.some.inj (hzone.symm.trans hzone')
    subst heq
    exact hn

/-- Two rules have one action for comparison and contribute the same values,
slot by slot. -/
structure SameOperandValues (resolver : RuleValuesResolver) (rule : RuleBody)
    (resolver' : RuleValuesResolver) (rule' : RuleBody) : Prop where
  /-- The actions are the same. -/
  action : normalizeAction rule.action=normalizeAction rule'.action
  /-- So are the source zones, by name. -/
  srcZones : operandZoneNames resolver rule.srcZones=operandZoneNames resolver' rule'.srcZones
  /-- So are the destination zones, by name. -/
  dstZones : operandZoneNames resolver rule.dstZones=operandZoneNames resolver' rule'.dstZones
  /-- So are the values of the sources. -/
  srcAddresses : operandAddresses resolver rule.srcAddrObjects=
    operandAddresses resolver' rule'.srcAddrObjects
  /-- So are the values of the destinations. -/
  dstAddresses : operandAddresses resolver rule.dstAddrObjects=
    operandAddresses resolver' rule'.dstAddrObjects
  /-- So are the values of the services. -/
  services : operandServices resolver rule.services=operandServices resolver' rule'.services

/-- Normalized values are equal exactly when the operands contribute the same values. -/
theorem normalized_eq_iff {resolver resolver' : RuleValuesResolver} {rule rule' : RuleBody}
    {values values' : ResolvedRuleValues} (h : resolver.resolveRule rule=.ok values)
    (h' : resolver'.resolveRule rule'=.ok values') :
    values.normalized=values'.normalized ↔ SameOperandValues resolver rule resolver' rule' := by
  obtain ⟨haction,hsrcZones,hdstZones,hsrc,hdst,hservices⟩ := resolveRule_eq_ok h
  obtain ⟨haction',hsrcZones',hdstZones',hsrc',hdst',hservices'⟩ := resolveRule_eq_ok h'
  have hz := coe_zoneNames hsrcZones
  have hz' := coe_zoneNames hsrcZones'
  have hd := coe_zoneNames hdstZones
  have hd' := coe_zoneNames hdstZones'
  have ha := coe_valueSet_addresses hsrc
  have ha' := coe_valueSet_addresses hsrc'
  have hb := coe_valueSet_addresses hdst
  have hb' := coe_valueSet_addresses hdst'
  have hs := coe_valueSet_services hservices
  have hs' := coe_valueSet_services hservices'
  rw [←values.src_eq] at ha
  rw [←values'.src_eq] at ha'
  rw [←values.dst_eq] at hb
  rw [←values'.dst_eq] at hb'
  rw [←values.services_eq] at hs
  rw [←values'.services_eq] at hs'
  constructor
  · intro heq
    refine ⟨?_,?_,?_,?_,?_,?_⟩
    · rw [←haction,←haction',heq]
    · rw [←hz,←hz',heq]
    · rw [←hd,←hd',heq]
    · rw [←ha,←ha',heq]
    · rw [←hb,←hb',heq]
    · rw [←hs,←hs',heq]
  · rintro ⟨eaction,ez,ed,ea,eb,es⟩
    rw [←haction,←haction'] at eaction
    rw [←hz,←hz',Finset.coe_inj] at ez
    rw [←hd,←hd',Finset.coe_inj] at ed
    rw [←ha,←ha',Finset.coe_inj] at ea
    rw [←hb,←hb',Finset.coe_inj] at eb
    rw [←hs,←hs',Finset.coe_inj] at es
    revert eaction ez ed ea eb es
    generalize values.normalized=one
    generalize values'.normalized=other
    intro eaction ez ed ea eb es
    cases one
    cases other
    rw [NormalizedRuleValues.mk.injEq]
    exact ⟨eaction,ez,ed,ea,eb,es⟩

/-- An existing rule can be resolved and has these values. -/
def HasValues (resolver : RuleValuesResolver) (planned : NormalizedRuleValues)
    (existing : SdwanRule) : Prop :=
  ∃ values,resolver.resolveRule existing.toRuleBody=.ok values ∧ values.normalized=planned

/-- The first existing rule with the planned values is the first in catalog order. -/
theorem findExact_resolvedRules {resolver : RuleValuesResolver} {rules : List SdwanRule}
    {planned : NormalizedRuleValues} {found : ResolvedSdwanRule}
    (h : findExact (resolvedRules resolver rules) planned=some found) :
    ∃ before after,rules=before++found.rule::after ∧ HasValues resolver planned found.rule ∧
      ∀ earlier∈before,¬HasValues resolver planned earlier := by
  induction rules with
  | nil => cases h
  | cons rule rest ih =>
    have hskip : ¬HasValues resolver planned rule →
        findExact (resolvedRules resolver rest) planned=some found →
        ∃ before after,rule::rest=before++found.rule::after ∧
          HasValues resolver planned found.rule ∧
            ∀ earlier∈before,¬HasValues resolver planned earlier := by
      intro hnot hrest
      obtain ⟨before,after,hsplit,hvalues,hbefore⟩ := ih hrest
      refine ⟨rule::before,after,by rw [hsplit,List.cons_append],hvalues,?_⟩
      intro earlier he
      rcases List.mem_cons.mp he with rfl|he
      · exact hnot
      · exact hbefore earlier he
    rw [resolvedRules,List.filterMap_cons] at h
    cases hr : resolver.resolveRule rule.toRuleBody with
    | error reason =>
      rw [hr] at h
      refine hskip ?_ h
      rintro ⟨values,hvalues,-⟩
      rw [hr] at hvalues
      cases hvalues
    | ok values =>
      rw [hr] at h
      by_cases heq : values.normalized=planned
      · have hfound : some ⟨rule,values⟩=some found := by
          rw [←h]
          exact (List.find?_cons_of_pos (by simpa using heq)).symm
        have hrule := Option.some.inj hfound
        subst hrule
        exact ⟨[],rest,rfl,⟨values,hr,heq⟩,fun _ he => absurd he List.not_mem_nil⟩
      · refine hskip ?_ ?_
        · rintro ⟨values',hvalues',heq'⟩
          rw [hr] at hvalues'
          cases hvalues'
          exact heq heq'
        · rw [←h]
          exact (List.find?_cons_of_neg (by simpa using heq)).symm

/-- A comparison finds an exact match exactly when some existing rule has the
planned values. -/
theorem compareOutcome_exactMatch_iff {resolver : RuleValuesResolver} {rules : List SdwanRule}
    {rule : RuleBody} {matched : Option ℤ} :
    compareOutcome resolver rules rule=(.exactMatch,matched) ↔
      ∃ planned,resolver.resolveRule rule=.ok planned ∧
        ∃ found,findExact (resolvedRules resolver rules) planned.normalized=some found ∧
          matched=some found.rule.id := by
  unfold compareOutcome
  cases hr : resolver.resolveRule rule with
  | error reason => simp
  | ok planned =>
    simp only [matchExisting,Except.ok.injEq,exists_eq_left']
    cases hexact : findExact (resolvedRules resolver rules) planned.normalized with
    | some found =>
      simp only [Prod.mk.injEq,true_and,Option.some.injEq,exists_eq_left']
      exact eq_comm
    | none =>
      cases hcover : findCovering (resolvedRules resolver rules) planned.normalized with
      | some found => simp
      | none => simp

/-- Signatures are equal exactly for equal values, which are the sets of what
the operands contribute, and a planned rule matches exactly the first existing
rule in catalog order that has its values. -/
theorem exact_match_is_value_equality {hashFunc : String → String}
    (hf : Function.Injective hashFunc) :
    (∀ (resolver resolver' : RuleValuesResolver) (rule rule' : RuleBody)
        (values values' : ResolvedRuleValues),
      resolver.resolveRule rule=.ok values → resolver'.resolveRule rule'=.ok values' →
      (values.normalized.exactSignature hashFunc=values'.normalized.exactSignature hashFunc ↔
          values.normalized=values'.normalized) ∧
        (values.normalized=values'.normalized ↔
          SameOperandValues resolver rule resolver' rule')) ∧
    ∀ (catalog : SdwanPolicyCatalog) (rule : RuleBody),
      ((compareWithCatalog hashFunc catalog rule).matchStatus=.exactMatch ↔
        ∃ planned,(catalogResolver catalog).resolveRule rule=.ok planned ∧
          ∃ existing∈catalog.rules,
            HasValues (catalogResolver catalog) planned.normalized existing) ∧
      ((compareWithCatalog hashFunc catalog rule).matchStatus=.exactMatch →
        ∃ planned,(catalogResolver catalog).resolveRule rule=.ok planned ∧
          ∃ before existing after,catalog.rules=before++existing::after ∧
            HasValues (catalogResolver catalog) planned.normalized existing ∧
            (∀ earlier∈before,¬HasValues (catalogResolver catalog) planned.normalized earlier) ∧
            (compareWithCatalog hashFunc catalog rule).matchedSdwanRuleId=
              some existing.id) := by
  refine ⟨fun resolver resolver' rule rule' values values' h h' =>
    ⟨exactSignature_inj hf,normalized_eq_iff h h'⟩,fun catalog rule => ?_⟩
  have houtcome := compareRule_outcome hf catalog rule
  have hfirst : (compareWithCatalog hashFunc catalog rule).matchStatus=.exactMatch →
      ∃ planned,(catalogResolver catalog).resolveRule rule=.ok planned ∧
        ∃ before existing after,catalog.rules=before++existing::after ∧
          HasValues (catalogResolver catalog) planned.normalized existing ∧
          (∀ earlier∈before,¬HasValues (catalogResolver catalog) planned.normalized earlier) ∧
          (compareWithCatalog hashFunc catalog rule).matchedSdwanRuleId=
            some existing.id := by
    intro hstatus
    rw [hstatus] at houtcome
    obtain ⟨planned,hplanned,found,hfound,hid⟩ :=
      compareOutcome_exactMatch_iff.mp houtcome.symm
    obtain ⟨before,after,hsplit,hvalues,hbefore⟩ := findExact_resolvedRules hfound
    exact ⟨planned,hplanned,before,found.rule,after,hsplit,hvalues,hbefore,hid⟩
  refine ⟨⟨fun hstatus => ?_,?_⟩,hfirst⟩
  · obtain ⟨planned,hplanned,before,existing,after,hsplit,hvalues,-⟩ := hfirst hstatus
    refine ⟨planned,hplanned,existing,?_,hvalues⟩
    rw [hsplit]
    exact List.mem_append_right _ List.mem_cons_self
  · rintro ⟨planned,hplanned,existing,hexisting,values,hvalues,heq⟩
    have hmem : (⟨existing,values⟩ : ResolvedSdwanRule)∈
        resolvedRules (catalogResolver catalog) catalog.rules :=
      mem_resolvedRules.mpr ⟨hexisting,hvalues⟩
    obtain ⟨found,hfound⟩ : ∃ found,findExact (resolvedRules (catalogResolver catalog)
        catalog.rules) planned.normalized=some found := by
      apply Option.isSome_iff_exists.mp
      rw [findExact,List.find?_isSome]
      exact ⟨_,hmem,decide_eq_true heq⟩
    have hexact := compareOutcome_exactMatch_iff.mpr ⟨planned,hplanned,found,hfound,rfl⟩
    rw [hexact] at houtcome
    exact (Prod.mk.inj houtcome).1

/-- A catalog whose one rule names a group of two hosts; one of the hosts also
exists as a prefix. -/
def groupedCatalog : SdwanPolicyCatalog where
  targetId := "branch"
  rules := [⟨⟨.drop,[1],[2],[11],[],[20]⟩,7⟩]
  zones := [⟨1,101,"LAN",.lan⟩,⟨2,102,"WAN",.wan⟩]
  services := [.ofAny 20 "any"]
  addressObjects := [.ofGroup 11 [] "pcs" none,.ofHost 12 [11] "pc 1" (.ofNat 167772161),
    .ofHost 13 [11] "pc 2" (.ofNat 167772162),.ofPrefix 14 [] "first pc" (.ofNat 167772161 32)]

omit [PyUnicode] in
/-- The prefix, the second host and the prefix again are the group. -/
theorem exact_match_is_value_equality_grouped :
    ∃ planned,(@resolveRule asciiUnicode (catalogResolver groupedCatalog)
        ⟨.reject,[1],[2],[14,13,14],[],[20]⟩)=.ok planned ∧
      ∃ existing∈groupedCatalog.rules,
        @HasValues asciiUnicode (catalogResolver groupedCatalog) planned.normalized existing := by
  have houtcome := @compareRule_outcome asciiUnicode id Function.injective_id groupedCatalog
    ⟨.reject,[1],[2],[14,13,14],[],[20]⟩
  have hexact : @compareOutcome asciiUnicode (catalogResolver groupedCatalog)
      groupedCatalog.rules ⟨.reject,[1],[2],[14,13,14],[],[20]⟩=(.exactMatch,some 7) := by
    decide +kernel
  rw [hexact,Prod.mk.injEq] at houtcome
  exact ((@exact_match_is_value_equality asciiUnicode id Function.injective_id).2
    groupedCatalog ⟨.reject,[1],[2],[14,13,14],[],[20]⟩).1.mp houtcome.1

end NspMigrator.ExecuteExactMatch
