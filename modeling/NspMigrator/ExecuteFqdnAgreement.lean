import Mathlib
import NspMigrator.ExecuteExactMatch
import NspMigrator.MappingCatalogIndexes

/-!
# Domain names as mapping and comparison read them

The mapping index folds case and drops trailing dots, the comparison lowers
case and keeps them. Names on which the two disagree are names that differ in
their trailing dots, or that only case folding makes equal.
-/

namespace NspMigrator.ExecuteFqdnAgreement

open PyDict PyText PyExcept SdwanModels SdwanAddressGroups ExecuteValues ExecuteRuleValues
open ExecuteRulesComparer ExecuteExactMatch RuleValuesResolver MappingCatalogIndexes

section Dots

/-- Drop the trailing dots. -/
def dropDots (cs : List Char) : List Char :=
  (cs.reverse.dropWhile fun c => decide (c= '.')).reverse

/-- Two texts differ in the number of their trailing dots only. -/
def DifferInDots (cs ds : List Char) : Prop :=
  ∃ stem m n,m≠n ∧ cs=stem++List.replicate m '.' ∧ ds=stem++List.replicate n '.'

/-- A text is what remains without its trailing dots, and these dots. -/
theorem eq_dropDots_append (cs : List Char) : ∃ n,cs=dropDots cs++List.replicate n '.' := by
  refine ⟨(cs.reverse.takeWhile fun c => decide (c= '.')).length,?_⟩
  have hdots : cs.reverse.takeWhile (fun c => decide (c= '.'))=
      List.replicate (cs.reverse.takeWhile fun c => decide (c= '.')).length '.' := by
    rw [List.eq_replicate_iff]
    refine ⟨rfl,fun c hc => ?_⟩
    have hdot := List.mem_takeWhile_imp hc
    exact of_decide_eq_true hdot
  have hsplit := congrArg List.reverse
    (List.takeWhile_append_dropWhile (p:=fun c : Char => decide (c= '.')) (l:=cs.reverse))
  rw [List.reverse_append,List.reverse_reverse] at hsplit
  rw [dropDots]
  conv_lhs => rw [←hsplit,hdots,List.reverse_replicate]

/-- Dots at the end do not change what remains without them. -/
theorem dropDots_append (stem : List Char) (n : ℕ) :
    dropDots (stem++List.replicate n '.')=dropDots stem := by
  rw [dropDots,dropDots,List.reverse_append,List.reverse_replicate]
  congr 1
  induction n with
  | zero => rfl
  | succ n ih =>
    rw [List.replicate_succ,List.cons_append,List.dropWhile_cons,if_pos (by decide)]
    exact ih

/-- Without trailing dots two texts are equal exactly when they are equal or
differ in these dots only. -/
theorem dropDots_eq_iff {cs ds : List Char} :
    dropDots cs=dropDots ds ↔ cs=ds ∨ DifferInDots cs ds := by
  constructor
  · intro h
    obtain ⟨m,hm⟩ := eq_dropDots_append cs
    obtain ⟨n,hn⟩ := eq_dropDots_append ds
    by_cases hmn : m=n
    · subst hmn
      exact Or.inl (hm.trans (h▸hn.symm))
    · exact Or.inr ⟨dropDots cs,m,n,hmn,hm,h▸hn⟩
  · rintro (rfl|⟨stem,m,n,-,rfl,rfl⟩)
    · rfl
    · rw [dropDots_append,dropDots_append]

/-- A text does not differ from itself. -/
theorem not_differInDots_self (cs : List Char) : ¬DifferInDots cs cs := by
  rintro ⟨stem,m,n,hmn,hm,hn⟩
  have heq := List.append_cancel_left (hm.symm.trans hn)
  have hlength := congrArg List.length heq
  rw [List.length_replicate,List.length_replicate] at hlength
  exact hmn hlength

end Dots

variable [PyUnicode]

/-- Case folding sees no difference between a text and its lower-case form. -/
def FoldsLowered : Prop := ∀ s,PyUnicode.casefold (PyUnicode.lower s)=PyUnicode.casefold s

/-- The key of a domain name is its folded form without trailing dots. -/
theorem normalizeFqdn_eq_iff (a b : String) :
    normalizeFqdn a=normalizeFqdn b ↔
      PyUnicode.casefold (strip a)=PyUnicode.casefold (strip b) ∨
        DifferInDots (PyUnicode.casefold (strip a)).toList
          (PyUnicode.casefold (strip b)).toList := by
  have hinj := @String.toList_inj (PyUnicode.casefold (strip a)) (PyUnicode.casefold (strip b))
  rw [←hinj,←dropDots_eq_iff]
  constructor
  · intro h
    have hlist := congrArg String.toList h
    rw [normalizeFqdn,normalizeFqdn,String.toList_ofList,String.toList_ofList] at hlist
    exact hlist
  · intro h
    exact congrArg String.ofList h

/-- The trimmed and folded names do not differ in their trailing dots only, and
where folding makes the names equal, lower-casing does. -/
structure SpelledAlike (a b : String) : Prop where
  /-- They do not differ in their final dots alone. -/
  dots : ¬DifferInDots (PyUnicode.casefold (strip a)).toList
    (PyUnicode.casefold (strip b)).toList
  /-- Names that fold alike are lower-cased alike. -/
  letters : PyUnicode.casefold (strip a)=PyUnicode.casefold (strip b) →
    PyUnicode.lower (strip a)=PyUnicode.lower (strip b)

/-- The lookup key and the compared value tell the same names apart exactly
where the names are spelled alike. -/
theorem sameEquality_iff (hfold : FoldsLowered) (a b : String) :
    (normalizeFqdn a=normalizeFqdn b ↔ FqdnValue.fromRaw a=FqdnValue.fromRaw b) ↔
      SpelledAlike a b := by
  have hvalue : FqdnValue.fromRaw a=FqdnValue.fromRaw b ↔
      PyUnicode.lower (strip a)=PyUnicode.lower (strip b) := by
    rw [FqdnValue.fromRaw,FqdnValue.fromRaw,FqdnValue.mk.injEq]
  have hlower : PyUnicode.lower (strip a)=PyUnicode.lower (strip b) →
      PyUnicode.casefold (strip a)=PyUnicode.casefold (strip b) := by
    intro h
    rw [←hfold (strip a),h,hfold]
  rw [normalizeFqdn_eq_iff,hvalue]
  constructor
  · intro h
    refine ⟨fun hdots => ?_,fun hletters => h.mp (Or.inl hletters)⟩
    have heq := hlower (h.mp (Or.inr hdots))
    rw [heq] at hdots
    exact not_differInDots_self _ hdots
  · intro h
    constructor
    · rintro (heq|hdots)
      · exact h.letters heq
      · exact absurd hdots h.dots
    · intro heq
      exact Or.inl (hlower heq)

/-- An object with a number is loaded and is a domain name. -/
def LoadedFqdn (resolver : RuleValuesResolver) (id : ℤ) (name : String) : Prop :=
  ∃ object,resolver.addressGroupResolver.objectsById.get? id=some object ∧
    object.type=.fqdn ∧ object.fqdn=some name

/-- One object number used for another. -/
def useFor (x y id : ℤ) : ℤ := if id=x then y else id

/-- A rule with one address object used for another. -/
def useAddrFor (x y : ℤ) (rule : RuleBody) : RuleBody :=
  { rule with
    srcAddrObjects := rule.srcAddrObjects.map (useFor x y)
    dstAddrObjects := rule.dstAddrObjects.map (useFor x y) }

/-- No planned rule is new beside an existing one that uses an object with the
second name where it uses one with the first. -/
def NeverNew (a b : String) : Prop :=
  ∀ (hashFunc : String → String) (catalog : SdwanPolicyCatalog) (x y : ℤ) (rule : RuleBody),
    LoadedFqdn (catalogResolver catalog) x a → LoadedFqdn (catalogResolver catalog) y b →
    ∀ existing∈catalog.rules,existing.toRuleBody=useAddrFor x y rule →
      (compareWithCatalog hashFunc catalog rule).matchStatus≠.new

omit [PyUnicode] in
/-- The only leaf of a domain name is itself. -/
theorem resolveLeaves_of_fqdn {resolver : RuleValuesResolver} {id : ℤ} {object : SdwanAddrObject}
    (hobject : resolver.addressGroupResolver.objectsById.get? id=some object)
    (htype : object.type=.fqdn) :
    resolver.addressGroupResolver.resolveLeaves id=.ok [object] := by
  rw [SDWANAddressGroupLeavesResolver.resolveLeaves,maxAddrGroupNestingLevel,
    SDWANAddressGroupLeavesResolver.resolveLeavesAt,hobject]
  dsimp only
  rw [if_pos (by rw [htype]; decide)]

/-- A domain name contributes its own value alone. -/
theorem operandAddresses_of_fqdn {resolver : RuleValuesResolver} {id : ℤ} {name : String}
    (h : LoadedFqdn resolver id name) :
    operandAddresses resolver [id]={.fqdn (.fromRaw name)} ∧
      ∃ values,resolver.resolveAddressValues [id]=.ok values := by
  obtain ⟨object,hobject,htype,hfqdn⟩ := h
  have hleaves := resolveLeaves_of_fqdn hobject htype
  have hvalue : addressValueFromLeaf object=.ok (.fqdn (.fromRaw name)) := by
    rw [addressValueFromLeaf,htype,hfqdn]
  constructor
  · apply Set.ext
    intro value
    constructor
    · rintro ⟨other,ho,leaves,hl,leaf,hleaf,hv⟩
      rw [List.mem_singleton.mp ho,hleaves] at hl
      cases hl
      rw [List.mem_singleton.mp hleaf,hvalue] at hv
      exact (Except.ok.inj hv).symm
    · rintro rfl
      exact ⟨id,List.mem_cons_self,[object],hleaves,object,List.mem_cons_self,hvalue⟩
  · refine ⟨_,bind_eq_ok.mpr ⟨[[⟨.fqdn (.fromRaw name),⟨object.id,object.name,
      AddressValue.display (.fqdn (.fromRaw name))⟩⟩]],?_,rfl⟩⟩
    rw [mapM_eq_ok]
    refine List.Forall₂.cons (bind_eq_ok.mpr ⟨[object],hleaves,?_⟩) List.Forall₂.nil
    rw [mapM_eq_ok]
    exact List.Forall₂.cons (bind_eq_ok.mpr ⟨_,hvalue,rfl⟩) List.Forall₂.nil

/-- A list of operands contributes what each of them contributes. -/
theorem operandAddresses_eq_iUnion (resolver : RuleValuesResolver) (ids : List ℤ) :
    operandAddresses resolver ids=⋃ id∈ids,operandAddresses resolver [id] := by
  apply Set.ext
  intro value
  simp only [Set.mem_iUnion,operandAddresses,Set.mem_ofPred_eq,List.mem_singleton,
    exists_eq_left,exists_prop]

/-- Operands can be resolved exactly when each of them can. -/
theorem resolveAddressValues_ok_iff (resolver : RuleValuesResolver) (ids : List ℤ) :
    (∃ values,resolver.resolveAddressValues ids=.ok values) ↔
      ∀ id∈ids,∃ values,resolver.resolveAddressValues [id]=.ok values := by
  have hone : ∀ {list : List ℤ},(∃ values,resolver.resolveAddressValues list=.ok values) ↔
      ∀ id∈list,∃ found,(do
        let leaves ← resolver.addressGroupResolver.resolveLeaves id
        leaves.mapM resolvedAddressValue)=Except.ok found := by
    intro list
    constructor
    · rintro ⟨values,h⟩ id hid
      obtain ⟨lists,hlists,-⟩ := bind_eq_ok.mp h
      obtain ⟨found,-,hfound⟩ := exists_of_mapM_eq_ok hlists hid
      exact ⟨found,hfound⟩
    · intro h
      obtain ⟨lists,hlists⟩ := exists_mapM_eq_ok h
      exact ⟨_,bind_eq_ok.mpr ⟨lists,hlists,rfl⟩⟩
  rw [hone]
  apply forall_congr'
  intro id
  apply imp_congr_right
  intro _
  rw [hone]
  simp only [List.mem_singleton,forall_eq]

/-- Using one name for another with the same value changes neither whether
operands can be resolved nor what they contribute. -/
theorem resolveAddressValues_useFor {resolver : RuleValuesResolver} {x y : ℤ} {a b : String}
    (hx : LoadedFqdn resolver x a) (hy : LoadedFqdn resolver y b)
    (heq : FqdnValue.fromRaw a=FqdnValue.fromRaw b) (ids : List ℤ)
    {values : List (ResolvedCoverageValue AddressValue)}
    (h : resolver.resolveAddressValues ids=.ok values) :
    ∃ used,resolver.resolveAddressValues (ids.map (useFor x y))=.ok used ∧
      valueSet used=valueSet values := by
  obtain ⟨hxvalue,-⟩ := operandAddresses_of_fqdn hx
  obtain ⟨hyvalue,hyok⟩ := operandAddresses_of_fqdn hy
  have hall := (resolveAddressValues_ok_iff resolver ids).mp ⟨values,h⟩
  obtain ⟨used,hused⟩ : ∃ used,resolver.resolveAddressValues (ids.map (useFor x y))=.ok used := by
    rw [resolveAddressValues_ok_iff]
    intro id hid
    obtain ⟨other,ho,rfl⟩ := List.mem_map.mp hid
    unfold useFor
    split
    · exact hyok
    · exact hall other ho
  refine ⟨used,hused,?_⟩
  rw [←Finset.coe_inj,coe_valueSet_addresses hused,coe_valueSet_addresses h,
    operandAddresses_eq_iUnion resolver ids,operandAddresses_eq_iUnion resolver (ids.map _)]
  have hsame : ∀ id,operandAddresses resolver [useFor x y id]=operandAddresses resolver [id] := by
    intro id
    unfold useFor
    split
    · next hid => rw [hyvalue,hid,hxvalue,heq]
    · rfl
  apply Set.ext
  intro value
  simp only [Set.mem_iUnion,List.mem_map,exists_prop,exists_exists_and_eq_and,hsame]

/-- A planned rule with the values of an existing one is matched exactly. -/
theorem compareWithCatalog_exactMatch {hashFunc : String → String} {catalog : SdwanPolicyCatalog}
    {rule : RuleBody} {planned : ResolvedRuleValues}
    (hplanned : (catalogResolver catalog).resolveRule rule=.ok planned) {existing : SdwanRule}
    (hexisting : existing∈catalog.rules)
    (hvalues : HasValues (catalogResolver catalog) planned.normalized existing) :
    (compareWithCatalog hashFunc catalog rule).matchStatus=.exactMatch := by
  obtain ⟨values,hvalues,heq⟩ := hvalues
  have hmem : (⟨existing,values⟩ : ResolvedSdwanRule)∈
      (RulesComparer.ofCatalog hashFunc catalog).resolvedSdwanRules := by
    rw [ofCatalog_resolvedSdwanRules]
    exact mem_resolvedRules.mpr ⟨hexisting,hvalues⟩
  have hindex := (RulesComparer.ofCatalog hashFunc catalog).index_eq
    (planned.normalized.exactSignature hashFunc)
  have hfound : (⟨existing,values⟩ : ResolvedSdwanRule)∈
      (RulesComparer.ofCatalog hashFunc catalog).resolvedSdwanRules.filter fun r =>
        decide (r.values.normalized.exactSignature hashFunc=
          planned.normalized.exactSignature hashFunc) :=
    List.mem_filter.mpr ⟨hmem,by simp only [heq,decide_true]⟩
  rw [←hindex] at hfound
  rw [compareWithCatalog,RulesComparer.compareRule,ofCatalog_resolver,hplanned]
  dsimp only
  cases hlist : ((RulesComparer.ofCatalog hashFunc catalog).rulesIndex.get?
      (planned.normalized.exactSignature hashFunc)).getD [] with
  | nil =>
    rw [hlist] at hfound
    cases hfound
  | cons candidate rest => rfl

/-- Names with one value are never the reason for a new rule. -/
theorem neverNew_of_value_eq {a b : String} (heq : FqdnValue.fromRaw a=FqdnValue.fromRaw b) :
    NeverNew a b := by
  intro hashFunc catalog x y rule hx hy existing hexisting hbody
  cases hplanned : (catalogResolver catalog).resolveRule rule with
  | error reason =>
    rw [compareWithCatalog,RulesComparer.compareRule,ofCatalog_resolver,hplanned]
    exact fun h => by cases h
  | ok planned =>
    obtain ⟨haction,hsrcZones,hdstZones,hsrc,hdst,hservices⟩ := resolveRule_eq_ok hplanned
    obtain ⟨src,hsrc',hsrcEq⟩ := resolveAddressValues_useFor hx hy heq _ hsrc
    obtain ⟨dst,hdst',hdstEq⟩ := resolveAddressValues_useFor hx hy heq _ hdst
    have hresolve : (catalogResolver catalog).resolveRule existing.toRuleBody=
        .ok ⟨⟨normalizeAction rule.action,planned.normalized.srcZones,
          planned.normalized.dstZones,valueSet src,valueSet dst,valueSet planned.services⟩,
          src,dst,planned.services,rfl,rfl,rfl⟩ := by
      rw [hbody,resolveRule,useAddrFor]
      simp only [hsrc',hdst',hservices,hsrcZones,hdstZones]
      rfl
    have hnormal : (⟨normalizeAction rule.action,planned.normalized.srcZones,
        planned.normalized.dstZones,valueSet src,valueSet dst,valueSet planned.services⟩ :
        NormalizedRuleValues)=planned.normalized := by
      rw [hsrcEq,hdstEq,←haction,←planned.src_eq,←planned.dst_eq,←planned.services_eq]
    have hexact : (compareWithCatalog hashFunc catalog rule).matchStatus=.exactMatch :=
      compareWithCatalog_exactMatch hplanned hexisting ⟨_,hresolve,hnormal⟩
    rw [hexact]
    exact fun h => by cases h

/-- Mapping and comparison tell the same names apart, and objects mapping
treats as one are never the reason for a new rule, exactly where the names are
spelled alike. -/
theorem fqdn_agreement_iff (hfold : FoldsLowered) (a b : String) :
    ((normalizeFqdn a=normalizeFqdn b ↔ FqdnValue.fromRaw a=FqdnValue.fromRaw b) ∧
      (normalizeFqdn a=normalizeFqdn b → NeverNew a b)) ↔ SpelledAlike a b := by
  rw [←sameEquality_iff hfold]
  constructor
  · exact fun h => h.1
  · intro h
    exact ⟨h,fun hkey => neverNew_of_value_eq (h.mp hkey)⟩

omit [PyUnicode] in
/-- Lower-casing an ASCII text twice is lower-casing it once. -/
theorem foldsLowered_ascii : @FoldsLowered asciiUnicode := by
  intro s
  change asciiLower (asciiLower s)=asciiLower s
  rw [asciiLower,asciiLower,String.toList_ofList,List.map_map]
  congr 1
  apply List.map_congr_left
  intro c _
  exact Char.toLower_toLower_eq_toLower c

omit [PyUnicode] in
/-- Names that differ in case and white space are spelled alike. -/
theorem fqdn_agreement_www :
    @normalizeFqdn asciiUnicode "WWW.example"=@normalizeFqdn asciiUnicode " www.example " ∧
      @NeverNew asciiUnicode "WWW.example" " www.example " := by
  let _ : PyUnicode := asciiUnicode
  have heq : PyUnicode.casefold (strip "WWW.example")=PyUnicode.casefold (strip " www.example ") :=
    by decide +kernel
  have hspelled : SpelledAlike "WWW.example" " www.example " := by
    refine ⟨?_,fun _ => heq⟩
    rw [heq]
    exact not_differInDots_self _
  have hkey : normalizeFqdn "WWW.example"=normalizeFqdn " www.example " := by decide +kernel
  exact ⟨hkey,((fqdn_agreement_iff foldsLowered_ascii _ _).mpr hspelled).2 hkey⟩

/-- A catalog whose rule uses a name with a trailing dot; the same name without
it is another object. -/
def dottedCatalog : SdwanPolicyCatalog where
  targetId := "branch"
  rules := [⟨⟨.accept,[1],[2],[12],[],[20]⟩,7⟩]
  zones := [⟨1,101,"LAN",.lan⟩,⟨2,102,"WAN",.wan⟩]
  services := [.ofAny 20 "any"]
  addressObjects := [.ofFqdn 12 [] "absolute" "www.example.",
    .ofFqdn 13 [] "relative" "www.example"]

omit [PyUnicode] in
/-- Mapping treats the two objects as one, the comparison does not. -/
theorem dotted_name_new :
    @normalizeFqdn asciiUnicode "www.example"=@normalizeFqdn asciiUnicode "www.example." ∧
      @FqdnValue.fromRaw asciiUnicode "www.example"≠
        @FqdnValue.fromRaw asciiUnicode "www.example." ∧
      (@compareWithCatalog asciiUnicode id dottedCatalog
        ⟨.accept,[1],[2],[13],[],[20]⟩).matchStatus=.new := by
  refine ⟨by decide +kernel,by decide +kernel,?_⟩
  have houtcome := @compareRule_outcome asciiUnicode id Function.injective_id dottedCatalog
    ⟨.accept,[1],[2],[13],[],[20]⟩
  have hnew : @compareOutcome asciiUnicode (catalogResolver dottedCatalog) dottedCatalog.rules
      ⟨.accept,[1],[2],[13],[],[20]⟩=(.new,none) := by decide +kernel
  rw [hnew,Prod.mk.injEq] at houtcome
  exact houtcome.1

end NspMigrator.ExecuteFqdnAgreement
