import Mathlib
import NspMigrator.CiscoRuleTranslation

/-!
# Rules for any service

The sentinel for every service is the widest a rule can refer to. A row gets
it when it names no service and its protocol has none of its own, when it asks
for it by name, and when the group or the number of its protocol is missing.
No other reference becomes the sentinel, however it fails.
-/

namespace NspMigrator.CiscoAnyService

open PyText PyWords PyDict PyExcept PyState PyRegistry CanonicalModels CiscoParsedConfig
open CiscoTokens CiscoState CiscoAddresses CiscoServiceBuilders CiscoServices CiscoRules
open CiscoReferences CiscoRuleReferences CiscoServiceTargets CiscoRuleServices CiscoNormalizer
open CiscoClosure CiscoRowRuns CiscoRuleTranslation

/-- A reference that names no service. -/
def Unspecified (ref : Option String) : Prop :=
  (ref.filter fun ref => decide (ref≠"" ∧ ref≠"any"))=none

variable [PyUnicode]

/-- A protocol that has no service of its own. -/
def Unsupported (protocol : String) : Prop :=
  PyUnicode.lower (PyUnicode.lower protocol)∉
      ["tcp","udp","icmp","icmp6","ip","esp","ah","gre"] ∧
    (PyUnicode.lower (PyUnicode.lower protocol)="" ∨
      isdigit (PyUnicode.lower (PyUnicode.lower protocol))=false)

/-- A row for any service in a state. -/
def ForAnyService (σ : NormalizerState) (rule : ParsedAccessRule) : Prop :=
  match rule.protocolOperandKind with
  | .ipProtocolNumber => rule.serviceRef=some "any" ∨
      namedService rule.serviceRef σ=none ∧ rule.protocolNumber=none
  | .serviceObject => Unspecified rule.serviceRef ∧ Unsupported "ip"
  | .protocolGroup =>
    match rule.serviceRef.filter (·≠"") with
    | some serviceRef => Unspecified (some serviceRef) ∧ Unsupported (lentProtocol rule σ)
    | none => rule.protocolGroupRef=some "any" ∨ namedService rule.protocolGroupRef σ=none
  | .literal => Unspecified rule.serviceRef ∧ Unsupported rule.protocol

variable {σ : NormalizerState} {fields : ObjectFields}

section Keys

omit [PyUnicode] in
/-- A key with another colon is not that of the sentinel. -/
theorem ne_any_of_colon {text : String} (h : ':'∈text.toList) :
    "service:"++text≠anyServiceFields.objectKey := by
  intro heq
  have hany : anyServiceFields.objectKey="service:"++"any" := by decide
  rw [hany,String.append_right_inj] at heq
  rw [heq] at h
  exact absurd h (by decide)

omit [PyUnicode] in
theorem ne_any_of_unresolved (protocol ref : String) :
    (unresolvedServiceFields protocol ref).objectKey≠anyServiceFields.objectKey := by
  have hkey : (unresolvedServiceFields protocol ref).objectKey="service:"++("unresolved:"++ref) :=
    append_split "service:" "unresolved:" (by decide) ref
  rw [hkey]
  refine ne_any_of_colon ?_
  rw [String.toList_append]
  exact List.mem_append_left _ (by decide)

theorem ne_any_of_protocol (protocol : String) :
    ipProtocolObjectKey protocol≠anyServiceFields.objectKey := by
  have hkey : ipProtocolObjectKey protocol="service:"++("ip-proto:"++PyUnicode.lower protocol) :=
    append_split "service:" "ip-proto:" (by decide) _
  rw [hkey]
  refine ne_any_of_colon ?_
  rw [String.toList_append]
  exact List.mem_append_left _ (by decide)

/-- The leaf of an inline reference is not the sentinel. -/
theorem ne_any_of_inline {protocol ref : String}
    (h : buildInlineServiceFromRef protocol ref=.ok (some fields)) :
    fields.objectKey≠anyServiceFields.objectKey := by
  rcases key_of_buildInlineServiceFromRef h with ⟨proto,f,t,hkey⟩|⟨proto,text,-,hkey⟩
  · rw [hkey,serviceObjectKey,servicePortLabel]
    refine ne_any_of_colon ?_
    simp only [String.toList_append,List.mem_append]
    exact Or.inl (Or.inr (by decide))
  · rw [hkey,String.append_assoc]
    rw [String.append_assoc]
    refine ne_any_of_colon ?_
    simp only [String.toList_append,List.mem_append]
    exact Or.inr (Or.inl (by decide))

end Keys

section Targets

/-- There is no leaf of a protocol exactly when it has no service of its own. -/
theorem build_none_iff {protocol : String} {built : Option ObjectFields} {key : String}
    (h : buildCanonicalServiceFromPayload (PyUnicode.lower protocol) key
      (Dict.ofList [("protocol",PyUnicode.lower protocol)])=.ok built) :
    built=none ↔ Unsupported protocol := by
  have hget : (Dict.ofList [("protocol",PyUnicode.lower protocol)]).get? "protocol"=
      some (PyUnicode.lower protocol) := rfl
  have hop : (Dict.ofList [("protocol",PyUnicode.lower protocol)]).get? "op"=none := rfl
  unfold buildCanonicalServiceFromPayload at h
  unfold Unsupported
  dsimp only at h
  rw [hget,Option.getD_some] at h
  generalize PyUnicode.lower (PyUnicode.lower protocol)=proto at h ⊢
  by_cases hempty : proto=""
  · rw [if_pos hempty] at h
    cases pure_eq_ok.mp h
    subst hempty
    exact iff_of_true rfl ⟨by decide,Or.inl rfl⟩
  rw [if_neg hempty,if_neg fun hc => by cases hop.symm.trans hc.2.1] at h
  by_cases hl4 : proto="tcp" ∨ proto="udp"
  · rw [if_pos hl4] at h
    obtain ⟨bounds,-,hrest⟩ := bind_eq_ok.mp h
    have hin : proto∈["tcp","udp","icmp","icmp6","ip","esp","ah","gre"] := by
      rcases hl4 with rfl|rfl <;> decide
    rcases bounds with _|⟨portFrom,portTo⟩
    · cases pure_eq_ok.mp hrest
      exact iff_of_false (Option.some_ne_none _) fun hnot => hnot.1 hin
    · cases pure_eq_ok.mp hrest
      exact iff_of_false (Option.some_ne_none _) fun hnot => hnot.1 hin
  rw [if_neg hl4] at h
  by_cases hicmp : proto="icmp" ∨ proto="icmp6"
  · rw [if_pos hicmp] at h
    cases pure_eq_ok.mp h
    have hin : proto∈["tcp","udp","icmp","icmp6","ip","esp","ah","gre"] := by
      rcases hicmp with rfl|rfl <;> decide
    exact iff_of_false (Option.some_ne_none _) fun hnot => hnot.1 hin
  rw [if_neg hicmp] at h
  by_cases hother : proto∈["ip","esp","ah","gre"]
  · rw [if_pos hother] at h
    cases pure_eq_ok.mp h
    have hin : proto∈["tcp","udp","icmp","icmp6"]++["ip","esp","ah","gre"] :=
      List.mem_append_right _ hother
    exact iff_of_false (Option.some_ne_none _) fun hnot => hnot.1 hin
  rw [if_neg hother] at h
  by_cases hdigit : isdigit proto=true
  · rw [if_pos hdigit] at h
    cases pure_eq_ok.mp h
    refine iff_of_false (Option.some_ne_none _) fun hnot => ?_
    rcases hnot.2 with heq|hfalse
    · exact hempty heq
    · exact Bool.false_ne_true (hfalse.symm.trans hdigit)
  · rw [if_neg hdigit] at h
    cases pure_eq_ok.mp h
    refine iff_of_true rfl ⟨fun hin => ?_,Or.inr (Bool.eq_false_iff.mpr hdigit)⟩
    have hsplit : proto∈["tcp","udp"]++["icmp","icmp6"]++["ip","esp","ah","gre"] := hin
    simp only [List.mem_append,List.mem_cons,List.not_mem_nil,or_false] at hsplit hother
    tauto

/-- A protocol leads to the sentinel exactly when it has no service of its own. -/
theorem defaultTarget_any_iff {protocol : String} (h : defaultTarget protocol=.ok fields) :
    fields.objectKey=anyServiceFields.objectKey ↔ Unsupported protocol := by
  obtain ⟨built,hbuilt,hlast⟩ := bind_eq_ok.mp h
  cases pure_eq_ok.mp hlast
  rw [←build_none_iff hbuilt]
  cases built with
  | none => exact iff_of_true rfl rfl
  | some built =>
    have hkey : built.objectKey=_ := objectKey_buildCanonicalServiceFromPayload hbuilt
    refine iff_of_false (fun heq => ?_) (Option.some_ne_none _)
    exact ne_any_of_protocol _ (hkey.symm.trans heq)

/-- A reference leads to the sentinel exactly when it names no service and its protocol has
none of its own. -/
theorem refTarget_any_iff {protocol : String} {ref : Option String}
    (h : refTarget protocol ref σ=.ok fields) :
    fields.objectKey=anyServiceFields.objectKey ↔ Unspecified ref ∧ Unsupported protocol := by
  unfold refTarget at h
  unfold Unspecified
  cases hname : ref.filter fun ref => decide (ref≠"" ∧ ref≠"any") with
  | none =>
    rw [hname] at h
    rw [defaultTarget_any_iff h,and_iff_right rfl]
  | some name =>
    rw [hname] at h
    refine iff_of_false ?_ fun hnot => Option.some_ne_none _ hnot.1
    have hne : name≠"any" := (of_decide_eq_true (Option.filter_eq_some_iff.mp hname).2).2
    dsimp only at h
    split at h
    · next obj hobj =>
      cases h
      intro heq
      have hkey : "service:"++name="service:"++"any" :=
        (σ.registry.key_eq _ obj hobj).symm.trans heq
      exact hne ((String.append_right_inj "service:").mp hkey)
    · obtain ⟨built,hbuilt,hlast⟩ := bind_eq_ok.mp h
      cases pure_eq_ok.mp hlast
      cases built with
      | none => exact ne_any_of_unresolved _ _
      | some built => exact ne_any_of_inline hbuilt

omit [PyUnicode] in
/-- A name leads to the sentinel exactly when it is the name of the sentinel. -/
theorem named_any_iff {ref : Option String} {obj : CanonicalObject}
    (h : namedService ref σ=some obj) :
    obj.value.objectKey=anyServiceFields.objectKey ↔ ref=some "any" := by
  obtain ⟨name,-,rfl,-,hkey⟩ := key_of_namedService h
  have hany : anyServiceFields.objectKey="service:"++"any" := by decide
  rw [hkey,hany,String.append_right_inj,Option.some.injEq]

/-- A row leads to the sentinel exactly when it is a row for any service. -/
theorem ruleTarget_any_iff {rule : ParsedAccessRule}
    (hsentinel : (σ.object? anyServiceFields.objectKey).isSome=true)
    (h : ruleTarget rule σ=.ok fields) :
    fields.objectKey=anyServiceFields.objectKey ↔ ForAnyService σ rule := by
  unfold ruleTarget at h
  unfold ForAnyService
  cases hkind : rule.protocolOperandKind with
  | ipProtocolNumber =>
    simp only [hkind] at h ⊢
    cases hnamed : namedService rule.serviceRef σ with
    | some obj =>
      simp only [hnamed] at h
      cases h
      rw [named_any_iff hnamed]
      exact ⟨Or.inl,fun hcases => hcases.resolve_right fun hno => Option.some_ne_none _ hno.1⟩
    | none =>
      simp only [hnamed] at h
      cases h
      have hnot : rule.serviceRef≠some "any" := by
        -- the name of the sentinel is always found
        intro href
        rw [href] at hnamed
        have hfound : σ.object? anyServiceFields.objectKey=none := hnamed
        rw [hfound] at hsentinel
        cases hsentinel
      cases hnumber : rule.protocolNumber with
      | none => exact iff_of_true rfl (Or.inr ⟨rfl,rfl⟩)
      | some number =>
        refine iff_of_false (ne_any_of_protocol _) fun hcases => ?_
        exact hcases.elim hnot fun hno => Option.some_ne_none _ hno.2
  | serviceObject =>
    simp only [hkind] at h ⊢
    exact refTarget_any_iff h
  | protocolGroup =>
    simp only [hkind] at h ⊢
    cases hname : rule.serviceRef.filter (·≠"") with
    | some serviceRef =>
      simp only [hname] at h
      exact refTarget_any_iff h
    | none =>
      simp only [hname] at h
      cases h
      cases hgroup : namedService rule.protocolGroupRef σ with
      | none => exact iff_of_true rfl (Or.inr rfl)
      | some obj =>
        refine (named_any_iff hgroup).trans ⟨Or.inl,fun hcases => ?_⟩
        exact hcases.resolve_right fun hno => Option.some_ne_none _ hno
  | literal =>
    simp only [hkind] at h ⊢
    exact refTarget_any_iff h

/-- The service of a row is the sentinel exactly when it is a row for any service. -/
theorem serviceOf_any_iff {rule : ParsedAccessRule} {service : CanonicalObject}
    (hsentinel : (σ.object? anyServiceFields.objectKey).isSome=true)
    (h : ServiceOf σ rule service) :
    service.value.objectKey=anyServiceFields.objectKey ↔ ForAnyService σ rule := by
  obtain ⟨fields,htarget,hcases⟩ := h
  have hkey : service.value.objectKey=fields.objectKey := by
    rcases hcases with hobj|⟨-,hvalue⟩
    · exact σ.registry.key_eq _ service hobj
    · exact congrArg ObjectFields.objectKey hvalue
  rw [hkey]
  exact ruleTarget_any_iff hsentinel htarget

end Targets

section Sentinel

variable {parsed : ParsedConfig}

omit [PyUnicode] in
/-- The sentinel is registered as it is. -/
theorem sentinel_of_registerSentinelObjects {u : PUnit}
    (h : registerSentinelObjects.run {}=.ok (u,σ)) :
    ∃ sentinel,σ.object? anyServiceFields.objectKey=some sentinel ∧
      sentinel.value=anyServiceFields := by
  obtain ⟨⟨addr,id⟩,τ,haddr,hrest⟩ := run_bind_eq_ok.mp h
  obtain ⟨⟨service,id'⟩,τ',hservice,hlast⟩ := run_bind_eq_ok.mp hrest
  obtain ⟨-,rfl⟩ := run_pure_eq_ok.mp hlast
  obtain ⟨hadds,-,-⟩ := register_spec (P:=(·=anyAddrFields)) haddr rfl
  obtain ⟨-,hobj,hcases⟩ := register_spec (P:=(·=anyServiceFields)) hservice rfl
  refine ⟨service,hobj,?_⟩
  rcases hcases with hold|⟨-,hvalue⟩
  · -- the only object before is that for every address
    have hkey := τ.registry.key_eq _ service hold
    rcases hadds.added _ service hold with hempty|⟨-,haddrFields⟩
    · cases hempty
    · rw [haddrFields] at hkey
      exact absurd hkey (by decide)
  · exact hvalue

/-- The sentinel stays registered through all phases. -/
theorem exists_sentinel {u : PUnit} (h : (normalizePhases parsed).run {}=.ok (u,σ)) :
    ∃ sentinel,σ.object? anyServiceFields.objectKey=some sentinel ∧
      sentinel.value=anyServiceFields := by
  obtain ⟨σ₀,σ₁,hsentinels,-,hheaders,hphases⟩ := normalizePhases_later h
  obtain ⟨sentinel,hobj,hvalue⟩ := sentinel_of_registerSentinelObjects hsentinels
  exact ⟨sentinel,(hheaders.trans hphases).get?_eq _ _ hobj,hvalue⟩

end Sentinel

section Rules

variable {parsed : ParsedConfig} {rule : ParsedAccessRule}

omit [PyUnicode] in
/-- The members of a group with a protocol are objects with this protocol. -/
theorem mem_membersFor {outcome : NormalizeOutcome} {parentId : ℕ} {protocol : String}
    {obj : CanonicalObject} (h : obj∈membersFor outcome parentId protocol) :
    obj∈outcome.objects ∧ obj.value.protocol=some protocol := by
  obtain ⟨hchild,hprotocol⟩ := List.mem_filter.mp (mem_of_mem_distinctBy h)
  obtain ⟨member,-,hfound⟩ := List.mem_filterMap.mp hchild
  exact ⟨List.mem_of_find?_eq_some hfound,of_decide_eq_true hprotocol⟩

omit [PyUnicode] in
/-- A row refers to the sentinel exactly when its service is the sentinel: no group has it as a
member of a protocol, and no group without members is replaced by it. -/
theorem sentinel_mem_iff {sentinel service : CanonicalObject} {ids : List ℕ}
    (hobj : σ.object? anyServiceFields.objectKey=some sentinel)
    (hvalue : sentinel.value=anyServiceFields) (hservice : service∈(outcomeOf σ).objects)
    (hids : ServiceIds (outcomeOf σ) rule service ids) :
    sentinel.id∈ids ↔ service.value.objectKey=anyServiceFields.objectKey := by
  have hsentinel := (mem_objects_of_object? hobj).1
  have hid : ∀ obj∈(outcomeOf σ).objects,sentinel.id=obj.id → sentinel=obj :=
    fun obj ho heq => List.inj_on_of_nodup_map σ.registry.nodup_ids hsentinel ho heq
  have hsame : service.value.objectKey=anyServiceFields.objectKey → service=sentinel := by
    intro hkey
    have hown := mem_objects_iff.mp hservice
    rw [hkey,hobj] at hown
    exact (Option.some.inj hown).symm
  have hapart : service.value.objectKey=anyServiceFields.objectKey → ¬TakenApart rule service := by
    intro hkey happly
    rw [hsame hkey,TakenApart,hvalue] at happly
    exact absurd happly.1 (by decide)
  cases hids with
  | whole hwhole =>
    rw [List.mem_singleton]
    constructor
    · intro heq
      rw [←hid service hservice heq,hvalue]
    · exact fun hkey => congrArg _ (hsame hkey).symm
  | selected happly hne =>
    refine iff_of_false (fun hin => ?_) fun hkey => hapart hkey happly
    obtain ⟨child,hchild,heq⟩ := List.mem_map.mp hin
    obtain ⟨hmem,hprotocol⟩ := mem_membersFor hchild
    rw [←hid child hmem heq.symm,hvalue] at hprotocol
    cases hprotocol
  | unresolved obj happly hnone hmem hkey =>
    refine iff_of_false (fun hin => ?_) fun hkey => hapart hkey happly
    have heq := hid obj hmem (List.mem_singleton.mp hin)
    rw [←heq,hvalue] at hkey
    exact ne_any_of_unresolved "" (service.value.name++":"++rule.protocol) hkey.symm

/-- A rule of an outcome refers to the sentinel for every service exactly when its row is a row
for any service in the state left by the rows before it. -/
theorem any_service_iff {outcome : NormalizeOutcome} (h : normalize parsed=.ok outcome) {i : ℕ}
    (hi : parsed.rules[i]?=some rule) :
    ∃ σ written,(normalizePhases (endingBefore parsed i)).run {}=.ok (⟨⟩,σ) ∧
      outcome.rules[i]?=some written ∧
      ((∃ obj∈outcome.objects,obj.value=anyServiceFields ∧
        some obj.id∈targets outcome.operands written.id .service) ↔ ForAnyService σ rule) := by
  obtain ⟨ρ,hrun,rfl⟩ := normalize_eq_ok h
  obtain ⟨-,hall⟩ := exists_translated hrun
  obtain ⟨σ,ruleKey,written,hbefore,-,hwritten,htranslates⟩ := hall i rule hi
  obtain ⟨service,hservice,hof,ids,hids,htargets⟩ := htranslates.services
  obtain ⟨early,hearly,-⟩ := exists_sentinel hbefore
  obtain ⟨sentinel,hobj,hvalue⟩ := exists_sentinel hrun
  have hsome : (σ.object? anyServiceFields.objectKey).isSome=true :=
    Option.isSome_iff_exists.mpr ⟨early,hearly⟩
  refine ⟨σ,written,hbefore,hwritten,?_⟩
  rw [←serviceOf_any_iff hsome hof,←sentinel_mem_iff hobj hvalue hservice hids,htargets]
  constructor
  · rintro ⟨obj,ho,hany,hin⟩
    have hown := mem_objects_iff.mp ho
    rw [hany,hobj] at hown
    rw [Option.some.inj hown]
    exact (List.mem_map_of_injective (Option.some_injective ℕ)).mp hin
  · intro hin
    exact ⟨sentinel,(mem_objects_of_object? hobj).1,hvalue,List.mem_map_of_mem hin⟩

/-- A line for a protocol without a service of its own. -/
def permitEigrp : ParsedAccessRule :=
  { permitAny with ruleName := "A:2", protocol := "eigrp", order := 2 }

/-- That line after the one for ip. -/
def ipAndEigrp : ParsedConfig := { objectAndGroup "WEBS" with rules := [permitAny,permitEigrp] }

omit [PyUnicode] in
/-- The row for ip refers to an object of its own, the row for eigrp to any service. -/
theorem any_service_iff_eigrp :
    ∃ (outcome : NormalizeOutcome) (ip eigrp : CanonicalRule),
      @normalize asciiUnicode ipAndEigrp=.ok outcome ∧
      outcome.rules[0]?=some ip ∧ outcome.rules[1]?=some eigrp ∧
      (¬∃ obj∈outcome.objects,obj.value=anyServiceFields ∧
        some obj.id∈targets outcome.operands ip.id .service) ∧
      ∃ obj∈outcome.objects,obj.value=anyServiceFields ∧
        some obj.id∈targets outcome.operands eigrp.id .service := by
  have hrun : (@normalize asciiUnicode ipAndEigrp).toOption.isSome=true := by
    decide +kernel
  cases h : @normalize asciiUnicode ipAndEigrp with
  | error e =>
    rw [h] at hrun
    cases hrun
  | ok outcome =>
    obtain ⟨σ,ip,-,hip,hipiff⟩ := @any_service_iff asciiUnicode ipAndEigrp permitAny outcome h 0 rfl
    obtain ⟨ρ,eigrp,-,heigrp,heigrpiff⟩ :=
      @any_service_iff asciiUnicode ipAndEigrp permitEigrp outcome h 1 rfl
    refine ⟨outcome,ip,eigrp,rfl,hip,heigrp,?_,heigrpiff.mpr ⟨rfl,by decide +kernel,Or.inr ?_⟩⟩
    · rw [hipiff]
      rintro ⟨-,hnot,-⟩
      exact hnot (by decide +kernel)
    · decide +kernel

end Rules

end NspMigrator.CiscoAnyService
