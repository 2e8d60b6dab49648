import Mathlib
import NspMigrator.CiscoRowRuns
import NspMigrator.CiscoRuleKeys

/-!
# Rules are translated row by row

Every row becomes the rule in its place. What the row refers to is read in the
state that the configuration leaves when it ends before this row, so a rule
depends on the rows before it and on no later one.
-/

namespace NspMigrator.CiscoRuleTranslation

open PyText PyWords PyDict PyExcept PyState PyRegistry CanonicalModels CiscoParsedConfig
open CiscoTokens CiscoState CiscoAddresses CiscoServiceBuilders CiscoServices CiscoRules
open CiscoReferences CiscoRuleReferences CiscoServiceTargets CiscoRuleRows CiscoRuleServices
open CiscoNormalizer CiscoClosure CiscoRowRuns CiscoRuleKeys

/-- A configuration that ends before a row. -/
def endingBefore (parsed : ParsedConfig) (i : ℕ) : ParsedConfig :=
  { parsed with rules := parsed.rules.take i }

variable [PyUnicode]

/-- The service object a row leads to in a state: the one under its key, or else a new one. -/
def ServiceOf (σ : NormalizerState) (rule : ParsedAccessRule) (service : CanonicalObject) : Prop :=
  ∃ fields,ruleTarget rule σ=.ok fields ∧
    (σ.object? fields.objectKey=some service ∨
      σ.object? fields.objectKey=none ∧ service.value=fields)

/-- What a rule of an outcome says about its row, read in the state before the row. -/
structure Translates (σ : NormalizerState) (outcome : NormalizeOutcome) (rule : ParsedAccessRule)
    (ruleKey : String) (written : CanonicalRule) : Prop where
  /-- The rule has the key, action and order of the row. -/
  rule_eq : written=⟨written.id,ruleKey,ruleKey,rule.action,rule.enabled,rule.order,
    some rule.aclName,ruleText rule (isBlocked rule σ)⟩
  /-- It has one source, the address its reference names. -/
  source : ∃ src∈outcome.objects,AddressOf σ rule.srcRef src ∧
    targets outcome.operands written.id .srcObject=[some src.id] ∧
    ∃ τ,WithObject σ τ src ∧ ∃ dst∈outcome.objects,AddressOf τ rule.dstRef dst ∧
      targets outcome.operands written.id .dstObject=[some dst.id]
  /-- Its services are those of the row. -/
  services : ∃ service∈outcome.objects,ServiceOf σ rule service ∧
    ∃ ids,ServiceIds outcome rule service ids ∧
      targets outcome.operands written.id .service=ids.map some

variable {parsed : ParsedConfig} {σ start : NormalizerState}

section Before

omit [PyUnicode] in
/-- The keys of the first rows do not depend on the other rows. -/
theorem ruleKeys_take (seen : SeenKeys) (rules : List ParsedAccessRule) (i : ℕ) :
    (ruleKeys seen rules).take i=ruleKeys seen (rules.take i) := by
  induction rules generalizing seen i with
  | nil =>
    rw [List.take_nil]
    exact List.take_nil
  | cons rule rest ih =>
    cases i with
    | zero => rfl
    | succ i => exact congrArg _ (ih _ i)

/-- The work on all rows is that on each row with its key. -/
theorem materializeRules_eq (parsed : ParsedConfig) :
    materializeRules parsed=forM (parsed.rules.zip (ruleKeys .empty parsed.rules)) rowStep := rfl

/-- The work on the rows before one is that of the configuration that ends there. -/
theorem materializeRules_endingBefore (parsed : ParsedConfig) (i : ℕ) :
    materializeRules (endingBefore parsed i)=
      forM ((parsed.rules.zip (ruleKeys .empty parsed.rules)).take i) rowStep := by
  rw [materializeRules_eq,List.zip,List.take_zipWith,ruleKeys_take]
  rfl

/-- The phases before the rules read none, so the rows start from one state wherever the
configuration ends. -/
theorem normalizePhases_start {u : PUnit} (h : (normalizePhases parsed).run {}=.ok (u,σ)) :
    ∃ σ₀ σ₁ σ₂ σ₃ σ₄ start,registerSentinelObjects.run {}=.ok (⟨⟩,σ₀) ∧
      (materializeAddressObjects parsed).run σ₀=.ok (⟨⟩,σ₁) ∧
      (materializeAddressGroupMembers parsed).run σ₁=.ok (⟨⟩,σ₂) ∧
      (materializeServiceObjects parsed).run σ₂=.ok (⟨⟩,σ₃) ∧
      (materializeServiceGroupMembers parsed).run σ₃=.ok (⟨⟩,σ₄) ∧
      (materializeProtocolGroupMembers parsed).run σ₄=.ok (⟨⟩,start) ∧
      (materializeRules parsed).run start=.ok (⟨⟩,σ) ∧
      ∀ i τ,(materializeRules (endingBefore parsed i)).run start=.ok (⟨⟩,τ) →
        (normalizePhases (endingBefore parsed i)).run {}=.ok (⟨⟩,τ) := by
  obtain ⟨⟨⟩,σ₀,hsentinels,h⟩ := run_bind_eq_ok.mp h
  obtain ⟨⟨⟩,σ₁,haddresses,h⟩ := run_bind_eq_ok.mp h
  obtain ⟨⟨⟩,σ₂,hmembers,h⟩ := run_bind_eq_ok.mp h
  obtain ⟨⟨⟩,σ₃,hservices,h⟩ := run_bind_eq_ok.mp h
  obtain ⟨⟨⟩,σ₄,hgroups,h⟩ := run_bind_eq_ok.mp h
  obtain ⟨⟨⟩,σ₅,hprotocols,hrules⟩ := run_bind_eq_ok.mp h
  refine ⟨σ₀,σ₁,σ₂,σ₃,σ₄,σ₅,hsentinels,haddresses,hmembers,hservices,hgroups,hprotocols,hrules,
    fun i τ hlast => ?_⟩
  refine run_bind_eq_ok.mpr ⟨_,_,hsentinels,run_bind_eq_ok.mpr ⟨_,_,haddresses,?_⟩⟩
  refine run_bind_eq_ok.mpr ⟨_,_,hmembers,run_bind_eq_ok.mpr ⟨_,_,hservices,?_⟩⟩
  exact run_bind_eq_ok.mpr ⟨_,_,hgroups,run_bind_eq_ok.mpr ⟨_,_,hprotocols,hlast⟩⟩

/-- Objects stay registered through all phases. -/
theorem normalizePhases_later {u : PUnit} (h : (normalizePhases parsed).run {}=.ok (u,σ)) :
    ∃ σ₀ σ₁,registerSentinelObjects.run {}=.ok (⟨⟩,σ₀) ∧
      (materializeAddressObjects parsed).run σ₀=.ok (⟨⟩,σ₁) ∧
      Registry.Later σ₀.registry σ₁.registry ∧ Registry.Later σ₁.registry σ.registry := by
  obtain ⟨σ₀,σ₁,σ₂,σ₃,σ₄,start,hsentinels,haddresses,hmembers,hservices,hgroups,hprotocols,hrules,
    -⟩ := normalizePhases_start h
  have hlater₁ : Registry.Later σ₀.registry σ₁.registry :=
    run_forM_invariant (P:=fun s => Registry.Later σ₀.registry s.registry)
      (fun item _ s s' hs hr => hs.trans (materializeAddressObject_header hr).later)
      (Registry.Later.refl _) haddresses
  have hlater₃ : Registry.Later σ₂.registry σ₃.registry :=
    run_forM_invariant (P:=fun s => Registry.Later σ₂.registry s.registry)
      (fun item _ s s' hs hr => hs.trans (materializeServiceObject_header hr).later)
      (Registry.Later.refl _) hservices
  have hlater : Registry.Later start.registry σ.registry :=
    run_forM_invariant (P:=fun s => Registry.Later start.registry s.registry)
      (fun row _ s s' hs hr => by
        obtain ⟨added,operands,hall,-⟩ := materializeRule_refers hr
        exact hs.trans hall.later)
      (Registry.Later.refl _) hrules
  have hlater₂ := (materializeAddressGroupMembers_quiet hmembers).later
  have hlater₄ := (materializeServiceGroupMembers_quiet hgroups).later
  have hlater₅ := (materializeProtocolGroupMembers_quiet hprotocols).later
  exact ⟨σ₀,σ₁,hsentinels,haddresses,hlater₁,
    hlater₂.trans (hlater₃.trans (hlater₄.trans (hlater₅.trans hlater)))⟩

/-- What the phases before the rules leave: neither rules nor operands, and registered members. -/
theorem start_clean
    (hrun : (normalizePhases (endingBefore parsed 0)).run {}=.ok (⟨⟩,start)) :
    start.rules=[] ∧ start.operands=[] ∧
      ∀ member∈start.objectMembers,Known start member.childObjectId := by
  obtain ⟨hmembers,hclosed,-⟩ := normalizePhases_traced hrun
  obtain ⟨τ,hnone,hlast⟩ := normalizePhases_rules hrun
  have hsame : τ=start := run_forM_nil.mp hlast
  rw [hsame] at hnone
  refine ⟨hnone,List.eq_nil_iff_forall_not_mem.mpr fun operand ho => ?_,
    fun member hm => (hmembers member hm).2⟩
  obtain ⟨rule,hrule,-⟩ := hclosed.owner operand ho
  rw [hnone] at hrule
  exact List.not_mem_nil hrule

end Before

section Run

variable {rule : ParsedAccessRule} {ruleKey : String} {written : CanonicalRule}
  {operands : List CanonicalRuleOperand}

/-- What a row wrote is what its rule says, when its operands are those of the outcome. -/
theorem translates_of_written {ρ : NormalizerState}
    (h : RowWritten rule ruleKey written operands σ ρ)
    (hslots : ∀ role,targets ρ.operands written.id role=targets operands written.id role) :
    Translates σ (outcomeOf ρ) rule ruleKey written := by
  obtain ⟨src,dst,haddresses,hsrc,hdst⟩ := h.addresses
  obtain ⟨ids,⟨fields,service,htarget,hobj,horigin,hids⟩,hservices⟩ := h.services
  obtain ⟨τ,hwith,hdstOf⟩ := haddresses.destination
  refine ⟨h.rule_eq,⟨src,?_,haddresses.source,(hslots _).trans hsrc,τ,hwith,dst,?_,hdstOf,
    (hslots _).trans hdst⟩,service,?_,⟨fields,htarget,horigin⟩,ids,hids,(hslots _).trans hservices⟩
  · exact mem_objects_iff.mpr haddresses.source_object
  · exact mem_objects_iff.mpr haddresses.destination_object
  · exact (mem_objects_of_object? hobj).1

/-- The rules that the phases leave, row by row. -/
theorem exists_translated {ρ : NormalizerState}
    (hrun : (normalizePhases parsed).run {}=.ok (⟨⟩,ρ)) :
    (outcomeOf ρ).rules.length=parsed.rules.length ∧
      ∀ i rule,parsed.rules[i]?=some rule → ∃ σ ruleKey written,
        (normalizePhases (endingBefore parsed i)).run {}=.ok (⟨⟩,σ) ∧
        (ruleKeys .empty parsed.rules)[i]?=some ruleKey ∧ (outcomeOf ρ).rules[i]?=some written ∧
        Translates σ (outcomeOf ρ) rule ruleKey written := by
  obtain ⟨-,-,-,-,-,start,-,-,-,-,-,-,hrules,hphases⟩ := normalizePhases_start hrun
  obtain ⟨hnone,hnoOperands,hknown⟩ := start_clean (hphases 0 start (run_forM_nil.mpr rfl))
  obtain ⟨made,hmade⟩ := materializeRules_written hnone hnoOperands hknown hrules
  have hclosed := (normalizePhases_traced hrun).2.1
  have hlength := length_ruleKeys parsed.rules .empty
  -- every entry comes from some row, so its operands are its own
  have hown : ∀ entry∈made,∀ operand∈entry.2,operand.ruleId=entry.1.id := by
    intro entry he
    obtain ⟨i,hi⟩ := List.mem_iff_getElem?.mp he
    have hlt : i < made.length := (List.getElem?_eq_some_iff.mp hi).1
    rw [hmade.length_eq] at hlt
    obtain ⟨other,σ,hother,-,hrow⟩ := hmade.written i _ (List.getElem?_eq_getElem hlt)
    obtain rfl := Option.some.inj (hi.symm.trans hother)
    exact hrow.own
  have hnodup : (made.map fun entry => entry.1.id).Nodup := by
    have hids := hclosed.ids_nodup
    rwa [hmade.rules_eq,List.map_map] at hids
  refine ⟨?_,fun i rule hi => ?_⟩
  · have hmap : (outcomeOf ρ).rules=made.map Prod.fst := hmade.rules_eq
    rw [hmap,List.length_map,hmade.length_eq,List.length_zip,hlength,Nat.min_self]
  · have hlt : i<(ruleKeys .empty parsed.rules).length :=
      hlength.symm▸(List.getElem?_eq_some_iff.mp hi).1
    have hkey := List.getElem?_eq_getElem hlt
    have hrow : (parsed.rules.zip (ruleKeys .empty parsed.rules))[i]?=some (rule,_) :=
      List.getElem?_zip_eq_some.mpr ⟨hi,hkey⟩
    obtain ⟨entry,σ,hentry,hbefore,hwritten⟩ := hmade.written i _ hrow
    refine ⟨σ,_,entry.1,hphases i σ ?_,hkey,?_,translates_of_written hwritten fun role => ?_⟩
    · rw [materializeRules_endingBefore]
      exact hbefore
    · have hmap : (outcomeOf ρ).rules=made.map Prod.fst := hmade.rules_eq
      rw [hmap,List.getElem?_map,hentry]
      rfl
    · rw [hmade.operands_eq]
      exact targets_flatMap hown hnodup (List.mem_of_getElem? hentry) role

/-- The rules of an outcome are the rows of the configuration in order, and each refers to what
its row refers to in the state left by the rows before it. -/
theorem rules_translated {outcome : NormalizeOutcome} (h : normalize parsed=.ok outcome) :
    outcome.rules.length=parsed.rules.length ∧
      ∀ i rule,parsed.rules[i]?=some rule → ∃ σ ruleKey written,
        (normalizePhases (endingBefore parsed i)).run {}=.ok (⟨⟩,σ) ∧
        (ruleKeys .empty parsed.rules)[i]?=some ruleKey ∧ outcome.rules[i]?=some written ∧
        Translates σ outcome rule ruleKey written := by
  obtain ⟨ρ,hrun,rfl⟩ := normalize_eq_ok h
  exact exists_translated hrun

end Run

section Samples

/-- The line that lets the web object talk to a host on port 80. -/
def permitWeb : ParsedAccessRule :=
  { permitAny with
    ruleName := "A:2"
    protocol := "tcp"
    srcRef := "WEB"
    dstRef := "host:10.0.0.9"
    serviceRef := some "80"
    order := 2 }

/-- That line after the one for everything. -/
def webToHost : ParsedConfig := { objectAndGroup "WEBS" with rules := [permitAny,permitWeb] }

omit [PyUnicode] in
theorem rules_translated_web :
    ∃ (outcome : NormalizeOutcome) (σ : NormalizerState) (ruleKey : String)
      (written : CanonicalRule),@normalize asciiUnicode webToHost=.ok outcome ∧
        outcome.rules.length=2 ∧ outcome.rules[1]?=some written ∧
        @Translates asciiUnicode σ outcome permitWeb ruleKey written := by
  have hrun : (@normalize asciiUnicode webToHost).toOption.isSome=true := by
    decide +kernel
  cases h : @normalize asciiUnicode webToHost with
  | error e =>
    rw [h] at hrun
    cases hrun
  | ok outcome =>
    obtain ⟨hlength,hall⟩ := @rules_translated asciiUnicode _ _ h
    obtain ⟨σ,ruleKey,written,-,-,hwritten,htranslates⟩ := hall 1 permitWeb rfl
    exact ⟨outcome,σ,ruleKey,written,rfl,hlength,hwritten,htranslates⟩

end Samples

end NspMigrator.CiscoRuleTranslation
