import Mathlib
import NspMigrator.CiscoReferences

/-!
# What the rules of an outcome refer to

A row appends one rule with a number of its own, and operands of this rule:
the zones that were inferred, one source, one destination, and the services.
Rules that are complete stay complete when more rows are appended.
-/

namespace NspMigrator.CiscoRuleReferences

open PyText PyDict PyState PyRegistry CanonicalModels CiscoParsedConfig
open CiscoState CiscoAddresses CiscoServices CiscoRules CiscoReferences

/-- The targets of an operand are registered. -/
structure OperandPresent (σ : NormalizerState) (operand : CanonicalRuleOperand) : Prop where
  /-- The object it refers to is known. -/
  object : ∀ id,operand.targetObjectId=some id → Known σ id
  /-- So is the zone. -/
  zone : ∀ id,operand.targetZoneId=some id → KnownZone σ id

/-- An operand of a rule in a slot, with targets that are registered. -/
structure InSlot (σ : NormalizerState) (ruleId : ℕ) (role : OperandRole)
    (operand : CanonicalRuleOperand) : Prop where
  /-- It belongs to the rule. -/
  rule_eq : operand.ruleId=ruleId
  /-- It has the role. -/
  role_eq : operand.operandRole=role
  /-- What it refers to is known. -/
  present : OperandPresent σ operand

variable {K : String → Prop} {σ σ' : NormalizerState} {ruleId : ℕ} {role : OperandRole}
  {rules : List CanonicalRule} {operands : List CanonicalRuleOperand}

theorem InSlot.own {operand : CanonicalRuleOperand} (h : InSlot σ ruleId role operand) :
    operand.ruleId=ruleId ∧ OperandPresent σ operand :=
  ⟨h.rule_eq,h.present⟩

theorem knownZone_later {id : ℕ} (h : KnownZone σ id) (hl : Extends K rules operands σ σ') :
    KnownZone σ' id := by
  obtain ⟨key,zone,hzone,hid⟩ := h
  exact ⟨key,zone,hl.zones key zone hzone,hid⟩

theorem OperandPresent.later {operand : CanonicalRuleOperand} (h : OperandPresent σ operand)
    (hl : Extends K rules operands σ σ') : OperandPresent σ' operand where
  object id hid := (h.object id hid).later hl.later
  zone id hid := knownZone_later (h.zone id hid) hl

theorem InSlot.later {operand : CanonicalRuleOperand} (h : InSlot σ ruleId role operand)
    (hl : Refers K rules operands σ σ') : InSlot σ' ruleId role operand :=
  ⟨h.rule_eq,h.role_eq,h.present.later hl.toExtends⟩

section Slots

/-- The operands of a rule in one slot. -/
def slot (operands : List CanonicalRuleOperand) (ruleId : ℕ) (role : OperandRole) :
    List CanonicalRuleOperand :=
  operands.filter fun operand => decide (operand.ruleId=ruleId ∧ operand.operandRole=role)

theorem slot_append (operands operands' : List CanonicalRuleOperand) (ruleId : ℕ)
    (role : OperandRole) :
    slot (operands++operands') ruleId role=slot operands ruleId role++slot operands' ruleId role :=
  List.filter_append ..

/-- Operands of one slot fill it. -/
theorem slot_eq_self (h : ∀ operand∈operands,InSlot σ ruleId role operand) :
    slot operands ruleId role=operands := by
  refine List.filter_eq_self.mpr fun operand ho => ?_
  exact decide_eq_true ⟨(h operand ho).rule_eq,(h operand ho).role_eq⟩

/-- Operands of another slot are not in this one. -/
theorem slot_eq_nil_of_role {other : OperandRole} (hne : other≠role)
    (h : ∀ operand∈operands,InSlot σ ruleId other operand) : slot operands ruleId role=[] := by
  refine List.filter_eq_nil_iff.mpr fun operand ho hin => ?_
  have hrole := (h operand ho).role_eq
  exact hne (hrole.symm.trans (of_decide_eq_true hin).2)

/-- Operands of other rules are not in a slot of this one. -/
theorem slot_eq_nil_of_rule (h : ∀ operand∈operands,operand.ruleId≠ruleId) :
    slot operands ruleId role=[] := by
  refine List.filter_eq_nil_iff.mpr fun operand ho hin => ?_
  exact h operand ho (of_decide_eq_true hin).1

/-- One source, one destination, and a service. -/
structure Complete (operands : List CanonicalRuleOperand) (ruleId : ℕ) : Prop where
  /-- One source. -/
  source : (slot operands ruleId .srcObject).length=1
  /-- One destination. -/
  destination : (slot operands ruleId .dstObject).length=1
  /-- A service at least. -/
  service : 1≤(slot operands ruleId .service).length

/-- Operands of other rules leave a rule complete. -/
theorem Complete.append {operands' : List CanonicalRuleOperand} (h : Complete operands ruleId)
    (hother : ∀ operand∈operands',operand.ruleId≠ruleId) :
    Complete (operands++operands') ruleId where
  source := by rw [slot_append,slot_eq_nil_of_rule hother,List.append_nil,h.source]
  destination := by rw [slot_append,slot_eq_nil_of_rule hother,List.append_nil,h.destination]
  service := by
    rw [slot_append,slot_eq_nil_of_rule hother,List.append_nil]
    exact h.service

/-- A rule is complete with its own operands, whatever the others are. -/
theorem Complete.prepend {operands' : List CanonicalRuleOperand}
    (hother : ∀ operand∈operands,operand.ruleId≠ruleId) (h : Complete operands' ruleId) :
    Complete (operands++operands') ruleId where
  source := by rw [slot_append,slot_eq_nil_of_rule hother,List.nil_append,h.source]
  destination := by rw [slot_append,slot_eq_nil_of_rule hother,List.nil_append,h.destination]
  service := by
    rw [slot_append,slot_eq_nil_of_rule hother,List.nil_append]
    exact h.service

end Slots

section Rows

/-- An issue that is emitted under a condition. -/
theorem issueIf_quiet {c : Prop} [Decidable c] {x : Normalizing CanonicalIssue} {u : PUnit}
    (hx : ∀ issue τ,x.run σ=.ok (issue,τ) → Quiet K σ τ)
    (h : (if c then (do let _ ← x; pure ⟨⟩) else pure ⟨⟩ : Normalizing PUnit).run σ=
      .ok (u,σ')) : Quiet K σ σ' := by
  rcases run_ite h with ⟨-,hissue⟩|⟨-,hnone⟩
  · obtain ⟨issue,τ,hx',hlast⟩ := run_bind_eq_ok.mp hissue
    obtain ⟨-,rfl⟩ := run_pure_eq_ok.mp hlast
    exact hx issue _ hx'
  · obtain ⟨-,rfl⟩ := run_pure_eq_ok.mp hnone
    exact Refers.refl _ _

theorem emitRuleUsageIssues_quiet {rule : ParsedAccessRule} {u : PUnit}
    (h : (emitRuleUsageIssues rule).run σ=.ok (u,σ')) : Quiet K σ σ' := by
  rcases run_ite h with ⟨-,hconflict⟩|⟨-,hselector⟩
  · obtain ⟨issue,τ,hissue,hselector⟩ := run_bind_eq_ok.mp hconflict
    have hrest : Quiet K τ σ' := issueIf_quiet (fun _ _ => emitIssue_quiet) hselector
    exact (emitIssue_quiet hissue).quiet hrest
  · exact issueIf_quiet (fun _ _ => emitIssue_quiet) hselector

theorem emitProtocolIssue_quiet {rule : ParsedAccessRule} {issueCode message : String}
    {reason : IssueReasonCode} {blocked : Bool}
    (h : (emitProtocolIssue rule issueCode message reason).run σ=.ok (blocked,σ')) :
    Quiet K σ σ' := by
  obtain ⟨issue,τ,hissue,h⟩ := run_bind_eq_ok.mp h
  obtain ⟨-,rfl⟩ := run_pure_eq_ok.mp h
  exact emitIssue_quiet hissue

theorem validateProtocolOperand_quiet {rule : ParsedAccessRule} {blocked : Bool}
    (h : (validateProtocolOperand rule).run σ=.ok (blocked,σ')) : Quiet K σ σ' := by
  unfold validateProtocolOperand at h
  split at h
  · split at h
    · exact emitProtocolIssue_quiet h
    · obtain ⟨found,τ,hfound,hrest⟩ := run_bind_eq_ok.mp h
      obtain ⟨rfl,-⟩ := objectId?_spec hfound
      rcases run_ite hrest with ⟨-,hpure⟩|⟨-,hissue⟩
      · obtain ⟨-,rfl⟩ := run_pure_eq_ok.mp hpure
        exact Refers.refl _ _
      · exact emitProtocolIssue_quiet hissue
  · rcases run_ite h with ⟨-,hpure⟩|⟨-,hissue⟩
    · obtain ⟨-,rfl⟩ := run_pure_eq_ok.mp hpure
      exact Refers.refl _ _
    · exact emitProtocolIssue_quiet hissue
  · obtain ⟨-,rfl⟩ := run_pure_eq_ok.mp h
    exact Refers.refl _ _

theorem emitTextualDuplicateIssue_quiet [PyUnicode] {rule : ParsedAccessRule} {u : PUnit}
    (h : (emitTextualDuplicateIssue rule).run σ=.ok (u,σ')) : Quiet K σ σ' := by
  obtain ⟨t,τ,hget,hrest⟩ := run_bind_eq_ok.mp h
  obtain ⟨rfl,rfl⟩ := run_get_eq_ok.mp hget
  split at hrest
  · exact modify_refers hrest (quiet_of_eq rfl rfl rfl rfl rfl rfl le_rfl)
  · obtain ⟨issue,τ₁,hissue,hlast⟩ := run_bind_eq_ok.mp hrest
    obtain ⟨-,rfl⟩ := run_pure_eq_ok.mp hlast
    exact emitIssue_quiet hissue

/-- A zone that is looked up or made is registered. -/
theorem ensureZone_quiet {zoneName : String} {sourceLine : ℕ} {zone : CanonicalZone}
    (h : (ensureZone zoneName sourceLine).run σ=.ok (zone,σ')) :
    Quiet K σ σ' ∧ KnownZone σ' zone.id := by
  obtain ⟨t,τ,hget,hrest⟩ := run_bind_eq_ok.mp h
  obtain ⟨rfl,rfl⟩ := run_get_eq_ok.mp hget
  cases hzone : σ.zonesByKey.get? ("zone:"++zoneName) with
  | some found =>
    rw [hzone] at hrest
    obtain ⟨rfl,rfl⟩ := run_pure_eq_ok.mp hrest
    exact ⟨Refers.refl _ _,_,_,hzone,rfl⟩
  | none =>
    rw [hzone] at hrest
    obtain ⟨id,τ,hid,hmade⟩ := run_bind_eq_ok.mp hrest
    obtain ⟨⟨⟩,τ₁,hinsert,htraced⟩ := run_bind_eq_ok.mp hmade
    obtain ⟨⟨⟩,τ₂,htrace,hlast⟩ := run_bind_eq_ok.mp htraced
    obtain ⟨rfl,rfl⟩ := run_pure_eq_ok.mp hlast
    have hfresh : Quiet K σ τ := freshId_quiet hid
    have hkept : τ.zonesByKey=σ.zonesByKey := by rw [(freshId_spec hid).2]
    have hinserted : Quiet K τ τ₁ := by
      refine modify_refers hinsert { Refers.refl K τ with zones := ?_ }
      intro key zone hz
      -- a key that is taken is another key
      have hne : key≠"zone:"++zoneName := by
        rintro rfl
        rw [hkept,hzone] at hz
        cases hz
      exact (Dict.get?_insert_of_ne _ hne _).trans hz
    have htraced : Quiet K τ₁ τ₂ := emitTrace_quiet (fun hk => by cases hk) htrace
    refine ⟨(hfresh.quiet hinserted).quiet htraced,"zone:"++zoneName,_,?_,rfl⟩
    refine htraced.zones _ _ ?_
    rw [←run_modify_eq_ok.mp hinsert]
    exact Dict.get?_insert_self ..

/-- One operand of a rule is appended. -/
theorem addOperand_refers {targetZoneId targetObjectId : Option ℕ}
    {position lineStart lineEnd : ℕ} {fragment : String} {note : Option String} {u : PUnit}
    (hobject : ∀ id,targetObjectId=some id → Known σ id)
    (hzone : ∀ id,targetZoneId=some id → KnownZone σ id)
    (h : (addOperand ruleId role targetZoneId targetObjectId position lineStart lineEnd fragment
      note).run σ=.ok (u,σ')) :
    ∃ operand,Refers K [] [operand] σ σ' ∧ InSlot σ' ruleId role operand := by
  obtain ⟨id,τ,hid,hrest⟩ := run_bind_eq_ok.mp h
  obtain ⟨⟨⟩,τ₁,hadd,htrace⟩ := run_bind_eq_ok.mp hrest
  have hfresh : Quiet K σ τ := freshId_quiet hid
  have hadded : Refers K [] [⟨id,ruleId,role,targetZoneId,targetObjectId,position⟩] τ τ₁ :=
    modify_refers hadd { Refers.refl K τ with operands_eq := rfl }
  have htraced : Quiet K τ₁ σ' := emitTrace_quiet (fun hk => by cases hk) htrace
  have hall := (hfresh.trans hadded).quiet htraced
  refine ⟨_,hall,rfl,rfl,?_,?_⟩
  · exact fun id hid => (hobject id hid).later hall.later
  · exact fun id hid => knownZone_later (hzone id hid) hall.toExtends

/-- The operand of a zone is appended, if there is one. -/
theorem addZoneOperand_refers {rule : ParsedAccessRule} {zoneName : Option String} {u : PUnit}
    (h : (addZoneOperand rule ruleId role zoneName).run σ=.ok (u,σ')) :
    ∃ operands,Refers K [] operands σ σ' ∧ ∀ operand∈operands,InSlot σ' ruleId role operand := by
  unfold addZoneOperand at h
  split at h
  · obtain ⟨-,rfl⟩ := run_pure_eq_ok.mp h
    exact ⟨[],Refers.refl _ _,fun _ ho => absurd ho List.not_mem_nil⟩
  · obtain ⟨zone,τ,hzone,hadd⟩ := run_bind_eq_ok.mp h
    obtain ⟨hquiet,hknown⟩ := ensureZone_quiet (K:=K) hzone
    obtain ⟨operand,hadded,hslot⟩ := addOperand_refers (K:=K) (fun id hid => by cases hid)
      (fun id hid => by cases hid; exact hknown) hadd
    refine ⟨[operand],hquiet.trans hadded,fun other ho => ?_⟩
    rwa [List.mem_singleton.mp ho]

/-- The rule of a row is appended under a number of its own. -/
theorem createRuleWithTrace_refers {rule : ParsedAccessRule} {processingStatus ruleKey : String}
    {description : Option String} {canonicalRule : CanonicalRule}
    (h : (createRuleWithTrace rule processingStatus ruleKey description).run σ=
      .ok (canonicalRule,σ')) :
    Refers K [canonicalRule] [] σ σ' ∧ σ.nextId≤canonicalRule.id ∧
      canonicalRule.id<σ'.nextId ∧ canonicalRule.ruleKey=ruleKey := by
  obtain ⟨id,τ,hid,hrest⟩ := run_bind_eq_ok.mp h
  obtain ⟨rfl,hτ⟩ := freshId_spec hid
  obtain ⟨⟨⟩,τ₁,hadd,hrest⟩ := run_bind_eq_ok.mp hrest
  obtain ⟨⟨⟩,τ₂,htrace,hlast⟩ := run_bind_eq_ok.mp hrest
  obtain ⟨rfl,rfl⟩ := run_pure_eq_ok.mp hlast
  have hfresh : Quiet K σ τ := freshId_quiet hid
  have hadded : Refers K [⟨σ.nextId,ruleKey,ruleKey,rule.action,rule.enabled,rule.order,
      some rule.aclName,description⟩] [] τ τ₁ :=
    modify_refers hadd { Refers.refl K τ with rules_eq := rfl }
  have htraced : Quiet K τ₁ τ₂ := emitTrace_quiet (fun hk => by cases hk) htrace
  refine ⟨(hfresh.trans hadded).quiet htraced,le_rfl,?_,rfl⟩
  have hnext : τ.nextId=σ.nextId+1 := by rw [hτ]
  have hlater := (hadded.quiet htraced).nextId_le
  show σ.nextId<τ₂.nextId
  omega

/-- The operands of the inferred zones. -/
theorem materializeRuleZoneOperands_refers {rule : ParsedAccessRule} {u : PUnit}
    (h : (materializeRuleZoneOperands rule ruleId).run σ=.ok (u,σ')) :
    ∃ src dst,Refers K [] (src++dst) σ σ' ∧
      (∀ operand∈src,InSlot σ' ruleId .srcZone operand) ∧
      ∀ operand∈dst,InSlot σ' ruleId .dstZone operand := by
  obtain ⟨⟨⟩,τ,hsrc,hdst⟩ := run_bind_eq_ok.mp h
  obtain ⟨src,hsrc,hsrcIn⟩ := addZoneOperand_refers (K:=K) hsrc
  obtain ⟨dst,hdst,hdstIn⟩ := addZoneOperand_refers (K:=K) hdst
  exact ⟨src,dst,hsrc.trans hdst,fun operand ho => (hsrcIn operand ho).later hdst,hdstIn⟩

variable [PyUnicode]

omit [PyUnicode] in
/-- The operands of the two addresses. -/
theorem materializeRuleAddressOperands_refers {rule : ParsedAccessRule} {u : PUnit}
    (h : (materializeRuleAddressOperands rule ruleId).run σ=.ok (u,σ')) :
    ∃ src dst,Refers AnyKey [] [src,dst] σ σ' ∧ InSlot σ' ruleId .srcObject src ∧
      InSlot σ' ruleId .dstObject dst := by
  obtain ⟨srcId,τ,hsrc,hrest⟩ := run_bind_eq_ok.mp h
  obtain ⟨hsrc,hsrcKnown⟩ := ensureAddrObjectFromRef_quiet (K:=AnyKey) (fun _ _ => trivial) hsrc
  obtain ⟨dstId,τ₁,hdst,hrest⟩ := run_bind_eq_ok.mp hrest
  obtain ⟨hdst,hdstKnown⟩ := ensureAddrObjectFromRef_quiet (K:=AnyKey) (fun _ _ => trivial) hdst
  obtain ⟨⟨⟩,τ₂,hsrcAdd,hdstAdd⟩ := run_bind_eq_ok.mp hrest
  obtain ⟨src,hsrcAdd,hsrcIn⟩ := addOperand_refers (K:=AnyKey)
    (fun id hid => by cases hid; exact hsrcKnown.later hdst.later) (fun id hid => by cases hid)
    hsrcAdd
  obtain ⟨dst,hdstAdd,hdstIn⟩ := addOperand_refers (K:=AnyKey)
    (fun id hid => by cases hid; exact hdstKnown.later hsrcAdd.later) (fun id hid => by cases hid)
    hdstAdd
  exact ⟨src,dst,(hsrc.trans hdst).trans (hsrcAdd.trans hdstAdd),hsrcIn.later hdstAdd,hdstIn⟩

omit [PyUnicode] in
/-- One operand for every service. -/
theorem forM_addOperand_refers {entries : List (ℕ × ℕ)}
    {lineStart lineEnd : ℕ} {fragment : String} {note : Option String} {u : PUnit}
    (hknown : ∀ entry∈entries,Known σ entry.1)
    (h : (forM entries fun (serviceObjId,position) =>
      addOperand ruleId .service none (some serviceObjId) position lineStart lineEnd fragment
        note).run σ=.ok (u,σ')) :
    ∃ operands,Refers K [] operands σ σ' ∧ operands.length=entries.length ∧
      ∀ operand∈operands,InSlot σ' ruleId .service operand := by
  induction entries generalizing σ with
  | nil =>
    obtain rfl := run_forM_nil.mp h
    exact ⟨[],Refers.refl _ _,rfl,fun _ ho => absurd ho List.not_mem_nil⟩
  | cons entry rest ih =>
    obtain ⟨τ,hfirst,hrest⟩ := run_forM_cons.mp h
    obtain ⟨operand,hadded,hslot⟩ := addOperand_refers (K:=K)
      (fun id hid => by cases hid; exact hknown entry List.mem_cons_self)
      (fun id hid => by cases hid) hfirst
    obtain ⟨operands,hadds,hlength,hslots⟩ := ih (fun other ho =>
      (hknown other (List.mem_cons_of_mem _ ho)).later hadded.later) hrest
    refine ⟨operand::operands,hadded.trans hadds,by simp only [List.length_cons,hlength],?_⟩
    intro other ho
    rcases List.mem_cons.mp ho with rfl|ho
    · exact hslot.later hadds
    · exact hslots other ho

omit [PyUnicode] in
/-- The operands of the services. -/
theorem appendServiceOperands_refers {rule : ParsedAccessRule} {ids : List ℕ} {u : PUnit}
    (hknown : ∀ id∈ids,Known σ id)
    (h : (appendServiceOperands rule ruleId ids).run σ=.ok (u,σ')) :
    ∃ operands,Refers K [] operands σ σ' ∧ operands.length=ids.length ∧
      ∀ operand∈operands,InSlot σ' ruleId .service operand := by
  have hentries : ∀ entry∈ids.zipIdx,Known σ entry.1 := by
    intro entry hentry
    exact hknown entry.1 (List.fst_mem_of_mem_zipIdx hentry)
  obtain ⟨operands,hadds,hlength,hslots⟩ := forM_addOperand_refers (K:=K) hentries h
  exact ⟨operands,hadds,hlength.trans List.length_zipIdx,hslots⟩

omit [PyUnicode] in
/-- The operands of a row: at most one zone on each side, the two addresses, the services. -/
theorem complete_operands {srcZones dstZones services : List CanonicalRuleOperand}
    {src dst : CanonicalRuleOperand}
    (hsrcZones : ∀ operand∈srcZones,InSlot σ ruleId .srcZone operand)
    (hdstZones : ∀ operand∈dstZones,InSlot σ ruleId .dstZone operand)
    (hsrc : InSlot σ ruleId .srcObject src) (hdst : InSlot σ ruleId .dstObject dst)
    (hservices : ∀ operand∈services,InSlot σ ruleId .service operand) (hne : services≠[]) :
    Complete (srcZones++dstZones++[src,dst]++services) ruleId := by
  have hsrc' : ∀ operand∈[src],InSlot σ ruleId .srcObject operand :=
    fun operand ho => List.mem_singleton.mp ho▸hsrc
  have hdst' : ∀ operand∈[dst],InSlot σ ruleId .dstObject operand :=
    fun operand ho => List.mem_singleton.mp ho▸hdst
  have hpair : [src,dst]=[src]++[dst] := rfl
  rw [hpair]
  constructor
  · simp only [slot_append]
    rw [slot_eq_nil_of_role (by decide) hsrcZones,slot_eq_nil_of_role (by decide) hdstZones,
      slot_eq_self hsrc',slot_eq_nil_of_role (by decide) hdst',
      slot_eq_nil_of_role (by decide) hservices]
    rfl
  · simp only [slot_append]
    rw [slot_eq_nil_of_role (by decide) hsrcZones,slot_eq_nil_of_role (by decide) hdstZones,
      slot_eq_nil_of_role (by decide) hsrc',slot_eq_self hdst',
      slot_eq_nil_of_role (by decide) hservices]
    rfl
  · rw [slot_append,slot_eq_self hservices,List.length_append]
    have hpos := List.length_pos_iff.mpr hne
    omega

/-- A row appends one rule under a new number, and operands that make it complete. -/
theorem materializeRule_refers {rule : ParsedAccessRule} {ruleKey : String} {u : PUnit}
    (h : (materializeRule rule ruleKey).run σ=.ok (u,σ')) :
    ∃ canonicalRule operands,Refers AnyKey [canonicalRule] operands σ σ' ∧
      σ.nextId≤canonicalRule.id ∧ canonicalRule.id<σ'.nextId ∧
      (∀ operand∈operands,operand.ruleId=canonicalRule.id ∧ OperandPresent σ' operand) ∧
      Complete operands canonicalRule.id ∧ canonicalRule.ruleKey=ruleKey := by
  obtain ⟨⟨⟩,τ₁,husage,h⟩ := run_bind_eq_ok.mp h
  obtain ⟨⟨⟩,τ₂,hduplicate,h⟩ := run_bind_eq_ok.mp h
  obtain ⟨blocker,τ₃,hvalid,h⟩ := run_bind_eq_ok.mp h
  obtain ⟨⟨⟩,τ₄,hblocker,h⟩ := run_bind_eq_ok.mp h
  obtain ⟨canonicalRule,τ₅,hcreate,h⟩ := run_bind_eq_ok.mp h
  obtain ⟨⟨⟩,τ₆,hzones,h⟩ := run_bind_eq_ok.mp h
  obtain ⟨⟨⟩,τ₇,haddrs,h⟩ := run_bind_eq_ok.mp h
  obtain ⟨ids,τ₈,hservices,hoperands⟩ := run_bind_eq_ok.mp h
  have hblocked : Quiet AnyKey τ₃ τ₄ :=
    modify_refers hblocker (quiet_of_eq rfl rfl rfl rfl rfl rfl le_rfl)
  have hissues : Quiet AnyKey σ τ₄ :=
    (((emitRuleUsageIssues_quiet husage).quiet (emitTextualDuplicateIssue_quiet hduplicate)).quiet
      (validateProtocolOperand_quiet hvalid)).quiet hblocked
  obtain ⟨hcreated,hle,hlt,hkey⟩ := createRuleWithTrace_refers (K:=AnyKey) hcreate
  obtain ⟨srcZones,dstZones,hzones,hsrcZones,hdstZones⟩ :=
    materializeRuleZoneOperands_refers (K:=AnyKey) hzones
  obtain ⟨src,dst,haddrs,hsrc,hdst⟩ := materializeRuleAddressOperands_refers haddrs
  obtain ⟨hensured,hknown,hne⟩ := ensureServicesForRule_quiet hservices
  obtain ⟨services,hadds,hlength,hin⟩ := appendServiceOperands_refers (K:=AnyKey) hknown hoperands
  have hlast : Refers AnyKey [] services τ₇ σ' := hensured.trans hadds
  have hall := ((hissues.trans hcreated).trans ((hzones.trans haddrs).trans hlast))
  have hsrcZones' := fun operand ho => (hsrcZones operand ho).later (haddrs.trans hlast)
  have hdstZones' := fun operand ho => (hdstZones operand ho).later (haddrs.trans hlast)
  have hne' : services≠[] := by
    intro he
    rw [he] at hlength
    exact hne (List.eq_nil_of_length_eq_zero hlength.symm)
  have hcomplete := complete_operands hsrcZones' hdstZones' (hsrc.later hlast) (hdst.later hlast)
    hin hne'
  refine ⟨canonicalRule,srcZones++dstZones++[src,dst]++services,hall,?_,?_,?_,hcomplete,hkey⟩
  · exact hissues.nextId_le.trans hle
  · exact hlt.trans_le ((hzones.trans haddrs).trans hlast).nextId_le
  · intro operand ho
    simp only [List.mem_append,List.mem_cons,List.not_mem_nil,or_false] at ho
    rcases ho with ((ho|ho)|rfl|rfl)|ho
    · exact (hsrcZones' operand ho).own
    · exact (hdstZones' operand ho).own
    · exact (hsrc.later hlast).own
    · exact (hdst.later hlast).own
    · exact (hin operand ho).own

end Rows

section Run

/-- Rules have different numbers and are complete, and operands belong to rules and have targets
that are registered. -/
structure RulesClosed (σ : NormalizerState) : Prop where
  /-- No two rules have one number. -/
  ids_nodup : (σ.rules.map (·.id)).Nodup
  /-- Their numbers were given out. -/
  id_lt : ∀ rule∈σ.rules,rule.id<σ.nextId
  /-- Every operand belongs to a rule. -/
  owner : ∀ operand∈σ.operands,∃ rule∈σ.rules,rule.id=operand.ruleId
  /-- It refers to what is known. -/
  present : ∀ operand∈σ.operands,OperandPresent σ operand
  /-- No rule lacks a slot. -/
  complete : ∀ rule∈σ.rules,Complete σ.operands rule.id

/-- A step without rules keeps the rules closed. -/
theorem RulesClosed.extends (hσ : RulesClosed σ) (h : Extends K [] [] σ σ') : RulesClosed σ' := by
  have hrules : σ'.rules=σ.rules := h.rules_eq.trans (List.append_nil _)
  have hoperands : σ'.operands=σ.operands := h.operands_eq.trans (List.append_nil _)
  constructor
  · rw [hrules]
    exact hσ.ids_nodup
  · rw [hrules]
    exact fun rule hr => (hσ.id_lt rule hr).trans_le h.nextId_le
  · rw [hrules,hoperands]
    exact hσ.owner
  · rw [hoperands]
    exact fun operand ho => (hσ.present operand ho).later h
  · rw [hrules,hoperands]
    exact hσ.complete

variable [PyUnicode]

/-- A row keeps the rules closed. -/
theorem RulesClosed.materializeRule (hσ : RulesClosed σ) {rule : ParsedAccessRule}
    {ruleKey : String} {u : PUnit} (h : (materializeRule rule ruleKey).run σ=.ok (u,σ')) :
    RulesClosed σ' := by
  obtain ⟨added,operands,hall,hle,hlt,hown,hcomplete,-⟩ := materializeRule_refers h
  have hnew : ∀ old∈σ.rules,old.id≠added.id := by
    intro old hold
    have hlt' := hσ.id_lt old hold
    omega
  constructor
  · rw [hall.rules_eq,List.map_append,List.nodup_append]
    refine ⟨hσ.ids_nodup,List.nodup_singleton _,fun id hid other ho => ?_⟩
    obtain ⟨old,hold,rfl⟩ := List.mem_map.mp hid
    rw [List.mem_singleton.mp ho]
    exact hnew old hold
  · rw [hall.rules_eq]
    intro other ho
    rcases List.mem_append.mp ho with ho|ho
    · exact (hσ.id_lt other ho).trans_le hall.nextId_le
    · exact List.mem_singleton.mp ho▸hlt
  · rw [hall.rules_eq,hall.operands_eq]
    intro operand ho
    rcases List.mem_append.mp ho with ho|ho
    · obtain ⟨old,hold,hid⟩ := hσ.owner operand ho
      exact ⟨old,List.mem_append_left _ hold,hid⟩
    · exact ⟨added,List.mem_append_right _ (List.mem_singleton_self _),(hown operand ho).1.symm⟩
  · rw [hall.operands_eq]
    intro operand ho
    rcases List.mem_append.mp ho with ho|ho
    · exact (hσ.present operand ho).later hall.toExtends
    · exact (hown operand ho).2
  · rw [hall.rules_eq,hall.operands_eq]
    intro other ho
    rcases List.mem_append.mp ho with ho|ho
    · refine (hσ.complete other ho).append fun operand hin => ?_
      rw [(hown operand hin).1]
      exact (hnew other ho).symm
    · rw [List.mem_singleton.mp ho]
      refine Complete.prepend (fun operand hin => ?_) hcomplete
      obtain ⟨old,hold,hid⟩ := hσ.owner operand hin
      exact hid▸hnew old hold

/-- All rows keep the rules closed, and register objects, edges and records as one step does. -/
theorem materializeRules_closed {parsed : ParsedConfig} {u : PUnit} (hσ : RulesClosed σ)
    (h : (materializeRules parsed).run σ=.ok (u,σ')) :
    RulesClosed σ' ∧ ∃ rules operands,Refers AnyKey rules operands σ σ' := by
  refine run_forM_invariant (P:=fun s => RulesClosed s ∧
    ∃ rules operands,Refers AnyKey rules operands σ s) (fun row _ s s' hs hr => ?_)
    ⟨hσ,[],[],Refers.refl _ _⟩ h
  obtain ⟨hclosed,rules,operands,hrefers⟩ := hs
  obtain ⟨added,more,hall,-⟩ := materializeRule_refers hr
  exact ⟨hclosed.materializeRule hr,_,_,hrefers.trans hall⟩

end Run

end NspMigrator.CiscoRuleReferences
