import Mathlib
import NspMigrator.CiscoRuleServices

/-!
# Rows in turn

Every row writes its rule and its operands over the objects of the rows before
it. What it wrote stays written: later rows have rules of their own, add
objects under free keys and touch no edge.
-/

namespace NspMigrator.CiscoRowRuns

open PyText PyWords PyDict PyExcept PyState PyRegistry CanonicalModels CiscoParsedConfig
open CiscoState CiscoAddresses CiscoServiceBuilders CiscoServices CiscoRules CiscoReferences
open CiscoRuleReferences CiscoServiceTargets CiscoRuleRows CiscoRuleServices CiscoNormalizer
open CiscoClosure

/-- The object an address reference leads to: the one under its key, or else a new one. -/
def AddressOf (σ : NormalizerState) (ref : String) (obj : CanonicalObject) : Prop :=
  ∃ fields,addressTarget refDescription ref σ=some fields ∧
    (σ.object? fields.objectKey=some obj ∨
      σ.object? fields.objectKey=none ∧ obj.value=fields)

/-- A state with an object under its key and all else as in another one. -/
def WithObject (σ τ : NormalizerState) (obj : CanonicalObject) : Prop :=
  ∀ key,τ.object? key=if key=obj.value.objectKey then some obj else σ.object? key

/-- The two address objects of a row. The destination is read with the source in place. -/
structure AddressesAt (σ ρ : NormalizerState) (rule : ParsedAccessRule)
    (src dst : CanonicalObject) : Prop where
  /-- The source is what its reference names in the state before the row. -/
  source : AddressOf σ rule.srcRef src
  /-- So is the destination, once the source is there. -/
  destination : ∃ τ,WithObject σ τ src ∧ AddressOf τ rule.dstRef dst
  /-- The source is still there in the end. -/
  source_object : ρ.object? src.value.objectKey=some src
  /-- So is the destination. -/
  destination_object : ρ.object? dst.value.objectKey=some dst

/-- The objects the operands of a rule in one slot refer to. -/
def targets (operands : List CanonicalRuleOperand) (ruleId : ℕ) (role : OperandRole) :
    List (Option ℕ) :=
  (slot operands ruleId role).map (·.targetObjectId)

variable [PyUnicode]

/-- The objects a row led to, as a later state has them. -/
def ServicesAt (σ ρ : NormalizerState) (rule : ParsedAccessRule) (ids : List ℕ) : Prop :=
  ∃ fields service,ruleTarget rule σ=.ok fields ∧ ρ.object? fields.objectKey=some service ∧
    (σ.object? fields.objectKey=some service ∨
      σ.object? fields.objectKey=none ∧ service.value=fields) ∧
    ServiceIds (outcomeOf ρ) rule service ids

/-- What a row wrote from one state, as a later state has it. -/
structure RowWritten (rule : ParsedAccessRule) (ruleKey : String) (written : CanonicalRule)
    (operands : List CanonicalRuleOperand) (σ ρ : NormalizerState) : Prop where
  /-- The rule has the key, action and order of the row. -/
  rule_eq : written=⟨written.id,ruleKey,ruleKey,rule.action,rule.enabled,rule.order,
    some rule.aclName,ruleText rule (isBlocked rule σ)⟩
  /-- Its operands belong to it. -/
  own : ∀ operand∈operands,operand.ruleId=written.id
  /-- It refers to the addresses of the row, one on each side. -/
  addresses : ∃ src dst,AddressesAt σ ρ rule src dst ∧
    targets operands written.id .srcObject=[some src.id] ∧
    targets operands written.id .dstObject=[some dst.id]
  /-- It refers to the services of the row. -/
  services : ∃ ids,ServicesAt σ ρ rule ids ∧ targets operands written.id .service=ids.map some

variable {P : ObjectFields → Prop} {σ σ' τ ρ ρ' : NormalizerState} {rule : ParsedAccessRule}
  {ruleKey : String} {written : CanonicalRule} {rules : List CanonicalRule}
  {operands operands' : List CanonicalRuleOperand}

section Later

omit [PyUnicode] in
theorem AddressesAt.writes {src dst : CanonicalObject} (h : AddressesAt σ ρ rule src dst)
    (hw : Writes P rules operands ρ ρ') : AddressesAt σ ρ' rule src dst where
  source := h.source
  destination := h.destination
  source_object := hw.object?_eq h.source_object
  destination_object := hw.object?_eq h.destination_object

theorem ServicesAt.writes {ids : List ℕ} (h : ServicesAt σ ρ rule ids)
    (hw : Writes P rules operands ρ ρ')
    (hknown : ∀ member∈ρ.objectMembers,Known ρ member.childObjectId) :
    ServicesAt σ ρ' rule ids := by
  obtain ⟨fields,service,htarget,hobj,horigin,hids⟩ := h
  exact ⟨fields,service,htarget,hw.object?_eq hobj,horigin,hids.writes hw hknown⟩

/-- What a row wrote stays written while other rows are. -/
theorem RowWritten.writes (h : RowWritten rule ruleKey written operands σ ρ)
    (hw : Writes P rules operands' ρ ρ')
    (hknown : ∀ member∈ρ.objectMembers,Known ρ member.childObjectId) :
    RowWritten rule ruleKey written operands σ ρ' where
  rule_eq := h.rule_eq
  own := h.own
  addresses := by
    obtain ⟨src,dst,haddresses,htargets⟩ := h.addresses
    exact ⟨src,dst,haddresses.writes hw,htargets⟩
  services := h.services.imp fun _ hids => ⟨hids.1.writes hw hknown,hids.2⟩

end Later

section Lookups

omit [PyUnicode] in
/-- What a state has under its keys decides what an address reference leads to. -/
theorem AddressOf.congr (h : ∀ key,τ.object? key=σ.object? key) {ref : String}
    {obj : CanonicalObject} (hobj : AddressOf τ ref obj) : AddressOf σ ref obj := by
  obtain ⟨fields,htarget,hcases⟩ := hobj
  refine ⟨fields,?_,?_⟩
  · rw [←htarget]
    simp only [addressTarget,h]
  · rwa [h] at hcases

omit [PyUnicode] in
theorem WithObject.congr (h : ∀ key,τ.object? key=σ.object? key) {obj : CanonicalObject}
    (hwith : WithObject τ ρ obj) : WithObject σ ρ obj := by
  intro key
  rw [hwith key,h]

omit [PyUnicode] in
/-- A reference that is resolved leads to the object it was resolved to. -/
theorem addressOf_of_resolves {ref : String} {fields : ObjectFields} {id : ℕ}
    (htarget : addressTarget refDescription ref σ=some fields) (hres : Resolves σ σ' fields id) :
    ∃ obj,AddressOf σ ref obj ∧ obj.id=id ∧ obj.value.objectKey=fields.objectKey ∧
      σ'.object? obj.value.objectKey=some obj := by
  obtain ⟨obj,hobj,hid,hcases⟩ := hres
  have hkey := σ'.registry.key_eq _ obj hobj
  exact ⟨obj,⟨fields,htarget,hcases⟩,hid,hkey,hkey▸hobj⟩

omit [PyUnicode] in
/-- A step that adds no object but one leaves the state with this object. -/
theorem withObject_of_adds {fields : ObjectFields} {obj : CanonicalObject}
    (hadd : Adds (fun made => made=fields ∧ AddressLiteral made) σ σ')
    (hkey : obj.value.objectKey=fields.objectKey)
    (hobj : σ'.object? obj.value.objectKey=some obj) : WithObject σ σ' obj := by
  intro key
  by_cases hk : key=obj.value.objectKey
  · rw [if_pos hk,hk]
    exact hobj
  · rw [if_neg hk]
    refine (writes_of_adds hadd).object?_of_not fun made hmade heq => hk ?_
    rw [hkey,←hmade.1]
    exact heq.symm

omit [PyUnicode] in
/-- What a state has under the keys of services decides what a text names. -/
theorem namedService_congr (h : ∀ name,τ.object? ("service:"++name)=σ.object? ("service:"++name))
    (ref : Option String) : namedService ref τ=namedService ref σ := by
  rw [namedService,namedService]
  exact Option.bind_congr fun name _ => h name

/-- What a state has under the keys of services decides what a row leads to. -/
theorem ruleTarget_congr (h : ∀ name,τ.object? ("service:"++name)=σ.object? ("service:"++name))
    (rule : ParsedAccessRule) : ruleTarget rule τ=ruleTarget rule σ := by
  have hnamed := namedService_congr h
  have href : ∀ protocol ref,refTarget protocol ref τ=refTarget protocol ref σ := by
    intro protocol ref
    unfold refTarget
    cases ref.filter fun ref => decide (ref≠"" ∧ ref≠"any") with
    | none => rfl
    | some name => simp only [h name]
  have hlent : lentProtocol rule τ=lentProtocol rule σ := by
    rw [lentProtocol,lentProtocol,hnamed]
  simp only [ruleTarget,href,hlent,hnamed]

omit [PyUnicode] in
/-- Objects made for addresses leave the keys of services alone. -/
theorem object?_service (h : Writes AddressLiteral rules operands σ τ) (name : String) :
    τ.object? ("service:"++name)=σ.object? ("service:"++name) := by
  refine h.object?_of_not fun fields hf hkey => ?_
  have haddr := addressKey_of_literal hf
  rw [hkey] at haddr
  exact not_addressKey_service name haddr

/-- Objects made for addresses leave what a row leads to alone. -/
theorem ServicesAt.earlier (hw : Writes AddressLiteral rules operands σ τ) {ids : List ℕ}
    (h : ServicesAt τ ρ rule ids) : ServicesAt σ ρ rule ids := by
  obtain ⟨fields,service,htarget,hobj,horigin,hids⟩ := h
  refine ⟨fields,service,(ruleTarget_congr (object?_service hw) rule).symm.trans htarget,hobj,?_,
    hids⟩
  obtain ⟨name,hkey⟩ := key_of_ruleTarget htarget
  rwa [hkey,object?_service hw name,←hkey] at horigin

end Lookups

section Row

omit [PyUnicode] in
/-- The operands of a row fall apart into its slots. -/
theorem targets_operands (src dst : CanonicalRuleOperand)
    {srcZones dstZones services : List CanonicalRuleOperand} {ruleId srcId dstId : ℕ}
    {ids : List ℕ}
    (hsrcZones : ∀ operand∈srcZones,operand.ruleId=ruleId ∧ operand.operandRole=.srcZone)
    (hdstZones : ∀ operand∈dstZones,operand.ruleId=ruleId ∧ operand.operandRole=.dstZone)
    (hsrc : src.ruleId=ruleId ∧ src.operandRole=.srcObject ∧ src.targetObjectId=some srcId)
    (hdst : dst.ruleId=ruleId ∧ dst.operandRole=.dstObject ∧ dst.targetObjectId=some dstId)
    (hservices : OperandsOf ruleId .service ids services) :
    targets (srcZones++dstZones++[src]++[dst]++services) ruleId .srcObject=[some srcId] ∧
      targets (srcZones++dstZones++[src]++[dst]++services) ruleId .dstObject=[some dstId] ∧
      targets (srcZones++dstZones++[src]++[dst]++services) ruleId .service=ids.map some ∧
      ∀ operand∈srcZones++dstZones++[src]++[dst]++services,operand.ruleId=ruleId := by
  have hother : ∀ {operands : List CanonicalRuleOperand} {other role : OperandRole},other≠role →
      (∀ operand∈operands,operand.ruleId=ruleId ∧ operand.operandRole=other) →
      slot operands ruleId role=[] := by
    intro operands other role hne hown
    refine List.filter_eq_nil_iff.mpr fun operand ho hin => ?_
    exact hne ((hown operand ho).2.symm.trans (of_decide_eq_true hin).2)
  have hsrc' : ∀ operand∈[src],operand.ruleId=ruleId ∧ operand.operandRole=.srcObject :=
    fun operand ho => List.mem_singleton.mp ho▸⟨hsrc.1,hsrc.2.1⟩
  have hdst' : ∀ operand∈[dst],operand.ruleId=ruleId ∧ operand.operandRole=.dstObject :=
    fun operand ho => List.mem_singleton.mp ho▸⟨hdst.1,hdst.2.1⟩
  have hself : ∀ {operands : List CanonicalRuleOperand} {role : OperandRole},
      (∀ operand∈operands,operand.ruleId=ruleId ∧ operand.operandRole=role) →
      slot operands ruleId role=operands :=
    fun hown => List.filter_eq_self.mpr fun operand ho => decide_eq_true (hown operand ho)
  simp only [targets,slot_append]
  refine ⟨?_,?_,?_,fun operand ho => ?_⟩
  · rw [hother (by decide) hsrcZones,hother (by decide) hdstZones,hself hsrc',
      hother (by decide) hdst',hother (by decide) hservices.own]
    simp only [List.nil_append,List.append_nil,List.map_cons,List.map_nil,hsrc.2.2]
  · rw [hother (by decide) hsrcZones,hother (by decide) hdstZones,hother (by decide) hsrc',
      hself hdst',hother (by decide) hservices.own]
    simp only [List.nil_append,List.append_nil,List.map_cons,List.map_nil,hdst.2.2]
  · rw [hother (by decide) hsrcZones,hother (by decide) hdstZones,hother (by decide) hsrc',
      hother (by decide) hdst',hself hservices.own]
    simp only [List.nil_append,hservices.targets]
  · simp only [List.mem_append] at ho
    rcases ho with (((ho|ho)|ho)|ho)|ho
    · exact (hsrcZones operand ho).1
    · exact (hdstZones operand ho).1
    · exact (hsrc' operand ho).1
    · exact (hdst' operand ho).1
    · exact (hservices.own operand ho).1

/-- A row writes its rule with its operands. -/
theorem materializeRule_written {u : PUnit}
    (hknown : ∀ member∈σ.objectMembers,Known σ member.childObjectId)
    (h : (materializeRule rule ruleKey).run σ=.ok (u,σ')) :
    ∃ written operands,Writes (fun _ => True) [written] operands σ σ' ∧
      RowWritten rule ruleKey written operands σ σ' := by
  obtain ⟨⟨⟩,τ₁,husage,h⟩ := run_bind_eq_ok.mp h
  obtain ⟨⟨⟩,τ₂,hduplicate,h⟩ := run_bind_eq_ok.mp h
  obtain ⟨blocked,τ₃,hvalid,h⟩ := run_bind_eq_ok.mp h
  obtain ⟨⟨⟩,τ₄,hblocker,h⟩ := run_bind_eq_ok.mp h
  obtain ⟨written,τ₅,hcreate,h⟩ := run_bind_eq_ok.mp h
  obtain ⟨⟨⟩,τ₆,hzones,h⟩ := run_bind_eq_ok.mp h
  obtain ⟨⟨⟩,τ₇,haddrs,h⟩ := run_bind_eq_ok.mp h
  obtain ⟨ids,τ₈,hservices,hoperands⟩ := run_bind_eq_ok.mp h
  -- before the rule only issues are written
  have hissues : Writes (fun _ => False) [] [] σ τ₂ :=
    (emitRuleUsageIssues_writes husage).trans (emitTextualDuplicateIssue_writes hduplicate)
  obtain ⟨hvalidated,rfl⟩ := validateProtocolOperand_spec (P:=fun _ => False) hvalid
  have hblocked : Writes (fun _ => False) [] [] τ₃ τ₄ :=
    modify_writes hblocker { Writes.refl (fun _ => False) τ₃ with }
  have hsame : isBlocked rule τ₂=isBlocked rule σ := by
    unfold isBlocked
    rw [namedService_congr fun name => hissues.object?_of_not fun _ hfalse => hfalse.elim]
  obtain ⟨hcreated,hrule⟩ := createRuleWithTrace_writes (P:=fun _ => False) hcreate
  rw [hsame] at hrule
  obtain ⟨⟨⟩,τ₅',hsrcZone,hdstZone⟩ := run_bind_eq_ok.mp hzones
  obtain ⟨srcZones,hsrcZone,hsrcOwn⟩ := addZoneOperand_writes (P:=fun _ => False) hsrcZone
  obtain ⟨dstZones,hdstZone,hdstOwn⟩ := addZoneOperand_writes (P:=fun _ => False) hdstZone
  have hwithout := (((hissues.trans hvalidated).trans hblocked).trans hcreated).trans
    (hsrcZone.trans hdstZone)
  have hunchanged : ∀ key,τ₆.object? key=σ.object? key :=
    fun key => hwithout.object?_of_not fun _ hfalse => hfalse.elim
  have hearlier := hwithout.mono (Q:=AddressLiteral) fun _ hfalse => hfalse.elim
  -- the two addresses
  obtain ⟨srcId,τ₆',hsrc,haddrs⟩ := run_bind_eq_ok.mp haddrs
  obtain ⟨srcFields,hsrcTarget,hsrcAdd,hsrcRes⟩ := ensureAddrObjectFromRef_spec hsrc
  obtain ⟨dstId,τ₆'',hdst,haddrs⟩ := run_bind_eq_ok.mp haddrs
  obtain ⟨dstFields,hdstTarget,hdstAdd,hdstRes⟩ := ensureAddrObjectFromRef_spec hdst
  obtain ⟨⟨⟩,τ₆₃,hsrcOp,hdstOp⟩ := run_bind_eq_ok.mp haddrs
  obtain ⟨srcOpId,hsrcOp⟩ := addOperand_writes (P:=AddressLiteral) hsrcOp
  obtain ⟨dstOpId,hdstOp⟩ := addOperand_writes (P:=AddressLiteral) hdstOp
  obtain ⟨src,hsrcOf,rfl,hsrcKey,hsrcObj⟩ := addressOf_of_resolves hsrcTarget hsrcRes
  obtain ⟨dst,hdstOf,rfl,hdstKey,hdstObj⟩ := addressOf_of_resolves hdstTarget hdstRes
  have hwith := (withObject_of_adds hsrcAdd hsrcKey hsrcObj).congr hunchanged
  have hsrcWrites := (writes_of_adds hsrcAdd).mono (Q:=AddressLiteral) fun _ hmade => hmade.2
  have hdstWrites := (writes_of_adds hdstAdd).mono (Q:=AddressLiteral) fun _ hmade => hmade.2
  have haddresses := (hsrcWrites.trans hdstWrites).trans (hsrcOp.trans hdstOp)
  have hbefore := hearlier.trans haddresses
  -- the services
  have hknown' : ∀ member∈τ₇.objectMembers,Known τ₇ member.childObjectId := by
    intro member hm
    rw [hbefore.members_eq] at hm
    exact (hknown member hm).later hbefore.later
  obtain ⟨hensured,fields,service,htarget,hobj,horigin,hids⟩ :=
    ensureServicesForRule_spec hknown' hservices
  have hat : ServicesAt τ₇ τ₈ rule ids := ⟨fields,service,htarget,hobj,horigin,hids⟩
  have hknown'' : ∀ member∈τ₈.objectMembers,Known τ₈ member.childObjectId := by
    intro member hm
    rw [hensured.members_eq] at hm
    exact (hknown' member hm).later hensured.later
  obtain ⟨services,hadds,hof⟩ := appendServiceOperands_writes (P:=fun _ => True) hoperands
  have hall := (hbefore.mono (Q:=fun _ => True) fun _ _ => trivial).trans (hensured.trans hadds)
  have hlast := hensured.trans hadds
  obtain ⟨hsrcTargets,hdstTargets,hserviceTargets,hown⟩ := targets_operands
    ⟨srcOpId,written.id,.srcObject,none,some src.id,0⟩
    ⟨dstOpId,written.id,.dstObject,none,some dst.id,0⟩ hsrcOwn hdstOwn ⟨rfl,rfl,rfl⟩
    ⟨rfl,rfl,rfl⟩ hof
  simp only [List.nil_append,List.append_nil,List.append_assoc,List.singleton_append] at hall
  simp only [List.append_assoc,List.singleton_append]
    at hsrcTargets hdstTargets hserviceTargets hown
  have hrest := (hsrcOp.trans hdstOp).later.trans hlast.later
  refine ⟨written,_,hall,hrule,hown,⟨src,dst,⟨hsrcOf.congr hunchanged,⟨τ₆',hwith,hdstOf⟩,?_,?_⟩,
    hsrcTargets,hdstTargets⟩,ids,?_,hserviceTargets⟩
  · exact hrest.get?_eq _ _ (hdstWrites.object?_eq hsrcObj)
  · exact hrest.get?_eq _ _ hdstObj
  · exact (hat.writes hadds hknown'').earlier hbefore

end Row

section Run

/-- The work on one row with its key. -/
def rowStep (row : ParsedAccessRule × String) : Normalizing PUnit := materializeRule row.1 row.2

/-- The rules that were written with what each row wrote, from the state the rows before it left. -/
structure RowsWritten (start : NormalizerState) (rows : List (ParsedAccessRule × String))
    (made : List (CanonicalRule × List CanonicalRuleOperand)) (ρ : NormalizerState) : Prop where
  /-- All rows were worked off. -/
  run : (forM rows rowStep).run start=.ok (⟨⟩,ρ)
  /-- The rules are those that were made. -/
  rules_eq : ρ.rules=made.map Prod.fst
  /-- So are the operands. -/
  operands_eq : ρ.operands=made.flatMap Prod.snd
  /-- One rule was made for each row. -/
  length_eq : made.length=rows.length
  /-- Each was written in the state left by the rows before it. -/
  written : ∀ i row,rows[i]?=some row → ∃ entry σ,made[i]?=some entry ∧
    (forM (rows.take i) rowStep).run start=.ok (⟨⟩,σ) ∧ RowWritten row.1 row.2 entry.1 entry.2 σ ρ
  /-- Objects keep their keys and numbers. -/
  later : Registry.Later start.registry ρ.registry
  /-- Issues are only appended. -/
  issues : start.issues<+:ρ.issues
  /-- Edges stay as they are. -/
  members_eq : ρ.objectMembers=start.objectMembers

/-- Rows are written one after the other. -/
theorem materializeRules_written {parsed : ParsedConfig} {u : PUnit} (hrules : σ.rules=[])
    (hoperands : σ.operands=[])
    (hknown : ∀ member∈σ.objectMembers,Known σ member.childObjectId)
    (h : (materializeRules parsed).run σ=.ok (u,σ')) :
    ∃ made,RowsWritten σ (parsed.rules.zip (ruleKeys Dict.empty parsed.rules)) made σ' := by
  refine run_forM_done (R:=fun done s => ∃ made,RowsWritten σ done made s) ?_ ⟨[],?_⟩ h
  · rintro done ⟨rule,ruleKey⟩ rest - s s' ⟨made,hs⟩ hr
    have hknown' : ∀ member∈s.objectMembers,Known s member.childObjectId := by
      intro member hm
      rw [hs.members_eq] at hm
      exact (hknown member hm).later hs.later
    obtain ⟨written,operands,hw,hrow⟩ := materializeRule_written hknown' hr
    refine ⟨made++[(written,operands)],?_,?_,?_,?_,?_,hs.later.trans hw.later,
      hs.issues.trans hw.issues,hw.members_eq.trans hs.members_eq⟩
    · exact run_forM_append.mpr ⟨s,hs.run,run_forM_cons.mpr ⟨s',hr,run_forM_nil.mpr rfl⟩⟩
    · rw [hw.rules_eq,hs.rules_eq,List.map_append]
      rfl
    · rw [hw.operands_eq,hs.operands_eq,List.flatMap_append,List.flatMap_singleton]
    · rw [List.length_append,List.length_append,hs.length_eq]
      rfl
    · intro i row hi
      rcases Nat.lt_or_ge i done.length with hlt|hge
      · -- an earlier row keeps what it wrote
        rw [List.getElem?_append_left hlt] at hi
        obtain ⟨entry,σ₀,hentry,hrun,hold⟩ := hs.written i row hi
        refine ⟨entry,σ₀,?_,?_,hold.writes hw hknown'⟩
        · rw [List.getElem?_append_left (hs.length_eq▸hlt)]
          exact hentry
        · rw [List.take_append_of_le_length hlt.le]
          exact hrun
      · -- the last row starts where the others ended
        have hlt : i<(done++[(rule,ruleKey)]).length := (List.getElem?_eq_some_iff.mp hi).1
        rw [List.length_append,List.length_singleton] at hlt
        have hlast : i=done.length := by omega
        subst hlast
        rw [List.getElem?_concat_length] at hi
        obtain rfl := Option.some.inj hi
        refine ⟨(written,operands),s,?_,?_,hrow⟩
        · rw [←hs.length_eq]
          exact List.getElem?_concat_length
        · rw [List.take_left]
          exact hs.run
  · refine ⟨run_forM_nil.mpr rfl,hrules,hoperands,rfl,?_,Registry.Later.refl _,
      List.prefix_refl _,rfl⟩
    intro i row hi
    cases hi

omit [PyUnicode] in
/-- The slots of a rule among all operands are its own. -/
theorem targets_flatMap {made : List (CanonicalRule × List CanonicalRuleOperand)}
    (hown : ∀ entry∈made,∀ operand∈entry.2,operand.ruleId=entry.1.id)
    (hnodup : (made.map fun entry => entry.1.id).Nodup)
    {entry : CanonicalRule × List CanonicalRuleOperand} (he : entry∈made) (role : OperandRole) :
    targets (made.flatMap Prod.snd) entry.1.id role=targets entry.2 entry.1.id role := by
  induction made with
  | nil => exact absurd he List.not_mem_nil
  | cons first rest ih =>
    rw [List.map_cons,List.nodup_cons] at hnodup
    have hrest : ∀ other∈rest,∀ operand∈other.2,operand.ruleId=other.1.id :=
      fun other ho => hown other (List.mem_cons_of_mem _ ho)
    rw [List.flatMap_cons,targets,slot_append,List.map_append]
    rcases List.mem_cons.mp he with rfl|he
    · have hnone : slot (rest.flatMap Prod.snd) entry.1.id role=[] := by
        refine slot_eq_nil_of_rule fun operand ho heq => ?_
        obtain ⟨other,hother,hin⟩ := List.mem_flatMap.mp ho
        refine hnodup.1 (List.mem_map.mpr ⟨other,hother,?_⟩)
        rw [←heq,hrest other hother operand hin]
      rw [hnone,List.map_nil,List.append_nil,targets]
    · have hnone : slot first.2 entry.1.id role=[] := by
        refine slot_eq_nil_of_rule fun operand ho heq => ?_
        rw [hown first List.mem_cons_self operand ho] at heq
        exact hnodup.1 (List.mem_map.mpr ⟨entry,he,heq.symm⟩)
      rw [hnone,List.map_nil,List.nil_append]
      exact ih hrest hnodup.2 he

end Run

end NspMigrator.CiscoRowRuns
