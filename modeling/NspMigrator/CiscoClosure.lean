import Mathlib
import NspMigrator.CiscoNormalizer
import NspMigrator.CiscoRuleReferences

/-!
# Closed outcomes

An outcome is closed when everything it refers to is in it. The records of
headers can break this: a header whose key is taken is discarded, and its
record keeps the number that was given to the discarded object. This is the
only way, so an outcome is closed exactly when no traced header repeats the
name of a sentinel or of an earlier header.
-/

namespace NspMigrator.CiscoClosure

open PyText PyDict PyExcept PyState PyRegistry CanonicalModels CiscoParsedConfig
open CiscoState CiscoAddresses CiscoServiceBuilders CiscoServices CiscoRules CiscoReferences
open CiscoRuleReferences CiscoNormalizer

/-- The outcome has an object with the number. -/
def HasObject (outcome : NormalizeOutcome) (id : ℕ) : Prop := ∃ obj∈outcome.objects,obj.id=id

instance (outcome : NormalizeOutcome) (id : ℕ) : Decidable (HasObject outcome id) :=
  inferInstanceAs (Decidable (∃ obj∈outcome.objects,obj.id=id))

/-- The rule, the object and the zone of an operand are in the outcome. -/
structure OperandClosed (outcome : NormalizeOutcome) (operand : CanonicalRuleOperand) : Prop where
  /-- Its rule is in the outcome. -/
  rule : ∃ rule∈outcome.rules,rule.id=operand.ruleId
  /-- So is the object it refers to. -/
  object : ∀ id,operand.targetObjectId=some id → HasObject outcome id
  /-- So is the zone. -/
  zone : ∀ id,operand.targetZoneId=some id → ∃ zone∈outcome.zones,zone.id=id

/-- Objects of different keys and numbers, and nothing refers to what is not in the outcome. Every
rule has one source, one destination, and a service. -/
structure Closed (outcome : NormalizeOutcome) : Prop where
  /-- No two objects have one key. -/
  keys_nodup : (outcome.objects.map (·.value.objectKey)).Nodup
  /-- No two objects have one number. -/
  ids_nodup : (outcome.objects.map (·.id)).Nodup
  /-- Operands refer to what is there. -/
  operands : ∀ operand∈outcome.operands,OperandClosed outcome operand
  /-- So do the edges of groups. -/
  members : ∀ member∈outcome.objectMembers,
    HasObject outcome member.parentObjectId ∧ HasObject outcome member.childObjectId
  /-- So do the records of objects. -/
  traces : ∀ record∈outcome.traceRecords,record.canonicalKind=.object →
    HasObject outcome record.canonicalId
  /-- Every rule has a source, a destination and a service. -/
  rules : ∀ rule∈outcome.rules,Complete outcome.operands rule.id

/-- Headers, each with its line, none of which is traced under a name that is taken by then. -/
def Unclaimed (taken : List String) : List (String × ℕ) → Prop
  | [] => True
  | (name,line)::rest => (1≤line → name∉taken) ∧ Unclaimed (name::taken) rest

instance decidableUnclaimed (taken : List String) :
    (headers : List (String × ℕ)) → Decidable (Unclaimed taken headers)
  | [] => .isTrue trivial
  | (name,line)::rest =>
    have := decidableUnclaimed (name::taken) rest
    inferInstanceAs (Decidable ((1≤line → name∉taken) ∧ Unclaimed (name::taken) rest))

/-- The names of the address headers with their lines. -/
def addressHeaders (parsed : ParsedConfig) : List (String × ℕ) :=
  parsed.addressObjects.map fun item => (item.name,item.sourceLine)

/-- The names of the service headers with their lines. -/
def serviceHeaders (parsed : ParsedConfig) : List (String × ℕ) :=
  parsed.serviceObjects.map fun item => (item.name,item.sourceLine)

variable {K : String → Prop} {σ σ' : NormalizerState} {rules : List CanonicalRule}
  {operands : List CanonicalRuleOperand}

section States

/-- Every object that is recorded is registered. -/
def Traced (σ : NormalizerState) : Prop :=
  ∀ record∈σ.traceRecords,record.canonicalKind=.object → Known σ record.canonicalId

/-- What holds of a state whatever its headers are called. -/
structure Sound (σ : NormalizerState) : Prop where
  /-- Edges lead from known to known objects. -/
  members : ∀ member∈σ.objectMembers,Known σ member.parentObjectId ∧ Known σ member.childObjectId
  /-- Rules and operands belong together. -/
  rules : RulesClosed σ
  /-- Records have numbers that were given. -/
  traces_lt : ∀ record∈σ.traceRecords,record.canonicalKind=.object →
    record.canonicalId<σ.registry.nextId

theorem known_lt {id : ℕ} (h : Known σ id) : id<σ.registry.nextId := by
  obtain ⟨obj,hobj⟩ := h
  obtain ⟨hkey,rfl⟩ := Registry.find?_eq_some.mp hobj
  exact σ.registry.id_lt _ obj hkey

/-- A number that was given to no registered object stays so. -/
theorem known_iff (h : Extends K rules operands σ σ') {id : ℕ} (hlt : id<σ.registry.nextId) :
    Known σ' id ↔ Known σ id := by
  refine ⟨fun hknown => ?_,fun hknown => hknown.later h.later⟩
  obtain ⟨obj,hobj⟩ := hknown
  obtain ⟨hkey,rfl⟩ := Registry.find?_eq_some.mp hobj
  rcases h.fresh _ obj hkey with hold|⟨-,hle⟩
  · exact known_of_object? hold
  · omega

theorem Sound.members_extends (hσ : Sound σ) (h : Extends K rules operands σ σ') :
    ∀ member∈σ'.objectMembers,Known σ' member.parentObjectId ∧ Known σ' member.childObjectId := by
  intro member hm
  rcases h.members member hm with hm|hm
  · have hold := hσ.members member hm
    exact ⟨hold.1.later h.later,hold.2.later h.later⟩
  · exact hm

/-- A step that records registered objects only leaves the records as good as they were. -/
theorem Sound.traced_iff (hσ : Sound σ) (h : Refers K rules operands σ σ') :
    Traced σ' ↔ Traced σ := by
  obtain ⟨added,heq,hadded⟩ := h.traces
  constructor
  · intro htraced record hr hk
    rw [←known_iff h.toExtends (hσ.traces_lt record hr hk)]
    exact htraced record (heq▸List.mem_append_left _ hr) hk
  · intro htraced record hr hk
    rw [heq] at hr
    rcases List.mem_append.mp hr with hr|hr
    · exact (htraced record hr hk).later h.later
    · exact hadded record hr hk

theorem Sound.traces_refers (hσ : Sound σ) (h : Refers K rules operands σ σ') :
    ∀ record∈σ'.traceRecords,record.canonicalKind=.object →
      record.canonicalId<σ'.registry.nextId := by
  obtain ⟨added,heq,hadded⟩ := h.traces
  intro record hr hk
  rw [heq] at hr
  rcases List.mem_append.mp hr with hr|hr
  · exact (hσ.traces_lt record hr hk).trans_le h.later.nextId_le
  · exact known_lt (hadded record hr hk)

/-- A quiet step keeps a state sound. -/
theorem Sound.quiet (hσ : Sound σ) (h : Quiet K σ σ') : Sound σ' :=
  ⟨hσ.members_extends h.toExtends,hσ.rules.extends h.toExtends,hσ.traces_refers h⟩

end States

section Headers

/-- The header of a key on a line: registered if the key is free, and recorded in any case under
the number that was given to it. -/
structure Header (key : String) (line : ℕ) (σ σ' : NormalizerState) : Prop extends
    Extends (·=key) [] [] σ σ' where
  /-- An object stands under the key. -/
  taken : (σ'.object? key).isSome=true
  /-- The created object is kept exactly when the key was free. -/
  known : Known σ' σ.registry.nextId ↔ σ.object? key=none
  /-- It was given a number either way. -/
  issued : σ.registry.nextId<σ'.registry.nextId
  /-- Its record names the created object, kept or not, if it has a line. -/
  traces : ∃ added,σ'.traceRecords=σ.traceRecords++added ∧ (1≤line ↔ added≠[]) ∧
    ∀ record∈added,record.canonicalKind=.object ∧ record.canonicalId=σ.registry.nextId

/-- A record of an object on a line. -/
theorem emitTrace_added {lineStart lineEnd canonicalId : ℕ}
    {sourceFragment canonicalRole note : Option String} {u : PUnit}
    (h : (emitTrace lineStart lineEnd .object canonicalId sourceFragment canonicalRole note).run
      σ=.ok (u,σ')) :
    ∃ added,σ'.traceRecords=σ.traceRecords++added ∧ (1≤lineStart ↔ added≠[]) ∧
      ∀ record∈added,record.canonicalKind=.object ∧ record.canonicalId=canonicalId := by
  unfold emitTrace at h
  split at h
  · next hs =>
    split at h
    · obtain ⟨id,τ,hid,hmod⟩ := run_bind_eq_ok.mp h
      obtain ⟨-,rfl⟩ := freshId_spec hid
      rw [←run_modify_eq_ok.mp hmod]
      refine ⟨_,rfl,iff_of_true hs (List.cons_ne_nil _ _),fun record hr => ?_⟩
      rw [List.mem_singleton.mp hr]
      exact ⟨rfl,rfl⟩
    · exact absurd h run_throw_eq_ok
  · next hs =>
    obtain ⟨-,rfl⟩ := run_pure_eq_ok.mp h
    exact ⟨[],(List.append_nil _).symm,iff_of_false hs (fun hne => hne rfl),
      fun _ hr => absurd hr List.not_mem_nil⟩

/-- A record extends a state by nothing. -/
theorem extends_of_silent (h : Silent σ σ') : Extends K [] [] σ σ' where
  later := h.registry_eq▸Registry.Later.refl _
  fresh key obj ho := Or.inl (h.object?_eq key▸ho)
  zones key zone hz := by rw [h.zones_eq,hz]
  members member hm := Or.inl (h.members_eq▸hm)
  rules_eq := by rw [h.rules_eq,List.append_nil]
  operands_eq := by rw [h.operands_eq,List.append_nil]
  nextId_le := h.nextId_le

/-- Registering an object and recording the number it was given. -/
theorem header_of_run {fields : ObjectFields} {lineStart lineEnd : ℕ}
    {sourceFragment canonicalRole note : Option String} {u : PUnit}
    (h : (do
      let (_,created) ← register fields
      emitTrace lineStart lineEnd .object created sourceFragment canonicalRole note :
        Normalizing PUnit).run σ=.ok (u,σ')) : Header fields.objectKey lineStart σ σ' := by
  obtain ⟨⟨obj,created⟩,τ,hreg,htrace⟩ := run_bind_eq_ok.mp h
  obtain ⟨hquiet,-,hfree⟩ := register_quiet (K:=(·=fields.objectKey)) rfl hreg
  obtain ⟨-,hobj,hcases⟩ := register_spec (P:=fun _ => True) hreg trivial
  obtain ⟨hpair,hτ⟩ := Prod.mk.inj (run_modifyGet_eq_ok.mp hreg)
  have hcreated : created=σ.registry.nextId := (Prod.mk.inj hpair).2.symm
  have hnext : τ.registry.nextId=σ.registry.nextId+1 := by
    rw [←hτ]
    exact Registry.nextId_register _ _
  have hsilent := emitTrace_spec htrace
  have hregistry : σ'.registry=τ.registry := hsilent.registry_eq
  have htraces : τ.traceRecords=σ.traceRecords := by rw [←hτ]
  have hextends : Extends (·=fields.objectKey) [] [] σ σ' :=
    hquiet.toExtends.trans (extends_of_silent hsilent)
  refine ⟨hextends,?_,?_,?_,?_⟩
  · rw [hsilent.object?_eq,hobj]
    rfl
  · constructor
    · rintro ⟨found,hfound⟩
      obtain ⟨hfound,hid⟩ := Registry.find?_eq_some.mp hfound
      rcases hcases with hold|⟨hnone,-⟩
      · -- every registered object is older than the number that was used up
        have hlt : ∀ other old,σ.object? other=some old → old.id≠σ.registry.nextId :=
          fun other old ho => (σ.registry.id_lt other old ho).ne
        rcases hextends.fresh _ found hfound with ho|⟨hkey,-⟩
        · exact absurd hid (hlt _ found ho)
        · have hstill := hextends.later.get?_eq _ obj hold
          rw [hkey] at hfound
          cases hfound.symm.trans hstill
          exact absurd hid (hlt _ obj hold)
      · exact hnone
    · intro hnone
      rw [←hcreated,←hfree hnone]
      exact (known_of_object? hobj).later (extends_of_silent (K:=AnyKey) hsilent).later
  · rw [hregistry,hnext]
    exact Nat.lt_succ_self _
  · obtain ⟨added,heq,hline,hadded⟩ := emitTrace_added htrace
    rw [htraces] at heq
    rw [hcreated] at hadded
    exact ⟨added,heq,hline,hadded⟩

/-- A header keeps a state sound. -/
theorem Header.sound {key : String} {line : ℕ} (h : Header key line σ σ') (hσ : Sound σ) :
    Sound σ' := by
  refine ⟨hσ.members_extends h.toExtends,hσ.rules.extends h.toExtends,fun record hr hk => ?_⟩
  obtain ⟨added,heq,-,hadded⟩ := h.traces
  rw [heq] at hr
  rcases List.mem_append.mp hr with hr|hr
  · exact (hσ.traces_lt record hr hk).trans_le h.later.nextId_le
  · rw [(hadded record hr).2]
    exact h.issued

/-- A header leaves the records as good as they were unless it is traced under a taken key. -/
theorem Header.traced_iff {key : String} {line : ℕ} (h : Header key line σ σ') (hσ : Sound σ) :
    Traced σ' ↔ (1≤line → σ.object? key=none) ∧ Traced σ := by
  obtain ⟨added,heq,hline,hadded⟩ := h.traces
  constructor
  · intro htraced
    constructor
    · intro hpos
      obtain ⟨record,hr⟩ := List.exists_mem_of_ne_nil added (hline.mp hpos)
      have hknown := htraced record (heq▸List.mem_append_right _ hr) (hadded record hr).1
      rw [(hadded record hr).2] at hknown
      exact h.known.mp hknown
    · intro record hr hk
      rw [←known_iff h.toExtends (hσ.traces_lt record hr hk)]
      exact htraced record (heq▸List.mem_append_left _ hr) hk
  · rintro ⟨hfree,htraced⟩ record hr hk
    rw [heq] at hr
    rcases List.mem_append.mp hr with hr|hr
    · exact (htraced record hr hk).later h.later
    · rw [(hadded record hr).2]
      exact h.known.mpr (hfree (hline.mpr (List.ne_nil_of_mem hr)))

/-- Exactly the names of a list are taken under a prefix. -/
def Taken (σ : NormalizerState) (pre : String) (taken : List String) : Prop :=
  ∀ name,(σ.object? (pre++name)).isSome=true ↔ name∈taken

/-- The header of a name takes the name. -/
theorem Taken.cons {pre name : String} {taken : List String} (hσ : Taken σ pre taken)
    (h : Extends (·=pre++name) [] [] σ σ') (hsome : (σ'.object? (pre++name)).isSome=true) :
    Taken σ' pre (name::taken) := by
  intro other
  rw [List.mem_cons]
  constructor
  · intro hother
    obtain ⟨obj,hobj⟩ := Option.isSome_iff_exists.mp hother
    rcases h.fresh _ obj hobj with hold|⟨hkey,-⟩
    · exact Or.inr ((hσ other).mp (Option.isSome_iff_exists.mpr ⟨obj,hold⟩))
    · exact Or.inl ((String.append_right_inj pre).mp hkey)
  · rintro (rfl|hin)
    · exact hsome
    · obtain ⟨obj,hobj⟩ := Option.isSome_iff_exists.mp ((hσ other).mpr hin)
      exact Option.isSome_iff_exists.mpr ⟨obj,h.later.get?_eq _ obj hobj⟩

/-- A step that registers no key of a prefix takes no name. -/
theorem Taken.extends {pre : String} {taken : List String} (hσ : Taken σ pre taken)
    (h : Extends K rules operands σ σ') (hk : ∀ name,¬K (pre++name)) : Taken σ' pre taken := by
  intro name
  rw [←hσ name]
  constructor
  · intro hsome
    obtain ⟨obj,hobj⟩ := Option.isSome_iff_exists.mp hsome
    rcases h.fresh _ obj hobj with hold|⟨hkey,-⟩
    · exact Option.isSome_iff_exists.mpr ⟨obj,hold⟩
    · exact absurd hkey (hk name)
  · intro hsome
    obtain ⟨obj,hobj⟩ := Option.isSome_iff_exists.mp hsome
    exact Option.isSome_iff_exists.mpr ⟨obj,h.later.get?_eq _ obj hobj⟩

/-- A loop over headers. The invariant is that exactly the names of the headers so far are
taken, and the records are judged header by header. -/
theorem forM_header {ι : Type} {f : ι → Normalizing PUnit} {pre : String} {name : ι → String}
    {line : ι → ℕ} {items : List ι} {taken : List String} {u : PUnit}
    (hstep : ∀ item s s',(f item).run s=.ok (⟨⟩,s') → Header (pre++name item) (line item) s s')
    (hσ : Sound σ) (htaken : Taken σ pre taken) (h : (forM items f).run σ=.ok (u,σ')) :
    Sound σ' ∧ Extends (fun key => ∃ item,key=pre++name item) [] [] σ σ' ∧
      (Traced σ' ↔ Unclaimed taken (items.map fun item => (name item,line item)) ∧ Traced σ) := by
  induction items generalizing σ taken with
  | nil =>
    obtain rfl := run_forM_nil.mp h
    exact ⟨hσ,(Refers.refl _ _).toExtends,(and_iff_right trivial).symm⟩
  | cons item rest ih =>
    obtain ⟨τ,hfirst,hrest⟩ := run_forM_cons.mp h
    have hheader := hstep item σ τ hfirst
    obtain ⟨hsound,hextends,hiff⟩ := ih (hheader.sound hσ)
      (htaken.cons hheader.toExtends hheader.taken) hrest
    have hfree : σ.object? (pre++name item)=none ↔ name item∉taken := by
      rw [←htaken (name item),Bool.not_eq_true,Option.isSome_eq_false_iff,Option.isNone_iff_eq_none]
    refine ⟨hsound,?_,?_⟩
    · exact (hheader.toExtends.mono fun key hk => ⟨item,hk⟩).trans hextends
    · rw [hiff,hheader.traced_iff hσ,hfree,List.map_cons,Unclaimed]
      tauto

end Headers

section Phases

/-- A service key is not an address key. -/
theorem not_addressKey_service (name : String) : ¬AddressKey ("service:"++name) := by
  rw [AddressKey,startsWith,String.toList_append]
  exact Bool.not_eq_true _▸rfl

theorem addressKey_addr (name : String) : AddressKey ("addr:"++name) := by
  rw [AddressKey,startsWith,String.toList_append,List.isPrefixOf_iff_prefix]
  exact List.prefix_append _ _

/-- After the sentinels nothing is recorded and the name any is taken. -/
theorem registerSentinelObjects_sound {u : PUnit}
    (h : registerSentinelObjects.run {}=.ok (u,σ)) :
    Sound σ ∧ Traced σ ∧ Taken σ "addr:" ["any"] ∧ Taken σ "service:" ["any"] := by
  obtain ⟨⟨addr,id⟩,τ,haddr,hrest⟩ := run_bind_eq_ok.mp h
  obtain ⟨⟨service,id'⟩,τ',hservice,hlast⟩ := run_bind_eq_ok.mp hrest
  obtain ⟨-,rfl⟩ := run_pure_eq_ok.mp hlast
  obtain ⟨haddrQuiet,-⟩ := register_quiet (K:=(·="addr:"++"any")) rfl haddr
  obtain ⟨-,haddrSome,-⟩ := register_spec (P:=fun _ => True) haddr trivial
  obtain ⟨hserviceQuiet,-⟩ := register_quiet (K:=(·="service:"++"any")) rfl hservice
  obtain ⟨-,hserviceSome,-⟩ := register_spec (P:=fun _ => True) hservice trivial
  have hempty : Sound {} := by
    refine ⟨fun _ hm => absurd hm List.not_mem_nil,?_,fun _ hr => absurd hr List.not_mem_nil⟩
    exact ⟨List.nodup_nil,fun _ hr => absurd hr List.not_mem_nil,
      fun _ ho => absurd ho List.not_mem_nil,fun _ ho => absurd ho List.not_mem_nil,
      fun _ hr => absurd hr List.not_mem_nil⟩
  have hnone : ∀ pre,Taken {} pre [] := fun pre name => by
    refine iff_of_false (fun hsome => ?_) List.not_mem_nil
    cases hsome
  have hsound : Sound τ := hempty.quiet haddrQuiet
  refine ⟨hsound.quiet hserviceQuiet,?_,?_,?_⟩
  · rw [hsound.traced_iff hserviceQuiet,hempty.traced_iff haddrQuiet]
    exact fun _ hr => absurd hr List.not_mem_nil
  · refine Taken.extends (Taken.cons (hnone _) haddrQuiet.toExtends ?_) hserviceQuiet.toExtends
      fun name hk => ?_
    · exact Option.isSome_iff_exists.mpr ⟨addr,haddrSome⟩
    · exact not_addressKey_service "any" (hk▸addressKey_addr name)
  · refine Taken.cons (Taken.extends (hnone _) haddrQuiet.toExtends fun name hk => ?_)
      hserviceQuiet.toExtends ?_
    · exact not_addressKey_service name (hk▸addressKey_addr "any")
    · exact Option.isSome_iff_exists.mpr ⟨service,hserviceSome⟩

theorem materializeAddressObject_header {item : ParsedAddressObject String} {u : PUnit}
    (h : (materializeAddressObject item).run σ=.ok (u,σ')) :
    Header ("addr:"++item.name) item.sourceLine σ σ' := by
  rw [←objectKey_headerFields]
  exact header_of_run h

variable [PyUnicode]

theorem materializeServiceObject_header {item : ParsedServiceObject} {u : PUnit}
    (h : (materializeServiceObject item).run σ=.ok (u,σ')) :
    Header ("service:"++item.name) item.sourceLine σ σ' := by
  obtain ⟨fields,τ,hlift,hrest⟩ := run_bind_eq_ok.mp h
  obtain ⟨hfields,rfl⟩ := run_lift_eq_ok.mp hlift
  rw [←objectKey_canonicalObjectForParsedService hfields]
  exact header_of_run hrest

/-- The phases leave a state sound, and its records are judged by the two lists of headers. -/
theorem normalizePhases_traced {parsed : ParsedConfig} {u : PUnit}
    (h : (normalizePhases parsed).run {}=.ok (u,σ)) :
    (∀ member∈σ.objectMembers,Known σ member.parentObjectId ∧ Known σ member.childObjectId) ∧
      RulesClosed σ ∧
      (Traced σ ↔ Unclaimed ["any"] (addressHeaders parsed) ∧
        Unclaimed ["any"] (serviceHeaders parsed)) := by
  obtain ⟨⟨⟩,σ₀,hsentinels,h⟩ := run_bind_eq_ok.mp h
  obtain ⟨⟨⟩,σ₁,haddresses,h⟩ := run_bind_eq_ok.mp h
  obtain ⟨⟨⟩,σ₂,hmembers,h⟩ := run_bind_eq_ok.mp h
  obtain ⟨⟨⟩,σ₃,hservices,h⟩ := run_bind_eq_ok.mp h
  obtain ⟨⟨⟩,σ₄,hgroups,h⟩ := run_bind_eq_ok.mp h
  obtain ⟨⟨⟩,σ₅,hprotocols,hrules⟩ := run_bind_eq_ok.mp h
  obtain ⟨hsound₀,htraced₀,haddrTaken,hserviceTaken⟩ := registerSentinelObjects_sound hsentinels
  -- the address headers, which take no service name
  obtain ⟨hsound₁,hextends₁,htraced₁⟩ := forM_header
    (fun item s s' => materializeAddressObject_header) hsound₀ haddrTaken haddresses
  have htaken₁ : Taken σ₁ "service:" ["any"] := by
    refine hserviceTaken.extends hextends₁ fun name hk => ?_
    obtain ⟨item,hkey⟩ := hk
    exact not_addressKey_service name (hkey▸addressKey_addr item.name)
  have hquiet₂ : Quiet AddressKey σ₁ σ₂ := materializeAddressGroupMembers_quiet hmembers
  have hsound₂ := hsound₁.quiet hquiet₂
  have htaken₂ := htaken₁.extends hquiet₂.toExtends not_addressKey_service
  -- the service headers
  obtain ⟨hsound₃,-,htraced₃⟩ := forM_header
    (fun item s s' => materializeServiceObject_header) hsound₂ htaken₂ hservices
  have hquiet₅ : Quiet AnyKey σ₃ σ₅ := (materializeServiceGroupMembers_quiet hgroups).quiet
    (materializeProtocolGroupMembers_quiet hprotocols)
  have hsound₅ := hsound₃.quiet hquiet₅
  obtain ⟨hclosed,rules,operands,hrefers⟩ := materializeRules_closed hsound₅.rules hrules
  refine ⟨hsound₅.members_extends hrefers.toExtends,hclosed,?_⟩
  rw [hsound₅.traced_iff hrefers,hsound₃.traced_iff hquiet₅,htraced₃,hsound₁.traced_iff hquiet₂,
    htraced₁,addressHeaders,serviceHeaders]
  tauto

omit [PyUnicode] in
/-- A number is registered exactly when the outcome has an object with it. -/
theorem hasObject_outcomeOf {id : ℕ} : HasObject (outcomeOf σ) id ↔ Known σ id :=
  Registry.exists_find?_iff.symm

omit [PyUnicode] in
/-- The outcome of a state whose edges and rules are closed is closed as far as its records are. -/
theorem closed_outcomeOf
    (hmembers : ∀ member∈σ.objectMembers,
      Known σ member.parentObjectId ∧ Known σ member.childObjectId)
    (hrules : RulesClosed σ) : Closed (outcomeOf σ) ↔ Traced σ := by
  constructor
  · intro h record hr hk
    exact hasObject_outcomeOf.mp (h.traces record hr hk)
  · intro h
    refine ⟨σ.registry.nodup_keys,σ.registry.nodup_ids,fun operand ho => ?_,fun member hm => ?_,
      fun record hr hk => hasObject_outcomeOf.mpr (h record hr hk),hrules.complete⟩
    · have hpresent := hrules.present operand ho
      refine ⟨hrules.owner operand ho,fun id hid => ?_,fun id hid => ?_⟩
      · exact hasObject_outcomeOf.mpr (hpresent.object id hid)
      · obtain ⟨key,zone,hzone,hzoneId⟩ := hpresent.zone id hid
        exact ⟨zone,Dict.mem_values_of_get? hzone,hzoneId⟩
    · have hends := hmembers member hm
      exact ⟨hasObject_outcomeOf.mpr hends.1,hasObject_outcomeOf.mpr hends.2⟩

/-- An outcome is closed exactly when no header that has a line is called any or like an earlier
header of its family. -/
theorem normalize_closed_iff {parsed : ParsedConfig} {outcome : NormalizeOutcome}
    (h : normalize parsed=.ok outcome) :
    Closed outcome ↔ Unclaimed ["any"] (addressHeaders parsed) ∧
      Unclaimed ["any"] (serviceHeaders parsed) := by
  obtain ⟨σ,hrun,rfl⟩ := normalize_eq_ok h
  obtain ⟨hmembers,hrules,htraced⟩ := normalizePhases_traced hrun
  rw [closed_outcomeOf hmembers hrules,htraced]

end Phases

section Samples

/-- The access-list line that permits everything. -/
def permitAny : ParsedAccessRule where
  aclName := "A"
  ruleName := "A:1"
  action := "permit"
  protocol := "ip"
  srcRef := "any"
  dstRef := "any"
  serviceRef := none
  enabled := true
  order := 1
  lineStart := 5
  lineEnd := 5
  srcZone := none
  dstZone := none
  unresolvedZone := true
  aclBindingType := .unknown
  zoneInferenceStatus := .unknown
  timeRange := none
  log := false
  protocolOperandKind := .literal
  protocolGroupRef := none
  protocolNumber := none
  aclUsageType := .unknown
  cryptoMapName := none
  cryptoMapSeq := none
  rawLineText := "access-list A extended permit ip any any"
  bindingContextKey := "unbound"
  bindingInterface := none
  bindingDirection := none

/-- A network object and a network group with a name. -/
def objectAndGroup (groupName : String) : ParsedConfig where
  addressObjects := [
    ⟨"WEB",.address { body := some (.host "10.0.0.1") },1,2,"object network WEB"⟩,
    ⟨groupName,.addressGroup { members := ["host:10.0.0.2"] },3,4,"object-group network WEB"⟩]
  serviceObjects := []
  rules := [permitAny]

/-- A group with a name of its own leaves the outcome closed. -/
theorem normalize_closed_iff_webs :
    ∃ outcome,@normalize asciiUnicode (objectAndGroup "WEBS")=.ok outcome ∧ Closed outcome := by
  have hrun : (@normalize asciiUnicode (objectAndGroup "WEBS")).toOption.isSome=true := by
    decide +kernel
  cases h : @normalize asciiUnicode (objectAndGroup "WEBS") with
  | error e =>
    rw [h] at hrun
    cases hrun
  | ok outcome =>
    refine ⟨outcome,rfl,(@normalize_closed_iff asciiUnicode _ _ h).mpr ⟨?_,?_⟩⟩
    · decide
    · decide

/-- A group called like an object is recorded, but not in the outcome. -/
theorem dangling_header_record :
    ∃ outcome,@normalize asciiUnicode (objectAndGroup "WEB")=.ok outcome ∧ ¬Closed outcome := by
  have hrun : (match @normalize asciiUnicode (objectAndGroup "WEB") with
      | .ok outcome => decide (∀ record∈outcome.traceRecords,record.canonicalKind=.object →
          HasObject outcome record.canonicalId)
      | .error _ => true)=false := by
    decide +kernel
  cases h : @normalize asciiUnicode (objectAndGroup "WEB") with
  | error e =>
    rw [h] at hrun
    cases hrun
  | ok outcome =>
    rw [h] at hrun
    exact ⟨outcome,rfl,fun hclosed => of_decide_eq_false hrun hclosed.traces⟩

end Samples

end NspMigrator.CiscoClosure
