import Mathlib
import NspMigrator.PyState
import NspMigrator.CanonicalModels
import NspMigrator.CiscoParsedConfig

/-!
# State of one normalization

Objects are registered once per key and never replaced. Lineage records and
issues are only appended. What a step of the normalizer may do to the rest
of the state is stated once, as a relation every step respects.
-/

namespace NspMigrator.CiscoState

open PyDict PyExcept PyState PyRegistry CanonicalModels CiscoParsedConfig

/-- The objects of a snapshot by key. -/
abbrev ObjectRegistry := Registry ObjectFields.objectKey

/-- What one normalization accumulates. -/
structure NormalizerState where
  /-- The objects by key. -/
  registry : ObjectRegistry := Registry.empty
  /-- What went wrong so far. -/
  issues : List CanonicalIssue := []
  /-- The zones by key. -/
  zonesByKey : Dict String CanonicalZone := Dict.empty
  /-- The edges from groups to members. -/
  objectMembers : List CanonicalObjectMember := []
  /-- Where everything comes from. -/
  traceRecords : List TraceRecord := []
  /-- The rules made so far. -/
  rules : List CanonicalRule := []
  /-- Their operands. -/
  operands : List CanonicalRuleOperand := []
  /-- Whether the protocol of a row, by its name, was refused. -/
  ruleProtocolBlockers : Dict String Bool := Dict.empty
  /-- The name of the first row with each text, by list and binding. -/
  textualRuleSignatures : Dict (String × String × String) String := Dict.empty
  /-- The next number of an entity other than an object. -/
  nextId : ℕ := 0

/-- Computations of the normalizer. -/
abbrev Normalizing := Stateful NormalizerState

/-- The object registered under a key. -/
def NormalizerState.object? (σ : NormalizerState) (key : String) : Option CanonicalObject :=
  σ.registry.get? key

/-- The number of a new entity. -/
def freshId : Normalizing ℕ := modifyGet fun σ => (σ.nextId,{ σ with nextId := σ.nextId+1 })

/-- Create an object and register it unless its key is taken. Returned are the registered
object and the number the created one was given. -/
def register (fields : ObjectFields) : Normalizing (CanonicalObject × ℕ) :=
  modifyGet fun σ =>
    let registry := σ.registry.register fields
    (((registry.get? fields.objectKey).getD ⟨σ.registry.nextId,fields⟩,σ.registry.nextId),
      { σ with registry := registry })

/-- The number of the object registered under a key. -/
def objectId? (key : String) : Normalizing (Option ℕ) := do
  return ((← get).object? key).map (·.id)

/-- The number of the object that must be registered under a key. -/
def objectIdAt (key : String) : Normalizing ℕ := do
  match ← objectId? key with
  | some id => return id
  | none => throw "KeyError"

/-- The object that must have a number. -/
def objectById (id : ℕ) : Normalizing CanonicalObject := do
  match (← get).registry.find? id with
  | some obj => return obj
  | none => throw "KeyError"

/-- Append one lineage record. A record without a line is dropped. -/
def emitTrace (lineStart lineEnd : ℕ) (canonicalKind : TraceCanonicalKind) (canonicalId : ℕ)
    (sourceFragment canonicalRole note : Option String) : Normalizing PUnit := do
  if hs : 1≤lineStart then
    if hle : lineStart≤lineEnd then
      let id ← freshId
      modify fun σ => { σ with traceRecords := σ.traceRecords++[⟨id,lineStart,lineEnd,
        sourceFragment,canonicalKind,canonicalId,canonicalRole,note,hs,hle⟩] }
    else throw "ValueError"

/-- The line an issue is traced to. -/
def traceLine (line : Option ℕ) : Option ℕ := line.filter (·≠0)

/-- Append an issue and the record that traces it. -/
def emitIssue (entityType issueCode message : String) (entityKey : Option String)
    (sourceLineStart sourceLineEnd : Option ℕ) (sourceFragment : Option String)
    (reason : Option IssueReasonCode) : Normalizing CanonicalIssue := do
  let message :=
    match reason with
    | some reason => "["++reason.value++"] "++message
    | none => message
  let id ← freshId
  let issue : CanonicalIssue :=
    ⟨id,entityType,entityKey,issueCode,message,sourceLineStart,sourceLineEnd⟩
  modify fun σ => { σ with issues := σ.issues++[issue] }
  emitTrace ((traceLine sourceLineStart).getD 1)
    (((traceLine sourceLineEnd).or (traceLine sourceLineStart)).getD 1) .issue issue.id
    sourceFragment none (some ("issue: "++issueCode))
  return issue

/-- A step that may add objects, issues and lineage records and keeps everything else.
Every added object has a given property. -/
structure Adds (P : ObjectFields → Prop) (σ σ' : NormalizerState) : Prop where
  /-- Objects keep their keys and numbers. -/
  later : Registry.Later σ.registry σ'.registry
  /-- An object that is new stood under a free key and has the property. -/
  added : ∀ key obj,σ'.object? key=some obj →
    σ.object? key=some obj ∨ σ.object? key=none ∧ P obj.value
  /-- Issues are only appended. -/
  issues : σ.issues<+:σ'.issues
  /-- Edges stay as they are. -/
  members_eq : σ'.objectMembers=σ.objectMembers
  /-- So do rules. -/
  rules_eq : σ'.rules=σ.rules
  /-- So do operands. -/
  operands_eq : σ'.operands=σ.operands
  /-- Numbers are only used up. -/
  nextId_le : σ.nextId≤σ'.nextId

variable {P Q : ObjectFields → Prop} {σ σ' σ'' : NormalizerState}

theorem Adds.refl (P : ObjectFields → Prop) (σ : NormalizerState) : Adds P σ σ where
  later := Registry.Later.refl _
  added _ _ h := Or.inl h
  issues := List.prefix_rfl
  members_eq := rfl
  rules_eq := rfl
  operands_eq := rfl
  nextId_le := le_rfl

/-- Objects stay registered. -/
theorem Adds.object?_eq (h : Adds P σ σ') {key : String} {obj : CanonicalObject}
    (ho : σ.object? key=some obj) : σ'.object? key=some obj :=
  h.later.get?_eq key obj ho

/-- A key that is free later was free before. -/
theorem Adds.object?_none (h : Adds P σ σ') {key : String} (ho : σ'.object? key=none) :
    σ.object? key=none := by
  cases hk : σ.object? key with
  | none => rfl
  | some obj =>
    rw [h.object?_eq hk] at ho
    cases ho

theorem Adds.trans (h : Adds P σ σ') (h' : Adds P σ' σ'') : Adds P σ σ'' where
  later := h.later.trans h'.later
  added key obj ho := by
    rcases h'.added key obj ho with hm|⟨hm,hp⟩
    · exact h.added key obj hm
    · exact Or.inr ⟨h.object?_none hm,hp⟩
  issues := h.issues.trans h'.issues
  members_eq := h'.members_eq.trans h.members_eq
  rules_eq := h'.rules_eq.trans h.rules_eq
  operands_eq := h'.operands_eq.trans h.operands_eq
  nextId_le := h.nextId_le.trans h'.nextId_le

theorem Adds.mono (hpq : ∀ fields,P fields → Q fields) (h : Adds P σ σ') : Adds Q σ σ' where
  later := h.later
  added key _ ho := (h.added key _ ho).imp id fun ⟨hn,hp⟩ => ⟨hn,hpq _ hp⟩
  issues := h.issues
  members_eq := h.members_eq
  rules_eq := h.rules_eq
  operands_eq := h.operands_eq
  nextId_le := h.nextId_le

/-- A step that adds one given object at most. -/
theorem Adds.of_eq {fields : ObjectFields} (h : Adds (·=fields) σ σ') (hq : Q fields) :
    Adds Q σ σ' := by
  refine Adds.mono (P:=(·=fields)) ?_ h
  intro other he
  rw [he]
  exact hq

/-- A step that leaves the objects and the issues alone. -/
structure Silent (σ σ' : NormalizerState) : Prop where
  /-- The objects stay as they are. -/
  registry_eq : σ'.registry=σ.registry
  /-- So do the issues. -/
  issues_eq : σ'.issues=σ.issues
  /-- So do the zones. -/
  zones_eq : σ'.zonesByKey=σ.zonesByKey
  /-- So do the edges. -/
  members_eq : σ'.objectMembers=σ.objectMembers
  /-- So do the rules. -/
  rules_eq : σ'.rules=σ.rules
  /-- So do the operands. -/
  operands_eq : σ'.operands=σ.operands
  /-- So do the protocol blockers. -/
  blockers_eq : σ'.ruleProtocolBlockers=σ.ruleProtocolBlockers
  /-- So do the signatures. -/
  signatures_eq : σ'.textualRuleSignatures=σ.textualRuleSignatures
  /-- Numbers are only used up. -/
  nextId_le : σ.nextId≤σ'.nextId

theorem Silent.refl (σ : NormalizerState) : Silent σ σ :=
  ⟨rfl,rfl,rfl,rfl,rfl,rfl,rfl,rfl,le_rfl⟩

theorem Silent.trans (h : Silent σ σ') (h' : Silent σ' σ'') : Silent σ σ'' where
  registry_eq := h'.registry_eq.trans h.registry_eq
  issues_eq := h'.issues_eq.trans h.issues_eq
  zones_eq := h'.zones_eq.trans h.zones_eq
  members_eq := h'.members_eq.trans h.members_eq
  rules_eq := h'.rules_eq.trans h.rules_eq
  operands_eq := h'.operands_eq.trans h.operands_eq
  blockers_eq := h'.blockers_eq.trans h.blockers_eq
  signatures_eq := h'.signatures_eq.trans h.signatures_eq
  nextId_le := h.nextId_le.trans h'.nextId_le

/-- A silent step looks every object up as before. -/
theorem Silent.object?_eq (h : Silent σ σ') (key : String) : σ'.object? key=σ.object? key := by
  rw [NormalizerState.object?,NormalizerState.object?,h.registry_eq]

theorem Silent.adds (h : Silent σ σ') : Adds P σ σ' where
  later := h.registry_eq▸Registry.Later.refl _
  added key _ ho := Or.inl (h.object?_eq key▸ho)
  issues := h.issues_eq▸List.prefix_rfl
  members_eq := h.members_eq
  rules_eq := h.rules_eq
  operands_eq := h.operands_eq
  nextId_le := h.nextId_le

/-- A fresh number is the next one. -/
theorem freshId_spec {id : ℕ} (h : freshId.run σ=.ok (id,σ')) :
    id=σ.nextId ∧ σ'={ σ with nextId := σ.nextId+1 } := by
  have he := run_modifyGet_eq_ok.mp h
  exact ⟨(Prod.mk.inj he).1.symm,(Prod.mk.inj he).2.symm⟩

/-- A lineage record changes nothing but the records. -/
theorem emitTrace_spec {lineStart lineEnd canonicalId : ℕ} {canonicalKind : TraceCanonicalKind}
    {sourceFragment canonicalRole note : Option String} {u : PUnit}
    (h : (emitTrace lineStart lineEnd canonicalKind canonicalId sourceFragment canonicalRole
      note).run σ=.ok (u,σ')) : Silent σ σ' := by
  unfold emitTrace at h
  split at h
  · split at h
    · obtain ⟨id,τ,hid,hmod⟩ := run_bind_eq_ok.mp h
      obtain ⟨-,rfl⟩ := freshId_spec hid
      have he := run_modify_eq_ok.mp hmod
      subst he
      exact ⟨rfl,rfl,rfl,rfl,rfl,rfl,rfl,rfl,Nat.le_succ _⟩
    · exact absurd h run_throw_eq_ok
  · obtain ⟨-,rfl⟩ := run_pure_eq_ok.mp h
    exact ⟨rfl,rfl,rfl,rfl,rfl,rfl,rfl,rfl,le_rfl⟩

/-- An issue is appended, and nothing else but the records changes. -/
theorem emitIssue_spec {entityType issueCode message : String} {entityKey : Option String}
    {sourceLineStart sourceLineEnd : Option ℕ} {sourceFragment : Option String}
    {reason : Option IssueReasonCode} {issue : CanonicalIssue}
    (h : (emitIssue entityType issueCode message entityKey sourceLineStart sourceLineEnd
      sourceFragment reason).run σ=.ok (issue,σ')) :
    issue=⟨σ.nextId,entityType,entityKey,issueCode,
        reason.elim message fun reason => "["++reason.value++"] "++message,
        sourceLineStart,sourceLineEnd⟩ ∧
      Silent { σ with issues := σ.issues++[issue] } σ' := by
  unfold emitIssue at h
  obtain ⟨id,τ,hid,h⟩ := run_bind_eq_ok.mp h
  obtain ⟨rfl,rfl⟩ := freshId_spec hid
  obtain ⟨⟨⟩,τ,hmod,h⟩ := run_bind_eq_ok.mp h
  have he := run_modify_eq_ok.mp hmod
  subst he
  obtain ⟨⟨⟩,τ,htrace,h⟩ := run_bind_eq_ok.mp h
  obtain ⟨hi,rfl⟩ := run_pure_eq_ok.mp h
  subst hi
  have hs := emitTrace_spec htrace
  refine ⟨by cases reason <;> rfl,⟨hs.registry_eq,hs.issues_eq,hs.zones_eq,hs.members_eq,
    hs.rules_eq,hs.operands_eq,hs.blockers_eq,hs.signatures_eq,?_⟩⟩
  have hle := hs.nextId_le
  simp only at hle ⊢
  omega

/-- An issue adds no object. -/
theorem emitIssue_adds {entityType issueCode message : String} {entityKey : Option String}
    {sourceLineStart sourceLineEnd : Option ℕ} {sourceFragment : Option String}
    {reason : Option IssueReasonCode} {issue : CanonicalIssue}
    (h : (emitIssue entityType issueCode message entityKey sourceLineStart sourceLineEnd
      sourceFragment reason).run σ=.ok (issue,σ')) : Adds P σ σ' := by
  obtain ⟨-,hs⟩ := emitIssue_spec h
  exact {
    later := hs.registry_eq▸Registry.Later.refl _
    added := fun key obj ho => Or.inl (hs.object?_eq key▸ho)
    issues := hs.issues_eq▸List.prefix_append _ _
    members_eq := hs.members_eq
    rules_eq := hs.rules_eq
    operands_eq := hs.operands_eq
    nextId_le := hs.nextId_le }

/-- Registration returns the object that stands under the key afterwards: the one that was
there, or the one just created. -/
theorem register_spec {fields : ObjectFields} {obj : CanonicalObject} {created : ℕ}
    (h : (register fields).run σ=.ok ((obj,created),σ')) (hp : P fields) :
    Adds P σ σ' ∧ σ'.object? fields.objectKey=some obj ∧
      (σ.object? fields.objectKey=some obj ∨
        σ.object? fields.objectKey=none ∧ obj.value=fields) := by
  have he := run_modifyGet_eq_ok.mp h
  obtain ⟨hpair,rfl⟩ := Prod.mk.inj he
  obtain ⟨hobj,-⟩ := Prod.mk.inj hpair
  obtain ⟨e,hget,hcases⟩ := Registry.exists_get?_register σ.registry fields
  rw [hget,Option.getD_some] at hobj
  subst hobj
  refine ⟨⟨Registry.later_register _ _,?_,List.prefix_rfl,rfl,rfl,rfl,le_rfl⟩,hget,?_⟩
  · intro key obj ho
    have hr : (σ.registry.register fields).get? key=some obj := ho
    rw [Registry.get?_register] at hr
    split at hr
    · next hk =>
      rw [Option.some.injEq] at hr
      subst hr
      rw [hk.1]
      exact Or.inr ⟨hk.2,hp⟩
    · exact Or.inl hr
  · rcases hcases with hold|⟨hnone,hnew⟩
    · exact Or.inl hold
    · subst hnew
      exact Or.inr ⟨hnone,rfl⟩

/-- Looking a number up changes nothing. -/
theorem objectId?_spec {key : String} {found : Option ℕ}
    (h : (objectId? key).run σ=.ok (found,σ')) :
    σ'=σ ∧ found=(σ.object? key).map (·.id) := by
  obtain ⟨t,τ,hget,h⟩ := run_bind_eq_ok.mp h
  obtain ⟨rfl,rfl⟩ := run_get_eq_ok.mp hget
  obtain ⟨hf,rfl⟩ := run_pure_eq_ok.mp h
  exact ⟨rfl,hf.symm⟩

/-- A number that is read belongs to the object under the key. -/
theorem objectIdAt_spec {key : String} {id : ℕ} (h : (objectIdAt key).run σ=.ok (id,σ')) :
    σ'=σ ∧ ∃ obj,σ.object? key=some obj ∧ obj.id=id := by
  obtain ⟨found,τ,hfound,h⟩ := run_bind_eq_ok.mp h
  obtain ⟨rfl,hf⟩ := objectId?_spec hfound
  cases found with
  | none => exact absurd h run_throw_eq_ok
  | some id' =>
    obtain ⟨rfl,rfl⟩ := run_pure_eq_ok.mp h
    obtain ⟨obj,ho,hid⟩ := Option.map_eq_some_iff.mp hf.symm
    exact ⟨rfl,obj,ho,hid⟩

/-- An object that is read is the one with the number. -/
theorem objectById_spec {id : ℕ} {obj : CanonicalObject}
    (h : (objectById id).run σ=.ok (obj,σ')) :
    σ'=σ ∧ σ.registry.find? id=some obj := by
  obtain ⟨t,τ,hget,h⟩ := run_bind_eq_ok.mp h
  obtain ⟨rfl,rfl⟩ := run_get_eq_ok.mp hget
  cases hf : σ.registry.find? id with
  | none =>
    rw [hf] at h
    exact absurd h run_throw_eq_ok
  | some found =>
    rw [hf] at h
    obtain ⟨rfl,rfl⟩ := run_pure_eq_ok.mp h
    exact ⟨rfl,rfl⟩

/-- Two computations one of which is taken. -/
theorem run_ite {α : Type} {c : Prop} [Decidable c] {x y : Normalizing α}
    {result : α × NormalizerState} (h : (if c then x else y).run σ=.ok result) :
    c ∧ x.run σ=.ok result ∨ ¬c ∧ y.run σ=.ok result := by
  split at h
  · next hc => exact Or.inl ⟨hc,h⟩
  · next hc => exact Or.inr ⟨hc,h⟩

/-- After a step the object under a key is the one that was there before, or one made with
given fields where the key was free. The number is that of the object. -/
def Resolves (σ σ' : NormalizerState) (fields : ObjectFields) (id : ℕ) : Prop :=
  ∃ obj,σ'.object? fields.objectKey=some obj ∧ obj.id=id ∧
    (σ.object? fields.objectKey=some obj ∨
      σ.object? fields.objectKey=none ∧ obj.value=fields)

/-- An object that is there resolves to itself. -/
theorem resolves_of_object? {key : String} {obj : CanonicalObject}
    (h : σ.object? key=some obj) : Resolves σ σ obj.value obj.id := by
  have hk := σ.registry.key_eq key obj h
  rw [←hk] at h
  exact ⟨obj,h,rfl,Or.inl h⟩

/-- Objects stay resolved. -/
theorem Resolves.later {fields : ObjectFields} {id : ℕ} (h : Resolves σ σ' fields id)
    (hl : Registry.Later σ'.registry σ''.registry) : Resolves σ σ'' fields id := by
  obtain ⟨obj,ho,hid,hc⟩ := h
  exact ⟨obj,hl.get?_eq _ obj ho,hid,hc⟩

/-- The number of a registered object finds it. -/
theorem find?_of_object? {key : String} {obj : CanonicalObject} (h : σ.object? key=some obj) :
    σ.registry.find? obj.id=some obj := by
  have hk := σ.registry.key_eq key obj h
  exact Registry.find?_eq_some.mpr ⟨hk▸h,rfl⟩

end NspMigrator.CiscoState
