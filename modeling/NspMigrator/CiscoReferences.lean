import Mathlib
import NspMigrator.CiscoRules

/-!
# What the normalizer refers to

An edge has both ends registered, an operand its target, and a lineage record
of an object the object. Every step but the registration of headers leaves it
so: numbers it uses were read from the registry, or were just given to an
object under a key that was free.
-/

namespace NspMigrator.CiscoReferences

open PyText PyDict PyExcept PyState PyRegistry CanonicalModels CiscoParsedConfig
open CiscoState CiscoAddresses CiscoServiceBuilders CiscoServices CiscoRules

/-- An object is registered with the number. -/
def Known (σ : NormalizerState) (id : ℕ) : Prop := ∃ obj,σ.registry.find? id=some obj

/-- A zone is registered with the number. -/
def KnownZone (σ : NormalizerState) (id : ℕ) : Prop :=
  ∃ key zone,σ.zonesByKey.get? key=some zone ∧ zone.id=id

/-- A step that registers objects under keys of a kind, appends edges between registered objects
and the given rules and operands, whatever it records. -/
structure Extends (K : String → Prop) (rules : List CanonicalRule)
    (operands : List CanonicalRuleOperand) (σ σ' : NormalizerState) : Prop where
  /-- Objects keep their keys and numbers. -/
  later : Registry.Later σ.registry σ'.registry
  /-- An object that is new has a key of the given kind. -/
  fresh : ∀ key obj,σ'.object? key=some obj →
    σ.object? key=some obj ∨ K key ∧ σ.registry.nextId≤obj.id
  /-- Zones stay under their keys. -/
  zones : ∀ key zone,σ.zonesByKey.get? key=some zone → σ'.zonesByKey.get? key=some zone
  /-- A new edge joins known objects. -/
  members : ∀ member∈σ'.objectMembers,member∈σ.objectMembers ∨
    Known σ' member.parentObjectId ∧ Known σ' member.childObjectId
  /-- These rules are appended. -/
  rules_eq : σ'.rules=σ.rules++rules
  /-- These operands are appended. -/
  operands_eq : σ'.operands=σ.operands++operands
  /-- Numbers are only used up. -/
  nextId_le : σ.nextId≤σ'.nextId

/-- A step that also records no object but registered ones. -/
structure Refers (K : String → Prop) (rules : List CanonicalRule)
    (operands : List CanonicalRuleOperand) (σ σ' : NormalizerState) : Prop extends
    Extends K rules operands σ σ' where
  /-- The new records of objects refer to known ones. -/
  traces : ∃ added,σ'.traceRecords=σ.traceRecords++added ∧
    ∀ record∈added,record.canonicalKind=.object → Known σ' record.canonicalId

/-- A step that appends neither rules nor operands. -/
abbrev Quiet (K : String → Prop) (σ σ' : NormalizerState) : Prop := Refers K [] [] σ σ'

variable {K : String → Prop} {σ σ' σ'' : NormalizerState} {id : ℕ}
  {rules rules' : List CanonicalRule} {operands operands' : List CanonicalRuleOperand}

section Relation

theorem Known.later (h : Known σ id) (hl : Registry.Later σ.registry σ'.registry) :
    Known σ' id := by
  obtain ⟨obj,hobj⟩ := h
  exact ⟨obj,hl.find?_eq hobj⟩

theorem known_of_object? {key : String} {obj : CanonicalObject} (h : σ.object? key=some obj) :
    Known σ obj.id :=
  ⟨obj,find?_of_object? h⟩

theorem Refers.refl (K : String → Prop) (σ : NormalizerState) : Quiet K σ σ where
  later := Registry.Later.refl _
  fresh _ _ h := Or.inl h
  zones _ _ h := h
  members _ h := Or.inl h
  traces := ⟨[],(List.append_nil _).symm,fun _ h => absurd h List.not_mem_nil⟩
  rules_eq := (List.append_nil _).symm
  operands_eq := (List.append_nil _).symm
  nextId_le := le_rfl

theorem Extends.trans (h : Extends K rules operands σ σ')
    (h' : Extends K rules' operands' σ' σ'') :
    Extends K (rules++rules') (operands++operands') σ σ'' where
  later := h.later.trans h'.later
  fresh key obj ho := by
    rcases h'.fresh key obj ho with ho|⟨hk,hle⟩
    · exact h.fresh key obj ho
    · exact Or.inr ⟨hk,h.later.nextId_le.trans hle⟩
  zones key zone hz := h'.zones key zone (h.zones key zone hz)
  members member hm := by
    rcases h'.members member hm with hm|hm
    · exact (h.members member hm).imp id fun hk => ⟨hk.1.later h'.later,hk.2.later h'.later⟩
    · exact Or.inr hm
  rules_eq := by rw [h'.rules_eq,h.rules_eq,List.append_assoc]
  operands_eq := by rw [h'.operands_eq,h.operands_eq,List.append_assoc]
  nextId_le := h.nextId_le.trans h'.nextId_le

theorem Refers.trans (h : Refers K rules operands σ σ') (h' : Refers K rules' operands' σ' σ'') :
    Refers K (rules++rules') (operands++operands') σ σ'' where
  toExtends := h.toExtends.trans h'.toExtends
  traces := by
    obtain ⟨added,heq,hknown⟩ := h.traces
    obtain ⟨more,heq',hknown'⟩ := h'.traces
    refine ⟨added++more,by rw [heq',heq,List.append_assoc],fun record hr hk => ?_⟩
    rcases List.mem_append.mp hr with hr|hr
    · exact (hknown record hr hk).later h'.later
    · exact hknown' record hr hk

/-- A quiet step after another one. -/
theorem Refers.quiet (h : Refers K rules operands σ σ') (h' : Quiet K σ' σ'') :
    Refers K rules operands σ σ'' := by
  have hall := h.trans h'
  rwa [List.append_nil,List.append_nil] at hall

/-- Keys of a kind are keys of a wider kind. -/
theorem Extends.mono {L : String → Prop} (hkl : ∀ key,K key → L key)
    (h : Extends K rules operands σ σ') : Extends L rules operands σ σ' where
  later := h.later
  fresh key obj ho := (h.fresh key obj ho).imp id fun hk => ⟨hkl key hk.1,hk.2⟩
  zones := h.zones
  members := h.members
  rules_eq := h.rules_eq
  operands_eq := h.operands_eq
  nextId_le := h.nextId_le

/-- A loop whose steps are quiet. -/
theorem quiet_forM {γ : Type} {f : γ → Normalizing PUnit} {xs : List γ}
    (hstep : ∀ x∈xs,∀ s s',Quiet K σ s → (f x).run s=.ok (⟨⟩,s') → Quiet K s s') {u : PUnit}
    (h : (forM xs f).run σ=.ok (u,σ')) : Quiet K σ σ' :=
  run_forM_invariant (P:=fun s => Quiet K σ s)
    (fun x hx s s' hs hr => hs.quiet (hstep x hx s s' hs hr)) (Refers.refl K σ) h

/-- A silent step with no new record is quiet. -/
theorem quiet_of_eq (hregistry : σ'.registry=σ.registry) (hzones : σ'.zonesByKey=σ.zonesByKey)
    (hmembers : σ'.objectMembers=σ.objectMembers) (htraces : σ'.traceRecords=σ.traceRecords)
    (hrules : σ'.rules=σ.rules) (hoperands : σ'.operands=σ.operands)
    (hid : σ.nextId≤σ'.nextId) : Quiet K σ σ' where
  later := hregistry▸Registry.Later.refl _
  fresh key obj ho := by
    unfold NormalizerState.object? at ho ⊢
    rw [hregistry] at ho
    exact Or.inl ho
  zones key zone hz := by rw [hzones,hz]
  members member hm := Or.inl (hmembers▸hm)
  traces := ⟨[],by rw [htraces,List.append_nil],fun _ h => absurd h List.not_mem_nil⟩
  rules_eq := by rw [hrules,List.append_nil]
  operands_eq := by rw [hoperands,List.append_nil]
  nextId_le := hid

theorem freshId_quiet (h : freshId.run σ=.ok (id,σ')) : Quiet K σ σ' := by
  obtain ⟨-,rfl⟩ := freshId_spec h
  exact quiet_of_eq rfl rfl rfl rfl rfl rfl (Nat.le_succ _)

/-- An update does what its function does. -/
theorem modify_refers {f : NormalizerState → NormalizerState} {u : PUnit}
    (h : (modify f : Normalizing PUnit).run σ=.ok (u,σ'))
    (hf : Refers K rules operands σ (f σ)) : Refers K rules operands σ σ' :=
  run_modify_eq_ok.mp h▸hf

end Relation

section Records

/-- A record of an object that is registered, or of anything else. -/
theorem emitTrace_quiet {lineStart lineEnd canonicalId : ℕ} {canonicalKind : TraceCanonicalKind}
    {sourceFragment canonicalRole note : Option String} {u : PUnit}
    (hknown : canonicalKind=.object → Known σ canonicalId)
    (h : (emitTrace lineStart lineEnd canonicalKind canonicalId sourceFragment canonicalRole
      note).run σ=.ok (u,σ')) : Quiet K σ σ' := by
  unfold emitTrace at h
  split at h
  · split at h
    · obtain ⟨recordId,τ,hid,hmod⟩ := run_bind_eq_ok.mp h
      obtain ⟨-,rfl⟩ := freshId_spec hid
      have he := run_modify_eq_ok.mp hmod
      subst he
      exact {
        later := Registry.Later.refl _
        fresh := fun key obj ho => Or.inl ho
        zones := fun key zone hz => hz
        members := fun member hm => Or.inl hm
        traces := by
          refine ⟨_,rfl,fun record hr hk => ?_⟩
          rw [List.mem_singleton.mp hr] at hk ⊢
          exact hknown hk
        rules_eq := (List.append_nil _).symm
        operands_eq := (List.append_nil _).symm
        nextId_le := Nat.le_succ _ }
    · exact absurd h run_throw_eq_ok
  · obtain ⟨-,rfl⟩ := run_pure_eq_ok.mp h
    exact Refers.refl K σ

/-- An issue refers to no object. -/
theorem emitIssue_quiet {entityType issueCode message : String} {entityKey : Option String}
    {sourceLineStart sourceLineEnd : Option ℕ} {sourceFragment : Option String}
    {reason : Option IssueReasonCode} {issue : CanonicalIssue}
    (h : (emitIssue entityType issueCode message entityKey sourceLineStart sourceLineEnd
      sourceFragment reason).run σ=.ok (issue,σ')) : Quiet K σ σ' := by
  obtain ⟨issueId,τ,hid,h⟩ := run_bind_eq_ok.mp h
  obtain ⟨⟨⟩,τ',hmod,h⟩ := run_bind_eq_ok.mp h
  obtain ⟨⟨⟩,τ'',htrace,h⟩ := run_bind_eq_ok.mp h
  obtain ⟨-,rfl⟩ := run_pure_eq_ok.mp h
  have hissue : Quiet K τ τ' :=
    modify_refers hmod (quiet_of_eq rfl rfl rfl rfl rfl rfl le_rfl)
  exact ((freshId_quiet hid).quiet hissue).quiet
    (emitTrace_quiet (fun hk => by cases hk) htrace)

/-- The object that registration returns is registered, and under a free key it
is the one that was created. -/
theorem register_quiet {fields : ObjectFields} {obj : CanonicalObject} {created : ℕ}
    (hk : K fields.objectKey) (h : (register fields).run σ=.ok ((obj,created),σ')) :
    Quiet K σ σ' ∧ Known σ' obj.id ∧ (σ.object? fields.objectKey=none → obj.id=created) := by
  obtain ⟨-,hobj,-⟩ := register_spec (P:=fun _ => True) h trivial
  refine ⟨?_,known_of_object? hobj,register_created h⟩
  have he := run_modifyGet_eq_ok.mp h
  obtain ⟨-,rfl⟩ := Prod.mk.inj he
  exact {
    later := Registry.later_register _ _
    fresh := by
      intro key other ho
      have hr : (σ.registry.register fields).get? key=some other := ho
      rw [Registry.get?_register] at hr
      split at hr
      · next hkey =>
        cases hr
        rw [hkey.1]
        exact Or.inr ⟨hk,le_rfl⟩
      · exact Or.inl hr
    zones := fun key zone hz => hz
    members := fun member hm => Or.inl hm
    traces := ⟨[],(List.append_nil _).symm,fun _ h => absurd h List.not_mem_nil⟩
    rules_eq := (List.append_nil _).symm
    operands_eq := (List.append_nil _).symm
    nextId_le := le_rfl }

end Records

section Addresses

variable {ref role : String} {sourceLine : ℕ}

/-- Keys of address objects. -/
def AddressKey (key : String) : Prop := startsWith "addr:" key=true

/-- A literal operand: registered and traced when its key is free, and read back. -/
theorem ensureLiteral_quiet {fields : ObjectFields} {fragment note : String}
    (hk : K fields.objectKey)
    (h : (do
      if (← objectId? fields.objectKey).isNone then
        let (_,created) ← register fields
        emitTrace sourceLine sourceLine .object created (some fragment) (some role) (some note)
      objectIdAt fields.objectKey : Normalizing ℕ).run σ=.ok (id,σ')) :
    Quiet K σ σ' ∧ Known σ' id := by
  obtain ⟨found,τ,hfound,h⟩ := run_bind_eq_ok.mp h
  obtain ⟨rfl,hfound⟩ := objectId?_spec hfound
  rcases run_ite h with ⟨hnone,h⟩|⟨-,h⟩
  · obtain ⟨⟨obj,created⟩,τ₁,hreg,h⟩ := run_bind_eq_ok.mp h
    obtain ⟨⟨⟩,τ₂,htrace,h⟩ := run_bind_eq_ok.mp h
    obtain ⟨hquiet,hknown,hcreated⟩ := register_quiet hk hreg
    rw [Option.isNone_map,Option.isNone_iff_eq_none] at hnone
    rw [hcreated hnone] at hknown
    obtain ⟨rfl,other,hother,rfl⟩ := objectIdAt_spec h
    exact ⟨hquiet.quiet (emitTrace_quiet (fun _ => hknown) htrace),known_of_object? hother⟩
  · obtain ⟨rfl,other,hother,rfl⟩ := objectIdAt_spec h
    exact ⟨Refers.refl K _,known_of_object? hother⟩

theorem ensureUnresolvedRef_quiet (hk : K (unresolvedFields refDescription ref).objectKey)
    (h : (ensureUnresolvedRef ref sourceLine role).run σ=.ok (id,σ')) :
    Quiet K σ σ' ∧ Known σ' id := by
  obtain ⟨found,τ,hfound,h⟩ := run_bind_eq_ok.mp h
  obtain ⟨rfl,hfound⟩ := objectId?_spec hfound
  cases found with
  | some found =>
    obtain ⟨rfl,rfl⟩ := run_pure_eq_ok.mp h
    obtain ⟨obj,hobj,rfl⟩ := Option.map_eq_some_iff.mp hfound.symm
    exact ⟨Refers.refl K _,known_of_object? hobj⟩
  | none =>
    obtain ⟨⟨obj,created⟩,τ₁,hreg,h⟩ := run_bind_eq_ok.mp h
    obtain ⟨⟨⟩,τ₂,htrace,h⟩ := run_bind_eq_ok.mp h
    obtain ⟨issue,τ₃,hissue,h⟩ := run_bind_eq_ok.mp h
    obtain ⟨rfl,rfl⟩ := run_pure_eq_ok.mp h
    obtain ⟨hquiet,hknown,hcreated⟩ := register_quiet hk hreg
    rw [hcreated (Option.map_eq_none_iff.mp hfound.symm)] at hknown
    have hrest : Quiet K τ₁ τ₃ :=
      (emitTrace_quiet (fun _ => hknown) htrace).quiet (emitIssue_quiet hissue)
    exact ⟨hquiet.quiet hrest,hknown.later hrest.later⟩

/-- The object of an operand is registered. -/
theorem ensureAddrObjectFromRef_quiet (hk : ∀ fields,AddressLiteral fields → K fields.objectKey)
    (h : (ensureAddrObjectFromRef ref sourceLine role).run σ=.ok (id,σ')) :
    Quiet K σ σ' ∧ Known σ' id := by
  unfold ensureAddrObjectFromRef at h
  rcases run_ite h with ⟨-,h⟩|⟨-,h⟩
  · obtain ⟨rfl,obj,hobj,rfl⟩ := objectIdAt_spec h
    exact ⟨Refers.refl K _,known_of_object? hobj⟩
  rcases run_ite h with ⟨-,h⟩|⟨-,h⟩
  · exact ensureLiteral_quiet (hk _ (.host _)) h
  rcases run_ite h with ⟨-,h⟩|⟨-,h⟩
  · obtain ⟨⟨ip,mask⟩,τ,hparts,hrest⟩ := run_bind_eq_ok.mp h
    obtain ⟨rfl,-⟩ := subnetParts_spec hparts
    cases hmask : maskToPrefix mask with
    | none =>
      simp only [hmask] at hrest
      exact ensureUnresolvedRef_quiet (hk _ (.unresolved _ _)) hrest
    | some prefixlen =>
      simp only [hmask] at hrest
      exact ensureLiteral_quiet (hk _ (.subnet _)) hrest
  · obtain ⟨found,τ,hfound,h⟩ := run_bind_eq_ok.mp h
    obtain ⟨rfl,hfound⟩ := objectId?_spec hfound
    cases found with
    | some found =>
      obtain ⟨rfl,rfl⟩ := run_pure_eq_ok.mp h
      obtain ⟨obj,hobj,rfl⟩ := Option.map_eq_some_iff.mp hfound.symm
      exact ⟨Refers.refl K _,known_of_object? hobj⟩
    | none => exact ensureUnresolvedRef_quiet (hk _ (.unresolved _ _)) h

theorem registerMember_quiet {fields : ObjectFields} {key : String} (hk : K fields.objectKey)
    (h : (registerMember fields).run σ=.ok (key,σ')) : Quiet K σ σ' := by
  obtain ⟨found,τ,hfound,h⟩ := run_bind_eq_ok.mp h
  obtain ⟨rfl,-⟩ := objectId?_spec hfound
  rcases run_ite h with ⟨-,h⟩|⟨-,h⟩
  · obtain ⟨⟨obj,created⟩,τ₁,hreg,h⟩ := run_bind_eq_ok.mp h
    obtain ⟨-,rfl⟩ := run_pure_eq_ok.mp h
    exact (register_quiet hk hreg).1
  · obtain ⟨-,rfl⟩ := run_pure_eq_ok.mp h
    exact Refers.refl K _

theorem resolveMemberRef_quiet (hk : ∀ fields,AddressLiteral fields → K fields.objectKey)
    {key : String} (h : (resolveMemberRef ref).run σ=.ok (key,σ')) : Quiet K σ σ' := by
  unfold resolveMemberRef at h
  rcases run_ite h with ⟨-,h⟩|⟨-,h⟩
  · exact registerMember_quiet (hk _ (.host _)) h
  rcases run_ite h with ⟨-,h⟩|⟨-,h⟩
  · obtain ⟨found,τ,hfound,h⟩ := run_bind_eq_ok.mp h
    obtain ⟨⟨ip,mask⟩,τ',hparts,hsub⟩ := run_bind_eq_ok.mp hfound
    obtain ⟨rfl,-⟩ := subnetParts_spec hparts
    cases hmask : maskToPrefix mask with
    | none =>
      simp only [hmask] at hsub
      obtain ⟨rfl,rfl⟩ := run_pure_eq_ok.mp hsub
      exact registerMember_quiet (hk _ (.unresolved _ _)) h
    | some prefixlen =>
      simp only [hmask] at hsub
      obtain ⟨key',τ₁,hreg,hp⟩ := run_bind_eq_ok.mp hsub
      obtain ⟨rfl,rfl⟩ := run_pure_eq_ok.mp hp
      obtain ⟨-,rfl⟩ := run_pure_eq_ok.mp h
      exact registerMember_quiet (hk _ (.subnet _)) hreg
  · obtain ⟨found,τ,hfound,h⟩ := run_bind_eq_ok.mp h
    obtain ⟨rfl,-⟩ := objectId?_spec hfound
    cases found with
    | some found =>
      obtain ⟨-,rfl⟩ := run_pure_eq_ok.mp h
      exact Refers.refl K _
    | none => exact registerMember_quiet (hk _ (.unresolved _ _)) h

/-- The new objects that are traced are registered. -/
theorem emitMaterializedObjects_quiet {fragment note : String} {keysBefore : List String}
    {u : PUnit}
    (h : (emitMaterializedObjects sourceLine fragment note keysBefore).run σ=.ok (u,σ')) :
    Quiet K σ σ' := by
  obtain ⟨t,τ,hget,h⟩ := run_bind_eq_ok.mp h
  obtain ⟨rfl,rfl⟩ := run_get_eq_ok.mp hget
  refine quiet_forM (fun key _ s s' _ hr => ?_) h
  obtain ⟨found,τ,hid,htrace⟩ := run_bind_eq_ok.mp hr
  obtain ⟨rfl,obj,hobj,rfl⟩ := objectIdAt_spec hid
  exact emitTrace_quiet (fun _ => known_of_object? hobj) htrace

/-- An edge between registered objects. -/
theorem attachMemberEdge_quiet {parentId childObjectId position : ℕ} {fragment : String} {u : PUnit}
    (hparent : Known σ parentId) (hchild : Known σ childObjectId)
    (h : (attachMemberEdge parentId childObjectId position sourceLine fragment).run σ=.ok (u,σ')) :
    Quiet K σ σ' := by
  obtain ⟨edgeId,τ,hid,h⟩ := run_bind_eq_ok.mp h
  obtain ⟨⟨⟩,τ',hmod,h⟩ := run_bind_eq_ok.mp h
  have hfresh : Quiet K σ τ := freshId_quiet hid
  have hedge : Quiet K τ τ' := by
    refine modify_refers hmod {
      later := Registry.Later.refl _
      fresh := fun key obj ho => Or.inl ho
      zones := fun key zone hz => hz
      members := ?_
      traces := ⟨[],(List.append_nil _).symm,fun _ h => absurd h List.not_mem_nil⟩
      rules_eq := (List.append_nil _).symm
      operands_eq := (List.append_nil _).symm
      nextId_le := le_rfl }
    intro member hm
    refine (List.mem_append.mp hm).imp id fun hnew => ?_
    rw [List.mem_singleton.mp hnew]
    exact ⟨hparent.later hfresh.later,hchild.later hfresh.later⟩
  exact (hfresh.quiet hedge).quiet (emitTrace_quiet (fun hk => by cases hk) h)

theorem emitUnresolvedAddressGroupMemberIssue_quiet {groupName memberRef : String} {u : PUnit}
    (h : (emitUnresolvedAddressGroupMemberIssue groupName memberRef sourceLine).run σ=
      .ok (u,σ')) : Quiet K σ σ' := by
  obtain ⟨issue,τ,hissue,h⟩ := run_bind_eq_ok.mp h
  obtain ⟨-,rfl⟩ := run_pure_eq_ok.mp h
  exact emitIssue_quiet hissue

/-- One member of an address group. -/
theorem materializeAddressGroupMember_quiet
    (hk : ∀ fields,AddressLiteral fields → K fields.objectKey) {groupName : String}
    {parentId : ℕ} {member : String × ℕ} {u : PUnit} (hparent : Known σ parentId)
    (h : (materializeAddressGroupMember groupName parentId sourceLine member).run σ=.ok (u,σ')) :
    Quiet K σ σ' := by
  obtain ⟨t,τ,hget,h⟩ := run_bind_eq_ok.mp h
  obtain ⟨rfl,rfl⟩ := run_get_eq_ok.mp hget
  obtain ⟨key,τ₁,hkey,h⟩ := run_bind_eq_ok.mp h
  obtain ⟨⟨⟩,τ₂,htraces,h⟩ := run_bind_eq_ok.mp h
  obtain ⟨found,τ₃,hfound,h⟩ := run_bind_eq_ok.mp h
  obtain ⟨rfl,hfound⟩ := objectId?_spec hfound
  have hbefore : Quiet K σ τ₃ :=
    (resolveMemberRef_quiet hk hkey).quiet (emitMaterializedObjects_quiet htraces)
  cases found with
  | none => exact hbefore.quiet (emitUnresolvedAddressGroupMemberIssue_quiet h)
  | some childId =>
    obtain ⟨obj,hobj,rfl⟩ := Option.map_eq_some_iff.mp hfound.symm
    obtain ⟨⟨⟩,τ₄,hedge,h⟩ := run_bind_eq_ok.mp h
    have hall := hbefore.quiet (attachMemberEdge_quiet (hparent.later hbefore.later)
      (known_of_object? hobj) hedge)
    rcases run_ite h with ⟨-,h⟩|⟨-,h⟩
    · exact hall.quiet (emitUnresolvedAddressGroupMemberIssue_quiet h)
    · obtain ⟨-,rfl⟩ := run_pure_eq_ok.mp h
      exact hall

/-- The keys of literals are keys of address objects. -/
theorem addressKey_of_literal {fields : ObjectFields} (h : AddressLiteral fields) :
    AddressKey fields.objectKey := by
  have happend : ∀ {start : String} (rest : String),startsWith "addr:" start=true →
      AddressKey (start++rest) := by
    intro start rest hstart
    rw [AddressKey,startsWith,String.toList_append,List.isPrefixOf_iff_prefix]
    rw [startsWith,List.isPrefixOf_iff_prefix] at hstart
    exact hstart.trans (List.prefix_append _ _)
  cases h with
  | host ip => exact happend ip (by decide)
  | subnet cidr => exact happend cidr (by decide)
  | unresolved description ref => exact happend ref (by decide)

/-- The members of all address groups. -/
theorem materializeAddressGroupMembers_quiet {parsed : ParsedConfig} {u : PUnit}
    (h : (materializeAddressGroupMembers parsed).run σ=.ok (u,σ')) : Quiet AddressKey σ σ' := by
  refine quiet_forM (fun item _ s s' _ hr => ?_) h
  unfold materializeAddressGroup at hr
  split at hr
  · obtain ⟨-,rfl⟩ := run_pure_eq_ok.mp hr
    exact Refers.refl _ _
  next payload _ =>
  obtain ⟨found,τ,hfound,hr⟩ := run_bind_eq_ok.mp hr
  obtain ⟨rfl,hfound⟩ := objectId?_spec hfound
  cases found with
  | none =>
    obtain ⟨-,rfl⟩ := run_pure_eq_ok.mp hr
    exact Refers.refl _ _
  | some parentId =>
    obtain ⟨obj,hobj,rfl⟩ := Option.map_eq_some_iff.mp hfound.symm
    refine quiet_forM (fun member _ t t' ht hmember => ?_) hr
    exact materializeAddressGroupMember_quiet (fun _ => addressKey_of_literal)
      ((known_of_object? hobj).later ht.later) hmember

end Addresses

/-- Any key. -/
def AnyKey (_ : String) : Prop := True

section Services

variable [PyUnicode] {sourceLine : ℕ}

omit [PyUnicode] in
theorem existingKey_quiet {key : String} {keys : List String}
    (h : (existingKey key).run σ=.ok (keys,σ')) : Quiet AnyKey σ σ' := by
  obtain ⟨found,τ,hfound,h⟩ := run_bind_eq_ok.mp h
  obtain ⟨rfl,-⟩ := objectId?_spec hfound
  obtain ⟨-,rfl⟩ := run_pure_eq_ok.mp h
  exact Refers.refl _ _

omit [PyUnicode] in
theorem registerLeaf_quiet {key : String} {build : Except String (Option ObjectFields)}
    {result : Option String} (h : (registerLeaf key build).run σ=.ok (result,σ')) :
    Quiet AnyKey σ σ' := by
  obtain ⟨found,τ,hfound,h⟩ := run_bind_eq_ok.mp h
  obtain ⟨rfl,-⟩ := objectId?_spec hfound
  rcases run_ite h with ⟨-,h⟩|⟨-,h⟩
  · obtain ⟨-,rfl⟩ := run_pure_eq_ok.mp h
    exact Refers.refl _ _
  obtain ⟨built,τ₁,hbuilt,h⟩ := run_bind_eq_ok.mp h
  obtain ⟨-,rfl⟩ := run_lift_eq_ok.mp hbuilt
  cases built with
  | none =>
    obtain ⟨-,rfl⟩ := run_pure_eq_ok.mp h
    exact Refers.refl _ _
  | some fields =>
    obtain ⟨⟨obj,created⟩,τ₂,hreg,h⟩ := run_bind_eq_ok.mp h
    obtain ⟨-,rfl⟩ := run_pure_eq_ok.mp h
    exact (register_quiet trivial hreg).1

theorem registerServicePayload_quiet {payload : Dict String String} {result : Option String}
    (h : (registerServicePayload payload).run σ=.ok (result,σ')) : Quiet AnyKey σ σ' := by
  obtain ⟨key,τ,hkey,h⟩ := run_bind_eq_ok.mp h
  obtain ⟨-,rfl⟩ := run_lift_eq_ok.mp hkey
  cases key with
  | none =>
    obtain ⟨-,rfl⟩ := run_pure_eq_ok.mp h
    exact Refers.refl _ _
  | some key => exact registerLeaf_quiet h

theorem materializeProtocolObjectMember_quiet {raw : String} {result : Option String}
    (h : (materializeProtocolObjectMember raw).run σ=.ok (result,σ')) : Quiet AnyKey σ σ' := by
  unfold materializeProtocolObjectMember at h
  rcases run_ite h with ⟨-,h⟩|⟨-,h⟩
  · obtain ⟨-,rfl⟩ := run_pure_eq_ok.mp h
    exact Refers.refl _ _
  · exact registerLeaf_quiet h

theorem registerPortObjects_quiet {payload : Dict String String} {portFrom portTo : ℕ}
    {protocols : List String} {result : Option (List String)}
    (h : (registerPortObjects payload portFrom portTo protocols).run σ=.ok (result,σ')) :
    Quiet AnyKey σ σ' := by
  induction protocols generalizing σ σ' result with
  | nil =>
    obtain ⟨-,rfl⟩ := run_pure_eq_ok.mp h
    exact Refers.refl _ _
  | cons protocol rest ih =>
    obtain ⟨key,τ,hkey,h⟩ := run_bind_eq_ok.mp h
    have hfirst := registerLeaf_quiet hkey
    cases key with
    | none =>
      obtain ⟨-,rfl⟩ := run_pure_eq_ok.mp h
      exact hfirst
    | some key =>
      obtain ⟨keys,τ₁,hkeys,h⟩ := run_bind_eq_ok.mp h
      have hall := hfirst.quiet (ih hkeys)
      cases keys with
      | none =>
        obtain ⟨-,rfl⟩ := run_pure_eq_ok.mp h
        exact hall
      | some keys =>
        obtain ⟨-,rfl⟩ := run_pure_eq_ok.mp h
        exact hall

theorem materializePortObject_quiet {raw : String} {groupProtocol : Option String}
    {keys : List String} (h : (materializePortObject raw groupProtocol).run σ=.ok (keys,σ')) :
    Quiet AnyKey σ σ' := by
  obtain ⟨payload,τ,hpayload,h⟩ := run_bind_eq_ok.mp h
  obtain ⟨-,rfl⟩ := run_lift_eq_ok.mp hpayload
  cases payload with
  | none =>
    obtain ⟨-,rfl⟩ := run_pure_eq_ok.mp h
    exact Refers.refl _ _
  | some payload =>
    obtain ⟨bounds,τ₁,hbounds,h⟩ := run_bind_eq_ok.mp h
    obtain ⟨-,rfl⟩ := run_lift_eq_ok.mp hbounds
    rcases bounds with _|⟨portFrom,portTo⟩
    · obtain ⟨-,rfl⟩ := run_pure_eq_ok.mp h
      exact Refers.refl _ _
    · obtain ⟨found,τ₂,hfound,h⟩ := run_bind_eq_ok.mp h
      obtain ⟨-,rfl⟩ := run_pure_eq_ok.mp h
      exact registerPortObjects_quiet hfound

/-- The objects of a group member are registered at most. -/
theorem materializeServiceGroupMember_quiet {member : ServiceMember}
    {groupProtocol : Option String} {keys : List String}
    (h : (materializeServiceGroupMember member groupProtocol).run σ=.ok (keys,σ')) :
    Quiet AnyKey σ σ' := by
  have hlist : ∀ {x : Normalizing (Option String)},
      (∀ result τ,x.run σ=.ok (result,τ) → Quiet AnyKey σ τ) →
      (do return (← x).toList : Normalizing (List String)).run σ=.ok (keys,σ') →
      Quiet AnyKey σ σ' := by
    intro x hx hrun
    obtain ⟨result,τ,hresult,hp⟩ := run_bind_eq_ok.mp hrun
    obtain ⟨-,rfl⟩ := run_pure_eq_ok.mp hp
    exact hx result _ hresult
  have hempty : (pure [] : Normalizing (List String)).run σ=.ok (keys,σ') →
      Quiet AnyKey σ σ' := by
    intro hp
    obtain ⟨-,rfl⟩ := run_pure_eq_ok.mp hp
    exact Refers.refl _ _
  cases member with
  | serviceObjectObject name | groupObject name =>
    rcases run_ite h with ⟨-,h⟩|⟨-,h⟩
    · exact hempty h
    · exact existingKey_quiet h
  | icmpObject name =>
    rcases run_ite h with ⟨-,h⟩|⟨-,h⟩
    · exact hempty h
    · exact hlist (fun _ _ => registerLeaf_quiet) h
  | portObject raw =>
    rcases run_ite h with ⟨-,h⟩|⟨-,h⟩
    · exact hempty h
    · exact materializePortObject_quiet h
  | serviceObject payload raw =>
    cases payload with
    | some payload => exact hlist (fun _ _ => registerServicePayload_quiet) h
    | none =>
      unfold materializeServiceGroupMember at h
      dsimp only at h
      split at h
      · exact hlist (fun _ _ => registerServicePayload_quiet) h
      · exact hempty h
  | protocolObject raw =>
    rcases run_ite h with ⟨-,h⟩|⟨-,h⟩
    · exact hempty h
    · exact hlist (fun _ _ => materializeProtocolObjectMember_quiet) h

theorem emitUnresolvedMemberIssue_quiet {groupName entityType : String} {member : ServiceMember}
    {u : PUnit}
    (h : (emitUnresolvedMemberIssue groupName member sourceLine entityType).run σ=.ok (u,σ')) :
    Quiet K σ σ' := by
  obtain ⟨issue,τ,hissue,h⟩ := run_bind_eq_ok.mp h
  obtain ⟨-,rfl⟩ := run_pure_eq_ok.mp h
  exact emitIssue_quiet hissue

/-- Edges lead to the objects that stand under their keys. -/
theorem attachGroupMemberEdges_quiet {parentId pos : ℕ} {childKeys : List String}
    {member : ServiceMember} {u : PUnit} (hparent : Known σ parentId)
    (h : (attachGroupMemberEdges parentId childKeys pos sourceLine member).run σ=.ok (u,σ')) :
    Quiet K σ σ' := by
  refine quiet_forM (fun entry _ s s' hs hr => ?_) h
  obtain ⟨found,τ,hfound,hr⟩ := run_bind_eq_ok.mp hr
  obtain ⟨rfl,hfound⟩ := objectId?_spec hfound
  cases found with
  | none =>
    obtain ⟨-,rfl⟩ := run_pure_eq_ok.mp hr
    exact Refers.refl _ _
  | some childId =>
    obtain ⟨obj,hobj,rfl⟩ := Option.map_eq_some_iff.mp hfound.symm
    exact attachMemberEdge_quiet (hparent.later hs.later) (known_of_object? hobj) hr

/-- One member of a service group. -/
theorem attachGroupMember_quiet {groupName entityType : String} {parentId : ℕ}
    {groupProtocol : Option String} {member : ServiceMember × ℕ} {u : PUnit}
    (hparent : Known σ parentId)
    (h : (attachGroupMember groupName parentId sourceLine groupProtocol entityType member).run σ=
      .ok (u,σ')) : Quiet AnyKey σ σ' := by
  obtain ⟨t,τ,hget,h⟩ := run_bind_eq_ok.mp h
  obtain ⟨rfl,rfl⟩ := run_get_eq_ok.mp hget
  obtain ⟨keys,τ₁,hkeys,h⟩ := run_bind_eq_ok.mp h
  obtain ⟨⟨⟩,τ₂,htraces,h⟩ := run_bind_eq_ok.mp h
  have hbefore : Quiet AnyKey σ τ₂ :=
    (materializeServiceGroupMember_quiet hkeys).quiet (emitMaterializedObjects_quiet htraces)
  rcases run_ite h with ⟨-,h⟩|⟨-,h⟩
  · exact hbefore.quiet (emitUnresolvedMemberIssue_quiet h)
  · exact hbefore.quiet (attachGroupMemberEdges_quiet (hparent.later hbefore.later) h)

/-- The members of one group. -/
theorem attachGroupMembers_quiet {item : ParsedServiceObject} {groupProtocol : Option String}
    {entityType : String} {u : PUnit}
    (h : (attachGroupMembers item groupProtocol entityType).run σ=.ok (u,σ')) :
    Quiet AnyKey σ σ' := by
  obtain ⟨found,τ,hfound,h⟩ := run_bind_eq_ok.mp h
  obtain ⟨rfl,hfound⟩ := objectId?_spec hfound
  cases found with
  | none =>
    obtain ⟨-,rfl⟩ := run_pure_eq_ok.mp h
    exact Refers.refl _ _
  | some parentId =>
    obtain ⟨obj,hobj,rfl⟩ := Option.map_eq_some_iff.mp hfound.symm
    refine quiet_forM (fun member _ s s' hs hr => ?_) h
    exact attachGroupMember_quiet ((known_of_object? hobj).later hs.later) hr

/-- The members of all service groups. -/
theorem materializeServiceGroupMembers_quiet {parsed : ParsedConfig} {u : PUnit}
    (h : (materializeServiceGroupMembers parsed).run σ=.ok (u,σ')) : Quiet AnyKey σ σ' := by
  refine quiet_forM (fun item _ s s' _ hr => ?_) h
  rcases run_ite hr with ⟨-,hr⟩|⟨-,hr⟩
  · exact attachGroupMembers_quiet hr
  · obtain ⟨-,rfl⟩ := run_pure_eq_ok.mp hr
    exact Refers.refl _ _

/-- The members of all protocol groups. -/
theorem materializeProtocolGroupMembers_quiet {parsed : ParsedConfig} {u : PUnit}
    (h : (materializeProtocolGroupMembers parsed).run σ=.ok (u,σ')) : Quiet AnyKey σ σ' := by
  refine quiet_forM (fun item _ s s' _ hr => ?_) h
  rcases run_ite hr with ⟨-,hr⟩|⟨-,hr⟩
  · exact attachGroupMembers_quiet hr
  · obtain ⟨-,rfl⟩ := run_pure_eq_ok.mp hr
    exact Refers.refl _ _

omit [PyUnicode] in
theorem emitServiceObjectTrace_quiet {sourceFragment note : String} {u : PUnit}
    (hknown : Known σ id)
    (h : (emitServiceObjectTrace sourceLine id sourceFragment note).run σ=.ok (u,σ')) :
    Quiet K σ σ' :=
  emitTrace_quiet (fun _ => hknown) h

omit [PyUnicode] in
/-- A named service is registered. -/
theorem lookupNamedServiceRef_known {ref : Option String} {found : Option ℕ}
    (h : (lookupNamedServiceRef ref).run σ=.ok (found,σ')) :
    σ'=σ ∧ ∀ id,found=some id → Known σ id := by
  unfold lookupNamedServiceRef at h
  split at h
  · obtain ⟨rfl,rfl⟩ := run_pure_eq_ok.mp h
    exact ⟨rfl,fun id hid => by cases hid⟩
  · obtain ⟨rfl,hfound⟩ := objectId?_spec h
    refine ⟨rfl,fun id hid => ?_⟩
    obtain ⟨obj,hobj,rfl⟩ := Option.map_eq_some_iff.mp (hfound.symm.trans hid)
    exact known_of_object? hobj

omit [PyUnicode] in
theorem objectIdAt_quiet {key : String} (h : (objectIdAt key).run σ=.ok (id,σ')) :
    Quiet K σ σ' ∧ Known σ' id := by
  obtain ⟨rfl,obj,hobj,rfl⟩ := objectIdAt_spec h
  exact ⟨Refers.refl _ _,known_of_object? hobj⟩

omit [PyUnicode] in
/-- An object that is registered, with a record of the one that stands under its key. -/
theorem registerTraced_quiet {fields : ObjectFields} {sourceFragment note : String}
    (h : (do
      let (obj,_) ← register fields
      emitServiceObjectTrace sourceLine obj.id sourceFragment note
      return obj.id : Normalizing ℕ).run σ=.ok (id,σ')) :
    Quiet AnyKey σ σ' ∧ Known σ' id := by
  obtain ⟨⟨obj,created⟩,τ,hreg,h⟩ := run_bind_eq_ok.mp h
  obtain ⟨hquiet,hknown,-⟩ := register_quiet (K:=AnyKey) trivial hreg
  obtain ⟨⟨⟩,τ₁,htrace,h⟩ := run_bind_eq_ok.mp h
  obtain ⟨rfl,rfl⟩ := run_pure_eq_ok.mp h
  have htraced : Quiet AnyKey τ τ₁ := emitServiceObjectTrace_quiet hknown htrace
  exact ⟨hquiet.quiet htraced,hknown.later htraced.later⟩

theorem ensureDefaultServiceObject_quiet {protocol : String}
    (h : (ensureDefaultServiceObject protocol sourceLine).run σ=.ok (id,σ')) :
    Quiet AnyKey σ σ' ∧ Known σ' id := by
  obtain ⟨built,τ,hbuilt,h⟩ := run_bind_eq_ok.mp h
  obtain ⟨-,rfl⟩ := run_lift_eq_ok.mp hbuilt
  cases built with
  | none => exact objectIdAt_quiet h
  | some built => exact registerTraced_quiet h

omit [PyUnicode] in
/-- The unresolved object is registered. Its key was free when the number of a created object
is returned. -/
theorem ensureUnresolvedServiceObject_quiet {ref protocol : String}
    (h : (ensureUnresolvedServiceObject ref protocol sourceLine).run σ=.ok (id,σ')) :
    Quiet AnyKey σ σ' ∧ Known σ' id := by
  obtain ⟨found,τ,hfound,h⟩ := run_bind_eq_ok.mp h
  obtain ⟨rfl,hfound⟩ := objectId?_spec hfound
  cases found with
  | some found =>
    obtain ⟨rfl,rfl⟩ := run_pure_eq_ok.mp h
    obtain ⟨obj,hobj,rfl⟩ := Option.map_eq_some_iff.mp hfound.symm
    exact ⟨Refers.refl _ _,known_of_object? hobj⟩
  | none =>
    have hfree := Option.map_eq_none_iff.mp hfound.symm
    obtain ⟨⟨obj,created⟩,τ₁,hreg,h⟩ := run_bind_eq_ok.mp h
    obtain ⟨hquiet,hknown,hcreated⟩ := register_quiet (K:=AnyKey) trivial hreg
    rw [hcreated hfree] at hknown
    obtain ⟨⟨⟩,τ₂,htrace,h⟩ := run_bind_eq_ok.mp h
    obtain ⟨issue,τ₃,hissue,h⟩ := run_bind_eq_ok.mp h
    obtain ⟨rfl,rfl⟩ := run_pure_eq_ok.mp h
    have hafter : Quiet AnyKey τ₁ τ₃ :=
      (emitServiceObjectTrace_quiet hknown htrace).quiet (emitIssue_quiet hissue)
    exact ⟨hquiet.quiet hafter,hknown.later hafter.later⟩

theorem ensureServiceObjectFromRef_quiet {protocol : String} {ref : Option String}
    (h : (ensureServiceObjectFromRef protocol ref sourceLine).run σ=.ok (id,σ')) :
    Quiet AnyKey σ σ' ∧ Known σ' id := by
  unfold ensureServiceObjectFromRef at h
  split at h
  · exact ensureDefaultServiceObject_quiet h
  obtain ⟨found,τ,hfound,h⟩ := run_bind_eq_ok.mp h
  obtain ⟨rfl,hknown⟩ := lookupNamedServiceRef_known hfound
  cases found with
  | some found =>
    obtain ⟨rfl,rfl⟩ := run_pure_eq_ok.mp h
    exact ⟨Refers.refl _ _,hknown _ rfl⟩
  | none =>
    obtain ⟨inline,τ₁,hinline,h⟩ := run_bind_eq_ok.mp h
    obtain ⟨-,rfl⟩ := run_lift_eq_ok.mp hinline
    cases inline with
    | some inline => exact registerTraced_quiet h
    | none => exact ensureUnresolvedServiceObject_quiet h

omit [PyUnicode] in
/-- Reading the protocol of a group changes nothing. -/
theorem effectiveProtocolFromGroup_state {rule : ParsedAccessRule} {result : Option String}
    (h : (effectiveProtocolFromGroup rule).run σ=.ok (result,σ')) : σ'=σ := by
  unfold effectiveProtocolFromGroup at h
  split at h
  · exact (run_pure_eq_ok.mp h).2.symm
  obtain ⟨t,τ,hget,h⟩ := run_bind_eq_ok.mp h
  obtain ⟨-,rfl⟩ := run_get_eq_ok.mp hget
  split at h
  · exact (run_pure_eq_ok.mp h).2.symm
  · exact (run_pure_eq_ok.mp h).2.symm

theorem ensureIpProtocolService_quiet {rule : ParsedAccessRule}
    (h : (ensureIpProtocolService rule).run σ=.ok (id,σ')) :
    Quiet AnyKey σ σ' ∧ Known σ' id := by
  obtain ⟨found,τ,hfound,hrest⟩ := run_bind_eq_ok.mp h
  obtain ⟨rfl,hknown⟩ := lookupNamedServiceRef_known hfound
  cases found with
  | some found =>
    obtain ⟨rfl,rfl⟩ := run_pure_eq_ok.mp hrest
    exact ⟨Refers.refl _ _,hknown _ rfl⟩
  | none =>
    dsimp only at hrest
    split at hrest
    · exact registerTraced_quiet hrest
    · exact objectIdAt_quiet hrest

omit [PyUnicode] in
theorem ensureProtocolGroupService_quiet {rule : ParsedAccessRule}
    (h : (ensureProtocolGroupService rule).run σ=.ok (id,σ')) :
    Quiet AnyKey σ σ' ∧ Known σ' id := by
  unfold ensureProtocolGroupService at h
  split at h
  · exact objectIdAt_quiet h
  obtain ⟨found,τ,hfound,hrest⟩ := run_bind_eq_ok.mp h
  obtain ⟨rfl,hfound⟩ := objectId?_spec hfound
  cases found with
  | some found =>
    obtain ⟨rfl,rfl⟩ := run_pure_eq_ok.mp hrest
    obtain ⟨obj,hobj,rfl⟩ := Option.map_eq_some_iff.mp hfound.symm
    exact ⟨Refers.refl _ _,known_of_object? hobj⟩
  | none => exact objectIdAt_quiet hrest

theorem ensureServiceForRule_quiet {rule : ParsedAccessRule}
    (h : (ensureServiceForRule rule).run σ=.ok (id,σ')) :
    Quiet AnyKey σ σ' ∧ Known σ' id := by
  unfold ensureServiceForRule at h
  split at h
  · exact ensureIpProtocolService_quiet h
  · exact ensureServiceObjectFromRef_quiet h
  · split at h
    · obtain ⟨protocol,τ,hprotocol,hrest⟩ := run_bind_eq_ok.mp h
      obtain rfl := effectiveProtocolFromGroup_state hprotocol
      exact ensureServiceObjectFromRef_quiet hrest
    · exact ensureProtocolGroupService_quiet h
  · exact ensureServiceObjectFromRef_quiet h

omit [PyUnicode] in
/-- Objects that are read by number are registered. -/
theorem mapM_objectById_known {members : List CanonicalObjectMember}
    {children : List CanonicalObject}
    (h : (members.mapM fun member => objectById member.childObjectId).run σ=
      .ok (children,σ')) : σ'=σ ∧ ∀ child∈children,Known σ child.id := by
  induction members generalizing σ σ' children with
  | nil =>
    rw [List.mapM_nil] at h
    obtain ⟨rfl,rfl⟩ := run_pure_eq_ok.mp h
    exact ⟨rfl,fun child hc => absurd hc List.not_mem_nil⟩
  | cons member rest ih =>
    rw [List.mapM_cons] at h
    obtain ⟨child,τ,hchild,hrest⟩ := run_bind_eq_ok.mp h
    obtain ⟨rfl,hfound⟩ := objectById_spec hchild
    obtain ⟨others,τ₁,hothers,hlast⟩ := run_bind_eq_ok.mp hrest
    obtain ⟨rfl,hknown⟩ := ih hothers
    obtain ⟨rfl,rfl⟩ := run_pure_eq_ok.mp hlast
    refine ⟨rfl,fun other ho => ?_⟩
    rcases List.mem_cons.mp ho with rfl|ho
    · have hid := (Registry.find?_eq_some.mp hfound).2
      exact ⟨other,hid.symm▸hfound⟩
    · exact hknown other ho

omit [PyUnicode] in
theorem selectMembers_known {serviceId : ℕ} {protocol : String}
    {members : List CanonicalObjectMember} {ids : List ℕ}
    (h : (selectMembers serviceId protocol members).run σ=.ok (ids,σ')) :
    σ'=σ ∧ ∀ id∈ids,Known σ id := by
  obtain ⟨children,τ,hchildren,hrest⟩ := run_bind_eq_ok.mp h
  obtain ⟨rfl,hknown⟩ := mapM_objectById_known hchildren
  obtain ⟨rfl,rfl⟩ := run_pure_eq_ok.mp hrest
  refine ⟨rfl,fun id hid => ?_⟩
  obtain ⟨child,hchild,rfl⟩ := List.mem_map.mp hid
  exact hknown child (List.mem_of_mem_filter (mem_of_mem_distinctBy hchild))

/-- The services of a rule are registered, and there is one. -/
theorem ensureServicesForRule_quiet {rule : ParsedAccessRule} {ids : List ℕ}
    (h : (ensureServicesForRule rule).run σ=.ok (ids,σ')) :
    Quiet AnyKey σ σ' ∧ (∀ id∈ids,Known σ' id) ∧ ids≠[] := by
  obtain ⟨serviceId,τ,hservice,hrest⟩ := run_bind_eq_ok.mp h
  obtain ⟨hquiet,hknown⟩ := ensureServiceForRule_quiet hservice
  obtain ⟨service,τ₁,hread,hbranch⟩ := run_bind_eq_ok.mp hrest
  obtain ⟨rfl,-⟩ := objectById_spec hread
  rcases run_ite hbranch with ⟨-,hgroup⟩|⟨-,hsingle⟩
  · obtain ⟨t,τ₂,hget,hmembers⟩ := run_bind_eq_ok.mp hgroup
    obtain ⟨rfl,rfl⟩ := run_get_eq_ok.mp hget
    obtain ⟨selected,τ₃,hselected,hchoice⟩ := run_bind_eq_ok.mp hmembers
    obtain ⟨rfl,hall⟩ := selectMembers_known hselected
    rcases run_ite hchoice with ⟨-,hnone⟩|⟨hne,hsome⟩
    · obtain ⟨unresolved,τ₄,hunresolved,hlast⟩ := run_bind_eq_ok.mp hnone
      obtain ⟨rfl,rfl⟩ := run_pure_eq_ok.mp hlast
      obtain ⟨hafter,hknown'⟩ := ensureUnresolvedServiceObject_quiet hunresolved
      refine ⟨hquiet.quiet hafter,fun id hid => ?_,List.cons_ne_nil _ _⟩
      rwa [List.mem_singleton.mp hid]
    · obtain ⟨rfl,rfl⟩ := run_pure_eq_ok.mp hsome
      exact ⟨hquiet,hall,hne⟩
  · obtain ⟨rfl,rfl⟩ := run_pure_eq_ok.mp hsingle
    refine ⟨hquiet,fun id hid => ?_,List.cons_ne_nil _ _⟩
    rwa [List.mem_singleton.mp hid]

end Services

end NspMigrator.CiscoReferences
