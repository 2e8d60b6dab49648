import Mathlib
import NspMigrator.CiscoServiceTargets
import NspMigrator.CiscoRuleReferences

/-!
# What one row writes

A row writes one rule and its operands in turn: the zones that were inferred,
the source, the destination and the services. It adds objects for references
that name none and leaves the edges of groups alone, so that the services of
every row are chosen among the members that the groups had before all rows.
-/

namespace NspMigrator.CiscoRuleRows

open PyText PyWords PyDict PyExcept PyState PyRegistry CanonicalModels CiscoParsedConfig
open CiscoState CiscoAddresses CiscoServiceBuilders CiscoServices CiscoRules CiscoReferences
open CiscoRuleReferences CiscoServiceTargets

/-- A step that writes rules and operands, adds objects with a property, and keeps all edges. -/
structure Writes (P : ObjectFields → Prop) (rules : List CanonicalRule)
    (operands : List CanonicalRuleOperand) (σ σ' : NormalizerState) : Prop where
  /-- Objects keep their keys and numbers. -/
  later : Registry.Later σ.registry σ'.registry
  /-- An object that is new has the given property. -/
  added : ∀ key obj,σ'.object? key=some obj → σ.object? key=some obj ∨ P obj.value
  /-- Issues are only appended. -/
  issues : σ.issues<+:σ'.issues
  /-- Edges stay as they are. -/
  members_eq : σ'.objectMembers=σ.objectMembers
  /-- These rules are appended. -/
  rules_eq : σ'.rules=σ.rules++rules
  /-- These operands are appended. -/
  operands_eq : σ'.operands=σ.operands++operands

variable {P Q : ObjectFields → Prop} {σ σ' σ'' : NormalizerState} {ruleId : ℕ}
  {role : OperandRole} {rules rules' : List CanonicalRule}
  {operands operands' : List CanonicalRuleOperand}

section Relation

theorem writes_of_adds (h : Adds P σ σ') : Writes P [] [] σ σ' where
  later := h.later
  added key obj ho := (h.added key obj ho).imp id And.right
  issues := h.issues
  members_eq := h.members_eq
  rules_eq := by rw [h.rules_eq,List.append_nil]
  operands_eq := by rw [h.operands_eq,List.append_nil]

theorem Writes.refl (P : ObjectFields → Prop) (σ : NormalizerState) : Writes P [] [] σ σ :=
  writes_of_adds (Adds.refl P σ)

theorem Writes.trans (h : Writes P rules operands σ σ')
    (h' : Writes P rules' operands' σ' σ'') :
    Writes P (rules++rules') (operands++operands') σ σ'' where
  later := h.later.trans h'.later
  added key obj ho := by
    rcases h'.added key obj ho with hm|hp
    · exact h.added key obj hm
    · exact Or.inr hp
  issues := h.issues.trans h'.issues
  members_eq := h'.members_eq.trans h.members_eq
  rules_eq := by rw [h'.rules_eq,h.rules_eq,List.append_assoc]
  operands_eq := by rw [h'.operands_eq,h.operands_eq,List.append_assoc]

theorem Writes.mono (hpq : ∀ fields,P fields → Q fields) (h : Writes P rules operands σ σ') :
    Writes Q rules operands σ σ' where
  later := h.later
  added key obj ho := (h.added key obj ho).imp id (hpq _)
  issues := h.issues
  members_eq := h.members_eq
  rules_eq := h.rules_eq
  operands_eq := h.operands_eq

/-- Objects stay registered. -/
theorem Writes.object?_eq (h : Writes P rules operands σ σ') {key : String}
    {obj : CanonicalObject} (ho : σ.object? key=some obj) : σ'.object? key=some obj :=
  h.later.get?_eq key obj ho

/-- A key that no added object has is looked up as before. -/
theorem Writes.object?_of_not (h : Writes P rules operands σ σ') {key : String}
    (hkey : ∀ fields,P fields → fields.objectKey≠key) : σ'.object? key=σ.object? key := by
  cases ho : σ.object? key with
  | some obj => exact h.object?_eq ho
  | none =>
    cases ho' : σ'.object? key with
    | none => rfl
    | some obj =>
      rcases h.added key obj ho' with hm|hp
      · rw [ho] at hm
        cases hm
      · exact absurd (σ'.registry.key_eq key obj ho') (hkey _ hp)

/-- An update of the state writes what its function does. -/
theorem modify_writes {f : NormalizerState → NormalizerState} {u : PUnit}
    (h : (modify f : Normalizing PUnit).run σ=.ok (u,σ'))
    (hf : Writes P rules operands σ (f σ)) : Writes P rules operands σ σ' :=
  run_modify_eq_ok.mp h▸hf

theorem freshId_writes {id : ℕ} (h : freshId.run σ=.ok (id,σ')) : Writes P [] [] σ σ' := by
  obtain ⟨-,rfl⟩ := freshId_spec h
  exact { Writes.refl P σ with }

end Relation

section Steps

/-- An issue that is emitted under a condition. -/
theorem issueIf_writes {c : Prop} [Decidable c] {x : Normalizing CanonicalIssue} {u : PUnit}
    (hx : ∀ issue τ,x.run σ=.ok (issue,τ) → Writes P [] [] σ τ)
    (h : (if c then (do let _ ← x; pure ⟨⟩) else pure ⟨⟩ : Normalizing PUnit).run σ=
      .ok (u,σ')) : Writes P [] [] σ σ' := by
  rcases run_ite h with ⟨-,hissue⟩|⟨-,hnone⟩
  · obtain ⟨issue,τ,hx',hlast⟩ := run_bind_eq_ok.mp hissue
    obtain ⟨-,rfl⟩ := run_pure_eq_ok.mp hlast
    exact hx issue _ hx'
  · obtain ⟨-,rfl⟩ := run_pure_eq_ok.mp hnone
    exact Writes.refl P σ

theorem emitIssue_writes {entityType issueCode message : String} {entityKey : Option String}
    {sourceLineStart sourceLineEnd : Option ℕ} {sourceFragment : Option String}
    {reason : Option IssueReasonCode} {issue : CanonicalIssue}
    (h : (emitIssue entityType issueCode message entityKey sourceLineStart sourceLineEnd
      sourceFragment reason).run σ=.ok (issue,σ')) : Writes P [] [] σ σ' :=
  writes_of_adds (emitIssue_adds h)

theorem emitRuleUsageIssues_writes {rule : ParsedAccessRule} {u : PUnit}
    (h : (emitRuleUsageIssues rule).run σ=.ok (u,σ')) : Writes P [] [] σ σ' := by
  rcases run_ite h with ⟨-,hconflict⟩|⟨-,hselector⟩
  · obtain ⟨issue,τ,hissue,hselector⟩ := run_bind_eq_ok.mp hconflict
    have hrest : Writes P [] [] τ σ' := issueIf_writes (fun _ _ => emitIssue_writes) hselector
    exact (emitIssue_writes hissue).trans hrest
  · exact issueIf_writes (fun _ _ => emitIssue_writes) hselector

theorem emitTextualDuplicateIssue_writes [PyUnicode] {rule : ParsedAccessRule} {u : PUnit}
    (h : (emitTextualDuplicateIssue rule).run σ=.ok (u,σ')) : Writes P [] [] σ σ' := by
  obtain ⟨t,τ,hget,hrest⟩ := run_bind_eq_ok.mp h
  obtain ⟨rfl,rfl⟩ := run_get_eq_ok.mp hget
  split at hrest
  · exact modify_writes hrest { Writes.refl P σ with }
  · obtain ⟨issue,τ₁,hissue,hlast⟩ := run_bind_eq_ok.mp hrest
    obtain ⟨-,rfl⟩ := run_pure_eq_ok.mp hlast
    exact emitIssue_writes hissue

/-- Whether the protocol operand of a row blocks it: a group that is not there, or a number
out of range. -/
def isBlocked (rule : ParsedAccessRule) (σ : NormalizerState) : Bool :=
  match rule.protocolOperandKind with
  | .protocolGroup => (namedService rule.protocolGroupRef σ).isNone
  | .ipProtocolNumber => (rule.protocolNumber.filter (· ≤255)).isNone
  | _ => false

theorem emitProtocolIssue_writes {rule : ParsedAccessRule} {issueCode message : String}
    {reason : IssueReasonCode} {blocked : Bool}
    (h : (emitProtocolIssue rule issueCode message reason).run σ=.ok (blocked,σ')) :
    Writes P [] [] σ σ' ∧ blocked=true := by
  obtain ⟨issue,τ,hissue,hlast⟩ := run_bind_eq_ok.mp h
  obtain ⟨rfl,rfl⟩ := run_pure_eq_ok.mp hlast
  exact ⟨emitIssue_writes hissue,rfl⟩

theorem validateProtocolOperand_spec {rule : ParsedAccessRule} {blocked : Bool}
    (h : (validateProtocolOperand rule).run σ=.ok (blocked,σ')) :
    Writes P [] [] σ σ' ∧ blocked=isBlocked rule σ := by
  unfold validateProtocolOperand at h
  unfold isBlocked
  cases hkind : rule.protocolOperandKind with
  | protocolGroup =>
    rw [hkind] at h
    dsimp only at h ⊢
    rw [namedService]
    cases hname : rule.protocolGroupRef.filter (·≠"") with
    | none =>
      rw [hname] at h
      exact emitProtocolIssue_writes h
    | some name =>
      rw [hname] at h
      obtain ⟨found,τ,hread,hrest⟩ := run_bind_eq_ok.mp h
      obtain ⟨rfl,hfound⟩ := objectId?_spec hread
      rw [Option.bind_some]
      rcases run_ite hrest with ⟨hsome,hpure⟩|⟨hsome,hissue⟩
      · obtain ⟨rfl,rfl⟩ := run_pure_eq_ok.mp hpure
        rw [hfound,Option.isSome_map] at hsome
        rw [Option.isNone_eq_false_iff.mpr hsome]
        exact ⟨Writes.refl P τ,rfl⟩
      · rw [hfound,Option.isSome_map,Bool.not_eq_true,Option.isSome_eq_false_iff] at hsome
        rw [hsome]
        exact emitProtocolIssue_writes hissue
  | ipProtocolNumber =>
    rw [hkind] at h
    dsimp only at h ⊢
    rcases run_ite h with ⟨hsome,hpure⟩|⟨hsome,hissue⟩
    · obtain ⟨rfl,rfl⟩ := run_pure_eq_ok.mp hpure
      rw [Option.isNone_eq_false_iff.mpr hsome]
      exact ⟨Writes.refl P σ,rfl⟩
    · rw [Bool.not_eq_true,Option.isSome_eq_false_iff] at hsome
      rw [hsome]
      exact emitProtocolIssue_writes hissue
  | literal =>
    rw [hkind] at h
    obtain ⟨rfl,rfl⟩ := run_pure_eq_ok.mp h
    exact ⟨Writes.refl P σ,rfl⟩
  | serviceObject =>
    rw [hkind] at h
    obtain ⟨rfl,rfl⟩ := run_pure_eq_ok.mp h
    exact ⟨Writes.refl P σ,rfl⟩

theorem ensureZone_writes {zoneName : String} {sourceLine : ℕ} {zone : CanonicalZone}
    (h : (ensureZone zoneName sourceLine).run σ=.ok (zone,σ')) : Writes P [] [] σ σ' := by
  obtain ⟨t,τ,hget,hrest⟩ := run_bind_eq_ok.mp h
  obtain ⟨rfl,rfl⟩ := run_get_eq_ok.mp hget
  cases hzone : σ.zonesByKey.get? ("zone:"++zoneName) with
  | some found =>
    rw [hzone] at hrest
    obtain ⟨-,rfl⟩ := run_pure_eq_ok.mp hrest
    exact Writes.refl P σ
  | none =>
    rw [hzone] at hrest
    obtain ⟨id,τ,hid,hmade⟩ := run_bind_eq_ok.mp hrest
    obtain ⟨⟨⟩,τ₁,hinsert,htraced⟩ := run_bind_eq_ok.mp hmade
    obtain ⟨⟨⟩,τ₂,htrace,hlast⟩ := run_bind_eq_ok.mp htraced
    obtain ⟨-,rfl⟩ := run_pure_eq_ok.mp hlast
    have hinserted : Writes P [] [] τ τ₁ := modify_writes hinsert { Writes.refl P τ with }
    exact ((freshId_writes hid).trans hinserted).trans (writes_of_adds (emitTrace_spec htrace).adds)

/-- One operand is written as it is given. -/
theorem addOperand_writes {targetZoneId targetObjectId : Option ℕ}
    {position lineStart lineEnd : ℕ} {fragment : String} {note : Option String} {u : PUnit}
    (h : (addOperand ruleId role targetZoneId targetObjectId position lineStart lineEnd fragment
      note).run σ=.ok (u,σ')) :
    ∃ id,Writes P [] [⟨id,ruleId,role,targetZoneId,targetObjectId,position⟩] σ σ' := by
  obtain ⟨id,τ,hid,hrest⟩ := run_bind_eq_ok.mp h
  obtain ⟨⟨⟩,τ₁,hadd,htrace⟩ := run_bind_eq_ok.mp hrest
  have hadded : Writes P [] [⟨id,ruleId,role,targetZoneId,targetObjectId,position⟩] τ τ₁ :=
    modify_writes hadd { Writes.refl P τ with operands_eq := rfl }
  have htraced : Writes P [] [] τ₁ σ' := writes_of_adds (emitTrace_spec htrace).adds
  exact ⟨id,((freshId_writes hid).trans hadded).trans htraced⟩

/-- The operand of a zone is written, if there is one. -/
theorem addZoneOperand_writes {rule : ParsedAccessRule} {zoneName : Option String} {u : PUnit}
    (h : (addZoneOperand rule ruleId role zoneName).run σ=.ok (u,σ')) :
    ∃ operands,Writes P [] operands σ σ' ∧
      ∀ operand∈operands,operand.ruleId=ruleId ∧ operand.operandRole=role := by
  unfold addZoneOperand at h
  split at h
  · obtain ⟨-,rfl⟩ := run_pure_eq_ok.mp h
    exact ⟨[],Writes.refl P σ,fun _ ho => absurd ho List.not_mem_nil⟩
  · obtain ⟨zone,τ,hzone,hadd⟩ := run_bind_eq_ok.mp h
    obtain ⟨id,hadded⟩ := addOperand_writes (P:=P) hadd
    refine ⟨_,(ensureZone_writes hzone).trans hadded,fun operand ho => ?_⟩
    rw [List.nil_append,List.mem_singleton] at ho
    rw [ho]
    exact ⟨rfl,rfl⟩

/-- The text a row leaves on its rule. -/
def ruleText (rule : ParsedAccessRule) (blocked : Bool) : Option String :=
  let (processingStatus,skipReasons,autoApplyEligible) := resolveRuleProcessing rule blocked
  buildRuleMetadata rule processingStatus skipReasons autoApplyEligible

/-- The rule of a row is written with what the row says. -/
theorem createRuleWithTrace_writes {rule : ParsedAccessRule} {processingStatus ruleKey : String}
    {description : Option String} {canonicalRule : CanonicalRule}
    (h : (createRuleWithTrace rule processingStatus ruleKey description).run σ=
      .ok (canonicalRule,σ')) :
    Writes P [canonicalRule] [] σ σ' ∧
      canonicalRule=⟨canonicalRule.id,ruleKey,ruleKey,rule.action,rule.enabled,rule.order,
        some rule.aclName,description⟩ := by
  obtain ⟨id,τ,hid,hrest⟩ := run_bind_eq_ok.mp h
  obtain ⟨⟨⟩,τ₁,hadd,hrest⟩ := run_bind_eq_ok.mp hrest
  obtain ⟨⟨⟩,τ₂,htrace,hlast⟩ := run_bind_eq_ok.mp hrest
  obtain ⟨rfl,rfl⟩ := run_pure_eq_ok.mp hlast
  have hadded : Writes P [⟨id,ruleKey,ruleKey,rule.action,rule.enabled,rule.order,
      some rule.aclName,description⟩] [] τ τ₁ :=
    modify_writes hadd { Writes.refl P τ with rules_eq := rfl }
  have htraced : Writes P [] [] τ₁ τ₂ := writes_of_adds (emitTrace_spec htrace).adds
  exact ⟨((freshId_writes hid).trans hadded).trans htraced,rfl⟩

/-- The operands of one role with the given targets, in order. -/
structure OperandsOf (ruleId : ℕ) (role : OperandRole) (ids : List ℕ)
    (operands : List CanonicalRuleOperand) : Prop where
  /-- They refer to these objects, in order. -/
  targets : operands.map (·.targetObjectId)=ids.map some
  /-- They belong to the rule, in the slot. -/
  own : ∀ operand∈operands,operand.ruleId=ruleId ∧ operand.operandRole=role

/-- One operand for every service, in order. -/
theorem forM_addOperand_writes {entries : List (ℕ × ℕ)}
    {lineStart lineEnd : ℕ} {fragment : String} {note : Option String} {u : PUnit}
    (h : (forM entries fun (serviceObjId,position) =>
      addOperand ruleId .service none (some serviceObjId) position lineStart lineEnd fragment
        note).run σ=.ok (u,σ')) :
    ∃ operands,Writes P [] operands σ σ' ∧
      OperandsOf ruleId .service (entries.map Prod.fst) operands := by
  induction entries generalizing σ with
  | nil =>
    obtain rfl := run_forM_nil.mp h
    exact ⟨[],Writes.refl P σ,rfl,fun _ ho => absurd ho List.not_mem_nil⟩
  | cons entry rest ih =>
    obtain ⟨τ,hfirst,hrest⟩ := run_forM_cons.mp h
    obtain ⟨id,hadded⟩ := addOperand_writes (P:=P) hfirst
    obtain ⟨operands,hadds,htargets,hown⟩ := ih hrest
    refine ⟨_,hadded.trans hadds,?_,fun operand ho => ?_⟩
    · simp only [List.singleton_append,List.map_cons,htargets]
    · rcases List.mem_cons.mp ho with rfl|ho
      · exact ⟨rfl,rfl⟩
      · exact hown operand ho

theorem appendServiceOperands_writes {rule : ParsedAccessRule} {ids : List ℕ} {u : PUnit}
    (h : (appendServiceOperands rule ruleId ids).run σ=.ok (u,σ')) :
    ∃ operands,Writes P [] operands σ σ' ∧ OperandsOf ruleId .service ids operands := by
  obtain ⟨operands,hadds,hof⟩ := forM_addOperand_writes (P:=P) h
  rw [List.zipIdx_map_fst] at hof
  exact ⟨operands,hadds,hof⟩

end Steps

end NspMigrator.CiscoRuleRows
