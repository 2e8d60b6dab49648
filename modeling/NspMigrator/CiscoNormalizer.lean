import Mathlib
import NspMigrator.CiscoRules

/-!
# Normalization of a parsed configuration

Sentinels come first, then headers and members of addresses, then headers and
members of services, and last the rules, all over one state. The outcome lists
what the state holds at the end.
-/

namespace NspMigrator.CiscoNormalizer

open PyText PyDict PyState PyRegistry CanonicalModels CiscoParsedConfig
open CiscoState CiscoAddresses CiscoServiceBuilders CiscoServices CiscoRules

/-- The snapshot and the lineage records one normalization hands over. -/
structure NormalizeOutcome where
  /-- The zones. -/
  zones : List CanonicalZone
  /-- The objects. -/
  objects : List CanonicalObject
  /-- The edges from groups to members. -/
  objectMembers : List CanonicalObjectMember
  /-- The rules. -/
  rules : List CanonicalRule
  /-- The operands of the rules. -/
  operands : List CanonicalRuleOperand
  /-- What went wrong. -/
  issues : List CanonicalIssue
  /-- Where everything comes from. -/
  traceRecords : List TraceRecord

/-- What a state hands over. -/
def outcomeOf (σ : NormalizerState) : NormalizeOutcome where
  zones := σ.zonesByKey.values
  objects := σ.registry.entries.values
  objectMembers := σ.objectMembers
  rules := σ.rules
  operands := σ.operands
  issues := σ.issues
  traceRecords := σ.traceRecords

/-- Register the objects that stand for every address and every service. -/
def registerSentinelObjects : Normalizing PUnit := do
  let _ ← register anyAddrFields
  let _ ← register anyServiceFields

variable [PyUnicode]

/-- The phases of one normalization. -/
def normalizePhases (parsed : ParsedConfig) : Normalizing PUnit := do
  registerSentinelObjects
  materializeAddressObjects parsed
  materializeAddressGroupMembers parsed
  materializeServiceObjects parsed
  materializeServiceGroupMembers parsed
  materializeProtocolGroupMembers parsed
  materializeRules parsed

/-- Normalize a parsed configuration. -/
def normalize (parsed : ParsedConfig) : Except String NormalizeOutcome := do
  let result ← (normalizePhases parsed).run {}
  return outcomeOf result.2

/-- An outcome is what the phases leave behind. -/
theorem normalize_eq_ok {parsed : ParsedConfig} {outcome : NormalizeOutcome}
    (h : normalize parsed=.ok outcome) :
    ∃ σ,(normalizePhases parsed).run {}=.ok (⟨⟩,σ) ∧ outcome=outcomeOf σ := by
  unfold normalize at h
  cases hrun : (normalizePhases parsed).run {} with
  | error e =>
    rw [hrun] at h
    cases h
  | ok result =>
    rw [hrun] at h
    cases h
    exact ⟨result.2,rfl,rfl⟩

end NspMigrator.CiscoNormalizer
