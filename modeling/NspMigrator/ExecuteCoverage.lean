import Mathlib
import NspMigrator.ExecuteRuleValues

/-!
# What the comparison of two resolved rules decides

The walk over planned values is turned into a statement about sets of
values, the signature into equality of normalized rules, and coverage into
inclusion of denoted traffic.
-/

namespace NspMigrator.ExecuteCoverage

open PyDict PyText PyRepr PyJson SdwanModels ExecuteValues ExecuteRuleValues

/-- The walk succeeds exactly when every planned value is covered. -/
theorem collectCovered_isSome {α : Type} [CoverableMatchableObject α]
    (existing planned : List (ResolvedCoverageValue α))
    (covered : Dict CoverageValue (List CoverageValue)) :
    (collectCovered existing planned covered).isSome=true ↔
      ∀ p∈planned,∃ e∈existing,CoverableMatchableObject.covers e.value p.value=true := by
  induction planned generalizing covered with
  | nil => simp [collectCovered]
  | cons p rest ih =>
    rw [List.forall_mem_cons]
    cases hf : existing.find? fun e => CoverableMatchableObject.covers e.value p.value with
    | none =>
      rw [List.find?_eq_none] at hf
      simp only [collectCovered,List.find?_eq_none.mpr hf,Option.isSome_none,
        Bool.false_eq_true,false_iff,not_and]
      rintro ⟨e,he,hc⟩
      exact absurd hc (hf e he)
    | some e =>
      have hp : ∃ e∈existing,CoverableMatchableObject.covers e.value p.value=true :=
        ⟨e,List.mem_of_find?_eq_some hf,by simpa using List.find?_some hf⟩
      simp only [collectCovered,hf]
      split
      · rw [ih]
        exact (and_iff_right hp).symm
      · rw [ih]
        exact (and_iff_right hp).symm

/-- Coverage of one operand field as sets of values: an empty planned set
only by an empty set, and every planned value by a single existing one. -/
def FieldCovers {α : Type} [CoverableMatchableObject α] (existing planned : Finset α) : Prop :=
  (planned=∅ → existing=∅) ∧
    ∀ p∈planned,∃ e∈existing,CoverableMatchableObject.covers e p=true

instance {α : Type} [DecidableEq α] [CoverableMatchableObject α] (existing planned : Finset α) :
    Decidable (FieldCovers existing planned) :=
  inferInstanceAs (Decidable ((planned=∅ → existing=∅) ∧ ∀ p∈planned,∃ e∈existing,_))

theorem valueSet_eq_empty {α : Type} [DecidableEq α] (values : List (ResolvedCoverageValue α)) :
    valueSet values=∅ ↔ values=[] := by
  rw [valueSet,List.toFinset_eq_empty_iff,List.map_eq_nil_iff]

theorem mem_valueSet {α : Type} [DecidableEq α] {values : List (ResolvedCoverageValue α)}
    {value : α} : value∈valueSet values ↔ ∃ v∈values,v.value=value := by
  rw [valueSet,List.mem_toFinset,List.mem_map]

/-- The analysis of a field is its coverage. -/
theorem analyzeValuesCoverage_isSome {α : Type} [DecidableEq α] [CoverableMatchableObject α]
    (field : CoverageField) (existing planned : List (ResolvedCoverageValue α)) :
    (analyzeValuesCoverage field existing planned).isSome=true ↔
      FieldCovers (valueSet existing) (valueSet planned) := by
  have hall : (∀ p∈valueSet planned,∃ e∈valueSet existing,
      CoverableMatchableObject.covers e p=true) ↔
      ∀ p∈planned,∃ e∈existing,CoverableMatchableObject.covers e.value p.value=true := by
    constructor
    · intro h p hp
      obtain ⟨v,hv,hc⟩ := h p.value (mem_valueSet.mpr ⟨p,hp,rfl⟩)
      obtain ⟨e,he,rfl⟩ := mem_valueSet.mp hv
      exact ⟨e,he,hc⟩
    · intro h v hv
      obtain ⟨p,hp,rfl⟩ := mem_valueSet.mp hv
      obtain ⟨e,he,hc⟩ := h p hp
      exact ⟨e.value,mem_valueSet.mpr ⟨e,he,rfl⟩,hc⟩
  rw [FieldCovers,hall,valueSet_eq_empty,valueSet_eq_empty]
  unfold analyzeValuesCoverage
  split_ifs with hp he he
  · simp [hp,he]
  · simp [hp,he]
  · -- a planned value exists and nothing could cover it
    obtain ⟨p,hm⟩ := List.exists_mem_of_ne_nil planned hp
    simp only [Option.isSome_none,Bool.false_eq_true,false_iff,not_and,he]
    intro _ h
    obtain ⟨e,hnil,-⟩ := h p hm
    cases hnil
  · rw [Option.isSome_map,collectCovered_isSome]
    exact (and_iff_right fun h => absurd h hp).symm

/-- Coverage of zone names is inclusion, except that an empty planned set is
covered by an empty set only. -/
theorem strSetCovers_eq_true (existing target : Finset String) :
    strSetCovers existing target=true ↔ (target=∅ → existing=∅) ∧ target⊆existing := by
  unfold strSetCovers
  split_ifs with ht he
  · simp [ht]
  · simp [ht,he]
  · simp [ht]

/-- Coverage of a planned rule by an existing one. -/
def NormalizedCovers (existing planned : NormalizedRuleValues) : Prop :=
  existing.action=planned.action ∧
    strSetCovers existing.srcZones planned.srcZones=true ∧
    strSetCovers existing.dstZones planned.dstZones=true ∧
    FieldCovers existing.srcAddresses planned.srcAddresses ∧
    FieldCovers existing.dstAddresses planned.dstAddresses ∧
    FieldCovers existing.services planned.services

instance (existing planned : NormalizedRuleValues) :
    Decidable (NormalizedCovers existing planned) :=
  inferInstanceAs (Decidable (_ ∧ _ ∧ _ ∧ _ ∧ _ ∧ _))

/-- The analysis of two resolved rules decides coverage of their values. -/
theorem analyzeCoverage_isCovered (existing planned : ResolvedRuleValues) :
    (analyzeCoverage existing planned).isCovered=true ↔
      NormalizedCovers existing.normalized planned.normalized := by
  rw [NormalizedCovers,existing.src_eq,existing.dst_eq,existing.services_eq,planned.src_eq,
    planned.dst_eq,planned.services_eq,
    ←analyzeValuesCoverage_isSome .srcAddrObjects,←analyzeValuesCoverage_isSome .dstAddrObjects,
    ←analyzeValuesCoverage_isSome .services]
  unfold analyzeCoverage
  split_ifs with hz
  · simp only [false_iff]
    rintro ⟨ha,hs,hd,-⟩
    rcases hz with h|h|h
    · exact h ha
    · rw [h] at hs
      cases hs
    · rw [h] at hd
      cases hd
  · rw [not_or,not_or,not_ne_iff,Bool.not_eq_false,Bool.not_eq_false] at hz
    obtain ⟨ha,hs,hd⟩ := hz
    cases h1 : analyzeValuesCoverage .srcAddrObjects existing.srcAddresses
        planned.srcAddresses with
    | none => simp
    | some srcDetails =>
      cases h2 : analyzeValuesCoverage .dstAddrObjects existing.dstAddresses
          planned.dstAddresses with
      | none => simp
      | some dstDetails =>
        cases h3 : analyzeValuesCoverage .services existing.services planned.services with
        | none => simp
        | some serviceDetails => simp [ha,hs,hd]

theorem AddressValue.covers_self (a : AddressValue) : a.covers a=true :=
  (AddressValue.covers_iff a a).mpr fun _ h => h

theorem ServiceValue.covers_self (a : ServiceValue) : a.covers a=true := by
  cases a <;> simp [ServiceValue.covers]

/-- Rules with the same values cover each other. -/
theorem normalizedCovers_self (values : NormalizedRuleValues) :
    NormalizedCovers values values := by
  refine ⟨rfl,?_,?_,⟨id,?_⟩,⟨id,?_⟩,⟨id,?_⟩⟩
  · exact (strSetCovers_eq_true _ _).mpr ⟨id,Finset.Subset.refl _⟩
  · exact (strSetCovers_eq_true _ _).mpr ⟨id,Finset.Subset.refl _⟩
  · exact fun p hp => ⟨p,hp,AddressValue.covers_self p⟩
  · exact fun p hp => ⟨p,hp,AddressValue.covers_self p⟩
  · exact fun p hp => ⟨p,hp,ServiceValue.covers_self p⟩

/-- Actions are told apart by their texts. -/
theorem SdwanRuleAction.value_injective : Function.Injective SdwanRuleAction.value := by
  intro a b h
  cases a <;> cases b <;> first | rfl | simp [SdwanRuleAction.value] at h

section Signature

variable [PyUnicode]

/-- A tuple's normal form is its representation. -/
theorem normalize_tuple_injective :
    Function.Injective fun atoms => (PyData.tuple atoms).normalize := by
  intro a b h
  simp only [PyData.normalize,Json.str.injEq] at h
  exact tupleRepr_injective h

theorem normalize_text_injective : Function.Injective fun s => (PyData.text s).normalize := by
  intro a b h
  simpa only [PyData.normalize,Json.str.injEq] using h

/-- A list of texts is determined as a set by its normal form. -/
theorem sort_text_inj {s t : Finset String}
    (h : (PyData.list ((sortedTexts s).map .text)).normalize=
      (PyData.list ((sortedTexts t).map .text)).normalize) : s=t := by
  rw [normalize_list_inj,sortedTexts,sortedTexts,List.map_map,List.map_map] at h
  have hp := (List.map_perm_map_iff normalize_text_injective).mp h
  ext x
  rw [←Finset.mem_sort (·≤·),hp.mem_iff,Finset.mem_sort]

/-- A list of signatures is determined as a set of values by its normal form. -/
theorem sortedSignatures_inj {α : Type} [DecidableEq α] [CoverableMatchableObject α]
    (hsig : Function.Injective (CoverableMatchableObject.signature (α:=α))) {s t : Finset α}
    (h : (PyData.list (sortedSignatures s)).normalize=
      (PyData.list (sortedSignatures t)).normalize) : s=t := by
  let _ : LinearOrder (List PyAtom) := LinearOrder.lift' tupleRepr tupleRepr_injective
  rw [normalize_list_inj,sortedSignatures,sortedSignatures,List.map_map,List.map_map] at h
  have hp := (List.map_perm_map_iff normalize_tuple_injective).mp h
  have hi : s.image CoverableMatchableObject.signature=
      t.image CoverableMatchableObject.signature := by
    ext x
    rw [←Finset.mem_sort (·≤·),hp.mem_iff,Finset.mem_sort]
  exact Finset.image_injective hsig hi

/-- Without hash collisions two rules share a signature exactly when their
normalized values are equal. -/
theorem exactSignature_inj {hashFunc : String → String} (hf : Function.Injective hashFunc)
    {a b : NormalizedRuleValues} :
    a.exactSignature hashFunc=b.exactSignature hashFunc ↔ a=b := by
  refine ⟨fun h => ?_,fun h => by rw [h]⟩
  have hfields := normalizeFields_eq_of_normalize ((jsonHash_inj hf).mp h) rfl
    (by simp only [List.map_cons,List.map_nil]; decide)
  simp only [normalizeFields,List.cons.injEq,Prod.mk.injEq,true_and,and_true] at hfields
  obtain ⟨haction,hsrcZones,hdstZones,hsrc,hdst,hservices⟩ := hfields
  cases a
  cases b
  rw [NormalizedRuleValues.mk.injEq]
  exact ⟨SdwanRuleAction.value_injective (normalize_text_injective haction),
    sort_text_inj hsrcZones,sort_text_inj hdstZones,
    sortedSignatures_inj AddressValue.signature_injective hsrc,
    sortedSignatures_inj AddressValue.signature_injective hdst,
    sortedSignatures_inj ServiceValue.signature_injective hservices⟩

end Signature

end NspMigrator.ExecuteCoverage
