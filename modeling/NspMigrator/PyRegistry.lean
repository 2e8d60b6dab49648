import Mathlib
import NspMigrator.PyDict

/-!
# Registries with fresh numbers

Values are registered once per key. The first value of a key keeps its place
and its number, every later one only uses a number up, and no two entries
share a number.
-/

namespace NspMigrator.PyRegistry

open PyDict

universe u v

/-- A value with the number it was given. -/
structure Entry (α : Type v) where
  /-- The number, unique among all that were ever given. -/
  id : ℕ
  /-- What is registered. -/
  value : α
  deriving DecidableEq

/-- Entries by key, with the supply of numbers. -/
structure Registry {κ : Type u} {α : Type v} [DecidableEq κ] (key : α → κ) where
  /-- The entries under their keys. -/
  entries : Dict κ (Entry α)
  /-- The next number to give. -/
  nextId : ℕ
  /-- An entry stands under the key of its value. -/
  key_eq : ∀ k e,entries.get? k=some e → key e.value=k
  /-- Numbers in use were given before. -/
  id_lt : ∀ k e,entries.get? k=some e → e.id<nextId
  /-- No two entries share a number. -/
  id_inj : ∀ k l e f,entries.get? k=some e → entries.get? l=some f → e.id=f.id → k=l

variable {κ : Type u} {α : Type v} [DecidableEq κ] {key : α → κ}

namespace Registry

/-- The registry without entries. -/
def empty : Registry key where
  entries := Dict.empty
  nextId := 0
  key_eq k e h := by cases h
  id_lt k e h := by cases h
  id_inj k l e f h := by cases h

/-- The entry registered under a key. -/
def get? (r : Registry key) (k : κ) : Option (Entry α) := r.entries.get? k

/-- The entry with a number. -/
def find? (r : Registry key) (id : ℕ) : Option (Entry α) :=
  r.entries.values.find? fun e => decide (e.id=id)

/-- Give a number away. -/
def allocate (r : Registry key) : Registry key where
  entries := r.entries
  nextId := r.nextId+1
  key_eq := r.key_eq
  id_lt k e h := Nat.lt_succ_of_lt (r.id_lt k e h)
  id_inj := r.id_inj

/-- Register a value under its key with the next number. -/
def insertNew (r : Registry key) (value : α) : Registry key where
  entries := r.entries.insert (key value) ⟨r.nextId,value⟩
  nextId := r.nextId+1
  key_eq k e he := by
    rw [Dict.get?_insert] at he
    split at he
    · next hk =>
      rw [Option.some.injEq] at he
      rw [←he,hk]
    · exact r.key_eq k e he
  id_lt k e he := by
    rw [Dict.get?_insert] at he
    split at he
    · rw [Option.some.injEq] at he
      rw [←he]
      exact Nat.lt_succ_self _
    · exact Nat.lt_succ_of_lt (r.id_lt k e he)
  id_inj k l e f he hf hid := by
    rw [Dict.get?_insert] at he hf
    split at he
    · next hk =>
      split at hf
      · next hl => rw [hk,hl]
      · rw [Option.some.injEq] at he
        have hlt := r.id_lt l f hf
        rw [←hid,←he] at hlt
        exact absurd hlt (lt_irrefl _)
    · split at hf
      · rw [Option.some.injEq] at hf
        have hlt := r.id_lt k e he
        rw [hid,←hf] at hlt
        exact absurd hlt (lt_irrefl _)
      · exact r.id_inj k l e f he hf hid

/-- Register a value unless its key is taken. A number is used up either way. -/
def register (r : Registry key) (value : α) : Registry key :=
  if r.get? (key value)=none then r.insertNew value else r.allocate

/-- Registration changes the lookup of a free key only. -/
theorem get?_register (r : Registry key) (value : α) (k : κ) :
    (r.register value).get? k=
      if k=key value ∧ r.get? (key value)=none then some ⟨r.nextId,value⟩ else r.get? k := by
  by_cases h : r.get? (key value)=none
  · rw [register,if_pos h]
    show (r.entries.insert (key value) ⟨r.nextId,value⟩).get? k=_
    rw [Dict.get?_insert]
    by_cases hk : k=key value
    · rw [if_pos hk,if_pos ⟨hk,h⟩]
    · rw [if_neg hk,if_neg (fun hc => hk hc.1)]
      rfl
  · rw [register,if_neg h,if_neg (fun hc => h hc.2)]
    rfl

@[simp] theorem nextId_register (r : Registry key) (value : α) :
    (r.register value).nextId=r.nextId+1 := by
  rw [register]
  split
  · rfl
  · rfl

/-- A registered key has an entry. -/
theorem exists_get?_register (r : Registry key) (value : α) :
    ∃ e,(r.register value).get? (key value)=some e ∧
      (r.get? (key value)=some e ∨ r.get? (key value)=none ∧ e=⟨r.nextId,value⟩) := by
  rw [get?_register]
  cases h : r.get? (key value) with
  | none => exact ⟨_,if_pos ⟨rfl,rfl⟩,Or.inr ⟨rfl,rfl⟩⟩
  | some e => exact ⟨e,by simp,Or.inl rfl⟩

/-- The entry with a number is the one registered under the key of its value. -/
theorem find?_eq_some {r : Registry key} {id : ℕ} {e : Entry α} :
    r.find? id=some e ↔ r.get? (key e.value)=some e ∧ e.id=id := by
  constructor
  · intro h
    have hid := List.find?_some h
    have hm := List.mem_of_find?_eq_some h
    obtain ⟨k,hk⟩ := Dict.exists_get?_of_mem_values hm
    refine ⟨?_,of_decide_eq_true hid⟩
    rw [r.key_eq k e hk]
    exact hk
  · rintro ⟨h,hid⟩
    have hm : e∈r.entries.values := Dict.mem_values_of_get? h
    cases hf : r.find? id with
    | none =>
      rw [find?,List.find?_eq_none] at hf
      exact absurd (decide_eq_true hid) (hf e hm)
    | some f =>
      rw [find?] at hf
      have hp := List.find?_some hf
      have hfid : f.id=id := of_decide_eq_true hp
      obtain ⟨l,hl⟩ := Dict.exists_get?_of_mem_values (List.mem_of_find?_eq_some hf)
      have hkl := r.id_inj _ l e f h hl (hid.trans hfid.symm)
      subst hkl
      exact hl.symm.trans h

/-- A number finds an entry exactly when an entry has it. -/
theorem exists_find?_iff {r : Registry key} {id : ℕ} :
    (∃ e,r.find? id=some e) ↔ ∃ e∈r.entries.values,e.id=id := by
  constructor
  · rintro ⟨e,he⟩
    have hp := List.find?_some he
    exact ⟨e,List.mem_of_find?_eq_some he,of_decide_eq_true hp⟩
  · rintro ⟨e,he,hid⟩
    obtain ⟨k,hk⟩ := Dict.exists_get?_of_mem_values he
    have hkey := r.key_eq k e hk
    exact ⟨e,find?_eq_some.mpr ⟨hkey▸hk,hid⟩⟩

/-- No two entries have the same key. -/
theorem nodup_keys (r : Registry key) : (r.entries.values.map fun e => key e.value).Nodup := by
  rw [map_values_eq_keys r.key_eq]
  exact r.entries.nodup

/-- No two entries have the same number. -/
theorem nodup_ids (r : Registry key) : (r.entries.values.map (·.id)).Nodup := by
  refine (List.nodup_map_iff_inj_on r.nodup_keys.of_map).mpr fun e he f hf hid => ?_
  obtain ⟨k,hk⟩ := Dict.exists_get?_of_mem_values he
  obtain ⟨l,hl⟩ := Dict.exists_get?_of_mem_values hf
  have hkl := r.id_inj k l e f hk hl hid
  subst hkl
  exact Option.some.inj (hk.symm.trans hl)

/-- A later registry: every entry kept, numbers only used up. -/
structure Later (r r' : Registry key) : Prop where
  /-- Entries keep their place, number and value. -/
  get?_eq : ∀ k e,r.get? k=some e → r'.get? k=some e
  /-- Numbers are not given back. -/
  nextId_le : r.nextId≤r'.nextId

theorem Later.refl (r : Registry key) : Later r r := ⟨fun _ _ h => h,le_rfl⟩

theorem Later.trans {r r' r'' : Registry key} (h : Later r r') (h' : Later r' r'') :
    Later r r'' :=
  ⟨fun k e he => h'.get?_eq k e (h.get?_eq k e he),h.nextId_le.trans h'.nextId_le⟩

theorem later_register (r : Registry key) (value : α) : Later r (r.register value) := by
  refine ⟨fun k e he => ?_,by rw [nextId_register]; exact Nat.le_succ _⟩
  rw [get?_register,if_neg]
  · exact he
  · rintro ⟨hk,hn⟩
    rw [hk,hn] at he
    cases he

/-- An entry keeps its number. -/
theorem Later.find?_eq {r r' : Registry key} (h : Later r r') {id : ℕ} {e : Entry α}
    (he : r.find? id=some e) : r'.find? id=some e := by
  obtain ⟨hk,hid⟩ := find?_eq_some.mp he
  exact find?_eq_some.mpr ⟨h.get?_eq _ e hk,hid⟩

end Registry

end NspMigrator.PyRegistry
