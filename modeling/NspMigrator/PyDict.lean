import Mathlib

/-!
# Insertion-ordered dictionaries

A dictionary is a list of entries without repeated keys. Setting an absent
key appends, setting a present key replaces in place, and iteration follows
the order in which keys were first set. Grouping and first-wins selection,
the two loops built on such dictionaries, get their own rules.
-/

namespace NspMigrator.PyDict

universe u v w

/-- A finite map whose entries stand in the order their keys were first set. -/
structure Dict (κ : Type u) (α : Type v) where
  /-- Entries in insertion order. -/
  entries : List (κ × α)
  /-- No key occurs twice. -/
  nodup : (entries.map Prod.fst).Nodup
  deriving DecidableEq

variable {κ : Type u} {α : Type v} {β : Type w} [DecidableEq κ]

/-- Replace the value of a present key in place, append an absent key. -/
def setEntry (key : κ) (value : α) : List (κ × α) → List (κ × α)
  | [] => [(key,value)]
  | entry::rest =>
    if entry.1=key then (key,value)::rest else entry::setEntry key value rest

/-- The first value stored under a key in an entry list. -/
def lookupEntry (key : κ) : List (κ × α) → Option α
  | [] => none
  | entry::rest => if entry.1=key then some entry.2 else lookupEntry key rest

/-- Setting an entry adds at most the key that was set. -/
theorem mem_keys_setEntry {key other : κ} {value : α} {entries : List (κ × α)} :
    other∈(setEntry key value entries).map Prod.fst ↔
      other=key ∨ other∈entries.map Prod.fst := by
  induction entries with
  | nil => simp [setEntry]
  | cons entry rest ih =>
    by_cases hk : entry.1=key
    · simp [setEntry,hk]
    · simp only [setEntry,if_neg hk,List.map_cons,List.mem_cons,ih]
      tauto

/-- Setting an entry never repeats a key. -/
theorem nodup_setEntry {key : κ} {value : α} {entries : List (κ × α)}
    (h : (entries.map Prod.fst).Nodup) :
    ((setEntry key value entries).map Prod.fst).Nodup := by
  induction entries with
  | nil => simp [setEntry]
  | cons entry rest ih =>
    rw [List.map_cons,List.nodup_cons] at h
    by_cases hk : entry.1=key
    · simp only [setEntry,if_pos hk,List.map_cons,List.nodup_cons]
      exact ⟨hk▸h.1,h.2⟩
    · simp only [setEntry,if_neg hk,List.map_cons,List.nodup_cons]
      refine ⟨?_,ih h.2⟩
      rw [mem_keys_setEntry]
      rintro (he|hm)
      · exact hk he
      · exact h.1 hm

namespace Dict

/-- The dictionary without entries. -/
def empty : Dict κ α := ⟨[],List.nodup_nil⟩

/-- The value stored under a key. -/
def get? (d : Dict κ α) (key : κ) : Option α := lookupEntry key d.entries

/-- Whether a key is present. -/
def contains (d : Dict κ α) (key : κ) : Bool := (d.get? key).isSome

/-- Set a key. -/
def insert (d : Dict κ α) (key : κ) (value : α) : Dict κ α :=
  ⟨setEntry key value d.entries,nodup_setEntry d.nodup⟩

/-- Set a key only when it is absent. -/
def setdefault (d : Dict κ α) (key : κ) (value : α) : Dict κ α :=
  if d.contains key=true then d else d.insert key value

/-- Values in insertion order of their keys. -/
def values (d : Dict κ α) : List α := d.entries.map Prod.snd

/-- Keys in insertion order. -/
def keys (d : Dict κ α) : List κ := d.entries.map Prod.fst

/-- Set every pair of a list in turn, so that the last value of a key wins. -/
def ofList (pairs : List (κ × α)) : Dict κ α :=
  pairs.foldl (fun d pair => d.insert pair.1 pair.2) empty

/-- Keep the entries that satisfy a condition. -/
def filterEntries (d : Dict κ α) (p : κ × α → Bool) : Dict κ α :=
  ⟨d.entries.filter p,d.nodup.sublist (List.filter_sublist.map Prod.fst)⟩

/-- Append to the list stored under a key, starting from the empty list. -/
def append (d : Dict κ (List α)) (key : κ) (value : α) : Dict κ (List α) :=
  d.insert key ((d.get? key).getD []++[value])

end Dict

/-- Looking up the key just set gives the new value. -/
theorem lookupEntry_setEntry_self (key : κ) (value : α) (entries : List (κ × α)) :
    lookupEntry key (setEntry key value entries)=some value := by
  induction entries with
  | nil => simp [setEntry,lookupEntry]
  | cons entry rest ih =>
    by_cases hk : entry.1=key
    · simp [setEntry,lookupEntry,hk]
    · simp [setEntry,lookupEntry,hk,ih]

/-- Setting one key leaves every other lookup unchanged. -/
theorem lookupEntry_setEntry_of_ne {key other : κ} (hne : other≠key) (value : α)
    (entries : List (κ × α)) :
    lookupEntry other (setEntry key value entries)=lookupEntry other entries := by
  induction entries with
  | nil => simp [setEntry,lookupEntry,hne.symm]
  | cons entry rest ih =>
    by_cases hk : entry.1=key
    · simp [setEntry,lookupEntry,hk,hne.symm]
    · simp [setEntry,lookupEntry,hk,ih]

/-- Without repeated keys a lookup finds exactly the listed entries. -/
theorem lookupEntry_eq_some_iff {key : κ} {value : α} {entries : List (κ × α)}
    (h : (entries.map Prod.fst).Nodup) :
    lookupEntry key entries=some value ↔ (key,value)∈entries := by
  induction entries with
  | nil => simp [lookupEntry]
  | cons entry rest ih =>
    rw [List.map_cons,List.nodup_cons] at h
    obtain ⟨k,a⟩ := entry
    by_cases hk : k=key
    · subst hk
      have hn : (k,value)∉rest := fun hm => h.1 (List.mem_map.mpr ⟨(k,value),hm,rfl⟩)
      simp only [lookupEntry,if_true,Option.some.injEq,List.mem_cons,Prod.mk.injEq,
        true_and,hn,or_false]
      exact eq_comm
    · simp only [lookupEntry,if_neg hk,ih h.2,List.mem_cons,Prod.mk.injEq]
      constructor
      · exact Or.inr
      · rintro (⟨he,-⟩|hm)
        · exact absurd he.symm hk
        · exact hm

namespace Dict

@[simp] theorem get?_empty (key : κ) : (empty : Dict κ α).get? key=none := rfl

@[simp] theorem get?_insert_self (d : Dict κ α) (key : κ) (value : α) :
    (d.insert key value).get? key=some value :=
  lookupEntry_setEntry_self key value d.entries

theorem get?_insert_of_ne (d : Dict κ α) {key other : κ} (hne : other≠key) (value : α) :
    (d.insert key value).get? other=d.get? other :=
  lookupEntry_setEntry_of_ne hne value d.entries

/-- One set changes exactly the lookup of its own key. -/
theorem get?_insert (d : Dict κ α) (key other : κ) (value : α) :
    (d.insert key value).get? other=if other=key then some value else d.get? other := by
  by_cases h : other=key
  · subst h
    rw [get?_insert_self,if_pos rfl]
  · rw [get?_insert_of_ne d h,if_neg h]

/-- The entries of one dictionary written over those of another. -/
theorem get?_foldl_insert (key : κ) {entries : List (κ × α)} (hnodup : (entries.map Prod.fst).Nodup)
    (d : Dict κ α) :
    (entries.foldl (fun d entry => d.insert entry.1 entry.2) d).get? key=
      (lookupEntry key entries).or (d.get? key) := by
  induction entries generalizing d with
  | nil => rfl
  | cons entry entries ih =>
    rw [List.map_cons,List.nodup_cons] at hnodup
    rw [List.foldl_cons,ih hnodup.2,get?_insert,lookupEntry]
    by_cases hk : entry.1=key
    · have hnone : lookupEntry key entries=none := by
        rw [Option.eq_none_iff_forall_ne_some]
        intro value hvalue
        rw [lookupEntry_eq_some_iff hnodup.2] at hvalue
        exact hnodup.1 (hk▸List.mem_map.mpr ⟨_,hvalue,rfl⟩)
      rw [hnone,if_pos hk.symm,if_pos hk]
      rfl
    · rw [if_neg (Ne.symm hk),if_neg hk]

/-- Lookups are membership of entries. -/
theorem get?_eq_some_iff {d : Dict κ α} {key : κ} {value : α} :
    d.get? key=some value ↔ (key,value)∈d.entries :=
  lookupEntry_eq_some_iff d.nodup

/-- A value found under a key is one of the values. -/
theorem mem_values_of_get? {d : Dict κ α} {key : κ} {value : α} (h : d.get? key=some value) :
    value∈d.values :=
  List.mem_map_of_mem (get?_eq_some_iff.mp h)

/-- Every value is found under some key. -/
theorem exists_get?_of_mem_values {d : Dict κ α} {value : α} (h : value∈d.values) :
    ∃ key,d.get? key=some value := by
  obtain ⟨entry,he,hv⟩ := List.mem_map.mp h
  exact ⟨entry.1,get?_eq_some_iff.mpr (hv▸he)⟩

/-- A kept entry is found, a dropped one is not. -/
theorem get?_filterEntries (d : Dict κ α) (p : κ × α → Bool) (key : κ) :
    (d.filterEntries p).get? key=(d.get? key).filter fun value => p (key,value) := by
  cases h : d.get? key with
  | none =>
    rw [Option.filter_none,Option.eq_none_iff_forall_ne_some]
    intro value hvalue
    have hmem := (List.mem_filter.mp (get?_eq_some_iff.mp hvalue)).1
    rw [get?_eq_some_iff.mpr hmem] at h
    cases h
  | some value =>
    have hmem := get?_eq_some_iff.mp h
    by_cases hp : p (key,value)=true
    · rw [Option.filter_some,if_pos hp]
      exact get?_eq_some_iff.mpr (List.mem_filter.mpr ⟨hmem,hp⟩)
    · rw [Option.filter_some,if_neg hp,Option.eq_none_iff_forall_ne_some]
      intro other hother
      have hkept := List.mem_filter.mp (get?_eq_some_iff.mp hother)
      rw [get?_eq_some_iff.mpr hkept.1] at h
      cases h
      exact hp hkept.2

/-- Every key has a value. -/
theorem exists_get?_of_mem_keys {d : Dict κ α} {key : κ} (h : key∈d.keys) :
    ∃ value,d.get? key=some value := by
  obtain ⟨entry,hentry,rfl⟩ := List.mem_map.mp h
  exact ⟨entry.2,get?_eq_some_iff.mpr hentry⟩

@[simp] theorem contains_eq_true {d : Dict κ α} {key : κ} :
    d.contains key=true ↔ ∃ value,d.get? key=some value := by
  rw [contains,Option.isSome_iff_exists]

/-- A default leaves a present key alone. -/
theorem setdefault_of_get? {d : Dict κ α} {key : κ} {old : α} (h : d.get? key=some old)
    (value : α) : d.setdefault key value=d := by
  rw [setdefault,if_pos (contains_eq_true.mpr ⟨old,h⟩)]

/-- A default sets an absent key. -/
theorem setdefault_of_none {d : Dict κ α} {key : κ} (h : d.get? key=none) (value : α) :
    d.setdefault key value=d.insert key value := by
  have hc : ¬d.contains key=true := by simp [contains,h]
  rw [setdefault,if_neg hc]

/-- Defaults keep the value a key already had. -/
theorem get?_setdefault (d : Dict κ α) (key other : κ) (value : α) :
    (d.setdefault key value).get? other=
      if other=key then some ((d.get? key).getD value) else d.get? other := by
  cases h : d.get? key with
  | none =>
    rw [setdefault_of_none h,get?_insert]
    rfl
  | some old =>
    rw [setdefault_of_get? h]
    split
    · next he => rw [he,h]; rfl
    · rfl

/-- Appending changes exactly the list of its own key. -/
theorem getD_append (d : Dict κ (List α)) (key other : κ) (value : α) :
    ((d.append key value).get? other).getD []=
      (d.get? other).getD []++(if other=key then [value] else []) := by
  rw [append,get?_insert]
  split
  · next he => rw [he]; rfl
  · rw [List.append_nil]

/-- A dictionary built pair by pair holds only the pairs it was given. -/
theorem mem_of_get?_ofList {pairs : List (κ × α)} {key : κ} {value : α}
    (h : (ofList pairs).get? key=some value) : (key,value)∈pairs := by
  have hrun : ∀ (d : Dict κ α) (rest : List (κ × α)),
      (rest.foldl (fun d pair => d.insert pair.1 pair.2) d).get? key=some value →
        d.get? key=some value ∨ (key,value)∈rest := by
    intro d rest
    induction rest generalizing d with
    | nil => exact Or.inl
    | cons pair rest ih =>
      intro h
      rcases ih _ h with h|h
      · rw [get?_insert] at h
        split at h
        · next hk =>
          rw [Option.some.injEq] at h
          exact Or.inr (by rw [hk,←h]; exact List.mem_cons_self)
        · exact Or.inl h
      · exact Or.inr (List.mem_cons_of_mem _ h)
  rcases hrun empty pairs h with h|h
  · cases h
  · exact h

/-- A dictionary built pair by pair has every key it was given. -/
theorem exists_get?_ofList {pairs : List (κ × α)} {key : κ} {value : α}
    (h : (key,value)∈pairs) : ∃ found,(ofList pairs).get? key=some found := by
  have hrun : ∀ (d : Dict κ α) (rest : List (κ × α)),
      (∃ found,d.get? key=some found) ∨ (key,value)∈rest →
      ∃ found,(rest.foldl (fun d pair => d.insert pair.1 pair.2) d).get? key=some found := by
    intro d rest
    induction rest generalizing d with
    | nil =>
      rintro (h|h)
      · exact h
      · cases h
    | cons pair rest ih =>
      intro h
      refine ih _ ?_
      by_cases hk : key=pair.1
      · exact Or.inl ⟨pair.2,by rw [get?_insert,if_pos hk]⟩
      · rcases h with ⟨found,hf⟩|h
        · exact Or.inl ⟨found,by rw [get?_insert,if_neg hk,hf]⟩
        · rcases List.mem_cons.mp h with rfl|h
          · exact absurd rfl hk
          · exact Or.inr h
  exact hrun empty pairs (Or.inr h)

end Dict

/-- The grouping loop: append every value to the list of its key. -/
def groupPairs (pairs : List (κ × α)) : Dict κ (List α) :=
  pairs.foldl (fun d pair => d.append pair.1 pair.2) Dict.empty

/-- Group items by a key of their own. -/
def groupBy (key : α → κ) (items : List α) : Dict κ (List α) :=
  groupPairs (items.map fun item => (key item,item))

/-- The grouping loop started from any dictionary. -/
theorem getD_foldl_append (k : κ) (pairs : List (κ × α)) (d : Dict κ (List α)) :
    ((pairs.foldl (fun d pair => d.append pair.1 pair.2) d).get? k).getD []=
      (d.get? k).getD []++
        (pairs.filter (fun pair => decide (pair.1=k))).map Prod.snd := by
  induction pairs generalizing d with
  | nil => simp
  | cons pair rest ih =>
    rw [List.foldl_cons,ih,Dict.getD_append,List.append_assoc]
    by_cases hk : pair.1=k
    · simp [hk]
    · simp [hk,Ne.symm hk]

/-- A group lists the values of its key in their original order. -/
theorem getD_groupPairs (k : κ) (pairs : List (κ × α)) :
    ((groupPairs pairs).get? k).getD []=
      (pairs.filter (fun pair => decide (pair.1=k))).map Prod.snd := by
  rw [groupPairs,getD_foldl_append]
  rfl

/-- A group lists the items of its key in their original order. -/
theorem getD_groupBy (key : α → κ) (k : κ) (items : List α) :
    ((groupBy key items).get? k).getD []=items.filter (fun item => decide (key item=k)) := by
  rw [groupBy,getD_groupPairs,List.filter_map,List.map_map]
  exact List.map_id' _

/-- Grouping loses no value and repeats none. -/
theorem flatMap_groupPairs (pairs : List (κ × α)) :
    ((groupPairs pairs).entries.flatMap Prod.snd).Perm (pairs.map Prod.snd) := by
  have hset : ∀ (key : κ) (value : α) (entries : List (κ × List α)),
      ((setEntry key ((lookupEntry key entries).getD []++[value]) entries).flatMap Prod.snd).Perm
        (entries.flatMap Prod.snd++[value]) := by
    intro key value entries
    induction entries with
    | nil => simp [setEntry,lookupEntry]
    | cons entry rest ih =>
      by_cases hk : entry.1=key
      · simp only [setEntry,lookupEntry,if_pos hk,Option.getD_some,List.flatMap_cons,
          List.append_assoc]
        exact (List.perm_append_comm).append_left entry.2
      · simp only [setEntry,lookupEntry,if_neg hk,List.flatMap_cons,List.append_assoc]
        exact ih.append_left entry.2
  have hfold : ∀ (rest : List (κ × α)) (d : Dict κ (List α)),
      ((rest.foldl (fun d pair => d.append pair.1 pair.2) d).entries.flatMap Prod.snd).Perm
        (d.entries.flatMap Prod.snd++rest.map Prod.snd) := by
    intro rest
    induction rest with
    | nil => simp
    | cons pair rest ih =>
      intro d
      have hpair := hset pair.1 pair.2 d.entries
      rw [List.foldl_cons,List.map_cons,List.append_cons]
      exact (ih _).trans (hpair.append_right _)
  exact hfold pairs Dict.empty

/-- The first-wins loop: keep the first item of every key. -/
def distinctBy (key : β → κ) (items : List β) : List β :=
  (items.foldl (fun d item => d.setdefault (key item) item) Dict.empty).values

/-- What the first-wins loop stores under a key. -/
theorem get?_foldl_setdefault (key : β → κ) (k : κ) (items : List β) (d : Dict κ β) :
    (items.foldl (fun d item => d.setdefault (key item) item) d).get? k=
      (d.get? k).or (items.find? (fun item => decide (key item=k))) := by
  induction items generalizing d with
  | nil => simp
  | cons item rest ih =>
    rw [List.foldl_cons,ih,Dict.get?_setdefault,List.find?_cons]
    by_cases hk : key item=k
    · subst hk
      cases hd : d.get? (key item) <;> simp
    · rw [if_neg (Ne.symm hk)]
      simp [hk]

/-- The first-wins loop keeps only items it was given. -/
theorem mem_of_mem_distinctBy {key : β → κ} {items : List β} {item : β}
    (h : item∈distinctBy key items) : item∈items := by
  obtain ⟨k,hk⟩ := Dict.exists_get?_of_mem_values h
  rw [get?_foldl_setdefault,Dict.get?_empty,Option.none_or] at hk
  exact List.mem_of_find?_eq_some hk

/-- The first-wins loop represents every item by one with the same key. -/
theorem exists_mem_distinctBy (key : β → κ) {items : List β} {item : β} (h : item∈items) :
    ∃ kept∈distinctBy key items,key kept=key item := by
  cases hf : items.find? (fun other => decide (key other=key item)) with
  | none =>
    rw [List.find?_eq_none] at hf
    exact absurd (decide_eq_true rfl) (hf item h)
  | some kept =>
    refine ⟨kept,?_,by simpa using List.find?_some hf⟩
    apply Dict.mem_values_of_get? (κ:=κ)
    rw [get?_foldl_setdefault,Dict.get?_empty,Option.none_or]
    exact hf

/-- The first-wins loop stores every item under its own key. -/
theorem key_foldl_setdefault (key : β → κ) {k : κ} {item : β} {items : List β}
    (h : (items.foldl (fun d item => d.setdefault (key item) item) Dict.empty).get? k=some item) :
    key item=k := by
  rw [get?_foldl_setdefault,Dict.get?_empty,Option.none_or] at h
  have hkey := List.find?_some h
  exact of_decide_eq_true hkey

/-- A dictionary that stores every value under its own key lists its keys. -/
theorem map_values_eq_keys {d : Dict κ β} {key : β → κ}
    (h : ∀ k item,d.get? k=some item → key item=k) : d.values.map key=d.keys := by
  rw [Dict.values,Dict.keys,List.map_map]
  apply List.map_congr_left
  intro entry he
  exact h entry.1 entry.2 (Dict.get?_eq_some_iff.mpr he)

/-- The first-wins loop keeps no key twice. -/
theorem nodup_distinctBy (key : β → κ) (items : List β) :
    ((distinctBy key items).map key).Nodup := by
  rw [distinctBy,map_values_eq_keys fun k item => key_foldl_setdefault key]
  exact Dict.nodup _

/-- Setting an absent key appends its value. -/
theorem values_insert_of_none {d : Dict κ α} {key : κ} (h : d.get? key=none) (value : α) :
    (d.insert key value).values=d.values++[value] := by
  have hentries : ∀ entries : List (κ × α),lookupEntry key entries=none →
      setEntry key value entries=entries++[(key,value)] := by
    intro entries
    induction entries with
    | nil => exact fun _ => rfl
    | cons entry rest ih =>
      intro hnone
      by_cases hk : entry.1=key
      · simp [lookupEntry,hk] at hnone
      · rw [lookupEntry,if_neg hk] at hnone
        rw [setEntry,if_neg hk,ih hnone,List.cons_append]
  show (setEntry key value d.entries).map Prod.snd=d.values++[value]
  rw [hentries d.entries h,List.map_append]
  rfl

/-- One more item is kept unless its key was met before. -/
theorem distinctBy_append_singleton (key : β → κ) (items : List β) (item : β) :
    distinctBy key (items++[item])=
      if key item∈(distinctBy key items).map key then distinctBy key items
      else distinctBy key items++[item] := by
  have hmem : key item∈(distinctBy key items).map key ↔ key item∈items.map key := by
    constructor
    · intro h
      obtain ⟨kept,hkept,heq⟩ := List.mem_map.mp h
      exact heq▸List.mem_map_of_mem (mem_of_mem_distinctBy hkept)
    · intro h
      obtain ⟨other,ho,heq⟩ := List.mem_map.mp h
      obtain ⟨kept,hkept,hsame⟩ := exists_mem_distinctBy key ho
      exact List.mem_map.mpr ⟨kept,hkept,hsame.trans heq⟩
  have hget := get?_foldl_setdefault key (key item) items Dict.empty
  rw [Dict.get?_empty,Option.none_or] at hget
  rw [distinctBy,List.foldl_append,List.foldl_cons,List.foldl_nil]
  by_cases h : key item∈items.map key
  · obtain ⟨other,ho,heq⟩ := List.mem_map.mp h
    obtain ⟨found,hfound⟩ : ∃ found,items.find? (fun other => decide (key other=key item))=
        some found := by
      rw [←Option.isSome_iff_exists,List.find?_isSome]
      exact ⟨other,ho,by simpa using heq⟩
    rw [if_pos (hmem.mpr h),Dict.setdefault_of_get? (hget.trans hfound),distinctBy]
  · have hnone : items.find? (fun other => decide (key other=key item))=none := by
      rw [List.find?_eq_none]
      intro other ho hk
      exact h (of_decide_eq_true hk▸List.mem_map_of_mem ho)
    rw [if_neg (hmem.not.mpr h),Dict.setdefault_of_none (hget.trans hnone),
      values_insert_of_none (hget.trans hnone),distinctBy]

/-- The loading loop: items under distinct free keys are all stored. -/
theorem foldlM_insert {ε : Type*} {step : Dict κ α → β → Except ε (Dict κ α)} {key : β → κ}
    {value : β → α} {items : List β} (hnodup : (items.map key).Nodup)
    (hstep : ∀ d,∀ item∈items,d.get? (key item)=none →
      step d item=.ok (d.insert (key item) (value item)))
    {d : Dict κ α} (hfree : ∀ item∈items,d.get? (key item)=none) :
    ∃ loaded,items.foldlM step d=.ok loaded ∧ ∀ k v,loaded.get? k=some v ↔
      d.get? k=some v ∨ ∃ item∈items,key item=k ∧ value item=v := by
  induction items generalizing d with
  | nil => exact ⟨d,rfl,fun k v => by simp⟩
  | cons first rest ih =>
    rw [List.map_cons,List.nodup_cons] at hnodup
    have hfirst : d.get? (key first)=none := hfree first List.mem_cons_self
    have hrest : ∀ item∈rest,(d.insert (key first) (value first)).get? (key item)=none := by
      intro item hi
      have hne : key item≠key first := by
        intro he
        exact hnodup.1 (he ▸ List.mem_map_of_mem hi)
      rw [Dict.get?_insert_of_ne d hne]
      exact hfree item (List.mem_cons_of_mem _ hi)
    obtain ⟨loaded,heq,hget⟩ := ih hnodup.2
      (fun d item hi => hstep d item (List.mem_cons_of_mem _ hi)) hrest
    refine ⟨loaded,by rw [List.foldlM_cons,hstep d first List.mem_cons_self hfirst]; exact heq,?_⟩
    intro k v
    rw [hget,Dict.get?_insert]
    simp only [List.mem_cons,exists_eq_or_imp]
    split
    · next hk =>
      subst hk
      simp only [Option.some.injEq,hfirst,reduceCtorEq,false_or,true_and]
    · next hk => simp only [Ne.symm hk,false_and,false_or]

end NspMigrator.PyDict
