import Mathlib
import NspMigrator.PyDict

/-!
# Bounded caches whose items expire

A cache keeps an item for a fixed time after it was set, and drops items when
it is full. What is promised of such a cache is stated by what it shows at
later times. A map without a bound, with the same lifetimes, says what a cache
is for, and a cache that is never full cannot be told from it.
-/

namespace NspMigrator.TtlCache

open PyDict

/-- What is stored under each key, and until when. -/
abbrev Items (κ α : Type) := κ → Option (α × ℚ)

/-- The value under a key, while its time has not come. -/
def live {κ α : Type} (items : Items κ α) (now : ℚ) (key : κ) : Option α :=
  ((items key).filter fun item => decide (now < item.2)).map Prod.fst

/-- A cache of at most `maxsize` items, each kept for `ttl` after it was set. -/
structure TTLCache (κ α : Type) [DecidableEq κ] (maxsize : ℕ) (ttl : ℚ) where
  /-- What a cache is made of. -/
  State : Type
  /-- A new cache. -/
  new : State
  /-- Reading a key at a time. -/
  getItem : State → ℚ → κ → Option α × State
  /-- Setting a key at a time. -/
  setItem : State → ℚ → κ → α → State
  /-- Removing a key at a time. -/
  popItem : State → ℚ → κ → State
  /-- Dropping what has expired. -/
  expire : State → ℚ → State
  /-- The keys at a time. -/
  keys : State → ℚ → List κ
  /-- What a state stores. -/
  items : State → Items κ α
  /-- There is nothing in a new cache. -/
  items_new : ∀ key,items new key=none
  /-- Reading finds what has not expired. -/
  getItem_value : ∀ s now key,(getItem s now key).1=live (items s) now key
  /-- Reading changes nothing that can be seen. -/
  live_getItem : ∀ s now later key other,now≤later →
    live (items (getItem s now key).2) later other=live (items s) later other
  /-- Dropping expired items changes nothing that can be seen. -/
  live_expire : ∀ s now later key,now≤later →
    live (items (expire s now)) later key=live (items s) later key
  /-- A removed key is gone, all others stay. -/
  live_popItem : ∀ s now later key other,now≤later →
    live (items (popItem s now key)) later other=
      if other=key then none else live (items s) later other
  /-- What is set is there for its time. -/
  live_setItem_self : ∀ s now later key value,now≤later →
    live (items (setItem s now key value)) later key=
      if later<now+ttl then some value else none
  /-- Setting a key leaves another one as it is, or drops it. -/
  live_setItem_other : ∀ s now key value other,other≠key →
    (∀ later,now≤later →
      live (items (setItem s now key value)) later other=live (items s) later other) ∨
    ∀ later,now≤later → live (items (setItem s now key value)) later other=none
  /-- A key is dropped only where the cache was full and the key set was not in it. -/
  live_setItem_kept : ∀ s now later key value other,other≠key → now≤later →
    ((live (items s) now key).isSome=true ∨ ∃ present : Finset κ,
      (∀ k,(live (items s) now k).isSome=true → k∈present) ∧ present.card < maxsize) →
    live (items (setItem s now key value)) later other=live (items s) later other
  /-- The keys listed are those that have not expired. -/
  mem_keys : ∀ s now key,key∈keys s now ↔ (live (items s) now key).isSome=true

section Live

variable {κ α : Type} {items : Items κ α} {now later : ℚ} {key : κ}

/-- What is there later is there now. -/
theorem live_of_later (h : now≤later) {value : α} (hlive : live items later key=some value) :
    live items now key=some value := by
  unfold live at *
  obtain ⟨item,hitem,hvalue⟩ := Option.map_eq_some_iff.mp hlive
  rw [Option.filter_eq_some_iff] at hitem
  rw [hitem.1,Option.filter_some,decide_eq_true (lt_of_le_of_lt h (of_decide_eq_true hitem.2))]
  exact congrArg some hvalue

variable [DecidableEq κ]

theorem live_update_self (value : α) (until_ : ℚ) :
    live (Function.update items key (some (value,until_))) later key=
      if later<until_ then some value else none := by
  rw [live,Function.update_self]
  by_cases h : later<until_
  · rw [if_pos h,Option.filter_some,decide_eq_true h]
    rfl
  · rw [if_neg h,Option.filter_some,decide_eq_false h]
    rfl

theorem live_update_of_ne {other : κ} (h : other≠key) (item : Option (α × ℚ)) :
    live (Function.update items key item) later other=live items later other := by
  rw [live,Function.update_of_ne h,live]

theorem live_update_none : live (Function.update items key none) later key=none := by
  rw [live,Function.update_self]
  rfl

end Live

section LastWritten

variable {κ α : Type} [DecidableEq κ]

/-- The entries that have not expired. -/
def unexpired (d : Dict κ (α × ℚ)) (now : ℚ) : Dict κ (α × ℚ) :=
  d.filterEntries fun entry => decide (now < entry.2.2)

/-- As many of the first entries are dropped as are too many for one more. -/
def makeRoom (d : Dict κ (α × ℚ)) (maxsize : ℕ) : Dict κ (α × ℚ) :=
  ⟨d.entries.drop (d.entries.length+1-maxsize),
    d.nodup.sublist ((List.drop_sublist _ _).map Prod.fst)⟩

/-- Set a key among what has not expired, with room made if it is a new one. -/
def setWithRoom (d : Dict κ (α × ℚ)) (maxsize : ℕ) (now until_ : ℚ) (key : κ) (value : α) :
    Dict κ (α × ℚ) :=
  if (unexpired d now).contains key=true then (unexpired d now).insert key (value,until_)
  else (makeRoom (unexpired d now) maxsize).insert key (value,until_)

theorem live_unexpired {d : Dict κ (α × ℚ)} {now later : ℚ} (h : now≤later) (key : κ) :
    live (unexpired d now).get? later key=live d.get? later key := by
  unfold live unexpired
  rw [Dict.get?_filterEntries,Option.filter_filter]
  congr 2
  funext item
  by_cases hlater : later < item.2
  · rw [decide_eq_true hlater,decide_eq_true (lt_of_le_of_lt h hlater)]
    rfl
  · rw [decide_eq_false hlater,Bool.and_false]

theorem isSome_live_unexpired {d : Dict κ (α × ℚ)} {now : ℚ} {key : κ} :
    (live d.get? now key).isSome=(unexpired d now).contains key := by
  unfold live unexpired Dict.contains
  rw [Dict.get?_filterEntries,Option.isSome_map]

/-- Making room leaves an entry or drops it. -/
theorem get?_makeRoom (d : Dict κ (α × ℚ)) (maxsize : ℕ) (key : κ) :
    (makeRoom d maxsize).get? key=d.get? key ∨ (makeRoom d maxsize).get? key=none := by
  cases h : (makeRoom d maxsize).get? key with
  | none => exact Or.inr rfl
  | some item =>
    have hmem := List.mem_of_mem_drop (Dict.get?_eq_some_iff.mp h)
    exact Or.inl (Dict.get?_eq_some_iff.mpr hmem).symm

omit [DecidableEq κ] in
/-- Where there is room, none is made. -/
theorem makeRoom_eq {d : Dict κ (α × ℚ)} {maxsize : ℕ} (h : d.entries.length < maxsize) :
    makeRoom d maxsize=d := by
  have hzero : d.entries.length+1-maxsize=0 := by omega
  obtain ⟨entries,hnodup⟩ := d
  dsimp only at hzero
  simp only [makeRoom,hzero,List.drop_zero]

theorem live_insert {d : Dict κ (α × ℚ)} {now until_ : ℚ} {key : κ} {value : α} :
    live (d.insert key (value,until_)).get? now=
      live (Function.update d.get? key (some (value,until_))) now := by
  have heq : (d.insert key (value,until_)).get?=
      Function.update d.get? key (some (value,until_)) := by
    funext other
    rw [Dict.get?_insert,Function.update_apply]
  rw [heq]

/-- Setting a key leaves another one, or drops it where there was no room. -/
theorem live_setWithRoom_of_ne {d : Dict κ (α × ℚ)} {maxsize : ℕ} {now until_ : ℚ} {key other : κ}
    (value : α) (hne : other≠key) :
    (∀ later,now≤later → live (setWithRoom d maxsize now until_ key value).get? later other=
      live d.get? later other) ∨
    (((unexpired d now).contains key=false ∧ ¬(unexpired d now).entries.length < maxsize) ∧
      ∀ later,now≤later →
        live (setWithRoom d maxsize now until_ key value).get? later other=none) := by
  unfold setWithRoom
  by_cases hkey : (unexpired d now).contains key=true
  · rw [if_pos hkey]
    refine Or.inl fun later hlater => ?_
    rw [live_insert,live_update_of_ne hne,live_unexpired hlater]
  · rw [if_neg hkey]
    by_cases hroom : (unexpired d now).entries.length < maxsize
    · rw [makeRoom_eq hroom]
      refine Or.inl fun later hlater => ?_
      rw [live_insert,live_update_of_ne hne,live_unexpired hlater]
    · rcases get?_makeRoom (unexpired d now) maxsize other with hsame|hnone
      · refine Or.inl fun later hlater => ?_
        rw [live_insert,live_update_of_ne hne,live,hsame,←live,live_unexpired hlater]
      · refine Or.inr ⟨⟨Bool.not_eq_true _▸hkey,hroom⟩,fun later _ => ?_⟩
        rw [live_insert,live_update_of_ne hne,live,hnone]
        rfl

/-- The cache that drops what was written first. -/
def lastWritten (maxsize : ℕ) (ttl : ℚ) :
    TTLCache κ α maxsize ttl where
  State := Dict κ (α × ℚ)
  new := .empty
  getItem d now key := (live d.get? now key,d)
  setItem d now key value := setWithRoom d maxsize now (now+ttl) key value
  popItem d _ key := d.filterEntries fun entry => decide (entry.1≠key)
  expire d now := unexpired d now
  keys d now := (unexpired d now).keys
  items d := d.get?
  items_new _ := rfl
  getItem_value _ _ _ := rfl
  live_getItem _ _ _ _ _ _ := rfl
  live_expire _ _ _ key h := live_unexpired h key
  live_popItem d now later key other _ := by
    rw [live,Dict.get?_filterEntries]
    by_cases h : other=key
    · simp [h]
    · simp [h,live]
  live_setItem_self d now later key value _ := by
    have hself : live (setWithRoom d maxsize now (now+ttl) key value).get? later key=
        if later < now+ttl then some value else none := by
      unfold setWithRoom
      split <;> rw [live_insert,live_update_self]
    exact hself
  live_setItem_other d now key value other hne := by
    have hother := @live_setWithRoom_of_ne κ α _ d maxsize now (now+ttl) key other value hne
    rcases hother with hkept|⟨-,hdropped⟩
    · exact Or.inl hkept
    · exact Or.inr hdropped
  live_setItem_kept d now later key value other hne hlater hroom := by
    have hother := @live_setWithRoom_of_ne κ α _ d maxsize now (now+ttl) key other value hne
    rcases hother with hkept|⟨⟨habsent,hfull⟩,-⟩
    · exact hkept later hlater
    rcases hroom with hpresent|⟨present,hall,hcard⟩
    · rw [isSome_live_unexpired,habsent] at hpresent
      cases hpresent
    · refine absurd (lt_of_le_of_lt ?_ hcard) hfull
      have hsub : (unexpired d now).keys.toFinset⊆present := by
        intro k hk
        refine hall k ?_
        rw [isSome_live_unexpired,Dict.contains_eq_true]
        exact Dict.exists_get?_of_mem_keys (List.mem_toFinset.mp hk)
      have hcount := Finset.card_le_card hsub
      rw [Dict.keys,List.toFinset_card_of_nodup (unexpired d now).nodup,List.length_map] at hcount
      exact hcount
  mem_keys d now key := by
    rw [isSome_live_unexpired,Dict.contains_eq_true]
    constructor
    · exact Dict.exists_get?_of_mem_keys
    · rintro ⟨item,hitem⟩
      exact List.mem_map.mpr ⟨_,Dict.get?_eq_some_iff.mp hitem,rfl⟩

end LastWritten

end NspMigrator.TtlCache
