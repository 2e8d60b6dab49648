import Mathlib

/-!
# Ordered rows in pages

A query returns the rows of a table in an order its keys leave open where they
are equal, so two queries need not agree. With a number of its own as the last
key of every row, they do, and pages that are read one after another make up
the whole listing.
-/

namespace NspMigrator.SqlPages

universe u v

variable {α : Type u} {κ : Type v}

/-- An order of keys, in which two keys may come in either order. -/
structure KeyOrder (κ : Type v) where
  /-- Whether a key may come before another. -/
  le : κ → κ → Bool
  /-- Of two keys one may. -/
  total : ∀ a b,le a b=true ∨ le b a=true
  /-- The order is transitive. -/
  trans : ∀ a b c,le a b=true → le b c=true → le a c=true

/-- Any linear order. -/
def KeyOrder.linear (κ : Type v) [LinearOrder κ] : KeyOrder κ where
  le a b := decide (a ≤ b)
  total a b := by
    rcases le_total a b with h|h
    · exact Or.inl (decide_eq_true h)
    · exact Or.inr (decide_eq_true h)
  trans _ _ _ hab hbc := decide_eq_true ((of_decide_eq_true hab).trans (of_decide_eq_true hbc))

/-- Keys of rows, in their order. -/
def KeyOrder.comap (order : KeyOrder κ) (key : α → κ) : KeyOrder α where
  le a b := order.le (key a) (key b)
  total a b := order.total (key a) (key b)
  trans a b c := order.trans (key a) (key b) (key c)

/-- Keys that may be missing, which then come last. -/
def KeyOrder.nullsLast (order : KeyOrder κ) : KeyOrder (Option κ) where
  le
    | _,none => true
    | none,some _ => false
    | some a,some b => order.le a b
  total a b := by
    cases a with
    | none => exact Or.inr (by cases b <;> rfl)
    | some a =>
      cases b with
      | none => exact Or.inl rfl
      | some b => exact order.total a b
  trans a b c hab hbc := by
    cases c with
    | none => cases a <;> rfl
    | some c =>
      cases b with
      | none => cases hbc
      | some b =>
        cases a with
        | none => cases hab
        | some a => exact order.trans a b c hab hbc

/-- The other way around. -/
def KeyOrder.reverse (order : KeyOrder κ) : KeyOrder κ where
  le a b := order.le b a
  total a b := order.total b a
  trans a b c hab hbc := order.trans c b a hbc hab

/-- Rows in the order of a key, and of their numbers where their keys are equal. -/
def orderBy (order : KeyOrder κ) (key : α → κ) (id : α → ℕ) (a b : α) : Prop :=
  order.le (key a) (key b)=true ∧ (order.le (key b) (key a)=true → id a ≤ id b)

instance (order : KeyOrder κ) (key : α → κ) (id : α → ℕ) :
    DecidableRel (orderBy order key id) := fun _ _ => inferInstanceAs (Decidable (_ ∧ _))

section Order

variable {order : KeyOrder κ} {key : α → κ} {id : α → ℕ}

/-- Of two rows one comes first. -/
theorem orderBy_total (a b : α) : orderBy order key id a b ∨ orderBy order key id b a := by
  by_cases hab : order.le (key a) (key b)=true
  · by_cases hba : order.le (key b) (key a)=true
    · rcases le_total (id a) (id b) with hid|hid
      · exact Or.inl ⟨hab,fun _ => hid⟩
      · exact Or.inr ⟨hba,fun _ => hid⟩
    · exact Or.inl ⟨hab,fun h => absurd h hba⟩
  · have hba : order.le (key b) (key a)=true := (order.total _ _).resolve_left hab
    exact Or.inr ⟨hba,fun h => absurd h hab⟩

theorem orderBy_trans {a b c : α} (hab : orderBy order key id a b)
    (hbc : orderBy order key id b c) : orderBy order key id a c := by
  refine ⟨order.trans _ _ _ hab.1 hbc.1,fun hca => ?_⟩
  have hba : order.le (key b) (key a)=true := order.trans _ _ _ hbc.1 hca
  have hcb : order.le (key c) (key b)=true := order.trans _ _ _ hca hab.1
  exact (hab.2 hba).trans (hbc.2 hcb)

instance : Std.Total (orderBy order key id) := ⟨orderBy_total⟩

instance : IsTrans α (orderBy order key id) := ⟨fun _ _ _ => orderBy_trans⟩

/-- Rows that may come in either order have the same number. -/
theorem id_eq_of_orderBy {a b : α} (hab : orderBy order key id a b)
    (hba : orderBy order key id b a) : id a=id b :=
  le_antisymm (hab.2 hba.1) (hba.2 hab.1)

end Order

/-- The rows of a query, in some order it leaves open. -/
structure Ordered (le : α → α → Prop) (rows out : List α) : Prop where
  /-- They are the same rows. -/
  perm : out.Perm rows
  /-- Each may come before those that follow. -/
  sorted : out.Pairwise le

/-- Sorting is one way to answer a query. -/
theorem ordered_insertionSort (le : α → α → Prop) [DecidableRel le] [Std.Total le] [IsTrans α le]
    (rows : List α) : Ordered le rows (rows.insertionSort le) :=
  ⟨List.perm_insertionSort _ _,List.pairwise_insertionSort _ _⟩

/-- Rows with numbers of their own are returned in one order only. -/
theorem Ordered.unique {order : KeyOrder κ} {key : α → κ} {id : α → ℕ} {rows out other : List α}
    (hids : (rows.map id).Nodup) (h : Ordered (orderBy order key id) rows out)
    (h' : Ordered (orderBy order key id) rows other) : out=other := by
  refine List.Perm.eq_of_pairwise ?_ h.sorted h'.sorted (h.perm.trans h'.perm.symm)
  intro a b ha hb hab hba
  exact List.inj_on_of_nodup_map hids (h.perm.subset ha) (h'.perm.subset hb)
    (id_eq_of_orderBy hab hba)

/-- A part of a listing: so many rows after the first ones. -/
def page (limit : Option ℕ) (offset : ℕ) (rows : List α) : List α :=
  match limit with
  | none => rows.drop offset
  | some limit => (rows.drop offset).take limit

/-- Pages of one size make up as much of a listing as they have room for. -/
theorem flatMap_page (rows : List α) (size count : ℕ) :
    (List.range count).flatMap (fun i => page (some size) (i*size) rows)=
      rows.take (count*size) := by
  induction count with
  | zero => simp
  | succ count ih =>
    rw [List.range_succ,List.flatMap_append,ih,Nat.succ_mul,List.take_add]
    simp [page]

/-- The one listing a filtered table has, however its rows lie at each query. -/
structure Listing (order : KeyOrder κ) (key : α → κ) (id : α → ℕ) (rows : List α) (keeps : α → Bool)
    (listing : List α) : Prop where
  /-- No row is listed twice. -/
  nodup : listing.Nodup
  /-- The rows are in order. -/
  sorted : listing.Pairwise (orderBy order key id)
  /-- Listed are the rows that pass the filter. -/
  mem : ∀ row,row∈listing ↔ row∈rows ∧ keeps row=true
  /-- Every query counts it and reads a part of it. -/
  query : ∀ table : List α,table.Perm rows → (table.filter keeps).length=listing.length ∧
    (table.filter keeps).insertionSort (orderBy order key id)=listing

/-- A filtered table with numbers of its own has a listing. -/
theorem listing_filter (order : KeyOrder κ) (key : α → κ) {id : α → ℕ} {rows : List α}
    (hids : (rows.map id).Nodup) (keeps : α → Bool) : Listing order key id rows keeps
      ((rows.filter keeps).insertionSort (orderBy order key id)) := by
  have hfilter : ((rows.filter keeps).map id).Nodup :=
    hids.sublist (List.filter_sublist.map id)
  have hsorted := ordered_insertionSort (orderBy order key id) (rows.filter keeps)
  constructor
  case nodup => exact hsorted.perm.nodup_iff.mpr hfilter.of_map
  case sorted => exact hsorted.sorted
  case mem =>
    intro row
    rw [List.mem_insertionSort,List.mem_filter]
  case query =>
    intro table htable
    have hperm := htable.filter keeps
    have htable := ordered_insertionSort (orderBy order key id) (table.filter keeps)
    refine ⟨by rw [hsorted.perm.length_eq,hperm.length_eq],?_⟩
    exact Ordered.unique hfilter ⟨htable.perm.trans hperm,htable.sorted⟩ hsorted

/-- The pages of a listing, read one after another, make it up. -/
theorem Listing.pages {order : KeyOrder κ} {key : α → κ} {id : α → ℕ} {rows listing : List α}
    {keeps : α → Bool} (h : Listing order key id rows keeps listing) {tables : ℕ → List α}
    (htables : ∀ i,(tables i).Perm rows) {size count : ℕ} (hcount : listing.length≤count*size) :
    (List.range count).flatMap (fun i => page (some size) (i*size)
      (((tables i).filter keeps).insertionSort (orderBy order key id)))=listing := by
  simp only [fun i => (h.query (tables i) (htables i)).2]
  rw [flatMap_page,List.take_of_length_le hcount]

/-- A condition on a filter that may be left out. -/
theorem all_eq_true {α : Type} {filter : Option α} {p : α → Bool} :
    filter.all p=true ↔ ∀ value,filter=some value → p value=true := by
  cases filter with
  | none =>
    constructor
    · intro _ value hvalue
      cases hvalue
    · exact fun _ => rfl
  | some value =>
    constructor
    · rintro h other ho
      cases ho
      exact h
    · exact fun h => h value rfl

end NspMigrator.SqlPages
