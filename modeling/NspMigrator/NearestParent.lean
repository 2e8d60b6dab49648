import Mathlib

/-!
# Nearest smaller predecessors

Positions carry keys, and the parent of a position is the nearest earlier one
with a smaller key. A stack of the positions that can still be a parent finds
it in one pass. Parents come before their children, so positions form a forest.
-/

namespace NspMigrator.NearestParent

universe u

section Stack

variable {α : Type u} [LinearOrder α] {key : ℕ → α} {n : ℕ} {stack : List (α × ℕ)}

/-- The nearest of the first positions whose key is smaller, if there is one. -/
def Nearest (key : ℕ → α) (n : ℕ) (x : α) : Option ℕ → Prop
  | none => ∀ j<n,x≤key j
  | some j => j<n ∧ key j<x ∧ ∀ k,j<k → k<n → x≤key k

/-- A stack of positions that can be the parent of the next one: keys and positions fall
from its top, and every position is dominated by one that is not earlier. -/
structure Visible (key : ℕ → α) (n : ℕ) (stack : List (α × ℕ)) : Prop where
  /-- Positions that came before, with their keys. -/
  entry : ∀ p∈stack,p.2<n ∧ p.1=key p.2
  /-- Both fall from the top. -/
  sorted : stack.Pairwise fun p q => q.2<p.2 ∧ q.1<p.1
  /-- Every earlier position is dominated by one on the stack. -/
  cover : ∀ j<n,∃ p∈stack,j≤p.2 ∧ p.1≤key j

/-- Only the keys of the first positions count. -/
theorem Nearest.congr {other : ℕ → α} {x : α} {parent : Option ℕ}
    (hkeys : ∀ j<n,key j=other j) (h : Nearest key n x parent) : Nearest other n x parent := by
  cases parent with
  | none => exact fun j hj => hkeys j hj▸h j hj
  | some j =>
    obtain ⟨hj,hsmaller,hbetween⟩ := h
    exact ⟨hj,hkeys j hj▸hsmaller,fun k hk hkn => hkeys k hkn▸hbetween k hk hkn⟩

theorem Visible.congr {other : ℕ → α} (hkeys : ∀ j<n,key j=other j) (h : Visible key n stack) :
    Visible other n stack where
  entry p hp := ⟨(h.entry p hp).1,by rw [←hkeys p.2 (h.entry p hp).1,(h.entry p hp).2]⟩
  sorted := h.sorted
  cover j hj := by
    obtain ⟨p,hp,hle,hkey⟩ := h.cover j hj
    exact ⟨p,hp,hle,hkeys j hj▸hkey⟩

/-- The stack without the entries whose key is not smaller. -/
def popNotSmaller (x : α) (stack : List (α × ℕ)) : List (α × ℕ) :=
  stack.dropWhile fun p => decide (x≤p.1)

theorem visible_nil : Visible key 0 [] where
  entry _ h := absurd h List.not_mem_nil
  sorted := List.Pairwise.nil
  cover _ h := absurd h (Nat.not_lt_zero _)

/-- What is popped has a key that is not smaller; what is left is below it. -/
theorem mem_popNotSmaller_or {x : α} {p : α × ℕ} (h : p∈stack) :
    p∈popNotSmaller x stack ∨ x≤p.1 ∧ ∀ q∈popNotSmaller x stack,
      stack.Pairwise (fun p q => q.2<p.2 ∧ q.1<p.1) → q.2<p.2 := by
  rw [←List.takeWhile_append_dropWhile (p:=fun p : α × ℕ => decide (x≤p.1)) (l:=stack)] at h
  rcases List.mem_append.mp h with h|h
  · have hpopped := List.mem_takeWhile_imp h
    refine Or.inr ⟨of_decide_eq_true hpopped,fun q hq hsorted => ?_⟩
    rw [←List.takeWhile_append_dropWhile (p:=fun p : α × ℕ => decide (x≤p.1)) (l:=stack)]
      at hsorted
    exact ((List.pairwise_append.mp hsorted).2.2 p h q hq).1
  · exact Or.inl h

/-- Everything left on the stack has a smaller key. -/
theorem lt_of_mem_popNotSmaller {x : α} {p : α × ℕ}
    (hsorted : stack.Pairwise fun p q => q.2<p.2 ∧ q.1<p.1) (h : p∈popNotSmaller x stack) :
    p.1<x := by
  have hleft : (popNotSmaller x stack).Pairwise fun p q => q.2<p.2 ∧ q.1<p.1 :=
    hsorted.sublist (List.dropWhile_sublist _)
  cases hrest : popNotSmaller x stack with
  | nil =>
    rw [hrest] at h
    exact absurd h List.not_mem_nil
  | cons top rest =>
    have htop : top.1<x := by
      have hhead := List.head?_dropWhile_not (fun p : α × ℕ => decide (x≤p.1)) stack
      rw [show stack.dropWhile (fun p : α × ℕ => decide (x≤p.1))=top::rest from hrest] at hhead
      simpa using hhead
    rw [hrest] at h hleft
    rcases List.mem_cons.mp h with rfl|h
    · exact htop
    · exact ((List.pairwise_cons.mp hleft).1 p h).2.trans htop

/-- After popping, the top of the stack is the parent. -/
theorem Visible.nearest (h : Visible key n stack) (x : α) :
    Nearest key n x ((popNotSmaller x stack).head?.map (·.2)) := by
  cases hrest : popNotSmaller x stack with
  | nil =>
    intro j hj
    obtain ⟨p,hp,-,hkey⟩ := h.cover j hj
    rcases mem_popNotSmaller_or (x:=x) hp with hp|hp
    · rw [hrest] at hp
      exact absurd hp List.not_mem_nil
    · exact hp.1.trans hkey
  | cons top rest =>
    have htop : top∈popNotSmaller x stack := by
      rw [hrest]
      exact List.mem_cons_self
    obtain ⟨hlt,hkey⟩ := h.entry top ((List.dropWhile_sublist _).subset htop)
    have hsmaller := lt_of_mem_popNotSmaller h.sorted htop
    refine ⟨hlt,hkey▸hsmaller,fun k hk hkn => ?_⟩
    obtain ⟨p,hp,hle,hpkey⟩ := h.cover k hkn
    rcases mem_popNotSmaller_or (x:=x) hp with hp|hp
    · -- nothing above the parent is left
      have hbelow : p.2≤top.2 := by
        have hleft : (popNotSmaller x stack).Pairwise fun p q => q.2<p.2 ∧ q.1<p.1 :=
          h.sorted.sublist (List.dropWhile_sublist _)
        rw [hrest] at hp hleft
        rcases List.mem_cons.mp hp with rfl|hp
        · exact le_rfl
        · exact ((List.pairwise_cons.mp hleft).1 p hp).1.le
      have habove : top.2<k := hk
      omega
    · exact hp.1.trans hpkey

/-- The next position goes on top of what is left. -/
theorem Visible.push (h : Visible key n stack) :
    Visible key (n+1) ((key n,n)::popNotSmaller (key n) stack) := by
  have hold : ∀ p∈popNotSmaller (key n) stack,p∈stack :=
    fun p hp => (List.dropWhile_sublist _).subset hp
  constructor
  case entry =>
    intro p hp
    rcases List.mem_cons.mp hp with rfl|hp
    · exact ⟨Nat.lt_succ_self n,rfl⟩
    · obtain ⟨hlt,hkey⟩ := h.entry p (hold p hp)
      exact ⟨by omega,hkey⟩
  case sorted =>
    refine List.pairwise_cons.mpr ⟨fun p hp => ?_,h.sorted.sublist (List.dropWhile_sublist _)⟩
    exact ⟨(h.entry p (hold p hp)).1,lt_of_mem_popNotSmaller h.sorted hp⟩
  case cover =>
    intro j hj
    by_cases hjn : j=n
    · exact ⟨_,List.mem_cons_self,hjn.le,by rw [hjn]⟩
    obtain ⟨p,hp,hle,hkey⟩ := h.cover j (by omega)
    rcases mem_popNotSmaller_or (x:=key n) hp with hp|hp
    · exact ⟨p,List.mem_cons_of_mem _ hp,hle,hkey⟩
    · refine ⟨_,List.mem_cons_self,?_,hp.1.trans hkey⟩
      show j≤n
      omega

end Stack

section Forest

variable {parent : ℕ → Option ℕ}

/-- A position and its parent. -/
def Up (parent : ℕ → Option ℕ) (child above : ℕ) : Prop := parent child=some above

/-- A position is another one, or below it. -/
def Below (parent : ℕ → Option ℕ) : ℕ → ℕ → Prop := Relation.ReflTransGen (Up parent)

theorem rightUnique_up : Relator.RightUnique (Up parent) := by
  intro child above other h hother
  exact Option.some.inj (h.symm.trans hother)

/-- What is below a position does not come before it. -/
theorem Below.le (hlt : ∀ child above,Up parent child above → above<child) {i j : ℕ}
    (h : Below parent j i) : i≤j := by
  induction h with
  | refl => exact le_rfl
  | tail _ hstep ih => exact (hlt _ _ hstep).le.trans ih

/-- What is below a position is the position, or below one of its children. -/
theorem below_iff {i j : ℕ} :
    Below parent j i ↔ j=i ∨ ∃ child,Up parent child i ∧ Below parent j child := by
  constructor
  · intro h
    rcases Relation.ReflTransGen.cases_tail h with heq|⟨child,hbelow,hup⟩
    · exact Or.inl heq.symm
    · exact Or.inr ⟨child,hup,hbelow⟩
  · rintro (rfl|⟨child,hup,hbelow⟩)
    · exact Relation.ReflTransGen.refl
    · exact Relation.ReflTransGen.tail hbelow hup

/-- Nothing is below two children of one position. -/
theorem eq_of_below_siblings (hlt : ∀ child above,Up parent child above → above<child)
    {i j first second : ℕ} (hfirst : Up parent first i) (hsecond : Up parent second i)
    (h : Below parent j first) (h' : Below parent j second) : first=second := by
  have hside : ∀ {a b : ℕ},Up parent a i → Up parent b i → Below parent a b → a=b := by
    intro a b ha hb hab
    rcases Relation.ReflTransGen.cases_head hab with heq|⟨above,hup,hbelow⟩
    · exact heq
    · rw [rightUnique_up hup ha] at hbelow
      have hle := Below.le hlt hbelow
      have hbi := hlt b i hb
      omega
  rcases Relation.ReflTransGen.total_of_right_unique rightUnique_up h h' with hab|hba
  · exact hside hfirst hsecond hab
  · exact (hside hsecond hfirst hba).symm

/-- What is below the children of a position, collected child by child. -/
theorem flatten_below (hlt : ∀ child above,Up parent child above → above<child) {i : ℕ}
    {children : List ℕ} {groups : List (List ℕ)}
    (hall : List.Forall₂ (fun child group => group.Nodup ∧ ∀ j,j∈group ↔ Below parent j child)
      children groups)
    (hup : ∀ child∈children,Up parent child i) (hnodup : children.Nodup) :
    groups.flatten.Nodup ∧ ∀ j,j∈groups.flatten ↔ ∃ child∈children,Below parent j child := by
  induction hall with
  | nil => exact ⟨List.nodup_nil,fun j => by simp⟩
  | @cons child group children groups hfirst _ ih =>
    obtain ⟨hnotin,hrest⟩ := List.nodup_cons.mp hnodup
    obtain ⟨hflat,hmem⟩ := ih (fun c hc => hup c (List.mem_cons_of_mem child hc)) hrest
    rw [List.flatten_cons]
    refine ⟨List.nodup_append.mpr ⟨hfirst.1,hflat,fun j hj k hk heq => ?_⟩,fun j => ?_⟩
    · obtain ⟨other,hother,hbelow⟩ := (hmem k).mp hk
      have hsame := eq_of_below_siblings hlt (hup child List.mem_cons_self)
        (hup other (List.mem_cons_of_mem child hother)) ((hfirst.2 j).mp hj) (heq▸hbelow)
      exact hnotin (hsame▸hother)
    · rw [List.mem_append,hfirst.2,hmem]
      simp only [List.mem_cons,exists_eq_or_imp]

end Forest

end NspMigrator.NearestParent
