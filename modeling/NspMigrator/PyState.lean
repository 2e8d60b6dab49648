import Mathlib
import NspMigrator.PyExcept

/-!
# Computations on a state that may raise

A run takes a state to a result and a new state, or raises. A reflexive and
transitive relation between states that every step respects is respected by
sequences and loops, and a loop over a joined list is the two loops in turn.
-/

namespace NspMigrator.PyState

open PyExcept

variable {σ α β γ : Type}

/-- Computations that read and write a state and may raise a text. -/
abbrev Stateful (σ : Type) : Type → Type := StateT σ (Except String)

/-- A sequence succeeds exactly when its parts do, each from the state the last one left. -/
theorem run_bind_eq_ok {x : Stateful σ α} {f : α → Stateful σ β} {s s'' : σ} {b : β} :
    (x>>=f).run s=.ok (b,s'') ↔
      ∃ a s',x.run s=.ok (a,s') ∧ (f a).run s'=.ok (b,s'') := by
  rw [StateT.run_bind,bind_eq_ok]
  constructor
  · rintro ⟨⟨a,s'⟩,ha,hb⟩
    exact ⟨a,s',ha,hb⟩
  · rintro ⟨a,s',ha,hb⟩
    exact ⟨(a,s'),ha,hb⟩

/-- A pure step leaves the state alone. -/
theorem run_pure_eq_ok {a b : α} {s s' : σ} :
    (pure a : Stateful σ α).run s=.ok (b,s') ↔ a=b ∧ s=s' := by
  rw [StateT.run_pure,pure_eq_ok,Prod.mk.injEq]

/-- Reading returns the state. -/
theorem run_get_eq_ok {s t s' : σ} :
    (get : Stateful σ σ).run s=.ok (t,s') ↔ s=t ∧ s=s' := by
  rw [StateT.run_get,pure_eq_ok,Prod.mk.injEq]

/-- An update with a result never raises. -/
theorem run_modifyGet_eq_ok {f : σ → α × σ} {s s' : σ} {a : α} :
    (modifyGet f : Stateful σ α).run s=.ok (a,s') ↔ f s=(a,s') := by
  rw [StateT.run_modifyGet]
  exact pure_eq_ok

/-- An update never raises. -/
theorem run_modify_eq_ok {f : σ → σ} {s s' : σ} {u : PUnit} :
    (modify f : Stateful σ PUnit).run s=.ok (u,s') ↔ f s=s' := by
  rw [StateT.run_modify,pure_eq_ok,Prod.mk.injEq]
  exact and_iff_right rfl

/-- A computation without a state leaves the state alone. -/
theorem run_lift_eq_ok {x : Except String α} {s s' : σ} {a : α} :
    (liftM x : Stateful σ α).run s=.ok (a,s') ↔ x=.ok a ∧ s=s' := by
  cases x with
  | error e => simp [liftM,monadLift,MonadLift.monadLift,StateT.lift,StateT.run,bind,Except.bind]
  | ok v =>
    simp [liftM,monadLift,MonadLift.monadLift,StateT.lift,StateT.run,bind,Except.bind,pure,
      Except.pure]

/-- Raising never succeeds. -/
theorem run_throw_eq_ok {e : String} {s s' : σ} {a : α} :
    ¬(throw e : Stateful σ α).run s=.ok (a,s') := by
  intro h
  cases h

/-- A loop over a joined list is the two loops in turn. -/
theorem run_forM_append {f : γ → Stateful σ PUnit} {xs ys : List γ} {s s'' : σ} {u : PUnit} :
    (forM (xs++ys) f).run s=.ok (u,s'') ↔
      ∃ s',(forM xs f).run s=.ok (⟨⟩,s') ∧ (forM ys f).run s'=.ok (u,s'') := by
  rw [List.forM_append,run_bind_eq_ok]
  constructor
  · rintro ⟨⟨⟩,s',ha,hb⟩
    exact ⟨s',ha,hb⟩
  · rintro ⟨s',ha,hb⟩
    exact ⟨⟨⟩,s',ha,hb⟩

/-- A loop over a list takes the head first. -/
theorem run_forM_cons {f : γ → Stateful σ PUnit} {x : γ} {xs : List γ} {s s'' : σ} {u : PUnit} :
    (forM (x::xs) f).run s=.ok (u,s'') ↔
      ∃ s',(f x).run s=.ok (⟨⟩,s') ∧ (forM xs f).run s'=.ok (u,s'') := by
  rw [List.forM_cons,run_bind_eq_ok]
  constructor
  · rintro ⟨⟨⟩,s',ha,hb⟩
    exact ⟨s',ha,hb⟩
  · rintro ⟨s',ha,hb⟩
    exact ⟨⟨⟩,s',ha,hb⟩

/-- A loop over no items leaves the state alone. -/
theorem run_forM_nil {f : γ → Stateful σ PUnit} {s s' : σ} {u : PUnit} :
    (forM ([] : List γ) f).run s=.ok (u,s') ↔ s=s' := by
  rw [List.forM_nil,run_pure_eq_ok]
  exact and_iff_right rfl

/-- An invariant that every item's step keeps holds after the loop. -/
theorem run_forM_invariant {f : γ → Stateful σ PUnit} {P : σ → Prop} {xs : List γ}
    (hstep : ∀ x∈xs,∀ s s',P s → (f x).run s=.ok (⟨⟩,s') → P s') {s s' : σ} {u : PUnit}
    (hs : P s) (h : (forM xs f).run s=.ok (u,s')) : P s' := by
  induction xs generalizing s with
  | nil => exact run_forM_nil.mp h▸hs
  | cons x xs ih =>
    obtain ⟨t,ht,hrest⟩ := run_forM_cons.mp h
    have hx : P t := hstep x List.mem_cons_self s t hs ht
    exact ih (fun y hy => hstep y (List.mem_cons_of_mem x hy)) hx hrest

/-- An invariant indexed by the items already done holds of all items after the loop. -/
theorem run_forM_done {f : γ → Stateful σ PUnit} {R : List γ → σ → Prop} {xs : List γ}
    (hstep : ∀ done x rest,xs=done++x::rest → ∀ s s',R done s →
      (f x).run s=.ok (⟨⟩,s') → R (done++[x]) s') {s s' : σ} {u : PUnit}
    (hs : R [] s) (h : (forM xs f).run s=.ok (u,s')) : R xs s' := by
  have hgen : ∀ (todo done : List γ) (t : σ),xs=done++todo → R done t →
      (forM todo f).run t=.ok (u,s') → R xs s' := by
    intro todo
    induction todo with
    | nil =>
      intro done t he ht hrun
      rw [List.append_nil] at he
      have hts := run_forM_nil.mp hrun
      subst he
      subst hts
      exact ht
    | cons x rest ih =>
      intro done t he ht hrun
      obtain ⟨t',hx,hrest⟩ := run_forM_cons.mp hrun
      have hd : xs=done++[x]++rest := by rw [he,List.append_assoc,List.singleton_append]
      exact ih (done++[x]) t' hd (hstep done x rest he t t' ht hx) hrest
  exact hgen xs [] s rfl hs h

end NspMigrator.PyState
