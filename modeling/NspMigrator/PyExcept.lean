import Mathlib

/-!
# Computations that may raise

An error ends a computation, so a successful sequence splits into successful
parts, and a successful loop over a list into one success for every item.
-/

namespace NspMigrator.PyExcept

universe u v w

variable {ε : Type u} {α β : Type v} {γ : Type w}

/-- A sequence succeeds exactly when its parts do. -/
theorem bind_eq_ok {x : Except ε α} {f : α → Except ε β} {b : β} :
    x>>=f=.ok b ↔ ∃ a,x=.ok a ∧ f a=.ok b := by
  cases x with
  | error e => simp [bind,Except.bind]
  | ok a => simp [bind,Except.bind]

/-- A pure step never raises. -/
theorem pure_eq_ok {a b : α} : (pure a : Except ε α)=.ok b ↔ a=b := by
  simp [pure,Except.pure]

/-- A computation with a value returned it. -/
theorem eq_ok_of_toOption {x : Except ε α} {a : α} (h : x.toOption=some a) : x=.ok a := by
  cases x with
  | error error => cases h
  | ok b => exact congrArg Except.ok (Option.some.inj h)

/-- A mapped computation succeeds exactly when the computation does. -/
theorem map_eq_ok {x : Except ε α} {f : α → β} {b : β} :
    f <$> x=.ok b ↔ ∃ a,x=.ok a ∧ f a=b := by
  cases x with
  | error e => simp [Functor.map,Except.map]
  | ok a => simp [Functor.map,Except.map]

/-- A loop over a list succeeds exactly when every step does, in order. -/
theorem mapM_eq_ok {f : γ → Except ε β} {xs : List γ} {ys : List β} :
    xs.mapM f=.ok ys ↔ List.Forall₂ (fun x y => f x=.ok y) xs ys := by
  induction xs generalizing ys with
  | nil =>
    rw [List.mapM_nil,pure_eq_ok]
    constructor
    · rintro rfl
      exact List.Forall₂.nil
    · intro h
      cases h
      rfl
  | cons x xs ih =>
    rw [List.mapM_cons,bind_eq_ok]
    constructor
    · rintro ⟨y,hy,hrest⟩
      obtain ⟨zs,hzs,hp⟩ := bind_eq_ok.mp hrest
      rw [←pure_eq_ok.mp hp]
      exact List.Forall₂.cons hy (ih.mp hzs)
    · intro h
      cases h with
      | cons hy hzs => exact ⟨_,hy,bind_eq_ok.mpr ⟨_,ih.mpr hzs,pure_eq_ok.mpr rfl⟩⟩

/-- Every item of a successful loop has a result. -/
theorem exists_of_mapM_eq_ok {f : γ → Except ε β} {xs : List γ} {ys : List β}
    (h : xs.mapM f=.ok ys) {x : γ} (hx : x∈xs) : ∃ y∈ys,f x=.ok y := by
  obtain ⟨i,hi,rfl⟩ := List.mem_iff_getElem.mp hx
  have hf := mapM_eq_ok.mp h
  have hj : i<ys.length := by rwa [←hf.length_eq]
  exact ⟨ys[i],List.getElem_mem hj,hf.get hi hj⟩

/-- Every result of a successful loop comes from an item. -/
theorem exists_of_mem_mapM {f : γ → Except ε β} {xs : List γ} {ys : List β}
    (h : xs.mapM f=.ok ys) {y : β} (hy : y∈ys) : ∃ x∈xs,f x=.ok y := by
  obtain ⟨i,hi,rfl⟩ := List.mem_iff_getElem.mp hy
  have hf := mapM_eq_ok.mp h
  have hj : i<xs.length := by rwa [hf.length_eq]
  exact ⟨xs[i],List.getElem_mem hj,hf.get hj hi⟩

/-- A loop succeeds when every step does. -/
theorem exists_mapM_eq_ok {f : γ → Except ε β} {xs : List γ}
    (h : ∀ x∈xs,∃ y,f x=.ok y) : ∃ ys,xs.mapM f=.ok ys := by
  induction xs with
  | nil => exact ⟨[],rfl⟩
  | cons x xs ih =>
    obtain ⟨y,hy⟩ := h x List.mem_cons_self
    obtain ⟨ys,hys⟩ := ih fun other ho => h other (List.mem_cons_of_mem _ ho)
    exact ⟨y::ys,mapM_eq_ok.mpr (List.Forall₂.cons hy (mapM_eq_ok.mp hys))⟩

/-- A loop whose every step succeeds with a property succeeds with it throughout. -/
theorem exists_mapM_forall₂ {f : γ → Except ε β} {S : γ → β → Prop} {xs : List γ}
    (h : ∀ x∈xs,∃ y,f x=.ok y ∧ S x y) : ∃ ys,xs.mapM f=.ok ys ∧ List.Forall₂ S xs ys := by
  induction xs with
  | nil => exact ⟨[],rfl,List.Forall₂.nil⟩
  | cons x xs ih =>
    obtain ⟨y,hy,hs⟩ := h x List.mem_cons_self
    obtain ⟨ys,hys,hrest⟩ := ih fun other ho => h other (List.mem_cons_of_mem _ ho)
    exact ⟨y::ys,mapM_eq_ok.mpr (List.Forall₂.cons hy (mapM_eq_ok.mp hys)),
      List.Forall₂.cons hs hrest⟩

/-- The error of a loop is the error of a step. -/
theorem exists_of_mapM_eq_error {f : γ → Except ε β} {xs : List γ} {e : ε}
    (h : xs.mapM f=.error e) : ∃ x∈xs,f x=.error e := by
  induction xs with
  | nil => cases h
  | cons x xs ih =>
    rw [List.mapM_cons] at h
    cases hx : f x with
    | error error =>
      rw [hx] at h
      cases h
      exact ⟨x,List.mem_cons_self,hx⟩
    | ok y =>
      cases hxs : xs.mapM f with
      | error error =>
        rw [hx,hxs] at h
        cases h
        obtain ⟨other,ho,herror⟩ := ih hxs
        exact ⟨other,List.mem_cons_of_mem _ ho,herror⟩
      | ok ys =>
        rw [hx,hxs] at h
        cases h

/-- A loop whose every step adds what its item brings ends with what all items bring. -/
theorem foldlM_collects {δ : Type*} {f : β → γ → Except ε β} (Has : β → δ → Prop)
    {Brings : γ → δ → Prop} {xs : List γ}
    (hstep : ∀ acc,∀ x∈xs,∃ next,f acc x=.ok next ∧ ∀ d,Has next d ↔ Has acc d ∨ Brings x d)
    (acc : β) :
    ∃ out,xs.foldlM f acc=.ok out ∧ ∀ d,Has out d ↔ Has acc d ∨ ∃ x∈xs,Brings x d := by
  induction xs generalizing acc with
  | nil => exact ⟨acc,rfl,fun d => by simp⟩
  | cons x xs ih =>
    obtain ⟨next,hnext,hbrings⟩ := hstep acc x List.mem_cons_self
    obtain ⟨out,hout,hhas⟩ := ih (fun acc y hy => hstep acc y (List.mem_cons_of_mem _ hy)) next
    refine ⟨out,by rw [List.foldlM_cons,hnext]; exact hout,?_⟩
    intro d
    rw [hhas,hbrings,or_assoc]
    simp only [List.mem_cons,exists_eq_or_imp]

/-- What every successful step of a loop keeps, the whole loop keeps. -/
theorem foldlM_preserves {f : β → γ → Except ε β} (Keeps : β → Prop) {xs : List γ}
    (hstep : ∀ acc,∀ x∈xs,∀ next,Keeps acc → f acc x=.ok next → Keeps next)
    {acc out : β} (hacc : Keeps acc) (h : xs.foldlM f acc=.ok out) : Keeps out := by
  induction xs generalizing acc with
  | nil =>
    rw [List.foldlM_nil,pure_eq_ok] at h
    exact h▸hacc
  | cons x xs ih =>
    rw [List.foldlM_cons] at h
    obtain ⟨next,hnext,hrest⟩ := bind_eq_ok.mp h
    exact ih (fun acc y hy => hstep acc y (List.mem_cons_of_mem _ hy))
      (hstep acc x List.mem_cons_self next hacc hnext) hrest

/-- What one step of a successful loop brings about, and the others keep, holds at its end. -/
theorem foldlM_gains {f : β → γ → Except ε β} (Holds : β → Prop) {xs : List γ}
    (hkeeps : ∀ acc,∀ x∈xs,∀ next,Holds acc → f acc x=.ok next → Holds next) {x : γ} (hx : x∈xs)
    (hgains : ∀ acc next,f acc x=.ok next → Holds next) {acc out : β}
    (h : xs.foldlM f acc=.ok out) : Holds out := by
  induction xs generalizing acc with
  | nil => cases hx
  | cons first rest ih =>
    have hrest : ∀ acc,∀ y∈rest,∀ next,Holds acc → f acc y=.ok next → Holds next :=
      fun acc y hy => hkeeps acc y (List.mem_cons_of_mem _ hy)
    rw [List.foldlM_cons] at h
    obtain ⟨next,hnext,hlast⟩ := bind_eq_ok.mp h
    rcases List.mem_cons.mp hx with rfl|hx
    · exact foldlM_preserves Holds hrest (hgains _ _ hnext) hlast
    · exact ih hrest hx hlast

/-- Two loops whose steps agree up to a view of the state agree up to that view. -/
theorem foldlM_map {δ : Type v} (view : δ → β) {f : β → γ → Except ε β} {g : δ → γ → Except ε δ}
    {xs : List γ} (hstep : ∀ acc,∀ x∈xs,f (view acc) x=(g acc x).map view) (acc : δ) :
    xs.foldlM f (view acc)=(xs.foldlM g acc).map view := by
  induction xs generalizing acc with
  | nil => rfl
  | cons x xs ih =>
    rw [List.foldlM_cons,List.foldlM_cons,hstep acc x List.mem_cons_self]
    cases g acc x with
    | error e => rfl
    | ok next => exact ih (fun acc y hy => hstep acc y (List.mem_cons_of_mem _ hy)) next

end NspMigrator.PyExcept
