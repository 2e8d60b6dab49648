import Mathlib

/-!
# Loops that may not end

A loop repeats a step until the step gives a result. Fuel counts the steps that
may be taken; where the steps run down a measure, enough fuel always ends it.
-/

namespace NspMigrator.PyLoop

universe u v

variable {σ : Type u} {ρ : Type v} {step : σ → σ ⊕ ρ}

/-- Repeat a step, for as many times as there is fuel. -/
def loop (step : σ → σ ⊕ ρ) : ℕ → σ → Option ρ
  | 0,_ => none
  | fuel+1,s => match step s with
    | .inl next => loop step fuel next
    | .inr result => some result

/-- More fuel does not change a result. -/
theorem loop_mono {fuel more : ℕ} {s : σ} {result : ρ} (h : loop step fuel s=some result)
    (hle : fuel≤ more) : loop step more s=some result := by
  induction fuel generalizing more s with
  | zero => cases h
  | succ fuel ih =>
    obtain ⟨more,rfl⟩ : ∃ k,more=k+1 := ⟨more-1,by omega⟩
    unfold loop at h ⊢
    cases hstep : step s with
    | inl next =>
      rw [hstep] at h
      exact ih h (by omega)
    | inr outcome =>
      rw [hstep] at h
      exact h

/-- A result comes from a last step, and what every step keeps holds before it. -/
theorem exists_last_of_loop {I : σ → Prop} (hkeep : ∀ s next,I s → step s=.inl next → I next)
    {fuel : ℕ} {s : σ} {result : ρ} (hs : I s) (h : loop step fuel s=some result) :
    ∃ last,I last ∧ step last=.inr result := by
  induction fuel generalizing s with
  | zero => cases h
  | succ fuel ih =>
    unfold loop at h
    cases hstep : step s with
    | inl next =>
      rw [hstep] at h
      exact ih (hkeep s next hs hstep) h
    | inr outcome =>
      rw [hstep] at h
      cases h
      exact ⟨s,hs,hstep⟩

/-- Steps that run down a measure end. -/
theorem exists_loop_of_measure {I : σ → Prop} (measure : σ → ℕ)
    (hkeep : ∀ s next,I s → step s=.inl next → I next ∧ measure next< measure s) {fuel : ℕ} {s : σ}
    (hs : I s) (hfuel : measure s<fuel) : ∃ result,loop step fuel s=some result := by
  induction fuel generalizing s with
  | zero => omega
  | succ fuel ih =>
    unfold loop
    cases hstep : step s with
    | inl next =>
      obtain ⟨hnext,hlt⟩ := hkeep s next hs hstep
      exact ih hnext (by omega)
    | inr outcome => exact ⟨outcome,rfl⟩

section Runs

variable {ε α β : Type u} {γ : Type v}

/-- A computation that may raise, and may not have ended on its fuel. -/
abbrev Run (ε α : Type u) := ExceptT ε Option α

/-- A computation has ended with a value. -/
def Returns (x : Run ε α) (a : α) : Prop := x.run=some (.ok a)

/-- A value has returned. -/
theorem returns_pure {a b : α} : Returns (pure a : Run ε α) b ↔ a=b := by
  constructor
  · intro h
    cases h
    rfl
  · rintro rfl
    rfl

/-- Computations in a row return where each of them does. -/
theorem returns_bind {x : Run ε α} {f : α → Run ε β} {b : β} :
    Returns (x>>=f) b ↔ ∃ a,Returns x a ∧ Returns (f a) b := by
  unfold Returns
  rw [ExceptT.run_bind]
  cases x.run with
  | none =>
    constructor
    · intro h
      cases h
    · rintro ⟨a,ha,-⟩
      cases ha
  | some outcome =>
    cases outcome with
    | error error =>
      constructor
      · intro h
        cases h
      · rintro ⟨a,ha,-⟩
        cases ha
    | ok a =>
      constructor
      · exact fun h => ⟨a,rfl,h⟩
      · rintro ⟨other,hother,h⟩
        cases hother
        exact h

/-- Only one value is returned. -/
theorem Returns.unique {x : Run ε α} {a b : α} (h : Returns x a) (hb : Returns x b) : a=b := by
  unfold Returns at h hb
  rw [h] at hb
  cases hb
  rfl

/-- Computations for the items of a list return where each of them does. -/
theorem returns_mapM {f : γ → Run ε β} {xs : List γ} {ys : List β} :
    Returns (xs.mapM f) ys ↔ List.Forall₂ (fun x y => Returns (f x) y) xs ys := by
  induction xs generalizing ys with
  | nil =>
    rw [List.mapM_nil,returns_pure]
    constructor
    · rintro rfl
      exact List.Forall₂.nil
    · intro h
      cases h
      rfl
  | cons x xs ih =>
    rw [List.mapM_cons,returns_bind]
    constructor
    · rintro ⟨y,hy,hrest⟩
      obtain ⟨zs,hzs,hp⟩ := returns_bind.mp hrest
      rw [←returns_pure.mp hp]
      exact List.Forall₂.cons hy (ih.mp hzs)
    · intro h
      cases h with
      | cons hy hzs => exact ⟨_,hy,returns_bind.mpr ⟨_,ih.mpr hzs,returns_pure.mpr rfl⟩⟩

/-- Every item has a result among those returned. -/
theorem exists_of_returns_mapM {f : γ → Run ε β} {xs : List γ} {ys : List β}
    (h : Returns (xs.mapM f) ys) {x : γ} (hx : x∈xs) : ∃ y∈ys,Returns (f x) y := by
  obtain ⟨i,hi,rfl⟩ := List.mem_iff_getElem.mp hx
  have hf := returns_mapM.mp h
  have hj : i<ys.length := by rwa [←hf.length_eq]
  exact ⟨ys[i],List.getElem_mem hj,hf.get hi hj⟩

/-- Every result returned is that of an item. -/
theorem exists_of_mem_returns_mapM {f : γ → Run ε β} {xs : List γ} {ys : List β}
    (h : Returns (xs.mapM f) ys) {y : β} (hy : y∈ys) : ∃ x∈xs,Returns (f x) y := by
  obtain ⟨i,hi,rfl⟩ := List.mem_iff_getElem.mp hy
  have hf := returns_mapM.mp h
  have hj : i<xs.length := by rwa [hf.length_eq]
  exact ⟨xs[i],List.getElem_mem hj,hf.get hj hi⟩

/-- A computation ends, with one outcome on all fuel from some amount on. -/
def Ends (x : ℕ → Run ε α) : Prop :=
  ∃ bound outcome,∀ fuel,bound≤ fuel → (x fuel).run=some outcome

/-- A value ends. -/
theorem ends_pure (a : α) : Ends fun _ => (pure a : Run ε α) := ⟨0,.ok a,fun _ _ => rfl⟩

/-- An error ends. -/
theorem ends_throw (error : ε) : Ends fun _ => (throw error : Run ε α) :=
  ⟨0,.error error,fun _ _ => rfl⟩

/-- Computations in a row end where each of them does. -/
theorem Ends.bind {x : ℕ → Run ε α} {f : α → ℕ → Run ε β} (hx : Ends x) (hf : ∀ a,Ends (f a)) :
    Ends fun fuel => x fuel>>=fun a => f a fuel := by
  obtain ⟨bound,outcome,hx⟩ := hx
  cases outcome with
  | error error =>
    refine ⟨bound,.error error,fun fuel hfuel => ?_⟩
    rw [ExceptT.run_bind,hx fuel hfuel]
    rfl
  | ok a =>
    obtain ⟨more,outcome,hmore⟩ := hf a
    refine ⟨max bound more,outcome,fun fuel hfuel => ?_⟩
    rw [ExceptT.run_bind,hx fuel (by omega)]
    exact hmore fuel (by omega)

/-- Computations for the items of a list end where each of them does. -/
theorem ends_mapM {f : γ → ℕ → Run ε β} {xs : List γ} (h : ∀ x∈xs,Ends (f x)) :
    Ends fun fuel => xs.mapM fun x => f x fuel := by
  induction xs with
  | nil => exact ends_pure []
  | cons x xs ih =>
    have hrest := ih fun other ho => h other (List.mem_cons_of_mem _ ho)
    have hboth := (h x List.mem_cons_self).bind fun y =>
      hrest.bind fun ys => ends_pure (ε:=ε) (y::ys)
    simpa only [List.mapM_cons] using hboth

end Runs

end NspMigrator.PyLoop
