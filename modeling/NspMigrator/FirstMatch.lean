import Mathlib

/-!
# Ordered rules with first match

The first rule that applies to a request decides it. A rule may be left out
without effect where a rule before it already decides, or where everything
that applies up to a later rule of the same decision decides alike.
-/

namespace NspMigrator.FirstMatch

universe u v w

variable {ρ : Type u} {π : Type v} {δ : Type w} (hit : ρ → π → Bool) (act : ρ → δ)

/-- The decision of the first rule that applies. -/
def verdict (rules : List ρ) (x : π) : Option δ :=
  (rules.find? fun r => hit r x).map act

/-- Earlier rules decide before later ones. -/
theorem verdict_append (a b : List ρ) (x : π) :
    verdict hit act (a++b) x=(verdict hit act a x).or (verdict hit act b x) := by
  rw [verdict,List.find?_append]
  cases h : a.find? fun r => hit r x with
  | none => simp [verdict,h]
  | some r => simp [verdict,h]

/-- Rules given through a translation decide through it. -/
theorem verdict_map {σ : Type u} (f : σ → ρ) (rules : List σ) (x : π) :
    verdict hit act (rules.map f) x=
      verdict (fun s => hit (f s)) (fun s => act (f s)) rules x := by
  rw [verdict,verdict,List.find?_map,Option.map_map]
  rfl

/-- Rules none of which applies decide nothing. -/
theorem verdict_eq_none {rules : List ρ} {x : π} (h : ∀ r∈rules,hit r x=false) :
    verdict hit act rules x=none := by
  rw [verdict,Option.map_eq_none_iff,List.find?_eq_none]
  intro r hr
  rw [h r hr]
  exact Bool.false_ne_true

/-- Rules one of which applies decide something. -/
theorem verdict_isSome {rules : List ρ} {r : ρ} {x : π} (hr : r∈rules) (hx : hit r x=true) :
    ∃ d,verdict hit act rules x=some d := by
  cases h : rules.find? fun r => hit r x with
  | none =>
    rw [List.find?_eq_none] at h
    exact absurd hx (h r hr)
  | some s => exact ⟨act s,by rw [verdict,h,Option.map_some]⟩

/-- Where all applying rules decide alike, so does the whole list. -/
theorem verdict_eq_of_forall {rules : List ρ} {x : π} {d e : δ}
    (hall : ∀ r∈rules,hit r x=true → act r=d) (h : verdict hit act rules x=some e) : e=d := by
  obtain ⟨r,hr,he⟩ := Option.map_eq_some_iff.mp h
  rw [←he]
  have hx : hit r x=true := by simpa using List.find?_some hr
  exact hall r (List.mem_of_find?_eq_some hr) hx

/-- Leaving rules out keeps the first applying rule if that rule is kept. -/
theorem find?_filter_of_kept {keep : ρ → Bool} {rules : List ρ} {x : π} {r : ρ}
    (h : (rules.find? fun r => hit r x)=some r) (hk : keep r=true) :
    ((rules.filter keep).find? fun r => hit r x)=some r := by
  induction rules with
  | nil => cases h
  | cons s rest ih =>
    rw [List.find?_cons] at h
    cases hs : hit s x with
    | true =>
      simp only [hs,Option.some.injEq] at h
      subst h
      rw [List.filter_cons_of_pos hk,List.find?_cons,hs]
    | false =>
      simp only [hs] at h
      by_cases hks : keep s=true
      · rw [List.filter_cons_of_pos hks,List.find?_cons,hs]
        exact ih h
      · rw [List.filter_cons_of_neg hks]
        exact ih h

/-- The first item with a stronger property, once it is known to be the first
with a weaker one. -/
theorem find?_eq_of_imp {p q : ρ → Bool} {l : List ρ} {a : ρ}
    (hpq : ∀ x,p x=true → q x=true) (hq : l.find? q=some a) (hp : p a=true) :
    l.find? p=some a := by
  induction l with
  | nil => cases hq
  | cons x rest ih =>
    rw [List.find?_cons] at hq ⊢
    cases hx : q x with
    | true =>
      simp only [hx,Option.some.injEq] at hq
      subst hq
      rw [hp]
    | false =>
      have hpx : p x=false := by
        cases hpx : p x with
        | false => rfl
        | true => exact absurd (hpq x hpx) (by rw [hx]; exact Bool.false_ne_true)
      rw [hpx]
      simp only [hx] at hq
      exact ih hq

variable [DecidableEq ρ]

/-- What applies up to a later rule of the same decision decides alike. -/
theorem verdict_eq_of_reached {rules : List ρ} {m : ρ} {x : π} (hm : m∈rules)
    (hx : hit m x=true)
    (hbefore : ∀ o∈rules.takeWhile (fun o => decide (o≠m)),hit o x=true → act o=act m) :
    verdict hit act rules x=some (act m) := by
  induction rules with
  | nil => cases hm
  | cons s rest ih =>
    by_cases hsm : s=m
    · subst hsm
      rw [verdict,List.find?_cons,hx,Option.map_some]
    · rw [List.takeWhile_cons,if_pos (decide_eq_true hsm)] at hbefore
      cases hs : hit s x with
      | true =>
        rw [verdict,List.find?_cons,hs,Option.map_some,hbefore s List.mem_cons_self hs]
      | false =>
        have hrest : m∈rest := (List.mem_cons.mp hm).resolve_left (Ne.symm hsm)
        have hr := ih hrest fun o ho => hbefore o (List.mem_cons_of_mem _ ho)
        rw [verdict,List.find?_cons,hs]
        exact hr

/-- Leaving rules out of the middle of a list is safe for a request when the
first middle rule that applies, if left out, is shadowed from before, or is
followed by a rule of the same decision with nothing of another decision
applying in between. -/
theorem verdict_filter_middle {σ : Type u} (f : σ → ρ) {keep : σ → Bool} {before after : List ρ}
    {middle : List σ} {x : π}
    (hsafe : ∀ r,(middle.find? fun r => hit (f r) x)=some r → keep r=false →
      (∃ b∈before,hit b x=true) ∨
      ((∀ q∈middle,keep q=true → hit (f q) x=true → act (f q)=act (f r)) ∧
        ∃ m∈after,hit m x=true ∧ act m=act (f r) ∧
          ∀ o∈after.takeWhile (fun o => decide (o≠m)),hit o x=true → act o=act (f r))) :
    verdict hit act (before++(middle.filter keep).map f++after) x=
      verdict hit act (before++middle.map f++after) x := by
  rw [verdict_append,verdict_append,verdict_append,verdict_append,verdict_map,verdict_map]
  by_cases hb : ∃ b∈before,hit b x=true
  · obtain ⟨b,hmem,hx⟩ := hb
    obtain ⟨d,hd⟩ := verdict_isSome hit act hmem hx
    rw [hd,Option.some_or,Option.some_or,Option.some_or,Option.some_or]
  · cases hm : middle.find? fun r => hit (f r) x with
    | none =>
      -- nothing of the middle applies, kept or not
      have hnone : ∀ r∈middle,hit (f r) x=false := by
        intro r hr
        simpa using List.find?_eq_none.mp hm r hr
      rw [verdict_eq_none _ _ hnone,
        verdict_eq_none _ _ fun r hr => hnone r (List.mem_of_mem_filter hr)]
    | some r =>
      have hmiddle : verdict (fun s => hit (f s)) (fun s => act (f s)) middle x=
          some (act (f r)) := by
        rw [verdict,hm,Option.map_some]
      cases hk : keep r with
      | true =>
        have hfilter : verdict (fun s => hit (f s)) (fun s => act (f s)) (middle.filter keep) x=
            some (act (f r)) := by
          rw [verdict,find?_filter_of_kept (fun s => hit (f s)) hm hk,Option.map_some]
        rw [hmiddle,hfilter]
      | false =>
        obtain ⟨hkept,m,hmem,hx,hact,hbetween⟩ := (hsafe r hm hk).resolve_left hb
        have hafter : verdict hit act after x=some (act (f r)) := by
          rw [←hact] at hbetween ⊢
          exact verdict_eq_of_reached hit act hmem hx hbetween
        cases hv : verdict (fun s => hit (f s)) (fun s => act (f s)) (middle.filter keep) x with
        | none =>
          rw [hmiddle,hafter,Option.or_none]
          cases verdict hit act before x <;> rfl
        | some d =>
          have hd : d=act (f r) := by
            refine verdict_eq_of_forall _ _ (fun q hq hqx => ?_) hv
            exact hkept q (List.mem_of_mem_filter hq) (List.mem_filter.mp hq).2 hqx
          rw [hmiddle,hd]

end NspMigrator.FirstMatch
