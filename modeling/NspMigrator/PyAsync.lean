import Mathlib

/-!
# Coroutines

A coroutine waits for one operation at a time, and any operation may raise.
Specifications speak of the operations a coroutine has awaited so far, so one
specification serves a run of its own and every interleaving with others.
-/

namespace NspMigrator.PyAsync

universe u v

/-- A coroutine: it has ended, or awaits an operation and then goes on. -/
inductive Async (Op : Type) (Ans : Op → Type) (ε α : Type) where
  | done (result : Except ε α)
  | await (op : Op) (resume : Except ε (Ans op) → Async Op Ans ε α)

/-- One operation with its answer. -/
structure Event (Op : Type) (Ans : Op → Type) (ε : Type) where
  /-- What was asked. -/
  op : Op
  /-- What came back, or was raised. -/
  answer : Except ε (Ans op)

namespace Async

variable {Op : Type} {Ans : Op → Type} {ε α β : Type}

/-- Go on with a result; an error ends the coroutine. -/
def bind : Async Op Ans ε α → (α → Async Op Ans ε β) → Async Op Ans ε β
  | .done (.ok a),next => next a
  | .done (.error e),_ => .done (.error e)
  | .await op resume,next => .await op fun answer => (resume answer).bind next

instance : Monad (Async Op Ans ε) where
  pure a := .done (.ok a)
  bind := bind

/-- Await one operation. -/
def call (op : Op) : Async Op Ans ε (Ans op) := .await op .done

/-- End with an error. -/
def raise (e : ε) : Async Op Ans ε α := .done (.error e)

/-- Keep an error as a value. -/
def attempt : Async Op Ans ε α → Async Op Ans ε (Except ε α)
  | .done result => .done (.ok result)
  | .await op resume => .await op fun answer => (resume answer).attempt

/-- End with a kept value or error. -/
def ofExcept (result : Except ε α) : Async Op Ans ε α := .done result

/-- Work between an operation that opens and one that closes, which is done
however the work ends. -/
def within (enter exit : Op) (body : Async Op Ans ε α) : Async Op Ans ε α :=
  (call enter).bind fun _ => body.attempt.bind fun result =>
    (call exit).bind fun _ => ofExcept result

/-- Whether a coroutine has ended. -/
def ended : Async Op Ans ε α → Bool
  | .done _ => true
  | .await _ _ => false

/-- Every operation awaited satisfies its condition on the history, and so
does the result, as long as the answers do. -/
def Sound (A : List (Event Op Ans ε) → Event Op Ans ε → Prop)
    (P : List (Event Op Ans ε) → Op → Prop)
    (Q : List (Event Op Ans ε) → Except ε α → Prop) :
    Async Op Ans ε α → List (Event Op Ans ε) → Prop
  | .done result,history => Q history result
  | .await op resume,history => P history op ∧ ∀ answer,A history ⟨op,answer⟩ →
      (resume answer).Sound A P Q (history++[⟨op,answer⟩])

variable {A : List (Event Op Ans ε) → Event Op Ans ε → Prop}
  {P : List (Event Op Ans ε) → Op → Prop} {Q : List (Event Op Ans ε) → Except ε α → Prop}
  {R : List (Event Op Ans ε) → Except ε β → Prop} {history : List (Event Op Ans ε)}

theorem sound_pure {a : α} (h : Q history (.ok a)) :
    (pure a : Async Op Ans ε α).Sound A P Q history := h

theorem sound_raise {e : ε} (h : Q history (.error e)) :
    (raise e : Async Op Ans ε α).Sound A P Q history := h

theorem sound_call {op : Op} {Q : List (Event Op Ans ε) → Except ε (Ans op) → Prop}
    (hop : P history op)
    (hanswer : ∀ answer,A history ⟨op,answer⟩ → Q (history++[⟨op,answer⟩]) answer) :
    (call op).Sound A P Q history := ⟨hop,hanswer⟩

/-- A weaker condition on the result still holds. -/
theorem Sound.mono {x : Async Op Ans ε α} {Q' : List (Event Op Ans ε) → Except ε α → Prop}
    (h : x.Sound A P Q history) (hq : ∀ history result,Q history result → Q' history result) :
    x.Sound A P Q' history := by
  induction x generalizing history with
  | done result => exact hq history result h
  | await op resume ih => exact ⟨h.1,fun answer ha => ih answer (h.2 answer ha)⟩

/-- Two specifications under the same answers hold together. -/
theorem Sound.and {x : Async Op Ans ε α} {P' : List (Event Op Ans ε) → Op → Prop}
    {Q' : List (Event Op Ans ε) → Except ε α → Prop} (h : x.Sound A P Q history)
    (h' : x.Sound A P' Q' history) : x.Sound A (fun history op => P history op ∧ P' history op)
      (fun history result => Q history result ∧ Q' history result) history := by
  induction x generalizing history with
  | done result => exact ⟨h,h'⟩
  | await op resume ih =>
    exact ⟨⟨h.1,h'.1⟩,fun answer ha => ih answer (h.2 answer ha) (h'.2 answer ha)⟩

/-- What a coroutine does before and after an intermediate result. -/
theorem sound_bind {x : Async Op Ans ε α} {next : α → Async Op Ans ε β}
    (h : x.Sound A P (fun history result => match result with
      | .ok a => (next a).Sound A P R history
      | .error e => R history (.error e)) history) :
    (x>>=next).Sound A P R history := by
  induction x generalizing history with
  | done result =>
    cases result with
    | ok a => exact h
    | error e => exact h
  | await op resume ih => exact ⟨h.1,fun answer ha => ih answer (h.2 answer ha)⟩

/-- A call followed by the rest. -/
theorem sound_call_bind {op : Op} {next : Ans op → Async Op Ans ε β} (hop : P history op)
    (herror : ∀ e,A history ⟨op,.error e⟩ → R (history++[⟨op,.error e⟩]) (.error e))
    (hok : ∀ a,A history ⟨op,.ok a⟩ → (next a).Sound A P R (history++[⟨op,.ok a⟩])) :
    (call op>>=next).Sound A P R history := by
  refine sound_bind (sound_call hop fun answer ha => ?_)
  cases answer with
  | error e => exact herror e ha
  | ok a => exact hok a ha

/-- What holds of the kept result holds of the result. -/
theorem sound_attempt {x : Async Op Ans ε α}
    {Q : List (Event Op Ans ε) → Except ε (Except ε α) → Prop}
    (h : x.Sound A P (fun history result => Q history (.ok result)) history) :
    x.attempt.Sound A P Q history := by
  induction x generalizing history with
  | done result => exact h
  | await op resume ih => exact ⟨h.1,fun answer ha => ih answer (h.2 answer ha)⟩

/-- Work between opening and closing: what its result gives must hold after closing. -/
theorem sound_within {enter exit : Op} {body : Async Op Ans ε α} (henter : P history enter)
    (herror : ∀ e,Q (history++[⟨enter,.error e⟩]) (.error e))
    (hbody : ∀ opened,body.Sound A P (fun history result => P history exit ∧
      (∀ e,Q (history++[⟨exit,.error e⟩]) (.error e)) ∧
      ∀ closed,Q (history++[⟨exit,.ok closed⟩]) result) (history++[⟨enter,.ok opened⟩])) :
    (within enter exit body).Sound A P Q history := by
  refine sound_call_bind henter (fun e _ => herror e) fun opened _ => ?_
  refine sound_bind (sound_attempt ((hbody opened).mono fun history result h => ?_))
  exact sound_call_bind h.1 (fun e _ => h.2.1 e) fun closed _ => h.2.2 closed

/-- A loop keeps an invariant of the items done, the value built and the history. -/
theorem sound_foldlM {γ δ : Type} {xs : List γ} {f : δ → γ → Async Op Ans ε δ} {start : δ}
    {R : List (Event Op Ans ε) → Except ε δ → Prop}
    (I : List γ → δ → List (Event Op Ans ε) → Prop)
    (hstep : ∀ earlier x later acc history,xs=earlier++x::later → I earlier acc history →
      (f acc x).Sound A P (fun history result => match result with
        | .ok acc => I (earlier++[x]) acc history
        | .error e => R history (.error e)) history)
    (hdone : ∀ acc history,I xs acc history → R history (.ok acc))
    {history : List (Event Op Ans ε)} (h : I [] start history) :
    (xs.foldlM f start).Sound A P R history := by
  have hgen : ∀ later earlier acc history,xs=earlier++later → I earlier acc history →
      (later.foldlM f acc).Sound A P R history := by
    intro later
    induction later with
    | nil =>
      intro earlier acc history hxs hi
      rw [List.append_nil] at hxs
      rw [List.foldlM_nil]
      exact sound_pure (hdone acc history (hxs▸hi))
    | cons x later ih =>
      intro earlier acc history hxs hi
      rw [List.foldlM_cons]
      have hx := hstep earlier x later acc history hxs hi
      refine sound_bind (hx.mono fun history result h => ?_)
      cases result with
      | error e => exact h
      | ok acc => exact ih (earlier++[x]) acc history (by rw [hxs,List.append_assoc]; rfl) h
  exact hgen xs [] start history rfl h

/-- A coroutine awaits operations of one kind only. -/
def Only (ok : Op → Prop) : Async Op Ans ε α → Prop
  | .done _ => True
  | .await op resume => ok op ∧ ∀ answer,(resume answer).Only ok

variable {ok : Op → Prop}

theorem only_call {op : Op} (h : ok op) : (call op : Async Op Ans ε (Ans op)).Only ok :=
  ⟨h,fun _ => trivial⟩

theorem only_bind {x : Async Op Ans ε α} {next : α → Async Op Ans ε β} (hx : x.Only ok)
    (hnext : ∀ a,(next a).Only ok) : (x>>=next).Only ok := by
  induction x with
  | done result =>
    cases result with
    | ok a => exact hnext a
    | error e => exact trivial
  | await op resume ih => exact ⟨hx.1,fun answer => ih answer (hx.2 answer)⟩

theorem only_attempt {x : Async Op Ans ε α} (hx : x.Only ok) : x.attempt.Only ok := by
  induction x with
  | done result => exact trivial
  | await op resume ih => exact ⟨hx.1,fun answer => ih answer (hx.2 answer)⟩

theorem only_pure (a : α) : (pure a : Async Op Ans ε α).Only ok := trivial

/-- A loop awaits operations of one kind only, if every round does. -/
theorem only_foldlM {γ δ : Type} {items : List γ} {f : δ → γ → Async Op Ans ε δ}
    (hf : ∀ acc,∀ item∈items,(f acc item).Only ok) (init : δ) :
    (items.foldlM f init).Only ok := by
  induction items generalizing init with
  | nil => exact trivial
  | cons item items ih =>
    rw [List.foldlM_cons]
    exact only_bind (hf init item List.mem_cons_self) fun acc =>
      ih (fun acc other ho => hf acc other (List.mem_cons_of_mem item ho)) acc

/-- Operations of one kind are of every wider kind. -/
theorem Only.mono {wide : Op → Prop} {x : Async Op Ans ε α} (hx : x.Only ok)
    (h : ∀ op,ok op → wide op) : x.Only wide := by
  induction x with
  | done result => exact trivial
  | await op resume ih => exact ⟨h op hx.1,fun answer => ih answer (hx.2 answer)⟩

/-- Operations of one kind keep what operations of that kind keep. -/
theorem Only.sound {x : Async Op Ans ε α} (hx : x.Only ok) (I : List (Event Op Ans ε) → Prop)
    (hop : ∀ history op,I history → ok op → P history op)
    (hkeep : ∀ history op answer,I history → ok op → I (history++[⟨op,answer⟩]))
    (hq : ∀ history result,I history → Q history result) {history : List (Event Op Ans ε)}
    (h : I history) : x.Sound A P Q history := by
  induction x generalizing history with
  | done result => exact hq history result h
  | await op resume ih =>
    exact ⟨hop history op h hx.1,fun answer _ => ih answer (hx.2 answer)
      (hkeep history op answer h hx.1)⟩

/-- The error a coroutine ends with after closing: that of the closing, if it raised too. -/
def lastError {γ : Type} (e : ε) : Except ε γ → ε
  | .ok _ => e
  | .error later => later

/-- An error ends the coroutine, at once or after one closing operation. -/
def EndsWith (closes : Op → Prop) (e : ε) (x : Async Op Ans ε α) : Prop :=
  x=.done (.error e) ∨ ∃ op resume,x=.await op resume ∧ closes op ∧
    ∀ answer,resume answer=.done (.error (lastError e answer))

/-- An operation that raises ends the coroutine with its error, unless errors of
its kind are kept. -/
def Strict (kept closes : Op → Prop) : Async Op Ans ε α → Prop
  | .done _ => True
  | .await op resume => (∀ e,¬kept op → (resume (.error e)).EndsWith closes e) ∧
      ∀ answer,(resume answer).Strict kept closes

section Strict

variable {kept closes : Op → Prop}

theorem EndsWith.bind {x : Async Op Ans ε α} {e : ε} (h : x.EndsWith closes e)
    (next : α → Async Op Ans ε β) : (x.bind next).EndsWith closes e := by
  rcases h with rfl|⟨op,resume,rfl,hop,hlast⟩
  · exact Or.inl rfl
  · refine Or.inr ⟨op,_,rfl,hop,fun answer => ?_⟩
    rw [hlast answer]
    rfl

theorem strict_call (op : Op) : (call op : Async Op Ans ε (Ans op)).Strict kept closes :=
  ⟨fun _ _ => Or.inl rfl,fun _ => trivial⟩

/-- An operation whose errors are kept as values. -/
theorem strict_attempt_call {op : Op} (h : kept op) :
    (call op : Async Op Ans ε (Ans op)).attempt.Strict kept closes :=
  ⟨fun _ hnot => absurd h hnot,fun _ => trivial⟩

theorem strict_bind {x : Async Op Ans ε α} {next : α → Async Op Ans ε β}
    (hx : x.Strict kept closes) (hnext : ∀ a,(next a).Strict kept closes) :
    (x>>=next).Strict kept closes := by
  induction x with
  | done result =>
    cases result with
    | ok a => exact hnext a
    | error e => exact trivial
  | await op resume ih =>
    exact ⟨fun e hop => (hx.1 e hop).bind next,fun answer => ih answer (hx.2 answer)⟩

/-- A loop is strict if every round is. -/
theorem strict_foldlM {γ δ : Type} {items : List γ} {f : δ → γ → Async Op Ans ε δ}
    (hf : ∀ acc item,(f acc item).Strict kept closes) (init : δ) :
    (items.foldlM f init).Strict kept closes := by
  induction items generalizing init with
  | nil => exact trivial
  | cons item items ih =>
    rw [List.foldlM_cons]
    exact strict_bind (hf init item) fun acc => ih acc

/-- Work whose errors end it at once is closed after its error. -/
theorem strict_attempt_close {x : Async Op Ans ε α} {exit : Op} (hexit : closes exit)
    (hx : x.Strict kept fun _ => False) :
    (x.attempt>>=fun result => call exit>>=fun _ => ofExcept result).Strict kept closes := by
  have hclose : ∀ result : Except ε α,
      (call exit>>=fun _ => (ofExcept result : Async Op Ans ε α)).Strict kept closes :=
    fun result => strict_bind (strict_call exit) fun _ => trivial
  induction x with
  | done result => exact hclose result
  | await op resume ih =>
    refine ⟨fun e hop => ?_,fun answer => ih answer (hx.2 answer)⟩
    have hraised : (call exit>>=fun _ => (ofExcept (.error e) : Async Op Ans ε α)).EndsWith
        closes e := by
      refine Or.inr ⟨exit,fun answer => (done answer).bind fun _ => ofExcept (.error e),rfl,hexit,
        fun answer => ?_⟩
      cases answer with
      | ok closed => rfl
      | error later => rfl
    rcases hx.1 e hop with hdone|⟨_,_,_,hnever,_⟩
    · dsimp only
      rw [hdone]
      exact hraised
    · exact hnever.elim

end Strict

/-- A coroutine may come to an operation of one kind, with nothing but events of
another kind before it. -/
inductive May (ok : Event Op Ans ε → Prop) (goal : Op → Prop) : Async Op Ans ε α → Prop where
  | now {op : Op} {resume : Except ε (Ans op) → Async Op Ans ε α} (h : goal op) :
      May ok goal (.await op resume)
  | later {op : Op} {resume : Except ε (Ans op) → Async Op Ans ε α} {answer : Except ε (Ans op)}
      (hok : ok ⟨op,answer⟩) (h : May ok goal (resume answer)) : May ok goal (.await op resume)

/-- A whole run alone: the operations act on a state, answering as they may. -/
inductive Runs {σ : Type u} (handles : σ → (op : Op) → Except ε (Ans op) → σ → Prop) :
    σ → Async Op Ans ε α → List (Event Op Ans ε) → σ → Except ε α → Prop where
  | done (s : σ) (result : Except ε α) : Runs handles s (.done result) [] s result
  | await {s mid last : σ} {op : Op} {resume : Except ε (Ans op) → Async Op Ans ε α}
      {answer : Except ε (Ans op)} {events : List (Event Op Ans ε)} {result : Except ε α}
      (hop : handles s op answer mid)
      (hrest : Runs handles mid (resume answer) events last result) :
      Runs handles s (.await op resume) (⟨op,answer⟩::events) last result

/-- An invariant of the history and the state, kept by every operation a
specification allows, holds at the end, and so does what it says of the result. -/
theorem Runs.inv {σ : Type u} {handles : σ → (op : Op) → Except ε (Ans op) → σ → Prop} {s last : σ}
    {x : Async Op Ans ε α} {events history : List (Event Op Ans ε)} {result : Except ε α}
    {I : List (Event Op Ans ε) → σ → Prop} (hrun : Runs handles s x events last result)
    (hsound : x.Sound A P Q history) (hstart : I history s)
    (hstep : ∀ history op answer s next,I history s → P history op → handles s op answer next →
      A history ⟨op,answer⟩ ∧ I (history++[⟨op,answer⟩]) next) :
    I (history++events) last ∧ Q (history++events) result := by
  induction hrun generalizing history with
  | done s result =>
    rw [List.append_nil]
    exact ⟨hstart,hsound⟩
  | await hop hrest ih =>
    obtain ⟨ha,hi⟩ := hstep _ _ _ _ _ hstart hsound.1 hop
    have hlast := ih (hsound.2 _ ha) hi
    rw [List.append_assoc] at hlast
    exact hlast

/-- In a run of a strict coroutine nothing but a closing operation follows an
operation that raises, and the run ends with its error. -/
theorem Runs.ends_of_strict {σ : Type u} {handles : σ → (op : Op) → Except ε (Ans op) → σ → Prop}
    {s last : σ} {x : Async Op Ans ε α} {events : List (Event Op Ans ε)} {result : Except ε α}
    {kept closes : Op → Prop} (hrun : Runs handles s x events last result)
    (hx : x.Strict kept closes) {before after : List (Event Op Ans ε)} {op : Op} {e : ε}
    (hsplit : events=before++⟨op,.error e⟩::after) (hop : ¬kept op) :
    after=[] ∧ result=.error e ∨ ∃ exit answer,closes exit ∧ after=[⟨exit,answer⟩] ∧
      result=.error (lastError e answer) := by
  induction hrun generalizing before with
  | done s result => exact absurd hsplit.symm (by simp)
  | @await s mid last op' resume answer events result hhandles hrest ih =>
    cases before with
    | cons first before => exact ih (hx.2 _) (List.cons.inj hsplit).2
    | nil =>
      obtain ⟨hevent,rfl⟩ := List.cons.inj hsplit
      cases hevent
      rcases hx.1 e hop with hdone|⟨exit,rest,hexit,hcloses,hlast⟩
      · rw [hdone] at hrest
        cases hrest
        exact Or.inl ⟨rfl,rfl⟩
      · rw [hexit] at hrest
        cases hrest with
        | @await _ _ _ _ _ closing _ _ _ hend =>
          rw [hlast closing] at hend
          cases hend
          exact Or.inr ⟨exit,closing,hcloses,rfl,rfl⟩

section Inversion

variable {σ : Type u} {handles : σ → (op : Op) → Except ε (Ans op) → σ → Prop} {s last : σ}
  {events : List (Event Op Ans ε)}

/-- A coroutine that has ended does nothing. -/
theorem runs_done {result other : Except ε α}
    (h : Runs handles s (.done result) events last other) :
    events=[] ∧ last=s ∧ other=result := by
  cases h
  exact ⟨rfl,rfl,rfl⟩

/-- A run of a sequence is a run of its first part, and of the rest where that
part has a value. -/
theorem runs_bind {x : Async Op Ans ε α} {next : α → Async Op Ans ε β} {result : Except ε β}
    (h : Runs handles s (x>>=next) events last result) :
    ∃ before mid outcome,Runs handles s x before mid outcome ∧ match outcome with
      | .ok a => ∃ after,events=before++after ∧ Runs handles mid (next a) after last result
      | .error e => events=before ∧ last=mid ∧ result=.error e := by
  induction x generalizing s events with
  | done outcome =>
    refine ⟨[],s,outcome,.done s outcome,?_⟩
    cases outcome with
    | ok a => exact ⟨events,rfl,h⟩
    | error e => exact runs_done h
  | await op resume ih =>
    cases h with
    | await hop hrest =>
      obtain ⟨before,mid,outcome,hfirst,hlast⟩ := ih _ hrest
      refine ⟨_::before,mid,outcome,.await hop hfirst,?_⟩
      cases outcome with
      | ok a =>
        obtain ⟨after,rfl,hafter⟩ := hlast
        exact ⟨after,rfl,hafter⟩
      | error e =>
        obtain ⟨rfl,hmid,hresult⟩ := hlast
        exact ⟨rfl,hmid,hresult⟩

/-- A run of a call and the rest. -/
theorem runs_call_bind {op : Op} {next : Ans op → Async Op Ans ε β} {result : Except ε β}
    (h : Runs handles s (call op>>=next) events last result) :
    ∃ answer mid,handles s op answer mid ∧ match answer with
      | .ok a => ∃ after,events=⟨op,.ok a⟩::after ∧ Runs handles mid (next a) after last result
      | .error e => events=[⟨op,.error e⟩] ∧ last=mid ∧ result=.error e := by
  cases h with
  | @await _ mid _ _ _ answer after _ hop hrest =>
    refine ⟨answer,mid,hop,?_⟩
    cases answer with
    | ok a => exact ⟨after,rfl,hrest⟩
    | error e =>
      obtain ⟨rfl,hmid,hresult⟩ := runs_done hrest
      exact ⟨rfl,hmid,hresult⟩

/-- A run that keeps its error is a run. -/
theorem runs_attempt {x : Async Op Ans ε α} {result : Except ε (Except ε α)}
    (h : Runs handles s x.attempt events last result) :
    ∃ outcome,result=.ok outcome ∧ Runs handles s x events last outcome := by
  induction x generalizing s events with
  | done outcome =>
    obtain ⟨rfl,rfl,rfl⟩ := runs_done h
    exact ⟨outcome,rfl,.done _ outcome⟩
  | await op resume ih =>
    cases h with
    | await hop hrest =>
      obtain ⟨outcome,hresult,hx⟩ := ih _ hrest
      exact ⟨outcome,hresult,.await hop hx⟩

/-- A call that returns was answered with a value. -/
theorem returns_call_bind {op : Op} {next : Ans op → Async Op Ans ε β} {b : β}
    (h : Runs handles s (call op>>=next) events last (.ok b)) :
    ∃ a mid after,handles s op (.ok a) mid ∧ events=⟨op,.ok a⟩::after ∧
      Runs handles mid (next a) after last (.ok b) := by
  obtain ⟨answer,mid,hop,hrest⟩ := runs_call_bind h
  cases answer with
  | error e => cases hrest.2.2
  | ok a =>
    obtain ⟨after,hevents,hafter⟩ := hrest
    exact ⟨a,mid,after,hop,hevents,hafter⟩

/-- A sequence that returns has a first part that returns. -/
theorem returns_bind {x : Async Op Ans ε α} {next : α → Async Op Ans ε β} {b : β}
    (h : Runs handles s (x>>=next) events last (.ok b)) :
    ∃ a before mid after,Runs handles s x before mid (.ok a) ∧ events=before++after ∧
      Runs handles mid (next a) after last (.ok b) := by
  obtain ⟨before,mid,outcome,hx,hrest⟩ := runs_bind h
  cases outcome with
  | error e => cases hrest.2.2
  | ok a =>
    obtain ⟨after,hevents,hafter⟩ := hrest
    exact ⟨a,before,mid,after,hx,hevents,hafter⟩

/-- A loop that returns keeps what each of its rounds keeps. -/
theorem returns_foldlM {γ δ : Type} {items : List γ} {f : δ → γ → Async Op Ans ε δ} {init b : δ}
    (I : List γ → δ → List (Event Op Ans ε) → σ → Prop)
    (hstep : ∀ earlier item later acc before mid after next acc',items=earlier++item::later →
      I earlier acc before mid → Runs handles mid (f acc item) after next (.ok acc') →
      I (earlier++[item]) acc' (before++after) next)
    (h : Runs handles s (items.foldlM f init) events last (.ok b)) (hstart : I [] init [] s) :
    I items b events last := by
  have hgen : ∀ later earlier acc before mid after,items=earlier++later →
      I earlier acc before mid → Runs handles mid (later.foldlM f acc) after last (.ok b) →
      I items b (before++after) last := by
    intro later
    induction later with
    | nil =>
      intro earlier acc before mid after hitems hi hrun
      obtain ⟨rfl,rfl,hb⟩ := runs_done hrun
      cases hb
      rw [List.append_nil] at hitems ⊢
      exact hitems▸hi
    | cons item later ih =>
      intro earlier acc before mid after hitems hi hrun
      rw [List.foldlM_cons] at hrun
      obtain ⟨acc',done,next,rest,hitem,rfl,hrest⟩ := returns_bind hrun
      have hnext := hstep earlier item later acc before mid done next acc' hitems hi hitem
      rw [←List.append_assoc]
      exact ih _ acc' _ next rest (by rw [hitems,List.append_assoc]; rfl) hnext hrest
  exact hgen items [] init [] s events rfl hstart h

/-- Work that returns was opened, returned its value, and was closed. -/
theorem runs_within_ok {enter exit : Op} {body : Async Op Ans ε α} {a : α}
    (h : Runs handles s (within enter exit body) events last (.ok a)) :
    ∃ opened entered before worked closed,handles s enter (.ok opened) entered ∧
      Runs handles entered body before worked (.ok a) ∧
      handles worked exit (.ok closed) last ∧
      events=⟨enter,.ok opened⟩::(before++[⟨exit,.ok closed⟩]) := by
  obtain ⟨opened,entered,after,hopen,rfl,hafter⟩ := returns_call_bind h
  obtain ⟨kept,before,worked,exits,hkept,rfl,hclose⟩ := returns_bind hafter
  obtain ⟨outcome,houtcome,hbody⟩ := runs_attempt hkept
  cases houtcome
  obtain ⟨closed,mid,rest,hclosed,rfl,hend⟩ := returns_call_bind hclose
  obtain ⟨rfl,rfl,hresult⟩ := runs_done hend
  cases hresult
  exact ⟨opened,entered,before,worked,closed,hopen,hbody,hclosed,rfl⟩

/-- What every operation keeps, a run keeps. -/
theorem Runs.keeps {x : Async Op Ans ε α} {result : Except ε α} {I : σ → Prop}
    (hrun : Runs handles s x events last result) (hstart : I s)
    (hstep : ∀ op answer s next,I s → handles s op answer next → I next) : I last := by
  induction hrun with
  | done s result => exact hstart
  | await hop hrest ih => exact ih (hstep _ _ _ _ hstart hop)

end Inversion

/-- Run a coroutine alone, answered by an oracle. -/
def exec {σ : Type u} (oracle : σ → (op : Op) → Except ε (Ans op) × σ) :
    Async Op Ans ε α → σ → List (Event Op Ans ε) × σ × Except ε α
  | .done result,s => ([],s,result)
  | .await op resume,s =>
    let outcome := oracle s op
    let rest := (resume outcome.1).exec oracle outcome.2
    (⟨op,outcome.1⟩::rest.1,rest.2)

/-- An oracle that answers as it may, wherever it is asked, makes a run. -/
theorem runs_exec_of_inv {σ : Type u}
    {handles : σ → (op : Op) → Except ε (Ans op) → σ → Prop}
    {oracle : σ → (op : Op) → Except ε (Ans op) × σ} {I : σ → Prop}
    (horacle : ∀ s op,I s → handles s op (oracle s op).1 (oracle s op).2 ∧ I (oracle s op).2)
    (x : Async Op Ans ε α) {s : σ} (hs : I s) :
    Runs handles s x (x.exec oracle s).1 (x.exec oracle s).2.1 (x.exec oracle s).2.2 := by
  induction x generalizing s with
  | done result => exact .done s result
  | await op resume ih => exact .await (horacle s op hs).1 (ih _ (horacle s op hs).2)

/-- An oracle that answers as it may makes a run. -/
theorem runs_exec {σ : Type u} {handles : σ → (op : Op) → Except ε (Ans op) → σ → Prop}
    {oracle : σ → (op : Op) → Except ε (Ans op) × σ}
    (horacle : ∀ s op,handles s op (oracle s op).1 (oracle s op).2) (x : Async Op Ans ε α) (s : σ) :
    Runs handles s x (x.exec oracle s).1 (x.exec oracle s).2.1 (x.exec oracle s).2.2 :=
  runs_exec_of_inv (I:=fun _ => True) (fun s op _ => ⟨horacle s op,trivial⟩) x trivial

end Async

/-- Coroutines sharing a world, and the operations they have done so far. -/
structure Pool (σ : Type u) (ι Op : Type) (Ans : Op → Type) (ε α : Type) where
  /-- What the tasks share. -/
  world : σ
  /-- Where each task stands. -/
  tasks : ι → Async Op Ans ε α
  /-- The operations so far, each with its task. -/
  trace : List (ι × Event Op Ans ε)

namespace Pool

variable {σ : Type u} {ι Op : Type} {Ans : Op → Type} {ε α : Type} [DecidableEq ι]

/-- The operations of one coroutine, in order. -/
def history (trace : List (ι × Event Op Ans ε)) (i : ι) : List (Event Op Ans ε) :=
  (trace.filter fun entry => entry.1=i).map Prod.snd

theorem history_append_self (trace : List (ι × Event Op Ans ε)) (i : ι)
    (event : Event Op Ans ε) : history (trace++[(i,event)]) i=history trace i++[event] := by
  simp [history]

theorem history_append_of_ne (trace : List (ι × Event Op Ans ε)) {i j : ι} (h : i≠j)
    (event : Event Op Ans ε) : history (trace++[(i,event)]) j=history trace j := by
  simp [history,h]

/-- A history is part of the trace. -/
theorem history_sublist (trace : List (ι × Event Op Ans ε)) (i : ι) :
    (history trace i).Sublist (trace.map Prod.snd) :=
  List.filter_sublist.map _

/-- A history after one more operation. -/
theorem mem_history_append {trace : List (ι × Event Op Ans ε)} {i k : ι}
    {event other : Event Op Ans ε} :
    other∈history (trace++[(k,event)]) i ↔ other∈history trace i ∨ i=k ∧ other=event := by
  by_cases h : i=k
  · subst h
    rw [history_append_self,List.mem_append,List.mem_singleton]
    simp
  · rw [history_append_of_ne _ (Ne.symm h)]
    simp [h]

/-- Whether an operation occurs in a history, after one more operation. -/
theorem any_history_append (p : Event Op Ans ε → Bool) (trace : List (ι × Event Op Ans ε))
    (k : ι) (event : Event Op Ans ε) (i : ι) :
    (history (trace++[(k,event)]) i).any p=
      ((history trace i).any p || (decide (i=k) && p event)) := by
  by_cases h : i=k
  · subst h
    rw [history_append_self,List.any_append]
    simp
  · rw [history_append_of_ne _ (Ne.symm h)]
    simp [h]

/-- One coroutine does its operation, or the rest of the world moves. -/
inductive Step (handles : σ → (op : Op) → Except ε (Ans op) → σ → Prop)
    (others : σ → σ → Prop) :
    Pool σ ι Op Ans ε α → Option (ι × Event Op Ans ε) → Pool σ ι Op Ans ε α → Prop where
  | task {pool : Pool σ ι Op Ans ε α} {i : ι} {op : Op}
      {resume : Except ε (Ans op) → Async Op Ans ε α} {answer : Except ε (Ans op)} {next : σ}
      (htask : pool.tasks i=.await op resume) (hop : handles pool.world op answer next) :
      Step handles others pool (some (i,⟨op,answer⟩))
        ⟨next,Function.update pool.tasks i (resume answer),pool.trace++[(i,⟨op,answer⟩)]⟩
  | world {pool : Pool σ ι Op Ans ε α} {next : σ} (hothers : others pool.world next) :
      Step handles others pool none { pool with world := next }

/-- A step extends the trace, and a coroutine that has ended stays ended. -/
theorem Step.trace_eq {handles : σ → (op : Op) → Except ε (Ans op) → σ → Prop}
    {others : σ → σ → Prop} {pool next : Pool σ ι Op Ans ε α} {i : ι} {event : Event Op Ans ε}
    (h : Step handles others pool (some (i,event)) next) :
    next.trace=pool.trace++[(i,event)] ∧ handles pool.world event.op event.answer next.world ∧
      (pool.tasks i).ended=false ∧ ∀ j,(next.tasks j).ended=false → (pool.tasks j).ended=false := by
  cases h with
  | task htask hop =>
    refine ⟨rfl,hop,by rw [htask]; rfl,fun j hj => ?_⟩
    by_cases hji : j=i
    · rw [hji,htask]
      rfl
    · simpa [Function.update_of_ne hji] using hj

/-- A step is taken by a coroutine that may come to its operation, and leaves it
where it may come to nothing it could not come to before. -/
theorem Step.may {handles : σ → (op : Op) → Except ε (Ans op) → σ → Prop}
    {others : σ → σ → Prop} {pool next : Pool σ ι Op Ans ε α} {i : ι} {event : Event Op Ans ε}
    {ok : Event Op Ans ε → Prop} {goal : Op → Prop}
    (h : Step handles others pool (some (i,event)) next) :
    (goal event.op → (pool.tasks i).May ok goal) ∧
      (ok event → (next.tasks i).May ok goal → (pool.tasks i).May ok goal) ∧
      ∀ j,j≠i → next.tasks j=pool.tasks j := by
  cases h with
  | task htask hop =>
    refine ⟨fun hgoal => ?_,fun hok hmay => ?_,fun j hj => Function.update_of_ne hj _ _⟩
    · rw [htask]
      exact .now hgoal
    · dsimp only at hmay
      rw [Function.update_self] at hmay
      rw [htask]
      exact .later hok hmay

/-- The pools reached by steps that are allowed where they are taken. -/
inductive Run (handles : σ → (op : Op) → Except ε (Ans op) → σ → Prop) (others : σ → σ → Prop)
    (allowed : Pool σ ι Op Ans ε α → Option (ι × Event Op Ans ε) → Prop)
    (start : Pool σ ι Op Ans ε α) : Pool σ ι Op Ans ε α → Prop where
  | start : Run handles others allowed start start
  | step {pool next : Pool σ ι Op Ans ε α} {label : Option (ι × Event Op Ans ε)}
      (hrun : Run handles others allowed start pool) (hallowed : allowed pool label)
      (hstep : Step handles others pool label next) : Run handles others allowed start next

variable {handles : σ → (op : Op) → Except ε (Ans op) → σ → Prop} {others : σ → σ → Prop}
  {allowed : Pool σ ι Op Ans ε α → Option (ι × Event Op Ans ε) → Prop}
  {start pool next : Pool σ ι Op Ans ε α}

/-- What holds at the start and is kept by allowed steps holds throughout. -/
theorem Run.inv {I : Pool σ ι Op Ans ε α → Prop} (hstart : I start)
    (hstep : ∀ pool label next,I pool → allowed pool label → Step handles others pool label next →
      I next) (h : Run handles others allowed start pool) : I pool := by
  induction h with
  | start => exact hstart
  | step _ hallowed hs ih => exact hstep _ _ _ ih hallowed hs

/-- All coroutines keep to a specification for the history they have. -/
def SoundAll (A : List (Event Op Ans ε) → Event Op Ans ε → Prop)
    (P : List (Event Op Ans ε) → Op → Prop)
    (Q : List (Event Op Ans ε) → Except ε α → Prop) (pool : Pool σ ι Op Ans ε α) : Prop :=
  ∀ i,(pool.tasks i).Sound A P Q (history pool.trace i)

variable {A : List (Event Op Ans ε) → Event Op Ans ε → Prop}
  {P : List (Event Op Ans ε) → Op → Prop} {Q : List (Event Op Ans ε) → Except ε α → Prop}

/-- Before any step the histories are empty. -/
theorem soundAll_start {world : σ} {tasks : ι → Async Op Ans ε α}
    (h : ∀ i,(tasks i).Sound A P Q []) :
    (⟨world,tasks,[]⟩ : Pool σ ι Op Ans ε α).SoundAll A P Q := h

/-- Every coroutine keeps to a specification of its own. -/
def SoundEach (A : List (Event Op Ans ε) → Event Op Ans ε → Prop)
    (P : ι → List (Event Op Ans ε) → Op → Prop)
    (Q : ι → List (Event Op Ans ε) → Except ε α → Prop) (pool : Pool σ ι Op Ans ε α) : Prop :=
  ∀ i,(pool.tasks i).Sound A (P i) (Q i) (history pool.trace i)

/-- A step meets the specification of the coroutine that takes it and, if its
answer does, leaves every coroutine with its own. -/
theorem SoundEach.step {P : ι → List (Event Op Ans ε) → Op → Prop}
    {Q : ι → List (Event Op Ans ε) → Except ε α → Prop} {i : ι} {event : Event Op Ans ε}
    (h : pool.SoundEach A P Q) (hstep : Step handles others pool (some (i,event)) next) :
    P i (history pool.trace i) event.op ∧
      (A (history pool.trace i) event → next.SoundEach A P Q) := by
  cases hstep with
  | task htask hop =>
    rename_i op resume answer world
    have hi := h i
    rw [htask] at hi
    refine ⟨hi.1,fun hanswer j => ?_⟩
    by_cases hij : j=i
    · subst hij
      rw [history_append_self]
      simpa using hi.2 answer hanswer
    · rw [history_append_of_ne _ (Ne.symm hij)]
      simpa [Function.update_of_ne hij] using h j

/-- A move of the rest of the world leaves every coroutine with its own specification. -/
theorem SoundEach.world {P : ι → List (Event Op Ans ε) → Op → Prop}
    {Q : ι → List (Event Op Ans ε) → Except ε α → Prop} (h : pool.SoundEach A P Q)
    (hstep : Step handles others pool none next) : next.SoundEach A P Q := by
  cases hstep with
  | world hothers => exact h

/-- A step meets the specification of the coroutine that takes it and, if its
answer does, leaves all coroutines with theirs. -/
theorem SoundAll.step {i : ι} {event : Event Op Ans ε} (h : pool.SoundAll A P Q)
    (hstep : Step handles others pool (some (i,event)) next) :
    P (history pool.trace i) event.op ∧
      (A (history pool.trace i) event → next.SoundAll A P Q) :=
  SoundEach.step (P:=fun _ => P) (Q:=fun _ => Q) h hstep

/-- A move of the rest of the world leaves all coroutines with their specification. -/
theorem SoundAll.world (h : pool.SoundAll A P Q) (hstep : Step handles others pool none next) :
    next.SoundAll A P Q := by
  cases hstep with
  | world hothers => exact h

/-- Let one coroutine do its operation, answered by an oracle. -/
def advance (oracle : σ → (op : Op) → Except ε (Ans op) × σ) (pool : Pool σ ι Op Ans ε α)
    (i : ι) : Pool σ ι Op Ans ε α :=
  match pool.tasks i with
  | .done _ => pool
  | .await op resume =>
    let outcome := oracle pool.world op
    ⟨outcome.2,Function.update pool.tasks i (resume outcome.1),
      pool.trace++[(i,⟨op,outcome.1⟩)]⟩

/-- A step of one coroutine leaves the others where they are. -/
theorem advance_others (oracle : σ → (op : Op) → Except ε (Ans op) × σ)
    (pool : Pool σ ι Op Ans ε α) {i j : ι} (h : i≠j) :
    history (advance oracle pool i).trace j=history pool.trace j ∧
      (advance oracle pool i).tasks j=pool.tasks j := by
  unfold advance
  split
  · exact ⟨rfl,rfl⟩
  · exact ⟨history_append_of_ne _ h _,Function.update_of_ne h.symm _ _⟩

/-- A schedule names the coroutine of every step. An oracle that answers as the
world may continues a run, as long as what it keeps allows its steps. -/
theorem run_schedule_of_keeps {oracle : σ → (op : Op) → Except ε (Ans op) × σ}
    (horacle : ∀ world op,handles world op (oracle world op).1 (oracle world op).2)
    (I : Pool σ ι Op Ans ε α → Prop) {order : List ι}
    (hkeeps : ∀ pool,∀ i∈order,I pool → I (advance oracle pool i))
    (hallowed : ∀ pool,∀ i∈order,I pool → ∀ event,allowed pool (some (i,event)))
    {start pool : Pool σ ι Op Ans ε α} (hrun : Run handles others allowed start pool)
    (hi : I pool) : Run handles others allowed start (order.foldl (advance oracle) pool) := by
  induction order generalizing pool with
  | nil => exact hrun
  | cons i order ih =>
    have hone : Run handles others allowed start (advance oracle pool i) := by
      unfold advance
      split
      · exact hrun
      · next op resume htask =>
        exact hrun.step (hallowed pool i List.mem_cons_self hi _) (.task htask (horacle _ _))
    rw [List.foldl_cons]
    exact ih (fun pool j hj => hkeeps pool j (List.mem_cons_of_mem i hj))
      (fun pool j hj => hallowed pool j (List.mem_cons_of_mem i hj)) hone
      (hkeeps pool i List.mem_cons_self hi)

/-- A coroutine that has not begun, or has ended. -/
def Idle (pool : Pool σ ι Op Ans ε α) (i : ι) : Prop :=
  history pool.trace i=[] ∨ (pool.tasks i).ended=true

/-- A coroutine that is idle stays so while another one goes on. -/
theorem Idle.advance {oracle : σ → (op : Op) → Except ε (Ans op) × σ} {i j : ι}
    (h : Idle pool j) (hne : j≠i) : Idle (Pool.advance oracle pool i) j := by
  obtain ⟨htrace,htask⟩ := advance_others oracle pool hne.symm
  unfold Idle
  rw [htrace,htask]
  exact h

/-- One coroutine goes on while all others are idle. -/
theorem run_alone {oracle : σ → (op : Op) → Except ε (Ans op) × σ}
    (horacle : ∀ world op,handles world op (oracle world op).1 (oracle world op).2) {i : ι}
    (hallowed : ∀ pool,(∀ j,j≠i → Idle pool j) → ∀ event,allowed pool (some (i,event)))
    {start pool : Pool σ ι Op Ans ε α} (hrun : Run handles others allowed start pool)
    (hidle : ∀ j,j≠i → Idle pool j) (steps : ℕ) :
    Run handles others allowed start ((List.replicate steps i).foldl (advance oracle) pool) := by
  refine run_schedule_of_keeps horacle (fun pool => ∀ j,j≠i → Idle pool j)
    (fun pool k hk hi j hj => ?_) (fun pool k hk hi event => ?_) hrun hidle
  · rw [List.eq_of_mem_replicate hk]
    exact (hi j hj).advance hj
  · rw [List.eq_of_mem_replicate hk]
    exact hallowed pool hi event

/-- A schedule is a run where every step is allowed. -/
theorem run_schedule {oracle : σ → (op : Op) → Except ε (Ans op) × σ}
    (horacle : ∀ world op,handles world op (oracle world op).1 (oracle world op).2)
    (hallowed : ∀ pool label,allowed pool label) (order : List ι)
    (start : Pool σ ι Op Ans ε α) :
    Run handles others allowed start (order.foldl (advance oracle) start) :=
  run_schedule_of_keeps horacle (fun _ => True) (fun _ _ _ _ => trivial)
    (fun pool _ _ _ _ => hallowed pool _) .start trivial

/-- A run in one world is a run in another, with the same operations and
answers, if every step is up to moves of the rest of that world. -/
theorem Run.simulate {τ : Type v} {handles : σ → (op : Op) → Except ε (Ans op) → σ → Prop}
    {others : σ → σ → Prop} {allowed : Pool σ ι Op Ans ε α → Option (ι × Event Op Ans ε) → Prop}
    {handles' : τ → (op : Op) → Except ε (Ans op) → τ → Prop} {others' : τ → τ → Prop}
    {allowed' : Pool τ ι Op Ans ε α → Option (ι × Event Op Ans ε) → Prop} {R : σ → τ → Prop}
    {start pool : Pool σ ι Op Ans ε α} (hrun : Run handles others allowed start pool)
    (hallowed : ∀ pool label t,allowed pool label → allowed' ⟨t,pool.tasks,pool.trace⟩ label)
    (hmoves : ∀ pool,allowed' pool none)
    (hstep : ∀ s op answer next t,R s t → handles s op answer next →
      ∃ mid next',others' t mid ∧ handles' mid op answer next' ∧ R next next')
    (hothers : ∀ s next t,R s t → others s next → ∃ next',others' t next' ∧ R next next')
    {t : τ} (hrel : R start.world t) :
    ∃ last,Run handles' others' allowed' ⟨t,start.tasks,start.trace⟩ ⟨last,pool.tasks,pool.trace⟩ ∧
      R pool.world last := by
  induction hrun with
  | start => exact ⟨t,.start,hrel⟩
  | step hrun hallow hs ih =>
    obtain ⟨last,hrun',hlast⟩ := ih
    cases hs with
    | task htask hop =>
      obtain ⟨mid,next',hmid,hop',hnext⟩ := hstep _ _ _ _ _ hlast hop
      have hmoved := Run.step hrun' (hmoves _) (.world hmid)
      exact ⟨next',Run.step hmoved (hallowed _ _ mid hallow) (.task htask hop'),hnext⟩
    | world hmove =>
      obtain ⟨next',hmove',hnext⟩ := hothers _ _ _ hlast hmove
      exact ⟨next',Run.step hrun' (hallowed _ _ last hallow) (.world hmove'),hnext⟩

/-- A sum over a trace is the sum over the histories of its coroutines. -/
theorem sum_trace (f : Event Op Ans ε → ℕ) (trace : List (ι × Event Op Ans ε)) (present : Finset ι)
    (h : ∀ entry∈trace,entry.1∈present) : ((trace.map Prod.snd).map f).sum=
      ∑ i∈present,((history trace i).map f).sum := by
  induction trace with
  | nil => simp [history]
  | cons entry trace ih =>
    have hentry : ∀ i,((history (entry::trace) i).map f).sum=
        (if entry.1=i then f entry.2 else 0)+((history trace i).map f).sum := by
      intro i
      by_cases hi : entry.1=i
      · simp [history,hi]
      · simp [history,hi]
    rw [List.map_cons,List.map_cons,List.sum_cons,
      ih fun other ho => h other (List.mem_cons_of_mem _ ho),
      Finset.sum_congr rfl fun i _ => hentry i,Finset.sum_add_distrib,Finset.sum_ite_eq,
      if_pos (h entry List.mem_cons_self)]

/-- What is at most another sum in every history is so in the trace. -/
theorem sum_trace_le {f g : Event Op Ans ε → ℕ} {trace : List (ι × Event Op Ans ε)}
    (h : ∀ i,((history trace i).map f).sum≤((history trace i).map g).sum) :
    ((trace.map Prod.snd).map f).sum≤((trace.map Prod.snd).map g).sum := by
  have hpresent : ∀ entry∈trace,entry.1∈(trace.map Prod.fst).toFinset := fun entry he =>
    List.mem_toFinset.mpr (List.mem_map_of_mem he)
  rw [sum_trace f trace _ hpresent,sum_trace g trace _ hpresent]
  exact Finset.sum_le_sum fun i _ => h i

/-- What is less in one history, and nowhere more, is less in the trace. -/
theorem sum_trace_lt {f g : Event Op Ans ε → ℕ} {trace : List (ι × Event Op Ans ε)}
    (h : ∀ i,((history trace i).map f).sum≤((history trace i).map g).sum) {i : ι}
    (hi : ((history trace i).map f).sum<((history trace i).map g).sum) :
    ((trace.map Prod.snd).map f).sum<((trace.map Prod.snd).map g).sum := by
  have hpresent : ∀ entry∈trace,entry.1∈insert i (trace.map Prod.fst).toFinset := fun entry he =>
    Finset.mem_insert_of_mem (List.mem_toFinset.mpr (List.mem_map_of_mem he))
  rw [sum_trace f trace _ hpresent,sum_trace g trace _ hpresent]
  exact Finset.sum_lt_sum (fun i _ => h i) ⟨i,Finset.mem_insert_self _ _,hi⟩

/-- Letting a coroutine do its operation is a step. -/
theorem step_advance {oracle : σ → (op : Op) → Except ε (Ans op) × σ}
    {i : ι} {op : Op} {resume : Except ε (Ans op) → Async Op Ans ε α}
    (htask : pool.tasks i=.await op resume)
    (hop : handles pool.world op (oracle pool.world op).1 (oracle pool.world op).2) :
    Step handles others pool (some (i,⟨op,(oracle pool.world op).1⟩)) (advance oracle pool i) := by
  unfold advance
  rw [htask]
  exact .task htask hop

end Pool

end NspMigrator.PyAsync
