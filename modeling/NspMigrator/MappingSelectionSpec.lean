import Mathlib
import NspMigrator.MappingScopeInvariant

/-!
# What selections ask of the repository

A selection saves the result it read, with an object chosen by hand or one it
created. An automatic run does so for every result it listed without an
object, and reads each of them again when its turn comes.
-/

namespace NspMigrator.MappingSelectionSpec

open PyAsync PyDict PyText SdwanModels ExecuteRepository MappingEntities MappingRepository
open MappingUseCases MigrationRequests MappingScopeSpec

/-- The ways an object is selected for results of a scope. -/
inductive SelectRequest where
  | candidate (resultId candidateId : ℕ)
  | direct (resultId : ℕ) (sdwanEntityId : ℤ)
  | create (resultId : ℕ)
  | auto
  deriving DecidableEq

namespace SelectRequest

/-- The request on the scope. -/
def request (scopeId : ℕ) : SelectRequest → MappingRequest
  | .candidate resultId candidateId => .selectEntityCandidate scopeId resultId candidateId
  | .direct resultId sdwanEntityId => .selectSdwanEntityDirectly scopeId resultId sdwanEntityId
  | .create resultId => .selectEntityWithCreateOnSdwan scopeId resultId
  | .auto => .autoSelectEntitiesWithCreate scopeId

/-- What serving a request does. -/
def serve [PyUnicode] (hashFunc : String → String) (scopeId : ℕ) (select : SelectRequest) :
    Mapping Unit :=
  (select.request scopeId).serve hashFunc mappingServices

/-- Whether the object is created. -/
def Creates : SelectRequest → Prop
  | .create _ | .auto => True
  | .candidate _ _ | .direct _ _ => False

end SelectRequest

/-- The result was chosen by hand. -/
def ManuallySelected (result : MappingEntityResult) : Prop :=
  result.selectionMethod=some .manualCandidate ∨ result.selectionMethod=some .manualDirect

instance (result : MappingEntityResult) : Decidable (ManuallySelected result) :=
  inferInstanceAs (Decidable (_ ∨ _))

/-- The copy a request works from, after one more operation. -/
def updateRead (read : Option MappingEntityResult) (event : MappingEvent) :
    Option MappingEntityResult :=
  match event with
  | ⟨.getResult _ _,.ok found⟩ => found
  | ⟨.getResult _ _,.error _⟩ | ⟨.saveResult _,_⟩ => none
  | _ => read

/-- The copy a request works from: the result it read last and has not saved. -/
def currentRead (history : List MappingEvent) : Option MappingEntityResult :=
  history.foldl updateRead none

/-- The results without an object were listed. -/
def UnresolvedRead (scopeId : ℕ) (history : List MappingEvent)
    (listed : List MappingEntityResult) : Prop :=
  (⟨.listResults scopeId none (some .unresolved),.ok listed⟩ : MappingEvent)∈history

/-- A result was read by itself. -/
def ResultRead (history : List MappingEvent) (resultId : ℕ) : Prop :=
  ∃ event∈history,∃ scopeId,event.op=.getResult scopeId resultId

/-- What a request asks of the repository, for what it has done so far. -/
def SelectSpec (select : SelectRequest) (scopeId : ℕ) (history : List MappingEvent) :
    MappingOp → Prop
  | .getResult otherId resultId => otherId=scopeId ∧ (select=.auto →
    (∃ listed,UnresolvedRead scopeId history listed ∧ ∃ result∈listed,result.id=resultId) ∧
      ¬ResultRead history resultId)
  | .saveResult result => ∃ old,currentRead history=some old ∧
    ((¬select.Creates ∧ ∃ method sdwanEntityId,
      (method=.manualCandidate ∨ method=.manualDirect) ∧ result=old.select method sdwanEntityId) ∨
    (select.Creates ∧ old.entityType≠.zone ∧ ∃ sdwanEntityId,
      result=old.selectCreated sdwanEntityId))
  | .createAddrObject _ | .createService _ => select.Creates ∧
    ∃ old,currentRead history=some old ∧ old.entityType≠.zone
  | .addScope _ | .addResults _ _ | .attachRules _ _ | .addRuleOperand _ _ => False
  | _ => True

/-- What the repository answers: entities under their own identifiers. -/
def SelectAnswer (event : MappingEvent) : Prop :=
  match event with
  | ⟨.getScopeById scopeId,.ok (some scope)⟩ => scope.id=scopeId
  | ⟨.getResult _ resultId,.ok (some result)⟩ => result.id=resultId
  | ⟨.listResults _ none (some .unresolved),.ok listed⟩ => (listed.map (·.id)).Nodup
  | _ => True

/-- A request keeps to its specification. -/
abbrev SelectKeeps {α : Type} (select : SelectRequest) (scopeId : ℕ) (x : Mapping α)
    (history : List MappingEvent) (Q : List MappingEvent → Except PyException α → Prop) : Prop :=
  x.Sound (fun _ => SelectAnswer) (SelectSpec select scopeId) Q history

/-- A history that was continued by reading no other result than one. -/
def ReadsOnly (resultId : ℕ) (history later : List MappingEvent) : Prop :=
  ∃ events,later=history++events ∧ ∀ event∈events,∀ scopeId otherId,
    event.op=.getResult scopeId otherId → otherId=resultId

section Histories

variable {select : SelectRequest} {scopeId resultId : ℕ} {history later : List MappingEvent}
  {event : MappingEvent}

theorem currentRead_snoc (history : List MappingEvent) (event : MappingEvent) :
    currentRead (history++[event])=updateRead (currentRead history) event := by
  rw [currentRead,List.foldl_append,List.foldl_cons,List.foldl_nil]
  rfl

/-- A neutral operation leaves the copy a request works from. -/
theorem updateRead_of_neutral {op : MappingOp} (h : Neutral op)
    (answer : Except PyException (MappingAns op)) (read : Option MappingEntityResult) :
    updateRead read ⟨op,answer⟩=read := by
  cases op with
  | getResult | saveResult => exact h.elim
  | _ => rfl

theorem readsOnly_refl (resultId : ℕ) (history : List MappingEvent) :
    ReadsOnly resultId history history :=
  ⟨[],(List.append_nil _).symm,fun _ h => absurd h List.not_mem_nil⟩

theorem ReadsOnly.snoc (h : ReadsOnly resultId history later)
    (hevent : ∀ scopeId otherId,event.op=.getResult scopeId otherId → otherId=resultId) :
    ReadsOnly resultId history (later++[event]) := by
  obtain ⟨events,rfl,honly⟩ := h
  refine ⟨events++[event],List.append_assoc _ _ _,fun other ho => ?_⟩
  rcases List.mem_append.mp ho with ho|ho
  · exact honly other ho
  · rw [List.mem_singleton.mp ho]
    exact hevent

/-- Operations that are neutral leave the copy a request works from. -/
theorem Only.selectKeeps {α : Type} {ok : MappingOp → Prop} {x : Mapping α} (hx : x.Only ok)
    {read : Option MappingEntityResult} (hneutral : ∀ op,ok op → Neutral op)
    (hspec : ∀ reached op,currentRead reached=read → ok op → SelectSpec select scopeId reached op)
    (hread : currentRead later=read) (hreads : ReadsOnly resultId history later) :
    SelectKeeps select scopeId x later fun reached _ =>
      currentRead reached=read ∧ ReadsOnly resultId history reached := by
  let I : List MappingEvent → Prop := fun reached =>
    currentRead reached=read ∧ ReadsOnly resultId history reached
  refine hx.sound I (fun reached op hi hop => hspec reached op hi.1 hop)
    (fun reached op answer hi hop => ?_) (fun reached result hi => hi) ⟨hread,hreads⟩
  refine ⟨?_,hi.2.snoc fun otherScope otherId he => ?_⟩
  · rw [currentRead_snoc,updateRead_of_neutral (hneutral op hop),hi.1]
  · dsimp only at he
    rw [he] at hop
    exact (hneutral _ hop).elim

/-- Operations that create nothing are always allowed. -/
theorem selectSpec_of_idle {op : MappingOp} (h : Idle op) :
    SelectSpec select scopeId history op := by
  cases op with
  | getResult | saveResult | addScope | addResults | attachRules | addRuleOperand |
      createAddrObject | createService => exact h.elim
  | _ => exact trivial

/-- Neutral operations are allowed to a request that creates, for a copy of an
address or service result. -/
theorem selectSpec_of_neutral {op : MappingOp} (h : Neutral op) (hcreates : select.Creates)
    {old : MappingEntityResult} (hread : currentRead history=some old)
    (htype : old.entityType≠.zone) : SelectSpec select scopeId history op := by
  cases op with
  | getResult | saveResult | addScope | addResults | attachRules | addRuleOperand => exact h.elim
  | createAddrObject | createService => exact ⟨hcreates,old,hread,htype⟩
  | _ => exact trivial

/-- A request for one result reads no other. -/
theorem readsOnly_of_not_read {events : List MappingEvent}
    (hreads : ReadsOnly resultId history events)
    (hevent : ∀ otherScope otherId,event.op≠.getResult otherScope otherId) :
    ReadsOnly resultId history (events++[event]) :=
  hreads.snoc fun otherScope otherId he => absurd he (hevent otherScope otherId)

end Histories

section Requests

variable [PyUnicode] {select : SelectRequest} {scopeId resultId : ℕ} {history : List MappingEvent}

omit [PyUnicode] in
/-- The first operation of a selection reads its result. -/
theorem readsOnly_read (answer : Except PyException (Option MappingEntityResult)) :
    ReadsOnly resultId history (history++[⟨.getResult scopeId resultId,answer⟩]) :=
  (readsOnly_refl resultId history).snoc fun otherScope otherId he => by
    cases he
    rfl

/-- A creation for one result saves the copy it read, if it may read it. -/
theorem selectEntityWithCreateOnSdwan_sound (hashFunc : String → String) (refresh : Bool)
    (hcreates : select.Creates)
    (hspec : SelectSpec select scopeId history (.getResult scopeId resultId)) :
    SelectKeeps select scopeId (selectEntityWithCreateOnSdwan hashFunc scopeId resultId refresh)
      history fun later _ => ReadsOnly resultId history later := by
  refine Async.sound_call_bind hspec (fun e _ => readsOnly_read (.error e)) fun found _ => ?_
  have hfirst : ReadsOnly resultId history
      (history++[⟨.getResult scopeId resultId,.ok found⟩]) := readsOnly_read (.ok found)
  cases found with
  | none => exact hfirst
  | some result =>
    dsimp only
    split
    · exact hfirst
    next htype =>
    have hread : currentRead (history++[⟨.getResult scopeId resultId,.ok (some result)⟩])=
        some result := currentRead_snoc _ _
    refine Async.sound_call_bind trivial
      (fun e _ => readsOnly_of_not_read hfirst fun _ _ h => by cases h) fun scope _ => ?_
    have hsecond : ReadsOnly resultId history
        (history++[⟨.getResult scopeId resultId,.ok (some result)⟩]++
          [⟨.getScopeById scopeId,.ok scope⟩]) :=
      readsOnly_of_not_read hfirst fun _ _ h => by cases h
    cases scope with
    | none => exact hsecond
    | some scope =>
      have hselect : ∀ {create : Mapping ℤ},create.Only Neutral →
          SelectKeeps select scopeId (create>>=fun createdId => do
            let _ ← await (.saveResult (result.selectCreated createdId))
            if refresh=true then
              let refreshed ← refreshMappingScopeCatalogFingerprint hashFunc scope.id
              return (result.selectCreated createdId,refreshed.2)
            else return (result.selectCreated createdId,false))
            (history++[⟨.getResult scopeId resultId,.ok (some result)⟩]++
              [⟨.getScopeById scopeId,.ok (some scope)⟩])
            fun later _ => ReadsOnly resultId history later := by
        intro create hcreate
        have hcopy : currentRead (history++[⟨.getResult scopeId resultId,.ok (some result)⟩]++
            [⟨.getScopeById scopeId,.ok (some scope)⟩])=some result := by
          rw [currentRead_snoc,hread]
          rfl
        refine Async.sound_bind ((Only.selectKeeps hcreate (fun _ h => h)
          (fun reached op hr hop => selectSpec_of_neutral hop hcreates hr htype) hcopy
          hsecond).mono fun later outcome hlater => ?_)
        cases outcome with
        | error error => exact hlater.2
        | ok createdId =>
          refine Async.sound_call_bind ⟨result,hlater.1,Or.inr ⟨hcreates,htype,createdId,rfl⟩⟩
            (fun e _ => readsOnly_of_not_read hlater.2 fun _ _ h => by cases h) fun saved _ => ?_
          have hsaved : ReadsOnly resultId history
              (later++[⟨.saveResult (result.selectCreated createdId),.ok saved⟩]) :=
            readsOnly_of_not_read hlater.2 fun _ _ h => by cases h
          split
          · refine Async.sound_bind ((Only.selectKeeps
              (refreshMappingScopeCatalogFingerprint_idle hashFunc scope.id) neutral_of_idle
              (fun _ _ _ hop => selectSpec_of_idle hop) rfl hsaved).mono
              fun last outcome hlast => ?_)
            cases outcome with
            | error error => exact hlast.2
            | ok refreshed => exact hlast.2
          · exact hsaved
      dsimp only
      split
      · exact hselect (createForAddr_neutral scope result)
      · exact hselect (createForService_neutral scope result)

omit [PyUnicode] in
/-- A computation of its own, and the rest. -/
theorem ofExcept_bind {α β : Type} {x : Except PyException α} {next : α → Mapping β}
    (hnext : ∀ a,x=.ok a → SelectKeeps select scopeId (next a) history fun _ _ => True) :
    SelectKeeps select scopeId (Async.ofExcept x>>=next) history fun _ _ => True := by
  cases x with
  | error error => exact trivial
  | ok a => exact hnext a rfl

omit [PyUnicode] in
/-- Idle work is allowed, whatever is done after it. -/
theorem idle_bind {α β : Type} {x : Mapping α} {next : α → Mapping β} (hx : x.Only Idle)
    (hnext : ∀ a later,currentRead later=currentRead history →
      SelectKeeps select scopeId (next a) later fun _ _ => True) :
    SelectKeeps select scopeId (x>>=next) history fun _ _ => True := by
  refine Async.sound_bind ((Only.selectKeeps hx neutral_of_idle
    (fun _ _ _ hop => selectSpec_of_idle hop) rfl (readsOnly_refl 0 history)).mono
    fun later outcome hlater => ?_)
  cases outcome with
  | error error => exact trivial
  | ok a => exact hnext a later hlater.1

/-- An automatic run reads every result it listed once, to create its object. -/
theorem autoSelectEntitiesWithCreate_sound (hashFunc : String → String) :
    SelectKeeps .auto scopeId (autoSelectEntitiesWithCreate hashFunc scopeId) []
      fun _ _ => True := by
  refine Async.sound_call_bind trivial (fun _ _ => trivial) fun scope hscope => ?_
  cases scope with
  | none => exact trivial
  | some scope =>
    obtain rfl := hscope
    refine Async.sound_call_bind trivial (fun _ _ => trivial) fun unresolved hids => ?_
    -- the results read so far are those whose turn has come
    let I : List MappingEntityResult → ℕ × List String → List MappingEvent → Prop :=
      fun earlier _ reached => UnresolvedRead scope.id reached unresolved ∧
        ∀ resultId,ResultRead reached resultId → resultId∈earlier.map (·.id)
    refine Async.sound_bind (Async.sound_foldlM I ?_ (fun done later _ => ?_) ?_)
    · rintro earlier result later acc reached hlist ⟨hlisted,honly⟩
      have hin : result∈unresolved := by
        rw [hlist]
        exact List.mem_append_right earlier List.mem_cons_self
      have hturn : result.id∉earlier.map (·.id) := by
        have hnodup : (unresolved.map (·.id)).Nodup := hids
        rw [hlist,List.map_append,List.map_cons] at hnodup
        exact fun h => (List.disjoint_of_nodup_append hnodup) h List.mem_cons_self
      have hspec : SelectSpec .auto scope.id reached (.getResult scope.id result.id) :=
        ⟨rfl,fun _ => ⟨⟨unresolved,hlisted,result,hin,rfl⟩,fun hread =>
          hturn (honly result.id hread)⟩⟩
      have hcreates : SelectRequest.Creates .auto := trivial
      have hone := selectEntityWithCreateOnSdwan_sound hashFunc false hcreates hspec
      have hnext : ∀ reached',ReadsOnly result.id reached reached' → I (earlier++[result]) acc
          reached' := by
        rintro reached' ⟨events,rfl,hevents⟩
        refine ⟨List.mem_append_left events hlisted,?_⟩
        rintro resultId ⟨event,he,otherScope,hop⟩
        rw [List.map_append,List.mem_append]
        rcases List.mem_append.mp he with he|he
        · exact Or.inl (honly resultId ⟨event,he,otherScope,hop⟩)
        · exact Or.inr (List.mem_singleton.mpr (hevents event he otherScope resultId hop))
      refine Async.sound_bind (Async.sound_attempt (hone.mono fun reached' outcome hreads => ?_))
      cases outcome with
      | ok selected => exact hnext reached' hreads
      | error error => exact hnext reached' hreads
    · dsimp only
      split
      · exact idle_bind (refreshMappingScopeCatalogFingerprint_idle hashFunc scope.id)
          fun _ _ _ => trivial
      · exact trivial
    · refine ⟨List.mem_append_right _ (List.mem_singleton_self _),?_⟩
      rintro resultId ⟨event,he,otherScope,hop⟩
      rcases List.mem_append.mp he with he|he
      · rw [List.mem_singleton.mp he] at hop
        cases hop
      · rw [List.mem_singleton.mp he] at hop
        cases hop

omit [PyUnicode] in
/-- A candidate that is chosen is saved in the copy that was read. -/
theorem selectEntityCandidate_sound (resultId candidateId : ℕ) :
    SelectKeeps (.candidate resultId candidateId) scopeId
      (selectEntityCandidate scopeId resultId candidateId) [] fun _ _ => True := by
  refine Async.sound_call_bind ⟨rfl,fun h => by cases h⟩ (fun _ _ => trivial) fun found _ => ?_
  cases found with
  | none => exact trivial
  | some result =>
    dsimp only
    split
    · exact trivial
    · exact trivial
    split
    · exact trivial
    next candidate _ =>
    refine ofExcept_bind fun updated hupdated => ?_
    unfold MappingEntityResult.selectCandidate at hupdated
    split at hupdated
    · cases hupdated
    · cases hupdated
      exact Async.sound_call_bind ⟨result,rfl,Or.inl ⟨fun h => h.elim,_,_,Or.inl rfl,rfl⟩⟩
        (fun _ _ => trivial) fun _ _ => trivial

omit [PyUnicode] in
/-- An object that is looked up is saved in the copy that was read. -/
theorem selectSdwanEntityDirectly_sound (resultId : ℕ) (sdwanEntityId : ℤ) :
    SelectKeeps (.direct resultId sdwanEntityId) scopeId
      (selectSdwanEntityDirectly scopeId resultId sdwanEntityId) [] fun _ _ => True := by
  refine Async.sound_call_bind ⟨rfl,fun h => by cases h⟩ (fun _ _ => trivial) fun found _ => ?_
  cases found with
  | none => exact trivial
  | some result =>
    refine Async.sound_call_bind trivial (fun _ _ => trivial) fun scope _ => ?_
    cases scope with
    | none => exact trivial
    | some scope =>
      have hfind : (findSdwanEntity result.entityType sdwanEntityId).Only Idle := by
        unfold findSdwanEntity
        cases result.entityType <;>
          exact Async.only_bind (Async.only_call trivial) fun _ => trivial
      refine idle_bind (withGateway_only trivial trivial hfind) fun entity later hread => ?_
      cases entity with
      | none => exact trivial
      | some entityId =>
        refine Async.sound_call_bind ⟨result,hread,Or.inl ⟨fun h => h.elim,_,_,Or.inr rfl,rfl⟩⟩
          (fun _ _ => trivial) fun _ _ => trivial

/-- Every request keeps to its specification from the start. -/
theorem select_sound (hashFunc : String → String) (scopeId : ℕ) (select : SelectRequest) :
    SelectKeeps select scopeId (select.serve hashFunc scopeId) [] fun _ _ => True := by
  have hunit : ∀ {α : Type} {x : Mapping α},SelectKeeps select scopeId x [] (fun _ _ => True) →
      SelectKeeps select scopeId (x>>=fun _ => (pure () : Mapping Unit)) [] fun _ _ => True := by
    intro α x hx
    refine Async.sound_bind (hx.mono fun history outcome _ => ?_)
    cases outcome with
    | ok a => exact trivial
    | error error => exact trivial
  cases select with
  | candidate resultId candidateId =>
    exact hunit (selectEntityCandidate_sound resultId candidateId)
  | direct resultId sdwanEntityId =>
    exact hunit (selectSdwanEntityDirectly_sound resultId sdwanEntityId)
  | create resultId =>
    have hspec : SelectSpec (.create resultId) scopeId [] (.getResult scopeId resultId) :=
      ⟨rfl,fun h => by cases h⟩
    have hcreates : SelectRequest.Creates (.create resultId) := trivial
    exact hunit ((selectEntityWithCreateOnSdwan_sound hashFunc true hcreates hspec).mono
      fun _ _ _ => trivial)
  | auto => exact hunit (autoSelectEntitiesWithCreate_sound hashFunc)

end Requests

end NspMigrator.MappingSelectionSpec
