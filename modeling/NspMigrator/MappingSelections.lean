import Mathlib
import NspMigrator.MappingSelectionSpec
import NspMigrator.MappingZoneAssignment

/-!
# Selections side by side

A selection saves the copy of the result it read, and nothing checks whether
the result changed meanwhile. A selection by hand is kept, and an automatic run
creates objects only where there is none, as long as a result is saved only
while no other request still works from an older view of it.
-/

namespace NspMigrator.MappingSelections

open PyAsync PyDict PyText SdwanModels ExecuteRepository MappingEntities MappingRepository
open MappingUseCases MigrationRequests MappingScopeSpec MappingScopeInvariant
open MappingSelectionSpec

/-- Operations a request does with the copy it has. -/
def KeepsCopy (event : MappingEvent) : Prop :=
  ∀ scopeId resultId,event.op≠.getResult scopeId resultId

/-- A request may still save a result before it reads another. -/
def MaySave (resultId : ℕ) (x : Mapping Unit) : Prop :=
  x.May KeepsCopy fun op => ∃ result,op=.saveResult result ∧ result.id=resultId

/-- Operations that create an object. -/
def CreatesObject (op : MappingOp) : Prop :=
  (∃ payload,op=.createAddrObject payload) ∨ ∃ payload,op=.createService payload

/-- A request may still create an object before it reads another result. -/
def MayCreate (x : Mapping Unit) : Prop := x.May KeepsCopy CreatesObject

/-- An automatic run listed an address or service result without an object, and
its turn has not come. -/
def Awaits (scopeId : ℕ) (history : List MappingEvent) (resultId : ℕ) : Prop :=
  ∃ listed,UnresolvedRead scopeId history listed ∧ ∃ result∈listed,result.id=resultId ∧
    result.entityType≠.zone ∧ ¬ResultRead history resultId

/-- Selections, side by side. -/
abbrev SelectPool (ι : Type) := Pool ScopeWorld ι MappingOp MappingAns PyException Unit

/-- What an operation of a selection leaves of the results: they are as before,
or one of them was saved. -/
def SelectEffect (scopeId : ℕ) (store next : ScopeStore) (event : MappingEvent) : Prop :=
  ∀ entry,next.get? scopeId=some entry → ∃ old,store.get? scopeId=some old ∧
    ∀ resultId current,entry.results.get? resultId=some current →
      old.results.get? resultId=some current ∨ ∃ result saved before,
        event=⟨.saveResult result,.ok saved⟩ ∧ resultId=result.id ∧
        old.results.get? resultId=some before ∧ current=withStoredCandidates before result

section Effects

variable {select : SelectRequest} {scopeId : ℕ} {history : List MappingEvent}
  {world next : ScopeWorld} {event : MappingEvent}

theorem selectEffect_of_eq (h : next.scopes=world.scopes) :
    SelectEffect scopeId world.scopes next.scopes event := by
  intro entry he
  rw [h] at he
  exact ⟨entry,he,fun _ _ hresult => Or.inl hresult⟩

/-- A result that is saved changes no other. -/
theorem selectEffect_of_saveResult {store after : ScopeStore} {result saved : MappingEntityResult}
    (h : saveResult store result=.ok (after,saved)) :
    SelectEffect scopeId store after ⟨.saveResult result,.ok saved⟩ := by
  obtain ⟨old,before,written,hold,hbefore,hupdated,hwritten⟩ := saveResult_updated h
  intro entry he
  rw [hupdated] at he
  split at he
  next hid =>
    cases he
    refine ⟨old,by rw [hid,hold],fun resultId current hcurrent => ?_⟩
    dsimp only at hcurrent
    rw [hwritten] at hcurrent
    split at hcurrent
    · next hresult =>
      cases hcurrent
      exact Or.inr ⟨result,saved,before,rfl,hresult,by rw [hresult,hbefore],rfl⟩
    · exact Or.inl hcurrent
  next => exact ⟨entry,he,fun _ _ hresult => Or.inl hresult⟩

/-- Every operation a selection is allowed leaves the results or saves one. -/
theorem selectEffect_of_handles (hspec : SelectSpec select scopeId history event.op)
    (h : scopeHandles world event.op event.answer next) :
    SelectEffect scopeId world.scopes next.scopes event := by
  obtain ⟨⟨before,after,hbefore,hafter,hmapping⟩,-,-⟩ := h
  obtain ⟨op,answer⟩ := event
  cases op with
  | addScope | addResults | attachRules | addRuleOperand => exact hspec.elim
  | saveResult result =>
    rcases writes_cases hmapping with ⟨saved,houtcome,rfl⟩|⟨-,hsame⟩
    · rw [hbefore,hafter] at houtcome
      exact selectEffect_of_saveResult houtcome
    · exact selectEffect_of_eq (by rw [←hafter,hsame,hbefore])
  | refreshCatalogFingerprint otherId catalogFingerprint =>
    rcases writes_cases hmapping with ⟨scope,houtcome,-⟩|⟨-,hsame⟩
    · rw [hbefore,hafter] at houtcome
      obtain ⟨old,hold,hupdated⟩ := refreshCatalogFingerprint_updated houtcome
      intro entry he
      rw [hupdated] at he
      split at he
      next hid =>
        cases he
        exact ⟨old,by rw [hid,hold],fun _ _ hresult => Or.inl hresult⟩
      next => exact ⟨entry,he,fun _ _ hresult => Or.inl hresult⟩
    · exact selectEffect_of_eq (by rw [←hafter,hsame,hbefore])
  | acquire profileId vpcId =>
    obtain ⟨client,rfl⟩ := hmapping.eq_client
    exact selectEffect_of_eq (by rw [←hafter,←hbefore])
  | createAddrObject | createService =>
    exact selectEffect_of_eq (by rw [←hafter,hmapping.scopes_eq,hbefore])
  | getSdwanFullCatalog =>
    obtain ⟨rfl,-⟩ := hmapping
    exact selectEffect_of_eq (by rw [←hafter,←hbefore])
  | getScopeById | getResult | listResults =>
    obtain ⟨-,rfl⟩ := hmapping
    exact selectEffect_of_eq (by rw [←hafter,←hbefore])
  | _ =>
    cases hmapping
    exact selectEffect_of_eq (by rw [←hafter,←hbefore])

/-- A result is read as it is stored. -/
theorem result_of_handles {resultId : ℕ} {found : Option MappingEntityResult}
    (h : scopeHandles world (.getResult scopeId resultId) (.ok found) next) :
    next.scopes=world.scopes ∧ found=getResult world.scopes scopeId resultId := by
  obtain ⟨⟨before,after,hbefore,hafter,hanswer,rfl⟩,-,-⟩ := h
  refine ⟨by rw [←hafter,←hbefore],?_⟩
  have hread := Except.ok.inj hanswer
  rwa [hbefore] at hread

/-- Results without an object are listed as they are stored. -/
theorem unresolved_of_handles {listed : List MappingEntityResult}
    (h : scopeHandles world (.listResults scopeId none (some .unresolved)) (.ok listed) next) :
    next.scopes=world.scopes ∧ listed=listResults world.scopes scopeId none (some .unresolved) := by
  obtain ⟨⟨before,after,hbefore,hafter,hanswer,rfl⟩,-,-⟩ := h
  refine ⟨by rw [←hafter,←hbefore],?_⟩
  have hread := Except.ok.inj hanswer
  rwa [hbefore] at hread

/-- The results without an object are those stored so. -/
theorem mem_listResults_unresolved {store : ScopeStore} {entry : MappingScopeCacheEntry}
    (hentry : store.get? scopeId=some entry) (hwf : ScopeEntryWf scopeId entry)
    {result : MappingEntityResult}
    (h : result∈listResults store scopeId none (some .unresolved)) :
    entry.results.get? result.id=some result ∧ result.resultStatus=.unresolved := by
  rw [listResults,hentry] at h
  simp only [List.mem_insertionSort,List.mem_filter,Option.all_none,Option.all_some,Bool.true_and,
    decide_eq_true_eq] at h
  obtain ⟨resultId,hr⟩ := Dict.exists_get?_of_mem_values h.1
  refine ⟨?_,h.2⟩
  rwa [(hwf.result_id resultId result hr).1]

/-- Every scope lists results of different identifiers. -/
theorem nodup_listResults {store : ScopeStore} (hwf : ScopesWf store) (scopeId : ℕ) :
    ((listResults store scopeId none (some .unresolved)).map (·.id)).Nodup := by
  unfold listResults
  split
  · exact List.nodup_nil
  next entry hentry =>
  have hperm : List.Perm (((entry.results.values.filter fun result =>
      ((none : Option MappingEntityType).all fun type => decide (result.entityType=type)) &&
        ((some MappingResultStatus.unresolved).all fun status =>
          decide (result.resultStatus=status))).insertionSort
      fun a b => a.entityType.rank≤ b.entityType.rank).map (·.id))
      ((entry.results.values.filter _).map (·.id)) := (List.perm_insertionSort _ _).map _
  rw [hperm.nodup_iff]
  refine List.Nodup.sublist (List.filter_sublist.map _) ?_
  rw [map_values_eq_keys fun resultId result hr =>
    ((hwf scopeId entry hentry).result_id resultId result hr).1]
  exact entry.results.nodup

/-- The repository answers with entities under their own identifiers. -/
theorem selectAnswer_of_handles (hwf : ScopesWf world.scopes)
    (h : scopeHandles world event.op event.answer next) : SelectAnswer event := by
  obtain ⟨op,answer⟩ := event
  unfold SelectAnswer
  split
  next otherId scope heq =>
    cases heq
    obtain ⟨⟨before,after,hbefore,hafter,hanswer,-⟩,-,-⟩ := h
    have hread := (Except.ok.inj hanswer).symm
    rw [hbefore] at hread
    obtain ⟨entry,hentry,rfl⟩ := Option.map_eq_some_iff.mp hread
    exact (hwf otherId entry hentry).scope_id
  next otherId resultId result heq =>
    cases heq
    obtain ⟨entry,hentry,hresult⟩ := Option.bind_eq_some_iff.mp (result_of_handles h).2.symm
    exact ((hwf otherId entry hentry).result_id resultId result hresult).1
  next otherId listed heq =>
    cases heq
    rw [(unresolved_of_handles h).2]
    exact nodup_listResults hwf otherId
  next => exact trivial

end Effects

section Interleaving

variable {ι : Type} [DecidableEq ι]

/-- A result is saved only while no other automatic run awaits its turn or may
still create its object, and by hand only while no other request that creates
may still save an older copy that had no object. -/
def SavesAlone (requests : ι → SelectRequest) (scopeId : ℕ) (pool : SelectPool ι)
    (label : Option (ι × MappingEvent)) : Prop :=
  ∀ i result saved,label=some (i,⟨.saveResult result,.ok saved⟩) → ∀ j,j≠i →
    (pool.tasks j).ended=false →
    (requests j=.auto → ¬Awaits scopeId (Pool.history pool.trace j) result.id) ∧
    ∀ copy,currentRead (Pool.history pool.trace j)=some copy → copy.id=result.id →
      copy.entityType≠.zone →
      (requests j=.auto → ¬MayCreate (pool.tasks j)) ∧
      (¬(requests i).Creates → (requests j).Creates →
        requests j=.auto ∨ copy.resultStatus=.unresolved → ¬MaySave result.id (pool.tasks j))

/-- Results keep their kind, and what a request that creates still works from
has not been selected meanwhile. -/
structure SelectInv (requests : ι → SelectRequest) (scopeId : ℕ) (pool : SelectPool ι) : Prop where
  /-- Every request keeps to its specification. -/
  sound : pool.SoundEach (fun _ => SelectAnswer) (fun i => SelectSpec (requests i) scopeId)
    fun _ _ _ => True
  /-- Scopes, rules and results lie under their numbers. -/
  wf : ScopesWf pool.world.scopes
  /-- A result that is not matched has no selection method. -/
  unmatched : ∀ entry,pool.world.scopes.get? scopeId=some entry → ∀ resultId result,
    entry.results.get? resultId=some result → result.resultStatus≠.matched →
    result.selectionMethod=none
  /-- The stored result is of the kind that was read last. -/
  read : ∀ i copy,currentRead (Pool.history pool.trace i)=some copy →
    ResultRead (Pool.history pool.trace i) copy.id ∧
    ∀ entry,pool.world.scopes.get? scopeId=some entry → ∀ current,
    entry.results.get? copy.id=some current → current.entityType=copy.entityType
  /-- It is of the kind that was listed. -/
  listed : ∀ i listed,UnresolvedRead scopeId (Pool.history pool.trace i) listed →
    ∀ entry,pool.world.scopes.get? scopeId=some entry → ∀ result∈listed,∀ current,
    entry.results.get? result.id=some current → current.entityType=result.entityType
  /-- A result that an automatic request will still come to is unresolved. -/
  awaiting : ∀ i,requests i=.auto → (pool.tasks i).ended=false → ∀ resultId,
    Awaits scopeId (Pool.history pool.trace i) resultId →
    ∀ entry,pool.world.scopes.get? scopeId=some entry → ∀ current,
    entry.results.get? resultId=some current → current.resultStatus=.unresolved
  /-- So is the one it may still create an object for. -/
  creating : ∀ i,requests i=.auto → ∀ copy,
    currentRead (Pool.history pool.trace i)=some copy → copy.entityType≠.zone →
    MayCreate (pool.tasks i) → ∀ entry,pool.world.scopes.get? scopeId=some entry → ∀ current,
    entry.results.get? copy.id=some current → current.resultStatus=.unresolved
  /-- The one that is to be saved was not selected by hand. -/
  saving : ∀ i,(requests i).Creates → ∀ copy,
    currentRead (Pool.history pool.trace i)=some copy → copy.entityType≠.zone →
    requests i=.auto ∨ copy.resultStatus=.unresolved → MaySave copy.id (pool.tasks i) →
    ∀ entry,pool.world.scopes.get? scopeId=some entry → ∀ current,
    entry.results.get? copy.id=some current → ¬ManuallySelected current

variable {requests : ι → SelectRequest} {scopeId : ℕ} {pool next : SelectPool ι} {k : ι}
  {event : MappingEvent}

/-- A coroutine that may come to an operation has not ended. -/
theorem ended_of_may {ok : MappingEvent → Prop} {goal : MappingOp → Prop} {x : Mapping Unit}
    (h : x.May ok goal) : x.ended=false := by
  cases h with
  | now => rfl
  | later => rfl

/-- One operation of one selection: what it did, what it read, and where the
others stand. -/
structure SelectStep (requests : ι → SelectRequest) (scopeId : ℕ) (pool : SelectPool ι) (k : ι)
    (event : MappingEvent) (next : SelectPool ι) : Prop where
  /-- The operation is the last one of its request. -/
  own : Pool.history next.trace k=Pool.history pool.trace k++[event]
  /-- Nothing happens to the other requests. -/
  others : ∀ j,j≠k → Pool.history next.trace j=Pool.history pool.trace j ∧
    next.tasks j=pool.tasks j
  /-- The request was under way. -/
  live : (pool.tasks k).ended=false
  /-- The operation keeps to the specification. -/
  spec : SelectSpec (requests k) scopeId (Pool.history pool.trace k) event.op
  /-- So does its answer. -/
  answer : SelectAnswer event
  /-- What it does to the scopes. -/
  effect : SelectEffect scopeId pool.world.scopes next.world.scopes event
  /-- What can happen after it could happen before it. -/
  may : ∀ goal : MappingOp → Prop,(goal event.op → (pool.tasks k).May KeepsCopy goal) ∧
    (KeepsCopy event → (next.tasks k).May KeepsCopy goal → (pool.tasks k).May KeepsCopy goal)
  /-- A result that is read is the stored one. -/
  result : ∀ resultId found,event=⟨.getResult scopeId resultId,.ok found⟩ →
    next.world.scopes=pool.world.scopes ∧ found=getResult pool.world.scopes scopeId resultId
  /-- Listed are the unresolved results that are stored. -/
  unresolved : ∀ listed,event=⟨.listResults scopeId none (some .unresolved),.ok listed⟩ →
    next.world.scopes=pool.world.scopes ∧
    listed=listResults pool.world.scopes scopeId none (some .unresolved)

/-- An operation of a selection is such a step, and leaves every request with
its specification. -/
theorem SelectInv.selectStep (hinv : SelectInv requests scopeId pool)
    (hstep : Pool.Step scopeHandles Expires pool (some (k,event)) next) :
    SelectStep requests scopeId pool k event next ∧
      next.SoundEach (fun _ => SelectAnswer) (fun i => SelectSpec (requests i) scopeId)
        fun _ _ _ => True := by
  obtain ⟨htrace,hhandles,hlive,-⟩ := hstep.trace_eq
  obtain ⟨hspec,hnext⟩ := hinv.sound.step hstep
  have hanswer := selectAnswer_of_handles hinv.wf hhandles
  have hmay : ∀ goal : MappingOp → Prop,
      (goal event.op → (pool.tasks k).May KeepsCopy goal) ∧
        (KeepsCopy event → (next.tasks k).May KeepsCopy goal →
          (pool.tasks k).May KeepsCopy goal) ∧ ∀ j,j≠k → next.tasks j=pool.tasks j :=
    fun goal => hstep.may
  refine ⟨⟨?_,fun j hj => ⟨?_,?_⟩,hlive,hspec,hanswer,selectEffect_of_handles hspec hhandles,
    fun goal => ?_,fun resultId found he => ?_,fun listed he => ?_⟩,hnext hanswer⟩
  · rw [htrace,Pool.history_append_self]
  · rw [htrace,Pool.history_append_of_ne _ (Ne.symm hj)]
  · exact (hmay fun _ => False).2.2 j hj
  · exact ⟨(hmay goal).1,(hmay goal).2.1⟩
  · subst he
    exact result_of_handles hhandles
  · subst he
    exact unresolved_of_handles hhandles

section Steps

variable (hinv : SelectInv requests scopeId pool)
  (hs : SelectStep requests scopeId pool k event next)

include hs

/-- The copy a request works from after its own operation: the one it had, if it
keeps it, or the result it just read. -/
theorem SelectStep.copy_cases {copy : MappingEntityResult}
    (h : currentRead (Pool.history next.trace k)=some copy) :
    (currentRead (Pool.history pool.trace k)=some copy ∧ KeepsCopy event ∧
      ∀ result,event.op≠.saveResult result) ∨
    ∃ resultId,event=⟨.getResult scopeId resultId,.ok (some copy)⟩ := by
  rw [hs.own,currentRead_snoc] at h
  obtain ⟨op,answer⟩ := event
  cases op with
  | getResult otherId resultId =>
    obtain ⟨rfl,-⟩ := hs.spec
    cases answer with
    | error error => cases h
    | ok found =>
      cases h
      exact Or.inr ⟨resultId,rfl⟩
  | saveResult result =>
    cases answer with
    | error error => cases h
    | ok saved => cases h
  | _ => exact Or.inl ⟨h,fun _ _ he => (by cases he),fun _ he => by cases he⟩

include hinv

/-- A result keeps its kind. -/
theorem SelectStep.type_eq {entry : MappingScopeCacheEntry}
    (hentry : next.world.scopes.get? scopeId=some entry) {resultId : ℕ}
    {current : MappingEntityResult} (hcurrent : entry.results.get? resultId=some current) :
    ∃ old before,pool.world.scopes.get? scopeId=some old ∧
      old.results.get? resultId=some before ∧ current.entityType=before.entityType := by
  obtain ⟨old,hold,hresults⟩ := hs.effect entry hentry
  rcases hresults resultId current hcurrent with hsame|⟨result,saved,before,rfl,rfl,hbefore,rfl⟩
  · exact ⟨old,current,hold,hsame,rfl⟩
  · obtain ⟨copy,hcopy,hselected⟩ := hs.spec
    have hkind : result.id=copy.id ∧ result.entityType=copy.entityType := by
      rcases hselected with ⟨-,_,_,-,rfl⟩|⟨-,-,_,rfl⟩
      · exact ⟨rfl,rfl⟩
      · exact ⟨rfl,rfl⟩
    have htype := (hinv.read k copy hcopy).2 old hold before (hkind.1▸hbefore)
    exact ⟨old,before,hold,hbefore,hkind.2.trans htype.symm⟩

/-- A result that is stored was stored before, or was just selected. -/
theorem SelectStep.stored_cases {entry : MappingScopeCacheEntry}
    (hentry : next.world.scopes.get? scopeId=some entry) {resultId : ℕ}
    {current : MappingEntityResult} (hcurrent : entry.results.get? resultId=some current) :
    (∃ old,pool.world.scopes.get? scopeId=some old ∧ old.results.get? resultId=some current) ∨
    ∃ result saved,event=⟨.saveResult result,.ok saved⟩ ∧ resultId=result.id ∧
      current.resultStatus=.matched ∧ ((requests k).Creates → ¬ManuallySelected current) ∧
      ResultRead (Pool.history pool.trace k) resultId := by
  obtain ⟨old,hold,hresults⟩ := hs.effect entry hentry
  rcases hresults resultId current hcurrent with hsame|⟨result,saved,before,rfl,rfl,hbefore,rfl⟩
  · exact Or.inl ⟨old,hold,hsame⟩
  · obtain ⟨copy,hcopy,hselected⟩ := hs.spec
    have hread := (hinv.read k copy hcopy).1
    refine Or.inr ⟨result,saved,rfl,rfl,?_⟩
    rcases hselected with ⟨hmanual,_,_,-,rfl⟩|⟨-,-,_,rfl⟩
    · exact ⟨rfl,fun hcreates => absurd hcreates hmanual,hread⟩
    · refine ⟨rfl,fun _ hmanual => ?_,hread⟩
      rcases hmanual with h|h
      · cases h
      · cases h

omit hinv in
/-- A listing is in the history of a request already, or was just done. -/
theorem SelectStep.listed_cases {i : ι} {listed : List MappingEntityResult}
    (h : UnresolvedRead scopeId (Pool.history next.trace i) listed) :
    UnresolvedRead scopeId (Pool.history pool.trace i) listed ∨
      i=k ∧ event=⟨.listResults scopeId none (some .unresolved),.ok listed⟩ := by
  by_cases hik : i=k
  · rw [hik,UnresolvedRead,hs.own] at h
    rcases List.mem_append.mp h with h|h
    · rw [hik]
      exact Or.inl h
    · exact Or.inr ⟨hik,(List.mem_singleton.mp h).symm⟩
  · rw [(hs.others i hik).1] at h
    exact Or.inl h

omit hinv in
/-- What was read stays read. -/
theorem SelectStep.resultRead {i : ι} {resultId : ℕ}
    (h : ResultRead (Pool.history pool.trace i) resultId) :
    ResultRead (Pool.history next.trace i) resultId := by
  by_cases hik : i=k
  · rw [hik] at h ⊢
    rw [hs.own]
    obtain ⟨event,he,hop⟩ := h
    exact ⟨event,List.mem_append_left _ he,hop⟩
  · rwa [(hs.others i hik).1]

omit hinv in
/-- A result that was just read is the stored one. -/
theorem SelectStep.read_stored {copy : MappingEntityResult} {resultId : ℕ}
    (he : event=⟨.getResult scopeId resultId,.ok (some copy)⟩) :
    resultId=copy.id ∧ ∀ entry,(next.world.scopes.get? scopeId=some entry ∨
      pool.world.scopes.get? scopeId=some entry) → entry.results.get? copy.id=some copy := by
  obtain ⟨hsame,hfound⟩ := hs.result resultId (some copy) he
  have hid : copy.id=resultId := by
    have hanswer := hs.answer
    rw [he] at hanswer
    exact hanswer
  refine ⟨hid.symm,fun entry hentry => ?_⟩
  rw [hsame,or_self] at hentry
  rw [hid,←Option.bind_some (f:=fun e : MappingScopeCacheEntry => e.results.get? resultId),←hentry]
  exact hfound.symm

/-- A result without an object that was just listed is stored so. -/
theorem SelectStep.listed_stored {listed : List MappingEntityResult}
    (he : event=⟨.listResults scopeId none (some .unresolved),.ok listed⟩)
    {entry : MappingScopeCacheEntry} (hentry : pool.world.scopes.get? scopeId=some entry)
    {result : MappingEntityResult} (hr : result∈listed) :
    entry.results.get? result.id=some result ∧ result.resultStatus=.unresolved := by
  obtain ⟨-,rfl⟩ := hs.unresolved listed he
  exact mem_listResults_unresolved hentry (hinv.wf scopeId entry hentry) hr

theorem SelectStep.unmatched {entry : MappingScopeCacheEntry}
    (hentry : next.world.scopes.get? scopeId=some entry) {resultId : ℕ}
    {current : MappingEntityResult} (hcurrent : entry.results.get? resultId=some current)
    (hstatus : current.resultStatus≠.matched) : current.selectionMethod=none := by
  rcases hs.stored_cases hinv hentry hcurrent with ⟨old,hold,hsame⟩|⟨_,_,-,-,hmatched,-⟩
  · exact hinv.unmatched old hold resultId current hsame hstatus
  · exact absurd hmatched hstatus

theorem SelectStep.read {i : ι} {copy : MappingEntityResult}
    (h : currentRead (Pool.history next.trace i)=some copy) :
    ResultRead (Pool.history next.trace i) copy.id ∧
    ∀ entry,next.world.scopes.get? scopeId=some entry → ∀ current,
      entry.results.get? copy.id=some current → current.entityType=copy.entityType := by
  -- a copy that was there before is of the kind the result still has
  have hbefore : currentRead (Pool.history pool.trace i)=some copy →
      ResultRead (Pool.history next.trace i) copy.id ∧
      ∀ entry,next.world.scopes.get? scopeId=some entry → ∀ current,
        entry.results.get? copy.id=some current → current.entityType=copy.entityType := by
    intro hcopy
    obtain ⟨hread,htype⟩ := hinv.read i copy hcopy
    refine ⟨hs.resultRead hread,fun entry hentry current hcurrent => ?_⟩
    obtain ⟨old,before,hold,hstored,hsame⟩ := hs.type_eq hinv hentry hcurrent
    rw [hsame,htype old hold before hstored]
  by_cases hik : i=k
  · rw [hik] at h hbefore ⊢
    rcases hs.copy_cases h with ⟨hcopy,-⟩|⟨resultId,he⟩
    · exact hbefore hcopy
    · obtain ⟨hid,hstored⟩ := hs.read_stored he
      refine ⟨?_,fun entry hentry current hcurrent => ?_⟩
      · rw [hs.own,he,←hid]
        exact ⟨_,List.mem_append_right _ (List.mem_singleton_self _),scopeId,rfl⟩
      · rw [hstored entry (Or.inl hentry)] at hcurrent
        rw [Option.some.inj hcurrent]
  · rw [(hs.others i hik).1] at h
    exact hbefore h

theorem SelectStep.listed {i : ι} {listed : List MappingEntityResult}
    (h : UnresolvedRead scopeId (Pool.history next.trace i) listed)
    {entry : MappingScopeCacheEntry} (hentry : next.world.scopes.get? scopeId=some entry)
    {result : MappingEntityResult} (hr : result∈listed) {current : MappingEntityResult}
    (hcurrent : entry.results.get? result.id=some current) :
    current.entityType=result.entityType := by
  obtain ⟨old,before,hold,hstored,hsame⟩ := hs.type_eq hinv hentry hcurrent
  rw [hsame]
  rcases hs.listed_cases h with hlisted|⟨-,he⟩
  · exact hinv.listed i listed hlisted old hold result hr before hstored
  · rw [(hs.listed_stored hinv he hold hr).1] at hstored
    rw [Option.some.inj hstored]

/-- A result whose turn has not come still has no object. -/
theorem SelectStep.awaiting (halone : SavesAlone requests scopeId pool (some (k,event))) {i : ι}
    (hauto : requests i=.auto) (hlive : (next.tasks i).ended=false) {resultId : ℕ}
    (h : Awaits scopeId (Pool.history next.trace i) resultId) {entry : MappingScopeCacheEntry}
    (hentry : next.world.scopes.get? scopeId=some entry) {current : MappingEntityResult}
    (hcurrent : entry.results.get? resultId=some current) :
    current.resultStatus=.unresolved := by
  obtain ⟨listed,hlisted,result,hr,hid,htype,hunread⟩ := h
  have hbusy : (pool.tasks i).ended=false := by
    by_cases hik : i=k
    · rw [hik]
      exact hs.live
    · rwa [←(hs.others i hik).2]
  have hearlier : ¬ResultRead (Pool.history pool.trace i) resultId :=
    fun hread => hunread (hs.resultRead hread)
  rcases hs.stored_cases hinv hentry hcurrent with
    ⟨old,hold,hsame⟩|⟨saved,answer,rfl,hsavedId,-,-,hread⟩
  · rcases hs.listed_cases hlisted with hlisted|⟨-,he⟩
    · exact hinv.awaiting i hauto hbusy resultId ⟨listed,hlisted,result,hr,hid,htype,hearlier⟩ old
        hold current hsame
    · obtain ⟨hstored,hstatus⟩ := hs.listed_stored hinv he hold hr
      rw [hid,hsame] at hstored
      rwa [Option.some.inj hstored]
  · by_cases hik : i=k
    · rw [hik] at hearlier
      exact absurd hread hearlier
    · rcases hs.listed_cases hlisted with hlisted|⟨hk,-⟩
      · refine absurd ?_ ((halone k saved answer rfl i hik hbusy).1 hauto)
        exact ⟨listed,hlisted,result,hr,hid.trans hsavedId,htype,hsavedId▸hearlier⟩
      · exact absurd hk hik

/-- A result that was just read by an automatic run awaited its turn. -/
theorem SelectStep.unresolved_of_read (hauto : requests k=.auto) {copy : MappingEntityResult}
    {resultId : ℕ} (he : event=⟨.getResult scopeId resultId,.ok (some copy)⟩)
    (htype : copy.entityType≠.zone) {old : MappingScopeCacheEntry}
    (hold : pool.world.scopes.get? scopeId=some old) : copy.resultStatus=.unresolved := by
  obtain ⟨hid,hstored⟩ := hs.read_stored he
  have hcopy := hstored old (Or.inr hold)
  have hspec := hs.spec
  rw [he] at hspec
  obtain ⟨⟨listed,hlisted,result,hr,hresult⟩,hunread⟩ := hspec.2 hauto
  have hkind := hinv.listed k listed hlisted old hold result hr copy
    (by rw [hresult,hid,hcopy])
  exact hinv.awaiting k hauto hs.live copy.id ⟨listed,hlisted,result,hr,hresult.trans hid,
    by rwa [←hkind],hid▸hunread⟩ old hold copy hcopy

/-- What an automatic run is about to create an object for still has none. -/
theorem SelectStep.creating (halone : SavesAlone requests scopeId pool (some (k,event))) {i : ι}
    (hauto : requests i=.auto) {copy : MappingEntityResult}
    (h : currentRead (Pool.history next.trace i)=some copy) (htype : copy.entityType≠.zone)
    (hmay : MayCreate (next.tasks i)) {entry : MappingScopeCacheEntry}
    (hentry : next.world.scopes.get? scopeId=some entry) {current : MappingEntityResult}
    (hcurrent : entry.results.get? copy.id=some current) : current.resultStatus=.unresolved := by
  by_cases hik : i=k
  · rw [hik] at h hmay hauto
    rcases hs.stored_cases hinv hentry hcurrent with ⟨old,hold,hsame⟩|⟨saved,answer,rfl,-⟩
    · rcases hs.copy_cases h with ⟨hcopy,hkeeps,-⟩|⟨resultId,he⟩
      · exact hinv.creating k hauto copy hcopy htype
          ((hs.may _).2 hkeeps hmay) old hold current hsame
      · rw [(hs.read_stored he).2 old (Or.inr hold)] at hsame
        rw [←Option.some.inj hsame]
        exact hs.unresolved_of_read hinv hauto he htype hold
    · rcases hs.copy_cases h with ⟨-,-,hsaves⟩|⟨resultId,he⟩
      · exact absurd rfl (hsaves saved)
      · cases he
  · rw [(hs.others i hik).1] at h
    rw [(hs.others i hik).2] at hmay
    rcases hs.stored_cases hinv hentry hcurrent with ⟨old,hold,hsame⟩|⟨saved,answer,rfl,hid,-⟩
    · exact hinv.creating i hauto copy h htype hmay old hold current hsame
    · have hother := (halone k saved answer rfl i hik (ended_of_may hmay)).2 copy h hid htype
      exact absurd hmay (hother.1 hauto)

/-- What a request is about to save a created object for was not selected by hand. -/
theorem SelectStep.saving (halone : SavesAlone requests scopeId pool (some (k,event))) {i : ι}
    (hcreates : (requests i).Creates) {copy : MappingEntityResult}
    (h : currentRead (Pool.history next.trace i)=some copy) (htype : copy.entityType≠.zone)
    (hstart : requests i=.auto ∨ copy.resultStatus=.unresolved)
    (hmay : MaySave copy.id (next.tasks i)) {entry : MappingScopeCacheEntry}
    (hentry : next.world.scopes.get? scopeId=some entry) {current : MappingEntityResult}
    (hcurrent : entry.results.get? copy.id=some current) : ¬ManuallySelected current := by
  by_cases hik : i=k
  · rw [hik] at h hmay hcreates hstart
    rcases hs.stored_cases hinv hentry hcurrent with ⟨old,hold,hsame⟩|⟨saved,answer,rfl,-⟩
    · rcases hs.copy_cases h with ⟨hcopy,hkeeps,-⟩|⟨resultId,he⟩
      · exact hinv.saving k hcreates copy hcopy htype hstart ((hs.may _).2 hkeeps hmay) old hold
          current hsame
      · -- the copy is the stored result, which has no object
        have hstatus : copy.resultStatus=.unresolved :=
          hstart.elim (fun hauto => hs.unresolved_of_read hinv hauto he htype hold) fun h => h
        have hstored := (hs.read_stored he).2 old (Or.inr hold)
        have hnone := hinv.unmatched old hold copy.id copy hstored
          (by rw [hstatus]; exact fun h => by cases h)
        rw [hstored] at hsame
        rw [←Option.some.inj hsame,ManuallySelected,hnone]
        exact fun hmanual => by rcases hmanual with h|h <;> cases h
    · rcases hs.copy_cases h with ⟨-,-,hsaves⟩|⟨resultId,he⟩
      · exact absurd rfl (hsaves saved)
      · cases he
  · rw [(hs.others i hik).1] at h
    rw [(hs.others i hik).2] at hmay
    rcases hs.stored_cases hinv hentry hcurrent with
      ⟨old,hold,hsame⟩|⟨saved,answer,rfl,hid,-,hcreated,-⟩
    · exact hinv.saving i hcreates copy h htype hstart hmay old hold current hsame
    · by_cases hby : (requests k).Creates
      · exact hcreated hby
      · have hother := (halone k saved answer rfl i hik (ended_of_may hmay)).2 copy h hid htype
        exact absurd (hid▸hmay) (hother.2 hby hcreates hstart)

end Steps

/-- Scopes that expire take nothing with them. -/
theorem SelectInv.expires (hinv : SelectInv requests scopeId pool)
    (htrace : next.trace=pool.trace) (htasks : next.tasks=pool.tasks)
    (hsound : next.SoundEach (fun _ => SelectAnswer) (fun i => SelectSpec (requests i) scopeId)
      fun _ _ _ => True)
    (h : Expires pool.world next.world) : SelectInv requests scopeId next := by
  have hback := h.2 scopeId
  constructor
  case sound => exact hsound
  case wf => exact fun otherId entry he => hinv.wf otherId entry (h.2 otherId entry he)
  case unmatched => exact fun entry he => hinv.unmatched entry (hback entry he)
  case read =>
    rw [htrace]
    exact fun i copy hcopy => ⟨(hinv.read i copy hcopy).1,fun entry he =>
      (hinv.read i copy hcopy).2 entry (hback entry he)⟩
  case listed =>
    rw [htrace]
    exact fun i listed hlisted entry he => hinv.listed i listed hlisted entry (hback entry he)
  case awaiting =>
    rw [htrace,htasks]
    exact fun i hauto hlive resultId hawaits entry he =>
      hinv.awaiting i hauto hlive resultId hawaits entry (hback entry he)
  case creating =>
    rw [htrace,htasks]
    exact fun i hauto copy hcopy htype hmay entry he =>
      hinv.creating i hauto copy hcopy htype hmay entry (hback entry he)
  case saving =>
    rw [htrace,htasks]
    exact fun i hcreates copy hcopy htype hstart hmay entry he =>
      hinv.saving i hcreates copy hcopy htype hstart hmay entry (hback entry he)

/-- One operation of one request, where it saves alone, or an expiry keeps all of it. -/
theorem SelectInv.step (hinv : SelectInv requests scopeId pool)
    {label : Option (ι × MappingEvent)} (halone : SavesAlone requests scopeId pool label)
    (hstep : Pool.Step scopeHandles Expires pool label next) : SelectInv requests scopeId next := by
  cases label with
  | none =>
    have hsound := hinv.sound.world hstep
    cases hstep with
    | world hothers => exact hinv.expires rfl rfl hsound hothers
  | some entry =>
    obtain ⟨k,event⟩ := entry
    obtain ⟨hs,hsound⟩ := hinv.selectStep hstep
    constructor
    case sound => exact hsound
    case wf => exact scopesWf_of_scopeHandles hinv.wf hstep.trace_eq.2.1
    case unmatched =>
      exact fun entry he resultId result hresult hstatus => hs.unmatched hinv he hresult hstatus
    case read => exact fun i copy hcopy => hs.read hinv hcopy
    case listed =>
      exact fun i listed hlisted entry he result hr current hcurrent =>
        hs.listed hinv hlisted he hr hcurrent
    case awaiting =>
      exact fun i hauto hlive resultId hawaits entry he current hcurrent =>
        hs.awaiting hinv halone hauto hlive hawaits he hcurrent
    case creating =>
      exact fun i hauto copy hcopy htype hmay entry he current hcurrent =>
        hs.creating hinv halone hauto hcopy htype hmay he hcurrent
    case saving =>
      exact fun i hcreates copy hcopy htype hstart hmay entry he current hcurrent =>
        hs.saving hinv halone hcreates hcopy htype hstart hmay he hcurrent

/-- Before any step nothing was read. -/
theorem selectInv_start [PyUnicode] (hashFunc : String → String) {world : ScopeWorld}
    (hwf : ScopesWf world.scopes)
    (hok : ∀ entry,world.scopes.get? scopeId=some entry → ScopeOk entry) :
    SelectInv requests scopeId ⟨world,fun i => (requests i).serve hashFunc scopeId,[]⟩ := by
  constructor
  case sound => exact fun i => select_sound hashFunc scopeId (requests i)
  case wf => exact hwf
  case unmatched =>
    intro entry he resultId result hresult hstatus
    have hmethod := ((hok entry he).results resultId result hresult).method
    cases hnone : result.selectionMethod with
    | none => rfl
    | some method => exact absurd (hmethod.mpr (by rw [hnone]; rfl)) hstatus
  case read => exact fun i copy h => by cases h
  case listed => exact fun i listed h => absurd h List.not_mem_nil
  case awaiting =>
    rintro i - - resultId ⟨listed,hlisted,-⟩
    exact absurd hlisted List.not_mem_nil
  case creating => exact fun i _ copy h => by cases h
  case saving => exact fun i _ copy h => by cases h

/-- What selections guarantee of the states they reach. -/
structure SelectionsKept (requests : ι → SelectRequest) (scopeId : ℕ) (pool : SelectPool ι) :
    Prop where
  /-- A creation that started without an object saves over no selection by hand. -/
  manual_kept : ∀ i event next,Pool.Step scopeHandles Expires pool (some (i,event)) next →
    ∀ result,event.op=.saveResult result → (requests i).Creates →
    ∃ copy,currentRead (Pool.history pool.trace i)=some copy ∧ copy.id=result.id ∧
      (requests i=.auto ∨ copy.resultStatus=.unresolved →
        ∀ entry,pool.world.scopes.get? scopeId=some entry → ∀ current,
        entry.results.get? result.id=some current → ¬ManuallySelected current)
  /-- An automatic run creates objects only for results without one. -/
  created_unresolved : ∀ i event next,
    Pool.Step scopeHandles Expires pool (some (i,event)) next → requests i=.auto →
    CreatesObject event.op → ∃ copy,currentRead (Pool.history pool.trace i)=some copy ∧
      ∀ entry,pool.world.scopes.get? scopeId=some entry → ∀ current,
      entry.results.get? copy.id=some current → current.resultStatus=.unresolved

/-- Any number of selections, with their operations in any order, keep what was
selected by hand and create objects only where there is none, as long as
results are saved only while no other request works from an older view of them. -/
theorem selectionsKept_of_savesAlone [PyUnicode] (hashFunc : String → String) {world : ScopeWorld}
    (hwf : ScopesWf world.scopes)
    (hok : ∀ entry,world.scopes.get? scopeId=some entry → ScopeOk entry)
    (hrun : Pool.Run scopeHandles Expires (SavesAlone requests scopeId)
      ⟨world,fun i => (requests i).serve hashFunc scopeId,[]⟩ pool) :
    SelectionsKept requests scopeId pool := by
  have hinv : SelectInv requests scopeId pool := hrun.inv (selectInv_start hashFunc hwf hok)
    fun _ _ _ hinv halone hstep => hinv.step halone hstep
  constructor
  case manual_kept =>
    intro i event next hstep result hop hcreates
    obtain ⟨hs,-⟩ := hinv.selectStep hstep
    have hspec := hs.spec
    rw [hop] at hspec
    obtain ⟨copy,hcopy,hselected⟩ := hspec
    obtain ⟨-,htype,sdwanEntityId,rfl⟩ := hselected.resolve_left fun h => h.1 hcreates
    refine ⟨copy,hcopy,rfl,fun hstart entry hentry current hcurrent => ?_⟩
    have hmay : MaySave copy.id (pool.tasks i) := (hs.may _).1 ⟨_,hop,rfl⟩
    exact hinv.saving i hcreates copy hcopy htype hstart hmay entry hentry current hcurrent
  case created_unresolved =>
    intro i event next hstep hauto hcreates
    obtain ⟨hs,-⟩ := hinv.selectStep hstep
    have hmay : MayCreate (pool.tasks i) := (hs.may _).1 hcreates
    have hread : ∃ copy,currentRead (Pool.history pool.trace i)=some copy ∧
        copy.entityType≠.zone := by
      have hspec := hs.spec
      rcases hcreates with ⟨payload,hop⟩|⟨payload,hop⟩
      · rw [hop] at hspec
        exact hspec.2
      · rw [hop] at hspec
        exact hspec.2
    obtain ⟨copy,hcopy,htype⟩ := hread
    exact ⟨copy,hcopy,fun entry hentry current hcurrent =>
      hinv.creating i hauto copy hcopy htype hmay entry hentry current hcurrent⟩

end Interleaving

section Twins

open MappingReaderIds CanonicalReader

/-- The sample controller without the host of the rule. -/
def hostlessCatalog : SdwanFullCatalog :=
  { PlanStaleness.branchCatalog with
    addrObjs := [PlanStaleness.hostObject 6 "h2" (.ofNat 167772162)] }

/-- The sample controller, where objects of the snapshot can be read one by one
and a host can be made. -/
def buildingScopes (world : ScopeWorld) :
    (op : MappingOp) → Except PyException (MappingAns op) × ScopeWorld
  | .getCanonicalAddrObject snapshotId objectId =>
    (some <$> getCanonicalAddrObject twinStore snapshotId objectId,world)
  | .createAddrObject payload =>
    (.ok (PlanStaleness.hostObject 9 (payload.host.getD "") (.ofNat 167772161)),world)
  | op => siteScopes twinStore hostlessCatalog world op

/-- The controller answers as the operations may. -/
theorem scopeHandles_buildingScopes (world : ScopeWorld) (op : MappingOp) :
    scopeHandles world op (buildingScopes world op).1 (buildingScopes world op).2 := by
  have hsite := scopeHandles_siteScopes twinStore hostlessCatalog world op
  let before : MigrationWorld := ⟨world.scopes,.empty,fun _ _ => hostlessCatalog,none⟩
  cases op with
  | getCanonicalAddrObject => exact ⟨⟨before,before,rfl,rfl,rfl⟩,rfl,trivial⟩
  | createAddrObject => exact ⟨⟨before,before,rfl,rfl,_,rfl⟩,rfl,trivial⟩
  | _ => exact hsite

/-- The rule is mapped, and the controller does not know its host. -/
@[irreducible] def twinUnresolved : ScopePool Unit :=
  (List.replicate 13 ()).foldl (Pool.advance buildingScopes) twinPool

/-- The scope is whole. -/
theorem scopesInv_twinUnresolved : ScopesInv twinUnresolved := by
  have hrun : Pool.Run scopeHandles Expires (fun _ _ => True) twinPool twinUnresolved := by
    unfold twinUnresolved
    exact Pool.run_schedule scopeHandles_buildingScopes (fun _ _ => trivial) _ _
  exact hrun.inv (@scopesInv_start Unit _ asciiUnicode PlanStaleness.firstBytes twinRequests ∅)
    fun _ _ _ h _ hstep => h.step hstep

/-- Two selections on the scope of the sample, before their first step. -/
def twinStart (requests : Bool → SelectRequest) : SelectPool Bool :=
  ⟨twinUnresolved.world,fun i => @SelectRequest.serve asciiUnicode PlanStaleness.firstBytes 100
    (requests i),[]⟩

/-- One result is selected by hand, the others automatically. -/
def oneByHand : Bool → SelectRequest
  | false => .direct 203 6
  | true => .auto

/-- The selection by hand runs to its end. -/
@[irreducible] def twinByHand : SelectPool Bool :=
  (List.replicate 6 false).foldl (Pool.advance buildingScopes) (twinStart oneByHand)

/-- After it the automatic run does. -/
@[irreducible] def twinSelected : SelectPool Bool :=
  (List.replicate 13 true).foldl (Pool.advance buildingScopes) twinByHand

/-- A request saves alone while the others have not begun, or have ended. -/
theorem savesAlone_of_idle {ι : Type} [DecidableEq ι] {requests : ι → SelectRequest}
    {scopeId : ℕ} {pool : SelectPool ι} {i : ι} (hidle : ∀ j,j≠i → Pool.Idle pool j)
    (event : MappingEvent) : SavesAlone requests scopeId pool (some (i,event)) := by
  intro k result saved hlabel j hne hlive
  obtain ⟨rfl,rfl⟩ := Prod.mk.inj (Option.some.inj hlabel)
  rcases hidle j hne with hnone|hended
  · -- it has read nothing it could save over
    rw [hnone]
    exact ⟨fun _ ⟨_,hlisted,_⟩ => absurd hlisted List.not_mem_nil,fun copy hcopy => by cases hcopy⟩
  · rw [hended] at hlive
    cases hlive

/-- A selection by hand that ended before the automatic run begins saves alone. -/
theorem twinSelected_run :
    Pool.Run scopeHandles Expires (SavesAlone oneByHand 100) (twinStart oneByHand)
      twinSelected := by
  have hbyHand : Pool.Run scopeHandles Expires (SavesAlone oneByHand 100) (twinStart oneByHand)
      twinByHand := by
    unfold twinByHand
    exact Pool.run_alone scopeHandles_buildingScopes (fun _ => savesAlone_of_idle) .start
      (fun _ _ => Or.inl rfl) 6
  have hended : (twinByHand.tasks false).ended=true := by decide +kernel
  unfold twinSelected
  refine Pool.run_alone scopeHandles_buildingScopes (fun _ => savesAlone_of_idle) hbyHand
    (fun j hj => Or.inr ?_) 13
  rw [Bool.eq_false_of_not_eq_true hj]
  exact hended

/-- Both selections are kept, and every result has its object. -/
theorem selectionsKept_twin : SelectionsKept oneByHand 100 twinSelected ∧
    (twinSelected.world.scopes.get? 100).map (fun entry =>
      entry.results.values.map (·.selectedSdwanEntityId))=some [some 3,some 9,some 6,some 8] := by
  refine ⟨@selectionsKept_of_savesAlone Bool inferInstance oneByHand 100 twinSelected asciiUnicode
    PlanStaleness.firstBytes _ scopesInv_twinUnresolved.wf
    (fun entry he => (scopesInv_twinUnresolved.ok 100 entry he).1) twinSelected_run,?_⟩
  decide +kernel

/-- An object is created for a result, and another one selected for it by hand. -/
def sameResult : Bool → SelectRequest
  | false => .create 202
  | true => .direct 202 6

/-- The host is created, then the selection by hand runs to its end, and the
creation is about to save. -/
@[irreducible] def twinCreated : SelectPool Bool :=
  (List.replicate 6 false++List.replicate 6 true).foldl (Pool.advance buildingScopes)
    (twinStart sameResult)

/-- The result a request is about to save. -/
def pendingResult (pool : SelectPool Bool) (i : Bool) : Option MappingEntityResult :=
  match pool.tasks i with
  | .await (.saveResult result) _ => some result
  | _ => none

/-- The creation started without an object, and what it is about to save over
was selected by hand. -/
theorem pendingResult_twinCreated :
    ∃ result copy entry current,pendingResult twinCreated false=some result ∧
      currentRead (Pool.history twinCreated.trace false)=some copy ∧
      copy.resultStatus=.unresolved ∧ twinCreated.world.scopes.get? 100=some entry ∧
      entry.results.get? result.id=some current ∧ ManuallySelected current := by
  have hchecked : ((pendingResult twinCreated false).any fun result =>
      (currentRead (Pool.history twinCreated.trace false)).any fun copy =>
        decide (copy.resultStatus=.unresolved) &&
          (twinCreated.world.scopes.get? 100).any fun entry =>
            (entry.results.get? result.id).any fun current =>
              decide (ManuallySelected current))=true := by
    decide +kernel
  obtain ⟨result,hresult,hcopies⟩ := (Option.any_eq_true _ _).mp hchecked
  obtain ⟨copy,hcopy,hentries⟩ := (Option.any_eq_true _ _).mp hcopies
  rw [Bool.and_eq_true,decide_eq_true_eq] at hentries
  obtain ⟨entry,hentry,hcurrents⟩ := (Option.any_eq_true _ _).mp hentries.2
  obtain ⟨current,hcurrent,hmanual⟩ := (Option.any_eq_true _ _).mp hcurrents
  exact ⟨result,copy,entry,current,hresult,hcopy,hentries.1,hentry,hcurrent,
    of_decide_eq_true hmanual⟩

/-- A creation that waits for its object while the result is selected by hand
saves over the selection. -/
theorem manualOverwritten_twin :
    Pool.Run scopeHandles Expires (fun _ _ => True) (twinStart sameResult) twinCreated ∧
      ¬SelectionsKept sameResult 100 twinCreated := by
  refine ⟨?_,fun h => ?_⟩
  · unfold twinCreated
    exact Pool.run_schedule scopeHandles_buildingScopes (fun _ _ => trivial) _ _
  · obtain ⟨result,copy,entry,current,hpending,hcopy,hstatus,hentry,hcurrent,hmanual⟩ :=
      pendingResult_twinCreated
    unfold pendingResult at hpending
    split at hpending
    next other resume htask =>
      cases hpending
      have hstep : Pool.Step scopeHandles Expires twinCreated _ _ := .task htask
        (scopeHandles_buildingScopes twinCreated.world (.saveResult result))
      obtain ⟨read,hread,-,hkept⟩ := h.manual_kept _ _ _ hstep result rfl trivial
      rw [hcopy] at hread
      cases hread
      exact hkept (Or.inr hstatus) entry hentry current hcurrent hmanual
    next => cases hpending

end Twins

end NspMigrator.MappingSelections
