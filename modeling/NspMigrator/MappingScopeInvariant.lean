import Mathlib
import NspMigrator.MappingScopeSpec
import NspMigrator.PlanStaleness

/-!
# Scopes stay consistent

Requests on scopes interleave operation by operation, and scopes may expire at
any time. In every scope that is stored, results keep their status and their
selection together, no entity has two results, candidates lie in their own
result, and operands point at results of the scope.
-/

namespace NspMigrator.MappingScopeInvariant

open PyAsync PyDict PyText SdwanModels ExecuteRepository MappingEntities MappingRepository
open MappingSchemas MappingObjects MappingUseCases MigrationRequests MappingScopeSpec

/-- The results, candidates and operands of a scope fit together. -/
structure ScopeOk (entry : MappingScopeCacheEntry) : Prop where
  /-- Every result is consistent in itself. -/
  results : ∀ resultId result,entry.results.get? resultId=some result → ResultOk result
  /-- An entity has at most one result. -/
  unique : ∀ resultId result otherId other,entry.results.get? resultId=some result →
    entry.results.get? otherId=some other → result.entityType=other.entityType →
    ∀ entity,result.canonicalEntityId=.ok entity → other.canonicalEntityId=.ok entity →
      resultId=otherId
  /-- Every operand points at a result. -/
  operands : ∀ ruleId rule,entry.rules.get? ruleId=some rule →
    ∀ operand∈rule.operands.getD [],
      ∃ result,entry.results.get? operand.mappingEntityResultId=some result

/-- No result of the scope was built for a canonical entity. -/
def Unmapped (entry : MappingScopeCacheEntry) : Prop :=
  ∀ resultId result,entry.results.get? resultId=some result →
    ∀ entity,result.canonicalEntityId≠.ok entity

/-- Two results for one entity. -/
def SameEntity (result other : MappingEntityResult) : Prop :=
  other.entityType=result.entityType ∧ other.canonicalEntityId=result.canonicalEntityId

/-- A scope keeps its results, each for its entity. -/
def Grows (old entry : MappingScopeCacheEntry) : Prop :=
  ∀ resultId result,old.results.get? resultId=some result →
    ∃ stored,entry.results.get? resultId=some stored ∧ SameEntity result stored

section Entries

variable {entry : MappingScopeCacheEntry}

theorem grows_of_results {old : MappingScopeCacheEntry} (h : entry.results=old.results) :
    Grows old entry := by
  intro resultId result hr
  exact ⟨result,by rw [h,hr],rfl,rfl⟩

/-- A scope starts without results. -/
theorem scopeOk_new (scope : MappingScope) :
    ScopeOk ⟨scope,.empty,.empty⟩ ∧ Unmapped ⟨scope,.empty,.empty⟩ := by
  have hresults : ∀ resultId (result : MappingEntityResult),
      (Dict.empty : Dict ℕ MappingEntityResult).get? resultId≠some result :=
    fun resultId result h => by cases h
  refine ⟨⟨fun resultId result h => absurd h (hresults resultId result),
    fun resultId result _ _ h => absurd h (hresults resultId result),
    fun ruleId rule h => by cases h⟩,fun resultId result h => absurd h (hresults resultId result)⟩

/-- Rules may be written when their new operands point at results of the scope. -/
theorem ScopeOk.rules (h : ScopeOk entry) {scope : MappingScope}
    {written : Dict ℕ MappingScopeRule} {New : MappingScopeRuleOperand → Prop}
    (hwritten : RulesWritten entry.rules written New)
    (hnew : ∀ operand,New operand →
      ∃ result,entry.results.get? operand.mappingEntityResultId=some result) :
    ScopeOk ⟨scope,written,entry.results⟩ := by
  refine ⟨h.results,h.unique,fun ruleId rule hr operand ho => ?_⟩
  rcases hwritten ruleId rule hr operand ho with hown|⟨oldId,old,hold,hin⟩
  · exact hnew operand hown
  · exact h.operands oldId old hold operand hin

/-- A result is replaced by one for the same entity. -/
theorem ScopeOk.save (h : ScopeOk entry) {scope : MappingScope} {resultId : ℕ}
    {current saved : MappingEntityResult} {written : Dict ℕ MappingEntityResult}
    (hcurrent : entry.results.get? resultId=some current) (hsaved : ResultOk saved)
    (hsame : SameEntity current saved)
    (hwritten : ∀ otherId,written.get? otherId=
      if otherId=resultId then some saved else entry.results.get? otherId) :
    ScopeOk ⟨scope,entry.rules,written⟩ ∧ Grows entry ⟨scope,entry.rules,written⟩ ∧
      (Unmapped entry → Unmapped ⟨scope,entry.rules,written⟩) := by
  -- every result stands for the entity of the one that was stored before
  have hback : ∀ otherId other,written.get? otherId=some other →
      ∃ old,entry.results.get? otherId=some old ∧ SameEntity old other := by
    intro otherId other ho
    rw [hwritten] at ho
    split at ho
    · next hid =>
      cases ho
      exact ⟨current,hid▸hcurrent,hsame⟩
    · exact ⟨other,ho,rfl,rfl⟩
  have hgrows : Grows entry ⟨scope,entry.rules,written⟩ := by
    intro otherId other ho
    by_cases hid : otherId=resultId
    · subst hid
      rw [hcurrent] at ho
      cases ho
      exact ⟨saved,by rw [hwritten,if_pos rfl],hsame⟩
    · exact ⟨other,by rw [hwritten,if_neg hid,ho],rfl,rfl⟩
  refine ⟨⟨fun otherId other ho => ?_,?_,fun ruleId rule hr operand ho => ?_⟩,hgrows,?_⟩
  · rw [hwritten] at ho
    split at ho
    · cases ho
      exact hsaved
    · exact h.results otherId other ho
  · intro firstId first secondId second hfirst hsecond htype entity hf hs
    obtain ⟨oldFirst,hof,hsf⟩ := hback firstId first hfirst
    obtain ⟨oldSecond,hos,hss⟩ := hback secondId second hsecond
    exact h.unique firstId oldFirst secondId oldSecond hof hos
      (by rw [←hsf.1,←hss.1,htype]) entity (by rw [←hsf.2,hf]) (by rw [←hss.2,hs])
  · obtain ⟨result,hresult⟩ := h.operands ruleId rule hr operand ho
    obtain ⟨stored,hstored,-⟩ := hgrows _ result hresult
    exact ⟨stored,hstored⟩
  · intro hunmapped otherId other ho entity he
    obtain ⟨old,hold,hsame⟩ := hback otherId other ho
    exact hunmapped otherId old hold entity (hsame.2▸he)

/-- Results may be added beside those of the scope when no entity gets a second one. -/
theorem ScopeOk.add (h : ScopeOk entry) {scope : MappingScope} {results : List MappingEntityResult}
    {added : Dict ℕ MappingEntityResult} (hbuilt : BuiltResults results)
    (hfresh : Unmapped entry ∨ ∀ result∈results,∀ entity,result.canonicalEntityId≠.ok entity)
    (hadded : ∀ resultId result,added.get? resultId=some result ↔
      (result∈results ∧ result.id=resultId) ∨ entry.results.get? resultId=some result) :
    ScopeOk ⟨scope,entry.rules,added⟩ ∧ Grows entry ⟨scope,entry.rules,added⟩ := by
  have hgrows : Grows entry ⟨scope,entry.rules,added⟩ := by
    intro resultId result hr
    exact ⟨result,(hadded resultId result).mpr (Or.inr hr),rfl,rfl⟩
  -- a new result and an old one are never for one entity
  have hapart : ∀ result∈results,∀ otherId other,entry.results.get? otherId=some other →
      ∀ entity,result.canonicalEntityId=.ok entity → other.canonicalEntityId≠.ok entity := by
    intro result hr otherId other ho entity he hother
    rcases hfresh with hunmapped|hmanual
    · exact hunmapped otherId other ho entity hother
    · exact hmanual result hr entity he
  refine ⟨⟨fun resultId result hr => ?_,?_,fun ruleId rule hr operand ho => ?_⟩,hgrows⟩
  · rcases (hadded resultId result).mp hr with ⟨hin,-⟩|hold
    · exact hbuilt.ok result hin
    · exact h.results resultId result hold
  · intro firstId first secondId second hfirst hsecond htype entity hf hs
    rcases (hadded firstId first).mp hfirst with ⟨hin,rfl⟩|hold
    · rcases (hadded secondId second).mp hsecond with ⟨hin',rfl⟩|hold'
      · have hpair : (first.entityType,entityOf first)=(second.entityType,entityOf second) := by
          rw [htype,entityOf,entityOf,hf,hs]
        rw [List.inj_on_of_nodup_map hbuilt.entities hin hin' hpair]
      · exact absurd hs (hapart first hin secondId second hold' entity hf)
    · rcases (hadded secondId second).mp hsecond with ⟨hin',-⟩|hold'
      · exact absurd hf (hapart second hin' firstId first hold entity hs)
      · exact h.unique firstId first secondId second hold hold' htype entity hf hs
  · obtain ⟨result,hresult⟩ := h.operands ruleId rule hr operand ho
    exact ⟨result,(hadded _ result).mpr (Or.inr hresult)⟩

end Entries

/-- Choosing an object keeps the entity, and status and selection together. -/
theorem resultOk_select {current old : MappingEntityResult} (hold : ResultOk old)
    (hcurrent : ResultOk current) (hid : current.id=old.id) (hsame : SameEntity old current)
    (method : SdwanObjectSelectionMethod) (sdwanEntityId : ℤ) :
    ResultOk (withStoredCandidates current (old.select method sdwanEntityId)) ∧
      SameEntity current (withStoredCandidates current (old.select method sdwanEntityId)) := by
  refine ⟨⟨iff_of_true rfl rfl,iff_of_true rfl rfl,fun candidate hc => ?_⟩,hsame.1.symm,?_⟩
  · change candidate∈((if old.candidates=none then current.candidates
      else old.candidates).getD []) at hc
    split at hc
    · rw [hcurrent.candidates candidate hc,hid]
      rfl
    · exact hold.candidates candidate hc
  · rw [hsame.2]
    rfl

/-- The cached scopes, and the identifiers drawn so far. -/
structure ScopeWorld where
  /-- The scopes by number. -/
  scopes : ScopeStore
  /-- The numbers that were given out. -/
  drawn : Finset ℕ

/-- No identifier is drawn twice. -/
def Draws (world : ScopeWorld) (event : MappingEvent) (next : ScopeWorld) : Prop :=
  match event with
  | ⟨.newIds,.ok id⟩ => id∉world.drawn ∧ next.drawn=insert id world.drawn
  | _ => next.drawn=world.drawn

/-- Canonical entities are read from snapshots. -/
def ReadsEntities (event : MappingEvent) : Prop :=
  match event with
  | ⟨.getCanonicalScopeEntitiesData snapshotId ruleIds,.ok entities⟩ => ∃ snapshots,
    CanonicalReader.getCanonicalScopeEntitiesData snapshots snapshotId ruleIds=.ok entities
  | _ => True

/-- What the operations do to the scopes, whatever the catalogs and the clients are. -/
def scopeHandles (world : ScopeWorld) (op : MappingOp) (answer : Except PyException (MappingAns op))
    (next : ScopeWorld) : Prop :=
  (∃ before after : MigrationWorld,before.scopes=world.scopes ∧ after.scopes=next.scopes ∧
    mappingHandles before op answer after) ∧
  Draws world ⟨op,answer⟩ next ∧ ReadsEntities ⟨op,answer⟩

/-- Scopes expire. -/
def Expires (world next : ScopeWorld) : Prop :=
  next.drawn=world.drawn ∧ ∀ scopeId entry,next.scopes.get? scopeId=some entry →
    world.scopes.get? scopeId=some entry

/-- Requests on scopes, side by side. -/
abbrev ScopePool (ι : Type) := Pool ScopeWorld ι MappingOp MappingAns PyException Unit

section Interleaving

variable {ι : Type} [DecidableEq ι]

/-- Identifiers belong to the request that drew them, scopes to the request
that stored them, and whatever was seen of a scope is still there. -/
structure ScopesInv (pool : ScopePool ι) : Prop where
  /-- Every request keeps to its specification. -/
  sound : pool.SoundAll (fun _ => AnswerOk) ScopeSpec (fun _ _ => True)
  /-- Scopes, rules and results lie under their numbers. -/
  wf : ScopesWf pool.world.scopes
  /-- What a request has drawn is recorded. -/
  drawn : ∀ i id,Drew (Pool.history pool.trace i) id → id∈pool.world.drawn
  /-- A number is drawn by one request only. -/
  drawn_once : ∀ i j id,Drew (Pool.history pool.trace i) id →
    Drew (Pool.history pool.trace j) id → i=j
  /-- A scope is stored under a number its request drew. -/
  drew : ∀ i scopeId,Stored (Pool.history pool.trace i) scopeId →
    Drew (Pool.history pool.trace i) scopeId
  /-- Every stored scope is consistent, and some request stored it. -/
  ok : ∀ scopeId entry,pool.world.scopes.get? scopeId=some entry →
    ScopeOk entry ∧ ∃ i,Stored (Pool.history pool.trace i) scopeId
  /-- A scope has no results before the request that stored it adds them. -/
  unmapped : ∀ i scopeId entry,Stored (Pool.history pool.trace i) scopeId →
    (Pool.history pool.trace i).any addsResults=false →
    pool.world.scopes.get? scopeId=some entry → Unmapped entry
  /-- A result that was seen is consistent, and stored unless its scope is gone. -/
  seen : ∀ i scopeId result,Seen (Pool.history pool.trace i) scopeId result →
    ResultOk result ∧ result.mappingScopeId=scopeId ∧
    (∃ j,Stored (Pool.history pool.trace j) scopeId) ∧
    ∀ entry,pool.world.scopes.get? scopeId=some entry →
      ∃ stored,entry.results.get? result.id=some stored ∧ SameEntity result stored

variable {pool next : ScopePool ι} {k : ι} {event : MappingEvent}

/-- What one operation makes of the scopes: they stay consistent and grow, a
scope that is new is empty, only the request that stored a scope maps its
entities, and what the operation shows is there. -/
structure Moves (pool : ScopePool ι) (k : ι) (event : MappingEvent) (next : ScopePool ι) :
    Prop where
  /-- The operation is recorded. -/
  trace : next.trace=pool.trace++[(k,event)]
  /-- A scope has grown, or is new and empty. -/
  grown : ∀ scopeId entry,next.world.scopes.get? scopeId=some entry → ScopeOk entry ∧
    ((∃ old,pool.world.scopes.get? scopeId=some old ∧ Grows old entry ∧
      (Unmapped old → Unmapped entry ∨
        addsResults event=true ∧ Stored (Pool.history pool.trace k) scopeId)) ∨
    (∃ scope,event=⟨.addScope scope,.ok ()⟩ ∧ scope.id=scopeId ∧ Unmapped entry))
  /-- A result that is shown is consistent and stored. -/
  shown : ∀ scopeId result,Shows event scopeId result →
    ResultOk result ∧ result.mappingScopeId=scopeId ∧
    (∃ old,pool.world.scopes.get? scopeId=some old) ∧
    ∀ entry,next.world.scopes.get? scopeId=some entry →
      ∃ stored,entry.results.get? result.id=some stored ∧ SameEntity result stored

/-- What a request did before the step, or the step itself. -/
theorem Moves.mem_iff (h : Moves pool k event next) (i : ι) (other : MappingEvent) :
    other∈Pool.history next.trace i ↔ other∈Pool.history pool.trace i ∨ i=k ∧ other=event := by
  rw [h.trace]
  exact Pool.mem_history_append

/-- A request that stored a scope still has. -/
theorem Moves.stored (h : Moves pool k event next) {i : ι} {scopeId : ℕ}
    (hi : Stored (Pool.history pool.trace i) scopeId) :
    Stored (Pool.history next.trace i) scopeId := by
  obtain ⟨scope,hin,hid⟩ := hi
  exact ⟨scope,(h.mem_iff i _).mpr (Or.inl hin),hid⟩

/-- A request that has stored a scope had done so before, or does it in this step. -/
theorem Moves.stored_cases (h : Moves pool k event next) {i : ι} {scopeId : ℕ}
    (hi : Stored (Pool.history next.trace i) scopeId) :
    Stored (Pool.history pool.trace i) scopeId ∨
      i=k ∧ ∃ scope,event=⟨.addScope scope,.ok ()⟩ ∧ scope.id=scopeId := by
  obtain ⟨scope,hin,hid⟩ := hi
  rcases (h.mem_iff i _).mp hin with hin|⟨hk,he⟩
  · exact Or.inl ⟨scope,hin,hid⟩
  · exact Or.inr ⟨hk,scope,he.symm,hid⟩

/-- A scope is stored by the request that drew its identifier, which stores no other. -/
theorem ScopesInv.drew_of_addScope (hinv : ScopesInv pool)
    (hspec : ScopeSpec (Pool.history pool.trace k) event.op) {scope : MappingScope}
    (he : event=⟨.addScope scope,.ok ()⟩) : Drew (Pool.history pool.trace k) scope.id ∧
      ∀ j,¬Stored (Pool.history pool.trace j) scope.id := by
  subst he
  refine ⟨hspec.1,fun j hj => ?_⟩
  have hjk := hinv.drawn_once j k scope.id (hinv.drew j scope.id hj) hspec.1
  rw [hjk] at hj
  obtain ⟨other,hin,-⟩ := hj
  exact List.any_eq_false.mp hspec.2 _ hin rfl

/-- Identifiers stay drawn. -/
theorem mem_drawn_of_draws {world after : ScopeWorld} (h : Draws world event after) {id : ℕ}
    (hid : id∈world.drawn) : id∈after.drawn := by
  unfold Draws at h
  split at h
  · rw [h.2]
    exact Finset.mem_insert_of_mem hid
  · rwa [h]

/-- An identifier that is drawn is a new one. -/
theorem fresh_of_draws {world after : ScopeWorld} (h : Draws world event after) {id : ℕ}
    (he : event=⟨.newIds,.ok id⟩) : id∉world.drawn ∧ id∈after.drawn := by
  subst he
  obtain ⟨hfresh,hdrawn⟩ := h
  rw [hdrawn]
  exact ⟨hfresh,Finset.mem_insert_self id _⟩

/-- No identifier is drawn by two requests. -/
theorem ScopesInv.moves_drawn_once (hinv : ScopesInv pool) (hmoves : Moves pool k event next)
    (hdraws : Draws pool.world event next.world) {i j : ι} {id : ℕ}
    (hi : Drew (Pool.history next.trace i) id) (hj : Drew (Pool.history next.trace j) id) :
    i=j := by
  rcases (hmoves.mem_iff i _).mp hi with hi|⟨hik,hei⟩
  · rcases (hmoves.mem_iff j _).mp hj with hj|⟨-,hej⟩
    · exact hinv.drawn_once i j id hi hj
    · exact absurd (hinv.drawn i id hi) (fresh_of_draws hdraws hej.symm).1
  · rcases (hmoves.mem_iff j _).mp hj with hj|⟨hjk,-⟩
    · exact absurd (hinv.drawn j id hj) (fresh_of_draws hdraws hei.symm).1
    · rw [hik,hjk]

/-- Only the request that stored a scope maps its entities. -/
theorem ScopesInv.moves_unmapped (hinv : ScopesInv pool) (hmoves : Moves pool k event next)
    (hspec : ScopeSpec (Pool.history pool.trace k) event.op) {i : ι} {scopeId : ℕ}
    {entry : MappingScopeCacheEntry} (hi : Stored (Pool.history next.trace i) scopeId)
    (hnone : (Pool.history next.trace i).any addsResults=false)
    (he : next.world.scopes.get? scopeId=some entry) : Unmapped entry := by
  have hsplit : (Pool.history pool.trace i).any addsResults=false ∧
      ¬(i=k ∧ addsResults event=true) := by
    rw [hmoves.trace,Pool.any_history_append,Bool.or_eq_false_iff] at hnone
    refine ⟨hnone.1,fun h => ?_⟩
    simp [h.1,h.2] at hnone
  obtain ⟨-,hcases⟩ := hmoves.grown scopeId entry he
  rcases hcases with ⟨old,hold,-,hkeep⟩|⟨scope,-,-,hempty⟩
  · rcases hmoves.stored_cases hi with hi|⟨-,scope,hevent,hid⟩
    · rcases hkeep (hinv.unmapped i scopeId old hi hsplit.1 hold) with hdone|⟨hadds,hk⟩
      · exact hdone
      · have hik := hinv.drawn_once i k scopeId (hinv.drew i scopeId hi) (hinv.drew k scopeId hk)
        exact absurd ⟨hik,hadds⟩ hsplit.2
    · obtain ⟨j,hj⟩ := (hinv.ok scopeId old hold).2
      exact absurd (hid▸hj) ((hinv.drew_of_addScope hspec hevent).2 j)
  · exact hempty

/-- What was seen of a scope is still there, and what the step shows is. -/
theorem ScopesInv.moves_seen (hinv : ScopesInv pool) (hmoves : Moves pool k event next)
    (hspec : ScopeSpec (Pool.history pool.trace k) event.op) {i : ι} {scopeId : ℕ}
    {result : MappingEntityResult} (hi : Seen (Pool.history next.trace i) scopeId result) :
    ResultOk result ∧ result.mappingScopeId=scopeId ∧
      (∃ j,Stored (Pool.history next.trace j) scopeId) ∧
      ∀ entry,next.world.scopes.get? scopeId=some entry →
        ∃ stored,entry.results.get? result.id=some stored ∧ SameEntity result stored := by
  obtain ⟨other,hin,hshows⟩ := hi
  rcases (hmoves.mem_iff i _).mp hin with hin|⟨-,he⟩
  · obtain ⟨hok,hscope,⟨j,hj⟩,hthere⟩ := hinv.seen i scopeId result ⟨other,hin,hshows⟩
    refine ⟨hok,hscope,⟨j,hmoves.stored hj⟩,fun entry he => ?_⟩
    rcases (hmoves.grown scopeId entry he).2 with ⟨old,hold,hgrows,-⟩|⟨scope,hevent,hid,-⟩
    · obtain ⟨before,hbefore,hsame⟩ := hthere old hold
      obtain ⟨stored,hstored,hsame'⟩ := hgrows _ before hbefore
      exact ⟨stored,hstored,hsame'.1.trans hsame.1,hsame'.2.trans hsame.2⟩
    · exact absurd (hid▸hj) ((hinv.drew_of_addScope hspec hevent).2 j)
  · rw [he] at hshows
    obtain ⟨hok,hscope,⟨old,hold⟩,hthere⟩ := hmoves.shown scopeId result hshows
    obtain ⟨j,hj⟩ := (hinv.ok scopeId old hold).2
    exact ⟨hok,hscope,⟨j,hmoves.stored hj⟩,hthere⟩

/-- A step that grows the scopes keeps all of it. -/
theorem ScopesInv.moves (hinv : ScopesInv pool) (hmoves : Moves pool k event next)
    (hsound : next.SoundAll (fun _ => AnswerOk) ScopeSpec (fun _ _ => True))
    (hwf : ScopesWf next.world.scopes)
    (hspec : ScopeSpec (Pool.history pool.trace k) event.op)
    (hdraws : Draws pool.world event next.world) : ScopesInv next := by
  constructor
  case sound => exact hsound
  case wf => exact hwf
  case drawn =>
    intro i id hid
    rcases (hmoves.mem_iff i _).mp hid with hid|⟨-,he⟩
    · exact mem_drawn_of_draws hdraws (hinv.drawn i id hid)
    · exact (fresh_of_draws hdraws he.symm).2
  case drawn_once => exact fun i j id hi hj => hinv.moves_drawn_once hmoves hdraws hi hj
  case drew =>
    intro i scopeId hi
    refine (hmoves.mem_iff i _).mpr (Or.inl ?_)
    rcases hmoves.stored_cases hi with hi|⟨hik,scope,he,hid⟩
    · exact hinv.drew i scopeId hi
    · rw [hik,←hid]
      exact (hinv.drew_of_addScope hspec he).1
  case ok =>
    intro scopeId entry he
    obtain ⟨hok,hcases⟩ := hmoves.grown scopeId entry he
    refine ⟨hok,?_⟩
    rcases hcases with ⟨old,hold,-⟩|⟨scope,hevent,hid,-⟩
    · obtain ⟨i,hi⟩ := (hinv.ok scopeId old hold).2
      exact ⟨i,hmoves.stored hi⟩
    · exact ⟨k,scope,(hmoves.mem_iff k _).mpr (Or.inr ⟨rfl,hevent.symm⟩),hid⟩
  case unmapped =>
    exact fun i scopeId entry hi hnone he => hinv.moves_unmapped hmoves hspec hi hnone he
  case seen => exact fun i scopeId result hi => hinv.moves_seen hmoves hspec hi

/-- A result of a stored scope is shown as it is. -/
theorem ScopesInv.shown (hinv : ScopesInv pool) {scopeId resultId : ℕ}
    {entry : MappingScopeCacheEntry} {result : MappingEntityResult}
    (hentry : pool.world.scopes.get? scopeId=some entry)
    (hresult : entry.results.get? resultId=some result)
    (hsame : next.world.scopes=pool.world.scopes) :
    ResultOk result ∧ result.mappingScopeId=scopeId ∧
    (∃ old,pool.world.scopes.get? scopeId=some old) ∧
    ∀ other,next.world.scopes.get? scopeId=some other →
      ∃ stored,other.results.get? result.id=some stored ∧ SameEntity result stored := by
  have hwf := (hinv.wf scopeId entry hentry).result_id resultId result hresult
  refine ⟨(hinv.ok scopeId entry hentry).1.results resultId result hresult,hwf.2,
    ⟨entry,hentry⟩,fun other ho => ?_⟩
  rw [hsame,hentry] at ho
  cases ho
  exact ⟨result,by rw [hwf.1,hresult],rfl,rfl⟩

/-- Nothing is written. -/
theorem ScopesInv.moves_same (hinv : ScopesInv pool) (htrace : next.trace=pool.trace++[(k,event)])
    (hsame : next.world.scopes=pool.world.scopes)
    (hshown : ∀ scopeId result,Shows event scopeId result → ∃ entry resultId,
      pool.world.scopes.get? scopeId=some entry ∧ entry.results.get? resultId=some result) :
    Moves pool k event next := by
  refine ⟨htrace,fun scopeId entry he => ?_,fun scopeId result h => ?_⟩
  · rw [hsame] at he
    exact ⟨(hinv.ok scopeId entry he).1,Or.inl ⟨entry,he,grows_of_results rfl,Or.inl⟩⟩
  · obtain ⟨entry,resultId,hentry,hresult⟩ := hshown scopeId result h
    exact hinv.shown hentry hresult hsame

/-- One scope is written. -/
theorem ScopesInv.moves_updated (hinv : ScopesInv pool)
    (htrace : next.trace=pool.trace++[(k,event)]) {scopeId : ℕ}
    {old entry : MappingScopeCacheEntry} (hold : pool.world.scopes.get? scopeId=some old)
    (hupdated : Updated pool.world.scopes next.world.scopes scopeId entry)
    (hok : ScopeOk entry) (hgrows : Grows old entry)
    (hunmapped : Unmapped old → Unmapped entry ∨
      addsResults event=true ∧ Stored (Pool.history pool.trace k) scopeId)
    (hshown : ∀ otherId result,Shows event otherId result → otherId=scopeId ∧ ResultOk result ∧
      result.mappingScopeId=scopeId ∧
      ∃ stored,entry.results.get? result.id=some stored ∧ SameEntity result stored) :
    Moves pool k event next := by
  refine ⟨htrace,fun otherId other ho => ?_,fun otherId result h => ?_⟩
  · rw [hupdated] at ho
    split at ho
    · next hid =>
      cases ho
      subst hid
      exact ⟨hok,Or.inl ⟨old,hold,hgrows,hunmapped⟩⟩
    · exact ⟨(hinv.ok otherId other ho).1,Or.inl ⟨other,ho,grows_of_results rfl,Or.inl⟩⟩
  · obtain ⟨rfl,hresult,hscope,hthere⟩ := hshown otherId result h
    refine ⟨hresult,hscope,⟨old,hold⟩,fun other ho => ?_⟩
    rw [hupdated,if_pos rfl] at ho
    cases ho
    exact hthere

/-- Every write has its value, or raises and leaves the scopes. -/
theorem writes_cases {α : Type} {before after : MigrationWorld}
    {outcome : Except PyException (ScopeStore × α)} {answer : Except PyException α}
    (h : Writes before outcome answer after) :
    (∃ value,outcome=.ok (after.scopes,value) ∧ answer=.ok value) ∨
      (∃ error,answer=.error error) ∧ after.scopes=before.scopes := by
  cases outcome with
  | error error =>
    obtain ⟨hanswer,rfl⟩ := h
    exact Or.inr ⟨⟨error,hanswer⟩,rfl⟩
  | ok pair =>
    obtain ⟨hanswer,rfl⟩ := h
    exact Or.inl ⟨pair.2,rfl,hanswer⟩

/-- A result that is read is stored. -/
theorem stored_of_getResult {store : ScopeStore} {scopeId resultId : ℕ}
    {result : MappingEntityResult} (h : getResult store scopeId resultId=some result) :
    ∃ entry id,store.get? scopeId=some entry ∧ entry.results.get? id=some result := by
  obtain ⟨entry,hentry,hresult⟩ := Option.bind_eq_some_iff.mp h
  exact ⟨entry,resultId,hentry,hresult⟩

/-- Results that are listed are stored. -/
theorem stored_of_listResults {store : ScopeStore} {scopeId : ℕ}
    {type : Option MappingEntityType} {status : Option MappingResultStatus}
    {result : MappingEntityResult} (h : result∈listResults store scopeId type status) :
    ∃ entry id,store.get? scopeId=some entry ∧ entry.results.get? id=some result := by
  unfold listResults at h
  split at h
  · cases h
  next entry hentry =>
  rw [List.mem_insertionSort] at h
  obtain ⟨id,hid⟩ := Dict.exists_get?_of_mem_values (List.mem_filter.mp h).1
  exact ⟨entry,id,hentry,hid⟩

/-- A zone result made by hand stands for no canonical entity. -/
theorem builtResults_manual (id scopeId : ℕ) (sdwanZoneId : ℤ) :
    BuiltResults [MappingEntityResult.createZoneManuallyAssigned id scopeId sdwanZoneId] ∧
      ∀ entity,(MappingEntityResult.createZoneManuallyAssigned id scopeId
        sdwanZoneId).canonicalEntityId≠.ok entity := by
  refine ⟨⟨fun result hr => ?_,List.nodup_singleton _,List.nodup_singleton _⟩,
    fun entity h => by cases h⟩
  rw [List.mem_singleton.mp hr]
  exact ⟨iff_of_true rfl rfl,iff_of_true rfl rfl,fun _ h => absurd h List.not_mem_nil⟩

/-- Results are added by the request that stored the scope, or by hand. -/
theorem ScopesInv.moves_addResults (hinv : ScopesInv pool) {scopeId : ℕ}
    {results : List MappingEntityResult} {answer : Except PyException Unit}
    (htrace : next.trace=pool.trace++[(k,⟨.addResults scopeId results,answer⟩)])
    (hspec : ScopeSpec (Pool.history pool.trace k) (.addResults scopeId results))
    (h : addResults pool.world.scopes scopeId results=.ok next.world.scopes) :
    Moves pool k ⟨.addResults scopeId results,answer⟩ next := by
  have hbuilt : BuiltResults results := by
    rcases hspec with ⟨id,sdwanZoneId,rfl⟩|⟨-,-,hbuilt⟩
    · exact (builtResults_manual id scopeId sdwanZoneId).1
    · exact hbuilt
  obtain ⟨entry,added,hentry,hupdated,hresults,hadded⟩ := addResults_updated hbuilt.ids h
  have hmapped : (∀ result∈results,∀ entity,result.canonicalEntityId≠.ok entity) ∨
      Unmapped entry ∧ Stored (Pool.history pool.trace k) scopeId := by
    rcases hspec with ⟨id,sdwanZoneId,rfl⟩|⟨hstored,hnone,-⟩
    · refine Or.inl fun result hr => ?_
      rw [List.mem_singleton.mp hr]
      exact (builtResults_manual id scopeId sdwanZoneId).2
    · exact Or.inr ⟨hinv.unmapped k scopeId entry hstored hnone hentry,hstored⟩
  obtain ⟨hok,hgrows⟩ : ScopeOk ⟨entry.scope,entry.rules,added⟩ ∧
      Grows entry ⟨entry.scope,entry.rules,added⟩ :=
    (hinv.ok scopeId entry hentry).1.add hbuilt (hmapped.symm.imp And.left id) hadded
  refine hinv.moves_updated htrace hentry hupdated hok hgrows ?_ fun otherId result hshows => ?_
  · intro hunmapped
    refine hmapped.imp (fun hmanual resultId result hr => ?_) fun hown => ⟨rfl,hown.2⟩
    rcases (hadded resultId result).mp hr with ⟨hin,-⟩|hold
    · exact hmanual result hin
    · exact hunmapped resultId result hold
  · cases answer with
    | error error => exact hshows.elim
    | ok u =>
      obtain ⟨rfl,hin⟩ := hshows
      exact ⟨rfl,hbuilt.ok result hin,(hresults result hin).1,result,
        (hadded _ result).mpr (Or.inl ⟨hin,rfl⟩),rfl,rfl⟩

/-- A result is saved as a selection of the stored one. -/
theorem ScopesInv.moves_saveResult (hinv : ScopesInv pool) {result saved : MappingEntityResult}
    {answer : Except PyException MappingEntityResult}
    (htrace : next.trace=pool.trace++[(k,⟨.saveResult result,answer⟩)])
    (hspec : ScopeSpec (Pool.history pool.trace k) (.saveResult result))
    (h : saveResult pool.world.scopes result=.ok (next.world.scopes,saved)) :
    Moves pool k ⟨.saveResult result,answer⟩ next := by
  obtain ⟨scopeId,old,method,sdwanEntityId,hseen,rfl⟩ := hspec
  obtain ⟨hold,rfl,-,hthere⟩ := hinv.seen k scopeId old hseen
  obtain ⟨entry,current,written,hentry,hcurrent,hupdated,hwritten⟩ := saveResult_updated h
  obtain ⟨stored,hstored,hsame⟩ := hthere entry hentry
  have heq : stored=current := Option.some.inj (hstored.symm.trans hcurrent)
  rw [heq] at hsame
  have hok := (hinv.ok _ entry hentry).1
  have hid := ((hinv.wf _ entry hentry).result_id _ current hcurrent).1
  obtain ⟨hselected,hentity⟩ := resultOk_select hold (hok.results _ current hcurrent) hid hsame
    method sdwanEntityId
  obtain ⟨hnext,hgrows,hunmapped⟩ : ScopeOk ⟨entry.scope,entry.rules,written⟩ ∧
      Grows entry ⟨entry.scope,entry.rules,written⟩ ∧
      (Unmapped entry → Unmapped ⟨entry.scope,entry.rules,written⟩) :=
    hok.save hcurrent hselected hentity hwritten
  exact hinv.moves_updated htrace hentry hupdated hnext hgrows
    (fun hnone => Or.inl (hunmapped hnone)) fun _ _ hshows => hshows.elim

/-- Every operation that is asked for grows the scopes. -/
theorem ScopesInv.moves_of_handles (hinv : ScopesInv pool)
    (htrace : next.trace=pool.trace++[(k,event)])
    (hspec : ScopeSpec (Pool.history pool.trace k) event.op)
    (h : scopeHandles pool.world event.op event.answer next.world) : Moves pool k event next := by
  obtain ⟨⟨before,after,hbefore,hafter,hmapping⟩,-,-⟩ := h
  obtain ⟨op,answer⟩ := event
  cases op with
  | addScope scope =>
    rcases writes_cases hmapping with ⟨value,houtcome,hanswer⟩|⟨-,hsame⟩
    · have hadd := eq_ok_of_map houtcome
      rw [hbefore,hafter] at hadd
      obtain ⟨hnone,hupdated⟩ := addScope_updated hadd
      obtain ⟨hok,hempty⟩ := scopeOk_new scope
      refine ⟨htrace,fun scopeId entry he => ?_,fun _ _ h => h.elim⟩
      rw [hupdated] at he
      split at he
      · next hid =>
        cases he
        cases hanswer
        exact ⟨hok,Or.inr ⟨scope,rfl,hid.symm,hempty⟩⟩
      · exact ⟨(hinv.ok scopeId entry he).1,
          Or.inl ⟨entry,he,grows_of_results rfl,Or.inl⟩⟩
    · exact hinv.moves_same htrace (by rw [←hafter,hsame,hbefore]) fun _ _ h => h.elim
  | addResults scopeId results =>
    rcases writes_cases hmapping with ⟨value,houtcome,-⟩|⟨⟨error,hanswer⟩,hsame⟩
    · have hadd := eq_ok_of_map houtcome
      rw [hbefore,hafter] at hadd
      exact hinv.moves_addResults htrace hspec hadd
    · refine hinv.moves_same htrace (by rw [←hafter,hsame,hbefore]) fun _ _ hshows => ?_
      cases hanswer
      exact hshows.elim
  | attachRules scopeId rules =>
    rcases writes_cases hmapping with ⟨value,houtcome,hanswer⟩|⟨-,hsame⟩
    · have hattach := eq_ok_of_map houtcome
      rw [hbefore,hafter] at hattach
      obtain ⟨entry,written,hentry,hupdated,hwritten⟩ := attachRules_updated hattach
      refine hinv.moves_updated htrace hentry hupdated
        ((hinv.ok scopeId entry hentry).1.rules hwritten ?_) (grows_of_results rfl) Or.inl
        fun _ _ h => h.elim
      rintro operand ⟨rule,hrule,hoperand⟩
      obtain ⟨result,hseen,hid⟩ := hspec rule hrule operand hoperand
      obtain ⟨stored,hstored,-⟩ := (hinv.seen k scopeId result hseen).2.2.2 entry hentry
      exact ⟨stored,by rw [←hid,hstored]⟩
    · exact hinv.moves_same htrace (by rw [←hafter,hsame,hbefore]) fun _ _ h => h.elim
  | addRuleOperand scopeId operand =>
    rcases writes_cases hmapping with ⟨value,houtcome,hanswer⟩|⟨-,hsame⟩
    · have hadd := eq_ok_of_map houtcome
      rw [hbefore,hafter] at hadd
      obtain ⟨entry,written,hentry,hupdated,hwritten⟩ := addRuleOperand_updated hadd
      refine hinv.moves_updated htrace hentry hupdated
        ((hinv.ok scopeId entry hentry).1.rules hwritten ?_) (grows_of_results rfl) Or.inl
        fun _ _ h => h.elim
      rintro other rfl
      obtain ⟨result,hseen,hid⟩ := hspec
      obtain ⟨stored,hstored,-⟩ := (hinv.seen k scopeId result hseen).2.2.2 entry hentry
      exact ⟨stored,by rw [←hid,hstored]⟩
    · exact hinv.moves_same htrace (by rw [←hafter,hsame,hbefore]) fun _ _ h => h.elim
  | refreshCatalogFingerprint scopeId catalogFingerprint =>
    rcases writes_cases hmapping with ⟨value,houtcome,hanswer⟩|⟨-,hsame⟩
    · rw [hbefore,hafter] at houtcome
      obtain ⟨entry,hentry,hupdated⟩ := refreshCatalogFingerprint_updated houtcome
      have hok := (hinv.ok scopeId entry hentry).1
      exact hinv.moves_updated htrace hentry hupdated ⟨hok.results,hok.unique,hok.operands⟩
        (grows_of_results rfl) Or.inl fun _ _ h => h.elim
    · exact hinv.moves_same htrace (by rw [←hafter,hsame,hbefore]) fun _ _ h => h.elim
  | saveResult result =>
    rcases writes_cases hmapping with ⟨value,houtcome,-⟩|⟨-,hsame⟩
    · rw [hbefore,hafter] at houtcome
      exact hinv.moves_saveResult htrace hspec houtcome
    · exact hinv.moves_same htrace (by rw [←hafter,hsame,hbefore]) fun _ _ h => h.elim
  | getResult scopeId resultId =>
    obtain ⟨hanswer,hworld⟩ := hmapping
    refine hinv.moves_same htrace (by rw [←hafter,hworld,hbefore]) fun otherId result hshows => ?_
    cases hanswer
    obtain ⟨rfl,hresult⟩ := hshows
    rw [hbefore] at hresult
    exact stored_of_getResult hresult
  | listResults scopeId type status =>
    obtain ⟨hanswer,hworld⟩ := hmapping
    refine hinv.moves_same htrace (by rw [←hafter,hworld,hbefore]) fun otherId result hshows => ?_
    cases hanswer
    obtain ⟨rfl,hresult⟩ := hshows
    rw [hbefore] at hresult
    exact stored_of_listResults hresult
  | acquire profileId vpcId =>
    obtain ⟨client,rfl⟩ := hmapping.eq_client
    exact hinv.moves_same htrace (by rw [←hafter,←hbefore]) fun _ _ h => h.elim
  | createAddrObject | createService =>
    exact hinv.moves_same htrace (by rw [←hafter,hmapping.scopes_eq,hbefore]) fun _ _ h => h.elim
  | getSdwanFullCatalog =>
    obtain ⟨rfl,-⟩ := hmapping
    exact hinv.moves_same htrace (by rw [←hafter,←hbefore]) fun _ _ h => h.elim
  | getScopeById =>
    obtain ⟨-,rfl⟩ := hmapping
    exact hinv.moves_same htrace (by rw [←hafter,←hbefore]) fun _ _ h => h.elim
  | _ =>
    cases hmapping
    exact hinv.moves_same htrace (by rw [←hafter,←hbefore]) fun _ _ h => h.elim

/-- Every operation leaves scopes, rules and results under their identifiers. -/
theorem scopesWf_of_scopeHandles {world next : ScopeWorld} {op : MappingOp}
    {answer : Except PyException (MappingAns op)} (hwf : ScopesWf world.scopes)
    (h : scopeHandles world op answer next) : ScopesWf next.scopes := by
  obtain ⟨⟨before,after,hbefore,hafter,hmapping⟩,-,-⟩ := h
  have hold : ScopesWf before.scopes := by
    rw [hbefore]
    exact hwf
  rw [←hafter]
  rcases (mappingHandles_cases hold hmapping).2 with hsame|⟨-,hwrite⟩
  · rw [hsame]
    exact hold
  · exact hwrite.wf hold

/-- Entities that are read from a snapshot are distinct. -/
theorem answerOk_of_readsEntities (h : ReadsEntities event) : AnswerOk event := by
  unfold AnswerOk
  split
  · obtain ⟨snapshots,hread⟩ := h
    exact entitiesDistinct_of_read hread
  · trivial

/-- Scopes that expire take nothing with them. -/
theorem ScopesInv.expires (hinv : ScopesInv pool) (htrace : next.trace=pool.trace)
    (hsound : next.SoundAll (fun _ => AnswerOk) ScopeSpec (fun _ _ => True))
    (h : Expires pool.world next.world) : ScopesInv next := by
  obtain ⟨hdrawn,hscopes⟩ := h
  constructor
  case sound => exact hsound
  case wf => exact fun scopeId entry he => hinv.wf scopeId entry (hscopes scopeId entry he)
  case drawn =>
    rw [htrace,hdrawn]
    exact hinv.drawn
  case drawn_once =>
    rw [htrace]
    exact hinv.drawn_once
  case drew =>
    rw [htrace]
    exact hinv.drew
  case ok =>
    rw [htrace]
    exact fun scopeId entry he => hinv.ok scopeId entry (hscopes scopeId entry he)
  case unmapped =>
    rw [htrace]
    exact fun i scopeId entry hi hnone he =>
      hinv.unmapped i scopeId entry hi hnone (hscopes scopeId entry he)
  case seen =>
    rw [htrace]
    intro i scopeId result hi
    obtain ⟨hok,hscope,hstored,hthere⟩ := hinv.seen i scopeId result hi
    exact ⟨hok,hscope,hstored,fun entry he => hthere entry (hscopes scopeId entry he)⟩

/-- One operation of one request, or an expiry, keeps the scopes consistent. -/
theorem ScopesInv.step (hinv : ScopesInv pool) {label : Option (ι × MappingEvent)}
    (hstep : Pool.Step scopeHandles Expires pool label next) : ScopesInv next := by
  cases label with
  | none =>
    have hsound := hinv.sound.world hstep
    cases hstep with
    | world hothers => exact hinv.expires rfl hsound hothers
  | some entry =>
    obtain ⟨k,event⟩ := entry
    obtain ⟨htrace,hhandles,-,-⟩ := hstep.trace_eq
    obtain ⟨hspec,hnext⟩ := hinv.sound.step hstep
    have hmoves := hinv.moves_of_handles htrace hspec hhandles
    have hwf := scopesWf_of_scopeHandles hinv.wf hhandles
    obtain ⟨-,hdraws,hreads⟩ := hhandles
    exact hinv.moves hmoves (hnext (answerOk_of_readsEntities hreads)) hwf hspec hdraws

/-- Requests that have done nothing yet, with an empty cache. -/
theorem scopesInv_start [PyUnicode] (hashFunc : String → String) (requests : ι → MappingRequest)
    (drawn : Finset ℕ) :
    ScopesInv ⟨⟨.empty,drawn⟩,fun i => (requests i).serve hashFunc mappingServices,[]⟩ := by
  constructor
  case sound => exact Pool.soundAll_start fun i => serve_keeps hashFunc (requests i)
  case wf => exact fun scopeId entry he => by cases he
  case drawn => exact fun i id hid => absurd hid List.not_mem_nil
  case drawn_once => exact fun i j id hid => absurd hid List.not_mem_nil
  case drew => exact fun i scopeId ⟨scope,hin,_⟩ => absurd hin List.not_mem_nil
  case ok => exact fun scopeId entry he => by cases he
  case unmapped => exact fun i scopeId entry ⟨scope,hin,_⟩ => absurd hin List.not_mem_nil
  case seen => exact fun i scopeId result ⟨event,hin,_⟩ => absurd hin List.not_mem_nil

/-- Whatever requests on scopes do side by side, every scope that is stored is
consistent. -/
theorem scopes_consistent [PyUnicode] (hashFunc : String → String) (requests : ι → MappingRequest)
    (drawn : Finset ℕ)
    (hrun : Pool.Run scopeHandles Expires (fun _ _ => True)
      ⟨⟨.empty,drawn⟩,fun i => (requests i).serve hashFunc mappingServices,[]⟩ pool)
    {scopeId : ℕ} {entry : MappingScopeCacheEntry}
    (hentry : pool.world.scopes.get? scopeId=some entry) :
    ScopeEntryWf scopeId entry ∧ ScopeOk entry := by
  have hinv : ScopesInv pool :=
    hrun.inv (scopesInv_start hashFunc requests drawn) fun _ _ _ h _ hstep => h.step hstep
  exact ⟨hinv.wf scopeId entry hentry,(hinv.ok scopeId entry hentry).1⟩

end Interleaving

open PlanStaleness in
/-- The sample controller, with identifiers that are new and entities of its snapshot. -/
def branchScopes (world : ScopeWorld) :
    (op : MappingOp) → Except PyException (MappingAns op) × ScopeWorld
  | .newIds => (.ok (world.drawn.sup id+1),
      { world with drawn := insert (world.drawn.sup id+1) world.drawn })
  | op =>
    let outcome := mappingOracle branchController
      ⟨world.scopes,.empty,fun _ _ => branchCatalog,some (1,"vpc-1")⟩ op
    (outcome.1,{ world with scopes := outcome.2.scopes })

/-- The sample controller answers as the operations may. -/
theorem scopeHandles_branchScopes (world : ScopeWorld) (op : MappingOp) :
    scopeHandles world op (branchScopes world op).1 (branchScopes world op).2 := by
  have hmapping := mappingHandles_mappingOracle PlanStaleness.branchController
    ⟨world.scopes,.empty,fun _ _ => PlanStaleness.branchCatalog,some (1,"vpc-1")⟩ op
  have hfresh : world.drawn.sup id+1∉world.drawn := by
    intro hin
    have hle := Finset.le_sup (f:=id) hin
    dsimp only [id] at hle
    omega
  cases op with
  | newIds =>
    let before : MigrationWorld := ⟨world.scopes,.empty,fun _ _ => PlanStaleness.branchCatalog,none⟩
    exact ⟨⟨before,before,rfl,rfl,rfl⟩,⟨hfresh,rfl⟩,trivial⟩
  | getCanonicalScopeEntitiesData snapshotId ruleIds =>
    have hreads : ∀ answer,CanonicalReader.getCanonicalScopeEntitiesData PlanStaleness.branchStore
        snapshotId ruleIds=answer →
        ReadsEntities ⟨.getCanonicalScopeEntitiesData snapshotId ruleIds,answer⟩ := by
      intro answer hanswer
      cases answer with
      | error error => trivial
      | ok entities => exact ⟨_,hanswer⟩
    exact ⟨⟨_,_,rfl,rfl,hmapping⟩,rfl,hreads _ rfl⟩
  | _ => exact ⟨⟨_,_,rfl,rfl,hmapping⟩,rfl,trivial⟩

/-- A scope is mapped, and another host is selected for its address object. -/
def branchRequests : Bool → MappingRequest
  | false => .mapCanonicalToSdwan ⟨"branch",1,"vpc-1","device-1",.localBlock,7,[20]⟩
  | true => .selectSdwanEntityDirectly 1 4 6

/-- The requests before they are served. -/
def branchPool : ScopePool Bool :=
  ⟨⟨.empty,∅⟩,fun i => @MappingRequest.serve asciiUnicode PlanStaleness.firstBytes
    (@mappingServices asciiUnicode) (branchRequests i),[]⟩

/-- The scope is mapped before the selection starts, and both run to their end. -/
@[irreducible] def branchDone : ScopePool Bool :=
  (List.replicate 13 false++List.replicate 6 true).foldl (Pool.advance branchScopes) branchPool

/-- The selection is stored, and the scope is consistent. -/
theorem scopes_consistent_branch :
    ∃ entry,branchDone.world.scopes.get? 1=some entry ∧
      (entry.results.get? 4).any (fun result => decide (result.selectedSdwanEntityId=some 6))=true ∧
      entry.rules.values.length=1 ∧ ScopeEntryWf 1 entry ∧ ScopeOk entry := by
  let _ : PyUnicode := asciiUnicode
  have hschedule : ∀ (order : List Bool) (start : ScopePool Bool),
      Pool.Run scopeHandles Expires (fun _ _ => True) start
        (order.foldl (Pool.advance branchScopes) start) :=
    fun order start => Pool.run_schedule scopeHandles_branchScopes (fun _ _ => trivial) order start
  have hrun : Pool.Run scopeHandles Expires (fun _ _ => True) branchPool branchDone := by
    unfold branchDone
    exact hschedule (List.replicate 13 false++List.replicate 6 true) branchPool
  have hfound : (branchDone.world.scopes.get? 1).any (fun entry =>
      (entry.results.get? 4).any (fun result => decide (result.selectedSdwanEntityId=some 6)) &&
        decide (entry.rules.values.length=1))=true := by
    decide +kernel
  obtain ⟨entry,hentry,hchecked⟩ := (Option.any_eq_true _ _).mp hfound
  rw [Bool.and_eq_true,decide_eq_true_eq] at hchecked
  exact ⟨entry,hentry,hchecked.1,hchecked.2,
    scopes_consistent PlanStaleness.firstBytes branchRequests ∅ hrun hentry⟩

end NspMigrator.MappingScopeInvariant
