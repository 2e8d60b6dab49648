import Mathlib
import NspMigrator.MappingScopeInvariant
import NspMigrator.MappingScopeRead

/-!
# Where the contents of a scope come from

A request that maps reads a selection of a snapshot, adds the results that are
built for what it read, and attaches the rules that are built on these results.
Every other request only chooses objects, or attaches zones by hand.
-/

namespace NspMigrator.MappingScopeSources

open PyAsync PyDict PyText PyExcept SdwanModels ExecuteRepository MappingEntities
open MappingRepository MappingSchemas MappingObjects MappingProjection MappingUseCases
open MigrationRequests CanonicalReader MappingScopeSpec

/-- What is read are the snapshots. -/
def ReadsFrom (snapshots : SnapshotStore) (event : MappingEvent) : Prop :=
  match event with
  | ⟨.getCanonicalScopeEntitiesData snapshotId ruleIds,.ok entities⟩ =>
    getCanonicalScopeEntitiesData snapshots snapshotId ruleIds=.ok entities
  | ⟨.getCanonicalScopeRules snapshotId ruleIds,.ok rules⟩ =>
    getCanonicalScopeRules snapshots snapshotId ruleIds=.ok rules
  | _ => True

/-- A request reads its selection, and builds results for it. -/
structure MapsSelection [PyUnicode] (snapshots : SnapshotStore) (request : MappingRequest)
    (scopeId : ℕ) (command : MapCanonicalToSdwanCommand) (entities : CanonicalScopeEntities)
    (results : List MappingEntityResult) : Prop where
  /-- It is a request to map the selection. -/
  request_eq : request=.mapCanonicalToSdwan command
  /-- The entities are those of the selection. -/
  read : getCanonicalScopeEntitiesData snapshots command.canonicalSnapshotId
    command.canonicalRulesIds=.ok entities
  /-- The results are built from them and some catalog. -/
  built : ∃ firstId catalog,buildResults firstId scopeId entities catalog=.ok results

/-- An operation that attaches rules. -/
def attachesRules (event : MappingEvent) : Bool :=
  match event.op with
  | .attachRules _ _ => true
  | _ => false

/-- What a request puts into a scope, for what it has done so far. -/
def SourceSpec [PyUnicode] (snapshots : SnapshotStore) (request : MappingRequest)
    (history : List MappingEvent) : MappingOp → Prop
  | .addScope scope => ∃ command,request=.mapCanonicalToSdwan command ∧
    scope.canonicalSnapshotId=command.canonicalSnapshotId
  | .addResults scopeId results =>
    (∃ id sdwanZoneId,results=
      [MappingEntityResult.createZoneManuallyAssigned id scopeId sdwanZoneId]) ∨
    ∃ command entities,Stored history scopeId ∧
      MapsSelection snapshots request scopeId command entities results
  | .attachRules scopeId rules => Stored history scopeId ∧ history.any attachesRules=false ∧
    ∃ command entities canonicalRules results firstRule,
      MapsSelection snapshots request scopeId command entities results ∧
      getCanonicalScopeRules snapshots command.canonicalSnapshotId
        command.canonicalRulesIds=.ok canonicalRules ∧
      (⟨.addResults scopeId results,.ok ()⟩ : MappingEvent)∈history ∧
      MappingRules.build firstRule scopeId canonicalRules entities results=.ok rules
  | .addRuleOperand scopeId operand => ∃ result,Seen history scopeId result ∧
    result.id=operand.mappingEntityResultId ∧ isManualResultWithoutCanonical result=true
  | _ => True

/-- A request keeps to what it may put into a scope. -/
abbrev Follows [PyUnicode] {α : Type} (snapshots : SnapshotStore) (request : MappingRequest)
    (x : Mapping α) (history : List MappingEvent) : Prop :=
  x.Sound (fun _ => ReadsFrom snapshots) (SourceSpec snapshots request) (fun _ _ => True) history

/-- Operations that put nothing new into a scope. -/
def Chooses : MappingOp → Prop
  | .addScope _ | .addResults _ _ | .attachRules _ _ | .addRuleOperand _ _ => False
  | _ => True

theorem chooses_of_quiet (op : MappingOp) (h : Quiet op) : Chooses op := by
  cases op with
  | addScope | addResults | attachRules | addRuleOperand => exact h.elim
  | _ => exact trivial

section Choosing

variable [PyUnicode] {snapshots : SnapshotStore} {request : MappingRequest}
  {history : List MappingEvent}

/-- Choosing is always allowed. -/
theorem sourceSpec_of_chooses {op : MappingOp} (h : Chooses op) :
    SourceSpec snapshots request history op := by
  cases op with
  | addScope | addResults | attachRules | addRuleOperand => exact h.elim
  | _ => exact trivial

/-- Work that only chooses puts nothing into a scope. -/
theorem follows_of_chooses {α : Type} {x : Mapping α} (h : x.Only Chooses) :
    Follows snapshots request x history :=
  h.sound (fun _ => True) (fun _ _ _ hop => sourceSpec_of_chooses hop) (fun _ _ _ _ _ => trivial)
    (fun _ _ _ => trivial) trivial

/-- One operation that puts nothing into a scope, and the rest. -/
theorem follows_read {β : Type} {op : MappingOp} {next : MappingAns op → Mapping β}
    (hop : Chooses op) (hnext : ∀ a,ReadsFrom snapshots ⟨op,.ok a⟩ →
      Follows snapshots request (next a) (history++[⟨op,.ok a⟩])) :
    Follows snapshots request (await op>>=next) history :=
  Async.sound_call_bind (sourceSpec_of_chooses hop) (fun _ _ => trivial) hnext

/-- One write, and the rest. -/
theorem follows_write {β : Type} {op : MappingOp} {next : MappingAns op → Mapping β}
    (hop : SourceSpec snapshots request history op)
    (hnext : ∀ a,Follows snapshots request (next a) (history++[⟨op,.ok a⟩])) :
    Follows snapshots request (await op>>=next) history :=
  Async.sound_call_bind hop (fun _ _ => trivial) fun a _ => hnext a

/-- A computation of its own, and the rest. -/
theorem follows_ofExcept {α β : Type} {x : Except PyException α} {next : α → Mapping β}
    (hnext : ∀ a,x=.ok a → Follows snapshots request (next a) history) :
    Follows snapshots request (Async.ofExcept x>>=next) history := by
  cases x with
  | error error => exact trivial
  | ok a => exact hnext a rfl

/-- After work that writes nothing, the rest follows what was done before. -/
theorem follows_quiet_bind {α β : Type} {x : Mapping α} {next : α → Mapping β}
    (hx : x.Only Quiet) (hnext : ∀ a quiet,(∀ event∈quiet,Quiet event.op) →
      Follows snapshots request (next a) (history++quiet)) :
    Follows snapshots request (x>>=next) history := by
  let I : List MappingEvent → Prop := fun reached =>
    ∃ quiet,reached=history++quiet ∧ ∀ event∈quiet,Quiet event.op
  have hstart : I history := ⟨[],(List.append_nil _).symm,fun _ h => absurd h List.not_mem_nil⟩
  refine Async.sound_bind (hx.sound I
    (fun _ op _ hop => sourceSpec_of_chooses (chooses_of_quiet op hop)) ?_ ?_ hstart)
  · rintro reached op answer ⟨quiet,rfl,hquiet⟩ hop
    refine ⟨quiet++[⟨op,answer⟩],List.append_assoc _ _ _,fun event he => ?_⟩
    rcases List.mem_append.mp he with he|he
    · exact hquiet event he
    · rw [List.mem_singleton.mp he]
      exact hop
  · rintro reached outcome ⟨quiet,rfl,hquiet⟩
    cases outcome with
    | error error => exact trivial
    | ok a => exact hnext a quiet hquiet

end Choosing

/-! ## Requests that choose -/

section Choices

/-- A computation of its own chooses nothing. -/
theorem ofExcept_chooses {α : Type} (x : Except PyException α) :
    (Async.ofExcept x : Mapping α).Only Chooses := trivial

theorem selectEntityCandidate_chooses (scopeId resultId candidateId : ℕ) :
    (selectEntityCandidate scopeId resultId candidateId).Only Chooses := by
  refine Async.only_bind (Async.only_call trivial) fun found => ?_
  cases found with
  | none => exact trivial
  | some result =>
    dsimp only
    split
    · exact trivial
    · exact trivial
    · split
      · exact trivial
      · exact Async.only_bind (ofExcept_chooses _) fun updated =>
          Async.only_bind (Async.only_call trivial) fun _ => trivial

theorem selectSdwanEntityDirectly_chooses (scopeId resultId : ℕ) (sdwanEntityId : ℤ) :
    (selectSdwanEntityDirectly scopeId resultId sdwanEntityId).Only Chooses := by
  refine Async.only_bind (Async.only_call trivial) fun found => ?_
  cases found with
  | none => exact trivial
  | some result =>
    refine Async.only_bind (Async.only_call trivial) fun scope => ?_
    cases scope with
    | none => exact trivial
    | some scope =>
      refine Async.only_bind ((withGateway_quiet (findSdwanEntity_quiet _ _)).mono
        chooses_of_quiet) fun entity => ?_
      cases entity with
      | none => exact trivial
      | some entityId => exact Async.only_bind (Async.only_call trivial) fun _ => trivial

theorem refreshMappingScopeCatalogFingerprint_chooses [PyUnicode] (hashFunc : String → String)
    (scopeId : ℕ) : (refreshMappingScopeCatalogFingerprint hashFunc scopeId).Only Chooses :=
  (refreshMappingScopeCatalogFingerprint_quiet hashFunc scopeId).mono chooses_of_quiet

theorem selectEntityWithCreateOnSdwan_chooses [PyUnicode] (hashFunc : String → String)
    (scopeId resultId : ℕ) (refresh : Bool) :
    (selectEntityWithCreateOnSdwan hashFunc scopeId resultId refresh).Only Chooses := by
  refine Async.only_bind (Async.only_call trivial) fun found => ?_
  cases found with
  | none => exact trivial
  | some result =>
    dsimp only
    split
    · exact trivial
    refine Async.only_bind (Async.only_call trivial) fun scope => ?_
    cases scope with
    | none => exact trivial
    | some scope =>
      dsimp only
      have hcreate : ∀ {create : Mapping ℤ},create.Only Neutral → create.Only Chooses :=
        fun h => h.mono fun op hop => chooses_of_quiet op (quiet_of_neutral op hop)
      have hrest : ∀ createdId,Async.Only Chooses (do
          let _ ← await (.saveResult (result.selectCreated createdId))
          if refresh=true then
            let refreshed ← refreshMappingScopeCatalogFingerprint hashFunc scope.id
            return (result.selectCreated createdId,refreshed.2)
          else return (result.selectCreated createdId,false)) := by
        intro createdId
        refine Async.only_bind (Async.only_call trivial) fun _ => ?_
        split
        · exact Async.only_bind (refreshMappingScopeCatalogFingerprint_chooses hashFunc scope.id)
            fun _ => trivial
        · exact trivial
      split
      · exact Async.only_bind (hcreate (createForAddr_neutral scope result)) hrest
      · exact Async.only_bind (hcreate (createForService_neutral scope result)) hrest

theorem autoSelectEntitiesWithCreate_chooses [PyUnicode] (hashFunc : String → String)
    (scopeId : ℕ) : (autoSelectEntitiesWithCreate hashFunc scopeId).Only Chooses := by
  refine Async.only_bind (Async.only_call trivial) fun scope => ?_
  cases scope with
  | none => exact trivial
  | some scope =>
    refine Async.only_bind (Async.only_call trivial) fun unresolved => ?_
    refine Async.only_bind (Async.only_foldlM (fun done result _ => ?_) _) fun done => ?_
    · refine Async.only_bind (Async.only_attempt
        (selectEntityWithCreateOnSdwan_chooses hashFunc scope.id result.id false)) fun outcome => ?_
      cases outcome with
      | ok selected => exact trivial
      | error error => exact trivial
    · split
      · exact Async.only_bind (refreshMappingScopeCatalogFingerprint_chooses hashFunc scope.id)
          fun _ => trivial
      · exact trivial

end Choices

/-! ## Requests that fill a scope -/

/-- The manual result that is used was assigned by hand. -/
theorem isManual_of_manualResult {matching : List MappingEntityResult}
    {result : MappingEntityResult} (h : manualResult matching=some result) :
    isManualResultWithoutCanonical result=true := by
  have hfound := List.find?_some h
  exact hfound

/-- Operations that write nothing attach no rules. -/
theorem any_attachesRules_quiet {events : List MappingEvent}
    (h : ∀ event∈events,Quiet event.op) : events.any attachesRules=false := by
  rw [List.any_eq_false]
  intro event he
  obtain ⟨op,answer⟩ := event
  have hop := h _ he
  cases op with
  | attachRules => exact hop.elim
  | _ => exact Bool.false_ne_true

section Filling

variable [PyUnicode] {snapshots : SnapshotStore} {request : MappingRequest}
  {history : List MappingEvent}

/-- Every operand that is added points at the manual result of the zone. -/
theorem addZoneOperands_follows {scopeId mappingResultId : ℕ} (rules : List MappingScopeRule)
    (role : MappingScopeRuleOperandRole) {β : Type}
    {next : List MappingScopeRuleOperand → Mapping β}
    (hseen : ∃ result,Seen history scopeId result ∧ result.id=mappingResultId ∧
      isManualResultWithoutCanonical result=true)
    (hnext : ∀ operands later,Follows snapshots request (next operands) later) :
    Follows snapshots request (addZoneOperands scopeId rules role mappingResultId>>=next)
      history := by
  let I : List MappingScopeRule → List MappingScopeRuleOperand → List MappingEvent → Prop :=
    fun _ _ reached => ∃ result,Seen reached scopeId result ∧ result.id=mappingResultId ∧
      isManualResultWithoutCanonical result=true
  refine Async.sound_bind (Async.sound_foldlM I ?_ (fun operands later _ => hnext operands later)
    hseen)
  rintro earlier rule later acc reached - ⟨result,hresult,hid,hmanual⟩
  refine Async.sound_call_bind (sourceSpec_of_chooses trivial) (fun _ _ => trivial) fun id _ => ?_
  refine Async.sound_call_bind ⟨result,hresult.mono,hid,hmanual⟩ (fun _ _ => trivial) fun _ _ => ?_
  exact ⟨result,hresult.mono.mono,hid,hmanual⟩

theorem assignZoneForScope_follows (zoneDirection : ZoneDirection) (zoneSdwanId : ℤ)
    (scopeId : ℕ) : Follows snapshots request
      (assignZoneForScope zoneDirection zoneSdwanId scopeId) history := by
  refine follows_read trivial fun scope _ => ?_
  cases scope with
  | none => exact trivial
  | some scope =>
    dsimp only
    split
    · exact trivial
    refine follows_quiet_bind (withGateway_quiet (Async.only_call trivial)) fun zone quiet _ => ?_
    cases zone with
    | none => exact trivial
    | some zone =>
      refine Async.sound_bind (Async.sound_call_bind (sourceSpec_of_chooses trivial)
        (fun _ _ => trivial) fun results _ => Async.sound_pure ?_)
      dsimp only
      split
      · exact follows_ofExcept fun result _ => trivial
      · unfold getOrCreateManualZoneResult
        split
        next manual hmanual =>
          refine addZoneOperands_follows _ _ ⟨manual,seen_listResults ?_,rfl,
            isManual_of_manualResult hmanual⟩ fun _ _ => trivial
          exact (List.mem_filter.mp (mem_of_existingMappingResult hmanual)).1
        next =>
          refine Async.sound_bind (Async.sound_call_bind (sourceSpec_of_chooses trivial)
            (fun _ _ => trivial) fun id _ => ?_)
          refine Async.sound_call_bind (Or.inl ⟨id,zone.id,rfl⟩) (fun _ _ => trivial)
            fun _ _ => Async.sound_pure ?_
          exact addZoneOperands_follows _ _ ⟨_,seen_addResults (List.mem_singleton_self _),rfl,rfl⟩
            fun _ _ => trivial

theorem mapCanonicalToSdwan_follows (hashFunc : String → String)
    (command : MapCanonicalToSdwanCommand) :
    Follows snapshots (.mapCanonicalToSdwan command)
      (mapCanonicalToSdwan hashFunc mappingServices command) [] := by
  refine follows_quiet_bind (withGateway_quiet (readTargetCatalog_quiet command))
    fun catalog quiet hquiet => ?_
  have hnone := any_attachesRules_quiet hquiet
  refine follows_read trivial fun scopeId _ => ?_
  refine follows_read trivial fun entities hentities => ?_
  refine follows_read trivial fun canonicalRules hcanonical => ?_
  refine follows_read trivial fun firstResult _ => ?_
  refine follows_ofExcept fun results hresults => ?_
  refine follows_read trivial fun firstRule _ => ?_
  refine follows_ofExcept fun rules hrules => ?_
  have hmaps : MapsSelection snapshots (.mapCanonicalToSdwan command) scopeId command entities
      results := ⟨rfl,hentities,firstResult,catalog,hresults⟩
  refine follows_write ⟨command,rfl,rfl⟩ fun _ => ?_
  refine follows_write (Or.inr ⟨command,entities,
    ⟨_,List.mem_append_right _ (List.mem_singleton_self _),rfl⟩,hmaps⟩) fun _ => ?_
  refine follows_write ⟨⟨_,List.mem_append_left _ (List.mem_append_right _
    (List.mem_singleton_self _)),rfl⟩,by simp [hnone,attachesRules],command,entities,
    canonicalRules,results,firstRule,hmaps,hcanonical,
    List.mem_append_right _ (List.mem_singleton_self _),hrules⟩ fun _ => trivial

/-- Every request keeps to what it may put into a scope. -/
theorem serve_follows (hashFunc : String → String) (request : MappingRequest) :
    Follows snapshots request (request.serve hashFunc mappingServices) [] := by
  have hunit : ∀ {α : Type} {x : Mapping α},Follows snapshots request x [] →
      Follows snapshots request (x>>=fun _ => (pure () : Mapping Unit)) [] := by
    intro α x hx
    refine Async.sound_bind (hx.mono fun history outcome _ => ?_)
    cases outcome with
    | ok a => exact trivial
    | error error => exact trivial
  cases request with
  | mapCanonicalToSdwan command => exact hunit (mapCanonicalToSdwan_follows hashFunc command)
  | selectEntityCandidate scopeId resultId candidateId =>
    exact hunit (follows_of_chooses (selectEntityCandidate_chooses scopeId resultId candidateId))
  | selectSdwanEntityDirectly scopeId resultId sdwanEntityId =>
    exact hunit (follows_of_chooses
      (selectSdwanEntityDirectly_chooses scopeId resultId sdwanEntityId))
  | assignZoneForScope zoneDirection zoneSdwanId scopeId =>
    exact hunit (assignZoneForScope_follows zoneDirection zoneSdwanId scopeId)
  | selectEntityWithCreateOnSdwan scopeId resultId =>
    exact hunit (follows_of_chooses
      (selectEntityWithCreateOnSdwan_chooses hashFunc scopeId resultId true))
  | autoSelectEntitiesWithCreate scopeId =>
    exact hunit (follows_of_chooses (autoSelectEntitiesWithCreate_chooses hashFunc scopeId))
  | refreshMappingScopeCatalogFingerprint scopeId =>
    exact hunit (follows_of_chooses
      (refreshMappingScopeCatalogFingerprint_chooses hashFunc scopeId))

end Filling

end NspMigrator.MappingScopeSources
