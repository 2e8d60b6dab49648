import Mathlib
import NspMigrator.MappingUseCases
import NspMigrator.MappingObjects
import NspMigrator.MappingRules
import NspMigrator.MappingReader
import NspMigrator.ExecutePrepare
import NspMigrator.ExecutePushSpec

/-!
# Requests over scopes, plans and controllers

Requests are served one after another. While a request is served, any call of
a controller may raise, and the catalogs of the controllers may be edited
between any two of its operations.
-/

namespace NspMigrator.MigrationRequests

open PyAsync PyDict PyText SdwanModels SdwanFingerprint ExecuteRepository ExecutePlan ExecutePush
open MappingEntities MappingRepository MappingReader MappingUseCases ExecutePrepare

/-- The cached scopes and plans, the catalog behind every profile and project,
and the client a request is working with. -/
structure MigrationWorld where
  /-- The mapping scopes. -/
  scopes : ScopeStore
  /-- The plans. -/
  plans : PlanStore
  /-- The catalog behind each profile and project. -/
  catalogs : ℕ → String → SdwanFullCatalog
  /-- The profile and project a client is open for. -/
  client : Option (ℕ × String) := none

/-- An edit of the catalogs from outside. -/
def ExternalEdit (world next : MigrationWorld) : Prop :=
  ∃ catalogs,next={ world with catalogs := catalogs }

/-- A write of the scopes answers with its value, or raises and changes nothing. -/
def Writes {α : Type} (world : MigrationWorld) (outcome : Except PyException (ScopeStore × α))
    (answer : Except PyException α) (next : MigrationWorld) : Prop :=
  match outcome with
  | .ok (scopes,value) => answer=.ok value ∧ next={ world with scopes := scopes }
  | .error error => answer=.error error ∧ next=world

/-- A client is acquired, or acquiring it raises. -/
def Acquires (world : MigrationWorld) (profileId : ℕ) (vpcId : String)
    (answer : Except PyException Unit) (next : MigrationWorld) : Prop :=
  (answer=.ok () ∧ next={ world with client := some (profileId,vpcId) }) ∨
    ∃ error,answer=.error error ∧ next=world

/-- The catalog of the client's controller is read, or reading it raises. -/
def ReadsCatalog (world : MigrationWorld) (answer : Except PyException SdwanFullCatalog)
    (next : MigrationWorld) : Prop :=
  next=world ∧ ((∃ error,answer=.error error) ∨
    ∃ client,world.client=some client ∧ answer=.ok (world.catalogs client.1 client.2))

/-- What the operations of the mapping do. The scopes answer as they are stored,
a creation changes the catalogs, everything else may answer anything. -/
def mappingHandles (world : MigrationWorld) :
    (op : MappingOp) → Except PyException (MappingAns op) → MigrationWorld → Prop
  | .getScopeById scopeId,answer,next =>
    answer=.ok (getScopeById world.scopes scopeId) ∧ next=world
  | .getResult scopeId resultId,answer,next =>
    answer=.ok (getResult world.scopes scopeId resultId) ∧ next=world
  | .listResults scopeId entityType status,answer,next =>
    answer=.ok (listResults world.scopes scopeId entityType status) ∧ next=world
  | .saveResult result,answer,next => Writes world (saveResult world.scopes result) answer next
  | .addScope scope,answer,next =>
    Writes world ((addScope world.scopes scope).map fun scopes => (scopes,())) answer next
  | .addResults scopeId results,answer,next =>
    Writes world ((addResults world.scopes scopeId results).map fun scopes => (scopes,()))
      answer next
  | .attachRules scopeId rules,answer,next =>
    Writes world ((attachRules world.scopes scopeId rules).map fun scopes => (scopes,()))
      answer next
  | .addRuleOperand scopeId operand,answer,next =>
    Writes world ((addRuleOperand world.scopes scopeId operand).map fun scopes => (scopes,()))
      answer next
  | .refreshCatalogFingerprint scopeId catalogFingerprint,answer,next =>
    Writes world (refreshCatalogFingerprint world.scopes scopeId catalogFingerprint) answer next
  | .acquire profileId vpcId,answer,next => Acquires world profileId vpcId answer next
  | .release,_,next => next={ world with client := none }
  | .getSdwanFullCatalog,answer,next => ReadsCatalog world answer next
  | .createAddrObject _,_,next | .createService _,_,next => ExternalEdit world next
  | _,_,next => next=world

/-- What the operations of a preparation do. -/
def prepareHandles (world : MigrationWorld) :
    (op : PrepareOp) → Except PyException (PrepareAns op) → MigrationWorld → Prop
  | .getMappingScopeData scopeId,answer,next =>
    answer=getMappingScopeData world.scopes scopeId ∧ next=world
  | .getMappingScopeRules scopeId,answer,next =>
    answer=getMappingScopeRules world.scopes scopeId ∧ next=world
  | .acquire profileId vpcId,answer,next => Acquires world profileId vpcId answer next
  | .release,_,next => next={ world with client := none }
  | .getSdwanFullCatalog,answer,next => ReadsCatalog world answer next
  | .addPlanWithRules plan rules,answer,next =>
    match addPlanWithRules world.plans plan rules with
    | .ok plans => answer=.ok () ∧ next={ world with plans := plans }
    | .error error => answer=.error error ∧ next=world
  | _,_,next => next=world

/-- What the operations of a push do. -/
def pushHandles (world : MigrationWorld) :
    (op : PushOp) → Except PyException (PushAns op) → MigrationWorld → Prop
  | .getMappingScopeData scopeId,answer,next =>
    answer=getMappingScopeData world.scopes scopeId ∧ next=world
  | .acquire profileId vpcId,answer,next => Acquires world profileId vpcId answer next
  | .release,_,next => next={ world with client := none }
  | .getSdwanFullCatalog,answer,next => ReadsCatalog world answer next
  | op,answer,next => ∃ plans,storeHandles world.plans op answer plans ∧
      next={ world with plans := plans }

section Frames

variable {world next : MigrationWorld}

theorem ExternalEdit.scopes_eq (h : ExternalEdit world next) : next.scopes=world.scopes := by
  obtain ⟨catalogs,rfl⟩ := h
  rfl

theorem ExternalEdit.plans_eq (h : ExternalEdit world next) : next.plans=world.plans := by
  obtain ⟨catalogs,rfl⟩ := h
  rfl

/-- A write of the scopes leaves plans and catalogs alone. -/
theorem Writes.cases {α : Type} {outcome : Except PyException (ScopeStore × α)}
    {answer : Except PyException α} (h : Writes world outcome answer next)
    (hwrite : ∀ scopes value,outcome=.ok (scopes,value) → ScopeWrite world.scopes scopes) :
    next.plans=world.plans ∧ next.catalogs=world.catalogs ∧
      ScopeWrite world.scopes next.scopes := by
  cases outcome with
  | error error =>
    obtain ⟨-,rfl⟩ := h
    exact ⟨rfl,rfl,.same⟩
  | ok pair =>
    obtain ⟨-,rfl⟩ := h
    exact ⟨rfl,rfl,hwrite _ _ rfl⟩

/-- What is returned without a value is written. -/
theorem eq_ok_of_map {outcome : Except PyException ScopeStore} {scopes : ScopeStore} {u : Unit}
    (h : (outcome.map fun scopes => (scopes,()))=.ok (scopes,u)) : outcome=.ok scopes := by
  cases outcome with
  | error error => cases h
  | ok found =>
    cases h
    rfl

theorem Acquires.eq_client {profileId : ℕ} {vpcId : String} {answer : Except PyException Unit}
    (h : Acquires world profileId vpcId answer next) :
    ∃ client,next={ world with client := client } := by
  rcases h with ⟨-,rfl⟩|⟨error,-,rfl⟩
  · exact ⟨_,rfl⟩
  · exact ⟨_,rfl⟩

/-- An operation of the mapping keeps the plans, and writes the scopes or
changes the catalogs, but not both. -/
theorem mappingHandles_cases (hw : ScopesWf world.scopes) {op : MappingOp}
    {answer : Except PyException (MappingAns op)} (h : mappingHandles world op answer next) :
    next.plans=world.plans ∧ (next.scopes=world.scopes ∨
      (next.catalogs=world.catalogs ∧ ScopeWrite world.scopes next.scopes)) := by
  have hwrites : next.plans=world.plans ∧ next.catalogs=world.catalogs ∧
      ScopeWrite world.scopes next.scopes → next.plans=world.plans ∧ (next.scopes=world.scopes ∨
      (next.catalogs=world.catalogs ∧ ScopeWrite world.scopes next.scopes)) :=
    fun h => ⟨h.1,Or.inr h.2⟩
  cases op with
  | saveResult result => exact hwrites (h.cases fun _ _ he => saveResult_write hw he)
  | addScope scope => exact hwrites (h.cases fun _ _ he => addScope_write (eq_ok_of_map he))
  | addResults scopeId results =>
    exact hwrites (h.cases fun _ _ he => addResults_write hw (eq_ok_of_map he))
  | attachRules scopeId rules =>
    exact hwrites (h.cases fun _ _ he => attachRules_write hw (eq_ok_of_map he))
  | addRuleOperand scopeId operand =>
    exact hwrites (h.cases fun _ _ he => addRuleOperand_write hw (eq_ok_of_map he))
  | refreshCatalogFingerprint scopeId catalogFingerprint =>
    exact hwrites (h.cases fun _ _ he => refreshCatalogFingerprint_write he)
  | acquire profileId vpcId =>
    obtain ⟨client,rfl⟩ := h.eq_client
    exact ⟨rfl,Or.inl rfl⟩
  | createAddrObject payload => exact ⟨h.plans_eq,Or.inl h.scopes_eq⟩
  | createService payload => exact ⟨h.plans_eq,Or.inl h.scopes_eq⟩
  | getSdwanFullCatalog =>
    obtain ⟨rfl,-⟩ := h
    exact ⟨rfl,Or.inl rfl⟩
  | getScopeById | getResult | listResults =>
    obtain ⟨-,rfl⟩ := h
    exact ⟨rfl,Or.inl rfl⟩
  | _ =>
    cases h
    exact ⟨rfl,Or.inl rfl⟩

/-- An operation of a preparation stores the plan at most. -/
theorem prepareHandles_cases {op : PrepareOp} {answer : Except PyException (PrepareAns op)}
    (h : prepareHandles world op answer next) :
    next.scopes=world.scopes ∧ next.catalogs=world.catalogs ∧
      (next.plans=world.plans ∨ ∃ plan rules,op=.addPlanWithRules plan rules ∧
        addPlanWithRules world.plans plan rules=.ok next.plans) := by
  cases op with
  | addPlanWithRules plan rules =>
    rw [prepareHandles] at h
    split at h
    · next plans hplans =>
      obtain ⟨-,rfl⟩ := h
      exact ⟨rfl,rfl,Or.inr ⟨plan,rules,rfl,hplans⟩⟩
    · obtain ⟨-,rfl⟩ := h
      exact ⟨rfl,rfl,Or.inl rfl⟩
  | acquire profileId vpcId =>
    obtain ⟨client,rfl⟩ := h.eq_client
    exact ⟨rfl,rfl,Or.inl rfl⟩
  | getSdwanFullCatalog =>
    obtain ⟨rfl,-⟩ := h
    exact ⟨rfl,rfl,Or.inl rfl⟩
  | getMappingScopeData | getMappingScopeRules =>
    obtain ⟨-,rfl⟩ := h
    exact ⟨rfl,rfl,Or.inl rfl⟩
  | _ =>
    cases h
    exact ⟨rfl,rfl,Or.inl rfl⟩

/-- An operation of a push changes the plans at most, and only by replacing a
plan or a rule. -/
theorem pushHandles_cases {op : PushOp} {answer : Except PyException (PushAns op)}
    (h : pushHandles world op answer next) :
    next.scopes=world.scopes ∧ next.catalogs=world.catalogs ∧ match op,answer with
      | .updatePlan plan,answer => storeHandles world.plans (.updatePlan plan) answer next.plans
      | .updatePlanRule rule,answer =>
        storeHandles world.plans (.updatePlanRule rule) answer next.plans
      | _,_ => next.plans=world.plans := by
  cases op with
  | updatePlan plan =>
    obtain ⟨plans,hstore,rfl⟩ := h
    exact ⟨rfl,rfl,hstore⟩
  | updatePlanRule rule =>
    obtain ⟨plans,hstore,rfl⟩ := h
    exact ⟨rfl,rfl,hstore⟩
  | acquire profileId vpcId =>
    obtain ⟨client,rfl⟩ := h.eq_client
    exact ⟨rfl,rfl,rfl⟩
  | getSdwanFullCatalog =>
    obtain ⟨rfl,-⟩ := h
    exact ⟨rfl,rfl,rfl⟩
  | getMappingScopeData scopeId =>
    obtain ⟨-,rfl⟩ := h
    exact ⟨rfl,rfl,rfl⟩
  | release =>
    cases h
    exact ⟨rfl,rfl,rfl⟩
  | getPlan | listPlanRules =>
    obtain ⟨plans,hstore,rfl⟩ := h
    exact ⟨rfl,rfl,hstore.2⟩
  | _ =>
    obtain ⟨plans,hstore,rfl⟩ := h
    exact ⟨rfl,rfl,hstore⟩

/-- The repository answers a push as it should for its plan. -/
theorem answerOk_of_pushHandles {planId : ℕ} {history : List PushEvent}
    (hentry : ∀ entry,world.plans.get? planId=some entry → EntryWf planId entry) {op : PushOp}
    {answer : Except PyException (PushAns op)} (hspec : ExecutePushSpec.PushSpec planId history op)
    (h : pushHandles world op answer next) : ExecutePushSpec.AnswerOk op answer := by
  cases op with
  | getPlan | listPlanRules =>
    obtain ⟨plans,hstore,rfl⟩ := h
    exact ExecutePushSpec.answerOk_of_storeHandles hentry ⟨_,answer⟩ hspec hstore
  | _ => exact trivial

end Frames

/-- An operation after an edit of the catalogs, both taken where they are allowed. -/
def Amid {Op : Type} {Ans : Op → Type} (allowed : MigrationWorld → MigrationWorld → Prop)
    (handles : MigrationWorld → (op : Op) → Except PyException (Ans op) → MigrationWorld → Prop)
    (world : MigrationWorld) (op : Op) (answer : Except PyException (Ans op))
    (next : MigrationWorld) : Prop :=
  ∃ mid,ExternalEdit world mid ∧ allowed world mid ∧ handles mid op answer next ∧
    allowed mid next

section Oracles

/-- A controller on which every call has one answer, and creations edit the catalogs. -/
structure Controller where
  /-- How it answers the operations of a mapping. -/
  mapping : (op : MappingOp) → Except PyException (MappingAns op)
  /-- How it answers those of a preparation. -/
  prepare : (op : PrepareOp) → Except PyException (PrepareAns op)
  /-- How it answers those of a push. -/
  push : (op : PushOp) → Except PyException (PushAns op)
  /-- What a creation makes of the catalogs. -/
  created : MappingOp → (ℕ → String → SdwanFullCatalog) → ℕ → String → SdwanFullCatalog

/-- Write the scopes, or leave the world alone. -/
def writeScopes {α : Type} (world : MigrationWorld)
    (outcome : Except PyException (ScopeStore × α)) : Except PyException α × MigrationWorld :=
  match outcome with
  | .ok (scopes,value) => (.ok value,{ world with scopes := scopes })
  | .error error => (.error error,world)

theorem writes_writeScopes {α : Type} (world : MigrationWorld)
    (outcome : Except PyException (ScopeStore × α)) :
    Writes world outcome (writeScopes world outcome).1 (writeScopes world outcome).2 := by
  cases outcome with
  | ok pair => exact ⟨rfl,rfl⟩
  | error error => exact ⟨rfl,rfl⟩

/-- The catalog of the client's controller. -/
def clientCatalog (world : MigrationWorld) : Except PyException SdwanFullCatalog :=
  match world.client with
  | some client => .ok (world.catalogs client.1 client.2)
  | none => .error ⟨"RuntimeError","SD-WAN client is not acquired"⟩

theorem readsCatalog_clientCatalog (world : MigrationWorld) :
    ReadsCatalog world (clientCatalog world) world := by
  refine ⟨rfl,?_⟩
  unfold clientCatalog
  split
  · next client hclient => exact Or.inr ⟨client,hclient,rfl⟩
  · exact Or.inl ⟨_,rfl⟩

/-- The answers of the mapping's operations with a controller. -/
def mappingOracle (controller : Controller) (world : MigrationWorld) :
    (op : MappingOp) → Except PyException (MappingAns op) × MigrationWorld
  | .getScopeById scopeId => (.ok (getScopeById world.scopes scopeId),world)
  | .getResult scopeId resultId => (.ok (getResult world.scopes scopeId resultId),world)
  | .listResults scopeId entityType status =>
    (.ok (listResults world.scopes scopeId entityType status),world)
  | .saveResult result => writeScopes world (saveResult world.scopes result)
  | .addScope scope =>
    writeScopes world ((addScope world.scopes scope).map fun scopes => (scopes,()))
  | .addResults scopeId results =>
    writeScopes world ((addResults world.scopes scopeId results).map fun scopes => (scopes,()))
  | .attachRules scopeId rules =>
    writeScopes world ((attachRules world.scopes scopeId rules).map fun scopes => (scopes,()))
  | .addRuleOperand scopeId operand =>
    writeScopes world ((addRuleOperand world.scopes scopeId operand).map fun scopes => (scopes,()))
  | .refreshCatalogFingerprint scopeId catalogFingerprint =>
    writeScopes world (refreshCatalogFingerprint world.scopes scopeId catalogFingerprint)
  | .acquire profileId vpcId => (.ok (),{ world with client := some (profileId,vpcId) })
  | .release => (.ok (),{ world with client := none })
  | .getSdwanFullCatalog => (clientCatalog world,world)
  | .createAddrObject payload => (controller.mapping (.createAddrObject payload),
      { world with catalogs := controller.created (.createAddrObject payload) world.catalogs })
  | .createService payload => (controller.mapping (.createService payload),
      { world with catalogs := controller.created (.createService payload) world.catalogs })
  | op => (controller.mapping op,world)

theorem mappingHandles_mappingOracle (controller : Controller) (world : MigrationWorld)
    (op : MappingOp) : mappingHandles world op (mappingOracle controller world op).1
      (mappingOracle controller world op).2 := by
  cases op with
  | saveResult | addScope | addResults | attachRules | addRuleOperand |
      refreshCatalogFingerprint => exact writes_writeScopes _ _
  | acquire => exact Or.inl ⟨rfl,rfl⟩
  | getSdwanFullCatalog => exact readsCatalog_clientCatalog world
  | createAddrObject | createService => exact ⟨_,rfl⟩
  | getScopeById | getResult | listResults => exact ⟨rfl,rfl⟩
  | _ => exact rfl

/-- The answers of a preparation's operations with a controller. -/
def prepareOracle (controller : Controller) (world : MigrationWorld) :
    (op : PrepareOp) → Except PyException (PrepareAns op) × MigrationWorld
  | .getMappingScopeData scopeId => (getMappingScopeData world.scopes scopeId,world)
  | .getMappingScopeRules scopeId => (getMappingScopeRules world.scopes scopeId,world)
  | .acquire profileId vpcId => (.ok (),{ world with client := some (profileId,vpcId) })
  | .release => (.ok (),{ world with client := none })
  | .getSdwanFullCatalog => (clientCatalog world,world)
  | .addPlanWithRules plan rules =>
    match addPlanWithRules world.plans plan rules with
    | .ok plans => (.ok (),{ world with plans := plans })
    | .error error => (.error error,world)
  | op => (controller.prepare op,world)

theorem prepareHandles_prepareOracle (controller : Controller) (world : MigrationWorld)
    (op : PrepareOp) : prepareHandles world op (prepareOracle controller world op).1
      (prepareOracle controller world op).2 := by
  cases op with
  | addPlanWithRules plan rules =>
    simp only [prepareHandles,prepareOracle]
    cases addPlanWithRules world.plans plan rules with
    | ok plans => exact ⟨rfl,rfl⟩
    | error error => exact ⟨rfl,rfl⟩
  | acquire => exact Or.inl ⟨rfl,rfl⟩
  | getSdwanFullCatalog => exact readsCatalog_clientCatalog world
  | getMappingScopeData | getMappingScopeRules => exact ⟨rfl,rfl⟩
  | _ => exact rfl

/-- The answers of a push's operations with a controller. -/
def pushOracle (controller : Controller) (world : MigrationWorld) :
    (op : PushOp) → Except PyException (PushAns op) × MigrationWorld
  | .getMappingScopeData scopeId => (getMappingScopeData world.scopes scopeId,world)
  | .acquire profileId vpcId => (.ok (),{ world with client := some (profileId,vpcId) })
  | .release => (.ok (),{ world with client := none })
  | .getSdwanFullCatalog => (clientCatalog world,world)
  | op =>
    let outcome := storeOracle controller.push world.plans op
    (outcome.1,{ world with plans := outcome.2 })

theorem pushHandles_pushOracle (controller : Controller) (world : MigrationWorld)
    (op : PushOp) : pushHandles world op (pushOracle controller world op).1
      (pushOracle controller world op).2 := by
  cases op with
  | acquire => exact Or.inl ⟨rfl,rfl⟩
  | release => exact rfl
  | getSdwanFullCatalog => exact readsCatalog_clientCatalog world
  | getMappingScopeData => exact ⟨rfl,rfl⟩
  | _ => exact ⟨_,storeHandles_storeOracle controller.push world.plans _,rfl⟩

/-- An operation without an edit before it. -/
theorem amid_of_handles {Op : Type} {Ans : Op → Type}
    {allowed : MigrationWorld → MigrationWorld → Prop}
    {handles : MigrationWorld → (op : Op) → Except PyException (Ans op) → MigrationWorld → Prop}
    {world next : MigrationWorld} {op : Op} {answer : Except PyException (Ans op)}
    (hstay : allowed world world) (hop : handles world op answer next)
    (hallowed : allowed world next) : Amid allowed handles world op answer next :=
  ⟨world,⟨world.catalogs,rfl⟩,hstay,hop,hallowed⟩

end Oracles

/-- The services that build results and rules. -/
def mappingServices [PyUnicode] : MappingServices where
  buildResults := MappingObjects.buildResults
  buildRules := MappingRules.build

/-- The requests on mapping scopes. -/
inductive MappingRequest where
  | mapCanonicalToSdwan (command : MapCanonicalToSdwanCommand)
  | selectEntityCandidate (scopeId resultId candidateId : ℕ)
  | selectSdwanEntityDirectly (scopeId resultId : ℕ) (sdwanEntityId : ℤ)
  | assignZoneForScope (zoneDirection : ZoneDirection) (zoneSdwanId : ℤ) (scopeId : ℕ)
  | selectEntityWithCreateOnSdwan (scopeId resultId : ℕ)
  | autoSelectEntitiesWithCreate (scopeId : ℕ)
  | refreshMappingScopeCatalogFingerprint (scopeId : ℕ)

section Requests

variable [PyUnicode] (hashFunc : String → String) (services : MappingServices)

/-- What serving a request on a mapping scope does. -/
def MappingRequest.serve : MappingRequest → Mapping Unit
  | .mapCanonicalToSdwan command => do
    let _ ← MappingUseCases.mapCanonicalToSdwan hashFunc services command
    return ()
  | .selectEntityCandidate scopeId resultId candidateId => do
    let _ ← MappingUseCases.selectEntityCandidate scopeId resultId candidateId
    return ()
  | .selectSdwanEntityDirectly scopeId resultId sdwanEntityId => do
    let _ ← MappingUseCases.selectSdwanEntityDirectly scopeId resultId sdwanEntityId
    return ()
  | .assignZoneForScope zoneDirection zoneSdwanId scopeId => do
    let _ ← MappingUseCases.assignZoneForScope zoneDirection zoneSdwanId scopeId
    return ()
  | .selectEntityWithCreateOnSdwan scopeId resultId => do
    let _ ← MappingUseCases.selectEntityWithCreateOnSdwan hashFunc scopeId resultId true
    return ()
  | .autoSelectEntitiesWithCreate scopeId => do
    let _ ← MappingUseCases.autoSelectEntitiesWithCreate hashFunc scopeId
    return ()
  | .refreshMappingScopeCatalogFingerprint scopeId => do
    let _ ← MappingUseCases.refreshMappingScopeCatalogFingerprint hashFunc scopeId
    return ()

/-- One request is served, or the catalogs are edited. -/
inductive Served (allowed : MigrationWorld → MigrationWorld → Prop) :
    MigrationWorld → MigrationWorld → Prop where
  | mapping {world next : MigrationWorld} (request : MappingRequest) {events : List MappingEvent}
      {result : Except PyException Unit}
      (hrun : Async.Runs (Amid allowed mappingHandles) world (request.serve hashFunc services)
        events next result) : Served allowed world next
  | prepare {world next : MigrationWorld} (scopeId : ℕ) {events : List PrepareEvent}
      {result : Except PyException PrepareExecutePlanResult}
      (hrun : Async.Runs (Amid allowed prepareHandles) world
        (prepareExecutePlan hashFunc scopeId) events next result) : Served allowed world next
  | push {world next : MigrationWorld} (planId : ℕ) {events : List PushEvent}
      {result : Except PyException PushResult}
      (hrun : Async.Runs (Amid allowed pushHandles) world
        (pushExecutePlanRules hashFunc planId) events next result) : Served allowed world next
  | edit {world next : MigrationWorld} (hedit : ExternalEdit world next)
      (hallowed : allowed world next) : Served allowed world next

/-- The worlds reached from empty caches. -/
inductive Reached (allowed : MigrationWorld → MigrationWorld → Prop) : MigrationWorld → Prop where
  | start (catalogs : ℕ → String → SdwanFullCatalog) :
      Reached allowed ⟨.empty,.empty,catalogs,none⟩
  | step {world next : MigrationWorld} (hreach : Reached allowed world)
      (hserved : Served hashFunc services allowed world next) : Reached allowed next

end Requests

end NspMigrator.MigrationRequests
