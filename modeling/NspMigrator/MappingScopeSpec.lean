import Mathlib
import NspMigrator.MappingRulesExact
import NspMigrator.MigrationRequests

/-!
# What requests on scopes ask of the repository

Whatever the repository answers, a request stores a scope under an identifier
it drew, adds built results to it once, and otherwise only manual zone results.
Operands point at results that were read or added before, and a result is
saved only as a selection of one that was read.
-/

namespace NspMigrator.MappingScopeSpec

open PyAsync PyDict PyText PyExcept SdwanModels ExecuteRepository MappingEntities
open MappingRepository MappingSchemas MappingObjects MappingUseCases MigrationRequests

/-- A result has an object exactly when it is matched, and then it is known how
the object was chosen. Its candidates are its own. -/
structure ResultOk (result : MappingEntityResult) : Prop where
  /-- An object is selected exactly when it is matched. -/
  selected : result.resultStatus=.matched ↔ result.selectedSdwanEntityId.isSome=true
  /-- Then it is known how. -/
  method : result.resultStatus=.matched ↔ result.selectionMethod.isSome=true
  /-- Its candidates name it. -/
  candidates : ∀ candidate∈result.candidates.getD [],candidate.resultId=result.id

/-- Results of distinct entities, under identifiers of their own. -/
structure BuiltResults (results : List MappingEntityResult) : Prop where
  /-- Every result is consistent in itself. -/
  ok : ∀ result∈results,ResultOk result
  /-- No two have one number. -/
  ids : (results.map (·.id)).Nodup
  /-- No two stand for one entity. -/
  entities : (results.map fun result => (result.entityType,entityOf result)).Nodup

/-- Entities that are read, each of them once. -/
structure EntitiesDistinct (entities : CanonicalScopeEntities) : Prop where
  /-- No two zones have one number. -/
  zones : (entities.zones.map (·.id)).Nodup
  /-- No two address objects have. -/
  addrObjects : (entities.addrObjects.map (·.id)).Nodup
  /-- No two services have. -/
  services : (entities.services.map (·.id)).Nodup

/-- The results of a scope that an operation reads or adds. -/
def Shows : MappingEvent → ℕ → MappingEntityResult → Prop
  | ⟨.getResult scopeId _,.ok found⟩,other,result => scopeId=other ∧ found=some result
  | ⟨.listResults scopeId _ _,.ok results⟩,other,result => scopeId=other ∧ result∈results
  | ⟨.addResults scopeId results,.ok _⟩,other,result => scopeId=other ∧ result∈results
  | _,_,_ => False

/-- A result of a scope that was read or added. -/
def Seen (history : List MappingEvent) (scopeId : ℕ) (result : MappingEntityResult) : Prop :=
  ∃ event∈history,Shows event scopeId result

/-- An operation that stores a scope. -/
def storesScope (event : MappingEvent) : Bool :=
  match event.op with
  | .addScope _ => true
  | _ => false

/-- An operation that adds results. -/
def addsResults (event : MappingEvent) : Bool :=
  match event.op with
  | .addResults _ _ => true
  | _ => false

/-- An identifier was drawn. -/
def Drew (history : List MappingEvent) (id : ℕ) : Prop :=
  (⟨.newIds,.ok id⟩ : MappingEvent)∈history

/-- A scope was stored. -/
def Stored (history : List MappingEvent) (scopeId : ℕ) : Prop :=
  ∃ scope,(⟨.addScope scope,.ok ()⟩ : MappingEvent)∈history ∧ scope.id=scopeId

/-- What a request asks of the repository, for what it has done so far. -/
def ScopeSpec (history : List MappingEvent) : MappingOp → Prop
  | .addScope scope => Drew history scope.id ∧ history.any storesScope=false
  | .addResults scopeId results =>
    (∃ id sdwanZoneId,results=
      [MappingEntityResult.createZoneManuallyAssigned id scopeId sdwanZoneId]) ∨
    (Stored history scopeId ∧ history.any addsResults=false ∧ BuiltResults results)
  | .attachRules scopeId rules => ∀ rule∈rules,∀ operand∈rule.operands.getD [],
    ∃ result,Seen history scopeId result ∧ result.id=operand.mappingEntityResultId
  | .addRuleOperand scopeId operand =>
    ∃ result,Seen history scopeId result ∧ result.id=operand.mappingEntityResultId
  | .saveResult result => ∃ scopeId old method sdwanEntityId,Seen history scopeId old ∧
    result=old.select method sdwanEntityId
  | _ => True

/-- No entity is read twice. -/
def AnswerOk (event : MappingEvent) : Prop :=
  match event with
  | ⟨.getCanonicalScopeEntitiesData _ _,.ok entities⟩ => EntitiesDistinct entities
  | _ => True

/-- A request keeps to the specification. -/
abbrev Keeps {α : Type} (x : Mapping α) (history : List MappingEvent) : Prop :=
  x.Sound (fun _ => AnswerOk) ScopeSpec (fun _ _ => True) history

/-- Operations that write nothing. -/
def Quiet : MappingOp → Prop
  | .addScope _ | .addResults _ _ | .attachRules _ _ | .addRuleOperand _ _ | .saveResult _ => False
  | _ => True

section Histories

variable {history later : List MappingEvent} {scopeId : ℕ} {result : MappingEntityResult}

/-- What was seen stays seen. -/
theorem Seen.mono (h : Seen history scopeId result) : Seen (history++later) scopeId result := by
  obtain ⟨event,he,hshows⟩ := h
  exact ⟨event,List.mem_append_left later he,hshows⟩

theorem seen_getResult (resultId : ℕ) :
    Seen (history++[⟨.getResult scopeId resultId,.ok (some result)⟩]) scopeId result :=
  ⟨_,List.mem_append_right _ (List.mem_singleton_self _),rfl,rfl⟩

theorem seen_listResults {type : Option MappingEntityType} {status : Option MappingResultStatus}
    {results : List MappingEntityResult} (h : result∈results) :
    Seen (history++[⟨.listResults scopeId type status,.ok results⟩]) scopeId result :=
  ⟨_,List.mem_append_right _ (List.mem_singleton_self _),rfl,h⟩

theorem seen_addResults {results : List MappingEntityResult} (h : result∈results) :
    Seen (history++[⟨.addResults scopeId results,.ok ()⟩]) scopeId result :=
  ⟨_,List.mem_append_right _ (List.mem_singleton_self _),rfl,h⟩

/-- Operations that write nothing are always allowed. -/
theorem scopeSpec_of_quiet {op : MappingOp} (h : Quiet op) : ScopeSpec history op := by
  cases op with
  | addScope | addResults | attachRules | addRuleOperand | saveResult => exact h.elim
  | _ => exact trivial

/-- Operations that write nothing neither store a scope nor add results. -/
theorem any_quiet {events : List MappingEvent} (h : ∀ event∈events,Quiet event.op) :
    events.any storesScope=false ∧ events.any addsResults=false := by
  have hop : ∀ op : MappingOp,Quiet op → ∀ answer,storesScope ⟨op,answer⟩=false ∧
      addsResults ⟨op,answer⟩=false := by
    intro op hquiet answer
    cases op with
    | addScope | addResults => exact hquiet.elim
    | _ => exact ⟨rfl,rfl⟩
  constructor
  · rw [List.any_eq_false]
    intro event he
    rw [(hop event.op (h event he) event.answer).1]
    exact Bool.false_ne_true
  · rw [List.any_eq_false]
    intro event he
    rw [(hop event.op (h event he) event.answer).2]
    exact Bool.false_ne_true

/-- After work that writes nothing, the rest follows what was done before. -/
theorem keeps_quiet_bind {α β : Type} {x : Mapping α} {next : α → Mapping β} (hx : x.Only Quiet)
    (hnext : ∀ a quiet,(∀ event∈quiet,Quiet event.op) → Keeps (next a) (history++quiet)) :
    Keeps (x>>=next) history := by
  let I : List MappingEvent → Prop := fun reached =>
    ∃ quiet,reached=history++quiet ∧ ∀ event∈quiet,Quiet event.op
  have hstart : I history := ⟨[],(List.append_nil _).symm,fun _ h => absurd h List.not_mem_nil⟩
  refine Async.sound_bind (hx.sound I (fun _ _ _ hop => scopeSpec_of_quiet hop) ?_ ?_ hstart)
  · rintro reached op answer ⟨quiet,rfl,hquiet⟩ hop
    refine ⟨quiet++[⟨op,answer⟩],List.append_assoc _ _ _,?_⟩
    intro event he
    rcases List.mem_append.mp he with he|he
    · exact hquiet event he
    · rw [List.mem_singleton.mp he]
      exact hop
  · rintro reached outcome ⟨quiet,rfl,hquiet⟩
    cases outcome with
    | error error => exact trivial
    | ok a => exact hnext a quiet hquiet

/-- One operation that writes nothing, and the rest. -/
theorem keeps_read {β : Type} {op : MappingOp} {next : MappingAns op → Mapping β} (hop : Quiet op)
    (hnext : ∀ a,AnswerOk ⟨op,.ok a⟩ → Keeps (next a) (history++[⟨op,.ok a⟩])) :
    Keeps (await op>>=next) history :=
  Async.sound_call_bind (scopeSpec_of_quiet hop) (fun _ _ => trivial) hnext

/-- One write, and the rest. -/
theorem keeps_write {β : Type} {op : MappingOp} {next : MappingAns op → Mapping β}
    (hop : ScopeSpec history op) (hnext : ∀ a,Keeps (next a) (history++[⟨op,.ok a⟩])) :
    Keeps (await op>>=next) history :=
  Async.sound_call_bind hop (fun _ _ => trivial) fun a _ => hnext a

/-- A computation of its own, and the rest. -/
theorem keeps_ofExcept {α β : Type} {x : Except PyException α} {next : α → Mapping β}
    (hnext : ∀ a,x=.ok a → Keeps (next a) history) :
    Keeps (Async.ofExcept x>>=next) history := by
  cases x with
  | error error => exact trivial
  | ok a => exact hnext a rfl

end Histories

/-- Operations that neither read a result nor write anything. -/
def Neutral : MappingOp → Prop
  | .getResult _ _ => False
  | op => Quiet op

/-- Neutral operations that create nothing either. -/
def Idle : MappingOp → Prop
  | .createAddrObject _ | .createService _ => False
  | op => Neutral op

theorem neutral_of_idle (op : MappingOp) (h : Idle op) : Neutral op := by
  cases op with
  | createAddrObject | createService => exact h.elim
  | _ => exact h

theorem quiet_of_neutral (op : MappingOp) (h : Neutral op) : Quiet op := by
  cases op with
  | getResult => exact h.elim
  | _ => exact h

/-- Working with a client adds nothing to what its body does. -/
theorem withGateway_only {ok : MappingOp → Prop} {α : Type} {profileId : ℕ} {vpcId : String}
    {body : Mapping α} (hacquire : ok (.acquire profileId vpcId)) (hrelease : ok .release)
    (h : body.Only ok) : (withGateway profileId vpcId body).Only ok :=
  Async.only_bind (Async.only_call hacquire) fun _ =>
    Async.only_bind (Async.only_attempt h) fun _ =>
      Async.only_bind (Async.only_call hrelease) fun _ => trivial

/-- Working with a client writes nothing unless its body does. -/
theorem withGateway_quiet {α : Type} {profileId : ℕ} {vpcId : String} {body : Mapping α}
    (h : body.Only Quiet) : (withGateway profileId vpcId body).Only Quiet :=
  withGateway_only trivial trivial h

section Answers

/-- What is read for a selection of rules names no entity twice. -/
theorem entitiesDistinct_of_read {snapshots : CanonicalReader.SnapshotStore} {snapshotId : ℕ}
    {ruleIds : List ℕ} {entities : CanonicalScopeEntities}
    (h : CanonicalReader.getCanonicalScopeEntitiesData snapshots snapshotId ruleIds=.ok entities) :
    EntitiesDistinct entities := by
  unfold CanonicalReader.getCanonicalScopeEntitiesData at h
  by_cases hne : ruleIds=[]
  · rw [if_pos hne] at h
    cases h
  rw [if_neg hne] at h
  obtain ⟨found,hfound,h⟩ := bind_eq_ok.mp h
  by_cases hrules : found.rules=[]
  · rw [if_pos hrules] at h
    cases h
  rw [if_neg hrules] at h
  by_cases hlength : found.rules.length≠ruleIds.length
  · rw [if_pos hlength] at h
    cases h
  rw [if_neg hlength] at h
  obtain ⟨objects,hobjects,hentities⟩ := bind_eq_ok.mp h
  unfold CanonicalReader.getCanonicalRuleScope at hfound
  split at hfound
  · cases hfound
  next snapshot hsnapshot =>
  cases hfound
  cases hentities
  have hnarrow : decide (ruleIds≠[])=true := decide_eq_true hne
  simp only [CanonicalScope.CanonicalSnapshot.getCanonicalRuleScope,hnarrow] at hobjects ⊢
  obtain ⟨others,hothers,haddrs,hservices⟩ := MappingRulesExact.mapM_mapCanonicalObj
    fun dto hdto => (MappingRulesExact.mem_collectObjects hdto).1
  rw [hobjects] at hothers
  cases hothers
  refine ⟨?_,(MappingRulesExact.depicts haddrs).nodup,(MappingRulesExact.depicts hservices).nodup⟩
  rw [List.map_map,CanonicalScope.CanonicalSnapshot.collectZones,if_pos rfl]
  exact snapshot.zones_nodup.sublist (List.filter_sublist.map _)

/-- A result is built with an object exactly when one candidate was found. -/
theorem resultOk_buildResult (id scopeId entity : ℕ) (entityType : MappingEntityType)
    (candidates : List MappingEntityCandidatePayload) :
    ResultOk (buildResult id scopeId entityType entity candidates) := by
  rcases candidates with _|⟨first,_|⟨second,rest⟩⟩
  case nil =>
    have hstatus : (buildResult id scopeId entityType entity []).resultStatus≠.matched :=
      fun h => MappingResultStatus.noConfusion h
    exact ⟨iff_of_false hstatus Bool.false_ne_true,iff_of_false hstatus Bool.false_ne_true,
      fun _ h => absurd h List.not_mem_nil⟩
  case cons.nil =>
    refine ⟨iff_of_true rfl rfl,iff_of_true rfl rfl,fun candidate h => ?_⟩
    rw [List.mem_singleton.mp h]
    rfl
  case cons.cons =>
    have hstatus : (buildResult id scopeId entityType entity
        (first::second::rest)).resultStatus≠.matched := fun h => MappingResultStatus.noConfusion h
    refine ⟨iff_of_false hstatus Bool.false_ne_true,iff_of_false hstatus Bool.false_ne_true,
      fun candidate h => ?_⟩
    obtain ⟨i,hi,rfl⟩ := List.mem_mapIdx.mp h
    rfl

/-- Results are built for distinct entities, under identifiers of their own. -/
theorem builtResults_of_buildResults [PyUnicode] {firstId scopeId : ℕ}
    {entities : CanonicalScopeEntities} {catalog : SdwanFullCatalog}
    {results : List MappingEntityResult} (hentities : EntitiesDistinct entities)
    (h : buildResults firstId scopeId entities catalog=.ok results) : BuiltResults results := by
  obtain ⟨built,hbuilt,hcover⟩ := buildResults_spec firstId scopeId catalog hentities.zones
    hentities.addrObjects hentities.services
  rw [h] at hbuilt
  cases hbuilt
  refine ⟨fun result hr => ?_,hcover.ids_nodup,hcover.entities_nodup⟩
  obtain ⟨addrIndex,-,hnumbered⟩ := bind_eq_ok.mp h
  rw [←pure_eq_ok.mp hnumbered] at hr
  obtain ⟨one,-,id,rfl⟩ := mem_numberResults hr
  exact resultOk_buildResult id scopeId one.canonicalEntityId one.entityType one.candidates

/-- The index holds the results it was made of. -/
theorem mem_of_mappingResultsIndex {results : List MappingEntityResult}
    {start byKey : Dict MappingRules.MappingResultLookupKey MappingEntityResult}
    (h : results.foldlM MappingRules.indexResult start=.ok byKey)
    {key : MappingRules.MappingResultLookupKey} {result : MappingEntityResult}
    (hget : byKey.get? key=some result) : start.get? key=some result ∨ result∈results := by
  induction results generalizing start with
  | nil =>
    cases h
    exact Or.inl hget
  | cons first rest ih =>
    rw [List.foldlM_cons] at h
    obtain ⟨next,hnext,hrest⟩ := bind_eq_ok.mp h
    rcases ih hrest with hstart|hin
    · unfold MappingRules.indexResult at hnext
      split at hnext
      · cases hnext
        rw [Dict.get?_insert] at hstart
        split at hstart
        · cases hstart
          exact Or.inr List.mem_cons_self
        · exact Or.inl hstart
      · split at hnext
        · cases hnext
          exact Or.inl hstart
        · cases hnext
    · exact Or.inr (List.mem_cons_of_mem first hin)

/-- The operands of rules point at the results they were built with. -/
theorem operands_of_createRules {indexes : MappingRules.RuleIndexes}
    {results : List MappingEntityResult}
    (hindex : ∀ key result,indexes.results.get? key=some result → result∈results)
    {scopeId firstId : ℕ} {rules : List CanonicalRule} {created : List MappingScopeRule}
    (h : MappingRules.createRules indexes scopeId firstId rules=.ok created) :
    ∀ rule∈created,∀ operand∈rule.operands.getD [],
      ∃ result∈results,result.id=operand.mappingEntityResultId := by
  induction rules generalizing firstId created with
  | nil =>
    cases h
    exact fun _ hr => absurd hr List.not_mem_nil
  | cons rule rest ih =>
    obtain ⟨payloads,hpayloads,hcreated⟩ := bind_eq_ok.mp h
    obtain ⟨others,hothers,hlist⟩ := bind_eq_ok.mp hcreated
    cases pure_eq_ok.mp hlist
    intro made hm operand ho
    rcases List.mem_cons.mp hm with rfl|hm
    · obtain ⟨i,hi,rfl⟩ := List.mem_mapIdx.mp ho
      obtain ⟨groups,hgroups,hflat⟩ := bind_eq_ok.mp hpayloads
      have hin : payloads[i]∈groups.flatten := by
        rw [pure_eq_ok.mp hflat]
        exact List.getElem_mem hi
      obtain ⟨group,hgroup,hpayload⟩ := List.mem_flatten.mp hin
      obtain ⟨source,-,hsource⟩ := exists_of_mem_mapM hgroups hgroup
      obtain ⟨ids,-,hgroupOf⟩ := bind_eq_ok.mp hsource
      obtain ⟨entity,-,hone⟩ := exists_of_mem_mapM hgroupOf hpayload
      obtain ⟨result,hget,heq⟩ := MappingRules.operandPayload_eq_ok.mp hone
      exact ⟨result,hindex _ _ hget,by rw [heq]⟩
    · exact ih hothers made hm operand ho

/-- The operands of built rules point at the results of the scope. -/
theorem operands_of_build {firstId scopeId : ℕ} {rules : List CanonicalRule}
    {entities : CanonicalScopeEntities} {results : List MappingEntityResult}
    {created : List MappingScopeRule}
    (h : MappingRules.build firstId scopeId rules entities results=.ok created) :
    ∀ rule∈created,∀ operand∈rule.operands.getD [],
      ∃ result∈results,result.id=operand.mappingEntityResultId := by
  obtain ⟨byKey,hindex,h⟩ := bind_eq_ok.mp h
  obtain ⟨addrs,-,h⟩ := bind_eq_ok.mp h
  obtain ⟨services,-,hcreate⟩ := bind_eq_ok.mp h
  refine operands_of_createRules (fun key result hget => ?_) hcreate
  rcases mem_of_mappingResultsIndex hindex hget with hempty|hin
  · rw [Dict.get?_empty] at hempty
    cases hempty
  · exact hin

end Answers

section Requests

variable {history : List MappingEvent}

theorem selectEntityCandidate_keeps (scopeId resultId candidateId : ℕ) :
    Keeps (selectEntityCandidate scopeId resultId candidateId) history := by
  refine keeps_read trivial fun found _ => ?_
  cases found with
  | none => exact trivial
  | some result =>
    dsimp only
    split
    · exact trivial
    · exact trivial
    · split
      · exact trivial
      next candidate hcandidate =>
      refine keeps_ofExcept fun updated hupdated => ?_
      refine keeps_write ?_ fun _ => trivial
      unfold MappingEntityResult.selectCandidate at hupdated
      split at hupdated
      · cases hupdated
      · cases hupdated
        exact ⟨scopeId,result,_,_,seen_getResult resultId,rfl⟩

/-- Looking up an object writes nothing. -/
theorem findSdwanEntity_quiet (entityType : MappingEntityType) (sdwanEntityId : ℤ) :
    (findSdwanEntity entityType sdwanEntityId).Only Quiet := by
  cases entityType with
  | zone | addr | service =>
    exact Async.only_bind (Async.only_call trivial) fun _ => trivial

theorem selectSdwanEntityDirectly_keeps (scopeId resultId : ℕ) (sdwanEntityId : ℤ) :
    Keeps (selectSdwanEntityDirectly scopeId resultId sdwanEntityId) history := by
  refine keeps_read trivial fun found _ => ?_
  cases found with
  | none => exact trivial
  | some result =>
    refine keeps_read trivial fun scope _ => ?_
    cases scope with
    | none => exact trivial
    | some scope =>
      refine keeps_quiet_bind (withGateway_quiet (findSdwanEntity_quiet _ _))
        fun entity quiet _ => ?_
      cases entity with
      | none => exact trivial
      | some entityId =>
        refine keeps_write ?_ fun _ => trivial
        exact ⟨scopeId,result,_,_,(seen_getResult resultId).mono.mono,rfl⟩

/-- The existing result of a zone is one of those that were found. -/
theorem mem_of_existingMappingResult {matching : List MappingEntityResult}
    {result : MappingEntityResult} (h : manualResult matching=some result) : result∈matching :=
  List.mem_of_find?_eq_some h

/-- Every operand that is added points at the same result. -/
theorem addZoneOperands_keeps {scopeId mappingResultId : ℕ} (rules : List MappingScopeRule)
    (role : MappingScopeRuleOperandRole) {β : Type}
    {next : List MappingScopeRuleOperand → Mapping β}
    (hseen : ∃ result,Seen history scopeId result ∧ result.id=mappingResultId)
    (hnext : ∀ operands later,Keeps (next operands) later) :
    Keeps (addZoneOperands scopeId rules role mappingResultId>>=next) history := by
  let I : List MappingScopeRule → List MappingScopeRuleOperand → List MappingEvent → Prop :=
    fun _ _ reached => ∃ result,Seen reached scopeId result ∧ result.id=mappingResultId
  refine Async.sound_bind (Async.sound_foldlM I ?_ (fun operands later _ => hnext operands later)
    hseen)
  intro earlier rule later acc reached _ hreached
  obtain ⟨result,hresult,hid⟩ := hreached
  refine Async.sound_call_bind (scopeSpec_of_quiet trivial) (fun _ _ => trivial) fun id _ => ?_
  refine Async.sound_call_bind ⟨result,hresult.mono,hid⟩ (fun _ _ => trivial) fun _ _ => ?_
  exact ⟨result,hresult.mono.mono,hid⟩

theorem assignZoneForScope_keeps (zoneDirection : ZoneDirection) (zoneSdwanId : ℤ)
    (scopeId : ℕ) : Keeps (assignZoneForScope zoneDirection zoneSdwanId scopeId) history := by
  refine keeps_read trivial fun scope _ => ?_
  cases scope with
  | none => exact trivial
  | some scope =>
    dsimp only
    split
    · exact trivial
    refine keeps_quiet_bind (withGateway_quiet (Async.only_call trivial)) fun zone quiet _ => ?_
    cases zone with
    | none => exact trivial
    | some zone =>
      refine Async.sound_bind (Async.sound_call_bind (scopeSpec_of_quiet trivial)
        (fun _ _ => trivial) fun results _ => ?_)
      -- the results that select the zone were read just now
      refine Async.sound_pure ?_
      dsimp only
      split
      · exact keeps_ofExcept fun result _ => trivial
      · unfold getOrCreateManualZoneResult
        split
        next manual hmanual =>
          refine addZoneOperands_keeps _ _ ⟨manual,seen_listResults ?_,rfl⟩ fun _ _ => trivial
          exact (List.mem_filter.mp (mem_of_existingMappingResult hmanual)).1
        next =>
          refine Async.sound_bind (Async.sound_call_bind (scopeSpec_of_quiet trivial)
            (fun _ _ => trivial) fun id _ => ?_)
          refine Async.sound_call_bind (Or.inl ⟨id,zone.id,rfl⟩) (fun _ _ => trivial)
            fun _ _ => Async.sound_pure ?_
          exact addZoneOperands_keeps _ _ ⟨_,seen_addResults (List.mem_singleton_self _),rfl⟩
            fun _ _ => trivial

/-- Refreshing a fingerprint writes neither results nor rules. -/
theorem refreshMappingScopeCatalogFingerprint_idle [PyUnicode] (hashFunc : String → String)
    (scopeId : ℕ) : (refreshMappingScopeCatalogFingerprint hashFunc scopeId).Only Idle := by
  refine Async.only_bind (Async.only_call trivial) fun scope => ?_
  cases scope with
  | none => exact trivial
  | some scope =>
    refine Async.only_bind (withGateway_only trivial trivial (Async.only_call trivial))
      fun catalog => ?_
    split
    · exact trivial
    · exact Async.only_bind (Async.only_call trivial) fun _ => trivial

theorem refreshMappingScopeCatalogFingerprint_quiet [PyUnicode] (hashFunc : String → String)
    (scopeId : ℕ) : (refreshMappingScopeCatalogFingerprint hashFunc scopeId).Only Quiet :=
  (refreshMappingScopeCatalogFingerprint_idle hashFunc scopeId).mono fun op h =>
    quiet_of_neutral op (neutral_of_idle op h)

/-- A computation of its own awaits nothing. -/
theorem ofExcept_neutral {α : Type} (x : Except PyException α) :
    (Async.ofExcept x : Mapping α).Only Neutral := trivial

/-- Creating an address object writes no scope. -/
theorem createForAddr_neutral (scope : MappingScope) (result : MappingEntityResult) :
    (createForAddr scope result).Only Neutral := by
  refine Async.only_bind (ofExcept_neutral _) fun objectId => ?_
  refine Async.only_bind (Async.only_call trivial) fun object => ?_
  cases object with
  | none => exact trivial
  | some object =>
    dsimp only
    split
    · exact trivial
    · refine withGateway_only trivial trivial
        (Async.only_bind (ofExcept_neutral _) fun payload => ?_)
      exact Async.only_bind (Async.only_call trivial) fun _ => trivial

/-- Creating a service writes no scope. -/
theorem createForService_neutral (scope : MappingScope) (result : MappingEntityResult) :
    (createForService scope result).Only Neutral := by
  refine Async.only_bind (ofExcept_neutral _) fun objectId => ?_
  refine Async.only_bind (Async.only_call trivial) fun service => ?_
  cases service with
  | none => exact trivial
  | some service =>
    dsimp only
    split
    · exact trivial
    · refine withGateway_only trivial trivial
        (Async.only_bind (ofExcept_neutral _) fun payload => ?_)
      exact Async.only_bind (Async.only_call trivial) fun _ => trivial

theorem selectEntityWithCreateOnSdwan_keeps [PyUnicode] (hashFunc : String → String)
    (scopeId resultId : ℕ) (refresh : Bool) :
    Keeps (selectEntityWithCreateOnSdwan hashFunc scopeId resultId refresh) history := by
  refine keeps_read trivial fun found _ => ?_
  cases found with
  | none => exact trivial
  | some result =>
    dsimp only
    split
    · exact trivial
    refine keeps_read trivial fun scope _ => ?_
    cases scope with
    | none => exact trivial
    | some scope =>
      have hselect : ∀ {create : Mapping ℤ},create.Only Quiet →
          Keeps (create>>=fun createdId => do
            let _ ← await (.saveResult (result.selectCreated createdId))
            if refresh=true then
              let refreshed ← refreshMappingScopeCatalogFingerprint hashFunc scope.id
              return (result.selectCreated createdId,refreshed.2)
            else return (result.selectCreated createdId,false))
            (history++[⟨.getResult scopeId resultId,.ok (some result)⟩]++
              [⟨.getScopeById scopeId,.ok (some scope)⟩]) := by
        intro create hcreate
        refine keeps_quiet_bind hcreate fun createdId quiet _ => ?_
        refine keeps_write ?_ fun _ => ?_
        · exact ⟨scopeId,result,_,_,(seen_getResult resultId).mono.mono,rfl⟩
        · split
          · exact keeps_quiet_bind
              (refreshMappingScopeCatalogFingerprint_quiet hashFunc scope.id) fun _ _ _ => trivial
          · exact trivial
      dsimp only
      split
      · exact hselect ((createForAddr_neutral scope result).mono quiet_of_neutral)
      · exact hselect ((createForService_neutral scope result).mono quiet_of_neutral)

theorem autoSelectEntitiesWithCreate_keeps [PyUnicode] (hashFunc : String → String)
    (scopeId : ℕ) : Keeps (autoSelectEntitiesWithCreate hashFunc scopeId) history := by
  refine keeps_read trivial fun scope _ => ?_
  cases scope with
  | none => exact trivial
  | some scope =>
    refine keeps_read trivial fun unresolved _ => ?_
    refine Async.sound_bind (Async.sound_foldlM (fun _ _ _ => True) ?_ (fun done later _ => ?_)
      trivial)
    · intro earlier result later acc reached _ _
      have hone : Keeps (selectEntityWithCreateOnSdwan hashFunc scope.id result.id false)
          reached :=
        selectEntityWithCreateOnSdwan_keeps hashFunc scope.id result.id false
      refine Async.sound_bind (Async.sound_attempt (hone.mono fun history outcome _ => ?_))
      cases outcome with
      | ok selected => exact trivial
      | error error => exact trivial
    · dsimp only
      split
      · exact keeps_quiet_bind (refreshMappingScopeCatalogFingerprint_quiet hashFunc scope.id)
          fun _ _ _ => trivial
      · exact trivial

/-- Checking a target writes nothing. -/
theorem readTargetCatalog_quiet (command : MapCanonicalToSdwanCommand) :
    (readTargetCatalog command).Only Quiet := by
  refine Async.only_bind (Async.only_call trivial) fun target => ?_
  cases target with
  | none => exact trivial
  | some target =>
    dsimp only
    split
    · exact trivial
    split
    · exact trivial
    split
    · exact trivial
    · exact Async.only_call trivial

theorem mapCanonicalToSdwan_keeps [PyUnicode] (hashFunc : String → String)
    (command : MapCanonicalToSdwanCommand) :
    Keeps (mapCanonicalToSdwan hashFunc mappingServices command) [] := by
  refine keeps_quiet_bind (withGateway_quiet (readTargetCatalog_quiet command))
    fun catalog quiet hquiet => ?_
  have hnone := any_quiet hquiet
  refine keeps_read trivial fun scopeId _ => ?_
  refine keeps_read trivial fun entities hentities => ?_
  refine keeps_read trivial fun canonicalRules _ => ?_
  refine keeps_read trivial fun firstResult _ => ?_
  refine keeps_ofExcept fun results hresults => ?_
  refine keeps_read trivial fun firstRule _ => ?_
  refine keeps_ofExcept fun rules hrules => ?_
  have hbuilt := builtResults_of_buildResults hentities hresults
  refine keeps_write ⟨by simp [Drew],by simp [hnone.1,storesScope]⟩ fun _ => ?_
  refine keeps_write (Or.inr ⟨⟨_,List.mem_append_right _ (List.mem_singleton_self _),rfl⟩,
    by simp [hnone.2,addsResults],hbuilt⟩) fun _ => ?_
  refine keeps_write ?_ fun _ => trivial
  intro rule hrule operand hoperand
  obtain ⟨result,hresult,hid⟩ := operands_of_build hrules rule hrule operand hoperand
  exact ⟨result,seen_addResults hresult,hid⟩

/-- Every request keeps to the specification. -/
theorem serve_keeps [PyUnicode] (hashFunc : String → String) (request : MappingRequest) :
    Keeps (request.serve hashFunc mappingServices) [] := by
  have hunit : ∀ {α : Type} {x : Mapping α},Keeps x [] →
      Keeps (x>>=fun _ => (pure () : Mapping Unit)) [] := by
    intro α x hx
    refine Async.sound_bind (hx.mono fun history outcome _ => ?_)
    cases outcome with
    | ok a => exact trivial
    | error error => exact trivial
  cases request with
  | mapCanonicalToSdwan command => exact hunit (mapCanonicalToSdwan_keeps hashFunc command)
  | selectEntityCandidate scopeId resultId candidateId =>
    exact hunit (selectEntityCandidate_keeps scopeId resultId candidateId)
  | selectSdwanEntityDirectly scopeId resultId sdwanEntityId =>
    exact hunit (selectSdwanEntityDirectly_keeps scopeId resultId sdwanEntityId)
  | assignZoneForScope zoneDirection zoneSdwanId scopeId =>
    exact hunit (assignZoneForScope_keeps zoneDirection zoneSdwanId scopeId)
  | selectEntityWithCreateOnSdwan scopeId resultId =>
    exact hunit (selectEntityWithCreateOnSdwan_keeps hashFunc scopeId resultId true)
  | autoSelectEntitiesWithCreate scopeId =>
    exact hunit (autoSelectEntitiesWithCreate_keeps hashFunc scopeId)
  | refreshMappingScopeCatalogFingerprint scopeId =>
    exact keeps_quiet_bind (refreshMappingScopeCatalogFingerprint_quiet hashFunc scopeId)
      fun _ _ _ => trivial

end Requests

end NspMigrator.MappingScopeSpec
