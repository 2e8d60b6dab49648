import Mathlib
import NspMigrator.CanonicalReader
import NspMigrator.MappingSelections

/-!
# The objects of an automatic run

An automatic run asks for one object for every result it listed, made like the
canonical object of that result. Values are compared nowhere: results whose
canonical objects denote one value get an object each.
-/

namespace NspMigrator.MappingAutoCreate

open PyAsync PyDict PyText Ipv4 Ipv4Text SdwanModels ExecuteRepository MappingSchemas
open MappingEntities MappingRepository MappingCatalogIndexes MappingUseCases MigrationRequests
open MappingScopeSpec MappingScopeInvariant MappingSelectionSpec MappingSelections CanonicalReader

/-- A request for a new object. -/
inductive CreateRequest where
  | addr (payload : CreateAddrObjectPayload)
  | service (payload : CreateServicePayload)

/-- The object an operation asks for. -/
def createRequest : MappingEvent → Option CreateRequest
  | ⟨.createAddrObject payload,_⟩ => some (.addr payload)
  | ⟨.createService payload,_⟩ => some (.service payload)
  | _ => none

/-- The objects a history asks for, in order. -/
def creations (history : List MappingEvent) : List CreateRequest :=
  history.filterMap createRequest

/-- The value of an object that was asked for. -/
inductive CreatedValue where
  | host (host : Option Ipv4Address)
  | prefixNet (net : Option Ipv4Network)
  | fqdn (fqdn : Option String)
  | range (start stop : Option Ipv4Address)
  | service (l4Proto : SdwanServiceL4Proto) (portStart portEnd : ℕ)
  deriving DecidableEq

/-- The value of a request, as the mapping finds values in a catalog. -/
def CreateRequest.value [PyUnicode] : CreateRequest → CreatedValue
  | .addr payload =>
    match payload.type with
    | .host => .host (payload.host.bind parseAddress)
    | .prefixNet => .prefixNet (payload.prefixNet.bind parseNetwork)
    | .fqdn => .fqdn (payload.fqdn.map normalizeFqdn)
    | .ipRange => .range (payload.ipRangeFrom.bind parseAddress)
        (payload.ipRangeTo.bind parseAddress)
  | .service payload => .service payload.l4Proto payload.portStart payload.portEnd

/-- What is asked for a result: an object like its canonical one, if it is of a kind
that is created. -/
def requestFor (snapshots : SnapshotStore) (snapshotId : ℕ) (result : MappingEntityResult) :
    Option CreateRequest := do
  let objectId ← result.canonicalEntityId.toOption
  match result.entityType with
  | .zone => none
  | .addr =>
    let object ← (getCanonicalAddrObject snapshots snapshotId objectId).toOption
    let type ← addrObjectTypeMap object.kind
    let payload ← (createAddrObjectPayload type object).toOption
    return .addr payload
  | .service =>
    let service ← (getCanonicalService snapshots snapshotId objectId).toOption
    let payload ← (createServicePayload service).toOption
    return .service payload

/-- Canonical objects are read one by one as the snapshots have them. -/
def ReadsObject (snapshots : SnapshotStore) (event : MappingEvent) : Prop :=
  match event with
  | ⟨.getCanonicalAddrObject snapshotId objectId,answer⟩ =>
    answer=some <$> getCanonicalAddrObject snapshots snapshotId objectId
  | ⟨.getCanonicalService snapshotId objectId,answer⟩ =>
    answer=some <$> getCanonicalService snapshots snapshotId objectId
  | _ => True

/-- What the operations do to the scopes, with canonical objects as they are stored. -/
def objectHandles (snapshots : SnapshotStore) (world : ScopeWorld) (op : MappingOp)
    (answer : Except PyException (MappingAns op)) (next : ScopeWorld) : Prop :=
  scopeHandles world op answer next ∧ ReadsObject snapshots ⟨op,answer⟩

/-- What an automatic run is answered: its scope, the results without an object, and
each of them as it was listed until it is worked on. -/
def AutoAnswer (snapshots : SnapshotStore) (snapshotId scopeId : ℕ)
    (listed : List MappingEntityResult) (history : List MappingEvent) (event : MappingEvent) :
    Prop :=
  ReadsObject snapshots event ∧
  (∀ scope,event=⟨.getScopeById scopeId,.ok (some scope)⟩ →
    scope.id=scopeId ∧ scope.canonicalSnapshotId=snapshotId) ∧
  (∀ results,event=⟨.listResults scopeId none (some .unresolved),.ok results⟩ →
    (∀ resultId,¬ResultRead history resultId) → results=listed) ∧
  ∀ copy,∀ result∈listed,event=⟨.getResult scopeId result.id,.ok (some copy)⟩ →
    ¬ResultRead history result.id → copy=result

/-- What an automatic run asks of the repository: it saves no result it has not read. -/
def AutoSpec (history : List MappingEvent) : MappingOp → Prop
  | .saveResult result => ResultRead history result.id
  | .addScope _ | .addResults _ _ | .attachRules _ _ | .addRuleOperand _ _ => False
  | _ => True

/-- An automatic run keeps to its specification. -/
abbrev AutoKeeps {α : Type} (snapshots : SnapshotStore) (snapshotId scopeId : ℕ)
    (listed : List MappingEntityResult) (x : Mapping α) (history : List MappingEvent)
    (Q : List MappingEvent → Except PyException α → Prop) : Prop :=
  x.Sound (AutoAnswer snapshots snapshotId scopeId listed) AutoSpec Q history

/-- A history was continued by reading one result, and by work on it that asked for
some objects. -/
def Turn (resultId : ℕ) (made : List CreateRequest) (history later : List MappingEvent) : Prop :=
  ∃ events,later=history++events ∧ (∀ otherId,ResultRead events otherId ↔ otherId=resultId) ∧
    creations events=made

/-- A turn asked for nothing, or for the object of its result; once it is done it has
asked for it. -/
def Asked (snapshots : SnapshotStore) (snapshotId : ℕ) (result : MappingEntityResult)
    (history later : List MappingEvent) (done : Prop) : Prop :=
  ∃ made,Turn result.id made history later ∧
    made.Sublist (requestFor snapshots snapshotId result).toList ∧
    (done → made=(requestFor snapshots snapshotId result).toList)

section Turns

variable {history later : List MappingEvent} {event : MappingEvent} {resultId scopeId : ℕ}
  {made : List CreateRequest}

theorem creations_append (history later : List MappingEvent) :
    creations (history++later)=creations history++creations later :=
  List.filterMap_append

/-- An operation that asks for nothing. -/
theorem creations_snoc (h : createRequest event=none) :
    creations (history++[event])=creations history := by
  rw [creations_append,creations,creations,List.filterMap_cons_none h,List.filterMap_nil,
    List.append_nil]

theorem resultRead_append {otherId : ℕ} :
    ResultRead (history++later) otherId ↔
      ResultRead history otherId ∨ ResultRead later otherId := by
  constructor
  · rintro ⟨event,he,hread⟩
    exact (List.mem_append.mp he).imp (fun he => ⟨event,he,hread⟩) fun he => ⟨event,he,hread⟩
  · rintro (⟨event,he,hread⟩|⟨event,he,hread⟩)
    · exact ⟨event,List.mem_append_left later he,hread⟩
    · exact ⟨event,List.mem_append_right history he,hread⟩

/-- One operation reads at most the result it names. -/
theorem resultRead_singleton {otherId : ℕ} :
    ResultRead [event] otherId ↔ ∃ scopeId,event.op=.getResult scopeId otherId := by
  constructor
  · rintro ⟨other,he,hread⟩
    rwa [List.mem_singleton.mp he] at hread
  · exact fun h => ⟨event,List.mem_singleton_self event,h⟩

/-- Reading the result begins its turn. -/
theorem turn_read (answer : Except PyException (Option MappingEntityResult)) :
    Turn resultId [] history (history++[⟨.getResult scopeId resultId,answer⟩]) := by
  refine ⟨_,rfl,fun otherId => ?_,rfl⟩
  rw [resultRead_singleton]
  constructor
  · rintro ⟨otherScope,he⟩
    cases he
    rfl
  · rintro rfl
    exact ⟨scopeId,rfl⟩

/-- Work that reads no result goes on with the turn. -/
theorem Turn.snoc (h : Turn resultId made history later) {asked : List CreateRequest}
    (hasked : creations [event]=asked)
    (hread : ∀ scopeId otherId,event.op≠.getResult scopeId otherId) :
    Turn resultId (made++asked) history (later++[event]) := by
  obtain ⟨events,rfl,honly,rfl⟩ := h
  refine ⟨events++[event],List.append_assoc _ _ _,fun otherId => ?_,?_⟩
  · have hnot : ¬ResultRead [event] otherId := by
      rw [resultRead_singleton]
      exact fun ⟨otherScope,he⟩ => hread otherScope otherId he
    rw [resultRead_append,honly]
    exact or_iff_left hnot
  · rw [creations_append,hasked]

/-- An operation that neither reads a result nor asks for an object. -/
theorem Turn.quiet (h : Turn resultId made history later) (hasked : createRequest event=none)
    (hread : ∀ scopeId otherId,event.op≠.getResult scopeId otherId) :
    Turn resultId made history (later++[event]) := by
  have hsnoc := h.snoc (List.filterMap_cons_none hasked) hread
  rwa [List.filterMap_nil,List.append_nil] at hsnoc

/-- The turn has read its result. -/
theorem Turn.resultRead (h : Turn resultId made history later) : ResultRead later resultId := by
  obtain ⟨events,rfl,honly,-⟩ := h
  exact resultRead_append.mpr (Or.inr ((honly resultId).mpr rfl))

end Turns

section Creation

variable {snapshots : SnapshotStore} {snapshotId scopeId resultId : ℕ}
  {listed : List MappingEntityResult} {history later : List MappingEvent}
  {result : MappingEntityResult} {event : MappingEvent} {done : Prop}

theorem asked_of_turn (h : Turn result.id [] history later) (hdone : ¬done) :
    Asked snapshots snapshotId result history later done :=
  ⟨[],h,List.nil_sublist _,fun hd => absurd hd hdone⟩

/-- A turn goes on without asking for more, and may end later than it asked. -/
theorem Asked.quiet {last : Prop} (h : Asked snapshots snapshotId result history later done)
    (hlast : last → done) (hasked : createRequest event=none)
    (hread : ∀ scopeId otherId,event.op≠.getResult scopeId otherId) :
    Asked snapshots snapshotId result history (later++[event]) last := by
  obtain ⟨made,hturn,hmade,hdone⟩ := h
  exact ⟨made,hturn.quiet hasked hread,hmade,fun hl => hdone (hlast hl)⟩

theorem Asked.resultRead (h : Asked snapshots snapshotId result history later done) :
    ResultRead later result.id := by
  obtain ⟨made,hturn,-⟩ := h
  exact hturn.resultRead

/-- An error is no value. -/
theorem not_ok_of_error {α : Type} (e : PyException) :
    ¬∃ a,(.error e : Except PyException α)=.ok a :=
  fun ⟨_,h⟩ => by cases h

/-- Work with a client that asks for one object. -/
theorem withGateway_sound {β : Type} {payload : Except PyException β} {ask : β → MappingOp}
    {request : β → CreateRequest} {finish : (b : β) → MappingAns (ask b) → ℤ} {profileId : ℕ}
    {vpcId : String} (hturn : Turn result.id [] history later)
    (hspec : ∀ b reached,AutoSpec reached (ask b))
    (hask : ∀ b answer,createRequest ⟨ask b,answer⟩=some (request b))
    (hread : ∀ b otherScope otherId,ask b≠.getResult otherScope otherId)
    (hrequest : ∀ b,payload=.ok b → requestFor snapshots snapshotId result=some (request b)) :
    AutoKeeps snapshots snapshotId scopeId listed (withGateway profileId vpcId
      (Async.ofExcept payload>>=fun b => await (ask b)>>=fun created => pure (finish b created)))
      later fun reached outcome =>
        Asked snapshots snapshotId result history reached (∃ a,outcome=.ok a) := by
  have hacquired : ∀ answer,Turn result.id [] history
      (later++[⟨.acquire profileId vpcId,answer⟩]) :=
    fun answer => hturn.quiet rfl fun _ _ h => by cases h
  have hreleased : ∀ {reached : List MappingEvent} {outcome : Except PyException ℤ},
      Asked snapshots snapshotId result history reached (∃ a,outcome=.ok a) →
        AutoSpec reached .release ∧
        (∀ e : PyException,Asked snapshots snapshotId result history
          (reached++[⟨.release,.error e⟩]) (∃ a,(.error e : Except PyException ℤ)=.ok a)) ∧
        ∀ closed : Unit,Asked snapshots snapshotId result history
          (reached++[⟨.release,.ok closed⟩]) (∃ a,outcome=.ok a) := by
    intro reached outcome h
    refine ⟨trivial,fun e => ?_,fun closed => ?_⟩
    · exact h.quiet (fun he => absurd he (not_ok_of_error e)) rfl fun _ _ h => by cases h
    · exact h.quiet id rfl fun _ _ h => by cases h
  refine Async.sound_within trivial (fun e => asked_of_turn (hacquired (.error e))
    (not_ok_of_error e)) fun opened => ?_
  cases payload with
  | error error => exact hreleased (asked_of_turn (hacquired (.ok opened)) (not_ok_of_error error))
  | ok b =>
    have hmade : ∀ answer (done : Prop),Asked snapshots snapshotId result history
        (later++[⟨.acquire profileId vpcId,.ok opened⟩]++[⟨ask b,answer⟩]) done := by
      intro answer done
      have hcreated : creations [⟨ask b,answer⟩]=[request b] := by
        rw [creations,List.filterMap_cons_some (hask b answer),List.filterMap_nil]
      have hown : (requestFor snapshots snapshotId result).toList=[request b] := by
        rw [hrequest b rfl]
        rfl
      refine ⟨[request b],(hacquired (.ok opened)).snoc hcreated (hread b),?_,fun _ => hown.symm⟩
      rw [hown]
    exact Async.sound_call_bind (hspec b _) (fun e _ => hreleased (hmade (.error e) _))
      fun created _ => hreleased (hmade (.ok created) _)

/-- The object of an address result is made like its canonical object. -/
theorem createForAddr_sound {scope : MappingScope} (hscope : scope.canonicalSnapshotId=snapshotId)
    (htype : result.entityType=.addr) (hturn : Turn result.id [] history later) :
    AutoKeeps snapshots snapshotId scopeId listed (createForAddr scope result) later
      fun reached outcome => Asked snapshots snapshotId result history reached
        (∃ a,outcome=.ok a) := by
  unfold createForAddr
  cases hobjectId : result.canonicalEntityId with
  | error error => exact asked_of_turn hturn (not_ok_of_error error)
  | ok objectId =>
    have hnext : ∀ answer,Turn result.id [] history
        (later++[⟨.getCanonicalAddrObject scope.canonicalSnapshotId objectId,answer⟩]) :=
      fun answer => hturn.quiet rfl fun _ _ h => by cases h
    refine Async.sound_call_bind trivial (fun e _ => asked_of_turn (hnext (.error e))
      (not_ok_of_error e)) fun found hanswer => ?_
    have hfound : (.ok found : Except PyException (Option CanonicalAddrObject))=
        some <$> getCanonicalAddrObject snapshots scope.canonicalSnapshotId objectId := hanswer.1
    rw [hscope] at hfound
    cases hobject : getCanonicalAddrObject snapshots snapshotId objectId with
    | error error =>
      rw [hobject] at hfound
      cases hfound
    | ok object =>
      rw [hobject] at hfound
      cases hfound
      cases hkind : addrObjectTypeMap object.kind with
      | none =>
        simp only [hkind]
        exact asked_of_turn (hnext _) (not_ok_of_error _)
      | some type =>
        simp only [hkind]
        have hrequest : ∀ payload,createAddrObjectPayload type object=.ok payload →
            requestFor snapshots snapshotId result=some (.addr payload) := by
          intro payload hpayload
          simp [requestFor,hobjectId,htype,hobject,hkind,hpayload,Except.toOption]
        exact withGateway_sound (hnext _) (fun _ _ => trivial) (fun _ _ => rfl)
          (fun _ _ _ h => by cases h) hrequest

/-- The object of a service result is made like its canonical service. -/
theorem createForService_sound {scope : MappingScope}
    (hscope : scope.canonicalSnapshotId=snapshotId) (htype : result.entityType=.service)
    (hturn : Turn result.id [] history later) :
    AutoKeeps snapshots snapshotId scopeId listed (createForService scope result) later
      fun reached outcome => Asked snapshots snapshotId result history reached
        (∃ a,outcome=.ok a) := by
  unfold createForService
  cases hobjectId : result.canonicalEntityId with
  | error error => exact asked_of_turn hturn (not_ok_of_error error)
  | ok objectId =>
    have hnext : ∀ answer,Turn result.id [] history
        (later++[⟨.getCanonicalService scope.canonicalSnapshotId objectId,answer⟩]) :=
      fun answer => hturn.quiet rfl fun _ _ h => by cases h
    refine Async.sound_call_bind trivial (fun e _ => asked_of_turn (hnext (.error e))
      (not_ok_of_error e)) fun found hanswer => ?_
    have hfound : (.ok found : Except PyException (Option CanonicalService))=
        some <$> getCanonicalService snapshots scope.canonicalSnapshotId objectId := hanswer.1
    rw [hscope] at hfound
    cases hservice : getCanonicalService snapshots snapshotId objectId with
    | error error =>
      rw [hservice] at hfound
      cases hfound
    | ok service =>
      rw [hservice] at hfound
      cases hfound
      dsimp only
      split
      · exact asked_of_turn (hnext _) (not_ok_of_error _)
      · have hrequest : ∀ payload,createServicePayload service=.ok payload →
            requestFor snapshots snapshotId result=some (.service payload) := by
          intro payload hpayload
          simp [requestFor,hobjectId,htype,hservice,hpayload,Except.toOption]
        exact withGateway_sound (hnext _) (fun _ _ => trivial) (fun _ _ => rfl)
          (fun _ _ _ h => by cases h) hrequest

/-- A result that was listed is worked on as it was listed, once. -/
theorem selectEntityWithCreateOnSdwan_asked [PyUnicode] (hashFunc : String → String)
    (hin : result∈listed) (hfresh : ¬ResultRead history result.id) :
    AutoKeeps snapshots snapshotId scopeId listed
      (selectEntityWithCreateOnSdwan hashFunc scopeId result.id false) history
      fun reached outcome => Asked snapshots snapshotId result history reached
        (∃ a,outcome=.ok a) := by
  have hturn : ∀ answer,Turn result.id [] history
      (history++[⟨.getResult scopeId result.id,answer⟩]) := turn_read
  refine Async.sound_call_bind trivial (fun e _ => asked_of_turn (hturn (.error e))
    (not_ok_of_error e)) fun found hanswer => ?_
  cases found with
  | none => exact asked_of_turn (hturn _) (not_ok_of_error _)
  | some copy =>
    obtain rfl := hanswer.2.2.2 copy result hin rfl hfresh
    dsimp only
    split
    · exact asked_of_turn (hturn _) (not_ok_of_error _)
    next htype =>
    have hscoped : ∀ answer,Turn copy.id [] history (history++
        [⟨.getResult scopeId copy.id,.ok (some copy)⟩]++[⟨.getScopeById scopeId,answer⟩]) :=
      fun answer => (hturn _).quiet rfl fun _ _ h => by cases h
    refine Async.sound_call_bind trivial (fun e _ => asked_of_turn (hscoped (.error e))
      (not_ok_of_error e)) fun scope hscopeAnswer => ?_
    cases scope with
    | none => exact asked_of_turn (hscoped _) (not_ok_of_error _)
    | some scope =>
      have hscope := (hscopeAnswer.2.1 scope rfl).2
      -- the object is made first, and saved in the copy that was read
      have hselect : ∀ {create : Mapping ℤ} {reached : List MappingEvent},
          AutoKeeps snapshots snapshotId scopeId listed create reached
            (fun reached outcome => Asked snapshots snapshotId copy history reached
              (∃ a,outcome=.ok a)) →
          AutoKeeps snapshots snapshotId scopeId listed (create>>=fun createdId => do
            let _ ← await (.saveResult (copy.selectCreated createdId))
            return (copy.selectCreated createdId,false)) reached
            fun reached outcome => Asked snapshots snapshotId copy history reached
              (∃ a,outcome=.ok a) := by
        intro create reached hcreate
        refine Async.sound_bind (hcreate.mono fun later outcome hasked => ?_)
        cases outcome with
        | error error =>
          obtain ⟨made,hmade,hsub,-⟩ := hasked
          exact ⟨made,hmade,hsub,fun h => absurd h (not_ok_of_error error)⟩
        | ok createdId =>
          have hsaved : ∀ answer (last : Prop),Asked snapshots snapshotId copy history
              (later++[⟨.saveResult (copy.selectCreated createdId),answer⟩]) last :=
            fun answer last => hasked.quiet (fun _ => ⟨createdId,rfl⟩) rfl
              fun _ _ h => by cases h
          exact Async.sound_call_bind hasked.resultRead (fun e _ => hsaved (.error e) _)
            fun saved _ => hsaved (.ok saved) _
      dsimp only
      split
      next haddr => exact hselect (createForAddr_sound hscope haddr (hscoped _))
      next haddr =>
        have hservice : copy.entityType=.service := by
          cases h : copy.entityType with
          | zone => exact absurd h htype
          | addr => exact absurd h haddr
          | service => rfl
        exact hselect (createForService_sound hscope hservice (hscoped _))

/-- The objects asked for are those of the listed results, in their order, some of them
missing only where a selection failed. -/
def Made (snapshots : SnapshotStore) (snapshotId : ℕ) (listed : List MappingEntityResult)
    (history : List MappingEvent) (outcome : Except PyException AutoSelectResult) : Prop :=
  (creations history).Sublist (listed.filterMap (requestFor snapshots snapshotId)) ∧
  ∀ counts,outcome=.ok counts → counts.failedSelects=0 →
    creations history=listed.filterMap (requestFor snapshots snapshotId)

/-- One more result is worked on. -/
theorem filterMap_append_singleton (earlier : List MappingEntityResult) :
    (earlier++[result]).filterMap (requestFor snapshots snapshotId)=
      earlier.filterMap (requestFor snapshots snapshotId)++
        (requestFor snapshots snapshotId result).toList := by
  rw [List.filterMap_append]
  cases h : requestFor snapshots snapshotId result with
  | none => rw [List.filterMap_cons_none h]; rfl
  | some request => rw [List.filterMap_cons_some h]; rfl

/-- Operations that create nothing ask for nothing, and are always allowed. -/
theorem idle_sound {α : Type} {x : Mapping α} (hx : x.Only Idle) {requests : List CreateRequest}
    (hrequests : creations history=requests) :
    AutoKeeps snapshots snapshotId scopeId listed x history
      fun reached _ => creations reached=requests := by
  refine hx.sound (fun reached => creations reached=requests) (fun reached op _ hop => ?_)
    (fun reached op answer hi hop => ?_) (fun reached outcome hi => hi) hrequests
  · cases op with
    | saveResult | addScope | addResults | attachRules | addRuleOperand => exact hop.elim
    | _ => exact trivial
  · have hnone : createRequest ⟨op,answer⟩=none := by
      cases op with
      | createAddrObject | createService => exact hop.elim
      | _ => rfl
    rw [creations_snoc hnone,hi]

/-- An automatic run takes the results it listed one by one. -/
theorem autoSelectEntitiesWithCreate_made [PyUnicode] (hashFunc : String → String)
    (hids : (listed.map (·.id)).Nodup) :
    AutoKeeps snapshots snapshotId scopeId listed (autoSelectEntitiesWithCreate hashFunc scopeId) []
      (Made snapshots snapshotId listed) := by
  have hnone : ∀ {reached : List MappingEvent} {e : PyException},creations reached=[] →
      Made snapshots snapshotId listed reached (.error e) := by
    intro reached e h
    exact ⟨by rw [h]; exact List.nil_sublist _,fun counts he => by cases he⟩
  refine Async.sound_call_bind trivial (fun e _ => hnone rfl) fun scope hscope => ?_
  cases scope with
  | none => exact hnone rfl
  | some scope =>
    obtain ⟨rfl,-⟩ := hscope.2.1 scope rfl
    refine Async.sound_call_bind trivial (fun e _ => hnone rfl) fun results hresults => ?_
    have hunread : ∀ resultId,¬ResultRead
        [(⟨.getScopeById scope.id,.ok (some scope)⟩ : MappingEvent)] resultId := by
      intro resultId h
      obtain ⟨otherScope,he⟩ := resultRead_singleton.mp h
      cases he
    obtain rfl := hresults.2.2.1 results rfl hunread
    -- the results read so far are those whose turn has come, and all are made where none failed
    let I : List MappingEntityResult → ℕ × List String → List MappingEvent → Prop :=
      fun earlier done reached =>
        (∀ resultId,ResultRead reached resultId → resultId∈earlier.map (·.id)) ∧
        (creations reached).Sublist (earlier.filterMap (requestFor snapshots snapshotId)) ∧
        (done.2=[] → creations reached=earlier.filterMap (requestFor snapshots snapshotId))
    refine Async.sound_bind (Async.sound_foldlM I ?_ (fun done later hi => ?_) ?_)
    · rintro earlier result later done reached hlist ⟨honly,hsub,hall⟩
      have hin : result∈results := by
        rw [hlist]
        exact List.mem_append_right earlier List.mem_cons_self
      have hfresh : ¬ResultRead reached result.id := by
        rw [hlist,List.map_append,List.map_cons] at hids
        exact fun h => (List.disjoint_of_nodup_append hids) (honly _ h) List.mem_cons_self
      have hone : AutoKeeps snapshots snapshotId scope.id results
          (selectEntityWithCreateOnSdwan hashFunc scope.id result.id false) reached
          fun later outcome => Asked snapshots snapshotId result reached later
            (∃ a,outcome=.ok a) :=
        selectEntityWithCreateOnSdwan_asked hashFunc hin hfresh
      refine Async.sound_bind (Async.sound_attempt (hone.mono fun later outcome hasked => ?_))
      have hnext : ∀ next : ℕ × List String,
          (next.2=[] → done.2=[] ∧ ∃ a,outcome=.ok a) → I (earlier++[result]) next later := by
        obtain ⟨made,⟨events,rfl,hread,rfl⟩,hmade,hdone⟩ := hasked
        refine fun next hnext => ⟨fun resultId h => ?_,?_,fun hempty => ?_⟩
        · rw [List.map_append,List.mem_append]
          rcases resultRead_append.mp h with h|h
          · exact Or.inl (honly resultId h)
          · exact Or.inr (List.mem_singleton.mpr ((hread resultId).mp h))
        · rw [creations_append,filterMap_append_singleton]
          exact hsub.append hmade
        · obtain ⟨hbefore,hok⟩ := hnext hempty
          rw [creations_append,filterMap_append_singleton,hall hbefore,hdone hok]
      cases outcome with
      | ok selected => exact hnext _ fun h => ⟨h,selected,rfl⟩
      | error error =>
        exact hnext _ fun h => absurd h (List.append_ne_nil_of_right_ne_nil _ (by simp))
    · dsimp only
      have hmade : ∀ {counts : AutoSelectResult} {reached : List MappingEvent},
          counts.failedSelects=done.2.length → creations reached=creations later →
          Made snapshots snapshotId results reached (.ok counts) := by
        intro counts reached hcounts hreached
        rw [Made,hreached]
        refine ⟨hi.2.1,fun others ho hfailed => hi.2.2 ?_⟩
        cases ho
        exact List.length_eq_zero_iff.mp (hcounts▸hfailed)
      split
      · refine Async.sound_bind ((idle_sound
          (refreshMappingScopeCatalogFingerprint_idle hashFunc scope.id) rfl).mono
          fun last outcome hlast => ?_)
        cases outcome with
        | error error =>
          exact ⟨by rw [hlast]; exact hi.2.1,fun counts he => by cases he⟩
        | ok refreshed => exact hmade rfl hlast
      · exact hmade rfl rfl
    · refine ⟨fun resultId h => ?_,List.nil_sublist _,fun _ => rfl⟩
      rcases resultRead_append.mp h with h|h
      · exact absurd h (hunread resultId)
      · obtain ⟨otherScope,he⟩ := resultRead_singleton.mp h
        cases he

end Creation

section Runs

variable {snapshots : SnapshotStore} {scopeId : ℕ} {history : List MappingEvent}
  {start : MappingScopeCacheEntry} {listed : List MappingEntityResult}
    {world next last : ScopeWorld}
  {op : MappingOp} {answer : Except PyException (MappingAns op)}

/-- The scope as an automatic run has it: of its snapshot, with the results of the start
before any was read, and with every listed one until it is read. -/
def AutoInv (scopeId : ℕ) (start : MappingScopeCacheEntry) (listed : List MappingEntityResult)
    (history : List MappingEvent) (world : ScopeWorld) : Prop :=
  ScopesWf world.scopes ∧ ∃ entry,world.scopes.get? scopeId=some entry ∧
    entry.scope.canonicalSnapshotId=start.scope.canonicalSnapshotId ∧
    ((∀ resultId,¬ResultRead history resultId) → entry.results=start.results) ∧
    ∀ result∈listed,¬ResultRead history result.id → entry.results.get? result.id=some result

/-- What an operation of an automatic run leaves of its scope: all but a saved result. -/
def AutoEffect (scopeId : ℕ) (store after : ScopeStore) (op : MappingOp) : Prop :=
  ∀ entry,store.get? scopeId=some entry → ∃ later,after.get? scopeId=some later ∧
    later.scope.canonicalSnapshotId=entry.scope.canonicalSnapshotId ∧
    (later.results=entry.results ∨ ∃ result,op=.saveResult result ∧
      ∀ resultId,resultId≠result.id → later.results.get? resultId=entry.results.get? resultId)

theorem autoEffect_of_eq {store after : ScopeStore} (h : after=store) :
    AutoEffect scopeId store after op :=
  fun entry hentry => ⟨entry,by rw [h,hentry],rfl,Or.inl rfl⟩

/-- A save changes one result of one scope. -/
theorem autoEffect_of_saveResult {store after : ScopeStore} {result saved : MappingEntityResult}
    (h : saveResult store result=.ok (after,saved)) :
    AutoEffect scopeId store after (.saveResult result) := by
  obtain ⟨old,before,written,hold,hbefore,hupdated,hwritten⟩ := saveResult_updated h
  intro entry hentry
  rw [hupdated]
  split
  next hid =>
    rw [hid,hold] at hentry
    cases hentry
    exact ⟨_,rfl,rfl,Or.inr ⟨result,rfl,fun resultId hne => by rw [hwritten,if_neg hne]⟩⟩
  next => exact ⟨entry,hentry,rfl,Or.inl rfl⟩

/-- A refresh leaves snapshot and results. -/
theorem autoEffect_of_refreshCatalogFingerprint {store after : ScopeStore} {otherId : ℕ}
    {catalogFingerprint : String} {scope : MappingScope}
    (h : refreshCatalogFingerprint store otherId catalogFingerprint=.ok (after,scope)) :
    AutoEffect scopeId store after op := by
  obtain ⟨old,hold,hupdated⟩ := refreshCatalogFingerprint_updated h
  intro entry hentry
  rw [hupdated]
  split
  next hid =>
    rw [hid,hold] at hentry
    cases hentry
    exact ⟨_,rfl,rfl,Or.inl rfl⟩
  next => exact ⟨entry,hentry,rfl,Or.inl rfl⟩

/-- Every operation an automatic run is allowed has such an effect. -/
theorem autoEffect_of_handles (hspec : AutoSpec history op)
    (h : scopeHandles world op answer next) :
    AutoEffect scopeId world.scopes next.scopes op := by
  obtain ⟨⟨before,after,hbefore,hafter,hmapping⟩,-,-⟩ := h
  rw [←hbefore,←hafter]
  cases op with
  | addScope | addResults | attachRules | addRuleOperand => exact hspec.elim
  | saveResult result =>
    rcases writes_cases hmapping with ⟨saved,houtcome,rfl⟩|⟨-,hsame⟩
    · exact autoEffect_of_saveResult houtcome
    · exact autoEffect_of_eq (by rw [hsame])
  | refreshCatalogFingerprint otherId catalogFingerprint =>
    rcases writes_cases hmapping with ⟨scope,houtcome,-⟩|⟨-,hsame⟩
    · exact autoEffect_of_refreshCatalogFingerprint houtcome
    · exact autoEffect_of_eq (by rw [hsame])
  | acquire profileId vpcId =>
    obtain ⟨client,rfl⟩ := hmapping.eq_client
    exact autoEffect_of_eq rfl
  | createAddrObject | createService => exact autoEffect_of_eq hmapping.scopes_eq
  | getSdwanFullCatalog =>
    obtain ⟨rfl,-⟩ := hmapping
    exact autoEffect_of_eq rfl
  | getScopeById | getResult | listResults =>
    obtain ⟨-,rfl⟩ := hmapping
    exact autoEffect_of_eq rfl
  | _ =>
    cases hmapping
    exact autoEffect_of_eq rfl

/-- Scopes are found as they are stored. -/
theorem scope_of_handles {found : Option MappingScope}
    (h : scopeHandles world (.getScopeById scopeId) (.ok found) next) :
    found=getScopeById world.scopes scopeId := by
  obtain ⟨⟨before,after,hbefore,hafter,hanswer,-⟩,-,-⟩ := h
  have hread := Except.ok.inj hanswer
  rwa [hbefore] at hread

/-- The results a scope lists are those of its entry. -/
theorem listResults_eq_of_results {store other : ScopeStore}
    {entry before : MappingScopeCacheEntry} {status : Option MappingResultStatus}
    (hentry : store.get? scopeId=some entry) (hbefore : other.get? scopeId=some before)
    (h : entry.results=before.results) :
    listResults store scopeId none status=listResults other scopeId none status := by
  rw [listResults,listResults,hentry,hbefore]
  dsimp only
  rw [h]

/-- One operation answers an automatic run as it expects, and keeps its scope. -/
theorem AutoInv.step {origin : ScopeWorld} (horigin : origin.scopes.get? scopeId=some start)
    (hlisted : listed=listResults origin.scopes scopeId none (some .unresolved))
    (hinv : AutoInv scopeId start listed history world) (hspec : AutoSpec history op)
    (h : objectHandles snapshots world op answer next) :
    AutoAnswer snapshots start.scope.canonicalSnapshotId scopeId listed history ⟨op,answer⟩ ∧
      AutoInv scopeId start listed (history++[⟨op,answer⟩]) next := by
  obtain ⟨hscope,hreads⟩ := h
  obtain ⟨hwf,entry,hentry,hsnapshot,hresults,hstored⟩ := hinv
  refine ⟨⟨hreads,fun scope he => ?_,fun results he hunread => ?_,
    fun copy result hin he hfresh => ?_⟩,
    scopesWf_of_scopeHandles hwf hscope,?_⟩
  · cases he
    have hfound := scope_of_handles hscope
    rw [getScopeById,hentry] at hfound
    cases hfound
    exact ⟨(hwf scopeId entry hentry).scope_id,hsnapshot⟩
  · cases he
    rw [(unresolved_of_handles hscope).2,hlisted]
    exact listResults_eq_of_results hentry horigin (hresults hunread)
  · cases he
    have hfound := (result_of_handles hscope).2
    rw [getResult,hentry,Option.bind_some,hstored result hin hfresh] at hfound
    exact Option.some.inj hfound
  · obtain ⟨later,hlater,hsame,heffect⟩ := autoEffect_of_handles hspec hscope entry hentry
    have hunread : ∀ {resultId : ℕ},¬ResultRead (history++[⟨op,answer⟩]) resultId →
        ¬ResultRead history resultId := fun h hread => h (resultRead_append.mpr (Or.inl hread))
    refine ⟨later,hlater,hsame.trans hsnapshot,fun hnone => ?_,fun result hin hfresh => ?_⟩
    · rcases heffect with heq|⟨saved,rfl,-⟩
      · rw [heq,hresults fun resultId => hunread (hnone resultId)]
      · exact absurd hspec (hunread (hnone saved.id))
    · rcases heffect with heq|⟨saved,rfl,hothers⟩
      · rw [heq,hstored result hin (hunread hfresh)]
      · have hne : result.id≠saved.id := fun hid => hunread hfresh (hid▸hspec)
        rw [hothers result.id hne,hstored result hin (hunread hfresh)]

/-- An automatic run asks for at most one object for each result without one, in the
order they are listed and each like its own canonical object: so for as many objects of
a value as there are such results, and for one of each value where they all differ. -/
theorem creations_autoSelectEntitiesWithCreate [PyUnicode] (hashFunc : String → String)
    {events : List MappingEvent} {outcome : Except PyException AutoSelectResult}
    (hwf : ScopesWf world.scopes) (hstart : world.scopes.get? scopeId=some start)
    (hlisted : listed=listResults world.scopes scopeId none (some .unresolved))
    (hrun : Async.Runs (objectHandles snapshots) world
      (autoSelectEntitiesWithCreate hashFunc scopeId) events last outcome) :
    Made snapshots start.scope.canonicalSnapshotId listed events outcome ∧
    (∀ value,((creations events).map (·.value)).count value≤
      ((listed.filterMap (requestFor snapshots start.scope.canonicalSnapshotId)).map
        (·.value)).count value) ∧
    (((listed.filterMap (requestFor snapshots start.scope.canonicalSnapshotId)).map
        (·.value)).Nodup → ((creations events).map (·.value)).Nodup) := by
  have hids : (listed.map (·.id)).Nodup := by
    rw [hlisted]
    exact nodup_listResults hwf scopeId
  have hinv : AutoInv scopeId start listed [] world := by
    refine ⟨hwf,start,hstart,rfl,fun _ => rfl,fun result hin _ => ?_⟩
    rw [hlisted] at hin
    exact (mem_listResults_unresolved hstart (hwf scopeId start hstart) hin).1
  have hmade : Made snapshots start.scope.canonicalSnapshotId listed events outcome :=
    (hrun.inv (autoSelectEntitiesWithCreate_made hashFunc hids) hinv
      fun history op answer world next hi hspec hhandles =>
        hi.step hstart hlisted hspec hhandles).2
  have hvalues := hmade.1.map fun request : CreateRequest => request.value
  exact ⟨hmade,fun value => hvalues.count_le value,fun hnodup => hvalues.nodup hnodup⟩

end Runs

section Twins

open MappingReaderIds

/-- The address objects that were made for a history. -/
def createdAddrObjs (history : List MappingEvent) : List SdwanAddrObject :=
  history.filterMap fun event => match event with
    | ⟨.createAddrObject _,.ok object⟩ => some object
    | _ => none

/-- The sample controller, which numbers the hosts it makes. -/
def makingScopes (world : ScopeWorld) :
    (op : MappingOp) → Except PyException (MappingAns op) × ScopeWorld
  | .getCanonicalAddrObject snapshotId objectId =>
    (some <$> getCanonicalAddrObject twinStore snapshotId objectId,world)
  | .getCanonicalService snapshotId objectId =>
    (some <$> getCanonicalService twinStore snapshotId objectId,world)
  | .createAddrObject payload =>
    let made := (listResults world.scopes 100 (some .addr) (some .matched)).length
    (.ok (PlanStaleness.hostObject (9+made) (payload.host.getD "") (.ofNat 167772161)),world)
  | op => siteScopes twinStore hostlessCatalog world op

/-- The controller answers as the operations may. -/
theorem objectHandles_makingScopes (world : ScopeWorld) (op : MappingOp) :
    objectHandles twinStore world op (makingScopes world op).1 (makingScopes world op).2 := by
  have hsite := scopeHandles_siteScopes twinStore hostlessCatalog world op
  let before : MigrationWorld := ⟨world.scopes,.empty,fun _ _ => hostlessCatalog,none⟩
  cases op with
  | getCanonicalAddrObject => exact ⟨⟨⟨before,before,rfl,rfl,rfl⟩,rfl,trivial⟩,rfl⟩
  | getCanonicalService => exact ⟨⟨⟨before,before,rfl,rfl,rfl⟩,rfl,trivial⟩,rfl⟩
  | createAddrObject => exact ⟨⟨⟨before,before,rfl,rfl,_,rfl⟩,rfl,trivial⟩,trivial⟩
  | _ => exact ⟨hsite,trivial⟩

/-- The automatic run on the sample, with two results for one address. -/
@[irreducible] def twinCreation :
    List MappingEvent × ScopeWorld × Except PyException AutoSelectResult :=
  (@autoSelectEntitiesWithCreate asciiUnicode PlanStaleness.firstBytes 100).exec makingScopes
    twinUnresolved.world

theorem twinCreation_run :
    Async.Runs (objectHandles twinStore) twinUnresolved.world
      (@autoSelectEntitiesWithCreate asciiUnicode PlanStaleness.firstBytes 100)
      twinCreation.1 twinCreation.2.1 twinCreation.2.2 := by
  unfold twinCreation
  exact Async.runs_exec objectHandles_makingScopes _ _

/-- The run makes at most what its results ask for, here a host each. -/
theorem creations_autoSelectEntitiesWithCreate_twin :
    ∃ start,twinUnresolved.world.scopes.get? 100=some start ∧
      Made twinStore start.scope.canonicalSnapshotId
        (listResults twinUnresolved.world.scopes 100 none (some .unresolved)) twinCreation.1
        twinCreation.2.2 := by
  have hfound : (twinUnresolved.world.scopes.get? 100).isSome=true := by
    decide +kernel
  obtain ⟨start,hstart⟩ := Option.isSome_iff_exists.mp hfound
  exact ⟨start,hstart,
    (@creations_autoSelectEntitiesWithCreate twinStore 100 start _ _ _ asciiUnicode
    PlanStaleness.firstBytes _ _ scopesInv_twinUnresolved.wf hstart rfl twinCreation_run).1⟩

/-- A catalog that an automatic run has added its hosts to. -/
def twinnedCatalog : SdwanFullCatalog :=
  { hostlessCatalog with addrObjs := hostlessCatalog.addrObjs++createdAddrObjs twinCreation.1 }

/-- The named host and the literal of one address get an object each, and when the
rule is mapped again the address is ambiguous. -/
theorem twins_created :
    Async.Runs (objectHandles twinStore) twinUnresolved.world
        (@autoSelectEntitiesWithCreate asciiUnicode PlanStaleness.firstBytes 100)
        twinCreation.1 twinCreation.2.1 twinCreation.2.2 ∧
      ¬((creations twinCreation.1).map (@CreateRequest.value asciiUnicode)).Nodup ∧
      ∃ entities results,getCanonicalScopeEntitiesData twinStore 7 [20]=.ok entities ∧
        (@mappingServices asciiUnicode).buildResults 1 300 entities twinnedCatalog=.ok results ∧
        ∃ result∈results,result.resultStatus=.ambiguous := by
  have hagain : ((getCanonicalScopeEntitiesData twinStore 7 [20]).toOption.any fun entities =>
      ((@mappingServices asciiUnicode).buildResults 1 300 entities twinnedCatalog).toOption.any
        fun results => results.any fun result => decide (result.resultStatus=.ambiguous))=true := by
    decide +kernel
  have hvalues : ¬((creations twinCreation.1).map (@CreateRequest.value asciiUnicode)).Nodup := by
    decide +kernel
  refine ⟨twinCreation_run,hvalues,?_⟩
  obtain ⟨entities,hentities,hbuilt⟩ := (Option.any_eq_true _ _).mp hagain
  obtain ⟨results,hresults,hfound⟩ := (Option.any_eq_true _ _).mp hbuilt
  obtain ⟨result,hin,hstatus⟩ := List.any_eq_true.mp hfound
  exact ⟨entities,results,PyExcept.eq_ok_of_toOption hentities,
    PyExcept.eq_ok_of_toOption hresults,result,hin,of_decide_eq_true hstatus⟩

end Twins

end NspMigrator.MappingAutoCreate
