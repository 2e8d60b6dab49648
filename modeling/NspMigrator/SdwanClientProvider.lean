import Mathlib
import NspMigrator.PyAsync
import NspMigrator.PyDict

/-!
# Clients of the controller

A provider makes a client for each piece of work and keeps the clients in use
in a dictionary under their identities, so that all of them can be closed at
shutdown. An identity is unique only while its object lives. Clients at hand
and registered clients make up those made, in every interleaving.
-/

namespace NspMigrator.SdwanClientProvider

open PyAsync PyDict

/-- What is stored of the credentials of a profile. -/
structure StoredCredentialMetadata where
  /-- Whether a certificate is stored. -/
  hasCertificate : Bool
  /-- Whether it comes with its private key. -/
  certificateHasPrivateKey : Bool
  deriving DecidableEq

/-- A connection target. -/
structure CSPProfile where
  /-- The number of the profile. -/
  id : ℕ
  /-- Where the controller is. -/
  baseUrl : String
  /-- Whom to log in as. -/
  username : String
  /-- What is known of the stored credentials. -/
  credentialMetadata : Option StoredCredentialMetadata
  deriving DecidableEq

/-- Whether there is a certificate with its key. -/
def CSPProfile.isConnectable (profile : CSPProfile) : Bool :=
  match profile.credentialMetadata with
  | none => false
  | some metadata => metadata.hasCertificate && metadata.certificateHasPrivateKey

/-- The secrets of a profile. -/
structure ProfileCredentials where
  /-- The certificate. -/
  certificatePem : String
  /-- The password, when it is stored. -/
  password : Option String
  deriving DecidableEq

/-- A client: which of all clients it is, the identity it has while it lives,
and what it was made with. -/
structure Client where
  /-- Which of all clients it is. -/
  serial : ℕ
  /-- The identity it has while it lives. -/
  address : ℕ
  /-- Whom it logs in as. -/
  username : String
  /-- The password it logs in with. -/
  password : String
  /-- The project it works in. -/
  vpcId : Option String
  deriving DecidableEq

/-- An exception, by its class. -/
abbrev PyException := String

/-- What the provider awaits. The two uses of the lock that guards the clients,
and the one that empties them, are one operation each: nothing is awaited while
the lock is held. -/
inductive ProviderOp where
  | enterUow
  | exitUow
  | getById (profileId : ℕ)
  | listAll
  | getForConnection (profileId : ℕ)
  | create (profile : CSPProfile) (credentials : ProfileCredentials) (vpcId : Option String)
  | register (key : ℕ) (client : Client)
  | use (client : Client)
  | login (client : Client)
  | unregister (key : ℕ)
  | takeAll
  | aclose (client : Client)
  deriving DecidableEq

/-- What the operations answer. -/
def ProviderAns : ProviderOp → Type
  | .getById _ => Option CSPProfile
  | .listAll => List CSPProfile
  | .getForConnection _ => Option ProfileCredentials
  | .create _ _ _ => Client
  | .login _ => List String
  | .unregister _ => Option Client
  | .takeAll => List Client
  | _ => Unit

abbrev Provider (α : Type) := Async ProviderOp ProviderAns PyException α

abbrev ProviderEvent := Event ProviderOp ProviderAns PyException

/-- Await an operation of the provider. -/
def await (op : ProviderOp) : Provider (ProviderAns op) := Async.call op

/-- The stored profile with its credentials. -/
def loadProfile (profileId : ℕ) : Provider (CSPProfile × Option ProfileCredentials) := do
  let profile : Option CSPProfile ← await (.getById profileId)
  match profile with
  | none =>
    let profiles : List CSPProfile ← await .listAll
    if profiles=[] then Async.raise "CSPProfileRequiredError"
    else Async.raise "CSPProfileNotFoundError"
  | some profile =>
    let credentials : Option ProfileCredentials ← await (.getForConnection profileId)
    return (profile,credentials)

/-- Remove a client and close it, if nobody else has removed it. -/
def release (clientKey : ℕ) : Provider Unit := do
  let client : Option Client ← await (.unregister clientKey)
  match client with
  | none => return ()
  | some client => await (.aclose client)

/-- Work with a new client of a profile, which is closed afterwards. -/
def acquire {α : Type} (profileId : ℕ) (vpcId : Option String) (body : Client → Provider α) :
    Provider α := do
  let (profile,credentials) ← Async.within .enterUow .exitUow (loadProfile profileId)
  match credentials with
  | none => Async.raise "CSPProfileConnectionValidationError"
  | some credentials =>
    if profile.isConnectable=false then Async.raise "CSPProfileConnectionValidationError"
    else
      let client : Client ← await (.create profile credentials vpcId)
      let registered ← (await (.register client.address client)).attempt
      match registered with
      | .error error =>
        let _ ← await (.aclose client)
        Async.raise error
      | .ok _ =>
        let result ← (body client).attempt
        release client.address
        Async.ofExcept result

/-- The networks a profile may manage. -/
def discoverVpcs (profileId : ℕ) : Provider (List String) :=
  acquire profileId none fun client => await (.login client)

/-- Close clients, whatever becomes of each closing. -/
def closeClients (clients : List Client) : Provider Unit :=
  clients.foldlM (fun _ client => do
    let _ ← (await (.aclose client)).attempt
    return ()) ()

/-- Close all clients. -/
def closeAll : Provider Unit := do
  let clients : List Client ← await .takeAll
  closeClients clients

/-- The clients in use, by their identity. -/
abbrev ActiveClients := Dict ℕ Client

/-- What the operations do. Any of them may raise, and then does nothing. -/
def providerHandles (active : ActiveClients) :
    (op : ProviderOp) → Except PyException (ProviderAns op) → ActiveClients → Prop
  | .create profile credentials vpcId,answer,next => next=active ∧ ∀ client : Client,
      answer=.ok client → client.username=profile.username ∧
        client.password=credentials.password.getD "" ∧ client.vpcId=vpcId
  | .register key client,answer,next => (answer=.ok () ∧ next=active.insert key client) ∨
      ((∃ error,answer=.error error) ∧ next=active)
  | .unregister key,answer,next =>
    (answer=.ok (active.get? key) ∧ next=active.filterEntries fun entry => decide (entry.1≠key)) ∨
      ((∃ error,answer=.error error) ∧ next=active)
  | .takeAll,answer,next => (answer=.ok active.values ∧ next=.empty) ∨
      ((∃ error,answer=.error error) ∧ next=active)
  | _,_,next => next=active

/-- One for the client itself. -/
def countOf (client other : Client) : ℕ := if other=client then 1 else 0

/-- How many times an event puts a client into the hands of a coroutine. -/
def taken (client : Client) : ProviderEvent → ℕ
  | ⟨.create _ _ _,.ok made⟩ => countOf client made
  | ⟨.unregister _,.ok (some removed)⟩ => countOf client removed
  | ⟨.takeAll,.ok clients⟩ => List.count client clients
  | _ => 0

/-- How many times an event takes a client out of the hands of a coroutine. -/
def given (client : Client) : ProviderEvent → ℕ
  | ⟨.register _ registered,.ok _⟩ => countOf client registered
  | ⟨.aclose closed,_⟩ => countOf client closed
  | _ => 0

/-- A sum over events. -/
def total (weight : ProviderEvent → ℕ) (events : List ProviderEvent) : ℕ := (events.map weight).sum

/-- The clients a coroutine still has to register or to close. -/
def Owes (owed : List Client) (history : List ProviderEvent) : Prop :=
  ∀ client,total (taken client) history=total (given client) history+owed.count client

/-- A coroutine made a client. -/
def Made (client : Client) (history : List ProviderEvent) : Prop :=
  ∃ profile credentials vpcId,⟨.create profile credentials vpcId,.ok client⟩∈history

/-- A coroutine has read a profile and its credentials. -/
def Loaded (profile : CSPProfile) (credentials : ProfileCredentials)
    (history : List ProviderEvent) : Prop :=
  ∃ profileId,⟨.getById profileId,.ok (some profile)⟩∈history ∧
    ⟨.getForConnection profileId,.ok (some credentials)⟩∈history

/-- What a coroutine of the provider has done before it awaits an operation:
only stored and connectable profiles are connected to, and only clients at hand
are registered and closed. -/
def ProviderSpec (history : List ProviderEvent) : ProviderOp → Prop
  | .create profile credentials _ =>
    Loaded profile credentials history ∧ profile.isConnectable=true
  | .register key client => key=client.address ∧ Made client history ∧
      total (given client) history<total (taken client) history
  | .unregister key => ∃ client,Made client history ∧ key=client.address
  | .aclose client => total (given client) history<total (taken client) history
  | _ => True

/-- Nothing is left to register or to close. -/
def ProviderEnd {α : Type} (history : List ProviderEvent) (_ : Except PyException α) : Prop :=
  Owes [] history

/-- A coroutine keeps to the specification. -/
def Keeps {α : Type} (x : Provider α) (Q : List ProviderEvent → Except PyException α → Prop)
    (history : List ProviderEvent) : Prop :=
  x.Sound (fun _ _ => True) ProviderSpec Q history

section Specification

variable {history : List ProviderEvent} {owed : List Client} {client : Client}

theorem total_append (weight : ProviderEvent → ℕ) (event : ProviderEvent) :
    total weight (history++[event])=total weight history+weight event := by
  simp [total]

/-- Events that move no client leave what is owed. -/
theorem Owes.quiet (h : Owes owed history) {event : ProviderEvent}
    (hevent : ∀ client,taken client event=0 ∧ given client event=0) :
    Owes owed (history++[event]) := by
  intro client
  rw [total_append,total_append,(hevent client).1,(hevent client).2]
  exact h client

/-- A client that comes to hand is owed. -/
theorem Owes.take (h : Owes [] history) {event : ProviderEvent}
    (hevent : ∀ client,taken client event=owed.count client ∧ given client event=0) :
    Owes owed (history++[event]) := by
  intro client
  have hbefore := h client
  rw [total_append,total_append,(hevent client).1,(hevent client).2]
  simp only [List.count_nil] at hbefore
  omega

/-- A client that is registered or closed is not owed any more. -/
theorem Owes.give (h : Owes (client::owed) history) {event : ProviderEvent}
    (hevent : ∀ other,taken other event=0 ∧ given other event=countOf other client) :
    Owes owed (history++[event]) := by
  intro other
  have hbefore := h other
  rw [total_append,total_append,(hevent other).1,(hevent other).2]
  rw [List.count_cons] at hbefore
  simp only [beq_iff_eq] at hbefore
  rw [countOf]
  omega

/-- A client that is owed is at hand. -/
theorem Owes.lt (h : Owes (client::owed) history) :
    total (given client) history<total (taken client) history := by
  have hbefore := h client
  rw [List.count_cons_self] at hbefore
  omega

/-- Operations that move no client. -/
def Quiet : ProviderOp → Prop
  | .enterUow | .exitUow | .getById _ | .listAll | .getForConnection _ | .use _ | .login _ => True
  | _ => False

theorem Quiet.moves {op : ProviderOp} (h : Quiet op) (answer : Except PyException (ProviderAns op))
    (client : Client) : taken client ⟨op,answer⟩=0 ∧ given client ⟨op,answer⟩=0 := by
  cases op with
  | create _ _ _ | register _ _ | unregister _ | takeAll | aclose _ => exact h.elim
  | _ => exact ⟨rfl,rfl⟩

/-- So they leave what is owed. -/
theorem Owes.op (h : Owes owed history) (op : ProviderOp)
    (answer : Except PyException (ProviderAns op)) (hop : Quiet op) :
    Owes owed (history++[⟨op,answer⟩]) :=
  h.quiet (hop.moves answer)

theorem count_one (client other : Client) : List.count client [other]=countOf client other := by
  simp [countOf,List.count_cons]

/-- Work that moves no client leaves what is owed. -/
theorem keeps_quiet {α : Type} {x : Provider α} (hx : x.Only Quiet) (h : Owes owed history)
    {Q : List ProviderEvent → Except PyException α → Prop}
    (hq : ∀ history' result,history<+:history' → Owes owed history' → Q history' result) :
    Keeps x Q history := by
  refine hx.sound (fun history' => history<+:history' ∧ Owes owed history') ?_ ?_ ?_
    ⟨List.prefix_refl _,h⟩
  · intro history op _ hop
    cases op with
    | create _ _ _ | register _ _ | unregister _ | takeAll | aclose _ => exact hop.elim
    | _ => exact trivial
  · intro history op answer hi hop
    exact ⟨hi.1.trans (List.prefix_append _ _),hi.2.op op answer hop⟩
  · exact fun history' result hi => hq history' result hi.1 hi.2

/-- What is loaded stays loaded. -/
theorem Loaded.mono {profile : CSPProfile} {credentials : ProfileCredentials}
    {history' : List ProviderEvent} (h : Loaded profile credentials history)
    (hext : history<+:history') : Loaded profile credentials history' := by
  obtain ⟨profileId,hprofile,hcredentials⟩ := h
  exact ⟨profileId,hext.subset hprofile,hext.subset hcredentials⟩

/-- A client that was made stays made. -/
theorem Made.mono {history' : List ProviderEvent} (h : Made client history)
    (hext : history<+:history') : Made client history' := by
  obtain ⟨profile,credentials,vpcId,hmade⟩ := h
  exact ⟨profile,credentials,vpcId,hext.subset hmade⟩

/-- No client has moved, and what is returned was read. -/
def LoadEnd (history : List ProviderEvent)
    (result : Except PyException (CSPProfile × Option ProfileCredentials)) : Prop :=
  Owes [] history ∧ ∀ profile credentials,result=.ok (profile,some credentials) →
    Loaded profile credentials history

theorem LoadEnd.quiet {result result' : Except PyException (CSPProfile × Option ProfileCredentials)}
    (h : LoadEnd history result) (op : ProviderOp)
    (answer : Except PyException (ProviderAns op)) (hop : Quiet op)
    (hresult : result'=result ∨ ∃ error,result'=.error error) :
    LoadEnd (history++[⟨op,answer⟩]) result' := by
  refine ⟨h.1.op op answer hop,fun profile credentials hok => ?_⟩
  rcases hresult with rfl|⟨error,rfl⟩
  · exact (h.2 profile credentials hok).mono (List.prefix_append _ _)
  · cases hok

/-- Loading a profile moves no client and returns what it reads. -/
theorem loadProfile_keeps (profileId : ℕ) (h : Owes [] history) :
    Keeps (loadProfile profileId) LoadEnd history := by
  have herror : ∀ {history : List ProviderEvent} (error : PyException),Owes [] history →
      LoadEnd history (.error error) := fun error howes => ⟨howes,fun _ _ he => by cases he⟩
  have hget : ∀ answer,Owes [] (history++[⟨.getById profileId,answer⟩]) := fun answer =>
    h.op (.getById profileId) answer trivial
  refine Async.sound_call_bind trivial (fun e _ => herror e (hget _)) fun profile _ => ?_
  cases profile with
  | none =>
    refine Async.sound_call_bind trivial (fun e _ => herror e ?_) fun profiles _ => ?_
    · exact (hget _).op .listAll _ trivial
    · have hlist : Owes [] (history++[⟨.getById profileId,.ok none⟩]++[⟨.listAll,.ok profiles⟩]) :=
        (hget _).op .listAll _ trivial
      split
      · exact Async.sound_raise (herror _ hlist)
      · exact Async.sound_raise (herror _ hlist)
  | some profile =>
    refine Async.sound_call_bind trivial (fun e _ => herror e ?_) fun credentials _ => ?_
    · exact (hget _).op (.getForConnection profileId) _ trivial
    · refine Async.sound_pure ⟨(hget _).op (.getForConnection profileId) _ trivial,?_⟩
      intro other found hok
      cases hok
      exact ⟨profileId,by simp,by simp⟩

/-- So it does within its unit of work. -/
theorem within_loadProfile_keeps (profileId : ℕ) (h : Owes [] history) :
    Keeps (Async.within .enterUow .exitUow (loadProfile profileId)) LoadEnd history := by
  have hbefore : ∀ answer,Owes [] (history++[⟨.enterUow,answer⟩]) := fun answer =>
    h.op .enterUow answer trivial
  refine Async.sound_within trivial (fun e => ⟨hbefore _,fun _ _ he => by cases he⟩)
    fun opened => ?_
  refine (loadProfile_keeps profileId (hbefore _)).mono fun history' result hend => ?_
  exact ⟨trivial,fun e => hend.quiet .exitUow _ trivial (Or.inr ⟨e,rfl⟩),
    fun closed => hend.quiet .exitUow _ trivial (Or.inl rfl)⟩

/-- Closing a client that is owed leaves the others. -/
theorem aclose_keeps (h : Owes (client::owed) history) :
    Keeps (await (.aclose client)) (fun history' _ => Owes owed history') history :=
  Async.sound_call h.lt fun _ _ => h.give fun _ => ⟨rfl,rfl⟩

/-- Releasing a client leaves nothing to close. -/
theorem release_keeps (h : Owes [] history) (hmade : Made client history) :
    Keeps (release client.address) ProviderEnd history := by
  refine Async.sound_call_bind ⟨client,hmade,rfl⟩ (fun e _ => h.quiet fun other => ⟨rfl,rfl⟩)
    fun removed _ => ?_
  cases removed with
  | none => exact Async.sound_pure (h.quiet fun other => ⟨rfl,rfl⟩)
  | some removed =>
    have howes : Owes [removed] (history++[⟨.unregister client.address,.ok (some removed)⟩]) :=
      h.take fun other => ⟨(count_one other _).symm,rfl⟩
    exact aclose_keeps howes

/-- Work that only uses its client. -/
def UsesOnly (client : Client) (op : ProviderOp) : Prop := op=.use client ∨ op=.login client

/-- Nothing is left to register or to close after work with a client, however it ends. -/
theorem acquire_keeps {α : Type} (profileId : ℕ) (vpcId : Option String)
    {body : Client → Provider α} (hbody : ∀ client,(body client).Only (UsesOnly client)) :
    Keeps (acquire profileId vpcId body) ProviderEnd [] := by
  refine Async.sound_bind ((within_loadProfile_keeps profileId fun client => rfl).mono
    fun history result hload => ?_)
  cases result with
  | error e => exact hload.1
  | ok loaded =>
    obtain ⟨profile,credentials⟩ := loaded
    cases credentials with
    | none => exact Async.sound_raise hload.1
    | some credentials =>
      by_cases hconnectable : profile.isConnectable=false
      · simp only [hconnectable,if_true]
        exact Async.sound_raise hload.1
      have hspec : Loaded profile credentials history ∧ profile.isConnectable=true :=
        ⟨hload.2 profile credentials rfl,by simpa using hconnectable⟩
      simp only [if_neg hconnectable]
      refine Async.sound_call_bind hspec (fun e _ => hload.1.quiet fun other => ⟨rfl,rfl⟩)
        fun client _ => ?_
      have hmade : Made client (history++[⟨.create profile credentials vpcId,.ok client⟩]) :=
        ⟨profile,credentials,vpcId,by simp⟩
      have howes : Owes [client] (history++[⟨.create profile credentials vpcId,.ok client⟩]) :=
        hload.1.take fun other => ⟨(count_one other _).symm,rfl⟩
      refine Async.sound_bind (Async.sound_attempt
        (Async.sound_call ⟨rfl,hmade,howes.lt⟩ fun answer _ => ?_))
      cases answer with
      | error e =>
        refine Async.sound_call_bind ?_ (fun e _ => ?_) fun closed _ => ?_
        · exact (howes.quiet fun other => ⟨rfl,rfl⟩).lt
        · exact (howes.quiet fun other => ⟨rfl,rfl⟩).give fun other => ⟨rfl,rfl⟩
        · exact Async.sound_raise
            ((howes.quiet fun other => ⟨rfl,rfl⟩).give fun other => ⟨rfl,rfl⟩)
      | ok registered =>
        have hregistered : Owes [] (history++[⟨.create profile credentials vpcId,.ok client⟩]++
            [⟨.register client.address client,.ok registered⟩]) :=
          howes.give fun other => ⟨rfl,rfl⟩
        have hquiet : (body client).Only Quiet := (hbody client).mono fun op hop => by
          rcases hop with rfl|rfl <;> trivial
        refine Async.sound_bind (Async.sound_attempt
          (keeps_quiet hquiet hregistered fun history' result hext hi => ?_))
        have hmade' : Made client history' :=
          hmade.mono ((List.prefix_append _ _).trans hext)
        refine Async.sound_bind ((release_keeps hi hmade').mono fun history'' result' hend => ?_)
        cases result' with
        | error e => exact hend
        | ok released => exact hend

/-- Closing clients that are owed leaves none to close. -/
theorem closeClients_keeps {clients : List Client} (h : Owes clients history) :
    Keeps (closeClients clients) ProviderEnd history := by
  refine Async.sound_foldlM (fun earlier _ history => ∃ later,
    clients=earlier++later ∧ Owes later history) ?_ ?_ ⟨clients,rfl,h⟩
  · intro earlier client later acc history hsplit hi
    obtain ⟨rest,hrest,howes⟩ := hi
    have hlater : rest=client::later := List.append_cancel_left (hrest.symm.trans hsplit)
    subst hlater
    refine Async.sound_bind (Async.sound_attempt ((aclose_keeps howes).mono
      fun history' result hend => ?_))
    exact Async.sound_pure ⟨later,by rw [hsplit,List.append_assoc]; rfl,hend⟩
  · rintro acc history ⟨later,hsplit,howes⟩
    have hnil : later=[] := by simpa using hsplit
    rw [hnil] at howes
    exact howes

/-- Closing all clients leaves none of them to close. -/
theorem closeAll_keeps : Keeps closeAll ProviderEnd [] := by
  refine Async.sound_call_bind trivial (fun e _ => fun client => rfl) fun clients _ => ?_
  exact closeClients_keeps (Owes.take (fun client => rfl) fun client => ⟨rfl,rfl⟩)

end Specification

/-- Coroutines of the provider side by side. -/
abbrev ProviderPool (ι α : Type) := Pool ActiveClients ι ProviderOp ProviderAns PyException α

/-- The work of a module with a client, or a closing of all clients. -/
inductive ProviderTask {α : Type} : Provider α → Prop where
  | acquire (profileId : ℕ) (vpcId : Option String) {body : Client → Provider α}
      (hbody : ∀ client,(body client).Only (UsesOnly client)) :
      ProviderTask (acquire profileId vpcId body)
  | closeAll (a : α) : ProviderTask (closeAll.bind fun _ => pure a)

/-- The discovery of the networks of a profile is work with a client. -/
theorem providerTask_discoverVpcs (profileId : ℕ) : ProviderTask (discoverVpcs profileId) :=
  .acquire profileId none fun _ => Async.only_call (Or.inr rfl)

theorem ProviderTask.keeps {α : Type} {x : Provider α} (h : ProviderTask x) :
    Keeps x ProviderEnd [] := by
  cases h with
  | acquire profileId vpcId hbody => exact acquire_keeps profileId vpcId hbody
  | closeAll a =>
    refine Async.sound_bind (closeAll_keeps.mono fun history result hend => ?_)
    cases result with
    | error e => exact hend
    | ok closed => exact Async.sound_pure hend

/-- One where an event makes a client. -/
def created (client : Client) : ProviderEvent → ℕ
  | ⟨.create _ _ _,.ok made⟩ => countOf client made
  | _ => 0

/-- One where an event registers a client. -/
def registered (client : Client) : ProviderEvent → ℕ
  | ⟨.register _ registered,.ok _⟩ => countOf client registered
  | _ => 0

/-- One where an event closes a client. -/
def closed (client : Client) : ProviderEvent → ℕ
  | ⟨.aclose closed,_⟩ => countOf client closed
  | _ => 0

/-- One for a client that is registered. -/
def held (active : ActiveClients) (client : Client) : ℕ :=
  if active.get? client.address=some client then 1 else 0

section Interleaving

variable {ι α : Type} [DecidableEq ι]

/-- All operations of a pool. -/
def events (pool : ProviderPool ι α) : List ProviderEvent := pool.trace.map Prod.snd

/-- A client that somebody may still use. -/
def Alive (pool : ProviderPool ι α) (client : Client) : Prop :=
  client∈pool.world.values ∨
    ∃ i,Made client (Pool.history pool.trace i) ∧ (pool.tasks i).ended=false

/-- Every client made is a new one, and while a client is alive no other one is
made with its identity. -/
def FreshClients (pool : ProviderPool ι α) (label : Option (ι × ProviderEvent)) : Prop :=
  ∀ i profile credentials vpcId (client : Client),
    label=some (i,⟨.create profile credentials vpcId,.ok client⟩) →
      total (created client) (events pool)=0 ∧
        ∀ other,Alive pool other → other.address≠client.address

/-- What becomes of the clients. -/
structure ClientsAccounted (pool : ProviderPool ι α) : Prop where
  /-- No client is made twice, closed twice, or closed while it is registered. -/
  once : ∀ client,total (closed client) (events pool)+held pool.world client≤
    total (created client) (events pool) ∧ total (created client) (events pool)≤1
  /-- Once all is done, every client is closed or still registered. -/
  settled : (∀ i,(pool.tasks i).ended=true) → ∀ client,
    total (closed client) (events pool)+held pool.world client=
      total (created client) (events pool)
  /-- A client is closed by whoever made it, or by a closing of all clients. -/
  owner : ∀ i client answer,⟨.aclose client,answer⟩∈Pool.history pool.trace i →
    Made client (Pool.history pool.trace i) ∨
      ∃ clients : List Client,⟨.takeAll,.ok clients⟩∈Pool.history pool.trace i ∧ client∈clients

/-- The invariant of all interleavings: clients at hand and registered ones make
up those made, and identities are unique among the living. -/
structure Balanced (pool : ProviderPool ι α) : Prop where
  /-- Every task keeps to its specification. -/
  sound : pool.SoundAll (fun _ _ => True) ProviderSpec ProviderEnd
  /-- A task gives back only what it took. -/
  atHand : ∀ i client,total (given client) (Pool.history pool.trace i)≤
    total (taken client) (Pool.history pool.trace i)
  /-- A registered client stands under its identity. -/
  keys : ∀ key client,pool.world.get? key=some client → client.address=key
  /-- Clients held and taken are those made and registered. -/
  balance : ∀ client,held pool.world client+total (taken client) (events pool)=
    total (created client) (events pool)+total (registered client) (events pool)
  /-- No client is made twice. -/
  fresh : ∀ client,total (created client) (events pool)≤1
  /-- Two living clients have different identities. -/
  distinct : ∀ client other,Alive pool client → Alive pool other →
    client.address=other.address → client=other
  /-- A client is unregistered by the task that made it. -/
  released : ∀ i key client,⟨.unregister key,.ok (some client)⟩∈Pool.history pool.trace i →
    Made client (Pool.history pool.trace i)

theorem total_given (client : Client) (history : List ProviderEvent) :
    total (given client) history=
      total (registered client) history+total (closed client) history := by
  have hevent : ∀ event,given client event=registered client event+closed client event := by
    rintro ⟨op,answer⟩
    cases op with
    | register key other => cases answer <;> rfl
    | aclose other => exact (Nat.zero_add _).symm
    | _ => rfl
  rw [total,total,total,←List.sum_map_add]
  exact congrArg List.sum (List.map_congr_left fun event _ => hevent event)

variable {pool next : ProviderPool ι α}

/-- Nothing is given that was not taken, in the trace as in every history. -/
theorem Balanced.given_le (h : Balanced pool) (client : Client) :
    total (given client) (events pool)≤total (taken client) (events pool) :=
  Pool.sum_trace_le fun i => h.atHand i client

/-- What the invariant says of the clients. -/
theorem Balanced.accounted (h : Balanced pool) : ClientsAccounted pool := by
  constructor
  case once =>
    intro client
    have hgiven := h.given_le client
    rw [total_given] at hgiven
    have hbalance := h.balance client
    exact ⟨by omega,h.fresh client⟩
  case settled =>
    intro hended client
    have hend : ∀ i,total (taken client) (Pool.history pool.trace i)=
        total (given client) (Pool.history pool.trace i) := by
      intro i
      have hsound := h.sound i
      cases htask : pool.tasks i with
      | done result =>
        rw [htask] at hsound
        simpa using hsound client
      | await op resume =>
        have hi := hended i
        rw [htask] at hi
        cases hi
    have hle := Pool.sum_trace_le fun i => (hend i).le
    have hgiven := h.given_le client
    have hbalance := h.balance client
    have hsame : total (taken client) (events pool)=total (given client) (events pool) :=
      le_antisymm hle hgiven
    rw [total_given] at hsame
    omega
  case owner =>
    intro i client answer hclose
    have hgiven : 0<total (given client) (Pool.history pool.trace i) := by
      refine lt_of_lt_of_le Nat.zero_lt_one (List.single_le_sum (fun _ _ => Nat.zero_le _) _
        (List.mem_map.mpr ⟨_,hclose,?_⟩))
      simp [given,countOf]
    have htaken : 0<total (taken client) (Pool.history pool.trace i) :=
      lt_of_lt_of_le hgiven (h.atHand i client)
    obtain ⟨event,hevent,hpos⟩ : ∃ event∈Pool.history pool.trace i,0<taken client event := by
      by_contra hnone
      simp only [not_exists,not_and,not_lt] at hnone
      refine absurd htaken (Nat.not_lt.mpr ?_)
      refine (List.sum_eq_zero fun n hn => ?_).le
      obtain ⟨event,hevent,rfl⟩ := List.mem_map.mp hn
      exact Nat.le_zero.mp (hnone event hevent)
    have hcount : ∀ other : Client,0<countOf client other → other=client := by
      intro other ho
      unfold countOf at ho
      split at ho
      · assumption
      · cases ho
    obtain ⟨op,answer⟩ := event
    cases answer with
    | error e => cases op <;> cases hpos
    | ok answer =>
      cases op with
      | create profile credentials vpcId =>
        have hsame : answer=client := hcount answer hpos
        subst hsame
        exact Or.inl ⟨profile,credentials,vpcId,hevent⟩
      | unregister key =>
        cases answer with
        | none => cases hpos
        | some removed =>
          have hsame : removed=client := hcount removed hpos
          subst hsame
          exact Or.inl (h.released i key removed hevent)
      | takeAll => exact Or.inr ⟨answer,hevent,List.count_pos_iff.mp hpos⟩
      | _ => cases hpos

/-- What an operation gives was at hand before it. -/
theorem given_le_of_spec {history : List ProviderEvent} {op : ProviderOp}
    (hspec : ProviderSpec history op) (answer : Except PyException (ProviderAns op))
    (hle : ∀ client,total (given client) history≤total (taken client) history) (client : Client) :
    total (given client) (history++[⟨op,answer⟩])≤
      total (taken client) (history++[⟨op,answer⟩]) := by
  have hbefore := hle client
  rw [total_append,total_append]
  have hone : ∀ other : Client,total (given other) history<total (taken other) history →
      total (given client) history+countOf client other≤total (taken client) history := by
    intro other hother
    unfold countOf
    split
    · next hsame =>
      subst hsame
      omega
    · omega
  cases op with
  | register key other =>
    have hother := hone other hspec.2.2
    cases answer with
    | ok _ => exact hother.trans (Nat.le_add_right _ _)
    | error e => exact hbefore.trans (Nat.le_add_right _ _)
  | aclose other => exact (hone other hspec).trans (Nat.le_add_right _ _)
  | _ => exact hbefore.trans (Nat.le_add_right _ _)

/-- Removing a key leaves the other clients. -/
theorem get?_removed (active : ActiveClients) (key other : ℕ) :
    (active.filterEntries fun entry => decide (entry.1≠key)).get? other=
      if other=key then none else active.get? other := by
  rw [Dict.get?_filterEntries]
  by_cases h : other=key
  · simp [h]
  · rw [if_neg h]
    cases active.get? other <;> simp [h]

/-- A registered client counts once among the clients. -/
theorem count_values {active : ActiveClients}
    (hkeys : ∀ key client,active.get? key=some client → client.address=key) (client : Client) :
    List.count client active.values=held active client := by
  have hnodup : active.values.Nodup := by
    refine List.Nodup.of_map Client.address ?_
    rw [map_values_eq_keys hkeys]
    exact active.nodup
  rw [hnodup.count,held]
  have hiff : client∈active.values ↔ active.get? client.address=some client := by
    constructor
    · intro hmem
      obtain ⟨key,hget⟩ := Dict.exists_get?_of_mem_values hmem
      rwa [hkeys key client hget]
    · exact Dict.mem_values_of_get?
  by_cases h : client∈active.values
  · rw [if_pos h,if_pos (hiff.mp h)]
  · rw [if_neg h,if_neg fun hget => h (hiff.mpr hget)]

/-- A client that is about to be registered is alive, and nobody has registered
its identity. -/
theorem Balanced.unregistered (h : Balanced pool) {k : ι} {client : Client}
    (hlive : (pool.tasks k).ended=false) (hmade : Made client (Pool.history pool.trace k))
    (hhand : total (given client) (Pool.history pool.trace k)<
      total (taken client) (Pool.history pool.trace k)) :
    pool.world.get? client.address=none := by
  cases hget : pool.world.get? client.address with
  | none => rfl
  | some other =>
    have hsame : other=client := h.distinct other client (Or.inl (Dict.mem_values_of_get? hget))
      (Or.inr ⟨k,hmade,hlive⟩) (h.keys _ _ hget)
    rw [hsame] at hget
    have hlt := Pool.sum_trace_lt (fun i => h.atHand i client) hhand
    have hgiven := total_given client (events pool)
    have hbalance := h.balance client
    have hfresh := h.fresh client
    have hheld : held pool.world client=1 := if_pos hget
    have htotal : total (given client) (events pool)<total (taken client) (events pool) := hlt
    omega

/-- What one operation does to the registered clients: it adds none but one of
its own coroutine, and keeps the balance. -/
theorem Balanced.handled (h : Balanced pool) {k : ι} (hlive : (pool.tasks k).ended=false)
    {op : ProviderOp} {answer : Except PyException (ProviderAns op)} {world : ActiveClients}
    (hspec : ProviderSpec (Pool.history pool.trace k) op)
    (hhandles : providerHandles pool.world op answer world) :
    (∀ key client,world.get? key=some client → pool.world.get? key=some client ∨
      key=client.address ∧ Made client (Pool.history pool.trace k)) ∧
    ∀ client,held world client+taken client ⟨op,answer⟩=held pool.world client+
      (created client ⟨op,answer⟩+registered client ⟨op,answer⟩) := by
  cases op with
  | create profile credentials vpcId =>
    obtain ⟨rfl,-⟩ := hhandles
    refine ⟨fun key client hget => Or.inl hget,fun client => ?_⟩
    cases answer <;> rfl
  | register key client =>
    obtain ⟨rfl,hmade,hhand⟩ := hspec
    rcases hhandles with ⟨rfl,rfl⟩|⟨⟨error,rfl⟩,rfl⟩
    · have hnone := h.unregistered hlive hmade hhand
      refine ⟨fun key other hget => ?_,fun other => ?_⟩
      · rw [Dict.get?_insert] at hget
        split at hget
        · next hkey =>
          cases hget
          exact Or.inr ⟨hkey,hmade⟩
        · exact Or.inl hget
      · show held (pool.world.insert client.address client) other+0=
          held pool.world other+(0+countOf other client)
        unfold held countOf
        rw [Dict.get?_insert]
        by_cases hother : other.address=client.address
        · rw [if_pos hother,hother,hnone]
          simp
        · have hne : client≠other := fun heq => hother (by rw [heq])
          rw [if_neg hother,if_neg hne]
    · exact ⟨fun key other hget => Or.inl hget,fun other => rfl⟩
  | unregister key =>
    rcases hhandles with ⟨rfl,rfl⟩|⟨⟨error,rfl⟩,rfl⟩
    · refine ⟨fun other client hget => ?_,fun client => ?_⟩
      · rw [get?_removed] at hget
        split at hget
        · cases hget
        · exact Or.inl hget
      · have htaken : taken client ⟨.unregister key,.ok (pool.world.get? key)⟩=
            if pool.world.get? key=some client then 1 else 0 := by
          cases hget : pool.world.get? key with
          | none => rfl
          | some removed => simp [taken,countOf]
        show held _ client+taken client ⟨.unregister key,.ok (pool.world.get? key)⟩=
          held pool.world client+(0+0)
        rw [htaken]
        unfold held
        rw [get?_removed]
        by_cases hkey : client.address=key
        · rw [if_pos hkey,hkey]
          simp
        · have hne : pool.world.get? key≠some client := fun hget => hkey (h.keys key client hget)
          rw [if_neg hkey,if_neg hne]
    · exact ⟨fun other client hget => Or.inl hget,fun client => rfl⟩
  | takeAll =>
    rcases hhandles with ⟨rfl,rfl⟩|⟨⟨error,rfl⟩,rfl⟩
    · refine ⟨fun key client hget => by simp at hget,fun client => ?_⟩
      have hcount := count_values h.keys client
      show held .empty client+List.count client pool.world.values=held pool.world client+(0+0)
      rw [hcount]
      simp [held]
    · exact ⟨fun other client hget => Or.inl hget,fun client => rfl⟩
  | _ =>
    cases hhandles
    exact ⟨fun other client hget => Or.inl hget,fun client => rfl⟩

/-- Whoever is alive after an operation was alive before, or was made by it. -/
theorem alive_before {k : ι} {event : ProviderEvent}
    (hlive : (pool.tasks k).ended=false) (htrace : next.trace=pool.trace++[(k,event)])
    (hended : ∀ i,(next.tasks i).ended=false → (pool.tasks i).ended=false)
    (hworld : ∀ key client,next.world.get? key=some client → pool.world.get? key=some client ∨
      key=client.address ∧ Made client (Pool.history pool.trace k)) {client : Client}
    (halive : Alive next client) : Alive pool client ∨ ∃ profile credentials vpcId,
      event=⟨.create profile credentials vpcId,.ok client⟩ := by
  rcases halive with hvalue|⟨i,⟨profile,credentials,vpcId,hmade⟩,hi⟩
  · obtain ⟨key,hget⟩ := Dict.exists_get?_of_mem_values hvalue
    rcases hworld key client hget with hget|⟨-,hmade⟩
    · exact Or.inl (Or.inl (Dict.mem_values_of_get? hget))
    · exact Or.inl (Or.inr ⟨k,hmade,hlive⟩)
  · rw [htrace,Pool.mem_history_append] at hmade
    rcases hmade with hmade|⟨-,hevent⟩
    · exact Or.inl (Or.inr ⟨i,⟨profile,credentials,vpcId,hmade⟩,hended i hi⟩)
    · exact Or.inr ⟨profile,credentials,vpcId,hevent.symm⟩

/-- Every allowed step keeps the balance. -/
theorem Balanced.step (h : Balanced pool) {label : Option (ι × ProviderEvent)}
    (hfresh : FreshClients pool label)
    (hstep : Pool.Step providerHandles (fun world next => next=world) pool label next) :
    Balanced next := by
  cases label with
  | none =>
    cases hstep with
    | world hothers =>
      subst hothers
      exact h
  | some entry =>
    obtain ⟨k,op,answer⟩ := entry
    obtain ⟨htrace,hhandles,hlive,hended⟩ := hstep.trace_eq
    obtain ⟨hspec,hsound⟩ := h.sound.step hstep
    obtain ⟨hworld,hbalance⟩ := h.handled hlive hspec hhandles
    have hevents : events next=events pool++[⟨op,answer⟩] := by
      rw [events,htrace,List.map_append]
      rfl
    constructor
    case sound => exact hsound trivial
    case atHand =>
      intro i client
      rw [htrace]
      by_cases hi : i=k
      · subst hi
        rw [Pool.history_append_self]
        exact given_le_of_spec hspec answer (h.atHand i) client
      · rw [Pool.history_append_of_ne _ (Ne.symm hi)]
        exact h.atHand i client
    case keys =>
      intro key client hget
      rcases hworld key client hget with hget|⟨hkey,-⟩
      · exact h.keys key client hget
      · exact hkey.symm
    case balance =>
      intro client
      have hbefore := h.balance client
      have hone : held next.world client+taken client ⟨op,answer⟩=held pool.world client+
        (created client ⟨op,answer⟩+registered client ⟨op,answer⟩) := hbalance client
      rw [hevents,total_append,total_append,total_append]
      omega
    case fresh =>
      intro client
      have hbefore := h.fresh client
      rw [hevents,total_append]
      cases op with
      | create profile credentials vpcId =>
        cases answer with
        | error e => exact hbefore
        | ok made =>
          show total (created client) (events pool)+countOf client made≤1
          unfold countOf
          split
          · next hsame =>
            subst hsame
            rw [(hfresh k profile credentials vpcId made rfl).1]
          · exact hbefore
      | _ => exact hbefore
    case distinct =>
      intro client other hclient hother haddress
      rcases alive_before hlive htrace hended hworld hclient with hc|⟨profile,credentials,vpcId,hc⟩
      · rcases alive_before hlive htrace hended hworld hother with ho|⟨profile,credentials,vpcId,ho⟩
        · exact h.distinct client other hc ho haddress
        · exact absurd haddress
            ((hfresh k profile credentials vpcId other (by rw [ho])).2 client hc)
      · rcases alive_before hlive htrace hended hworld hother with ho|⟨_,_,_,ho⟩
        · exact absurd haddress.symm
            ((hfresh k profile credentials vpcId client (by rw [hc])).2 other ho)
        · rw [hc] at ho
          cases ho
          rfl
    case released =>
      intro i key client hrelease
      rw [htrace,Pool.mem_history_append] at hrelease
      have hmono : ∀ {client : Client},Made client (Pool.history pool.trace i) →
          Made client (Pool.history next.trace i) := by
        rintro client ⟨profile,credentials,vpcId,hmade⟩
        refine ⟨profile,credentials,vpcId,?_⟩
        rw [htrace,Pool.mem_history_append]
        exact Or.inl hmade
      rcases hrelease with hrelease|⟨rfl,hevent⟩
      · exact hmono (h.released i key client hrelease)
      · cases hevent
        obtain ⟨own,hmade,rfl⟩ := hspec
        rcases hhandles with ⟨hget,-⟩|⟨⟨error,herror⟩,-⟩
        · have hget' : pool.world.get? own.address=some client := (Except.ok.inj hget).symm
          have hsame : client=own := h.distinct client own
            (Or.inl (Dict.mem_values_of_get? hget')) (Or.inr ⟨i,hmade,hlive⟩) (h.keys _ _ hget')
          rw [hsame]
          exact hmono hmade
        · cases herror

/-- In every interleaving of work with clients and closings of all clients, no
client is closed twice or while it is registered, each is closed by whoever made
it or by a closing of all clients, and in the end none is left that is neither
closed nor registered. -/
theorem clients_accounted {tasks : ι → Provider α} (htasks : ∀ i,ProviderTask (tasks i))
    (hrun : Pool.Run providerHandles (fun world next => next=world) FreshClients
      ⟨.empty,tasks,[]⟩ pool) : ClientsAccounted pool := by
  have hstart : Balanced (⟨.empty,tasks,[]⟩ : ProviderPool ι α) := by
    constructor
    case sound => exact Pool.soundAll_start fun i => (htasks i).keeps
    case atHand => exact fun i client => le_rfl
    case keys => exact fun key client hget => by simp at hget
    case balance => exact fun client => by simp [held,events,total]
    case fresh => exact fun client => Nat.zero_le _
    case distinct =>
      rintro client other (hclient|⟨i,⟨_,_,_,hmade⟩,-⟩)
      · cases hclient
      · cases hmade
    case released => exact fun i key client hmem => by cases hmem
  have hbalanced : Balanced pool := hrun.inv hstart
    fun _ _ _ hinv hallowed hstep => hinv.step hallowed hstep
  exact hbalanced.accounted

end Interleaving

/-- A connectable profile with the answers of its site. -/
def siteProfile : CSPProfile := ⟨1,"https://csp.example","admin",some ⟨true,true⟩⟩

def siteClient : Client := ⟨0,4096,"admin","secret",none⟩

/-- A site on which everything succeeds. -/
def siteOracle (active : ActiveClients) :
    (op : ProviderOp) → Except PyException (ProviderAns op) × ActiveClients
  | .enterUow => (.ok (),active)
  | .exitUow => (.ok (),active)
  | .getById _ => (.ok (some siteProfile),active)
  | .listAll => (.ok [siteProfile],active)
  | .getForConnection _ => (.ok (some ⟨"pem",some "secret"⟩),active)
  | .create _ _ _ => (.ok siteClient,active)
  | .register key client => (.ok (),active.insert key client)
  | .use _ => (.ok (),active)
  | .login _ => (.ok ["vpc"],active)
  | .unregister key =>
    (.ok (active.get? key),active.filterEntries fun entry => decide (entry.1≠key))
  | .takeAll => (.ok active.values,.empty)
  | .aclose _ => (.ok (),active)

/-- Whether a coroutine makes a client next. -/
def creates : Provider (List String) → Bool
  | .await (.create _ _ _) _ => true
  | _ => false

/-- Whether no client is made in a schedule. -/
def createsNone : List Bool → ProviderPool Bool (List String) → Bool
  | [],_ => true
  | i::order,pool =>
    !creates (pool.tasks i) && createsNone order (Pool.advance siteOracle pool i)

/-- A schedule in which no client is made is a run. -/
theorem run_of_createsNone {order : List Bool} {start pool : ProviderPool Bool (List String)}
    (horder : createsNone order pool=true)
    (hrun : Pool.Run providerHandles (fun world next => next=world) FreshClients start pool) :
    Pool.Run providerHandles (fun world next => next=world) FreshClients start
      (order.foldl (Pool.advance siteOracle) pool) := by
  induction order generalizing pool with
  | nil => exact hrun
  | cons i order ih =>
    rw [createsNone,Bool.and_eq_true,Bool.not_eq_true'] at horder
    refine ih horder.2 ?_
    unfold Pool.advance
    split
    · exact hrun
    · next op resume htask =>
      refine hrun.step ?_ (.task htask ?_)
      · intro j profile credentials vpcId client hlabel
        cases hlabel
        rw [htask] at horder
        cases horder.1
      · cases op with
        | create _ _ _ =>
          rw [htask] at horder
          cases horder.1
        | register _ _ | unregister _ | takeAll => exact Or.inl ⟨rfl,rfl⟩
        | _ => exact rfl

/-- Networks are discovered while all clients are closed. -/
def siteTasks : Bool → Provider (List String)
  | true => discoverVpcs 1
  | false => closeAll.bind fun _ => pure []

/-- The profile has been read. -/
def siteLoaded : ProviderPool Bool (List String) :=
  [true,true,true,true].foldl (Pool.advance siteOracle) ⟨.empty,siteTasks,[]⟩

/-- All clients are closed between the registering of the client and its use. -/
def siteClosed : ProviderPool Bool (List String) :=
  [true,false,false,true,true].foldl (Pool.advance siteOracle)
    (Pool.advance siteOracle siteLoaded true)

/-- The client is closed once. -/
theorem clients_accounted_site : total (closed siteClient) (events siteClosed)=1 ∧
    ClientsAccounted siteClosed := by
  have hloaded : Pool.Run providerHandles (fun world next => next=world) FreshClients
      ⟨.empty,siteTasks,[]⟩ siteLoaded := run_of_createsNone (by decide +kernel) .start
  have hnone : ∀ client,total (created client) (events siteLoaded)=0 := fun client => rfl
  have hfresh : FreshClients siteLoaded (some (true,⟨.create siteProfile ⟨"pem",some "secret"⟩
      none,.ok siteClient⟩)) := by
    intro i profile credentials vpcId client hlabel
    refine ⟨hnone client,fun other halive => ?_⟩
    rcases halive with hvalue|⟨j,⟨_,_,_,hmade⟩,-⟩
    · cases hvalue
    · have hmem := (Pool.history_sublist siteLoaded.trace j).subset hmade
      have hone : created other ⟨.create _ _ _,.ok other⟩≤
          total (created other) (events siteLoaded) :=
        List.single_le_sum (fun _ _ => Nat.zero_le _) _ (List.mem_map_of_mem hmem)
      rw [hnone] at hone
      simp [created,countOf] at hone
  have hmade : Pool.Run providerHandles (fun world next => next=world) FreshClients
      ⟨.empty,siteTasks,[]⟩ (Pool.advance siteOracle siteLoaded true) := by
    have hstep : Pool.Step providerHandles (fun world next => next=world) siteLoaded
        (some (true,⟨.create siteProfile ⟨"pem",some "secret"⟩ none,(siteOracle
          siteLoaded.world (.create siteProfile ⟨"pem",some "secret"⟩ none)).1⟩))
        (Pool.advance siteOracle siteLoaded true) := by
      refine Pool.step_advance rfl ⟨rfl,fun client hclient => ?_⟩
      cases hclient
      exact ⟨rfl,rfl,rfl⟩
    exact hloaded.step hfresh hstep
  refine ⟨by decide +kernel,clients_accounted (fun i => ?_)
    (run_of_createsNone (by decide +kernel) hmade)⟩
  cases i with
  | true => exact providerTask_discoverVpcs 1
  | false => exact .closeAll []

end NspMigrator.SdwanClientProvider
