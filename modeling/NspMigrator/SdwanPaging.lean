import Mathlib
import NspMigrator.PyLoop
import NspMigrator.SdwanCatalogReading

/-!
# Listings of the controller

Services, address objects and policies are listed page by page along cursors,
zones and networks in one or two requests. A controller may answer a request
anything, and may answer by what it was asked before.
-/

namespace NspMigrator.SdwanPaging

open PyLoop SdwanSchemas SdwanCatalogReading ExecuteRepository

/-- A request to the controller. -/
structure PageRequest where
  /-- The path that is asked for. -/
  path : String
  /-- The query parameters. -/
  params : JsonFields := []

/-- One page of a listing. -/
structure ResponsePage (β : Type) where
  /-- The objects of the page. -/
  data : List β
  /-- How many objects the listing has, by the server. -/
  total : ℤ
  /-- The cursor of the next page. -/
  nextPage : Option String

/-- A controller: what it was asked before and the request give a failure, or a body that
validates as a response or does not. -/
abbrev Controller (α : Type) :=
  List PageRequest → PageRequest → Except PyException (Except PyException α)

/-- A listing along cursors, with the words of its errors. -/
structure Listing where
  /-- The name of the schema a page is read with. -/
  schema : String
  /-- What is listed. -/
  title : String
  /-- What an error calls the listing. -/
  label : String
  /-- The request for the page at a cursor. -/
  request : Option String → PageRequest

/-- The cursor of a request, if there is one. -/
def cursorParam (cursor : Option String) : JsonFields :=
  cursor.toList.map fun cursor => ("cursor",.str cursor)

/-- The pages of the services of a VPC. -/
def servicesListing (vpcId : String) : Listing where
  schema := "services"
  title := "Services"
  label := "services"
  request cursor := ⟨"/so/v2/vpcs/"++vpcId++"/fw/services",("limit",.int 10000)::cursorParam cursor⟩

/-- The pages of the address objects that match a query. -/
def addrObjectsListing (query : Option String) : Listing where
  schema := "addr_objects"
  title := "Address objects"
  label := "address objects"
  request cursor := ⟨"/so/v1/address_objects",("limit",.int 10000)::cursorParam cursor++
    query.toList.map fun query => ("query",.str query)⟩

/-- The pages of the policies of some parents that match a query. -/
def policiesListing (parents : List String) (query : Option String) : Listing where
  schema := "policies"
  title := "Policies"
  label := "policies"
  request cursor := ⟨"/so/v2/policies",
    ("with_null_policy",.bool false)::("limit",.int 10000)::cursorParam cursor++
      (if parents=[] then [] else [("parents",.str (", ".intercalate parents))])++
      query.toList.map fun query => ("query",.str query)⟩

variable {β : Type}

/-- Ask for one page. -/
def fetchPage (listing : Listing) (controller : Controller (ResponsePage β))
    (asked : List PageRequest) (cursor : Option String) : Except PyException (ResponsePage β) := do
  let response ← controller asked (listing.request cursor)
  response.mapError (responseError listing.schema)

/-- What was read along the cursors so far. -/
structure FetchState (β : Type) where
  /-- The objects so far. -/
  items : List β := []
  /-- The requests so far. -/
  asked : List PageRequest := []
  /-- Where the next page is. -/
  cursor : Option String := none
  /-- The total of the first page. -/
  expectedTotal : Option ℤ := none
  /-- The cursors that were followed. -/
  seenCursors : List String := []

/-- An error of a listing. -/
def listingError (message : String) : PyException := ⟨"SDWANCspHttpResponseError",message⟩

/-- One page more, or the end of the listing. -/
def fetchStep (listing : Listing) (controller : Controller (ResponsePage β)) (σ : FetchState β) :
    FetchState β ⊕ Except PyException (List β) :=
  match fetchPage listing controller σ.asked σ.cursor with
  | .error error => .inr (.error error)
  | .ok page =>
    let expectedTotal := σ.expectedTotal.getD page.total
    if page.total≠expectedTotal then
      .inr (.error (listingError (listing.title++" total changed during pagination: expected "++
        toString expectedTotal++", got "++toString page.total)))
    else
      let items := σ.items++page.data
      match page.nextPage with
      | none =>
        if (items.length : ℤ)≠expectedTotal then
          .inr (.error (listingError ("Incomplete "++listing.label++" response: expected "++
            toString expectedTotal++", got "++toString items.length)))
        else .inr (.ok items)
      | some nextCursor =>
        if nextCursor∈σ.seenCursors then
          .inr (.error (listingError (listing.title++" pagination returned a repeated cursor")))
        else .inl ⟨items,σ.asked++[listing.request σ.cursor],some nextCursor,some expectedTotal,
          nextCursor::σ.seenCursors⟩

/-- Follow the cursors of a listing to its end. -/
def fetchAll (listing : Listing) (controller : Controller (ResponsePage β)) (fuel : ℕ) :
    Option (Except PyException (List β)) :=
  loop (fetchStep listing controller) fuel {}

/-- All services of the selected VPC. -/
def fetchAllServices (vpcId : Option String) (controller : Controller (ResponsePage β)) (fuel : ℕ) :
    Option (Except PyException (List β)) :=
  match vpcId with
  | none => some (.error ⟨"SDWANCspHttpError","VPC is not selected"⟩)
  | some vpcId => fetchAll (servicesListing vpcId) controller fuel

/-- All address objects that match a query. -/
def fetchAllAddrObjects (query : Option String) (controller : Controller (ResponsePage β))
    (fuel : ℕ) :
    Option (Except PyException (List β)) :=
  fetchAll (addrObjectsListing query) controller fuel

/-- All policies of some parents that match a query. -/
def fetchAllPolicies (parents : List String) (query : Option String)
    (controller : Controller (ResponsePage β)) (fuel : ℕ) : Option (Except PyException (List β)) :=
  fetchAll (policiesListing parents query) controller fuel

/-- Pages received in turn, each for the cursor the one before it gave. -/
inductive Receives (listing : Listing) (controller : Controller (ResponsePage β)) :
    List (ResponsePage β) → List PageRequest → Option String → Prop where
  | start : Receives listing controller [] [] none
  | next {pages : List (ResponsePage β)} {asked : List PageRequest} {cursor : Option String}
      {page : ResponsePage β} {nextCursor : String}
      (h : Receives listing controller pages asked cursor)
      (hpage : fetchPage listing controller asked cursor=.ok page)
      (hnext : page.nextPage=some nextCursor) :
      Receives listing controller (pages++[page]) (asked++[listing.request cursor])
        (some nextCursor)

/-- A complete listing: the pages received in turn up to one without a cursor, all of which
report the number of objects in them all. -/
def Complete (listing : Listing) (controller : Controller (ResponsePage β)) (items : List β) :
    Prop :=
  ∃ pages asked cursor last,Receives listing controller pages asked cursor ∧
    fetchPage listing controller asked cursor=.ok last ∧ last.nextPage=none ∧
    items=(pages++[last]).flatMap (·.data) ∧ ∀ page∈pages++[last],page.total=items.length

/-- A listing ends, whatever fuel it is given from some number on, and is complete unless it
raises. -/
def CompleteOrRaises (fetch : ℕ → Option (Except PyException (List β)))
    (Complete : List β → Prop) : Prop :=
  ∃ bound outcome,(∀ fuel,bound≤ fuel → fetch fuel=some outcome) ∧
    ∀ items,outcome=.ok items → Complete items

section Cursors

variable {listing : Listing} {controller : Controller (ResponsePage β)} {σ next : FetchState β}

/-- A step that goes on has received a page with a new cursor. -/
theorem fetchStep_eq_inl (h : fetchStep listing controller σ=.inl next) :
    ∃ page nextCursor,fetchPage listing controller σ.asked σ.cursor=.ok page ∧
      page.total=σ.expectedTotal.getD page.total ∧ page.nextPage=some nextCursor ∧
      nextCursor∉σ.seenCursors ∧ next=⟨σ.items++page.data,σ.asked++[listing.request σ.cursor],
        some nextCursor,some page.total,nextCursor::σ.seenCursors⟩ := by
  unfold fetchStep at h
  cases hpage : fetchPage listing controller σ.asked σ.cursor with
  | error error =>
    rw [hpage] at h
    cases h
  | ok page =>
    rw [hpage] at h
    dsimp only at h
    by_cases htotal : page.total=σ.expectedTotal.getD page.total
    · rw [if_neg (not_not.mpr htotal)] at h
      cases hcursor : page.nextPage with
      | none =>
        rw [hcursor] at h
        dsimp only at h
        split at h
        · cases h
        · cases h
      | some nextCursor =>
        rw [hcursor] at h
        dsimp only at h
        by_cases hseen : nextCursor∈σ.seenCursors
        · rw [if_pos hseen] at h
          cases h
        · rw [if_neg hseen,←htotal] at h
          cases h
          exact ⟨page,nextCursor,rfl,htotal,hcursor,hseen,rfl⟩
    · rw [if_pos htotal] at h
      cases h

/-- A step that returns has received the last page, and has as many objects as it reports. -/
theorem fetchStep_eq_inr {items : List β} (h : fetchStep listing controller σ=.inr (.ok items)) :
    ∃ page,fetchPage listing controller σ.asked σ.cursor=.ok page ∧
      page.total=σ.expectedTotal.getD page.total ∧ page.nextPage=none ∧
      items=σ.items++page.data ∧ (items.length : ℤ)=page.total := by
  unfold fetchStep at h
  cases hpage : fetchPage listing controller σ.asked σ.cursor with
  | error error =>
    rw [hpage] at h
    cases h
  | ok page =>
    rw [hpage] at h
    dsimp only at h
    by_cases htotal : page.total=σ.expectedTotal.getD page.total
    · rw [if_neg (not_not.mpr htotal)] at h
      cases hcursor : page.nextPage with
      | none =>
        rw [hcursor] at h
        dsimp only at h
        by_cases hlength : ((σ.items++page.data).length : ℤ)=σ.expectedTotal.getD page.total
        · rw [if_neg (not_not.mpr hlength)] at h
          cases h
          exact ⟨page,rfl,htotal,hcursor,rfl,hlength.trans htotal.symm⟩
        · rw [if_pos hlength] at h
          cases h
      | some nextCursor =>
        rw [hcursor] at h
        dsimp only at h
        split at h
        · cases h
        · cases h
    · rw [if_pos htotal] at h
      cases h

/-- The pages behind what was read. -/
def Reading (listing : Listing) (controller : Controller (ResponsePage β)) (σ : FetchState β) :
    Prop :=
  ∃ pages,Receives listing controller pages σ.asked σ.cursor ∧ σ.items=pages.flatMap (·.data) ∧
    ∀ page∈pages,σ.expectedTotal=some page.total

/-- A page more. -/
theorem Reading.step (h : Reading listing controller σ)
    (hstep : fetchStep listing controller σ=.inl next) : Reading listing controller next := by
  obtain ⟨pages,hreceives,hitems,htotals⟩ := h
  obtain ⟨page,nextCursor,hpage,htotal,hcursor,-,rfl⟩ := fetchStep_eq_inl hstep
  refine ⟨pages++[page],.next hreceives hpage hcursor,?_,fun other ho => ?_⟩
  · rw [List.flatMap_append,List.flatMap_singleton,hitems]
  · rcases List.mem_append.mp ho with ho|ho
    · rw [htotals other ho,Option.getD_some] at htotal
      rw [htotal]
    · rw [List.mem_singleton.mp ho]

/-- The last page completes what was read. -/
theorem Reading.complete {items : List β} (h : Reading listing controller σ)
    (hstep : fetchStep listing controller σ=.inr (.ok items)) :
    Complete listing controller items := by
  obtain ⟨pages,hreceives,hitems,htotals⟩ := h
  obtain ⟨page,hpage,htotal,hcursor,hall,hlength⟩ := fetchStep_eq_inr hstep
  refine ⟨pages,σ.asked,σ.cursor,page,hreceives,hpage,hcursor,?_,fun other ho => ?_⟩
  · rw [List.flatMap_append,List.flatMap_singleton,←hitems,hall]
  · rcases List.mem_append.mp ho with ho|ho
    · rw [htotals other ho,Option.getD_some] at htotal
      rw [hlength,htotal]
    · rw [List.mem_singleton.mp ho,hlength]

/-- Cursors of the controller that were not seen yet. -/
def unseen (cursors : Finset String) (σ : FetchState β) : ℕ :=
  (cursors.filter (·∉σ.seenCursors)).card

/-- Every page with a cursor sees a new one. -/
theorem unseen_lt {cursors : Finset String}
    (hfinite : ∀ asked request page nextCursor,controller asked request=.ok (.ok page) →
      page.nextPage=some nextCursor → nextCursor∈cursors)
    (hstep : fetchStep listing controller σ=.inl next) : unseen cursors next<unseen cursors σ := by
  obtain ⟨page,nextCursor,hpage,-,hcursor,hnew,rfl⟩ := fetchStep_eq_inl hstep
  have hin : nextCursor∈cursors := by
    obtain ⟨response,hresponse,hvalid⟩ := PyExcept.bind_eq_ok.mp hpage
    have hbody := (mapError_eq_ok).mp hvalid
    rw [hbody] at hresponse
    exact hfinite _ _ _ _ hresponse hcursor
  refine Finset.card_lt_card (Finset.ssubset_iff_of_subset ?_ |>.mpr ⟨nextCursor,?_,?_⟩)
  · intro cursor hc
    rw [Finset.mem_filter] at hc ⊢
    exact ⟨hc.1,fun hs => hc.2 (List.mem_cons_of_mem _ hs)⟩
  · exact Finset.mem_filter.mpr ⟨hin,hnew⟩
  · exact fun hc => (Finset.mem_filter.mp hc).2 List.mem_cons_self

/-- A listing along finitely many cursors ends, and is complete unless it raises. -/
theorem fetchAll_completeOrRaises {cursors : Finset String}
    (hfinite : ∀ asked request page nextCursor,controller asked request=.ok (.ok page) →
      page.nextPage=some nextCursor → nextCursor∈cursors) :
    CompleteOrRaises (fetchAll listing controller) (Complete listing controller) := by
  have hstart : Reading listing controller ({} : FetchState β) :=
    ⟨[],.start,rfl,fun page hp => absurd hp List.not_mem_nil⟩
  have hmeasure : ∀ s next,True → fetchStep listing controller s=.inl next →
      True ∧ unseen cursors next<unseen cursors s :=
    fun s next _ hstep => ⟨trivial,unseen_lt hfinite hstep⟩
  have hends : ∃ outcome,loop (fetchStep listing controller)
      (unseen cursors ({} : FetchState β)+1) {}=some outcome :=
    exists_loop_of_measure (I:=fun _ => True) (unseen cursors) hmeasure trivial
      (Nat.lt_succ_self _)
  obtain ⟨outcome,houtcome⟩ := hends
  refine ⟨_,outcome,fun fuel hfuel => loop_mono houtcome hfuel,fun items hitems => ?_⟩
  rw [hitems] at houtcome
  obtain ⟨last,hlast,hstep⟩ := exists_last_of_loop (fun s next hs hstep => hs.step hstep) hstart
    houtcome
  exact hlast.complete hstep

end Cursors

/-- The listings of services, address objects and policies end for any controller with
finitely many cursors, and return all its pages or raise. -/
theorem cursor_listings_complete {controller : Controller (ResponsePage β)}
    {cursors : Finset String}
    (hfinite : ∀ asked request page nextCursor,controller asked request=.ok (.ok page) →
      page.nextPage=some nextCursor → nextCursor∈cursors)
    (vpcId : Option String) (query : Option String) (parents : List String) :
    CompleteOrRaises (fetchAllServices vpcId controller)
        (fun items => ∃ vpc,vpcId=some vpc ∧ Complete (servicesListing vpc) controller items) ∧
      CompleteOrRaises (fetchAllAddrObjects query controller)
        (Complete (addrObjectsListing query) controller) ∧
      CompleteOrRaises (fetchAllPolicies parents query controller)
        (Complete (policiesListing parents query) controller) := by
  refine ⟨?_,fetchAll_completeOrRaises hfinite,fetchAll_completeOrRaises hfinite⟩
  cases vpcId with
  | none => exact ⟨0,_,fun fuel _ => rfl,fun items hitems => by cases hitems⟩
  | some vpc =>
    have hvpc : CompleteOrRaises (fetchAll (servicesListing vpc) controller)
        (Complete (servicesListing vpc) controller) := fetchAll_completeOrRaises hfinite
    obtain ⟨bound,outcome,hends,hcomplete⟩ := hvpc
    exact ⟨bound,outcome,hends,fun items hitems => ⟨vpc,rfl,hcomplete items hitems⟩⟩

/-- A controller with two pages. -/
def twoPages : Controller (ResponsePage ℕ)
  | [],_ => .ok (.ok ⟨[1,2],3,some "next"⟩)
  | _::_,_ => .ok (.ok ⟨[3],3,none⟩)

/-- Both pages of a controller are listed. -/
theorem cursor_listings_complete_twoPages :
    CompleteOrRaises (fetchAllServices (some "vpc") twoPages) (fun items => ∃ vpc,
        some "vpc"=some vpc ∧ Complete (servicesListing vpc) twoPages items) ∧
      CompleteOrRaises (fetchAllAddrObjects none twoPages)
        (Complete (addrObjectsListing none) twoPages) ∧
      CompleteOrRaises (fetchAllPolicies [] none twoPages)
        (Complete (policiesListing [] none) twoPages) := by
  refine @cursor_listings_complete ℕ twoPages {"next"} ?_ (some "vpc") none []
  intro asked request page nextCursor hpage hnext
  cases asked with
  | nil =>
    cases hpage
    cases hnext
    exact Finset.mem_singleton_self _
  | cons first asked =>
    cases hpage
    cases hnext

section Listed

/-- A listing that is not paged. -/
structure ListResponse (β : Type) where
  /-- The objects. -/
  result : List β
  /-- The number of the page. -/
  page : ℤ
  /-- How many objects there are, by the server. -/
  total : ℤ

/-- The path of the zones. -/
def zonesPath : String := "/ac/v1/zones"

/-- The path of the networks. -/
def networksPath : String := "/ac/v1/networks"

/-- A request for as many objects as a listing reported. -/
def limitedRequest (path : String) (total : ℤ) : PageRequest := ⟨path,[("limit",.int total)]⟩

/-- Ask for a listing; a body that does not validate raises. -/
def fetchListed (controller : Controller (ListResponse β)) (asked : List PageRequest)
    (request : PageRequest) : Except PyException (ListResponse β) := do
  let response ← controller asked request
  response

/-- All objects of a path. Where fewer are listed than reported, as many as were
reported are asked for, once. -/
def fetchAllListed (path : String) (controller : Controller (ListResponse β)) :
    Except PyException (List β) := do
  let response ← fetchListed controller [] ⟨path,[]⟩
  if response.result.length< response.total then
    let response ← fetchListed controller [⟨path,[]⟩] (limitedRequest path response.total)
    return response.result
  else return response.result

/-- All zones. -/
def fetchAllZones (controller : Controller (ListResponse β)) : Except PyException (List β) :=
  fetchAllListed zonesPath controller

/-- All networks. -/
def fetchAllNetworks (controller : Controller (ListResponse β)) : Except PyException (List β) :=
  fetchAllListed networksPath controller

/-- The last response to the requests for a path. -/
inductive LastResponse (path : String) (controller : Controller (ListResponse β)) :
    ListResponse β → Prop where
  | first {response : ListResponse β} (hfirst : fetchListed controller [] ⟨path,[]⟩=.ok response)
      (hall : response.total≤ response.result.length) : LastResponse path controller response
  | second {response last : ListResponse β}
      (hfirst : fetchListed controller [] ⟨path,[]⟩=.ok response)
      (hmore : response.result.length< response.total)
      (hsecond : fetchListed controller [⟨path,[]⟩] (limitedRequest path response.total)=.ok last) :
      LastResponse path controller last

/-- A listing gives as many objects as the last response reports, unless it raises. -/
def CountsOrRaises (path : String) (controller : Controller (ListResponse β))
    (outcome : Except PyException (List β)) : Prop :=
  ∀ items,outcome=.ok items → ∃ last,LastResponse path controller last ∧
    (items.length : ℤ)=last.total

/-- A controller reports no less than it lists, and lists all it reports when asked for as much
as it reported before: nothing was added meanwhile, and no limit of its own cuts the answer. -/
def Settled (path : String) (controller : Controller (ListResponse β)) : Prop :=
  ∀ first,fetchListed controller [] ⟨path,[]⟩=.ok first →
    first.result.length≤ first.total ∧
    (first.result.length< first.total → ∀ second,
      fetchListed controller [⟨path,[]⟩] (limitedRequest path first.total)=.ok second →
        (second.result.length : ℤ)=second.total)

variable {path : String} {controller : Controller (ListResponse β)}

/-- The objects of a listing are those of its last response. -/
theorem fetchAllListed_eq_ok {items : List β} (h : fetchAllListed path controller=.ok items) :
    ∃ last,LastResponse path controller last ∧ items=last.result := by
  obtain ⟨response,hresponse,hrest⟩ := PyExcept.bind_eq_ok.mp h
  by_cases hmore : (response.result.length : ℤ)< response.total
  · rw [if_pos hmore] at hrest
    obtain ⟨last,hlast,hitems⟩ := PyExcept.bind_eq_ok.mp hrest
    exact ⟨last,.second hresponse hmore hlast,(PyExcept.pure_eq_ok.mp hitems).symm⟩
  · rw [if_neg hmore] at hrest
    exact ⟨response,.first hresponse (not_lt.mp hmore),(PyExcept.pure_eq_ok.mp hrest).symm⟩

/-- The last response is given back whole. -/
theorem fetchAllListed_of_last {last : ListResponse β} (h : LastResponse path controller last) :
    fetchAllListed path controller=.ok last.result := by
  cases h with
  | first hfirst hall =>
    refine PyExcept.bind_eq_ok.mpr ⟨last,hfirst,?_⟩
    rw [if_neg (not_lt.mpr hall)]
    rfl
  | second hfirst hmore hsecond =>
    refine PyExcept.bind_eq_ok.mpr ⟨_,hfirst,?_⟩
    rw [if_pos hmore]
    exact PyExcept.bind_eq_ok.mpr ⟨last,hsecond,rfl⟩

/-- Only one response is the last. -/
theorem LastResponse.unique {last other : ListResponse β} (h : LastResponse path controller last)
    (hother : LastResponse path controller other) : last=other := by
  cases h with
  | first hfirst hall =>
    cases hother with
    | first hfirst' hall' => exact Except.ok.inj (hfirst.symm.trans hfirst')
    | second hfirst' hmore' hsecond' =>
      obtain rfl := Except.ok.inj (hfirst.symm.trans hfirst')
      exact absurd hmore' (not_lt.mpr hall)
  | second hfirst hmore hsecond =>
    cases hother with
    | first hfirst' hall' =>
      obtain rfl := Except.ok.inj (hfirst.symm.trans hfirst')
      exact absurd hmore (not_lt.mpr hall')
    | second hfirst' hmore' hsecond' =>
      obtain rfl := Except.ok.inj (hfirst.symm.trans hfirst')
      exact Except.ok.inj (hsecond.symm.trans hsecond')

/-- A listing counts what is reported exactly on settled controllers. -/
theorem countsOrRaises_iff_settled :
    CountsOrRaises path controller (fetchAllListed path controller) ↔ Settled path controller := by
  have hlast : CountsOrRaises path controller (fetchAllListed path controller) ↔
      ∀ last,LastResponse path controller last → (last.result.length : ℤ)=last.total := by
    constructor
    · intro hcounts last hlast
      obtain ⟨other,hother,hlength⟩ := hcounts _ (fetchAllListed_of_last hlast)
      rw [hlength,hlast.unique hother]
    · intro hcounts items hitems
      obtain ⟨last,hlast,rfl⟩ := fetchAllListed_eq_ok hitems
      exact ⟨last,hlast,hcounts last hlast⟩
  rw [hlast]
  constructor
  · intro hcounts first hfirst
    refine ⟨?_,fun hmore second hsecond => hcounts second (.second hfirst hmore hsecond)⟩
    by_contra hless
    have hcount := hcounts first (.first hfirst (by omega))
    omega
  · intro hsettled last hlast
    cases hlast with
    | first hfirst hall => exact le_antisymm (hsettled last hfirst).1 hall
    | second hfirst hmore hsecond => exact (hsettled _ hfirst).2 hmore last hsecond

/-- The limit a request names. -/
def limitOf (request : PageRequest) : Option ℕ :=
  match request.params with
  | [("limit",.int limit)] => some limit.toNat
  | _ => none

/-- A controller that lists its objects from the first, a number of them where no limit is
named and never more than another number, and has other objects at later requests. -/
def cappedController (before after : List β) (usual most : ℕ) : Controller (ListResponse β)
  | [],request => .ok (.ok
      ⟨before.take (min ((limitOf request).getD usual) most),0,before.length⟩)
  | _::_,request => .ok (.ok
      ⟨after.take (min ((limitOf request).getD usual) most),0,after.length⟩)

/-- Such a controller is settled where the first request lists everything, or it has got no
more than it had and may list that at once. -/
theorem settled_cappedController_iff (before after : List β) (usual most : ℕ) :
    Settled path (cappedController before after usual most) ↔
      before.length≤ min usual most ∨ after.length≤ min before.length most := by
  have hfirst : fetchListed (cappedController before after usual most) [] ⟨path,[]⟩=
      .ok ⟨before.take (min usual most),0,before.length⟩ := rfl
  have hsecond : fetchListed (cappedController before after usual most) [⟨path,[]⟩]
      (limitedRequest path before.length)=
      .ok ⟨after.take (min before.length most),0,after.length⟩ := rfl
  have hcut : ∀ (items : List β) (limit : ℕ),
      ((items.take limit).length : ℤ)=items.length ↔ items.length≤ limit := by
    intro items limit
    rw [List.length_take]
    omega
  constructor
  · intro hsettled
    by_cases hall : before.length≤ min usual most
    · exact Or.inl hall
    · have hmore : ((before.take (min usual most)).length : ℤ)< before.length := by
        rw [List.length_take]
        omega
      exact Or.inr ((hcut after _).mp ((hsettled _ hfirst).2 hmore _ hsecond))
  · intro hcondition first hf
    obtain rfl := Except.ok.inj (hfirst.symm.trans hf)
    refine ⟨by dsimp only; rw [List.length_take]; omega,fun hmore second hs => ?_⟩
    obtain rfl := Except.ok.inj (hsecond.symm.trans hs)
    rcases hcondition with hall|hall
    · rw [(hcut before _).mpr hall] at hmore
      exact absurd hmore (lt_irrefl _)
    · exact (hcut after _).mpr hall

end Listed

/-- Zones and networks are listed with as many objects as the last response reports, unless
an error is raised, exactly on settled controllers. -/
theorem listings_counted_iff (controller : Controller (ListResponse β)) :
    (CountsOrRaises zonesPath controller (fetchAllZones controller) ↔
        Settled zonesPath controller) ∧
      (CountsOrRaises networksPath controller (fetchAllNetworks controller) ↔
        Settled networksPath controller) :=
  ⟨countsOrRaises_iff_settled,countsOrRaises_iff_settled⟩

/-- A controller that is given a third and a fourth object between two requests. -/
def growingController : Controller (ListResponse ℕ)
  | [],_ => .ok (.ok ⟨[1,2],0,3⟩)
  | _::_,_ => .ok (.ok ⟨[1,2,3],0,4⟩)

/-- The fourth object is missing without an error. -/
theorem listings_cut :
    ¬(∀ controller : Controller (ListResponse ℕ),
      CountsOrRaises zonesPath controller (fetchAllZones controller) ∧
        CountsOrRaises networksPath controller (fetchAllNetworks controller)) := by
  intro hall
  obtain ⟨last,hlast,hlength⟩ := (hall growingController).1 [1,2,3] rfl
  have hsecond : LastResponse zonesPath growingController ⟨[1,2,3],0,4⟩ :=
    @LastResponse.second ℕ zonesPath growingController ⟨[1,2],0,3⟩ _ rfl (by decide) rfl
  rw [hlast.unique hsecond] at hlength
  exact absurd hlength (by decide)

end NspMigrator.SdwanPaging
