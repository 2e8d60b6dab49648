import Mathlib
import NspMigrator.SdwanPaging

/-!
# Queries by parents

Address objects are asked for by their parents, fifty parents a query, and the
answers are merged by the numbers of the objects.
-/

namespace NspMigrator.SdwanParentQueries

open PyDict PyLoop SdwanSchemas SdwanCatalogReading SdwanPaging ExecuteRepository

/-- Slices of a list, one after the other. -/
def slices {α : Type} (size : ℕ) (xs : List α) : List (List α) :=
  (List.range ((xs.length+size-1)/size)).map fun i => (xs.drop (i*size)).take size

/-- Slices lose nothing. -/
theorem exists_mem_slices {α : Type} {size : ℕ} (hsize : 0<size) {xs : List α} {x : α} :
    (∃ slice∈slices size xs,x∈slice) ↔ x∈xs := by
  constructor
  · rintro ⟨slice,hslice,hx⟩
    obtain ⟨i,-,rfl⟩ := List.mem_map.mp hslice
    exact List.mem_of_mem_drop (List.mem_of_mem_take hx)
  · intro hx
    obtain ⟨j,hj,rfl⟩ := List.mem_iff_getElem.mp hx
    have hmod := Nat.mod_lt j hsize
    have hdiv : j/size*size+j%size=j := Nat.div_add_mod' j size
    have hi : j/size<(xs.length+size-1)/size := by
      have hle : j/size+1≤(xs.length+size-1)/size := by
        rw [Nat.le_div_iff_mul_le hsize,Nat.add_mul,one_mul]
        omega
      omega
    refine ⟨_,List.mem_map.mpr ⟨j/size,List.mem_range.mpr hi,rfl⟩,?_⟩
    refine List.mem_iff_getElem.mpr ⟨j%size,?_,?_⟩
    · rw [List.length_take,List.length_drop]
      omega
    · rw [List.getElem_take,List.getElem_drop]
      congr 1

/-- The parents of each query. -/
def parentsIdsChunks (parentsIds : List ℤ) : List (List ℤ) :=
  slices yaqlFiltersLimit parentsIds.eraseDups

/-- The query for the objects of some parents. -/
def parentsQuery (parentsIdsChunk : List ℤ) : String :=
  " or ".intercalate (parentsIdsChunk.map fun parentId => "parents = ("++toString parentId++")")

/-- A way to list the address objects that match a query, or all. -/
abbrev Fetch := Option String → Run PyException (List AddrObjectResponse)

/-- The listings of a controller, which may answer by the query and by what it was asked for it. -/
def fetchFrom (controllers : Option String → Controller (ResponsePage AddrObjectResponse))
    (fuel : ℕ) : Fetch :=
  fun query => ExceptT.mk (fetchAllAddrObjects query (controllers query) fuel)

/-- Listings along finitely many cursors end. -/
theorem ends_fetchFrom {controllers : Option String → Controller (ResponsePage AddrObjectResponse)}
    {query : Option String} {cursors : Finset String}
    (hfinite : ∀ asked request page nextCursor,
      controllers query asked request=.ok (.ok page) → page.nextPage=some nextCursor →
        nextCursor∈cursors) : Ends fun fuel => fetchFrom controllers fuel query := by
  have hends : CompleteOrRaises (fetchAll (addrObjectsListing query) (controllers query))
      (Complete (addrObjectsListing query) (controllers query)) := fetchAll_completeOrRaises hfinite
  obtain ⟨bound,outcome,houtcome,-⟩ := hends
  exact ⟨bound,outcome,houtcome⟩

/-- Keep one object for each number, the last received. -/
def mergeById (objects : List AddrObjectResponse) : List AddrObjectResponse :=
  (Dict.ofList (objects.map fun object => (object.id,object))).values

/-- Address objects of some parents, or all where no parent is named. -/
def fetchByParents (fetchAll : Fetch) (parentsIds : List ℤ) :
    Run PyException (List AddrObjectResponse) :=
  if parentsIds=[] then fetchAll none
  else do
    let chunksResults ← (parentsIdsChunks parentsIds).mapM fun chunk =>
      fetchAll (some (parentsQuery chunk))
    return mergeById chunksResults.flatten

/-- Address objects of some parents, and of those the ones with some numbers, or all where no
number is named. -/
def getAddrObjects (fetchAll : Fetch) (ids parentsIds : List ℤ) :
    Run PyException (List AddrObjectResponse) := do
  let addrObjects ← fetchByParents fetchAll parentsIds
  return if ids=[] then addrObjects else addrObjects.filter fun object => decide (object.id∈ids)

/-- Listing by parents ends where each listing does. -/
theorem ends_getAddrObjects {fetchAll : ℕ → Fetch}
    (hends : ∀ query,Ends fun fuel => fetchAll fuel query) (ids parentsIds : List ℤ) :
    Ends fun fuel => getAddrObjects (fetchAll fuel) ids parentsIds := by
  have hparents : Ends fun fuel => fetchByParents (fetchAll fuel) parentsIds := by
    unfold fetchByParents
    by_cases hnone : parentsIds=[]
    · simp only [if_pos hnone]
      exact hends none
    · simp only [if_neg hnone]
      exact (ends_mapM fun chunk _ => hends (some (parentsQuery chunk))).bind
        fun chunks => ends_pure _
  exact hparents.bind fun found => ends_pure _

/-- So does listing by parents along finitely many cursors. -/
theorem ends_getAddrObjects_of_finite
    {controllers : Option String → Controller (ResponsePage AddrObjectResponse)}
    {cursors : Finset String}
    (hfinite : ∀ query asked request page nextCursor,
      controllers query asked request=.ok (.ok page) → page.nextPage=some nextCursor →
        nextCursor∈cursors) (ids parentsIds : List ℤ) :
    Ends fun fuel => getAddrObjects (fetchFrom controllers fuel) ids parentsIds :=
  ends_getAddrObjects (fun query => ends_fetchFrom (hfinite query)) ids parentsIds

/-- An object was received for some parents. -/
def Received (fetchAll : Fetch) (parentsIds : List ℤ) (object : AddrObjectResponse) : Prop :=
  if parentsIds=[] then ∃ found,Returns (fetchAll none) found ∧ object∈found
  else ∃ chunk∈parentsIdsChunks parentsIds,∃ found,
    Returns (fetchAll (some (parentsQuery chunk))) found ∧ object∈found

/-- Objects of these numbers are asked for. -/
def Wanted (ids : List ℤ) (object : AddrObjectResponse) : Prop := ids=[] ∨ object.id∈ids

/-- Every link of an object to its parents that was received is among the results. -/
def KeepsLinks (fetchAll : Fetch) (ids parentsIds : List ℤ) (result : List AddrObjectResponse) :
    Prop :=
  ∀ object,Received fetchAll parentsIds object → Wanted ids object →
    ∃ kept∈result,kept.id=object.id ∧ kept.parents=object.parents

/-- No object was received with different parents. -/
def OneParentsList (fetchAll : Fetch) (ids parentsIds : List ℤ) : Prop :=
  ∀ object other,Received fetchAll parentsIds object → Received fetchAll parentsIds other →
    Wanted ids object → object.id=other.id → object.parents=other.parents

section Merge

variable {objects : List AddrObjectResponse} {object other : AddrObjectResponse}

/-- Only objects received are kept. -/
theorem mem_of_mem_mergeById (h : object∈mergeById objects) : object∈objects := by
  obtain ⟨key,hget⟩ := Dict.exists_get?_of_mem_values h
  obtain ⟨found,hfound,heq⟩ := List.mem_map.mp (Dict.mem_of_get?_ofList hget)
  obtain ⟨-,rfl⟩ := Prod.mk.inj heq
  exact hfound

/-- Every number received is kept. -/
theorem exists_mem_mergeById (h : object∈objects) : ∃ kept∈mergeById objects,kept.id=object.id := by
  have hpair : (object.id,object)∈objects.map fun object => (object.id,object) :=
    List.mem_map_of_mem h
  obtain ⟨kept,hkept⟩ := Dict.exists_get?_ofList hpair
  obtain ⟨found,-,heq⟩ := List.mem_map.mp (Dict.mem_of_get?_ofList hkept)
  obtain ⟨hid,rfl⟩ := Prod.mk.inj heq
  exact ⟨found,Dict.mem_values_of_get? hkept,hid⟩

/-- A number is kept once. -/
theorem eq_of_mem_mergeById (h : object∈mergeById objects) (hother : other∈mergeById objects)
    (hid : object.id=other.id) : object=other := by
  obtain ⟨key,hkey⟩ := Dict.exists_get?_of_mem_values h
  obtain ⟨key',hkey'⟩ := Dict.exists_get?_of_mem_values hother
  obtain ⟨found,-,heq⟩ := List.mem_map.mp (Dict.mem_of_get?_ofList hkey)
  obtain ⟨found',-,heq'⟩ := List.mem_map.mp (Dict.mem_of_get?_ofList hkey')
  obtain ⟨hk,rfl⟩ := Prod.mk.inj heq
  obtain ⟨hk',rfl⟩ := Prod.mk.inj heq'
  rw [←hk,hid,hk',hkey'] at hkey
  exact (Option.some.inj hkey).symm

end Merge

section Links

variable {fetchAll : Fetch} {ids parentsIds : List ℤ} {result : List AddrObjectResponse}

/-- Objects found by parents are merged from the answers to all queries. -/
theorem returns_fetchByParents (hparents : parentsIds≠[]) {found : List AddrObjectResponse} :
    Returns (fetchByParents fetchAll parentsIds) found ↔
      ∃ chunks,Returns ((parentsIdsChunks parentsIds).mapM fun chunk =>
        fetchAll (some (parentsQuery chunk))) chunks ∧ mergeById chunks.flatten=found := by
  rw [fetchByParents,if_neg hparents,returns_bind]
  simp only [returns_pure]

/-- The results are received objects that are asked for. -/
theorem received_of_mem (h : Returns (getAddrObjects fetchAll ids parentsIds) result)
    {object : AddrObjectResponse} (ho : object∈result) :
    Received fetchAll parentsIds object ∧ Wanted ids object := by
  obtain ⟨found,hfound,hresult⟩ := returns_bind.mp h
  obtain rfl := returns_pure.mp hresult
  have hwanted : object∈found ∧ Wanted ids object := by
    split at ho
    · next hids => exact ⟨ho,Or.inl hids⟩
    · obtain ⟨hmem,hid⟩ := List.mem_filter.mp ho
      exact ⟨hmem,Or.inr (of_decide_eq_true hid)⟩
  refine ⟨?_,hwanted.2⟩
  unfold Received
  by_cases hparents : parentsIds=[]
  · rw [fetchByParents,if_pos hparents] at hfound
    rw [if_pos hparents]
    exact ⟨found,hfound,hwanted.1⟩
  · obtain ⟨chunks,hchunks,rfl⟩ := (returns_fetchByParents hparents).mp hfound
    rw [if_neg hparents]
    obtain ⟨page,hpage,hmem⟩ := List.mem_flatten.mp (mem_of_mem_mergeById hwanted.1)
    obtain ⟨chunk,hchunk,hreturns⟩ := exists_of_mem_returns_mapM hchunks hpage
    exact ⟨chunk,hchunk,page,hreturns,hmem⟩

/-- Every number received and asked for is among the results. -/
theorem exists_mem_of_received (h : Returns (getAddrObjects fetchAll ids parentsIds) result)
    {object : AddrObjectResponse} (ho : Received fetchAll parentsIds object)
    (hwanted : Wanted ids object) :
    ∃ kept∈result,kept.id=object.id ∧ (parentsIds=[] → kept=object) := by
  obtain ⟨found,hfound,hresult⟩ := returns_bind.mp h
  obtain rfl := returns_pure.mp hresult
  have hkept : ∃ kept∈found,kept.id=object.id ∧ (parentsIds=[] → kept=object) := by
    unfold Received at ho
    by_cases hparents : parentsIds=[]
    · rw [fetchByParents,if_pos hparents] at hfound
      rw [if_pos hparents] at ho
      obtain ⟨page,hpage,hmem⟩ := ho
      obtain rfl := hpage.unique hfound
      exact ⟨object,hmem,rfl,fun _ => rfl⟩
    · obtain ⟨chunks,hchunks,rfl⟩ := (returns_fetchByParents hparents).mp hfound
      rw [if_neg hparents] at ho
      obtain ⟨chunk,hchunk,page,hpage,hmem⟩ := ho
      obtain ⟨page',hpage',hreturns⟩ := exists_of_returns_mapM hchunks hchunk
      obtain rfl := hpage.unique hreturns
      obtain ⟨kept,hkept,hid⟩ :=
        exists_mem_mergeById (List.mem_flatten.mpr ⟨page,hpage',hmem⟩)
      exact ⟨kept,hkept,hid,fun hnil => absurd hnil hparents⟩
  obtain ⟨kept,hmem,hid,heq⟩ := hkept
  refine ⟨kept,?_,hid,heq⟩
  by_cases hids : ids=[]
  · rw [if_pos hids]
    exact hmem
  · rw [if_neg hids]
    refine List.mem_filter.mpr ⟨hmem,decide_eq_true ?_⟩
    rw [hid]
    exact hwanted.resolve_left hids

/-- Results for parents have one object for each number. -/
theorem eq_of_mem_result (h : Returns (getAddrObjects fetchAll ids parentsIds) result)
    (hparents : parentsIds≠[]) {object other : AddrObjectResponse} (ho : object∈result)
    (hother : other∈result) (hid : object.id=other.id) : object=other := by
  obtain ⟨found,hfound,hresult⟩ := returns_bind.mp h
  obtain rfl := returns_pure.mp hresult
  obtain ⟨chunks,-,rfl⟩ := (returns_fetchByParents hparents).mp hfound
  have hfrom : ∀ found∈(if ids=[] then mergeById chunks.flatten
      else (mergeById chunks.flatten).filter fun object => decide (object.id∈ids)),
      found∈mergeById chunks.flatten := by
    intro found hmem
    split at hmem
    · exact hmem
    · exact List.mem_of_mem_filter hmem
  exact eq_of_mem_mergeById (hfrom _ ho) (hfrom _ hother) hid

/-- Links are kept exactly where no object was received with different parents. -/
theorem keepsLinks_iff (h : Returns (getAddrObjects fetchAll ids parentsIds) result) :
    KeepsLinks fetchAll ids parentsIds result ↔
      parentsIds=[] ∨ OneParentsList fetchAll ids parentsIds := by
  constructor
  · intro hkeeps
    by_cases hparents : parentsIds=[]
    · exact Or.inl hparents
    · refine Or.inr fun object other ho hother hwanted hid => ?_
      have hwanted' : Wanted ids other := by
        unfold Wanted
        rw [←hid]
        exact hwanted
      obtain ⟨kept,hkept,hsame,hlinks⟩ := hkeeps object ho hwanted
      obtain ⟨kept',hkept',hsame',hlinks'⟩ := hkeeps other hother hwanted'
      have heq := eq_of_mem_result h hparents hkept hkept' (by rw [hsame,hsame',hid])
      rw [←hlinks,heq,hlinks']
  · intro hcondition object ho hwanted
    obtain ⟨kept,hkept,hid,hall⟩ := exists_mem_of_received h ho hwanted
    refine ⟨kept,hkept,hid,?_⟩
    rcases hcondition with hparents|hone
    · rw [hall hparents]
    · obtain ⟨hreceived,hkeptwanted⟩ := received_of_mem h hkept
      exact hone kept object hreceived ho hkeptwanted hid

end Links

/-- Objects asked for by parents keep every link that was received exactly where no object was
received with different parents. -/
theorem parent_queries_keep_links_iff
    {controllers : Option String → Controller (ResponsePage AddrObjectResponse)} {fuel : ℕ}
    {ids parentsIds : List ℤ} {result : List AddrObjectResponse}
    (h : Returns (getAddrObjects (fetchFrom controllers fuel) ids parentsIds) result) :
    KeepsLinks (fetchFrom controllers fuel) ids parentsIds result ↔
      parentsIds=[] ∨ OneParentsList (fetchFrom controllers fuel) ids parentsIds :=
  keepsLinks_iff h

/-- More groups than one query names. -/
def manyGroups : List ℤ := (List.range 51).map fun i => (i : ℤ)+1

/-- The groups of the first query. -/
def firstGroups : List ℤ := (List.range 50).map fun i => (i : ℤ)+1

theorem parentsIdsChunks_manyGroups : parentsIdsChunks manyGroups=[firstGroups,[51]] := by
  decide +kernel

/-- A controller with one answer for the last group, and one for the others. -/
def splitController (first last : List AddrObjectResponse) :
    Option String → Controller (ResponsePage AddrObjectResponse) :=
  fun query _ _ =>
    let page := if query=some "parents = (51)" then last else first
    .ok (.ok ⟨page,page.length,none⟩)

section Split

variable {first last : List AddrObjectResponse}

/-- What is received for a query. -/
theorem fetchFrom_splitController (query : Option String) :
    Returns (fetchFrom (splitController first last) 1 query)
      (if query=some "parents = (51)" then last else first) := by
  simp [Returns,fetchFrom,fetchAllAddrObjects,fetchAll,loop,fetchStep,fetchPage,splitController,
    Except.mapError,bind,Except.bind]

/-- One answer is received for each of the two queries. -/
theorem returns_splitController :
    Returns ((parentsIdsChunks manyGroups).mapM fun chunk =>
      fetchFrom (splitController first last) 1 (some (parentsQuery chunk))) [first,last] := by
  have hfirst : parentsQuery firstGroups≠"parents = (51)" := by decide +kernel
  have hlast : parentsQuery [51]="parents = (51)" := by decide +kernel
  have hone := @fetchFrom_splitController first last (some (parentsQuery firstGroups))
  rw [if_neg (fun heq => hfirst (Option.some.inj heq))] at hone
  have hother := @fetchFrom_splitController first last (some (parentsQuery [51]))
  rw [if_pos (congrArg some hlast)] at hother
  rw [parentsIdsChunks_manyGroups]
  exact returns_mapM.mpr (.cons hone (.cons hother .nil))

/-- The objects received are those of the two answers. -/
theorem received_splitController {object : AddrObjectResponse} :
    Received (fetchFrom (splitController first last) 1) manyGroups object ↔
      object∈first++last := by
  have hchunks := @returns_splitController first last
  unfold Received
  rw [if_neg (by decide),List.mem_append]
  constructor
  · rintro ⟨chunk,hchunk,page,hpage,hmem⟩
    obtain ⟨page',hpage',hreturns⟩ := exists_of_returns_mapM hchunks hchunk
    obtain rfl := hpage.unique hreturns
    simp only [List.mem_cons,List.not_mem_nil,or_false] at hpage'
    rcases hpage' with rfl|rfl
    · exact Or.inl hmem
    · exact Or.inr hmem
  · intro hmem
    have hpage : ∃ page∈[first,last],object∈page := by
      rcases hmem with hmem|hmem
      · exact ⟨first,List.mem_cons_self,hmem⟩
      · exact ⟨last,List.mem_cons_of_mem _ List.mem_cons_self,hmem⟩
    obtain ⟨page,hpage,hmem⟩ := hpage
    obtain ⟨chunk,hchunk,hreturns⟩ := exists_of_mem_returns_mapM hchunks hpage
    exact ⟨chunk,hchunk,page,hreturns,hmem⟩

/-- The answers are merged. -/
theorem returns_manyGroups :
    Returns (getAddrObjects (fetchFrom (splitController first last) 1) [] manyGroups)
      (mergeById (first++last)) := by
  have hmany : manyGroups≠[] := by decide
  have hmerged : Returns (fetchByParents (fetchFrom (splitController first last) 1) manyGroups)
      (mergeById (first++last)) :=
    (returns_fetchByParents hmany).mpr ⟨_,returns_splitController,by simp⟩
  exact returns_bind.mpr ⟨_,hmerged,rfl⟩

end Split

/-- A host with the groups it is received with. -/
def hostIn (id : ℤ) (groups : List ℤ) : AddrObjectResponse :=
  ⟨id,groups,"host",.host "10.0.0.7" false⟩

/-- Two queries keep the links of a host that is received with both its groups
each time, and lose one that is received with the group of the query only. -/
theorem parent_queries_keep_links_iff_manyGroups :
    KeepsLinks (fetchFrom (splitController [hostIn 7 [1,51],hostIn 8 [2]] [hostIn 7 [1,51]]) 1) []
      manyGroups [hostIn 7 [1,51],hostIn 8 [2]] ∧
    ¬KeepsLinks (fetchFrom (splitController [hostIn 7 [1],hostIn 8 [2]] [hostIn 7 [51]]) 1) []
      manyGroups [hostIn 7 [51],hostIn 8 [2]] := by
  constructor
  · refine (parent_queries_keep_links_iff returns_manyGroups).mpr (Or.inr ?_)
    intro object other ho hother _ hid
    have hall : ∀ object∈[hostIn 7 [1,51],hostIn 8 [2],hostIn 7 [1,51]],
        ∀ other∈[hostIn 7 [1,51],hostIn 8 [2],hostIn 7 [1,51]],
        object.id=other.id → object.parents=other.parents := by decide
    exact hall object (received_splitController.mp ho) other
      (received_splitController.mp hother) hid
  · intro hkeeps
    rcases (parent_queries_keep_links_iff returns_manyGroups).mp hkeeps with hnone|hone
    · exact absurd hnone (by decide)
    · have hsame := hone (hostIn 7 [1]) (hostIn 7 [51]) (received_splitController.mpr (by simp))
        (received_splitController.mpr (by simp)) (Or.inl rfl) rfl
      exact absurd hsame (by decide)

/-- A host in groups of two queries loses its link to one of them. -/
theorem parent_queries_lose_link :
    ¬(∀ controllers : Option String → Controller (ResponsePage AddrObjectResponse),
      ∀ (fuel : ℕ) (parentsIds : List ℤ) (result : List AddrObjectResponse),
        Returns (getAddrObjects (fetchFrom controllers fuel) [] parentsIds) result →
          KeepsLinks (fetchFrom controllers fuel) [] parentsIds result) := by
  intro hall
  obtain ⟨kept,hkept,-,hparents⟩ := hall (splitController [hostIn 7 [1]] [hostIn 7 [51]]) 1
    manyGroups _ returns_manyGroups (hostIn 7 [1]) (received_splitController.mpr (by simp))
    (Or.inl rfl)
  have hmerged : mergeById ([hostIn 7 [1]]++[hostIn 7 [51]])=[hostIn 7 [51]] := rfl
  rw [hmerged] at hkept
  rw [List.mem_singleton.mp hkept] at hparents
  exact absurd hparents (by decide)

end NspMigrator.SdwanParentQueries
