import Mathlib
import NspMigrator.MappingGroupIndex

/-!
# Groups with their hierarchy

Besides its leaves an index lists everything below a group, with the group and
the path every object was met on. The two walks keep paths, levels and results
of their own; they meet the same objects and refuse the same groups.
-/

namespace NspMigrator.MappingGroupMembers

open PyDict PyExcept ExecuteRepository MappingSchemas MappingGroupIndex

variable {α : Type} [GroupedObject α]

open GroupedObject

/-- An object met below a group. -/
structure CanonicalGroupMember (α : Type) where
  /-- The object. -/
  obj : α
  /-- The group it was met in, none for the group that was asked for. -/
  parentId : Option ℕ
  /-- The level it is shown on. -/
  depth : ℕ
  /-- The identifiers from the group that was asked for down to the object. -/
  path : List ℕ

namespace CanonicalObjectIndex

variable (index : CanonicalObjectIndex α)

/-- Add a group and everything below it to what was collected, with the levels
that may still be opened. -/
def collectGroupMembers : ℕ → ℕ → Option ℕ → ℕ → List ℕ → List (CanonicalGroupMember α) →
    Except PyException (List (CanonicalGroupMember α))
  | 0,_,_,_,path,_ => .error (domainError
      ("Canonical "++noun α++" group nesting depth exceeded. Max depth is "++
        toString maxGroupDepth++". Path: "++pathText path))
  | levels+1,groupId,parentId,displayDepth,path,result => do
    let group ← index.get groupId
    (index.membersOf groupId).foldlM (fun result child =>
      if isGroup child=true then
        if objectId child∈path then
          .error (domainError ("Cycle detected in canonical "++noun α++" groups: "++
            pathText (path++[objectId child])))
        else collectGroupMembers levels (objectId child) (some groupId) (displayDepth+1)
          (path++[objectId child]) result
      else .ok (result++[⟨child,some groupId,displayDepth+1,path++[objectId child]⟩]))
      (result++[⟨group,parentId,displayDepth,path⟩])

/-- A group and everything below it. -/
def resolveGroupMembers (groupId : ℕ) : Except PyException (List (CanonicalGroupMember α)) := do
  let group ← index.get groupId
  if isGroup group=true then
    collectGroupMembers index maxGroupDepth groupId none 0 [groupId] []
  else .error (domainError
    (objectText α groupId++" is not "++article α++noun α++" group"))

end CanonicalObjectIndex

open CanonicalObjectIndex

/-- The objects among members that are no groups, in their order. -/
def leafObjects (members : List (CanonicalGroupMember α)) : List α :=
  (members.map (·.obj)).filter fun object => !isGroup object

/-- The leaves among members, each where it is met first. -/
def firstLeaves (members : List (CanonicalGroupMember α)) : List α :=
  distinctBy objectId (leafObjects members)

/-- A group adds no leaf. -/
theorem firstLeaves_group (members : List (CanonicalGroupMember α))
    (member : CanonicalGroupMember α) (h : isGroup member.obj=true) :
    firstLeaves (members++[member])=firstLeaves members := by
  have hleaves : leafObjects (members++[member])=leafObjects members := by
    simp [leafObjects,List.filter_append,h]
  rw [firstLeaves,hleaves,firstLeaves]

/-- An object that is no group is a leaf unless it was met before. -/
theorem firstLeaves_leaf (members : List (CanonicalGroupMember α))
    (member : CanonicalGroupMember α) (h : ¬isGroup member.obj=true) :
    firstLeaves (members++[member])=
      if objectId member.obj∈(firstLeaves members).map objectId then firstLeaves members
      else firstLeaves members++[member.obj] := by
  have hleaves : leafObjects (members++[member])=leafObjects members++[member.obj] := by
    simp [leafObjects,List.filter_append,h]
  rw [firstLeaves,hleaves,distinctBy_append_singleton,firstLeaves]

/-- The members of every group stand in the index under their own identifiers. -/
structure Indexed (index : CanonicalObjectIndex α) : Prop where
  /-- Members of groups are found by their numbers. -/
  member : ∀ group,∀ child∈index.membersOf group,
    index.objectsById.get? (objectId child)=some child

/-- Objects that were put stand under their identifiers. -/
theorem get?_of_foldlM_addObject {objects : List α} {stored out : Dict ℕ α}
    (h : objects.foldlM addObject stored=.ok out) :
    (∀ key object,stored.get? key=some object → out.get? key=some object) ∧
      ∀ object∈objects,out.get? (objectId object)=some object := by
  induction objects generalizing stored with
  | nil =>
    rw [List.foldlM_nil,pure_eq_ok] at h
    subst h
    exact ⟨fun _ _ hget => hget,fun _ ho => absurd ho List.not_mem_nil⟩
  | cons first rest ih =>
    rw [List.foldlM_cons] at h
    obtain ⟨next,hnext,hrest⟩ := bind_eq_ok.mp h
    obtain ⟨hkeep,hput⟩ := ih hrest
    rw [addObject] at hnext
    split at hnext
    · cases hnext
    · next hfree =>
      rw [Except.ok.injEq] at hnext
      subst hnext
      constructor
      · intro key object hget
        apply hkeep
        have hne : key≠objectId first := by
          rintro rfl
          exact hfree (Dict.contains_eq_true.mpr ⟨object,hget⟩)
        rw [Dict.get?_insert_of_ne stored hne,hget]
      · intro object ho
        rcases List.mem_cons.mp ho with rfl|ho
        · apply hkeep
          rw [Dict.get?_insert,if_pos rfl]
        · exact hput object ho

/-- An object put under a group is the only one added. -/
theorem mem_of_addChild {objectsById : Dict ℕ α} {object : α} {children next : Dict ℕ (List α)}
    {parent : ℕ} (h : addChild objectsById object children parent=.ok next) {group : ℕ} {child : α}
    (hc : child∈(next.get? group).getD []) :
    child∈(children.get? group).getD [] ∨ child=object := by
  rw [addChild] at h
  split at h
  · cases h
  · split at h
    · rw [Except.ok.injEq] at h
      subst h
      rw [Dict.getD_append,List.mem_append] at hc
      rcases hc with hc|hc
      · exact Or.inl hc
      · split at hc
        · exact Or.inr (List.mem_singleton.mp hc)
        · exact absurd hc List.not_mem_nil
    · cases h

/-- The members of a group of an index that was built stand in it. -/
theorem indexed_of_create {objects : List α} {index : CanonicalObjectIndex α}
    (h : CanonicalObjectIndex.create objects=.ok index) : Indexed index := by
  obtain ⟨byId,hbyId,h⟩ := bind_eq_ok.mp h
  obtain ⟨children,hchildren,h⟩ := bind_eq_ok.mp h
  rw [pure_eq_ok] at h
  subst h
  have hput := (get?_of_foldlM_addObject hbyId).2
  let Listed := fun children : Dict ℕ (List α) =>
    ∀ group,∀ child∈(children.get? group).getD [],child∈objects
  have hlisted : Listed children := by
    refine foldlM_preserves Listed ?_ (fun group child hc => ?_) hchildren
    · intro children object ho next hkeep hnext
      refine foldlM_preserves Listed ?_ hkeep hnext
      intro children parent _ next hkeep hnext group child hc
      rcases mem_of_addChild hnext hc with hc|rfl
      · exact hkeep group child hc
      · exact ho
    · rw [Dict.get?_empty] at hc
      exact absurd hc List.not_mem_nil
  exact ⟨fun group child hc => hput child (hlisted group child hc)⟩

/-- The walk over leaves meets the leaves of the walk over members, and ends with
the same error. -/
theorem collectGroupLeaves_eq {index : CanonicalObjectIndex α} (hindex : Indexed index)
    (levels : ℕ) {groupId : ℕ} {group : α} (hget : index.get groupId=.ok group)
    (hgroup : isGroup group=true) (parentId : Option ℕ) (displayDepth : ℕ) (path : List ℕ)
    (members : List (CanonicalGroupMember α)) :
    index.collectGroupLeaves levels groupId path (firstLeaves members)=
      (collectGroupMembers index levels groupId parentId displayDepth path members).map
        firstLeaves := by
  induction levels generalizing groupId group parentId displayDepth path members with
  | zero => rfl
  | succ levels ih =>
    have hroot : firstLeaves (members++[⟨group,parentId,displayDepth,path⟩])=
        firstLeaves members := firstLeaves_group members _ hgroup
    rw [collectGroupLeaves,collectGroupMembers,hget,←hroot]
    apply foldlM_map
    intro acc child hc
    have hchild : index.get (objectId child)=.ok child := by
      rw [CanonicalObjectIndex.get,hindex.member groupId child hc]
    by_cases hg : isGroup child=true
    · rw [if_pos hg,if_pos hg]
      by_cases hcycle : objectId child∈path
      · rw [if_pos hcycle,if_pos hcycle]
        rfl
      · rw [if_neg hcycle,if_neg hcycle]
        exact ih hchild hg (some groupId) (displayDepth+1) (path++[objectId child]) acc
    · rw [if_neg hg,if_neg hg]
      have hleaf := firstLeaves_leaf acc
        ⟨child,some groupId,displayDepth+1,path++[objectId child]⟩ hg
      show _=Except.ok (firstLeaves (acc++[_]))
      rw [hleaf]
      split <;> rfl

/-- The leaves of a group are the objects among its members that are no groups,
each where it is met first; one of the two is refused exactly when the other is,
with the same error. -/
theorem resolveGroupLeaves_eq_members {objects : List α} {index : CanonicalObjectIndex α}
    (h : CanonicalObjectIndex.create objects=.ok index) (groupId : ℕ) :
    index.resolveGroupLeaves groupId=(resolveGroupMembers index groupId).map firstLeaves := by
  rw [resolveGroupLeaves,resolveGroupMembers]
  cases hget : index.get groupId with
  | error e => rfl
  | ok group =>
    show (if isGroup group=true then _ else _)=Except.map _ (if isGroup group=true then _ else _)
    by_cases hg : isGroup group=true
    · rw [if_pos hg,if_pos hg]
      exact collectGroupLeaves_eq (indexed_of_create h) maxGroupDepth hget hg none 0 [groupId] []
    · rw [if_neg hg,if_neg hg]
      rfl

/-- A printer in a branch and in the offices the branch belongs to. -/
def officeObjects : List CanonicalAddrObject := [
  { id := 1, kind := .addrGroup, name := "offices" },
  { id := 2, kind := .addrGroup, name := "branch", parentIds := [1] },
  { id := 3, kind := .host, name := "printer", parentIds := [2,1] }]

/-- The printer is met on two paths. -/
example : (do
    let index ← CanonicalObjectIndex.create officeObjects
    let members ← resolveGroupMembers index 1
    return members.map CanonicalGroupMember.path)=.ok [[1],[1,2],[1,2,3],[1,3]] := by rfl

/-- The two walks agree on the shared printer. -/
theorem resolveGroupLeaves_eq_members_offices : ∃ index,
    CanonicalObjectIndex.create officeObjects=.ok index ∧
      index.resolveGroupLeaves 1=(resolveGroupMembers index 1).map firstLeaves :=
  ⟨_,rfl,resolveGroupLeaves_eq_members
    (show CanonicalObjectIndex.create officeObjects=.ok _ from rfl) 1⟩

end NspMigrator.MappingGroupMembers
