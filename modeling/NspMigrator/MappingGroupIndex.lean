import Mathlib
import NspMigrator.ExecuteRepository
import NspMigrator.GroupReach
import NspMigrator.MappingSchemas
import NspMigrator.PyExcept

/-!
# Opening canonical groups

Address objects and services are indexed by the same steps, which differ in
the words of their messages. Links go from an object to its groups; the index
checks and inverts them, and a group is opened down to three levels.
-/

namespace NspMigrator.MappingGroupIndex

open PyDict PyExcept ExecuteRepository GroupReach MappingSchemas

/-- What the index reads of an object, and its words for one. -/
class GroupedObject (α : Type) where
  /-- The identifier of an object. -/
  objectId : α → ℕ
  /-- The groups an object is a member of. -/
  parentIds : α → List ℕ
  /-- Whether an object is a group. -/
  isGroup : α → Bool
  /-- What an object is called. -/
  noun : String
  /-- The article of that word. -/
  article : String

instance : GroupedObject CanonicalAddrObject where
  objectId := (·.id)
  parentIds := (·.parentIds)
  isGroup object := decide (object.kind=.addrGroup)
  noun := "address"
  article := "an "

instance : GroupedObject CanonicalService where
  objectId := (·.id)
  parentIds := (·.parentIds)
  isGroup object := decide (object.kind=.serviceGroup)
  noun := "service"
  article := "a "

/-- Groups inside groups are opened down to this level. -/
def maxGroupDepth : ℕ := 3

/-- The error of an object that breaks a rule. -/
def domainError (message : String) : PyException :=
  ⟨"MappingModuleDomainValidationError",message⟩

/-- The text of a path of identifiers. -/
def pathText (path : List ℕ) : String := " -> ".intercalate (path.map toString)

variable {α : Type} [GroupedObject α]

open GroupedObject

variable (α) in
/-- The name of an object in a message. -/
def objectText (key : ℕ) : String :=
  "Canonical "++noun α++" object "++toString key

/-- Objects by identifier, and the members of every group. -/
structure CanonicalObjectIndex (α : Type) where
  /-- The objects by number. -/
  objectsById : Dict ℕ α
  /-- The members of each group. -/
  childrenByParentId : Dict ℕ (List α)

/-- Put an object under its identifier, once. -/
def addObject (objectsById : Dict ℕ α) (object : α) : Except PyException (Dict ℕ α) :=
  if objectsById.contains (objectId object)=true then
    .error (domainError
      ("Duplicate canonical "++noun α++" object id: "++toString (objectId object)))
  else .ok (objectsById.insert (objectId object) object)

/-- Put an object under one of its groups, which must be known. -/
def addChild (objectsById : Dict ℕ α) (object : α) (children : Dict ℕ (List α))
    (parentId : ℕ) : Except PyException (Dict ℕ (List α)) :=
  match objectsById.get? parentId with
  | none => .error (domainError
      (objectText α (objectId object)++" references missing parent "++toString parentId))
  | some parent =>
    if isGroup parent=true then .ok (children.append parentId object)
    else .error (domainError
      (objectText α (objectId object)++" references non-group parent "++toString parentId))

/-- Index objects by identifier and by group. -/
def CanonicalObjectIndex.create (objects : List α) :
    Except PyException (CanonicalObjectIndex α) := do
  let objectsById ← objects.foldlM addObject Dict.empty
  let children ← objects.foldlM (fun children object =>
    (parentIds object).foldlM (addChild objectsById object) children) Dict.empty
  return ⟨objectsById,children⟩

namespace CanonicalObjectIndex

variable (index : CanonicalObjectIndex α)

/-- The object with an identifier. -/
def get (key : ℕ) : Except PyException α :=
  match index.objectsById.get? key with
  | none => .error ⟨"MappingModuleNotFoundError",
      "Canonical "++noun α++" object not found: "++toString key⟩
  | some object => .ok object

/-- Whether the object with an identifier is a group. -/
def hasGroup (key : ℕ) : Except PyException Bool := do
  return isGroup (← index.get key)

/-- The members of a group. -/
def membersOf (groupId : ℕ) : List α := (index.childrenByParentId.get? groupId).getD []

/-- Add the leaves of a group to those collected, with the levels that may
still be opened. -/
def collectGroupLeaves : ℕ → ℕ → List ℕ → List α → Except PyException (List α)
  | 0,_,path,_ => .error (domainError
      ("Canonical "++noun α++" group nesting depth exceeded. Max depth is "++
        toString maxGroupDepth++". Path: "++pathText path))
  | levels+1,groupId,path,leaves =>
    (index.membersOf groupId).foldlM (fun leaves child =>
      if isGroup child=true then
        if objectId child∈path then
          .error (domainError ("Cycle detected in canonical "++noun α++" groups: "++
            pathText (path++[objectId child])))
        else collectGroupLeaves levels (objectId child) (path++[objectId child]) leaves
      else if objectId child∈leaves.map objectId then .ok leaves
      else .ok (leaves++[child])) leaves

/-- The leaves of a group. -/
def resolveGroupLeaves (groupId : ℕ) : Except PyException (List α) := do
  let group ← index.get groupId
  if isGroup group=true then index.collectGroupLeaves maxGroupDepth groupId [groupId] []
  else .error (domainError
    (objectText α groupId++" is not "++article α++noun α++" group"))

end CanonicalObjectIndex

/-- Objects depict the part of a graph they were read from: each node once,
with its groups, and with every node a group of the part lists. -/
structure Depicts (graph : GroupGraph ℕ) (Part : ℕ → Prop) (objects : List α) : Prop where
  /-- No two objects have one number. -/
  nodup : (objects.map objectId).Nodup
  /-- They are the objects of the part. -/
  ids : ∀ node,node∈objects.map objectId ↔ Part node
  /-- Groups are groups of the graph. -/
  group : ∀ object∈objects,isGroup object=true ↔ graph.IsGroup (objectId object)
  /-- Their parents are the groups of the part they are members of. -/
  parents : ∀ object∈objects,∀ parent,parent∈parentIds object ↔
    graph.Member parent (objectId object) ∧ Part parent
  /-- Members of the part's groups are in the part. -/
  closed : ∀ parent,Part parent → ∀ child,graph.Member parent child → Part child

section Create

/-- Objects under distinct identifiers are all put. -/
theorem foldlM_addObject {objects : List α} (hnodup : (objects.map objectId).Nodup) :
    ∃ objectsById,objects.foldlM addObject Dict.empty=.ok objectsById ∧
      ∀ key object,objectsById.get? key=some object ↔ object∈objects ∧ objectId object=key := by
  have hput : ∀ d : Dict ℕ α,∀ object∈objects,d.get? (objectId object)=none →
      addObject d object=.ok (d.insert (objectId object) object) := by
    intro d object _ hfree
    rw [addObject,if_neg]
    simp [Dict.contains,hfree]
  obtain ⟨objectsById,heq,hget⟩ := foldlM_insert hnodup hput fun _ _ => Dict.get?_empty _
  refine ⟨objectsById,heq,fun key object => ?_⟩
  rw [hget,Dict.get?_empty]
  simp only [reduceCtorEq,false_or]
  constructor
  · rintro ⟨found,hf,hk,rfl⟩
    exact ⟨hf,hk⟩
  · rintro ⟨ho,hk⟩
    exact ⟨object,ho,hk,rfl⟩

/-- An object is put under a known group. -/
theorem addChild_eq_ok {objectsById : Dict ℕ α} {object : α} {parent : ℕ}
    (h : ∃ group,objectsById.get? parent=some group ∧ isGroup group=true)
    (children : Dict ℕ (List α)) :
    addChild objectsById object children parent=.ok (children.append parent object) := by
  obtain ⟨group,hget,hgroup⟩ := h
  rw [addChild,hget]
  exact if_pos hgroup

/-- All objects are put under their groups when these are known. -/
theorem foldlM_addChildren {objectsById : Dict ℕ α} {objects : List α}
    (hparents : ∀ object∈objects,∀ parent∈parentIds object,
      ∃ group,objectsById.get? parent=some group ∧ isGroup group=true) :
    ∃ added,objects.foldlM (fun children object =>
        (parentIds object).foldlM (addChild objectsById object) children) Dict.empty=.ok added ∧
      ∀ key child,child∈(added.get? key).getD [] ↔ child∈objects ∧ key∈parentIds child := by
  let Has := fun (children : Dict ℕ (List α)) (link : ℕ × α) =>
    link.2∈(children.get? link.1).getD []
  have hlink : ∀ object∈objects,∀ children,∀ parent∈parentIds object,
      ∃ next,addChild objectsById object children parent=.ok next ∧
        ∀ link,Has next link ↔ Has children link ∨ link=(parent,object) := by
    intro object ho children parent hp
    refine ⟨_,addChild_eq_ok (hparents object ho parent hp) children,?_⟩
    rintro ⟨key,child⟩
    simp only [Has,Dict.getD_append,List.mem_append,Prod.mk.injEq]
    by_cases hk : key=parent
    · simp only [hk,if_true,List.mem_singleton,true_and]
    · simp only [hk,if_false,List.not_mem_nil,false_and]
  have hobject : ∀ children,∀ object∈objects,
      ∃ next,(parentIds object).foldlM (addChild objectsById object) children=.ok next ∧
        ∀ link,Has next link ↔ Has children link ∨
          ∃ parent∈parentIds object,link=(parent,object) :=
    fun children object ho => foldlM_collects _ (hlink object ho) children
  obtain ⟨added,heq,hadded⟩ := foldlM_collects _ hobject Dict.empty
  refine ⟨added,heq,?_⟩
  intro key child
  have h := hadded (key,child)
  simp only [Has,Dict.get?_empty,Option.getD_none,List.not_mem_nil,false_or,Prod.mk.injEq] at h
  rw [h]
  constructor
  · rintro ⟨object,ho,parent,hp,rfl,rfl⟩
    exact ⟨ho,hp⟩
  · rintro ⟨ho,hp⟩
    exact ⟨child,ho,key,hp,rfl,rfl⟩

end Create

/-- An index answers for the part of a graph it was built from. -/
structure Represents (graph : GroupGraph ℕ) (Part : ℕ → Prop) (index : CanonicalObjectIndex α) :
    Prop where
  /-- Every object of the part is found, and is a group if it is one in the graph. -/
  get : ∀ node,Part node → ∃ object,index.objectsById.get? node=some object ∧
    (isGroup object=true ↔ graph.IsGroup node)
  /-- The members of a group are those of the graph. -/
  members : ∀ group,Part group → ∀ node,graph.Member group node ↔
    ∃ child∈index.membersOf group,objectId child=node
  /-- They are in the part, and are groups if they are so in the graph. -/
  child : ∀ group,∀ child∈index.membersOf group,Part (objectId child) ∧
    (isGroup child=true ↔ graph.IsGroup (objectId child))

/-- Objects that depict a part of a graph can be indexed. -/
theorem Depicts.create {graph : GroupGraph ℕ} {Part : ℕ → Prop} {objects : List α}
    (h : Depicts graph Part objects) :
    ∃ index,CanonicalObjectIndex.create objects=.ok index ∧ Represents graph Part index := by
  obtain ⟨byId,hbyId,hget⟩ := foldlM_addObject h.nodup
  have hfind : ∀ object∈objects,byId.get? (objectId object)=some object := fun object ho =>
    (hget _ _).mpr ⟨ho,rfl⟩
  have hknown : ∀ node,Part node → ∃ object∈objects,objectId object=node := fun node hn =>
    List.mem_map.mp ((h.ids node).mpr hn)
  have hparents : ∀ object∈objects,∀ parent∈parentIds object,
      ∃ group,byId.get? parent=some group ∧ isGroup group=true := by
    intro object ho parent hp
    obtain ⟨hmember,hpart⟩ := (h.parents object ho parent).mp hp
    obtain ⟨group,hg,rfl⟩ := hknown parent hpart
    exact ⟨group,hfind group hg,(h.group group hg).mpr hmember.1⟩
  obtain ⟨children,hchildren,hmem⟩ := foldlM_addChildren hparents
  refine ⟨⟨byId,children⟩,?_,?_,?_,?_⟩
  · exact bind_eq_ok.mpr ⟨byId,hbyId,bind_eq_ok.mpr ⟨children,hchildren,rfl⟩⟩
  · intro node hn
    obtain ⟨object,ho,rfl⟩ := hknown node hn
    exact ⟨object,hfind object ho,h.group object ho⟩
  · intro group hg node
    constructor
    · intro hm
      obtain ⟨child,hc,rfl⟩ := hknown node (h.closed group hg node hm)
      exact ⟨child,(hmem group child).mpr ⟨hc,(h.parents child hc group).mpr ⟨hm,hg⟩⟩,rfl⟩
    · rintro ⟨child,hc,rfl⟩
      obtain ⟨ho,hp⟩ := (hmem group child).mp hc
      exact ((h.parents child ho group).mp hp).1
  · intro group child hc
    obtain ⟨ho,-⟩ := (hmem group child).mp hc
    exact ⟨(h.ids _).mp (List.mem_map_of_mem ho),h.group child ho⟩

namespace Represents

variable {graph : GroupGraph ℕ} {Part : ℕ → Prop} {index : CanonicalObjectIndex α}

/-- A group that can be opened within the levels left gives all its leaves. -/
theorem collectGroupLeaves (h : Represents graph Part index) {levels group : ℕ} {path : List ℕ}
    (hpart : Part group) (hgroup : graph.IsGroup group) (hopens : graph.OpensWithin levels group)
    (hpath : ∀ node∈path,graph.Below node group) (leaves : List α) :
    ∃ found,index.collectGroupLeaves levels group path leaves=.ok found ∧
      ∀ node,node∈found.map objectId ↔ node∈leaves.map objectId ∨ graph.LeafOf group node := by
  induction levels generalizing group path leaves with
  | zero => exact absurd hgroup hopens
  | succ levels ih =>
    have hstep : ∀ leaves : List α,∀ child∈index.membersOf group,∃ next,
        (if isGroup child=true then
          if objectId child∈path then
            .error (domainError ("Cycle detected in canonical "++noun α++" groups: "++
              pathText (path++[objectId child])))
          else index.collectGroupLeaves levels (objectId child) (path++[objectId child]) leaves
        else if objectId child∈leaves.map objectId then .ok leaves
        else .ok (leaves++[child]))=Except.ok next ∧
        ∀ node,node∈next.map objectId ↔
          node∈leaves.map objectId ∨ graph.LeafOf (objectId child) node := by
      intro leaves child hc
      obtain ⟨hchild,hkind⟩ := h.child group child hc
      have hmember : graph.Member group (objectId child) :=
        (h.members group hpart _).mpr ⟨child,hc,rfl⟩
      by_cases hg : isGroup child=true
      · -- A group on the path would stand below itself.
        have hnew : objectId child∉path := by
          intro hin
          exact hopens.not_below_self
            (Relation.TransGen.head'_iff.mpr ⟨objectId child,hmember,hpath _ hin⟩)
        rw [if_pos hg,if_neg hnew]
        apply ih hchild (hkind.mp hg) (hopens hgroup _ hmember.2)
        intro node hn
        rcases List.mem_append.mp hn with hn|hn
        · exact (hpath node hn).tail hmember
        · rw [List.mem_singleton.mp hn]
          exact Relation.ReflTransGen.refl
      · have hleaf : ∀ node,graph.LeafOf (objectId child) node ↔ node=objectId child :=
          fun node => GroupGraph.leafOf_of_not_isGroup fun hgc => hg (hkind.mpr hgc)
        rw [if_neg hg]
        by_cases hseen : objectId child∈leaves.map objectId
        · refine ⟨leaves,if_pos hseen,?_⟩
          intro node
          rw [hleaf]
          constructor
          · exact Or.inl
          · rintro (hn|rfl)
            · exact hn
            · exact hseen
        · refine ⟨leaves++[child],if_neg hseen,?_⟩
          intro node
          rw [hleaf,List.map_append,List.mem_append,List.map_singleton,List.mem_singleton]
    obtain ⟨found,heq,hfound⟩ := foldlM_collects
      (fun (leaves : List α) node => node∈leaves.map objectId) hstep leaves
    refine ⟨found,heq,?_⟩
    intro node
    rw [hfound,GroupGraph.leafOf_of_isGroup hgroup]
    apply or_congr_right
    constructor
    · rintro ⟨child,hc,hleaf⟩
      exact ⟨objectId child,((h.members group hpart _).mpr ⟨child,hc,rfl⟩).2,hleaf⟩
    · rintro ⟨other,hlists,hleaf⟩
      obtain ⟨child,hc,rfl⟩ := (h.members group hpart other).mp ⟨hgroup,hlists⟩
      exact ⟨child,hc,hleaf⟩

/-- A group nested within the bound resolves to exactly its leaves. -/
theorem resolveGroupLeaves (h : Represents graph Part index)
    (hnested : graph.NestedWithin maxGroupDepth) {group : ℕ} (hpart : Part group)
    (hgroup : graph.IsGroup group) :
    ∃ leaves,index.resolveGroupLeaves group=.ok leaves ∧
      ∀ node,node∈leaves.map objectId ↔ graph.LeafOf group node := by
  obtain ⟨object,hget,hkind⟩ := h.get group hpart
  have hpath : ∀ node∈[group],graph.Below node group := by
    intro node hn
    rw [List.mem_singleton.mp hn]
    exact Relation.ReflTransGen.refl
  obtain ⟨leaves,heq,hleaves⟩ :=
    h.collectGroupLeaves hpart hgroup (hnested.opensWithin group) hpath []
  refine ⟨leaves,?_,fun node => by simpa using hleaves node⟩
  have hobject : index.get group=.ok object := by
    rw [CanonicalObjectIndex.get,hget]
  rw [CanonicalObjectIndex.resolveGroupLeaves,hobject]
  exact (if_pos (hkind.mpr hgroup)).trans heq

/-- Whether an object of the part is a group. -/
theorem hasGroup (h : Represents graph Part index) {node : ℕ} (hpart : Part node) :
    ∃ group,index.hasGroup node=.ok group ∧ (group=true ↔ graph.IsGroup node) := by
  obtain ⟨object,hget,hkind⟩ := h.get node hpart
  refine ⟨isGroup object,?_,hkind⟩
  rw [CanonicalObjectIndex.hasGroup,CanonicalObjectIndex.get,hget]
  rfl

end Represents

end NspMigrator.MappingGroupIndex
