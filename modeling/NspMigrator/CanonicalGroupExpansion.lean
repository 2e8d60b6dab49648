import Mathlib
import NspMigrator.CanonicalModels
import NspMigrator.GroupReach
import NspMigrator.PyDict

/-!
# Opening groups round by round

Operands of rules may refer to groups. A loop asks a repository for the objects
that are pending and for the memberships of the groups among them, until no
member is left that was not seen. Memberships may share members, form cycles
and name objects that do not exist.
-/

namespace NspMigrator.CanonicalGroupExpansion

open PyDict CanonicalModels GroupReach

/-- The kinds whose members are opened. -/
def groupKinds : List ObjectKind := [.addrGroup,.serviceGroup]

/-- The lookups the loop needs. -/
structure CanonicalObjectRepository where
  /-- Objects by number. -/
  getByIdsForSnapshot : List ℕ → List CanonicalObject
  /-- Memberships by the number of their group. -/
  getMembersByParents : List ℕ → List CanonicalObjectMember

/-- The lookups return exactly the objects and memberships that were asked for. -/
structure CanonicalObjectRepository.Answers (repository : CanonicalObjectRepository)
    (objects : List CanonicalObject) (members : List CanonicalObjectMember) : Prop where
  /-- Numbers are primary keys. -/
  nodup : (objects.map (·.id)).Nodup
  /-- Exactly the objects with the numbers asked for. -/
  byIds : ∀ ids object,object∈repository.getByIdsForSnapshot ids ↔
    object∈objects ∧ object.id∈ids
  /-- Exactly the members of the groups asked for. -/
  byParents : ∀ ids member,member∈repository.getMembersByParents ids ↔
    member∈members ∧ member.parentObjectId∈ids

/-- Groups and their members. -/
def membershipGraph (objects : List CanonicalObject) (members : List CanonicalObjectMember) :
    GroupGraph ℕ where
  IsGroup id := ∃ object∈objects,object.id=id ∧ object.value.objectKind∈groupKinds
  Lists parent child := ∃ member∈members,
    member.parentObjectId=parent ∧ member.childObjectId=child

/-- The state of the walk over memberships. The groups of an object are a set,
kept as a list without repetitions. -/
structure Expansion where
  /-- The objects found so far, by their numbers. -/
  collected : Dict ℕ CanonicalObject
  /-- The groups each object was reached from. -/
  parentIds : Dict ℕ (List ℕ)
  /-- What is seen, and what is to be opened next. -/
  frontier : Frontier ℕ

/-- The walk before its first round. -/
def Expansion.start (seedIds : Finset ℕ) : Expansion :=
  ⟨Dict.empty,Dict.empty,seedIds,seedIds⟩

/-- The groups of a batch. -/
def groupIds (batch : List CanonicalObject) : List ℕ :=
  (batch.filter fun object => decide (object.value.objectKind∈groupKinds)).map (·.id)

/-- Note the group of one member, and the member itself unless it was seen. -/
def noteMember (expansion : Expansion) (member : CanonicalObjectMember) : Expansion :=
  let parents := (expansion.parentIds.get? member.childObjectId).getD []
  let noted := { expansion with
    parentIds := expansion.parentIds.insert member.childObjectId
      (parents.insert member.parentObjectId) }
  if member.childObjectId∈expansion.frontier.seen then noted
  else { noted with frontier := {
    seen := insert member.childObjectId expansion.frontier.seen
    pending := insert member.childObjectId expansion.frontier.pending } }

/-- Collect a batch and note the memberships of its groups. -/
def openBatch (repository : CanonicalObjectRepository) (batch : List CanonicalObject)
    (expansion : Expansion) : Expansion :=
  let collected := batch.foldl (fun d object => d.setdefault object.id object)
    expansion.collected
  let cleared : Expansion :=
    ⟨collected,expansion.parentIds,expansion.frontier.seen,∅⟩
  if groupIds batch=[] then cleared
  else (repository.getMembersByParents (groupIds batch)).foldl noteMember cleared

/-- The loop, from some round on, for at most so many rounds. In every round the
pending set is listed in an order of its own. -/
def expandFrom (repository : CanonicalObjectRepository) (listOf : ℕ → Finset ℕ → List ℕ) :
    ℕ → ℕ → Expansion → Option Expansion
  | 0,_,_ => none
  | rounds+1,round,expansion =>
    if expansion.frontier.pending=∅ then some expansion
    else
      let batch := repository.getByIdsForSnapshot (listOf round expansion.frontier.pending)
      expandFrom repository listOf rounds (round+1) (openBatch repository batch expansion)

/-- All objects below the seeds, and the groups each of them was found in. -/
def expandObjectGroups (repository : CanonicalObjectRepository)
    (listOf : ℕ → Finset ℕ → List ℕ) (rounds : ℕ) (seedIds : Finset ℕ) :
    Option (List CanonicalObject × Dict ℕ (List ℕ)) :=
  (expandFrom repository listOf rounds 0 (.start seedIds)).map fun expansion =>
    (expansion.collected.values,expansion.parentIds)

section Note

/-- Noting a member marks it as seen. -/
@[simp] theorem noteMember_seen (expansion : Expansion) (member : CanonicalObjectMember) :
    (noteMember expansion member).frontier.seen=
      insert member.childObjectId expansion.frontier.seen := by
  unfold noteMember
  split
  · next h => exact (Finset.insert_eq_of_mem h).symm
  · rfl

/-- Noting members marks all of them as seen. -/
theorem foldl_noteMember_seen (members : List CanonicalObjectMember) (expansion : Expansion) :
    (members.foldl noteMember expansion).frontier.seen=
      expansion.frontier.seen∪(members.map (·.childObjectId)).toFinset := by
  induction members generalizing expansion with
  | nil => simp
  | cons member rest ih =>
    rw [List.foldl_cons,ih,noteMember_seen,List.map_cons,List.toFinset_cons]
    ext id
    simp only [Finset.mem_union,Finset.mem_insert]
    tauto

/-- Noting members leaves those pending that were not seen. -/
theorem foldl_noteMember_pending (members : List CanonicalObjectMember) (expansion : Expansion)
    (h : expansion.frontier.pending⊆expansion.frontier.seen) :
    (members.foldl noteMember expansion).frontier.pending=
      expansion.frontier.pending∪
        ((members.map (·.childObjectId)).toFinset \ expansion.frontier.seen) := by
  induction members generalizing expansion with
  | nil => simp
  | cons member rest ih =>
    have hnote : (noteMember expansion member).frontier.pending=
        expansion.frontier.pending∪({member.childObjectId} \ expansion.frontier.seen) := by
      unfold noteMember
      split
      · next hs => rw [Finset.sdiff_eq_empty_iff_subset.mpr (by simpa using hs),Finset.union_empty]
      · next hs =>
        rw [Finset.sdiff_eq_self_of_disjoint (by simpa using hs),Finset.union_comm]
        rfl
    have hsub : (noteMember expansion member).frontier.pending⊆
        (noteMember expansion member).frontier.seen := by
      rw [hnote,noteMember_seen]
      intro id hid
      rcases Finset.mem_union.mp hid with hid|hid
      · exact Finset.mem_insert_of_mem (h hid)
      · rw [Finset.mem_singleton.mp (Finset.mem_sdiff.mp hid).1]
        exact Finset.mem_insert_self _ _
    rw [List.foldl_cons,ih _ hsub,hnote,noteMember_seen,List.map_cons,List.toFinset_cons]
    ext id
    simp only [Finset.mem_union,Finset.mem_sdiff,Finset.mem_insert,Finset.mem_singleton]
    tauto

/-- Noting members collects nothing. -/
theorem foldl_noteMember_collected (members : List CanonicalObjectMember)
    (expansion : Expansion) :
    (members.foldl noteMember expansion).collected=expansion.collected := by
  induction members generalizing expansion with
  | nil => rfl
  | cons member rest ih =>
    rw [List.foldl_cons,ih]
    unfold noteMember
    split <;> rfl

/-- Noting members adds their groups. -/
theorem mem_foldl_noteMember_parents (members : List CanonicalObjectMember)
    (expansion : Expansion) (child parent : ℕ) :
    parent∈((members.foldl noteMember expansion).parentIds.get? child).getD [] ↔
      parent∈(expansion.parentIds.get? child).getD [] ∨
        ∃ member∈members,member.parentObjectId=parent ∧ member.childObjectId=child := by
  induction members generalizing expansion with
  | nil => simp
  | cons member rest ih =>
    have hnote : parent∈((noteMember expansion member).parentIds.get? child).getD [] ↔
        parent∈(expansion.parentIds.get? child).getD [] ∨
          member.parentObjectId=parent ∧ member.childObjectId=child := by
      have hp : (noteMember expansion member).parentIds=
          expansion.parentIds.insert member.childObjectId
            (((expansion.parentIds.get? member.childObjectId).getD []).insert
              member.parentObjectId) := by
        unfold noteMember
        split <;> rfl
      rw [hp,Dict.get?_insert]
      split
      · next hc =>
        subst hc
        simp only [Option.getD_some,List.mem_insert_iff,and_true]
        exact ⟨fun h => h.symm.imp_right Eq.symm,fun h => h.symm.imp_left Eq.symm⟩
      · next hc => simp only [Ne.symm hc,and_false,or_false]
    rw [List.foldl_cons,ih,hnote]
    simp only [List.mem_cons,exists_eq_or_imp,or_assoc]

end Note

section Round

variable {repository : CanonicalObjectRepository} {objects : List CanonicalObject}
  {members : List CanonicalObjectMember}

/-- A batch is what the repository has of the pending numbers. -/
def IsBatch (objects : List CanonicalObject) (pending : Finset ℕ)
    (batch : List CanonicalObject) : Prop :=
  ∀ object,object∈batch ↔ object∈objects ∧ object.id∈pending

/-- The batch of a listing of the pending numbers. -/
theorem isBatch_getByIds (h : repository.Answers objects members) {pending : Finset ℕ}
    {ids : List ℕ} (hids : ∀ id,id∈ids ↔ id∈pending) :
    IsBatch objects pending (repository.getByIdsForSnapshot ids) := by
  intro object
  rw [h.byIds,hids]

/-- The groups of a batch are the groups among the pending numbers. -/
theorem mem_groupIds {pending : Finset ℕ} {batch : List CanonicalObject}
    (hbatch : IsBatch objects pending batch) {id : ℕ} :
    id∈groupIds batch ↔ id∈pending ∧ (membershipGraph objects members).IsGroup id := by
  simp only [groupIds,List.mem_map,List.mem_filter,decide_eq_true_eq,membershipGraph]
  constructor
  · rintro ⟨object,⟨hb,hg⟩,rfl⟩
    obtain ⟨ho,hid⟩ := (hbatch object).mp hb
    exact ⟨hid,object,ho,rfl,hg⟩
  · rintro ⟨hid,object,ho,rfl,hg⟩
    exact ⟨object,⟨(hbatch object).mpr ⟨ho,hid⟩,hg⟩,rfl⟩

/-- The numbers a batch finds. -/
def batchChildren (repository : CanonicalObjectRepository) (batch : List CanonicalObject) :
    Finset ℕ :=
  ((repository.getMembersByParents (groupIds batch)).map (·.childObjectId)).toFinset

/-- A round opens the memberships of the pending groups. -/
theorem mem_batchMembers (h : repository.Answers objects members) {pending : Finset ℕ}
    {batch : List CanonicalObject} (hbatch : IsBatch objects pending batch)
    {member : CanonicalObjectMember} :
    member∈repository.getMembersByParents (groupIds batch) ↔ member∈members ∧
      member.parentObjectId∈pending ∧
        (membershipGraph objects members).IsGroup member.parentObjectId := by
  rw [h.byParents,mem_groupIds hbatch]

/-- A round finds the members of the pending groups. -/
theorem mem_batchChildren (h : repository.Answers objects members) {pending : Finset ℕ}
    {batch : List CanonicalObject} (hbatch : IsBatch objects pending batch) {child : ℕ} :
    child∈batchChildren repository batch ↔
      ∃ parent∈pending,(membershipGraph objects members).Member parent child := by
  simp only [batchChildren,List.mem_toFinset,List.mem_map,mem_batchMembers h hbatch]
  constructor
  · rintro ⟨member,⟨hm,hp,hg⟩,rfl⟩
    exact ⟨member.parentObjectId,hp,hg,member,hm,rfl,rfl⟩
  · rintro ⟨parent,hp,hg,member,hm,rfl,rfl⟩
    exact ⟨member,⟨hm,hp,hg⟩,rfl⟩

/-- A round in one piece: the batch is collected and its members are noted. -/
theorem openBatch_eq (h : repository.Answers objects members) (batch : List CanonicalObject)
    (expansion : Expansion) :
    openBatch repository batch expansion=
      (repository.getMembersByParents (groupIds batch)).foldl noteMember
        ⟨batch.foldl (fun d object => d.setdefault object.id object) expansion.collected,
          expansion.parentIds,expansion.frontier.seen,∅⟩ := by
  rw [openBatch]
  split
  · next hnone =>
    have hnil : repository.getMembersByParents []=[] := by
      apply List.eq_nil_iff_forall_not_mem.mpr
      intro member hm
      exact absurd ((h.byParents [] member).mp hm).2 List.not_mem_nil
    rw [hnone,hnil]
    rfl
  · rfl

/-- A round advances the search. -/
theorem openBatch_frontier (h : repository.Answers objects members)
    (batch : List CanonicalObject) (expansion : Expansion) :
    (openBatch repository batch expansion).frontier=
      expansion.frontier.advance fun _ => batchChildren repository batch := by
  have hseen := foldl_noteMember_seen (repository.getMembersByParents (groupIds batch))
    ⟨batch.foldl (fun d object => d.setdefault object.id object) expansion.collected,
      expansion.parentIds,expansion.frontier.seen,∅⟩
  have hpending := foldl_noteMember_pending (repository.getMembersByParents (groupIds batch))
    ⟨batch.foldl (fun d object => d.setdefault object.id object) expansion.collected,
      expansion.parentIds,expansion.frontier.seen,∅⟩ (Finset.empty_subset _)
  rw [Finset.empty_union] at hpending
  rw [openBatch_eq h,Frontier.advance,batchChildren,←hseen,←hpending]

end Round

/-- What the walk has collected and noted so far: everything it opened, with
the groups it was found in. -/
structure Walk (objects : List CanonicalObject) (members : List CanonicalObjectMember)
    (seeds : Finset ℕ) (expansion : Expansion) : Prop where
  /-- What is seen is reached, and everything reached is seen or waits. -/
  sound : expansion.frontier.Sound (membershipGraph objects members) seeds
  /-- Collected are the objects that were seen. -/
  collected : ∀ id object,expansion.collected.get? id=some object ↔
    object∈objects ∧ object.id=id ∧ id∈expansion.frontier.seen ∧
      id∉expansion.frontier.pending
  /-- The parents kept for an object are the opened groups it is a member of. -/
  parents : ∀ child parent,parent∈(expansion.parentIds.get? child).getD [] ↔
    (membershipGraph objects members).Member parent child ∧
      parent∈expansion.frontier.seen ∧ parent∉expansion.frontier.pending

section Walk

variable {repository : CanonicalObjectRepository} {objects : List CanonicalObject}
  {members : List CanonicalObjectMember} {seeds : Finset ℕ} {expansion : Expansion}

/-- The walk starts with everything pending. -/
theorem Walk.start (objects : List CanonicalObject) (members : List CanonicalObjectMember)
    (seeds : Finset ℕ) : Walk objects members seeds (.start seeds) where
  sound := Frontier.Sound.start _ seeds
  collected id object := by
    simp only [Expansion.start,Dict.get?_empty,reduceCtorEq,false_iff]
    rintro ⟨-,-,hs,hp⟩
    exact hp hs
  parents child parent := by
    simp only [Expansion.start,Dict.get?_empty,Option.getD_none,List.not_mem_nil,false_iff]
    rintro ⟨-,hs,hp⟩
    exact hp hs

/-- Two objects with one number are one object. -/
theorem object_ext (h : (objects.map (·.id)).Nodup) {a b : CanonicalObject}
    (ha : a∈objects) (hb : b∈objects) (hid : a.id=b.id) : a=b :=
  List.inj_on_of_nodup_map h ha hb hid

/-- What the first-wins loop stores after a batch of pending objects. -/
theorem get?_collect (h : (objects.map (·.id)).Nodup) {pending : Finset ℕ}
    {batch : List CanonicalObject} (hbatch : IsBatch objects pending batch)
    (collected : Dict ℕ CanonicalObject) (id : ℕ) (object : CanonicalObject)
    (hold : ∀ old,collected.get? id=some old → old∈objects ∧ old.id=id) :
    (batch.foldl (fun d object => d.setdefault object.id object) collected).get? id=some object ↔
      collected.get? id=some object ∨ object∈objects ∧ object.id=id ∧ id∈pending := by
  rw [get?_foldl_setdefault (fun object : CanonicalObject => object.id)]
  cases hget : collected.get? id with
  | some old =>
    obtain ⟨ho,hid⟩ := hold old hget
    simp only [Option.some_or,Option.some.injEq]
    constructor
    · exact Or.inl
    · rintro (heq|⟨hobject,hoid,-⟩)
      · exact heq
      · exact object_ext h ho hobject (hid.trans hoid.symm)
  | none =>
    simp only [Option.none_or,reduceCtorEq,false_or]
    constructor
    · intro hfind
      have hid : object.id=id := by simpa using List.find?_some hfind
      obtain ⟨hobject,hpending⟩ := (hbatch object).mp (List.mem_of_find?_eq_some hfind)
      exact ⟨hobject,hid,hid▸hpending⟩
    · rintro ⟨hobject,rfl,hpending⟩
      cases hfind : batch.find? (fun other => decide (other.id=object.id)) with
      | none =>
        rw [List.find?_eq_none] at hfind
        exact absurd (decide_eq_true rfl) (hfind object ((hbatch object).mpr ⟨hobject,hpending⟩))
      | some other =>
        have hid : other.id=object.id := by simpa using List.find?_some hfind
        have hother := (hbatch other).mp (List.mem_of_find?_eq_some hfind)
        rw [object_ext h hother.1 hobject hid]

/-- A round keeps the account of the walk. -/
theorem Walk.round (hwalk : Walk objects members seeds expansion)
    (h : repository.Answers objects members) {batch : List CanonicalObject}
    (hbatch : IsBatch objects expansion.frontier.pending batch) :
    Walk objects members seeds (openBatch repository batch expansion) := by
  have hfrontier := openBatch_frontier h batch expansion
  -- What was seen and is no longer pending: what was opened before, and now the pending.
  have hopened : ∀ id,
      id∈(expansion.frontier.advance fun _ => batchChildren repository batch).seen ∧
        id∉(expansion.frontier.advance fun _ => batchChildren repository batch).pending ↔
      id∈expansion.frontier.seen := by
    intro id
    simp only [Frontier.advance,Finset.mem_union,Finset.mem_sdiff]
    tauto
  have hsplit : ∀ id,id∈expansion.frontier.seen ↔
      (id∈expansion.frontier.seen ∧ id∉expansion.frontier.pending) ∨
        id∈expansion.frontier.pending := by
    intro id
    have hsub : id∈expansion.frontier.pending → id∈expansion.frontier.seen :=
      fun hp => hwalk.sound.pending_seen hp
    tauto
  refine ⟨?_,?_,?_⟩
  · rw [hfrontier]
    exact hwalk.sound.advance fun child => mem_batchChildren h hbatch
  · intro id object
    rw [hfrontier,hopened,hsplit,openBatch_eq h,foldl_noteMember_collected,
      get?_collect h.nodup hbatch _ _ _ fun old hold =>
        ⟨((hwalk.collected id old).mp hold).1,((hwalk.collected id old).mp hold).2.1⟩,
      hwalk.collected]
    tauto
  · intro child parent
    rw [hfrontier,hopened,hsplit,openBatch_eq h,mem_foldl_noteMember_parents,hwalk.parents]
    have hmembers : (∃ member∈repository.getMembersByParents (groupIds batch),
        member.parentObjectId=parent ∧ member.childObjectId=child) ↔
        (membershipGraph objects members).Member parent child ∧
          parent∈expansion.frontier.pending := by
      constructor
      · rintro ⟨member,hm,rfl,rfl⟩
        obtain ⟨hmember,hp,hg⟩ := (mem_batchMembers h hbatch).mp hm
        exact ⟨⟨hg,member,hmember,rfl,rfl⟩,hp⟩
      · rintro ⟨⟨hg,member,hm,rfl,rfl⟩,hp⟩
        exact ⟨member,(mem_batchMembers h hbatch).mpr ⟨hm,hp,hg⟩,rfl,rfl⟩
    rw [hmembers]
    tauto

/-- The numbers of everything that is a member of something. -/
def childIds (members : List CanonicalObjectMember) : Finset ℕ :=
  (members.map (·.childObjectId)).toFinset

/-- There are no more members than memberships. -/
theorem card_childIds_le (members : List CanonicalObjectMember) :
    (childIds members).card≤ members.length :=
  (List.toFinset_card_le _).trans_eq (List.length_map _)

/-- A round finds members only. -/
theorem batchChildren_subset (h : repository.Answers objects members) {pending : Finset ℕ}
    {batch : List CanonicalObject} (hbatch : IsBatch objects pending batch) :
    batchChildren repository batch⊆childIds members := by
  intro child hc
  obtain ⟨parent,-,-,member,hm,-,rfl⟩ := (mem_batchChildren h hbatch).mp hc
  exact List.mem_toFinset.mpr (List.mem_map_of_mem hm)

/-- A round that leaves something pending has seen one more member. -/
theorem card_unseen_openBatch (h : repository.Answers objects members)
    {batch : List CanonicalObject} (hbatch : IsBatch objects expansion.frontier.pending batch)
    (hmore : (openBatch repository batch expansion).frontier.pending≠∅) :
    (childIds members \ (openBatch repository batch expansion).frontier.seen).card<
      (childIds members \ expansion.frontier.seen).card := by
  rw [openBatch_frontier h] at hmore ⊢
  exact Frontier.card_unseen_advance (batchChildren_subset h hbatch) hmore

variable {listOf : ℕ → Finset ℕ → List ℕ}

/-- The loop ends, with an account of everything it was to open: one number of
rounds is enough, and more rounds change nothing. -/
theorem exists_expandFrom (h : repository.Answers objects members)
    (hlist : ∀ round ids id,id∈listOf round ids ↔ id∈ids)
    (hwalk : Walk objects members seeds expansion) (round : ℕ) :
    ∃ done,Walk objects members seeds done ∧ done.frontier.pending=∅ ∧
      ∀ rounds,(childIds members \ expansion.frontier.seen).card+1<rounds →
        expandFrom repository listOf rounds round expansion=some done := by
  -- induction on the members still unseen, which fall while something stays pending
  induction hcard : (childIds members \ expansion.frontier.seen).card
    using Nat.strong_induction_on generalizing expansion round with
  | _ unseen ih =>
    by_cases hdone : expansion.frontier.pending=∅
    · refine ⟨expansion,hwalk,hdone,?_⟩
      intro rounds hr
      obtain ⟨rounds,rfl⟩ : ∃ fewer,rounds=fewer+1 := ⟨rounds-1,by omega⟩
      rw [expandFrom,if_pos hdone]
    · have hbatch := isBatch_getByIds h (hlist round expansion.frontier.pending)
      have hnext := hwalk.round h hbatch
      by_cases hmore : (openBatch repository (repository.getByIdsForSnapshot
          (listOf round expansion.frontier.pending)) expansion).frontier.pending=∅
      · refine ⟨_,hnext,hmore,?_⟩
        intro rounds hr
        obtain ⟨rounds,rfl⟩ : ∃ fewer,rounds=fewer+2 := ⟨rounds-2,by omega⟩
        rw [expandFrom,if_neg hdone]
        simp only [expandFrom,if_pos hmore]
      · have hlt := card_unseen_openBatch h hbatch hmore
        rw [hcard] at hlt
        obtain ⟨done,hwalkDone,hpending,heq⟩ := ih _ hlt hnext (round+1) rfl
        refine ⟨done,hwalkDone,hpending,?_⟩
        intro rounds hr
        obtain ⟨rounds,rfl⟩ : ∃ fewer,rounds=fewer+1 := ⟨rounds-1,by omega⟩
        rw [expandFrom,if_neg hdone]
        exact heq rounds (by omega)

/-- A finished walk has collected exactly the objects below the seeds. -/
theorem Walk.mem_collected (hwalk : Walk objects members seeds expansion)
    (hdone : expansion.frontier.pending=∅) {object : CanonicalObject} :
    object∈expansion.collected.values ↔ object∈objects ∧
      ∃ seed∈seeds,(membershipGraph objects members).Below seed object.id := by
  have hseen := hwalk.sound.mem_seen_iff hdone
  constructor
  · intro h
    obtain ⟨id,hid⟩ := Dict.exists_get?_of_mem_values h
    obtain ⟨ho,rfl,hs,-⟩ := (hwalk.collected id object).mp hid
    exact ⟨ho,(hseen _).mp hs⟩
  · rintro ⟨ho,hbelow⟩
    have hpending : object.id∉expansion.frontier.pending := by
      rw [hdone]
      exact Finset.notMem_empty _
    exact Dict.mem_values_of_get?
      ((hwalk.collected object.id object).mpr ⟨ho,rfl,(hseen _).mpr hbelow,hpending⟩)

/-- A walk collects no object twice. -/
theorem Walk.nodup_collected (hwalk : Walk objects members seeds expansion) :
    (expansion.collected.values.map (·.id)).Nodup := by
  have hkeys : expansion.collected.values.map (·.id)=expansion.collected.keys :=
    map_values_eq_keys fun id object hget => ((hwalk.collected id object).mp hget).2.1
  rw [hkeys]
  exact expansion.collected.nodup

/-- A finished walk has noted exactly the groups below the seeds that list an object. -/
theorem Walk.mem_parents (hwalk : Walk objects members seeds expansion)
    (hdone : expansion.frontier.pending=∅) {child parent : ℕ} :
    parent∈(expansion.parentIds.get? child).getD [] ↔
      (membershipGraph objects members).Member parent child ∧
        ∃ seed∈seeds,(membershipGraph objects members).Below seed parent := by
  rw [hwalk.parents,hwalk.sound.mem_seen_iff hdone,hdone]
  simp only [Finset.notMem_empty,not_false_eq_true,and_true]

/-- The loop ends with exactly the existing objects that can be reached from the
seeds through memberships of groups, each once, and with exactly the memberships
that leave the groups among them. -/
theorem expandObjectGroups_exact (h : repository.Answers objects members)
    (hlist : ∀ round ids id,id∈listOf round ids ↔ id∈ids) (seeds : Finset ℕ) :
    ∃ collected parentIds,
      (∀ rounds,members.length+1<rounds →
        expandObjectGroups repository listOf rounds seeds=some (collected,parentIds)) ∧
      (collected.map (·.id)).Nodup ∧
      (∀ object,object∈collected ↔ object∈objects ∧
        ∃ seed∈seeds,(membershipGraph objects members).Below seed object.id) ∧
      ∀ child parent,parent∈(parentIds.get? child).getD [] ↔
        (∃ member∈members,member.parentObjectId=parent ∧ member.childObjectId=child) ∧
          ∃ group∈collected,group.id=parent ∧ group.value.objectKind∈groupKinds := by
  obtain ⟨done,hwalk,hdone,heq⟩ := exists_expandFrom h hlist (.start objects members seeds) 0
  have hcollected : ∀ object,object∈done.collected.values ↔ object∈objects ∧
      ∃ seed∈seeds,(membershipGraph objects members).Below seed object.id :=
    fun object => hwalk.mem_collected hdone
  refine ⟨done.collected.values,done.parentIds,?_,hwalk.nodup_collected,hcollected,?_⟩
  · intro rounds hr
    have hunseen : (childIds members \ (Expansion.start seeds).frontier.seen).card≤
        members.length :=
      (Finset.card_le_card Finset.sdiff_subset).trans (card_childIds_le members)
    have hdrop := heq rounds (by omega)
    rw [expandObjectGroups,hdrop,Option.map_some]
  · intro child parent
    rw [hwalk.mem_parents hdone]
    constructor
    · rintro ⟨⟨⟨group,ho,rfl,hkind⟩,hlists⟩,hbelow⟩
      exact ⟨hlists,group,(hcollected group).mpr ⟨ho,hbelow⟩,rfl,hkind⟩
    · rintro ⟨hlists,group,hg,rfl,hkind⟩
      obtain ⟨ho,hbelow⟩ := (hcollected group).mp hg
      exact ⟨⟨⟨group,ho,rfl,hkind⟩,hlists⟩,hbelow⟩

end Walk

/-- A repository that scans its tables. -/
def CanonicalObjectRepository.ofTables (objects : List CanonicalObject)
    (members : List CanonicalObjectMember) : CanonicalObjectRepository where
  getByIdsForSnapshot ids := objects.filter fun object => decide (object.id∈ids)
  getMembersByParents ids := members.filter fun member => decide (member.parentObjectId∈ids)

/-- A scan answers what was asked for. -/
theorem answers_ofTables {objects : List CanonicalObject} (members : List CanonicalObjectMember)
    (h : (objects.map (·.id)).Nodup) :
    (CanonicalObjectRepository.ofTables objects members).Answers objects members where
  nodup := h
  byIds ids object := by
    rw [CanonicalObjectRepository.ofTables,List.mem_filter,decide_eq_true_eq]
  byParents ids member := by
    rw [CanonicalObjectRepository.ofTables,List.mem_filter,decide_eq_true_eq]

/-- Two groups that are members of each other and share a host. -/
def ringObjects : List CanonicalObject := [
  ⟨1,{ objectKey := "addr:east", objectFamily := .addr, objectKind := .addrGroup, name := "east" }⟩,
  ⟨2,{ objectKey := "addr:west", objectFamily := .addr, objectKind := .addrGroup, name := "west" }⟩,
  ⟨3,{ objectKey := "addr:relay", objectFamily := .addr, objectKind := .host, name := "relay" }⟩,
  ⟨4,{ objectKey := "addr:spare", objectFamily := .addr, objectKind := .host, name := "spare" }⟩]

/-- Their memberships, the last of an object that does not exist. -/
def ringMembers : List CanonicalObjectMember :=
  [⟨10,1,2,0⟩,⟨11,2,1,0⟩,⟨12,1,3,1⟩,⟨13,2,3,1⟩,⟨14,2,9,2⟩]

/-- The groups of the ring are opened once. -/
theorem expandObjectGroups_exact_ring : ∃ collected parentIds,
    (∀ rounds,ringMembers.length+1<rounds →
      expandObjectGroups (.ofTables ringObjects ringMembers) (fun _ ids => ids.sort (·≤·)) rounds
        {1}=some (collected,parentIds)) ∧
      (collected.map (·.id)).Nodup ∧
      (∀ object,object∈collected ↔ object∈ringObjects ∧
        ∃ seed∈({1} : Finset ℕ),(membershipGraph ringObjects ringMembers).Below seed object.id) ∧
      ∀ child parent,parent∈(parentIds.get? child).getD [] ↔
        (∃ member∈ringMembers,member.parentObjectId=parent ∧ member.childObjectId=child) ∧
          ∃ group∈collected,group.id=parent ∧ group.value.objectKind∈groupKinds :=
  expandObjectGroups_exact (answers_ofTables ringMembers (by decide))
    (fun _ ids id => Finset.mem_sort (·≤·)) {1}

end NspMigrator.CanonicalGroupExpansion
