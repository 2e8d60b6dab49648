import Mathlib
import NspMigrator.CanonicalGroupExpansion
import NspMigrator.PyExcept

/-!
# Rules of a snapshot with everything they refer to

A snapshot is a set of tables. A selection of its rules is read together with
the zones and objects of their operands, groups being opened round by round
until no member is left that was not seen.
-/

namespace NspMigrator.CanonicalScope

open PyDict CanonicalModels GroupReach
open CanonicalGroupExpansion hiding expandObjectGroups object_ext

/-- The text of a kind of object. -/
def objectKindValue : ObjectKind → String
  | .host => "host"
  | .subnet => "subnet"
  | .range => "range"
  | .fqdn => "fqdn"
  | .anyAddr => "any_addr"
  | .unresolvedAddr => "unresolved_addr"
  | .tcp => "tcp"
  | .udp => "udp"
  | .icmp => "icmp"
  | .ipProto => "ip_proto"
  | .anyService => "any_service"
  | .unresolvedService => "unresolved_service"
  | .addrGroup => "addr_group"
  | .serviceGroup => "service_group"

/-- The family a kind belongs to. -/
def kindFamily : ObjectKind → ObjectFamily
  | .host | .subnet | .range | .fqdn | .anyAddr | .unresolvedAddr | .addrGroup => .addr
  | .tcp | .udp | .icmp | .ipProto | .anyService | .unresolvedService | .serviceGroup => .service

/-- The family of the objects a slot refers to, none for the zone slots. -/
def roleFamily : OperandRole → Option ObjectFamily
  | .srcZone | .dstZone => none
  | .srcObject | .dstObject => some .addr
  | .service => some .service

/-- The tables of one snapshot, with what their constraints and the importer keep. -/
structure CanonicalSnapshot where
  /-- The zones. -/
  zones : List CanonicalZone
  /-- The objects. -/
  objects : List CanonicalObject
  /-- The edges from groups to their members. -/
  members : List CanonicalObjectMember
  /-- The rules. -/
  rules : List CanonicalRule
  /-- The operands of the rules. -/
  operands : List CanonicalRuleOperand
  /-- Numbers are primary keys. -/
  zones_nodup : (zones.map (·.id)).Nodup
  /-- No two objects have one number. -/
  objects_nodup : (objects.map (·.id)).Nodup
  /-- No two rules have one number. -/
  rules_nodup : (rules.map (·.id)).Nodup
  /-- A kind stands in its own family. -/
  kind_family : ∀ object∈objects,kindFamily object.value.objectKind=object.value.objectFamily
  /-- Members are objects of the family of their group. -/
  member_refs : ∀ member∈members,∃ parent∈objects,∃ child∈objects,
    parent.id=member.parentObjectId ∧ child.id=member.childObjectId ∧
      child.value.objectFamily=parent.value.objectFamily
  /-- Zone slots have a zone and nothing else. -/
  zone_refs : ∀ operand∈operands,roleFamily operand.operandRole=none →
    operand.targetObjectId=none ∧ ∃ zone∈zones,operand.targetZoneId=some zone.id
  /-- Every other slot has an object of its family and nothing else. -/
  object_refs : ∀ operand∈operands,∀ family,roleFamily operand.operandRole=some family →
    operand.targetZoneId=none ∧
      ∃ object∈objects,operand.targetObjectId=some object.id ∧ object.value.objectFamily=family
  /-- Rules permit or deny. -/
  action_cases : ∀ rule∈rules,rule.action="PERMIT" ∨ rule.action="DENY"

namespace CanonicalSnapshot

/-- Objects with one of the numbers. -/
def getByIdsForSnapshot (snapshot : CanonicalSnapshot) (objectIds : Finset ℕ) :
    List CanonicalObject :=
  snapshot.objects.filter fun object => decide (object.id∈objectIds)

/-- Memberships in one of the groups, group by group and in their positions. -/
def getMembersByParents (snapshot : CanonicalSnapshot) (parentObjectIds : List ℕ) :
    List CanonicalObjectMember :=
  (snapshot.members.filter fun member =>
    decide (member.parentObjectId∈parentObjectIds)).insertionSort
    fun a b => a.parentObjectId<b.parentObjectId ∨
      a.parentObjectId=b.parentObjectId ∧ a.position≤ b.position

/-- Groups and their members. -/
def graph (snapshot : CanonicalSnapshot) : GroupGraph ℕ where
  IsGroup id := ∃ object∈snapshot.objects,object.id=id ∧ object.value.objectKind∈groupKinds
  Lists parent child := ∃ member∈snapshot.members,
    member.parentObjectId=parent ∧ member.childObjectId=child

end CanonicalSnapshot

/-- One round of the walk. -/
def expandRound (snapshot : CanonicalSnapshot) (expansion : Expansion) : Expansion :=
  let batch := snapshot.getByIdsForSnapshot expansion.frontier.pending
  let collected := batch.foldl (fun d object => d.setdefault object.id object)
    expansion.collected
  let cleared : Expansion :=
    ⟨collected,expansion.parentIds,expansion.frontier.seen,∅⟩
  if groupIds batch=[] then cleared
  else (snapshot.getMembersByParents (groupIds batch)).foldl noteMember cleared

/-- Rounds of the walk while something is pending. -/
def expandRounds (snapshot : CanonicalSnapshot) : ℕ → Expansion → Expansion
  | 0,expansion => expansion
  | rounds+1,expansion =>
    if expansion.frontier.pending=∅ then expansion
    else expandRounds snapshot rounds (expandRound snapshot expansion)

/-- All objects below the seeds, and the groups each of them was found in. No
walk takes more rounds than there are memberships, and one more. -/
def expandObjectGroups (snapshot : CanonicalSnapshot) (seedIds : Finset ℕ) :
    List CanonicalObject × Dict ℕ (List ℕ) :=
  let expansion := expandRounds snapshot (snapshot.members.length+1)
    ⟨Dict.empty,Dict.empty,seedIds,seedIds⟩
  (expansion.collected.values,expansion.parentIds)

/-- An object with the groups it was found in. -/
structure CanonicalObjectDTO where
  /-- The object. -/
  object : CanonicalObject
  /-- The groups above it in the scope. -/
  parentIds : List ℕ

/-- A rule with its operands. -/
structure CanonicalRuleDTO where
  /-- The rule. -/
  rule : CanonicalRule
  /-- Its operands, if they were asked for. -/
  operands : Option (List CanonicalRuleOperand)

/-- Rules with the zones and objects they refer to. -/
structure GetCanonicalRuleScopeResult where
  /-- The selected rules. -/
  rules : List CanonicalRuleDTO
  /-- The zones they refer to. -/
  zones : List CanonicalZone
  /-- The objects they refer to, with everything below. -/
  objects : List CanonicalObjectDTO

namespace CanonicalSnapshot

variable (snapshot : CanonicalSnapshot)

/-- Rules with one of the numbers, all rules where none is asked for. -/
def listFiltered (ruleIds : List ℕ) : List CanonicalRule :=
  (snapshot.rules.filter fun rule =>
    decide (ruleIds=[] ∨ rule.id∈ruleIds)).insertionSort
    fun a b => a.priority<b.priority ∨ a.priority=b.priority ∧ a.id≤ b.id

/-- Operands of rules, rule by rule, slot by slot and in their positions. -/
def getOperandsByRuleIds (ruleIds : List ℕ) : List CanonicalRuleOperand :=
  (snapshot.operands.filter fun operand => decide (operand.ruleId∈ruleIds)).insertionSort
    fun a b => a.ruleId<b.ruleId ∨ a.ruleId=b.ruleId ∧
      (a.operandRole.value<b.operandRole.value ∨
        a.operandRole=b.operandRole ∧ a.position≤ b.position)

/-- The zones of operands, or all zones. -/
def collectZones (operands : List CanonicalRuleOperand) (narrowScope : Bool) :
    List CanonicalZone :=
  if narrowScope=true then
    snapshot.zones.filter fun zone => decide (zone.id∈operands.filterMap (·.targetZoneId))
  else snapshot.zones

/-- The objects of operands with everything below them, or all objects. -/
def collectObjects (operands : List CanonicalRuleOperand) (narrowScope : Bool) :
    List CanonicalObjectDTO :=
  if narrowScope=true then
    let expanded := expandObjectGroups snapshot
      (operands.filterMap (·.targetObjectId)).toFinset
    expanded.1.map fun object =>
      ⟨object,((expanded.2.get? object.id).getD []).insertionSort (·≤·)⟩
  else snapshot.objects.map fun object => ⟨object,[]⟩

/-- Rules by number, with the zones and objects of their operands. -/
def getCanonicalRuleScope (ruleIds : List ℕ) : GetCanonicalRuleScopeResult :=
  let rules := snapshot.listFiltered ruleIds
  let operands := snapshot.getOperandsByRuleIds (rules.map (·.id))
  let grouped := groupBy (·.ruleId) operands
  let narrowScope := decide (ruleIds≠[])
  { rules := rules.map fun rule => ⟨rule,some ((grouped.get? rule.id).getD [])⟩
    zones := snapshot.collectZones operands narrowScope
    objects := snapshot.collectObjects operands narrowScope }

end CanonicalSnapshot

/-- Opened memberships are those of the groups. -/
theorem mem_getMembersByParents {snapshot : CanonicalSnapshot} {parents : List ℕ}
    {member : CanonicalObjectMember} :
    member∈snapshot.getMembersByParents parents ↔
      member∈snapshot.members ∧ member.parentObjectId∈parents := by
  rw [CanonicalSnapshot.getMembersByParents,List.mem_insertionSort,List.mem_filter,
    decide_eq_true_eq]

/-- Two objects of a snapshot with one number are one object. -/
theorem CanonicalSnapshot.object_ext (snapshot : CanonicalSnapshot) {a b : CanonicalObject}
    (ha : a∈snapshot.objects) (hb : b∈snapshot.objects) (h : a.id=b.id) : a=b :=
  CanonicalGroupExpansion.object_ext snapshot.objects_nodup ha hb h

/-- The tables as a repository. -/
def CanonicalSnapshot.repository (snapshot : CanonicalSnapshot) : CanonicalObjectRepository where
  getByIdsForSnapshot ids := snapshot.getByIdsForSnapshot ids.toFinset
  getMembersByParents := snapshot.getMembersByParents

/-- The tables answer what was asked for. -/
theorem CanonicalSnapshot.repository_answers (snapshot : CanonicalSnapshot) :
    snapshot.repository.Answers snapshot.objects snapshot.members where
  nodup := snapshot.objects_nodup
  byIds ids object := by
    show object∈snapshot.getByIdsForSnapshot ids.toFinset ↔ _
    rw [getByIdsForSnapshot,List.mem_filter,decide_eq_true_eq,List.mem_toFinset]
  byParents _ _ := mem_getMembersByParents

/-- A loop over the repository that ends has gone through the rounds of the snapshot. -/
theorem expandRounds_of_expandFrom {snapshot : CanonicalSnapshot} {rounds round : ℕ}
    {expansion done : Expansion}
    (h : expandFrom snapshot.repository (fun _ ids => ids.sort (·≤·)) (rounds+1) round expansion=
      some done) : expandRounds snapshot rounds expansion=done := by
  induction rounds generalizing round expansion with
  | zero =>
    rw [expandFrom] at h
    split at h
    · exact Option.some.inj h
    · cases h
  | succ rounds ih =>
    rw [expandFrom] at h
    rw [expandRounds]
    split
    · next hdone =>
      rw [if_pos hdone] at h
      exact Option.some.inj h
    · next hmore =>
      rw [if_neg hmore] at h
      have hround : expandRound snapshot expansion=openBatch snapshot.repository
          (snapshot.repository.getByIdsForSnapshot (expansion.frontier.pending.sort (·≤·)))
          expansion := by
        show _=openBatch snapshot.repository
          (snapshot.getByIdsForSnapshot (expansion.frontier.pending.sort (·≤·)).toFinset) expansion
        rw [Finset.sort_toFinset]
        rfl
      rw [hround]
      exact ih h

/-- The walk ends with everything opened. -/
theorem expandObjectGroups_walk (snapshot : CanonicalSnapshot) (seeds : Finset ℕ) :
    ∃ expansion,expandObjectGroups snapshot seeds=
        (expansion.collected.values,expansion.parentIds) ∧
      Walk snapshot.objects snapshot.members seeds expansion ∧ expansion.frontier.pending=∅ := by
  obtain ⟨done,hwalk,hdone,heq⟩ := exists_expandFrom snapshot.repository_answers
    (fun _ ids id => Finset.mem_sort (·≤·)) (.start snapshot.objects snapshot.members seeds) 0
  have hunseen : (childIds snapshot.members \ (Expansion.start seeds).frontier.seen).card≤
      snapshot.members.length :=
    (Finset.card_le_card Finset.sdiff_subset).trans (card_childIds_le snapshot.members)
  have hrounds : expandRounds snapshot (snapshot.members.length+1) (.start seeds)=done :=
    expandRounds_of_expandFrom (heq _ (by omega))
  refine ⟨done,?_,hwalk,hdone⟩
  rw [←hrounds]
  rfl

/-- The walk collects exactly the objects below the seeds. -/
theorem mem_expandObjectGroups {snapshot : CanonicalSnapshot} {seeds : Finset ℕ}
    {object : CanonicalObject} :
    object∈(expandObjectGroups snapshot seeds).1 ↔
      object∈snapshot.objects ∧ ∃ seed∈seeds,snapshot.graph.Below seed object.id := by
  obtain ⟨expansion,heq,hwalk,hdone⟩ := expandObjectGroups_walk snapshot seeds
  rw [heq]
  exact hwalk.mem_collected hdone

/-- No object is collected twice. -/
theorem expandObjectGroups_nodup (snapshot : CanonicalSnapshot) (seeds : Finset ℕ) :
    ((expandObjectGroups snapshot seeds).1.map (·.id)).Nodup := by
  obtain ⟨expansion,heq,hwalk,-⟩ := expandObjectGroups_walk snapshot seeds
  rw [heq]
  exact hwalk.nodup_collected

/-- The walk notes exactly the groups below the seeds that list an object. -/
theorem mem_expandObjectGroups_parents {snapshot : CanonicalSnapshot} {seeds : Finset ℕ}
    {child parent : ℕ} :
    parent∈((expandObjectGroups snapshot seeds).2.get? child).getD [] ↔
      snapshot.graph.Member parent child ∧ ∃ seed∈seeds,snapshot.graph.Below seed parent := by
  obtain ⟨expansion,heq,hwalk,hdone⟩ := expandObjectGroups_walk snapshot seeds
  rw [heq]
  exact hwalk.mem_parents hdone

end NspMigrator.CanonicalScope
