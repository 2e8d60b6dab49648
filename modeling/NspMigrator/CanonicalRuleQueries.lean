import Mathlib
import NspMigrator.CanonicalScope
import NspMigrator.PyText
import NspMigrator.SqlLike
import NspMigrator.SqlPages

/-!
# Filtered rules of a snapshot

Rules are searched and filtered in the tables of a snapshot. A rule refers to an
object also through the groups that hold it, so the objects of a filter are
first walked up to every group above them. Pages and totals share one
predicate, and the rows have one order.
-/

namespace NspMigrator.CanonicalRuleQueries

open PyText SqlLike SqlPages CanonicalModels CanonicalScope GroupReach

/-- Columns rules can be sorted by. -/
inductive CanonicalRuleSortField where
  | priority
  | name
  | action
  | enabled
  | sectionName
  | ruleKey
  | description
  deriving DecidableEq

/-- Where a search looks. -/
inductive CanonicalRuleSearchScope where
  | all
  | rules
  | objects
  | zones
  deriving DecidableEq

/-- A column and whether it is sorted downwards. -/
structure Sorting where
  /-- What is sorted by. -/
  field : CanonicalRuleSortField
  /-- Whether the last come first. -/
  descending : Bool := false

/-- Filters of rules. -/
structure CanonicalRuleFilters where
  /-- Only rules with these numbers. -/
  ruleIds : Option (List ℕ) := none
  /-- Only rules in which a text is found. -/
  search : Option String := none
  /-- Where the text is looked for. -/
  searchScope : CanonicalRuleSearchScope := .all
  /-- Only rules with this action. -/
  action : Option String := none
  /-- Only rules that are in force, or only those that are not. -/
  enabled : Option Bool := none
  /-- Only rules of this section. -/
  sectionName : Option String := none
  /-- Only rules with an operand for one of these zones. -/
  operandZoneIds : List ℕ := []
  /-- Only rules with an operand for one of these objects. -/
  operandObjectIds : List ℕ := []
  /-- Only rules the firewall uses, or only others. -/
  fwApplicableOnly : Option Bool := none

/-- The search without the white space around it, none where nothing else is in it. -/
def CanonicalRuleFilters.normalizedSearch [PyUnicode] (filters : CanonicalRuleFilters) :
    Option String :=
  match filters.search with
  | none => none
  | some search =>
    if search="" then none else if strip search="" then none else some (strip search)

/-- The groups that list one of the objects. -/
def parentsOf (snapshot : CanonicalSnapshot) (pending : Finset ℕ) : Finset ℕ :=
  ((snapshot.members.filter fun member =>
    snapshot.objects.any (fun object => decide (object.id=member.parentObjectId)) &&
      decide (member.childObjectId∈pending)).map (·.parentObjectId)).toFinset

/-- Rounds of the walk upwards while something is pending. -/
def expandUpwards (snapshot : CanonicalSnapshot) : ℕ → Frontier ℕ → Frontier ℕ
  | 0,frontier => frontier
  | rounds+1,frontier =>
    if frontier.pending=∅ then frontier
    else expandUpwards snapshot rounds (frontier.advance (parentsOf snapshot))

/-- Objects with all groups above them. No walk takes more rounds than there are
memberships, and one more. -/
def expandOperandObjectIds (snapshot : CanonicalSnapshot) (objectIds : List ℕ) : Finset ℕ :=
  if objectIds=[] then ∅
  else (expandUpwards snapshot (snapshot.members.length+1)
    ⟨objectIds.toFinset,objectIds.toFinset⟩).seen

/-- Whether the database finds a search, read as a pattern, inside a text. -/
def finds (lower : Char → Char) (search text : String) : Bool :=
  ilike lower '\\' ('%'::(search.toList++['%'])) text.toList==some true

/-- The objects a search finds, with all groups above them; nothing where it does
not look for objects. -/
def resolveSearchObjectIds [PyUnicode] (lower : Char → Char) (snapshot : CanonicalSnapshot)
    (filters : CanonicalRuleFilters) : Option (Finset ℕ) :=
  match filters.normalizedSearch with
  | none => none
  | some search =>
    if filters.searchScope≠.all ∧ filters.searchScope≠.objects then none
    else
      let matched := (snapshot.objects.filter fun object =>
        finds lower search object.value.name || finds lower search object.value.objectKey ||
          object.value.cidr.any (finds lower search) ||
          object.value.fqdn.any (finds lower search)).map (·.id)
      if matched=[] then some ∅ else some (expandOperandObjectIds snapshot matched)

/-- Whether a search finds a rule by its own columns. -/
def ruleFieldsSearch (lower : Char → Char) (search : String) (rule : CanonicalRule) : Bool :=
  finds lower search rule.name || finds lower search rule.ruleKey ||
    rule.sectionName.any (finds lower search) || rule.description.any (finds lower search) ||
    finds lower search rule.action

/-- Whether a search finds a zone of a rule. -/
def zoneSearchExists (lower : Char → Char) (snapshot : CanonicalSnapshot) (search : String)
    (rule : CanonicalRule) : Bool :=
  snapshot.operands.any fun operand => decide (operand.ruleId=rule.id) &&
    snapshot.zones.any fun zone => decide (operand.targetZoneId=some zone.id) &&
      (finds lower search zone.name || finds lower search zone.zoneKey)

/-- Whether a rule has one of the objects. -/
def objectIdsExists (snapshot : CanonicalSnapshot) (objectIds : Finset ℕ) (rule : CanonicalRule) :
    Bool :=
  snapshot.operands.any fun operand => decide (operand.ruleId=rule.id) &&
    operand.targetObjectId.any fun objectId => decide (objectId∈objectIds)

/-- The search of a query. Where it looks for objects only and finds none, no rule is left. -/
def applySearchFilter [PyUnicode] (lower : Char → Char) (snapshot : CanonicalSnapshot)
    (filters : CanonicalRuleFilters) (searchObjectIds : Option (Finset ℕ)) (rule : CanonicalRule) :
    Bool :=
  match filters.normalizedSearch with
  | none => true
  | some search =>
    (decide (filters.searchScope=.all ∨ filters.searchScope=.rules) &&
      ruleFieldsSearch lower search rule) ||
    (decide (filters.searchScope=.all ∨ filters.searchScope=.zones) &&
      zoneSearchExists lower snapshot search rule) ||
    (decide (filters.searchScope=.all ∨ filters.searchScope=.objects) &&
      searchObjectIds.any fun objectIds => decide (objectIds≠∅) &&
        objectIdsExists snapshot objectIds rule)

/-- The predicate that pages and totals share. -/
def buildFilteredQuery [PyUnicode] (lower : Char → Char) (snapshot : CanonicalSnapshot)
    (filters : CanonicalRuleFilters) (expandedObjectIds : Finset ℕ)
    (searchObjectIds : Option (Finset ℕ)) (rule : CanonicalRule) : Bool :=
  (filters.ruleIds.all fun ruleIds => ruleIds.isEmpty || decide (rule.id∈ruleIds)) &&
  applySearchFilter lower snapshot filters searchObjectIds rule &&
  (filters.action.all fun action => decide (rule.action=action)) &&
  (filters.enabled.all fun enabled => decide (rule.enabled=enabled)) &&
  (filters.sectionName.all fun sectionName => decide (rule.sectionName=some sectionName)) &&
  (filters.operandZoneIds.isEmpty || snapshot.operands.any fun operand =>
    decide (operand.ruleId=rule.id) &&
      operand.targetZoneId.any fun zoneId => decide (zoneId∈filters.operandZoneIds)) &&
  (decide (expandedObjectIds=∅) || objectIdsExists snapshot expandedObjectIds rule) &&
  (filters.fwApplicableOnly.all fun applicable => rule.description.any
    (finds lower (if applicable=true then "processing_status=fw_applicable"
      else "processing_status=skipped_for_now")))

/-- The predicate of a filter. -/
def keepsRule [PyUnicode] (lower : Char → Char) (snapshot : CanonicalSnapshot)
    (filters : CanonicalRuleFilters) : CanonicalRule → Bool :=
  buildFilteredQuery lower snapshot filters
    (expandOperandObjectIds snapshot filters.operandObjectIds)
    (resolveSearchObjectIds lower snapshot filters)

/-- How many rules a filter keeps. -/
def countFiltered [PyUnicode] (lower : Char → Char) (snapshot : CanonicalSnapshot)
    (filters : CanonicalRuleFilters) : ℕ :=
  (snapshot.rules.filter (keepsRule lower snapshot filters)).length

/-- The order of the rules: by priority, or by a column in a direction. Texts are
compared by the collation of the database. -/
def sortOrder (collation : KeyOrder String) : Option Sorting → KeyOrder CanonicalRule
  | none => (KeyOrder.linear ℕ).comap (·.priority)
  | some sorting =>
    let upwards : KeyOrder CanonicalRule := match sorting.field with
      | .priority => (KeyOrder.linear ℕ).comap (·.priority)
      | .name => collation.comap (·.name)
      | .action => collation.comap (·.action)
      | .enabled => (KeyOrder.linear Bool).comap (·.enabled)
      | .sectionName => collation.nullsLast.comap (·.sectionName)
      | .ruleKey => collation.comap (·.ruleKey)
      | .description => collation.nullsLast.comap (·.description)
    if sorting.descending=true then upwards.reverse else upwards

/-- A part of the rules a filter keeps. -/
def listFiltered [PyUnicode] (lower : Char → Char) (collation : KeyOrder String)
    (snapshot : CanonicalSnapshot) (filters : CanonicalRuleFilters) (limit offset : Option ℕ)
    (sort : Option Sorting) : List CanonicalRule :=
  page limit (offset.getD 0)
    ((snapshot.rules.filter (keepsRule lower snapshot filters)).insertionSort
    (orderBy (sortOrder collation sort) id (·.id)))

/-- Objects with the groups that list them. -/
def containers (snapshot : CanonicalSnapshot) : GroupGraph ℕ where
  IsGroup _ := True
  Lists child parent := snapshot.graph.Lists parent child

/-- A rule has an object, or a group that holds it. -/
def RefersTo (snapshot : CanonicalSnapshot) (rule : CanonicalRule) (objectId : ℕ) : Prop :=
  ∃ operand∈snapshot.operands,operand.ruleId=rule.id ∧ ∃ top,operand.targetObjectId=some top ∧
    Relation.ReflTransGen snapshot.graph.Lists top objectId

/-- What a search of rules finds. -/
def FoundBy (lower : Char → Char) (snapshot : CanonicalSnapshot)
    (scope : CanonicalRuleSearchScope) (search : String) (rule : CanonicalRule) : Prop :=
  (scope=.all ∨ scope=.rules) ∧ ruleFieldsSearch lower search rule=true ∨
  (scope=.all ∨ scope=.zones) ∧ (∃ operand∈snapshot.operands,operand.ruleId=rule.id ∧
    ∃ zone∈snapshot.zones,operand.targetZoneId=some zone.id ∧
      (finds lower search zone.name=true ∨ finds lower search zone.zoneKey=true)) ∨
  (scope=.all ∨ scope=.objects) ∧ ∃ object∈snapshot.objects,RefersTo snapshot rule object.id ∧
    (finds lower search object.value.name=true ∨ finds lower search object.value.objectKey=true ∨
      (∃ cidr,object.value.cidr=some cidr ∧ finds lower search cidr=true) ∨
      ∃ fqdn,object.value.fqdn=some fqdn ∧ finds lower search fqdn=true)

/-- What a filter asks for. -/
structure RuleWanted [PyUnicode] (lower : Char → Char) (snapshot : CanonicalSnapshot)
    (filters : CanonicalRuleFilters) (rule : CanonicalRule) : Prop where
  /-- It is among the numbers asked for. -/
  ids : ∀ ruleIds,filters.ruleIds=some ruleIds → ruleIds=[] ∨ rule.id∈ruleIds
  /-- The text is found in it. -/
  search : ∀ search,filters.normalizedSearch=some search →
    FoundBy lower snapshot filters.searchScope search rule
  /-- It has the action. -/
  action : ∀ action,filters.action=some action → rule.action=action
  /-- It is in force as asked. -/
  enabled : ∀ enabled,filters.enabled=some enabled → rule.enabled=enabled
  /-- It stands in the section. -/
  sectionName : ∀ sectionName,filters.sectionName=some sectionName →
    rule.sectionName=some sectionName
  /-- One of its operands refers to a zone asked for. -/
  zones : filters.operandZoneIds=[] ∨ ∃ operand∈snapshot.operands,operand.ruleId=rule.id ∧
    ∃ zoneId∈filters.operandZoneIds,operand.targetZoneId=some zoneId
  /-- One of its operands refers to an object asked for, or to a group above one. -/
  objects : filters.operandObjectIds=[] ∨
    ∃ objectId∈filters.operandObjectIds,RefersTo snapshot rule objectId
  /-- The firewall uses it as asked. -/
  applicable : ∀ applicable,filters.fwApplicableOnly=some applicable →
    ∃ description,rule.description=some description ∧
      finds lower (if applicable=true then "processing_status=fw_applicable"
        else "processing_status=skipped_for_now") description=true

/-- A search without characters that have a meaning in patterns finds what stands in a text. -/
theorem finds_iff {lower : Char → Char} (hlower : KeepsSpecial lower) {search text : String}
    (hplain : ∀ c∈search.toList,¬Special c) :
    finds lower search text=true ↔ Contains lower search text := by
  have hsame : '%'::(search.toList++['%'])=['%']++escapeText search.toList++['%'] := by
    rw [escapeText_eq_self hplain]
    rfl
  rw [finds,hsame,ilike_escaped hlower,beq_iff_eq,Option.some.injEq,decide_eq_true_eq]
  rfl

section Walk

variable {snapshot : CanonicalSnapshot}

/-- The groups above are those that list one of the objects. -/
theorem mem_parentsOf {pending : Finset ℕ} {parent : ℕ} :
    parent∈parentsOf snapshot pending ↔
      ∃ child∈pending,(containers snapshot).Member child parent := by
  unfold parentsOf containers GroupGraph.Member
  simp only [List.mem_toFinset,List.mem_map,List.mem_filter,Bool.and_eq_true,decide_eq_true_eq,
    List.any_eq_true,true_and]
  constructor
  · rintro ⟨member,⟨hm,-,hchild⟩,rfl⟩
    exact ⟨member.childObjectId,hchild,member,hm,rfl,rfl⟩
  · rintro ⟨child,hchild,member,hm,rfl,rfl⟩
    obtain ⟨parent,hp,-,-,hid,-⟩ := snapshot.member_refs member hm
    exact ⟨member,⟨hm,⟨parent,hp,hid⟩,hchild⟩,rfl⟩

/-- A walk with enough rounds ends with everything above seen. -/
theorem expandUpwards_spec {seeds : Finset ℕ} {rounds : ℕ} {frontier : Frontier ℕ}
    (h : Frontier.Sound (containers snapshot) seeds frontier)
    (hrounds : ((snapshot.members.map (·.parentObjectId)).toFinset \ frontier.seen).card < rounds) :
    ∃ done,expandUpwards snapshot rounds frontier=done ∧
      Frontier.Sound (containers snapshot) seeds done ∧ done.pending=∅ := by
  induction rounds generalizing frontier with
  | zero => exact absurd hrounds (Nat.not_lt_zero _)
  | succ rounds ih =>
    rw [expandUpwards]
    by_cases hdone : frontier.pending=∅
    · rw [if_pos hdone]
      exact ⟨frontier,rfl,h,hdone⟩
    · rw [if_neg hdone]
      have hnext := h.advance fun parent => mem_parentsOf
      by_cases hmore : (frontier.advance (parentsOf snapshot)).pending=∅
      · refine ⟨_,?_,hnext,hmore⟩
        cases rounds with
        | zero => rfl
        | succ rounds => rw [expandUpwards,if_pos hmore]
      · have hsub : parentsOf snapshot frontier.pending⊆
            (snapshot.members.map (·.parentObjectId)).toFinset := by
          intro parent hp
          obtain ⟨child,-,-,member,hm,hparent,-⟩ := mem_parentsOf.mp hp
          exact List.mem_toFinset.mpr (List.mem_map.mpr ⟨member,hm,hparent⟩)
        exact ih hnext (by have hless := Frontier.card_unseen_advance hsub hmore; omega)

/-- What lies above in the walk lists what it started from. -/
theorem below_containers {child top : ℕ} : (containers snapshot).Below child top ↔
    Relation.ReflTransGen snapshot.graph.Lists top child := by
  have hswap : (containers snapshot).Member=Function.swap snapshot.graph.Lists := by
    funext child parent
    exact propext ⟨fun h => h.2,fun h => ⟨trivial,h⟩⟩
  rw [GroupGraph.Below,hswap,Relation.reflTransGen_swap]

/-- The walk finds exactly the objects and what holds them. -/
theorem mem_expandOperandObjectIds {objectIds : List ℕ} {top : ℕ} :
    top∈expandOperandObjectIds snapshot objectIds ↔
      ∃ objectId∈objectIds,Relation.ReflTransGen snapshot.graph.Lists top objectId := by
  unfold expandOperandObjectIds
  by_cases hnil : objectIds=[]
  · rw [if_pos hnil,hnil]
    simp
  · rw [if_neg hnil]
    have hcard : ((snapshot.members.map (·.parentObjectId)).toFinset \ objectIds.toFinset).card <
        snapshot.members.length+1 := by
      refine Nat.lt_succ_of_le ((Finset.card_le_card Finset.sdiff_subset).trans ?_)
      exact (List.toFinset_card_le _).trans_eq (List.length_map _)
    obtain ⟨done,hdone,hsound,hpending⟩ := expandUpwards_spec
      (Frontier.Sound.start (containers snapshot) objectIds.toFinset) hcard
    rw [hdone,hsound.mem_seen_iff hpending]
    simp only [List.mem_toFinset,below_containers]

/-- A rule that has one of the objects found refers to one of those looked for. -/
theorem objectIdsExists_iff {objectIds : List ℕ} {rule : CanonicalRule} :
    objectIdsExists snapshot (expandOperandObjectIds snapshot objectIds) rule=true ↔
      ∃ objectId∈objectIds,RefersTo snapshot rule objectId := by
  unfold objectIdsExists RefersTo
  simp only [List.any_eq_true,Bool.and_eq_true,decide_eq_true_eq,Option.any_eq_true,
    mem_expandOperandObjectIds]
  constructor
  · rintro ⟨operand,ho,hrule,top,htop,objectId,hid,habove⟩
    exact ⟨objectId,hid,operand,ho,hrule,top,htop,habove⟩
  · rintro ⟨objectId,hid,operand,ho,hrule,top,htop,habove⟩
    exact ⟨operand,ho,hrule,top,htop,objectId,hid,habove⟩

/-- No object is found without something to look for. -/
theorem expandOperandObjectIds_eq_empty {objectIds : List ℕ} :
    expandOperandObjectIds snapshot objectIds=∅ ↔ objectIds=[] := by
  constructor
  · intro hempty
    rw [List.eq_nil_iff_forall_not_mem]
    intro objectId hid
    have hmem := mem_expandOperandObjectIds.mpr
      ⟨objectId,hid,Relation.ReflTransGen.refl (r := snapshot.graph.Lists)⟩
    rw [hempty] at hmem
    exact absurd hmem (Finset.notMem_empty objectId)
  · intro hnil
    rw [expandOperandObjectIds,if_pos hnil]

end Walk

section Meaning

variable [PyUnicode] {lower : Char → Char} {snapshot : CanonicalSnapshot}
  {filters : CanonicalRuleFilters} {rule : CanonicalRule}

/-- The objects of a search are those whose columns it finds. -/
theorem search_objects_iff {search : String} (hsearch : filters.normalizedSearch=some search)
    (hscope : filters.searchScope=.all ∨ filters.searchScope=.objects) :
    (resolveSearchObjectIds lower snapshot filters).any (fun objectIds =>
        decide (objectIds≠∅) && objectIdsExists snapshot objectIds rule)=true ↔
      ∃ object∈snapshot.objects,RefersTo snapshot rule object.id ∧
        (finds lower search object.value.name=true ∨
          finds lower search object.value.objectKey=true ∨
          (∃ cidr,object.value.cidr=some cidr ∧ finds lower search cidr=true) ∨
          ∃ fqdn,object.value.fqdn=some fqdn ∧ finds lower search fqdn=true) := by
  have hlooks : ¬(filters.searchScope≠.all ∧ filters.searchScope≠.objects) := fun h =>
    hscope.elim h.1 h.2
  have hmatched : ∀ objectId,objectId∈(snapshot.objects.filter fun object =>
      finds lower search object.value.name || finds lower search object.value.objectKey ||
        object.value.cidr.any (finds lower search) ||
        object.value.fqdn.any (finds lower search)).map (·.id) ↔
      ∃ object∈snapshot.objects,object.id=objectId ∧
        (finds lower search object.value.name=true ∨
          finds lower search object.value.objectKey=true ∨
          (∃ cidr,object.value.cidr=some cidr ∧ finds lower search cidr=true) ∨
          ∃ fqdn,object.value.fqdn=some fqdn ∧ finds lower search fqdn=true) := by
    intro objectId
    simp only [List.mem_map,List.mem_filter,Bool.or_eq_true,Option.any_eq_true,or_assoc]
    constructor
    · rintro ⟨object,⟨ho,hfound⟩,hid⟩
      exact ⟨object,ho,hid,hfound⟩
    · rintro ⟨object,ho,hid,hfound⟩
      exact ⟨object,⟨ho,hfound⟩,hid⟩
  unfold resolveSearchObjectIds
  rw [hsearch]
  dsimp only
  rw [if_neg hlooks]
  split
  · next hnil =>
    rw [hnil] at hmatched
    constructor
    · intro h
      simp at h
    · rintro ⟨object,ho,-,hfound⟩
      exact absurd ((hmatched object.id).mpr ⟨object,ho,rfl,hfound⟩) List.not_mem_nil
  · next hsome =>
    rw [Option.any_some,Bool.and_eq_true,decide_eq_true_eq,objectIdsExists_iff]
    constructor
    · rintro ⟨-,objectId,hid,hrefers⟩
      obtain ⟨object,ho,rfl,hfound⟩ := (hmatched objectId).mp hid
      exact ⟨object,ho,hrefers,hfound⟩
    · rintro ⟨object,ho,hrefers,hfound⟩
      exact ⟨fun hempty => hsome (expandOperandObjectIds_eq_empty.mp hempty),object.id,
        (hmatched object.id).mpr ⟨object,ho,rfl,hfound⟩,hrefers⟩

/-- The search of a query keeps what it finds. -/
theorem applySearchFilter_iff : applySearchFilter lower snapshot filters
      (resolveSearchObjectIds lower snapshot filters) rule=true ↔
    ∀ search,filters.normalizedSearch=some search →
      FoundBy lower snapshot filters.searchScope search rule := by
  cases hsearch : filters.normalizedSearch with
  | none =>
    rw [applySearchFilter,hsearch]
    simp
  | some search =>
    have hzones : zoneSearchExists lower snapshot search rule=true ↔
        ∃ operand∈snapshot.operands,operand.ruleId=rule.id ∧
          ∃ zone∈snapshot.zones,operand.targetZoneId=some zone.id ∧
            (finds lower search zone.name=true ∨ finds lower search zone.zoneKey=true) := by
      unfold zoneSearchExists
      simp only [List.any_eq_true,Bool.and_eq_true,decide_eq_true_eq,Bool.or_eq_true]
    have hfilter : applySearchFilter lower snapshot filters
        (resolveSearchObjectIds lower snapshot filters) rule=true ↔
        FoundBy lower snapshot filters.searchScope search rule := by
      rw [applySearchFilter,hsearch]
      dsimp only
      rw [Bool.or_eq_true,Bool.or_eq_true,Bool.and_eq_true,Bool.and_eq_true,Bool.and_eq_true,
        decide_eq_true_eq,decide_eq_true_eq,decide_eq_true_eq,hzones,
        and_congr_right fun hscope => search_objects_iff hsearch hscope,or_assoc]
      rfl
    rw [hfilter]
    constructor
    · intro hfound other ho
      cases ho
      exact hfound
    · exact fun hall => hall search rfl

/-- A filter keeps exactly the rules it asks for. -/
theorem keepsRule_iff : keepsRule lower snapshot filters rule=true ↔
    RuleWanted lower snapshot filters rule := by
  have hzones : (snapshot.operands.any fun operand => decide (operand.ruleId=rule.id) &&
      operand.targetZoneId.any fun zoneId => decide (zoneId∈filters.operandZoneIds))=true ↔
      ∃ operand∈snapshot.operands,operand.ruleId=rule.id ∧
        ∃ zoneId∈filters.operandZoneIds,operand.targetZoneId=some zoneId := by
    simp only [List.any_eq_true,Bool.and_eq_true,decide_eq_true_eq,Option.any_eq_true]
    refine exists_congr fun operand => and_congr_right fun _ => and_congr_right fun _ => ?_
    exact exists_congr fun zoneId => and_comm
  have hobjects : (decide (expandOperandObjectIds snapshot filters.operandObjectIds=∅) ||
      objectIdsExists snapshot (expandOperandObjectIds snapshot filters.operandObjectIds)
        rule)=true ↔ filters.operandObjectIds=[] ∨
      ∃ objectId∈filters.operandObjectIds,RefersTo snapshot rule objectId := by
    rw [Bool.or_eq_true,decide_eq_true_eq,expandOperandObjectIds_eq_empty,objectIdsExists_iff]
  unfold keepsRule buildFilteredQuery
  simp only [Bool.and_eq_true,hobjects]
  simp only [Bool.or_eq_true,all_eq_true,decide_eq_true_eq,List.isEmpty_iff,
    applySearchFilter_iff,hzones,Option.any_eq_true]
  constructor
  · rintro ⟨⟨⟨⟨⟨⟨⟨hids,hsearch⟩,haction⟩,henabled⟩,hlist⟩,hzone⟩,hobject⟩,happlicable⟩
    exact ⟨hids,hsearch,haction,henabled,hlist,hzone,hobject,happlicable⟩
  · rintro ⟨hids,hsearch,haction,henabled,hlist,hzone,hobject,happlicable⟩
    exact ⟨⟨⟨⟨⟨⟨⟨hids,hsearch⟩,haction⟩,henabled⟩,hlist⟩,hzone⟩,hobject⟩,happlicable⟩

/-- The pages of the rules a filter keeps are the rules it asks for, each of them
once and in one order, and the count is theirs. -/
theorem filtered_rule_pages (lower : Char → Char) (collation : KeyOrder String)
    (snapshot : CanonicalSnapshot) (filters : CanonicalRuleFilters) (sort : Option Sorting)
    (size : ℕ) :
    ∃ listing : List CanonicalRule,
      (∀ count,listing.length≤count*size → (List.range count).flatMap (fun i =>
        listFiltered lower collation snapshot filters (some size) (some (i*size)) sort)=listing) ∧
      listFiltered lower collation snapshot filters none none sort=listing ∧
      countFiltered lower snapshot filters=listing.length ∧ listing.Nodup ∧
      listing.Pairwise (orderBy (sortOrder collation sort) id (·.id)) ∧
      ∀ rule,rule∈listing ↔ rule∈snapshot.rules ∧ RuleWanted lower snapshot filters rule := by
  have hlisting := listing_filter (sortOrder collation sort) id snapshot.rules_nodup
    (keepsRule lower snapshot filters)
  refine ⟨_,fun count hcount => ?_,rfl,?_,hlisting.nodup,hlisting.sorted,fun rule => ?_⟩
  · exact hlisting.pages (fun _ => List.Perm.refl _) hcount
  · exact (hlisting.query snapshot.rules (List.Perm.refl _)).1
  · exact (hlisting.mem rule).trans (and_congr_right fun _ => keepsRule_iff)

/-- A filter of numbers alone is what the scope of a mapping is read with. -/
theorem listFiltered_ruleIds (lower : Char → Char) (collation : KeyOrder String)
    (snapshot : CanonicalSnapshot) (ruleIds : List ℕ) :
    listFiltered lower collation snapshot { ruleIds := some ruleIds } none none none=
      snapshot.listFiltered ruleIds := by
  have hkeeps : keepsRule lower snapshot { ruleIds := some ruleIds }=
      fun rule => decide (ruleIds=[] ∨ rule.id∈ruleIds) := by
    funext rule
    rw [Bool.eq_iff_iff,keepsRule_iff,decide_eq_true_eq]
    constructor
    · exact fun h => h.ids ruleIds rfl
    · intro h
      constructor
      case ids =>
        intro other ho
        cases ho
        exact h
      case zones => exact Or.inl rfl
      case objects => exact Or.inl rfl
      all_goals
        intro value hvalue
        cases hvalue
  have horder : orderBy (sortOrder collation none) id (fun rule : CanonicalRule => rule.id)=
      fun a b => a.priority < b.priority ∨ a.priority=b.priority ∧ a.id ≤ b.id := by
    funext a b
    simp only [orderBy,sortOrder,KeyOrder.comap,KeyOrder.linear,id,decide_eq_true_eq]
    rw [eq_iff_iff]
    constructor
    · rintro ⟨hle,hid⟩
      rcases hle.lt_or_eq with hlt|heq
      · exact Or.inl hlt
      · exact Or.inr ⟨heq,hid heq.ge⟩
    · rintro (hlt|⟨heq,hid⟩)
      · exact ⟨hlt.le,fun hge => absurd hge (Nat.not_le.mpr hlt)⟩
      · exact ⟨heq.le,fun _ => hid⟩
  rw [listFiltered,CanonicalSnapshot.listFiltered,hkeeps]
  simp only [horder]
  rfl

end Meaning

end NspMigrator.CanonicalRuleQueries
