import Mathlib
import NspMigrator.MappingScopeInvariant

/-!
# What a zone assignment asks of the repository

A request reads the scope, and then the results that select its zone. Whatever
is stored meanwhile, it gives an operand to the rules that lack the zone in
these copies, to each of them once, and makes a manual result first when the
copies have none.
-/

namespace NspMigrator.MappingZoneSpec

open PyAsync PyDict SdwanModels ExecuteRepository MappingEntities MappingRepository
open MappingUseCases MigrationRequests MappingScopeSpec

/-- A request to assign a zone to the rules of a scope. -/
structure ZoneRequest where
  /-- Whether sources or destinations get the zone. -/
  zoneDirection : ZoneDirection
  /-- The SD-WAN zone. -/
  zoneSdwanId : ℤ
  deriving DecidableEq

namespace ZoneRequest

/-- The slot a request fills. -/
def role (request : ZoneRequest) : MappingScopeRuleOperandRole :=
  mapZoneDirection request.zoneDirection

/-- What serving a request does. -/
def serve (scopeId : ℕ) (request : ZoneRequest) :
    Mapping (MappingEntityResult × List MappingScopeRuleOperand) :=
  assignZoneForScope request.zoneDirection request.zoneSdwanId scopeId

/-- Requests for one zone and one slot are the same. -/
theorem eq_of_role {first second : ZoneRequest} (hrole : first.role=second.role)
    (hzone : first.zoneSdwanId=second.zoneSdwanId) : first=second := by
  obtain ⟨direction,zoneSdwanId⟩ := first
  obtain ⟨otherDirection,otherId⟩ := second
  cases hzone
  cases direction <;> cases otherDirection <;> first | rfl | cases hrole

end ZoneRequest

/-- A zone result that selects an SD-WAN zone. -/
structure StandsFor (zoneSdwanId : ℤ) (result : MappingEntityResult) : Prop where
  /-- It is a zone result. -/
  zone : result.entityType=.zone
  /-- It is matched. -/
  matched : result.resultStatus=.matched
  /-- The zone is selected. -/
  selected : result.selectedSdwanEntityId=some zoneSdwanId

/-- A result that was assigned by hand stands for no canonical entity. -/
def Manual (result : MappingEntityResult) : Prop :=
  result.canonicalZoneId=none ∧ result.canonicalObjectId=none

/-- The result a request makes stands for its zone. -/
theorem standsFor_manual (id scopeId : ℕ) (zoneSdwanId : ℤ) :
    StandsFor zoneSdwanId
        (MappingEntityResult.createZoneManuallyAssigned id scopeId zoneSdwanId) ∧
      Manual (MappingEntityResult.createZoneManuallyAssigned id scopeId zoneSdwanId) :=
  ⟨⟨rfl,rfl,rfl⟩,rfl,rfl⟩

/-- The scope was read. -/
def ScopeRead (scopeId : ℕ) (history : List MappingEvent) (scope : MappingScope) : Prop :=
  (⟨.getScopeById scopeId,.ok (some scope)⟩ : MappingEvent)∈history

/-- The zone results were read. -/
def ResultsRead (scopeId : ℕ) (history : List MappingEvent) (results : List MappingEntityResult) :
    Prop :=
  (⟨.listResults scopeId (some .zone) none,.ok results⟩ : MappingEvent)∈history

/-- An operand was attached. -/
def Attached (scopeId : ℕ) (history : List MappingEvent) (operand : MappingScopeRuleOperand) :
    Prop :=
  (⟨.addRuleOperand scopeId operand,.ok ()⟩ : MappingEvent)∈history

/-- A rule lacks the zone of a request in the copies that were read. -/
structure Lacks (request : ZoneRequest) (scope : MappingScope)
    (results : List MappingEntityResult) (rule : MappingScopeRule) : Prop where
  /-- It is a rule of the copy. -/
  read : rule∈scope.rules.getD []
  /-- None of its operands points at a result for the zone. -/
  lacks : ∀ operand∈rule.operands.getD [],operand.role=request.role → ∀ result∈results,
    StandsFor request.zoneSdwanId result → operand.mappingEntityResultId≠result.id

/-- A result the request read or made stands for its zone. -/
def Points (request : ZoneRequest) (scopeId : ℕ) (history : List MappingEvent)
    (results : List MappingEntityResult) (resultId : ℕ) : Prop :=
  (∃ result∈results,StandsFor request.zoneSdwanId result ∧ result.id=resultId) ∨
    (⟨.addResults scopeId [MappingEntityResult.createZoneManuallyAssigned resultId scopeId
      request.zoneSdwanId],.ok ()⟩ : MappingEvent)∈history

/-- Whether an operation adds an operand. -/
def AddsOperand (op : MappingOp) : Prop := ∃ scopeId operand,op=.addRuleOperand scopeId operand

/-- What a request asks of the repository, for what it has done so far. -/
def ZoneSpec (request : ZoneRequest) (scopeId : ℕ) (history : List MappingEvent) :
    MappingOp → Prop
  | .getScopeById otherId => otherId=scopeId ∧ history=[]
  | .listResults otherId entityType status =>
    otherId=scopeId ∧ entityType=some .zone ∧ status=none
  | .addResults otherId results => otherId=scopeId ∧ history.any addsResults=false ∧
    ∃ resultId scope listed rule,
      results=[MappingEntityResult.createZoneManuallyAssigned resultId scopeId
        request.zoneSdwanId] ∧
      ScopeRead scopeId history scope ∧ ResultsRead scopeId history listed ∧
      Lacks request scope listed rule ∧
      ∀ result∈listed,StandsFor request.zoneSdwanId result → ¬Manual result
  | .addRuleOperand otherId operand => otherId=scopeId ∧ operand.role=request.role ∧
    ∃ scope listed rule,rule.id=operand.mappingScopeRuleId ∧
      ScopeRead scopeId history scope ∧ ResultsRead scopeId history listed ∧
      Lacks request scope listed rule ∧
      Points request scopeId history listed operand.mappingEntityResultId ∧
      ∀ event∈history,∀ otherScope other,event.op=.addRuleOperand otherScope other →
        other.mappingScopeRuleId≠rule.id
  | .addScope _ | .attachRules _ _ | .saveResult _ | .refreshCatalogFingerprint _ _ => False
  | _ => True

/-- What has been done when a request returns. -/
def ZoneDone (request : ZoneRequest) (scopeId : ℕ) (history : List MappingEvent)
    (result : Except PyException (MappingEntityResult × List MappingScopeRuleOperand)) : Prop :=
  match result with
  | .error _ => True
  | .ok _ => ∃ scope listed,ScopeRead scopeId history scope ∧
    ResultsRead scopeId history listed ∧ ∀ rule,Lacks request scope listed rule →
      ∃ operand,Attached scopeId history operand ∧ operand.mappingScopeRuleId=rule.id ∧
        operand.role=request.role ∧
        Points request scopeId history listed operand.mappingEntityResultId

/-- What the repository and the controller answer. A zone is looked up by its
number, and rules are stored under theirs. -/
def ZoneAnswer (event : MappingEvent) : Prop :=
  match event with
  | ⟨.getScopeById scopeId,.ok (some scope)⟩ =>
    scope.id=scopeId ∧ ((scope.rules.getD []).map (·.id)).Nodup
  | ⟨.listResults _ (some entityType) _,.ok results⟩ =>
    ∀ result∈results,result.entityType=entityType
  | ⟨.getZone zoneId,.ok (some zone)⟩ => zone.id=zoneId
  | _ => True

/-- A request keeps to its specification. -/
abbrev ZoneKeeps {α : Type} (request : ZoneRequest) (scopeId : ℕ) (x : Mapping α)
    (history : List MappingEvent) (Q : List MappingEvent → Except PyException α → Prop) : Prop :=
  x.Sound (fun _ => ZoneAnswer) (ZoneSpec request scopeId) Q history

section Histories

variable {request : ZoneRequest} {scopeId resultId : ℕ} {history later : List MappingEvent}
  {scope : MappingScope} {results : List MappingEntityResult} {rule : MappingScopeRule}

theorem ScopeRead.mono (h : ScopeRead scopeId history scope) :
    ScopeRead scopeId (history++later) scope := List.mem_append_left later h

theorem ResultsRead.mono (h : ResultsRead scopeId history results) :
    ResultsRead scopeId (history++later) results := List.mem_append_left later h

theorem Points.mono (h : Points request scopeId history results resultId) :
    Points request scopeId (history++later) results resultId :=
  h.imp_right fun hin => List.mem_append_left later hin

/-- The results that are found for a zone are those that stand for it. -/
theorem mem_matching (hzone : ∀ result∈results,result.entityType=.zone) {zoneSdwanId : ℤ}
    {result : MappingEntityResult} :
    result∈results.filter (fun result => decide (result.resultStatus=.matched) &&
        decide (result.selectedSdwanEntityId=some zoneSdwanId)) ↔
      result∈results ∧ StandsFor zoneSdwanId result := by
  rw [List.mem_filter,Bool.and_eq_true,decide_eq_true_eq,decide_eq_true_eq]
  constructor
  · rintro ⟨hin,hmatched,hselected⟩
    exact ⟨hin,hzone result hin,hmatched,hselected⟩
  · rintro ⟨hin,hstands⟩
    exact ⟨hin,hstands.matched,hstands.selected⟩

/-- The rules that are left are those that lack the zone. -/
theorem mem_rulesWithoutZone (hzone : ∀ result∈results,result.entityType=.zone) :
    rule∈rulesWithoutZone (scope.rules.getD []) request.role
        (results.filter fun result => decide (result.resultStatus=.matched) &&
          decide (result.selectedSdwanEntityId=some request.zoneSdwanId)) ↔
      Lacks request scope results rule := by
  rw [rulesWithoutZone,List.mem_filter,Bool.not_eq_true',List.any_eq_false]
  have hcovered : ∀ operand : MappingScopeRuleOperand,
      ¬(decide (operand.role=request.role) && decide (operand.mappingEntityResultId∈
        (results.filter fun result => decide (result.resultStatus=.matched) &&
          decide (result.selectedSdwanEntityId=some request.zoneSdwanId)).map (·.id)))=true ↔
      (operand.role=request.role → ∀ result∈results,StandsFor request.zoneSdwanId result →
        operand.mappingEntityResultId≠result.id) := by
    intro operand
    rw [Bool.and_eq_true,decide_eq_true_eq,decide_eq_true_eq,not_and]
    refine imp_congr_right fun hrole => ⟨fun h result hin hstands hid => ?_,fun h hin => ?_⟩
    · exact h (List.mem_map.mpr ⟨result,(mem_matching hzone).mpr ⟨hin,hstands⟩,hid.symm⟩)
    · obtain ⟨result,hresult,hid⟩ := List.mem_map.mp hin
      have hfound := (mem_matching hzone).mp hresult
      exact h result hfound.1 hfound.2 hid.symm
  constructor
  · rintro ⟨hin,h⟩
    exact ⟨hin,fun operand ho => (hcovered operand).mp (h operand ho)⟩
  · intro h
    exact ⟨h.read,fun operand ho => (hcovered operand).mpr (h.lacks operand ho)⟩

/-- The rules that are left stand as they were read. -/
theorem rulesWithoutZone_sublist (rules : List MappingScopeRule)
    (role : MappingScopeRuleOperandRole) (matching : List MappingEntityResult) :
    ((rulesWithoutZone rules role matching).map (·.id)).Sublist (rules.map (·.id)) :=
  List.filter_sublist.map _

/-- A manual result that is found was read and stands for the zone. -/
theorem manualResult_cases (hzone : ∀ result∈results,result.entityType=.zone) (zoneSdwanId : ℤ) :
    match manualResult (results.filter fun result => decide (result.resultStatus=.matched) &&
        decide (result.selectedSdwanEntityId=some zoneSdwanId)) with
    | some result => result∈results ∧ StandsFor zoneSdwanId result
    | none => ∀ result∈results,StandsFor zoneSdwanId result → ¬Manual result := by
  split
  next result hfound => exact (mem_matching hzone).mp (List.mem_of_find?_eq_some hfound)
  next hnone =>
    intro result hin hstands hmanual
    have hno := List.find?_eq_none.mp hnone result ((mem_matching hzone).mpr ⟨hin,hstands⟩)
    simp [hmanual.1,hmanual.2] at hno

end Histories

/-- Before its results are read a request has written nothing. -/
structure Started (scopeId : ℕ) (scope : MappingScope) (history : List MappingEvent) : Prop where
  /-- The scope was read. -/
  read : ScopeRead scopeId history scope
  /-- No result was added. -/
  results : history.any addsResults=false
  /-- No operand was added. -/
  operands : ∀ event∈history,¬AddsOperand event.op

/-- What the attaching of operands relies on. -/
structure Working (request : ZoneRequest) (scopeId : ℕ) (scope : MappingScope)
    (listed : List MappingEntityResult) (resultId : ℕ) (history : List MappingEvent) : Prop where
  /-- The scope was read. -/
  read : ScopeRead scopeId history scope
  /-- The zone results were listed. -/
  results : ResultsRead scopeId history listed
  /-- The result to attach was listed or made. -/
  points : Points request scopeId history listed resultId

section Requests

variable {request : ZoneRequest} {scopeId resultId : ℕ} {history later : List MappingEvent}
  {scope : MappingScope} {listed : List MappingEntityResult}

/-- An operation that adds nothing leaves a request as far as it was. -/
theorem Started.snoc (h : Started scopeId scope history) {event : MappingEvent}
    (hresults : addsResults event=false) (hoperands : ¬AddsOperand event.op) :
    Started scopeId scope (history++[event]) := by
  refine ⟨h.read.mono,?_,fun other ho => ?_⟩
  · rw [List.any_append,h.results,Bool.false_or,List.any_cons,hresults]
    rfl
  · rcases List.mem_append.mp ho with ho|ho
    · exact h.operands other ho
    · rw [List.mem_singleton.mp ho]
      exact hoperands

theorem Working.mono (h : Working request scopeId scope listed resultId history) :
    Working request scopeId scope listed resultId (history++later) :=
  ⟨h.read.mono,h.results.mono,h.points.mono⟩

/-- The zone is looked up without writing anything. -/
theorem getZone_sound {profileId : ℕ} {vpcId : String} (h : Started scopeId scope history) :
    ZoneKeeps request scopeId
      (withGateway profileId vpcId (await (.getZone request.zoneSdwanId))) history
      fun history result => match result with
        | .error _ => True
        | .ok found => Started scopeId scope history ∧
          ∀ zone,found=some zone → zone.id=request.zoneSdwanId := by
  have hnone : ∀ op : MappingOp,(∃ profileId vpcId,op=.acquire profileId vpcId) ∨ op=.release ∨
      (∃ zoneId,op=.getZone zoneId) → ∀ answer,addsResults ⟨op,answer⟩=false ∧ ¬AddsOperand op := by
    rintro op (⟨profileId,vpcId,rfl⟩|rfl|⟨zoneId,rfl⟩) answer
    all_goals exact ⟨rfl,fun ⟨_,_,hop⟩ => by cases hop⟩
  refine Async.sound_within trivial (fun _ => trivial) fun opened => ?_
  have hopen := h.snoc (hnone _ (Or.inl ⟨profileId,vpcId,rfl⟩) (.ok opened)).1
    (hnone _ (Or.inl ⟨profileId,vpcId,rfl⟩) (.ok opened)).2
  refine Async.sound_call trivial fun answer hanswer => ⟨trivial,fun _ => trivial,fun closed => ?_⟩
  have hlooked := hopen.snoc (hnone _ (Or.inr (Or.inr ⟨request.zoneSdwanId,rfl⟩)) answer).1
    (hnone _ (Or.inr (Or.inr ⟨request.zoneSdwanId,rfl⟩)) answer).2
  cases answer with
  | error error => exact trivial
  | ok found =>
    refine ⟨hlooked.snoc (hnone _ (Or.inr (Or.inl rfl)) (.ok closed)).1
      (hnone _ (Or.inr (Or.inl rfl)) (.ok closed)).2,fun zone hzone => ?_⟩
    subst hzone
    exact hanswer

/-- Every rule that lacks the zone gets one operand. -/
theorem addZoneOperands_sound {rules : List MappingScopeRule}
    (hlacks : ∀ rule∈rules,Lacks request scope listed rule) (hids : (rules.map (·.id)).Nodup)
    (hworking : Working request scopeId scope listed resultId history)
    (hfirst : ∀ event∈history,¬AddsOperand event.op) :
    ZoneKeeps request scopeId (addZoneOperands scopeId rules request.role resultId) history
      fun history result => match result with
        | .error _ => True
        | .ok _ => Working request scopeId scope listed resultId history ∧ ∀ rule∈rules,
          ∃ operand,Attached scopeId history operand ∧ operand.mappingScopeRuleId=rule.id ∧
            operand.role=request.role ∧ operand.mappingEntityResultId=resultId := by
  -- the rules done so far have their operand, and no others have one
  let I : List MappingScopeRule → List MappingScopeRuleOperand → List MappingEvent → Prop :=
    fun earlier _ reached => Working request scopeId scope listed resultId reached ∧
      (∀ event∈reached,∀ otherScope other,event.op=.addRuleOperand otherScope other →
        other.mappingScopeRuleId∈earlier.map (·.id)) ∧
      ∀ rule∈earlier,∃ operand,Attached scopeId reached operand ∧
        operand.mappingScopeRuleId=rule.id ∧ operand.role=request.role ∧
        operand.mappingEntityResultId=resultId
  refine Async.sound_foldlM I ?_ (fun _ _ hdone => ⟨hdone.1,hdone.2.2⟩)
    ⟨hworking,fun event he otherScope other hop => absurd ⟨otherScope,other,hop⟩ (hfirst event he),
      fun _ h => absurd h List.not_mem_nil⟩
  rintro earlier rule later acc reached hrules ⟨hwork,honly,hdone⟩
  have hrule : rule∈rules := by
    rw [hrules]
    exact List.mem_append_right earlier List.mem_cons_self
  have hnew : rule.id∉earlier.map (·.id) := by
    rw [hrules,List.map_append,List.map_cons] at hids
    exact fun hin => (List.disjoint_of_nodup_append hids) hin List.mem_cons_self
  refine Async.sound_call_bind trivial (fun _ _ => trivial) fun id _ => ?_
  have hdrawn : ∀ event∈reached++[⟨.newIds,.ok id⟩],∀ otherScope other,
      event.op=.addRuleOperand otherScope other → other.mappingScopeRuleId∈earlier.map (·.id) := by
    intro event he otherScope other hop
    rcases List.mem_append.mp he with he|he
    · exact honly event he otherScope other hop
    · rw [List.mem_singleton.mp he] at hop
      cases hop
  refine Async.sound_call_bind ⟨rfl,rfl,scope,listed,rule,rfl,hwork.mono.read,hwork.mono.results,
    hlacks rule hrule,hwork.mono.points,fun event he otherScope other hop hid => ?_⟩
    (fun _ _ => trivial) fun _ _ => ?_
  · exact hnew (hid▸hdrawn event he otherScope other hop)
  · refine Async.sound_pure ⟨hwork.mono.mono,fun event he otherScope other hop => ?_,
      fun before hb => ?_⟩
    · rw [List.map_append,List.mem_append]
      rcases List.mem_append.mp he with he|he
      · exact Or.inl (hdrawn event he otherScope other hop)
      · rw [List.mem_singleton.mp he] at hop
        cases hop
        exact Or.inr (List.mem_singleton_self _)
    · rcases List.mem_append.mp hb with hb|hb
      · obtain ⟨operand,hattached,hfields⟩ := hdone before hb
        exact ⟨operand,List.mem_append_left _ (List.mem_append_left _ hattached),hfields⟩
      · rw [List.mem_singleton.mp hb]
        exact ⟨_,List.mem_append_right _ (List.mem_singleton_self _),rfl,rfl,rfl⟩

/-- A request keeps to its specification from the start. -/
theorem serve_sound (request : ZoneRequest) (scopeId : ℕ) :
    ZoneKeeps request scopeId (request.serve scopeId) [] (ZoneDone request scopeId) := by
  refine Async.sound_call_bind ⟨rfl,rfl⟩ (fun _ _ => trivial) fun found hfound => ?_
  cases found with
  | none => exact trivial
  | some scope =>
    obtain ⟨rfl,hids⟩ := hfound
    dsimp only
    split
    · exact trivial
    have hstarted : Started scope.id scope [⟨.getScopeById scope.id,.ok (some scope)⟩] := by
      refine ⟨List.mem_singleton_self _,rfl,fun event he => ?_⟩
      rw [List.mem_singleton.mp he]
      exact fun ⟨_,_,hop⟩ => by cases hop
    refine Async.sound_bind ((getZone_sound hstarted).mono fun history result hresult => ?_)
    cases result with
    | error error => exact trivial
    | ok found =>
    obtain ⟨hlooked,hzone⟩ := hresult
    cases found with
    | none => exact trivial
    | some zone =>
      have hid := hzone zone rfl
      dsimp only
      rw [hid]
      refine Async.sound_bind (Async.sound_call_bind ⟨rfl,rfl,rfl⟩ (fun _ _ => trivial)
        fun listed hlisted => Async.sound_pure ?_)
      have hstart : Started scope.id scope (history++
          [⟨.listResults scope.id (some .zone) none,.ok listed⟩]) :=
        hlooked.snoc rfl fun ⟨_,_,hop⟩ => by cases hop
      have hread : ResultsRead scope.id (history++
          [⟨.listResults scope.id (some .zone) none,.ok listed⟩]) listed :=
        List.mem_append_right _ (List.mem_singleton_self _)
      have hmem : ∀ rule,rule∈rulesWithoutZone (scope.rules.getD []) request.role
          (listed.filter fun result => decide (result.resultStatus=.matched) &&
            decide (result.selectedSdwanEntityId=some request.zoneSdwanId)) ↔
          Lacks request scope listed rule := fun _ => mem_rulesWithoutZone hlisted
      have hnodup := hids.sublist (rulesWithoutZone_sublist (scope.rules.getD []) request.role
        (listed.filter fun result => decide (result.resultStatus=.matched) &&
          decide (result.selectedSdwanEntityId=some request.zoneSdwanId)))
      -- the operands of a result that stands for the zone finish the request
      have hfinish : ∀ result : MappingEntityResult,∀ reached,
          Working request scope.id scope listed result.id reached →
          (∀ event∈reached,¬AddsOperand event.op) → ZoneKeeps request scope.id
            (addZoneOperands scope.id (rulesWithoutZone (scope.rules.getD []) request.role
              (listed.filter fun result => decide (result.resultStatus=.matched) &&
                decide (result.selectedSdwanEntityId=some request.zoneSdwanId)))
              request.role result.id>>=fun operands => pure (result,operands)) reached
            (ZoneDone request scope.id) := by
        intro result reached hworking hfirst
        refine Async.sound_bind ((addZoneOperands_sound (fun rule hr => (hmem rule).mp hr) hnodup
          hworking hfirst).mono fun history outcome houtcome => ?_)
        cases outcome with
        | error error => exact trivial
        | ok operands =>
          obtain ⟨hdone,hattached⟩ := houtcome
          refine Async.sound_pure ⟨scope,listed,hdone.read,hdone.results,fun rule hlacks => ?_⟩
          obtain ⟨operand,ho,hrule,hrole,hresult⟩ := hattached rule ((hmem rule).mpr hlacks)
          exact ⟨operand,ho,hrule,hrole,hresult▸hdone.points⟩
      dsimp only
      split
      next hnil =>
        refine Async.sound_bind ?_
        cases existingMappingResult (listed.filter fun result =>
            decide (result.resultStatus=.matched) &&
              decide (result.selectedSdwanEntityId=some request.zoneSdwanId)) with
        | error error => exact trivial
        | ok result =>
          refine Async.sound_pure ⟨scope,listed,hstart.read,hread,fun rule hlacks => ?_⟩
          have hin := (hmem rule).mpr hlacks
          rw [ZoneRequest.role,hnil] at hin
          exact absurd hin List.not_mem_nil
      next hsome =>
        have hcases := manualResult_cases hlisted request.zoneSdwanId
        refine Async.sound_bind ?_
        unfold getOrCreateManualZoneResult
        cases hmanual : manualResult (listed.filter fun result =>
            decide (result.resultStatus=.matched) &&
              decide (result.selectedSdwanEntityId=some request.zoneSdwanId)) with
        | some manual =>
          rw [hmanual] at hcases
          exact hfinish manual _ ⟨hstart.read,hread,Or.inl ⟨manual,hcases.1,hcases.2,rfl⟩⟩
            hstart.operands
        | none =>
          rw [hmanual] at hcases
          obtain ⟨rule,hrule⟩ := List.exists_mem_of_ne_nil _ hsome
          refine Async.sound_call_bind trivial (fun _ _ => trivial) fun id _ => ?_
          have hdrawn : Started scope.id scope _ :=
            hstart.snoc (rfl : addsResults ⟨.newIds,.ok id⟩=false) fun ⟨_,_,hop⟩ => by cases hop
          refine Async.sound_call_bind ⟨rfl,hdrawn.results,id,scope,listed,rule,rfl,hdrawn.read,
            hread.mono,(hmem rule).mp hrule,hcases⟩ (fun _ _ => trivial)
            fun _ _ => Async.sound_pure ?_
          refine hfinish _ _ ⟨hdrawn.read.mono,hread.mono.mono,
            Or.inr (List.mem_append_right _ (List.mem_singleton_self _))⟩ fun event he => ?_
          rcases List.mem_append.mp he with he|he
          · exact hdrawn.operands event he
          · rw [List.mem_singleton.mp he]
            exact fun ⟨_,_,hop⟩ => by cases hop

end Requests

end NspMigrator.MappingZoneSpec
