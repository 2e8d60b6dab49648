import Mathlib
import NspMigrator.MappingReader
import NspMigrator.MappingScopeInvariant

/-!
# The objects a scope hands over

The reader of a scope appends one object for every operand, the one its result
selects. Nothing on the way takes duplicates out, so a slot names an object as
often as operands of the slot select it.
-/

namespace NspMigrator.MappingReaderIds

open PyAsync PyDict PyText SdwanModels ExecuteRepository
open ExecutePlan (MappedRuleData)
open MappingEntities MappingRepository MappingReader MappingUseCases MigrationRequests
open MappingScopeSpec MappingScopeInvariant

/-- The objects of one slot of a rule that is handed over. -/
def idsOfRole (data : MappedRuleData) : MappingScopeRuleOperandRole → List ℤ
  | .srcZone => data.srcZones
  | .dstZone => data.dstZones
  | .srcAddrObject => data.srcAddrObjects
  | .dstAddrObject => data.dstAddrObjects
  | .service => data.services

/-- The operands of one slot, in the order they are stored. -/
def operandsOfRole (rule : MappingScopeRule) (role : MappingScopeRuleOperandRole) :
    List MappingScopeRuleOperand :=
  (rule.operands.getD []).filter fun operand => decide (operand.role=role)

/-- The object that is selected for an operand. -/
def selectedId (results : Dict ℕ MappingEntityResult) (operand : MappingScopeRuleOperand) :
    Option ℤ :=
  (results.get? operand.mappingEntityResultId).bind (·.selectedSdwanEntityId)

/-- The rules of a scope in the order they are handed over. -/
def rulesByPriority (entry : MappingScopeCacheEntry) : List MappingScopeRule :=
  entry.rules.values.insertionSort fun a b => a.priority≤b.priority

/-- A rule is handed over with the objects its operands select. -/
structure HoldsSelected (results : Dict ℕ MappingEntityResult) (rule : MappingScopeRule)
    (data : MappedRuleData) : Prop where
  /-- The rule is handed over under its number. -/
  rule_id : data.id=rule.id
  /-- One object for every operand of a slot, in order. -/
  ids : ∀ role,(idsOfRole data role).map some=(operandsOfRole rule role).map (selectedId results)

section Holds

variable {results : Dict ℕ MappingEntityResult} {rule : MappingScopeRule} {data : MappedRuleData}

/-- A slot holds exactly the objects selected for its operands. -/
theorem HoldsSelected.mem_iff (h : HoldsSelected results rule data)
    (role : MappingScopeRuleOperandRole) (sdwanEntityId : ℤ) :
    sdwanEntityId∈idsOfRole data role ↔
      ∃ operand∈operandsOfRole rule role,selectedId results operand=some sdwanEntityId := by
  have hmem : sdwanEntityId∈idsOfRole data role ↔
      some sdwanEntityId∈(idsOfRole data role).map some :=
    (List.mem_map_of_injective (Option.some_injective ℤ)).symm
  rw [hmem,h.ids role,List.mem_map]

/-- A slot is free of duplicates exactly when no two of its operands select one object. -/
theorem HoldsSelected.nodup_iff (h : HoldsSelected results rule data)
    (role : MappingScopeRuleOperandRole) :
    (idsOfRole data role).Nodup ↔ (operandsOfRole rule role).Pairwise fun first second =>
      selectedId results first≠selectedId results second := by
  have hmap : (idsOfRole data role).Nodup ↔ ((idsOfRole data role).map some).Nodup :=
    (List.nodup_map_iff (Option.some_injective ℤ)).symm
  rw [hmap,h.ids role,List.Nodup,List.pairwise_map]

end Holds

section Reader

variable {resultsById : Dict ℕ MappingEntityResult}

/-- A rule that is read names the objects its operands select. -/
theorem holdsSelected_of_mappedRuleData {rule : MappingScopeRule} {data : MappedRuleData}
    (h : mappedRuleData resultsById rule=.ok data) : HoldsSelected resultsById rule data := by
  unfold mappedRuleData at h
  split at h
  · cases h
  next operands hoperands =>
  obtain ⟨entities,hentities,hrest⟩ := PyExcept.bind_eq_ok.mp h
  dsimp only at hrest
  split at hrest
  · cases hrest
  cases hrest
  refine ⟨rfl,fun role => ?_⟩
  have hslot : (entitiesOfRole entities role).map some=
      (operands.filter fun operand => decide (operand.role=role)).map (selectedId resultsById) :=
    map_entitiesOfRole hentities role
  rw [operandsOfRole,hoperands,Option.getD_some,←hslot]
  cases role <;> rfl

/-- The reader hands over every rule of a stored scope with the objects selected
for its operands. -/
theorem holdsSelected_of_getMappingScopeRules {store : ScopeStore} {scopeId : ℕ}
    {entry : MappingScopeCacheEntry} (hentry : store.get? scopeId=some entry)
    (hwf : ScopeEntryWf scopeId entry) {rules : List MappedRuleData}
    (h : getMappingScopeRules store scopeId=.ok rules) :
    List.Forall₂ (HoldsSelected entry.results) (rulesByPriority entry) rules := by
  unfold getMappingScopeRules at h
  simp only [getScopeById,hentry,Option.map_some,materializeScope,Option.getD_some] at h
  split at h
  · cases h
  split at h
  · cases h
  have hsorted : (rulesByPriority entry).insertionSort (fun a b => a.priority≤b.priority)=
      rulesByPriority entry :=
    (List.pairwise_insertionSort _ _).insertionSort_eq
  rw [rulesByPriority] at hsorted
  rw [hsorted,hwf.scope_id] at h
  refine (PyExcept.mapM_eq_ok.mp h).imp fun rule data hdata => ?_
  have hholds := holdsSelected_of_mappedRuleData hdata
  refine ⟨hholds.rule_id,fun role => ?_⟩
  rw [hholds.ids role]
  refine List.map_congr_left fun operand _ => ?_
  rw [selectedId,selectedId,PlanStaleness.get?_resultsById hentry hwf]

end Reader

/-- Whatever requests on scopes do side by side, a scope that is read for a plan
hands over, rule by rule and slot by slot, one object for every operand. So a
slot holds exactly the objects its operands select, and holds each once exactly
when no two operands of the slot select the same. -/
theorem mapped_rules_hold_selected [PyUnicode] {ι : Type} [DecidableEq ι]
    (hashFunc : String → String) (requests : ι → MappingRequest) (drawn : Finset ℕ)
    {pool : ScopePool ι}
    (hrun : Pool.Run scopeHandles Expires (fun _ _ => True)
      ⟨⟨.empty,drawn⟩,fun i => (requests i).serve hashFunc mappingServices,[]⟩ pool)
    {scopeId : ℕ} {rules : List MappedRuleData}
    (hread : getMappingScopeRules pool.world.scopes scopeId=.ok rules) :
    ∃ entry,pool.world.scopes.get? scopeId=some entry ∧
      List.Forall₂ (fun rule data => data.id=rule.id ∧ ∀ role,
        (idsOfRole data role).map some=(operandsOfRole rule role).map (selectedId entry.results) ∧
        (∀ sdwanEntityId,sdwanEntityId∈idsOfRole data role ↔
          ∃ operand∈operandsOfRole rule role,
            selectedId entry.results operand=some sdwanEntityId) ∧
        ((idsOfRole data role).Nodup ↔ (operandsOfRole rule role).Pairwise fun first second =>
          selectedId entry.results first≠selectedId entry.results second))
        (rulesByPriority entry) rules := by
  have hinv : ScopesInv pool :=
    hrun.inv (scopesInv_start hashFunc requests drawn) fun _ _ _ h _ hstep => h.step hstep
  cases hentry : pool.world.scopes.get? scopeId with
  | none =>
    rw [getMappingScopeRules,getScopeById,hentry] at hread
    cases hread
  | some entry =>
    refine ⟨entry,rfl,?_⟩
    have hall := holdsSelected_of_getMappingScopeRules hentry (hinv.wf scopeId entry hentry) hread
    refine hall.imp fun rule data hholds => ⟨hholds.rule_id,fun role => ?_⟩
    exact ⟨hholds.ids role,hholds.mem_iff role,hholds.nodup_iff role⟩

section Twins

open CanonicalReader

/-- A controller that knows the entities of one snapshot store and what is in
its catalog, and answers nothing else. -/
def siteController (snapshots : SnapshotStore) (catalog : SdwanFullCatalog) : Controller where
  mapping
    | .newIds => .ok 0
    | .getDeviceObject devObjId => .ok (some ⟨devObjId,"edge",.device⟩)
    | .getCanonicalScopeEntitiesData snapshotId ruleIds =>
      getCanonicalScopeEntitiesData snapshots snapshotId ruleIds
    | .getCanonicalScopeRules snapshotId ruleIds =>
      getCanonicalScopeRules snapshots snapshotId ruleIds
    | .getAddrObject addrObjectId =>
      .ok (catalog.addrObjs.find? fun object => decide (object.id=addrObjectId))
    | .getZone zoneId => .ok (catalog.zones.find? fun zone => decide (zone.id=zoneId))
    | _ => .error ⟨"SDWANCspHttpResponseError",""⟩
  prepare _ := .error ⟨"SDWANCspHttpResponseError",""⟩
  push _ := .error ⟨"SDWANCspHttpResponseError",""⟩
  created _ catalogs := catalogs

/-- The site with identifiers that are new, and room for the entities numbered after them. -/
def siteScopes (snapshots : SnapshotStore) (catalog : SdwanFullCatalog) (world : ScopeWorld) :
    (op : MappingOp) → Except PyException (MappingAns op) × ScopeWorld
  | .newIds => (.ok (world.drawn.sup id+100),
      { world with drawn := insert (world.drawn.sup id+100) world.drawn })
  | op =>
    let outcome := mappingOracle (siteController snapshots catalog)
      ⟨world.scopes,.empty,fun _ _ => catalog,some (1,"vpc-1")⟩ op
    (outcome.1,{ world with scopes := outcome.2.scopes })

/-- The site answers as the operations may. -/
theorem scopeHandles_siteScopes (snapshots : SnapshotStore) (catalog : SdwanFullCatalog)
    (world : ScopeWorld) (op : MappingOp) :
    scopeHandles world op (siteScopes snapshots catalog world op).1
      (siteScopes snapshots catalog world op).2 := by
  have hmapping := mappingHandles_mappingOracle (siteController snapshots catalog)
    ⟨world.scopes,.empty,fun _ _ => catalog,some (1,"vpc-1")⟩ op
  have hfresh : world.drawn.sup id+100∉world.drawn := by
    intro hin
    have hle := Finset.le_sup (f:=id) hin
    dsimp only [id] at hle
    omega
  cases op with
  | newIds =>
    let before : MigrationWorld := ⟨world.scopes,.empty,fun _ _ => catalog,none⟩
    exact ⟨⟨before,before,rfl,rfl,rfl⟩,⟨hfresh,rfl⟩,trivial⟩
  | getCanonicalScopeEntitiesData snapshotId ruleIds =>
    have hreads : ∀ answer,getCanonicalScopeEntitiesData snapshots snapshotId ruleIds=answer →
        ReadsEntities ⟨.getCanonicalScopeEntitiesData snapshotId ruleIds,answer⟩ := by
      intro answer hanswer
      cases answer with
      | error error => trivial
      | ok entities => exact ⟨_,hanswer⟩
    exact ⟨⟨_,_,rfl,rfl,hmapping⟩,rfl,hreads _ rfl⟩
  | _ => exact ⟨⟨_,_,rfl,rfl,hmapping⟩,rfl,trivial⟩

/-- A zone. -/
def insideZone : CanonicalModels.CanonicalZone := ⟨30,"zone:inside","inside"⟩

/-- A rule that permits. -/
def twinRule : CanonicalModels.CanonicalRule := ⟨20,"rule:1","rule 1","PERMIT",true,1,none,none⟩

/-- A rule from a group to a host. The group lists the host under its name and
by its address. -/
def twinSnapshot : CanonicalScope.CanonicalSnapshot where
  zones := [insideZone]
  objects := [
    ⟨1,{ objectKey := "addr:h1", objectFamily := .addr, objectKind := .host, name := "h1",
         cidr := some "10.0.0.1/32" }⟩,
    ⟨2,{ objectKey := "service:https", objectFamily := .service, objectKind := .tcp,
         name := "https", portFrom := some 443, portTo := some 443 }⟩,
    ⟨3,{ objectKey := "addr:host:10.0.0.1", objectFamily := .addr, objectKind := .host,
         name := "10.0.0.1", cidr := some "10.0.0.1/32" }⟩,
    ⟨4,{ objectKey := "addr:hosts", objectFamily := .addr, objectKind := .addrGroup,
         name := "hosts" }⟩]
  members := [⟨40,4,1,0⟩,⟨41,4,3,1⟩]
  rules := [twinRule]
  operands := [⟨50,20,.srcZone,some 30,none,0⟩,⟨51,20,.dstZone,some 30,none,0⟩,
    ⟨52,20,.srcObject,none,some 4,0⟩,⟨53,20,.dstObject,none,some 1,0⟩,
    ⟨54,20,.service,none,some 2,0⟩]
  zones_nodup := by decide
  objects_nodup := by decide
  rules_nodup := by decide
  kind_family := by decide
  member_refs := by decide
  zone_refs := by decide
  object_refs := by decide
  action_cases := by decide

/-- The snapshot of the sample, under number 7. -/
def twinStore : SnapshotStore := Dict.empty.insert 7 twinSnapshot

/-- One request: the rule is mapped. -/
def twinRequests (_ : Unit) : MappingRequest :=
  .mapCanonicalToSdwan ⟨"branch",1,"vpc-1","device-1",.localBlock,7,[20]⟩

/-- The request before it is served. -/
def twinPool : ScopePool Unit :=
  ⟨⟨.empty,∅⟩,fun i => @MappingRequest.serve asciiUnicode PlanStaleness.firstBytes
    (@mappingServices asciiUnicode) (twinRequests i),[]⟩

/-- The rule is mapped. The controller knows the address as one host. -/
@[irreducible] def twinMapped : ScopePool Unit :=
  (List.replicate 13 ()).foldl
    (Pool.advance (siteScopes twinStore PlanStaleness.branchCatalog)) twinPool

/-- The mapping of the sample is a run. -/
theorem twinMapped_run :
    Pool.Run scopeHandles Expires (fun _ _ => True) twinPool twinMapped := by
  unfold twinMapped
  exact Pool.run_schedule (scopeHandles_siteScopes twinStore PlanStaleness.branchCatalog)
    (fun _ _ => trivial) (List.replicate 13 ()) twinPool

/-- What is checked of the sample when it is read. -/
theorem twinMapped_read :
    ∃ rules,getMappingScopeRules twinMapped.world.scopes 100=.ok rules ∧
      rules.map (·.srcAddrObjects)=[[5,5]] := by
  have hchecked : ((getMappingScopeRules twinMapped.world.scopes 100).toOption.any fun rules =>
      decide (rules.map (·.srcAddrObjects)=[[5,5]]))=true := by
    decide +kernel
  cases hread : getMappingScopeRules twinMapped.world.scopes 100 with
  | error error =>
    rw [hread] at hchecked
    cases hchecked
  | ok rules =>
    rw [hread] at hchecked
    exact ⟨rules,rfl,of_decide_eq_true hchecked⟩

/-- The sample is read with the objects its operands select. -/
theorem mapped_rules_hold_selected_twin :
    ∃ rules entry,getMappingScopeRules twinMapped.world.scopes 100=.ok rules ∧
      twinMapped.world.scopes.get? 100=some entry ∧
      List.Forall₂ (fun rule data => data.id=rule.id ∧ ∀ role,
        (idsOfRole data role).map some=(operandsOfRole rule role).map (selectedId entry.results) ∧
        (∀ sdwanEntityId,sdwanEntityId∈idsOfRole data role ↔
          ∃ operand∈operandsOfRole rule role,
            selectedId entry.results operand=some sdwanEntityId) ∧
        ((idsOfRole data role).Nodup ↔ (operandsOfRole rule role).Pairwise fun first second =>
          selectedId entry.results first≠selectedId entry.results second))
        (rulesByPriority entry) rules := by
  obtain ⟨rules,hread,-⟩ := twinMapped_read
  obtain ⟨entry,hentry,hholds⟩ := @mapped_rules_hold_selected asciiUnicode Unit inferInstance
    PlanStaleness.firstBytes twinRequests ∅ twinMapped twinMapped_run 100 rules hread
  exact ⟨rules,entry,hread,hentry,hholds⟩

/-- The sample is read, and a slot holds one object twice. -/
theorem duplicate_ids_twin :
    Pool.Run scopeHandles Expires (fun _ _ => True) twinPool twinMapped ∧
      ∃ rules,getMappingScopeRules twinMapped.world.scopes 100=.ok rules ∧
        ∃ data∈rules,¬(idsOfRole data .srcAddrObject).Nodup := by
  obtain ⟨rules,hread,hids⟩ := twinMapped_read
  refine ⟨twinMapped_run,rules,hread,?_⟩
  cases rules with
  | nil => cases hids
  | cons data rest =>
    have hdata : data.srcAddrObjects=[5,5] := (List.cons.inj hids).1
    refine ⟨data,List.mem_cons_self,fun hnodup => ?_⟩
    rw [idsOfRole,hdata] at hnodup
    exact absurd hnodup (by decide)

end Twins

end NspMigrator.MappingReaderIds
