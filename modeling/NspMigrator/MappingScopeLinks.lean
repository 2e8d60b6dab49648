import Mathlib
import NspMigrator.MappingProjectionAgreement
import NspMigrator.MappingScopeSources
import NspMigrator.MappingZoneAssignment

/-!
# Scopes stay linked to what was read

Requests on scopes interleave operation by operation. The rules of a scope that
is stored are those of the selection it was mapped from, every operand points
at the result of what a canonical operand resolves to or at a zone assigned by
hand, and nothing has a result without being asked for.
-/

namespace NspMigrator.MappingScopeLinks

open PyAsync PyDict PyText PyExcept SdwanModels ExecuteRepository MappingEntities
open MappingRepository MappingSchemas MappingGroupIndex MappingObjects MappingUseCases
open MigrationRequests CanonicalReader MappingProjection MappingProjectionRows MappingScopeRead
open MappingScopeSpec MappingScopeInvariant MappingScopeSources MappingReaderIds
open MappingProjectionAgreement

/-! ## What an operation does to a scope -/

/-- What an operation makes of a scope that is stored. -/
inductive Changes (op : MappingOp) (scopeId : ℕ) (old : MappingScopeCacheEntry) :
    MappingScopeCacheEntry → Prop where
  | same {scope : MappingScope} (hscope : scope.canonicalSnapshotId=old.scope.canonicalSnapshotId) :
      Changes op scopeId old ⟨scope,old.rules,old.results⟩
  | added {results : List MappingEntityResult} {added : Dict ℕ MappingEntityResult}
      (hop : op=.addResults scopeId results)
      (hadded : ∀ resultId result,added.get? resultId=some result ↔
        (result∈results ∧ result.id=resultId) ∨ old.results.get? resultId=some result) :
      Changes op scopeId old ⟨old.scope,old.rules,added⟩
  | saved {result current : MappingEntityResult} {written : Dict ℕ MappingEntityResult}
      (hop : op=.saveResult result) (hscope : result.mappingScopeId=scopeId)
      (hcurrent : old.results.get? result.id=some current)
      (hwritten : ∀ resultId,written.get? resultId=if resultId=result.id
        then some (withStoredCandidates current result) else old.results.get? resultId) :
      Changes op scopeId old ⟨old.scope,old.rules,written⟩
  | attached {rules : List MappingScopeRule} (hop : op=.attachRules scopeId rules) :
      Changes op scopeId old
        ⟨old.scope,rules.foldl (fun d rule => d.insert rule.id rule) old.rules,old.results⟩
  | operand {operand : MappingScopeRuleOperand} {rule : MappingScopeRule}
      (hop : op=.addRuleOperand scopeId operand)
      (hrule : old.rules.get? operand.mappingScopeRuleId=some rule) :
      Changes op scopeId old ⟨old.scope,old.rules.insert rule.id
        { rule with operands := some (rule.operands.getD []++[operand]) },old.results⟩

/-- Rules that are attached are put under their identifiers. -/
theorem attachRules_eq_ok {store next : ScopeStore} {scopeId : ℕ} {rules : List MappingScopeRule}
    (h : attachRules store scopeId rules=.ok next) :
    ∃ entry,store.get? scopeId=some entry ∧ Updated store next scopeId ⟨entry.scope,
      rules.foldl (fun d rule => d.insert rule.id rule) entry.rules,entry.results⟩ := by
  obtain ⟨entry,he,hrest⟩ := bind_eq_ok.mp h
  have hentry := requireScopeEntry_eq_ok.mp he
  refine ⟨entry,hentry,?_⟩
  by_cases hnil : rules=[]
  · rw [if_pos hnil] at hrest
    cases pure_eq_ok.mp hrest
    rw [hnil]
    exact updated_same hentry
  · rw [if_neg hnil] at hrest
    obtain ⟨_,-,hp⟩ := bind_eq_ok.mp hrest
    cases pure_eq_ok.mp hp
    exact updated_insert _ _ _

/-- Every operation changes at most one scope, in one of these ways, or stores a new one. -/
theorem changes_of_handles {world next : ScopeWorld} {op : MappingOp}
    {answer : Except PyException (MappingAns op)} (h : scopeHandles world op answer next)
    (hids : ∀ scopeId results,op=.addResults scopeId results → (results.map (·.id)).Nodup)
    {scopeId : ℕ} {entry : MappingScopeCacheEntry} (hentry : next.scopes.get? scopeId=some entry) :
    (∃ old,world.scopes.get? scopeId=some old ∧ Changes op scopeId old entry) ∨
      ∃ scope,(⟨op,answer⟩ : MappingEvent)=⟨.addScope scope,.ok ()⟩ ∧ scope.id=scopeId ∧
        entry=⟨scope,.empty,.empty⟩ := by
  obtain ⟨⟨before,after,hbefore,hafter,hmapping⟩,-,-⟩ := h
  have hsame : next.scopes=world.scopes →
      ∃ old,world.scopes.get? scopeId=some old ∧ Changes op scopeId old entry := by
    intro heq
    rw [heq] at hentry
    exact ⟨entry,hentry,.same rfl⟩
  have hupdated : ∀ {writtenId : ℕ} {old written : MappingScopeCacheEntry},
      world.scopes.get? writtenId=some old → Updated world.scopes next.scopes writtenId written →
      (writtenId=scopeId → Changes op writtenId old written) →
      ∃ old,world.scopes.get? scopeId=some old ∧ Changes op scopeId old entry := by
    intro writtenId old written hold hupdated hchanges
    rw [hupdated] at hentry
    by_cases hid : scopeId=writtenId
    · rw [if_pos hid,Option.some.injEq] at hentry
      subst hid
      exact ⟨old,hold,hentry▸hchanges rfl⟩
    · rw [if_neg hid] at hentry
      exact ⟨entry,hentry,.same rfl⟩
  cases op with
  | addScope scope =>
    rcases writes_cases hmapping with ⟨value,houtcome,hanswer⟩|⟨-,heq⟩
    · have hadd := eq_ok_of_map houtcome
      rw [hbefore,hafter] at hadd
      have hnew := (addScope_updated hadd).2
      rw [hnew] at hentry
      by_cases hid : scopeId=scope.id
      · rw [if_pos hid,Option.some.injEq] at hentry
        cases hanswer
        exact Or.inr ⟨scope,rfl,hid.symm,hentry.symm⟩
      · rw [if_neg hid] at hentry
        exact Or.inl ⟨entry,hentry,.same rfl⟩
    · exact Or.inl (hsame (by rw [←hafter,heq,hbefore]))
  | addResults writtenId results =>
    rcases writes_cases hmapping with ⟨value,houtcome,-⟩|⟨-,heq⟩
    · have hadd := eq_ok_of_map houtcome
      rw [hbefore,hafter] at hadd
      obtain ⟨old,added,hold,hwritten,-,hadded⟩ :=
        addResults_updated (hids writtenId results rfl) hadd
      exact Or.inl (hupdated hold hwritten fun _ => .added rfl hadded)
    · exact Or.inl (hsame (by rw [←hafter,heq,hbefore]))
  | attachRules writtenId rules =>
    rcases writes_cases hmapping with ⟨value,houtcome,-⟩|⟨-,heq⟩
    · have hattach := eq_ok_of_map houtcome
      rw [hbefore,hafter] at hattach
      obtain ⟨old,hold,hwritten⟩ := attachRules_eq_ok hattach
      exact Or.inl (hupdated hold hwritten fun _ => .attached rfl)
    · exact Or.inl (hsame (by rw [←hafter,heq,hbefore]))
  | addRuleOperand writtenId operand =>
    rcases writes_cases hmapping with ⟨value,houtcome,-⟩|⟨-,heq⟩
    · have hadd := eq_ok_of_map houtcome
      rw [hbefore] at hadd
      obtain ⟨old,rule,hold,hrule,hnext⟩ := MappingZoneAssignment.addRuleOperand_eq_ok hadd
      have hwritten := updated_insert world.scopes writtenId { old with
        rules := old.rules.insert rule.id
          { rule with operands := some (rule.operands.getD []++[operand]) } }
      rw [←hnext,hafter] at hwritten
      exact Or.inl (hupdated hold hwritten fun _ => .operand rfl hrule)
    · exact Or.inl (hsame (by rw [←hafter,heq,hbefore]))
  | refreshCatalogFingerprint writtenId catalogFingerprint =>
    rcases writes_cases hmapping with ⟨value,houtcome,-⟩|⟨-,heq⟩
    · rw [hbefore,hafter] at houtcome
      obtain ⟨old,hold,hwritten⟩ := refreshCatalogFingerprint_updated houtcome
      exact Or.inl (hupdated hold hwritten fun _ => .same rfl)
    · exact Or.inl (hsame (by rw [←hafter,heq,hbefore]))
  | saveResult result =>
    rcases writes_cases hmapping with ⟨value,houtcome,-⟩|⟨-,heq⟩
    · rw [hbefore,hafter] at houtcome
      obtain ⟨old,current,written,hold,hcurrent,hupdate,hwritten⟩ := saveResult_updated houtcome
      exact Or.inl (hupdated hold hupdate fun _ => .saved rfl rfl hcurrent hwritten)
    · exact Or.inl (hsame (by rw [←hafter,heq,hbefore]))
  | acquire profileId vpcId =>
    obtain ⟨client,rfl⟩ := hmapping.eq_client
    exact Or.inl (hsame (by rw [←hafter,←hbefore]))
  | createAddrObject | createService =>
    exact Or.inl (hsame (by rw [←hafter,hmapping.scopes_eq,hbefore]))
  | getSdwanFullCatalog =>
    obtain ⟨rfl,-⟩ := hmapping
    exact Or.inl (hsame (by rw [←hafter,←hbefore]))
  | getScopeById | getResult | listResults =>
    obtain ⟨-,rfl⟩ := hmapping
    exact Or.inl (hsame (by rw [←hafter,←hbefore]))
  | _ =>
    cases hmapping
    exact Or.inl (hsame (by rw [←hafter,←hbefore]))

/-- A scope is stored under an identifier that is free. -/
theorem none_of_addScope {world next : ScopeWorld} {scope : MappingScope}
    (h : scopeHandles world (.addScope scope) (.ok ()) next) :
    world.scopes.get? scope.id=none := by
  obtain ⟨⟨before,after,hbefore,-,hmapping⟩,-,-⟩ := h
  rcases writes_cases hmapping with ⟨value,houtcome,-⟩|⟨⟨error,hanswer⟩,-⟩
  · have hadd := eq_ok_of_map houtcome
    rw [hbefore] at hadd
    exact (addScope_updated hadd).1
  · cases hanswer

/-- What an operation shows of a scope is stored, or is what it adds. -/
theorem shows_of_handles {world next : ScopeWorld} {event : MappingEvent}
    (h : scopeHandles world event.op event.answer next) {scopeId : ℕ}
    {result : MappingEntityResult} (hshows : Shows event scopeId result) :
    (∃ entry resultId,world.scopes.get? scopeId=some entry ∧
      entry.results.get? resultId=some result) ∨
    ∃ results,event=⟨.addResults scopeId results,.ok ()⟩ ∧ result∈results := by
  obtain ⟨⟨before,after,hbefore,-,hmapping⟩,-,-⟩ := h
  obtain ⟨op,answer⟩ := event
  cases op with
  | getResult otherId resultId =>
    obtain ⟨hanswer,-⟩ := hmapping
    cases hanswer
    obtain ⟨rfl,hresult⟩ := hshows
    rw [hbefore] at hresult
    exact Or.inl (stored_of_getResult hresult)
  | listResults otherId type status =>
    obtain ⟨hanswer,-⟩ := hmapping
    cases hanswer
    obtain ⟨rfl,hresult⟩ := hshows
    rw [hbefore] at hresult
    exact Or.inl (stored_of_listResults hresult)
  | addResults otherId results =>
    cases answer with
    | error error => exact hshows.elim
    | ok u =>
      obtain ⟨rfl,hin⟩ := hshows
      exact Or.inr ⟨results,rfl,hin⟩
  | _ => exact hshows.elim

/-! ## Results -/

/-- A result names an entity of its kind, or is a zone without one. -/
def RefsOfKind (result : MappingEntityResult) : Prop :=
  result.entityType=.zone ∧ result.canonicalObjectId=none ∨
    result.entityType≠.zone ∧ result.canonicalZoneId=none ∧ result.canonicalObjectId≠none

/-- Either a result was assigned by hand, or it stands for an entity. -/
theorem RefsOfKind.isManual_iff {result : MappingEntityResult} (h : RefsOfKind result) :
    isManualResultWithoutCanonical result=true ↔
      ∀ entity,result.canonicalEntityId≠.ok entity := by
  rw [isManualResultWithoutCanonical,Bool.and_eq_true,decide_eq_true_eq,decide_eq_true_eq,
    MappingEntityResult.canonicalEntityId]
  rcases h with ⟨htype,hobject⟩|⟨htype,hzone,hobject⟩
  · rw [if_pos htype]
    cases hzone : result.canonicalZoneId with
    | none => exact iff_of_true ⟨rfl,hobject⟩ fun entity h => by cases h
    | some zoneId => exact iff_of_false (fun h => by cases h.1) fun h => h zoneId rfl
  · rw [if_neg htype]
    obtain ⟨objectId,hsome⟩ := Option.ne_none_iff_exists'.mp hobject
    rw [hsome]
    exact iff_of_false (fun h => by cases h.2) fun h => h objectId rfl

/-- A result that stays for its entity stays a manual one. -/
theorem isManual_of_sameEntity {result stored : MappingEntityResult}
    (hsame : SameEntity result stored) (h : RefsOfKind result) (hs : RefsOfKind stored)
    (hmanual : isManualResultWithoutCanonical result=true) :
    isManualResultWithoutCanonical stored=true := by
  rw [hs.isManual_iff,hsame.2]
  exact h.isManual_iff.mp hmanual

/-- Choosing an object changes no reference. -/
theorem refsOfKind_select {current old : MappingEntityResult} (h : RefsOfKind old)
    (method : SdwanObjectSelectionMethod) (sdwanEntityId : ℤ) :
    RefsOfKind (withStoredCandidates current (old.select method sdwanEntityId)) := h

/-- Results are built with references of their kind. -/
theorem refsOfKind_buildResult (id scopeId entity : ℕ) (entityType : MappingEntityType)
    (candidates : List MappingEntityCandidatePayload) :
    RefsOfKind (buildResult id scopeId entityType entity candidates) := by
  have hzone : ∀ found : List MappingEntityCandidatePayload,
      RefsOfKind (buildResult id scopeId .zone entity found) := by
    intro found
    rcases found with _|⟨first,_|⟨second,rest⟩⟩ <;> exact Or.inl ⟨rfl,rfl⟩
  have hobject : ∀ type : MappingEntityType,type≠.zone →
      ∀ found : List MappingEntityCandidatePayload,
        RefsOfKind (buildResult id scopeId type entity found) := by
    intro type htype found
    cases type with
    | zone => exact absurd rfl htype
    | addr | service =>
      rcases found with _|⟨first,_|⟨second,rest⟩⟩ <;>
        exact Or.inr ⟨htype,rfl,Option.some_ne_none entity⟩
  by_cases htype : entityType=.zone
  · rw [htype]
    exact hzone candidates
  · exact hobject entityType htype candidates

/-- Where a result comes from: a zone assigned by hand is matched, and any other
result stands for something that was read. -/
def Origin (snapshots : SnapshotStore) (command : MapCanonicalToSdwanCommand)
    (result : MappingEntityResult) : Prop :=
  isManualResultWithoutCanonical result=true ∧ result.resultStatus=.matched ∨
    ∃ entities entity,getCanonicalScopeEntitiesData snapshots command.canonicalSnapshotId
      command.canonicalRulesIds=.ok entities ∧ result.canonicalEntityId=.ok entity ∧
      Mapped entities result.entityType entity

/-- Choosing an object keeps where a result comes from. -/
theorem Origin.select {snapshots : SnapshotStore} {command : MapCanonicalToSdwanCommand}
    {current old : MappingEntityResult} (h : Origin snapshots command current)
    (hrefs : RefsOfKind current) (hold : RefsOfKind old) (hsame : SameEntity old current)
    (method : SdwanObjectSelectionMethod) (sdwanEntityId : ℤ) :
    Origin snapshots command
      (withStoredCandidates current (old.select method sdwanEntityId)) := by
  rcases h with ⟨hmanual,-⟩|⟨entities,entity,hread,hentity,hmapped⟩
  · exact Or.inl ⟨isManual_of_sameEntity ⟨hsame.1.symm,hsame.2.symm⟩ hrefs hold hmanual,rfl⟩
  · refine Or.inr ⟨entities,entity,hread,hsame.2.symm.trans hentity,?_⟩
    rw [hsame.1] at hmapped
    exact hmapped

/-- A zone assigned by hand is matched. -/
theorem origin_manual (snapshots : SnapshotStore) (command : MapCanonicalToSdwanCommand)
    (id scopeId : ℕ) (sdwanZoneId : ℤ) :
    RefsOfKind (.createZoneManuallyAssigned id scopeId sdwanZoneId) ∧
      Origin snapshots command (.createZoneManuallyAssigned id scopeId sdwanZoneId) :=
  ⟨Or.inl ⟨rfl,rfl⟩,Or.inl ⟨rfl,rfl⟩⟩

section Built

variable [PyUnicode] {snapshots : SnapshotStore} {request : MappingRequest} {scopeId : ℕ}
  {command : MapCanonicalToSdwanCommand} {entities : CanonicalScopeEntities}
  {results : List MappingEntityResult}

/-- Results are built for everything that is mapped. -/
theorem resultsCover_of_maps
    (h : MapsSelection snapshots request scopeId command entities results) :
    ResultsCover entities results := by
  obtain ⟨firstId,catalog,hbuilt⟩ := h.built
  have hdistinct := entitiesDistinct_of_read h.read
  obtain ⟨others,hothers,hcover⟩ := buildResults_spec firstId scopeId catalog hdistinct.zones
    hdistinct.addrObjects hdistinct.services
  rw [hbuilt,Except.ok.injEq] at hothers
  exact hothers▸hcover

/-- Results that are built have references of their kind, and come from what was read. -/
theorem origin_of_maps (h : MapsSelection snapshots request scopeId command entities results)
    {result : MappingEntityResult} (hr : result∈results) :
    RefsOfKind result ∧ Origin snapshots command result := by
  have hcover := resultsCover_of_maps h
  obtain ⟨firstId,catalog,hbuilt⟩ := h.built
  refine ⟨?_,Or.inr ⟨entities,entityOf result,h.read,hcover.entity_eq result hr,
    (hcover.mapped _ _).mp ⟨result,hr,rfl,rfl⟩⟩⟩
  obtain ⟨addrIndex,-,hnumbered⟩ := bind_eq_ok.mp hbuilt
  rw [←pure_eq_ok.mp hnumbered] at hr
  obtain ⟨one,-,id,rfl⟩ := mem_numberResults hr
  exact refsOfKind_buildResult id scopeId one.canonicalEntityId one.entityType one.candidates

end Built

/-! ## Rules -/

section Rules

variable {entities : CanonicalScopeEntities} {addrs : CanonicalObjectIndex CanonicalAddrObject}
  {services : CanonicalObjectIndex CanonicalService} {canonicalRule : CanonicalRule}
  {rule : MappingScopeRule} {scopeId : ℕ} {old entry : MappingScopeCacheEntry}

/-- A rule stays linked while results stay for their entities. -/
theorem linked_grows (h : Linked entities addrs services old.results canonicalRule rule)
    (hgrows : Grows old entry) (hold : ScopeEntryWf scopeId old) (hwf : ScopeEntryWf scopeId entry)
    (holdRefs : ∀ resultId result,old.results.get? resultId=some result → RefsOfKind result)
    (hrefs : ∀ resultId result,entry.results.get? resultId=some result → RefsOfKind result) :
    Linked entities addrs services entry.results canonicalRule rule := by
  constructor
  case targets =>
    intro operand ho
    obtain ⟨ids,hids,hzones,hall⟩ := h.targets operand ho
    refine ⟨ids,hids,hzones,fun id hid => ?_⟩
    obtain ⟨result,⟨⟨resultId,hresult⟩,htype,hentity⟩,own,hown,hrole,hpoint⟩ := hall id hid
    obtain ⟨stored,hstored,hsame⟩ := hgrows resultId result hresult
    have hkey := (hold.result_id resultId result hresult).1
    have hkey' := (hwf.result_id resultId stored hstored).1
    exact ⟨stored,⟨⟨resultId,hstored⟩,hsame.1.trans htype,hsame.2.trans hentity⟩,own,hown,hrole,
      by rw [hpoint,hkey,hkey']⟩
  case operands =>
    intro own hown
    obtain ⟨result,hresult,hcases⟩ := h.operands own hown
    obtain ⟨stored,hstored,hsame⟩ := hgrows _ result hresult
    refine ⟨stored,hstored,?_⟩
    rcases hcases with hmanual|⟨operand,ho,hrole,ids,hids,id,hid,hfor⟩
    · exact Or.inl (isManual_of_sameEntity hsame (holdRefs _ result hresult)
        (hrefs _ stored hstored) hmanual)
    · exact Or.inr ⟨operand,ho,hrole,ids,hids,id,hid,⟨_,hstored⟩,hsame.1.trans hfor.kind,
        hsame.2.trans hfor.entity⟩

/-- A rule stays linked when a zone is assigned to it by hand. -/
theorem linked_assign {results : Dict ℕ MappingEntityResult}
    (h : Linked entities addrs services results canonicalRule rule)
    {operand : MappingScopeRuleOperand} {result : MappingEntityResult}
    (hresult : results.get? operand.mappingEntityResultId=some result)
    (hmanual : isManualResultWithoutCanonical result=true) :
    Linked entities addrs services results canonicalRule
      { rule with operands := some (rule.operands.getD []++[operand]) } := by
  constructor
  case targets =>
    intro source ho
    obtain ⟨ids,hids,hzones,hall⟩ := h.targets source ho
    refine ⟨ids,hids,hzones,fun id hid => ?_⟩
    obtain ⟨found,hfor,own,hown,hrest⟩ := hall id hid
    exact ⟨found,hfor,own,List.mem_append_left _ hown,hrest⟩
  case operands =>
    intro own hown
    rcases List.mem_append.mp hown with hown|hown
    · exact h.operands own hown
    · rw [List.mem_singleton.mp hown]
      exact ⟨result,hresult,Or.inl hmanual⟩

/-- A rule is created from its canonical rule. -/
theorem createdFrom_createRule {indexes : MappingRules.RuleIndexes} (firstId : ℕ)
    {payloads : List MappingRules.MappingScopeRuleOperandPayload}
    (h : MappingRules.buildRuleOperandPayloads indexes canonicalRule=.ok payloads) :
    MappingRules.CreatedFrom indexes scopeId canonicalRule
      (MappingRules.createRule firstId scopeId canonicalRule payloads) := by
  refine ⟨rfl,rfl,rfl,rfl,rfl,payloads,_,h,rfl,?_⟩
  apply List.ext_getElem
  · simp
  · intro i hi hj
    simp

/-- Rules are created one by one, under identifiers that grow. -/
theorem createRules_created {indexes : MappingRules.RuleIndexes} {firstId : ℕ}
    {canonicalRules : List CanonicalRule} {created : List MappingScopeRule}
    (h : MappingRules.createRules indexes scopeId firstId canonicalRules=.ok created) :
    List.Forall₂ (MappingRules.CreatedFrom indexes scopeId) canonicalRules created ∧
      (∀ rule∈created,firstId≤rule.id) ∧ (created.map (·.id)).Nodup := by
  induction canonicalRules generalizing firstId created with
  | nil =>
    cases h
    exact ⟨List.Forall₂.nil,fun _ hr => absurd hr List.not_mem_nil,List.nodup_nil⟩
  | cons canonicalRule rest ih =>
    obtain ⟨payloads,hpayloads,hcreated⟩ := bind_eq_ok.mp h
    obtain ⟨others,hothers,hlist⟩ := bind_eq_ok.mp hcreated
    cases pure_eq_ok.mp hlist
    obtain ⟨hfrom,hle,hnodup⟩ := ih hothers
    refine ⟨List.Forall₂.cons (createdFrom_createRule firstId hpayloads) hfrom,?_,?_⟩
    · intro rule hr
      rcases List.mem_cons.mp hr with rfl|hr
      · exact le_refl firstId
      · have hlater := hle rule hr
        omega
    · rw [List.map_cons,List.nodup_cons]
      refine ⟨fun hin => ?_,hnodup⟩
      obtain ⟨rule,hr,hid⟩ := List.mem_map.mp hin
      have hlater := hle rule hr
      have hfirst : (MappingRules.createRule firstId scopeId canonicalRule payloads).id=firstId :=
        rfl
      omega

/-- A rule that was created from results of a scope is linked to its canonical rule. -/
theorem linked_of_createdFrom {results : List MappingEntityResult}
    {kept : Dict ℕ MappingEntityResult}
    {byKey : Dict MappingRules.MappingResultLookupKey MappingEntityResult}
    (hbyKey : ∀ key result,byKey.get? key=some result → result∈results ∧
      result.entityType=key.1 ∧ result.canonicalEntityId=.ok key.2)
    (hstored : ∀ result∈results,∃ stored,kept.get? result.id=some stored ∧
      SameEntity result stored)
    (hkeys : ∀ resultId result,kept.get? resultId=some result → result.id=resultId)
    (hzones : ∀ operand∈canonicalRule.operands,MappingRules.operandEntityType operand.role=.zone →
      ∀ zoneId,operand.targetZoneId=some zoneId → ∃ zone∈entities.zones,zone.id=zoneId)
    (h : MappingRules.CreatedFrom ⟨byKey,addrs,services⟩ scopeId canonicalRule rule) :
    Linked entities addrs services kept canonicalRule rule := by
  obtain ⟨payloads,operands,hbuilt,hsome,hmap⟩ := h.operands
  have hown : rule.operands.getD []=operands := by rw [hsome,Option.getD_some]
  obtain ⟨groups,hgroups,hflat⟩ := bind_eq_ok.mp hbuilt
  have hpayloads : payloads=groups.flatten := (pure_eq_ok.mp hflat).symm
  -- the operand of an entity points at the stored result of the entity
  have hone : ∀ operand : CanonicalRuleOperand,∀ id payload,
      MappingRules.operandPayload ⟨byKey,addrs,services⟩ canonicalRule operand id=.ok payload →
      ∃ stored,ForEntity kept (MappingRules.operandEntityType operand.role) id stored ∧
        kept.get? payload.mappingEntityResultId=some stored ∧
        payload=⟨MappingRules.mapOperandRole operand.role,stored.id⟩ := by
    intro operand id payload hpayload
    obtain ⟨result,hget,rfl⟩ := MappingRules.operandPayload_eq_ok.mp hpayload
    obtain ⟨hin,htype,hentity⟩ := hbyKey _ result hget
    obtain ⟨stored,hget',hsame⟩ := hstored result hin
    have hid := hkeys result.id stored hget'
    exact ⟨stored,⟨⟨_,hget'⟩,hsame.1.trans htype,hsame.2.trans hentity⟩,hget',by rw [hid]⟩
  constructor
  case targets =>
    intro operand ho
    obtain ⟨group,hgroup,hbound⟩ := exists_of_mapM_eq_ok hgroups ho
    obtain ⟨ids,hids,hall⟩ := bind_eq_ok.mp hbound
    refine ⟨ids,hids,fun htype id hid => ?_,fun id hid => ?_⟩
    · simp only [MappingRules.resolveOperandTargets,htype] at hids
      cases htarget : operand.targetZoneId with
      | none =>
        rw [htarget] at hids
        cases hids
      | some zoneId =>
        rw [htarget,Except.ok.injEq] at hids
        rw [←hids] at hid
        rw [List.mem_singleton.mp hid]
        exact hzones operand ho htype zoneId htarget
    · obtain ⟨payload,hp,hpayload⟩ := exists_of_mapM_eq_ok hall hid
      obtain ⟨stored,hfor,-,rfl⟩ := hone operand id payload hpayload
      have hin : (MappingRules.mapOperandRole operand.role,stored.id)∈payloads.map
          fun payload => (payload.role,payload.mappingEntityResultId) := by
        rw [hpayloads]
        exact List.mem_map.mpr ⟨_,List.mem_flatten.mpr ⟨group,hgroup,hp⟩,rfl⟩
      rw [←hmap] at hin
      obtain ⟨own,hownIn,heq⟩ := List.mem_map.mp hin
      obtain ⟨hrole,hpoint⟩ := Prod.mk.inj heq
      exact ⟨stored,hfor,own,hown▸hownIn,hrole,hpoint⟩
  case operands =>
    intro own hownIn
    rw [hown] at hownIn
    have hin : (own.role,own.mappingEntityResultId)∈operands.map
        fun operand => (operand.role,operand.mappingEntityResultId) :=
      List.mem_map_of_mem (f:=fun operand : MappingScopeRuleOperand =>
        (operand.role,operand.mappingEntityResultId)) hownIn
    rw [hmap] at hin
    obtain ⟨payload,hp,heq⟩ := List.mem_map.mp hin
    obtain ⟨hrole,hpoint⟩ := Prod.mk.inj heq
    rw [hpayloads] at hp
    obtain ⟨group,hgroup,hpayload⟩ := List.mem_flatten.mp hp
    obtain ⟨operand,ho,hbound⟩ := exists_of_mem_mapM hgroups hgroup
    obtain ⟨ids,hids,hall⟩ := bind_eq_ok.mp hbound
    obtain ⟨id,hid,hfound⟩ := exists_of_mem_mapM hall hpayload
    obtain ⟨stored,hfor,hget,hpair⟩ := hone operand id payload hfound
    refine ⟨stored,hpoint▸hget,Or.inr ⟨operand,ho,?_,ids,hids,id,hid,hfor⟩⟩
    rw [←hrole,hpair]

end Rules

/-- The rules of a scope are those of the selection it was mapped from, each linked to
its canonical rule. -/
structure RulesLinked (snapshots : SnapshotStore) (command : MapCanonicalToSdwanCommand)
    (entry : MappingScopeCacheEntry) (entities : CanonicalScopeEntities)
    (canonicalRules : List CanonicalRule) (addrs : CanonicalObjectIndex CanonicalAddrObject)
    (services : CanonicalObjectIndex CanonicalService) : Prop where
  /-- The entities are those of the selected rules. -/
  entities_read : getCanonicalScopeEntitiesData snapshots command.canonicalSnapshotId
    command.canonicalRulesIds=.ok entities
  /-- The canonical rules are the selected ones. -/
  rules_read : getCanonicalScopeRules snapshots command.canonicalSnapshotId
    command.canonicalRulesIds=.ok canonicalRules
  /-- What was read fits together. -/
  read : ScopeRead command.canonicalRulesIds entities canonicalRules addrs services
  /-- Every rule is linked to a canonical rule. -/
  linked : ∀ ruleId rule,entry.rules.get? ruleId=some rule → rule.operands≠none ∧
    ∃ canonicalRule∈canonicalRules,canonicalRule.id=rule.canonicalRuleId ∧
      Linked entities addrs services entry.results canonicalRule rule
  /-- Every canonical rule has a rule. -/
  every : ∀ canonicalRule∈canonicalRules,∃ ruleId rule,entry.rules.get? ruleId=some rule ∧
    rule.canonicalRuleId=canonicalRule.id
  /-- It has only one. -/
  once : ∀ ruleId rule otherId other,entry.rules.get? ruleId=some rule →
    entry.rules.get? otherId=some other → rule.canonicalRuleId=other.canonicalRuleId →
    ruleId=otherId

/-- A scope without rules. -/
def Ruleless (entry : MappingScopeCacheEntry) : Prop := ∀ ruleId,entry.rules.get? ruleId=none

/-- What is stored of a scope comes from the selection it was mapped from. -/
structure Sourced (snapshots : SnapshotStore) (command : MapCanonicalToSdwanCommand)
    (entry : MappingScopeCacheEntry) : Prop where
  /-- The scope names the snapshot of the selection. -/
  snapshot : entry.scope.canonicalSnapshotId=command.canonicalSnapshotId
  /-- Every result comes from the selection, or was made by hand. -/
  results : ∀ resultId result,entry.results.get? resultId=some result →
    Origin snapshots command result
  /-- There are no rules yet, or they are those of the selection. -/
  rules : Ruleless entry ∨ ∃ entities canonicalRules addrs services,
    RulesLinked snapshots command entry entities canonicalRules addrs services

section Scopes

variable {snapshots : SnapshotStore} {command : MapCanonicalToSdwanCommand} {scopeId : ℕ}
  {old entry : MappingScopeCacheEntry} {entities : CanonicalScopeEntities}
  {canonicalRules : List CanonicalRule} {addrs : CanonicalObjectIndex CanonicalAddrObject}
  {services : CanonicalObjectIndex CanonicalService}

/-- Rules stay linked while results stay for their entities. -/
theorem RulesLinked.grows
    (h : RulesLinked snapshots command old entities canonicalRules addrs services)
    (hrules : entry.rules=old.rules) (hgrows : Grows old entry) (hold : ScopeEntryWf scopeId old)
    (hwf : ScopeEntryWf scopeId entry)
    (holdRefs : ∀ resultId result,old.results.get? resultId=some result → RefsOfKind result)
    (hrefs : ∀ resultId result,entry.results.get? resultId=some result → RefsOfKind result) :
    RulesLinked snapshots command entry entities canonicalRules addrs services := by
  refine ⟨h.entities_read,h.rules_read,h.read,fun ruleId rule hr => ?_,?_,?_⟩
  · rw [hrules] at hr
    obtain ⟨hsome,canonicalRule,hc,hid,hlinked⟩ := h.linked ruleId rule hr
    exact ⟨hsome,canonicalRule,hc,hid,linked_grows hlinked hgrows hold hwf holdRefs hrefs⟩
  · rw [hrules]
    exact h.every
  · rw [hrules]
    exact h.once

/-- Rules stay linked when a zone is assigned to one of them by hand. -/
theorem RulesLinked.assign
    (h : RulesLinked snapshots command old entities canonicalRules addrs services)
    (hwf : ScopeEntryWf scopeId old) {operand : MappingScopeRuleOperand} {rule : MappingScopeRule}
    (hrule : old.rules.get? operand.mappingScopeRuleId=some rule) {result : MappingEntityResult}
    (hresult : old.results.get? operand.mappingEntityResultId=some result)
    (hmanual : isManualResultWithoutCanonical result=true) :
    RulesLinked snapshots command ⟨old.scope,old.rules.insert rule.id
      { rule with operands := some (rule.operands.getD []++[operand]) },old.results⟩
      entities canonicalRules addrs services := by
  have hkey : rule.id=operand.mappingScopeRuleId := hwf.rule_id _ rule hrule
  -- every rule has the canonical rule of the one that was stored under its identifier
  have hback : ∀ ruleId stored,(old.rules.insert rule.id
      { rule with operands := some (rule.operands.getD []++[operand]) }).get? ruleId=some stored →
      ∃ before,old.rules.get? ruleId=some before ∧
        stored.canonicalRuleId=before.canonicalRuleId := by
    intro ruleId stored hs
    rw [Dict.get?_insert] at hs
    by_cases hid : ruleId=rule.id
    · rw [if_pos hid,Option.some.injEq] at hs
      exact ⟨rule,by rw [hid,hkey,hrule],by rw [←hs]⟩
    · rw [if_neg hid] at hs
      exact ⟨stored,hs,rfl⟩
  refine ⟨h.entities_read,h.rules_read,h.read,fun ruleId stored hs => ?_,?_,?_⟩
  · rw [Dict.get?_insert] at hs
    by_cases hid : ruleId=rule.id
    · rw [if_pos hid,Option.some.injEq] at hs
      obtain ⟨-,canonicalRule,hc,hsame,hlinked⟩ := h.linked _ rule hrule
      rw [←hs]
      exact ⟨Option.some_ne_none _,canonicalRule,hc,hsame,linked_assign hlinked hresult hmanual⟩
    · rw [if_neg hid] at hs
      exact h.linked ruleId stored hs
  · intro canonicalRule hc
    obtain ⟨ruleId,stored,hs,hsame⟩ := h.every canonicalRule hc
    by_cases hid : ruleId=rule.id
    · have heq : stored=rule := by
        rw [hid,hkey,hrule,Option.some.injEq] at hs
        exact hs.symm
      exact ⟨rule.id,_,Dict.get?_insert_self _ _ _,by rw [←hsame,heq]⟩
    · exact ⟨ruleId,stored,by rw [Dict.get?_insert_of_ne _ hid,hs],hsame⟩
  · intro ruleId first otherId second hfirst hsecond hsame
    obtain ⟨before,hb,hcb⟩ := hback ruleId first hfirst
    obtain ⟨other,ho,hco⟩ := hback otherId second hsecond
    exact h.once ruleId before otherId other hb ho (by rw [←hcb,←hco,hsame])

/-- Rules that are built on stored results, and attached to a scope without rules, are linked. -/
theorem rulesLinked_of_build [PyUnicode] {request : MappingRequest} {firstRule : ℕ}
    {results : List MappingEntityResult} {rules : List MappingScopeRule}
    (hmaps : MapsSelection snapshots request scopeId command entities results)
    (hcanonical : getCanonicalScopeRules snapshots command.canonicalSnapshotId
      command.canonicalRulesIds=.ok canonicalRules)
    (hbuild : MappingRules.build firstRule scopeId canonicalRules entities results=.ok rules)
    (hstored : ∀ result∈results,∃ stored,old.results.get? result.id=some stored ∧
      SameEntity result stored) (hwf : ScopeEntryWf scopeId old) (hnone : Ruleless old) :
    ∃ addrs services,RulesLinked snapshots command ⟨old.scope,
      rules.foldl (fun d rule => d.insert rule.id rule) old.rules,old.results⟩
      entities canonicalRules addrs services := by
  have hcover := resultsCover_of_maps hmaps
  obtain ⟨addrs,services,hread⟩ := exists_scopeRead hmaps.read hcanonical
  obtain ⟨byKey,hindex,hget⟩ :=
    MappingRules.mappingResultsIndex_spec hcover.entity_eq hcover.entities_nodup
  have hbyKey : ∀ key result,byKey.get? key=some result → result∈results ∧
      result.entityType=key.1 ∧ result.canonicalEntityId=.ok key.2 := by
    intro key result hr
    obtain ⟨hin,rfl⟩ := (hget key result).mp hr
    exact ⟨hin,rfl,hcover.entity_eq result hin⟩
  have hcreate : MappingRules.createRules ⟨byKey,addrs,services⟩ scopeId firstRule
      canonicalRules=.ok rules := by
    obtain ⟨otherKey,hotherKey,h⟩ := bind_eq_ok.mp hbuild
    obtain ⟨otherAddrs,hotherAddrs,h⟩ := bind_eq_ok.mp h
    obtain ⟨otherServices,hotherServices,h⟩ := bind_eq_ok.mp h
    rw [hindex,Except.ok.injEq] at hotherKey
    rw [hread.addrs_index,Except.ok.injEq] at hotherAddrs
    rw [hread.services_index,Except.ok.injEq] at hotherServices
    rwa [hotherKey,hotherAddrs,hotherServices]
  obtain ⟨hfrom,-,hnodup⟩ := createRules_created hcreate
  have hput : ∀ ruleId rule,(rules.foldl (fun d rule => d.insert rule.id rule)
      old.rules).get? ruleId=some rule ↔ rule∈rules ∧ rule.id=ruleId := by
    intro ruleId rule
    rw [get?_foldl_insert_iff MappingScopeRule.id hnodup]
    refine ⟨fun h => h.resolve_right fun hold => ?_,Or.inl⟩
    rw [hnone ruleId] at hold
    cases hold.2
  have hcanonicalIds : rules.map (·.canonicalRuleId)=canonicalRules.map (·.id) := by
    rw [←List.forall₂_eq_eq_eq,List.forall₂_map_left_iff,List.forall₂_map_right_iff]
    exact hfrom.flip.imp fun rule canonicalRule h => h.canonical
  have honce : (rules.map (·.canonicalRuleId)).Nodup := by
    rw [hcanonicalIds]
    exact hread.rules_nodup
  refine ⟨addrs,services,hmaps.read,hcanonical,hread,fun ruleId rule hr => ?_,?_,?_⟩
  · obtain ⟨hin,-⟩ := (hput ruleId rule).mp hr
    obtain ⟨i,hi,rfl⟩ := List.mem_iff_getElem.mp hin
    have hj := hfrom.length_eq.trans_ge hi
    have hcreated := hfrom.get hj hi
    obtain ⟨payloads,operands,-,hsome,-⟩ := hcreated.operands
    refine ⟨fun h => ?_,_,List.getElem_mem hj,hcreated.canonical.symm,?_⟩
    · exact absurd (hsome.symm.trans h) (Option.some_ne_none operands)
    · exact linked_of_createdFrom hbyKey hstored
        (fun resultId result hr => (hwf.result_id resultId result hr).1)
        (hread.zone_read _ (List.getElem_mem hj)) hcreated
  · intro canonicalRule hc
    have hin : canonicalRule.id∈rules.map (·.canonicalRuleId) := by
      rw [hcanonicalIds]
      exact List.mem_map_of_mem hc
    obtain ⟨rule,hr,hid⟩ := List.mem_map.mp hin
    exact ⟨rule.id,rule,(hput rule.id rule).mpr ⟨hr,rfl⟩,hid⟩
  · intro ruleId first otherId second hfirst hsecond hsame
    obtain ⟨hf,rfl⟩ := (hput ruleId first).mp hfirst
    obtain ⟨hs,rfl⟩ := (hput otherId second).mp hsecond
    rw [List.inj_on_of_nodup_map honce hf hs hsame]

end Scopes

end NspMigrator.MappingScopeLinks
