import Mathlib
import NspMigrator.MappingZoneSpec
import NspMigrator.MappingReaderIds

/-!
# Zone assignments side by side

Any number of requests assign zones to the rules of one scope. Results and
operands are only ever added, so a request that returns has its zone on every
rule. A request decides from the copies it read, so a rule is given its zone
once as long as nothing is added for a zone while another request for it works
from an older copy.
-/

namespace NspMigrator.MappingZoneAssignment

open PyAsync PyDict PyText SdwanModels ExecuteRepository MappingEntities MappingRepository
open MappingUseCases MigrationRequests MappingScopeSpec MappingScopeInvariant MappingZoneSpec

/-- A scope after operands and results were added. -/
structure Later (old entry : MappingScopeCacheEntry) : Prop where
  /-- Every rule has the operands it had. -/
  rules : ∀ ruleId rule,old.rules.get? ruleId=some rule → ∃ stored,
    entry.rules.get? ruleId=some stored ∧ rule.operands.getD []⊆ stored.operands.getD []
  /-- There is no new rule. -/
  rules_back : ∀ ruleId stored,entry.rules.get? ruleId=some stored →
    ∃ rule,old.rules.get? ruleId=some rule
  /-- Every result is as it was. -/
  results : ∀ resultId result,old.results.get? resultId=some result →
    entry.results.get? resultId=some result

/-- A copy of a scope has every rule, with operands and results that are stored. -/
structure CopyOf (scope : MappingScope) (entry : MappingScopeCacheEntry) : Prop where
  /-- The operands of the copy are stored. -/
  rules : ∀ rule∈scope.rules.getD [],∃ stored,entry.rules.get? rule.id=some stored ∧
    rule.operands.getD []⊆ stored.operands.getD []
  /-- They point at results. -/
  refs : ∀ rule∈scope.rules.getD [],∀ operand∈rule.operands.getD [],
    ∃ result,entry.results.get? operand.mappingEntityResultId=some result
  /-- No rule is missing from the copy. -/
  complete : ∀ ruleId stored,entry.rules.get? ruleId=some stored →
    ∃ rule∈scope.rules.getD [],rule.id=ruleId

/-- Operands of a scope point at its results. -/
def Refs (entry : MappingScopeCacheEntry) : Prop :=
  ∀ ruleId rule,entry.rules.get? ruleId=some rule → ∀ operand∈rule.operands.getD [],
    ∃ result,entry.results.get? operand.mappingEntityResultId=some result

/-- An operand gives its rule the zone of a request in its slot. -/
def Carries (entry : MappingScopeCacheEntry) (request : ZoneRequest)
    (operand : MappingScopeRuleOperand) : Prop :=
  operand.role=request.role ∧ ∃ result,
    entry.results.get? operand.mappingEntityResultId=some result ∧
    StandsFor request.zoneSdwanId result

/-- A rule has the zone of a request in its slot. -/
def HasZone (entry : MappingScopeCacheEntry) (request : ZoneRequest) (rule : MappingScopeRule) :
    Prop :=
  ∃ operand∈rule.operands.getD [],Carries entry request operand

instance (zoneSdwanId : ℤ) (result : MappingEntityResult) :
    Decidable (StandsFor zoneSdwanId result) :=
  decidable_of_iff (result.entityType=.zone ∧ result.resultStatus=.matched ∧
      result.selectedSdwanEntityId=some zoneSdwanId)
    ⟨fun h => ⟨h.1,h.2.1,h.2.2⟩,fun h => ⟨h.zone,h.matched,h.selected⟩⟩

instance (entry : MappingScopeCacheEntry) (request : ZoneRequest)
    (operand : MappingScopeRuleOperand) : Decidable (Carries entry request operand) :=
  match h : entry.results.get? operand.mappingEntityResultId with
  | none => .isFalse fun ⟨_,result,hresult,_⟩ => by rw [h] at hresult; cases hresult
  | some result => decidable_of_iff
      (operand.role=request.role ∧ StandsFor request.zoneSdwanId result)
      ⟨fun hc => ⟨hc.1,result,h,hc.2⟩,fun ⟨hrole,other,hother,hstands⟩ => by
        rw [h,Option.some.injEq] at hother
        exact ⟨hrole,hother▸hstands⟩⟩

instance (entry : MappingScopeCacheEntry) (request : ZoneRequest) (rule : MappingScopeRule) :
    Decidable (HasZone entry request rule) :=
  inferInstanceAs (Decidable (∃ operand∈rule.operands.getD [],Carries entry request operand))

/-- No SD-WAN zone has two manual results. -/
def OneManual (entry : MappingScopeCacheEntry) : Prop :=
  ∀ zoneSdwanId resultId result otherId other,
    entry.results.get? resultId=some result → entry.results.get? otherId=some other →
    Manual result → Manual other → StandsFor zoneSdwanId result → StandsFor zoneSdwanId other →
    resultId=otherId

section Entries

variable {entry old : MappingScopeCacheEntry} {scope : MappingScope} {request : ZoneRequest}

theorem Later.refl (entry : MappingScopeCacheEntry) : Later entry entry :=
  ⟨fun _ rule h => ⟨rule,h,fun _ ho => ho⟩,fun _ rule h => ⟨rule,h⟩,fun _ _ h => h⟩

theorem CopyOf.later (h : CopyOf scope old) (hl : Later old entry) : CopyOf scope entry := by
  refine ⟨fun rule hr => ?_,fun rule hr operand ho => ?_,fun ruleId stored hs => ?_⟩
  · obtain ⟨stored,hs,hsub⟩ := h.rules rule hr
    obtain ⟨stored',hs',hsub'⟩ := hl.rules _ _ hs
    exact ⟨stored',hs',fun operand ho => hsub' (hsub ho)⟩
  · obtain ⟨result,hresult⟩ := h.refs rule hr operand ho
    exact ⟨result,hl.results _ _ hresult⟩
  · obtain ⟨rule,hr⟩ := hl.rules_back _ _ hs
    exact h.complete _ _ hr

/-- A copy holds the rules as they are stored. -/
theorem mem_materializeScope {scopeId : ℕ} (hwf : ScopeEntryWf scopeId entry)
    {rule : MappingScopeRule} :
    rule∈(materializeScope entry).rules.getD [] ↔ entry.rules.get? rule.id=some rule := by
  rw [materializeScope,Option.getD_some,List.mem_insertionSort]
  constructor
  · intro h
    obtain ⟨ruleId,hr⟩ := Dict.exists_get?_of_mem_values h
    rwa [hwf.rule_id ruleId rule hr]
  · exact Dict.mem_values_of_get?

/-- A scope that is read is a copy of the stored one. -/
theorem copyOf_materializeScope {scopeId : ℕ} (hwf : ScopeEntryWf scopeId entry)
    (hrefs : Refs entry) : CopyOf (materializeScope entry) entry := by
  refine ⟨fun rule hr => ?_,fun rule hr operand ho => ?_,fun ruleId stored hs => ?_⟩
  · exact ⟨rule,(mem_materializeScope hwf).mp hr,fun _ ho => ho⟩
  · exact hrefs _ rule ((mem_materializeScope hwf).mp hr) operand ho
  · have hid := hwf.rule_id ruleId stored hs
    refine ⟨stored,(mem_materializeScope hwf).mpr ?_,hid⟩
    rwa [hid]

/-- The rules of a copy have numbers of their own. -/
theorem nodup_materializeScope {scopeId : ℕ} (hwf : ScopeEntryWf scopeId entry) :
    (((materializeScope entry).rules.getD []).map (·.id)).Nodup := by
  have hperm : List.Perm (((materializeScope entry).rules.getD []).map (·.id))
      (entry.rules.values.map (·.id)) := (List.perm_insertionSort _ _).map _
  rw [hperm.nodup_iff,map_values_eq_keys hwf.rule_id]
  exact entry.rules.nodup

/-- The zone results of a scope are listed as they are stored. -/
theorem mem_listResults_zone {store : ScopeStore} {scopeId : ℕ}
    (hentry : store.get? scopeId=some entry) (hwf : ScopeEntryWf scopeId entry)
    {result : MappingEntityResult} :
    result∈listResults store scopeId (some .zone) none ↔
      entry.results.get? result.id=some result ∧ result.entityType=.zone := by
  rw [listResults,hentry]
  simp only [List.mem_insertionSort,List.mem_filter,Option.all_some,Option.all_none,Bool.and_true,
    decide_eq_true_eq]
  refine and_congr_left fun _ => ⟨fun h => ?_,Dict.mem_values_of_get?⟩
  obtain ⟨resultId,hr⟩ := Dict.exists_get?_of_mem_values h
  rwa [(hwf.result_id resultId result hr).1]

/-- An operand whose result was stored before carries what it carried. -/
theorem Carries.of_later (hl : Later old entry) {operand : MappingScopeRuleOperand}
    (hold : ∃ result,old.results.get? operand.mappingEntityResultId=some result)
    (h : Carries entry request operand) : Carries old request operand := by
  obtain ⟨result,hresult⟩ := hold
  obtain ⟨hrole,stored,hstored,hstands⟩ := h
  rw [hl.results _ _ hresult,Option.some.injEq] at hstored
  exact ⟨hrole,result,hresult,hstored▸hstands⟩

end Entries

/-- What the operations do. The controller looks a zone up by its number. -/
def zoneHandles (world : ScopeWorld) (op : MappingOp) (answer : Except PyException (MappingAns op))
    (next : ScopeWorld) : Prop :=
  scopeHandles world op answer next ∧ match op,answer with
    | .getZone zoneId,.ok (some zone) => zone.id=zoneId
    | _,_ => True

/-- What an operation of a request does to its scope: it adds nothing, or a
manual result, or one operand. -/
inductive ZoneEffect (request : ZoneRequest) (scopeId : ℕ) (store next : ScopeStore) :
    MappingEvent → Prop where
  | quiet {event : MappingEvent} (hsame : next=store)
      (hresults : ∀ otherId results,event≠⟨.addResults otherId results,.ok ()⟩)
      (hoperands : ∀ otherId operand,event≠⟨.addRuleOperand otherId operand,.ok ()⟩) :
      ZoneEffect request scopeId store next event
  | made {resultId : ℕ} {old entry : MappingScopeCacheEntry}
      (hold : store.get? scopeId=some old) (hentry : next.get? scopeId=some entry)
      (hrules : entry.rules=old.rules) (hnew : old.results.get? resultId=none)
      (hresults : ∀ otherId result,entry.results.get? otherId=some result ↔
        (otherId=resultId ∧ result=MappingEntityResult.createZoneManuallyAssigned resultId scopeId
          request.zoneSdwanId) ∨ old.results.get? otherId=some result) :
      ZoneEffect request scopeId store next ⟨.addResults scopeId
        [MappingEntityResult.createZoneManuallyAssigned resultId scopeId request.zoneSdwanId],
        .ok ()⟩
  | attached {operand : MappingScopeRuleOperand} {old entry : MappingScopeCacheEntry}
      {rule : MappingScopeRule} (hold : store.get? scopeId=some old)
      (hentry : next.get? scopeId=some entry) (hresults : entry.results=old.results)
      (hrule : old.rules.get? operand.mappingScopeRuleId=some rule)
      (hrules : ∀ ruleId,entry.rules.get? ruleId=if ruleId=operand.mappingScopeRuleId
        then some { rule with operands := some (rule.operands.getD []++[operand]) }
        else old.rules.get? ruleId) :
      ZoneEffect request scopeId store next ⟨.addRuleOperand scopeId operand,.ok ()⟩

section Effects

variable {request : ZoneRequest} {scopeId : ℕ} {history : List MappingEvent}
  {world next : ScopeWorld} {event : MappingEvent}

/-- An operand that is added stands at the end of its rule. -/
theorem addRuleOperand_eq_ok {store after : ScopeStore} {operand : MappingScopeRuleOperand}
    (h : addRuleOperand store scopeId operand=.ok after) :
    ∃ entry rule,store.get? scopeId=some entry ∧
      entry.rules.get? operand.mappingScopeRuleId=some rule ∧
      after=store.insert scopeId { entry with
        rules := entry.rules.insert rule.id
          { rule with operands := some (rule.operands.getD []++[operand]) } } := by
  obtain ⟨entry,he,hrest⟩ := PyExcept.bind_eq_ok.mp h
  split at hrest
  · cases hrest
  next rule hrule =>
  cases hrest
  exact ⟨entry,rule,requireScopeEntry_eq_ok.mp he,hrule,rfl⟩

/-- Every operation a request is allowed does one of these. -/
theorem zoneEffect_of_handles (hwf : ScopesWf world.scopes)
    (hspec : ZoneSpec request scopeId history event.op)
    (h : zoneHandles world event.op event.answer next) :
    ZoneEffect request scopeId world.scopes next.scopes event := by
  obtain ⟨⟨⟨before,after,hbefore,hafter,hmapping⟩,-,-⟩,-⟩ := h
  obtain ⟨op,answer⟩ := event
  cases op with
  | addScope | attachRules | saveResult | refreshCatalogFingerprint => exact hspec.elim
  | addResults otherId results =>
    obtain ⟨rfl,-,resultId,-,-,-,rfl,-⟩ := hspec
    rcases writes_cases hmapping with ⟨value,houtcome,rfl⟩|⟨⟨error,rfl⟩,hsame⟩
    · have hadd := eq_ok_of_map houtcome
      rw [hbefore,hafter] at hadd
      have hone : ([MappingEntityResult.createZoneManuallyAssigned resultId otherId
          request.zoneSdwanId].map (·.id)).Nodup := List.nodup_singleton _
      obtain ⟨old,added,hold,hupdated,hnew,hget⟩ := addResults_updated hone hadd
      have hentry := hupdated otherId
      rw [if_pos rfl] at hentry
      refine .made hold hentry rfl (hnew _ (List.mem_singleton_self _)).2 fun other result => ?_
      rw [hget,List.mem_singleton]
      refine or_congr_left ⟨fun h => ⟨?_,h.1⟩,fun h => ⟨h.2,?_⟩⟩
      · rw [←h.2,h.1]
        rfl
      · rw [h.2,h.1]
        rfl
    · exact .quiet (by rw [←hafter,hsame,hbefore]) (fun _ _ h => by cases h) fun _ _ h => by cases h
  | addRuleOperand otherId operand =>
    obtain ⟨rfl,-⟩ := hspec
    rcases writes_cases hmapping with ⟨value,houtcome,rfl⟩|⟨⟨error,rfl⟩,hsame⟩
    · have hadd := eq_ok_of_map houtcome
      rw [hbefore,hafter] at hadd
      obtain ⟨old,rule,hold,hrule,hnext⟩ := addRuleOperand_eq_ok hadd
      have hid := (hwf otherId old hold).rule_id _ rule hrule
      have hentry := congrArg (fun store => store.get? otherId) hnext
      rw [Dict.get?_insert_self] at hentry
      refine .attached hold hentry rfl hrule fun ruleId => ?_
      rw [Dict.get?_insert,hid]
    · exact .quiet (by rw [←hafter,hsame,hbefore]) (fun _ _ h => by cases h) fun _ _ h => by cases h
  | acquire profileId vpcId =>
    obtain ⟨client,rfl⟩ := hmapping.eq_client
    exact .quiet (by rw [←hafter,←hbefore]) (fun _ _ h => by cases h) fun _ _ h => by cases h
  | createAddrObject | createService =>
    exact .quiet (by rw [←hafter,hmapping.scopes_eq,hbefore]) (fun _ _ h => by cases h)
      fun _ _ h => by cases h
  | getSdwanFullCatalog =>
    obtain ⟨rfl,-⟩ := hmapping
    exact .quiet (by rw [←hafter,←hbefore]) (fun _ _ h => by cases h) fun _ _ h => by cases h
  | getScopeById | getResult | listResults =>
    obtain ⟨-,rfl⟩ := hmapping
    exact .quiet (by rw [←hafter,←hbefore]) (fun _ _ h => by cases h) fun _ _ h => by cases h
  | _ =>
    cases hmapping
    exact .quiet (by rw [←hafter,←hbefore]) (fun _ _ h => by cases h) fun _ _ h => by cases h

/-- Whatever an operation of a request does, the scope only grows. -/
theorem ZoneEffect.later (h : ZoneEffect request scopeId world.scopes next.scopes event)
    {entry : MappingScopeCacheEntry} (hentry : next.scopes.get? scopeId=some entry) :
    ∃ old,world.scopes.get? scopeId=some old ∧ Later old entry := by
  cases h with
  | quiet hsame => exact ⟨entry,hsame▸hentry,.refl entry⟩
  | made hold hentry' hrules hnew hresults =>
    rw [hentry] at hentry'
    cases hentry'
    refine ⟨_,hold,fun ruleId rule hr => ⟨rule,hrules▸hr,fun _ ho => ho⟩,
      fun ruleId rule hr => ⟨rule,hrules▸hr⟩,fun otherId result hr => ?_⟩
    exact (hresults otherId result).mpr (Or.inr hr)
  | @attached operand old _ rule hold hentry' hresults hrule hrules =>
    rw [hentry] at hentry'
    cases hentry'
    refine ⟨old,hold,fun ruleId other ho => ?_,fun ruleId stored hs => ?_,
      fun otherId result hr => hresults▸hr⟩
    · by_cases hid : ruleId=operand.mappingScopeRuleId
      · rw [hid,hrule] at ho
        cases ho
        refine ⟨_,by rw [hrules,if_pos hid],fun one hone => List.mem_append_left _ hone⟩
      · exact ⟨other,by rw [hrules,if_neg hid,ho],fun _ hone => hone⟩
    · by_cases hid : ruleId=operand.mappingScopeRuleId
      · exact ⟨rule,by rw [hid,hrule]⟩
      · exact ⟨stored,by rwa [hrules,if_neg hid] at hs⟩

/-- Operands of the scope still point at its results. -/
theorem ZoneEffect.refs (h : ZoneEffect request scopeId world.scopes next.scopes event)
    (hold : ∀ old,world.scopes.get? scopeId=some old → Refs old)
    (hpoints : ∀ operand,event=⟨.addRuleOperand scopeId operand,.ok ()⟩ → ∀ old,
      world.scopes.get? scopeId=some old →
      ∃ result,old.results.get? operand.mappingEntityResultId=some result)
    {entry : MappingScopeCacheEntry} (hentry : next.scopes.get? scopeId=some entry) :
    Refs entry := by
  cases h with
  | quiet hsame => exact hold entry (hsame▸hentry)
  | made hold' hentry' hrules hnew hresults =>
    rw [hentry] at hentry'
    cases hentry'
    intro ruleId rule hr operand ho
    obtain ⟨result,hresult⟩ := hold _ hold' ruleId rule (hrules▸hr) operand ho
    exact ⟨result,(hresults _ result).mpr (Or.inr hresult)⟩
  | @attached operand old _ rule hold' hentry' hresults hrule hrules =>
    rw [hentry] at hentry'
    cases hentry'
    intro ruleId stored hs one hone
    rw [hresults]
    rw [hrules] at hs
    split at hs
    · cases hs
      rcases List.mem_append.mp hone with hone|hone
      · exact hold old hold' _ rule hrule one hone
      · rw [List.mem_singleton.mp hone]
        exact hpoints operand rfl old hold'
    · exact hold old hold' ruleId stored hs one hone

/-- The repository and the controller answer a request as they should. -/
theorem zoneAnswer_of_handles (hwf : ScopesWf world.scopes)
    (h : zoneHandles world event.op event.answer next) : ZoneAnswer event := by
  obtain ⟨⟨⟨before,after,hbefore,hafter,hmapping⟩,-,-⟩,hzone⟩ := h
  obtain ⟨op,answer⟩ := event
  cases op with
  | getScopeById scopeId =>
    obtain ⟨hanswer,-⟩ := hmapping
    dsimp only at hanswer
    subst hanswer
    rw [hbefore]
    cases hentry : world.scopes.get? scopeId with
    | none =>
      rw [getScopeById,hentry]
      exact trivial
    | some entry =>
      rw [getScopeById,hentry]
      exact ⟨(hwf scopeId entry hentry).scope_id,nodup_materializeScope (hwf scopeId entry hentry)⟩
  | listResults scopeId entityType status =>
    obtain ⟨hanswer,-⟩ := hmapping
    dsimp only at hanswer
    subst hanswer
    cases entityType with
    | none => exact trivial
    | some entityType =>
      intro result hresult
      unfold listResults at hresult
      split at hresult
      · cases hresult
      · rw [List.mem_insertionSort,List.mem_filter,Bool.and_eq_true] at hresult
        exact of_decide_eq_true hresult.2.1
  | getZone zoneId =>
    cases answer with
    | error error => exact trivial
    | ok found =>
      cases found with
      | none => exact trivial
      | some zone => exact hzone
  | _ => exact trivial

end Effects

section Reads

variable {scopeId : ℕ} {world next : ScopeWorld}

/-- The scope is read as it is stored. -/
theorem scope_of_zoneHandles {scope : MappingScope}
    (h : zoneHandles world (.getScopeById scopeId) (.ok (some scope)) next) :
    next.scopes=world.scopes ∧
      ∃ entry,world.scopes.get? scopeId=some entry ∧ scope=materializeScope entry := by
  obtain ⟨⟨⟨before,after,hbefore,hafter,hanswer,rfl⟩,-,-⟩,-⟩ := h
  refine ⟨by rw [←hafter,←hbefore],?_⟩
  have hread := (Except.ok.inj hanswer).symm
  rw [hbefore] at hread
  obtain ⟨entry,hentry,hscope⟩ := Option.map_eq_some_iff.mp hread
  exact ⟨entry,hentry,hscope.symm⟩

/-- The zone results are listed as they are stored. -/
theorem results_of_zoneHandles {results : List MappingEntityResult}
    (h : zoneHandles world (.listResults scopeId (some .zone) none) (.ok results) next) :
    next.scopes=world.scopes ∧ results=listResults world.scopes scopeId (some .zone) none := by
  obtain ⟨⟨⟨before,after,hbefore,hafter,hanswer,rfl⟩,-,-⟩,-⟩ := h
  refine ⟨by rw [←hafter,←hbefore],?_⟩
  have hread := Except.ok.inj hanswer
  rwa [hbefore] at hread

/-- A rule that has the zone does not lack it in a fresh copy. -/
theorem not_lacks_of_hasZone {request : ZoneRequest} {entry : MappingScopeCacheEntry}
    (hwf : ScopesWf world.scopes) (hentry : world.scopes.get? scopeId=some entry)
    (hzone : ∀ ruleId rule,entry.rules.get? ruleId=some rule → HasZone entry request rule)
    {rule : MappingScopeRule} :
    ¬Lacks request (materializeScope entry)
      (listResults world.scopes scopeId (some .zone) none) rule := by
  intro hlacks
  have hscope := hwf scopeId entry hentry
  have hstored := (mem_materializeScope hscope).mp hlacks.read
  obtain ⟨operand,ho,hrole,result,hresult,hstands⟩ := hzone rule.id rule hstored
  have hid := (hscope.result_id _ result hresult).1
  have hlisted : result∈listResults world.scopes scopeId (some .zone) none :=
    (mem_listResults_zone hentry hscope).mpr ⟨by rw [hid,hresult],hstands.zone⟩
  exact hlacks.lacks operand ho hrole result hlisted hstands hid.symm

/-- A request whose zone every rule has adds nothing. -/
theorem scopes_eq_of_hasZone {request : ZoneRequest} (hwf : ScopesWf world.scopes)
    (hzone : ∀ entry,world.scopes.get? scopeId=some entry →
      ∀ ruleId rule,entry.rules.get? ruleId=some rule → HasZone entry request rule)
    {events : List MappingEvent}
    {result : Except PyException (MappingEntityResult × List MappingScopeRuleOperand)}
    (hrun : Async.Runs zoneHandles world (request.serve scopeId) events next result) :
    next.scopes=world.scopes := by
  -- the copies of the request are fresh throughout
  let I : List MappingEvent → ScopeWorld → Prop := fun history reached =>
    reached.scopes=world.scopes ∧
    (∀ scope,ScopeRead scopeId history scope →
      ∃ entry,world.scopes.get? scopeId=some entry ∧ scope=materializeScope entry) ∧
    ∀ listed,ResultsRead scopeId history listed →
      listed=listResults world.scopes scopeId (some .zone) none
  have hfalse : ∀ history reached scope listed rule,I history reached →
      ScopeRead scopeId history scope → ResultsRead scopeId history listed →
      ¬Lacks request scope listed rule := by
    rintro history reached scope listed rule ⟨-,hscopes,hresults⟩ hscope hlisted
    obtain ⟨entry,hentry,rfl⟩ := hscopes scope hscope
    rw [hresults listed hlisted]
    exact not_lacks_of_hasZone hwf hentry (hzone entry hentry)
  have hlast := hrun.inv (I:=I) (serve_sound request scopeId)
    ⟨rfl,fun _ h => absurd h List.not_mem_nil,fun _ h => absurd h List.not_mem_nil⟩
    fun history op answer reached after hi hspec hop => ?_
  · exact hlast.1.1
  · have hreached : ScopesWf reached.scopes := by
      rw [hi.1]
      exact hwf
    have heffect : ZoneEffect request scopeId reached.scopes after.scopes ⟨op,answer⟩ :=
      zoneEffect_of_handles hreached hspec hop
    have hsame : after.scopes=reached.scopes := by
      generalize he : (⟨op,answer⟩ : MappingEvent)=event at heffect
      cases heffect with
      | quiet hsame => exact hsame
      | made =>
        cases he
        obtain ⟨-,-,_,scope,listed,rule,-,hscope,hlisted,hlacks,-⟩ := hspec
        exact absurd hlacks (hfalse history reached scope listed rule hi hscope hlisted)
      | attached =>
        cases he
        obtain ⟨-,-,scope,listed,rule,-,hscope,hlisted,hlacks,-⟩ := hspec
        exact absurd hlacks (hfalse history reached scope listed rule hi hscope hlisted)
    have hanswer : ZoneAnswer ⟨op,answer⟩ := zoneAnswer_of_handles hreached hop
    refine ⟨hanswer,hsame.trans hi.1,fun scope hscope => ?_,fun listed hlisted => ?_⟩
    · rcases List.mem_append.mp hscope with hscope|hscope
      · exact hi.2.1 scope hscope
      · cases List.mem_singleton.mp hscope
        have hread := (scope_of_zoneHandles hop).2
        rwa [hi.1] at hread
    · rcases List.mem_append.mp hlisted with hlisted|hlisted
      · exact hi.2.2 listed hlisted
      · cases List.mem_singleton.mp hlisted
        have hread := (results_of_zoneHandles hop).2
        rwa [hi.1] at hread

end Reads

/-- Zone assignments, side by side. -/
abbrev ZonePool (ι : Type) := Pool ScopeWorld ι MappingOp MappingAns PyException
  (MappingEntityResult × List MappingScopeRuleOperand)

section Interleaving

variable {ι : Type} [DecidableEq ι]

/-- An operand is added only when no other unfinished request for its zone and
slot has read the scope, and a result only when no other unfinished request
for its zone has read the results. -/
def AddsAlone (requests : ι → ZoneRequest) (scopeId : ℕ) (pool : ZonePool ι)
    (label : Option (ι × MappingEvent)) : Prop :=
  ∀ i event,label=some (i,event) → ∀ j,j≠i → (pool.tasks j).ended=false →
    (AddsOperand event.op → requests j=requests i →
      ∀ scope,¬ScopeRead scopeId (Pool.history pool.trace j) scope) ∧
    (addsResults event=true → (requests j).zoneSdwanId=(requests i).zoneSdwanId →
      ∀ results,¬ResultsRead scopeId (Pool.history pool.trace j) results)

/-- A request adds alone while the others have not begun, or have ended. -/
theorem addsAlone_of_idle {requests : ι → ZoneRequest} {scopeId : ℕ} {pool : ZonePool ι} {i : ι}
    (hidle : ∀ j,j≠i → Pool.Idle pool j) (event : MappingEvent) :
    AddsAlone requests scopeId pool (some (i,event)) := by
  intro k other hlabel j hne hlive
  obtain ⟨rfl,rfl⟩ := Prod.mk.inj (Option.some.inj hlabel)
  rcases hidle j hne with hnone|hended
  · -- it has read nothing yet
    rw [hnone]
    exact ⟨fun _ _ _ hread => absurd hread List.not_mem_nil,
      fun _ _ _ hread => absurd hread List.not_mem_nil⟩
  · rw [hended] at hlive
    cases hlive

/-- What requests read, made and attached is stored, and an unfinished request
knows every operand and every manual result of its zone. -/
structure ZonesInv (requests : ι → ZoneRequest) (scopeId : ℕ) (pool : ZonePool ι) : Prop where
  /-- Every request keeps to its specification. -/
  sound : pool.SoundEach (fun _ => ZoneAnswer) (fun i => ZoneSpec (requests i) scopeId)
    fun i => ZoneDone (requests i) scopeId
  /-- Scopes, rules and results lie under their numbers. -/
  wf : ScopesWf pool.world.scopes
  /-- Operands point at results. -/
  refs : ∀ entry,pool.world.scopes.get? scopeId=some entry → Refs entry
  /-- No zone has two manual results. -/
  once : ∀ entry,pool.world.scopes.get? scopeId=some entry → OneManual entry
  /-- A scope that was read is a copy of the stored one. -/
  copies : ∀ i scope,ScopeRead scopeId (Pool.history pool.trace i) scope →
    ∀ entry,pool.world.scopes.get? scopeId=some entry → CopyOf scope entry
  /-- Results that were listed are stored. -/
  listed : ∀ i results,ResultsRead scopeId (Pool.history pool.trace i) results →
    ∀ entry,pool.world.scopes.get? scopeId=some entry →
    ∀ result∈results,entry.results.get? result.id=some result
  /-- Among them are the zone results of all operands that were read. -/
  covers : ∀ i scope results,ScopeRead scopeId (Pool.history pool.trace i) scope →
    ResultsRead scopeId (Pool.history pool.trace i) results →
    ∀ entry,pool.world.scopes.get? scopeId=some entry → ∀ rule∈scope.rules.getD [],
    ∀ operand∈rule.operands.getD [],∀ result,
    entry.results.get? operand.mappingEntityResultId=some result → result.entityType=.zone →
    result∈results
  /-- Results that were added are stored. -/
  made : ∀ i results,(⟨.addResults scopeId results,.ok ()⟩ : MappingEvent)∈
      Pool.history pool.trace i → ∀ entry,pool.world.scopes.get? scopeId=some entry →
    ∀ result∈results,entry.results.get? result.id=some result
  /-- Operands that were added are stored. -/
  attached : ∀ i operand,Attached scopeId (Pool.history pool.trace i) operand →
    ∀ entry,pool.world.scopes.get? scopeId=some entry →
    ∃ rule,entry.rules.get? operand.mappingScopeRuleId=some rule ∧
      operand∈rule.operands.getD []
  /-- An unfinished request knows every operand that carries its zone. -/
  own : ∀ i scope,ScopeRead scopeId (Pool.history pool.trace i) scope →
    (pool.tasks i).ended=false → ∀ entry,pool.world.scopes.get? scopeId=some entry →
    ∀ rule∈scope.rules.getD [],∀ stored,entry.rules.get? rule.id=some stored →
    ∀ operand∈stored.operands.getD [],Carries entry (requests i) operand →
    operand∈rule.operands.getD [] ∨ (operand.mappingScopeRuleId=rule.id ∧
      Attached scopeId (Pool.history pool.trace i) operand)
  /-- Before it adds a result it knows every manual one for its zone. -/
  manuals : ∀ i results,ResultsRead scopeId (Pool.history pool.trace i) results →
    (Pool.history pool.trace i).any addsResults=false → (pool.tasks i).ended=false →
    ∀ entry,pool.world.scopes.get? scopeId=some entry →
    ∀ resultId result,entry.results.get? resultId=some result → Manual result →
    StandsFor (requests i).zoneSdwanId result → result∈results

variable {requests : ι → ZoneRequest} {scopeId : ℕ} {pool next : ZonePool ι} {k : ι}
  {event : MappingEvent}

/-- The operand a request adds points at a stored result of its zone. -/
theorem ZonesInv.points (hinv : ZonesInv requests scopeId pool) {entry : MappingScopeCacheEntry}
    (hentry : pool.world.scopes.get? scopeId=some entry) {i : ι}
    {listed : List MappingEntityResult} {resultId : ℕ}
    (hlisted : ResultsRead scopeId (Pool.history pool.trace i) listed)
    (h : Points (requests i) scopeId (Pool.history pool.trace i) listed resultId) :
    ∃ result,entry.results.get? resultId=some result ∧
      StandsFor (requests i).zoneSdwanId result := by
  rcases h with ⟨result,hin,hstands,rfl⟩|hmade
  · exact ⟨result,hinv.listed i listed hlisted entry hentry result hin,hstands⟩
  · have hstored := hinv.made i _ hmade entry hentry _ (List.mem_singleton_self _)
    exact ⟨_,hstored,(standsFor_manual resultId scopeId _).1⟩

/-- A rule that gets an operand did not have the zone before. -/
theorem ZonesInv.lacks (hinv : ZonesInv requests scopeId pool) {entry : MappingScopeCacheEntry}
    (hentry : pool.world.scopes.get? scopeId=some entry) {i : ι}
    {operand : MappingScopeRuleOperand} {rule : MappingScopeRule}
    (hlive : (pool.tasks i).ended=false)
    (hspec : ZoneSpec (requests i) scopeId (Pool.history pool.trace i)
      (.addRuleOperand scopeId operand))
    (hrule : entry.rules.get? operand.mappingScopeRuleId=some rule) :
    ¬HasZone entry (requests i) rule := by
  obtain ⟨-,-,scope,listed,copy,hid,hscope,hlisted,hlacks,-,hfirst⟩ := hspec
  rintro ⟨other,ho,hcarries⟩
  have hown := hinv.own i scope hscope hlive entry hentry copy hlacks.read rule
    (by rwa [hid]) other ho hcarries
  obtain ⟨hrole,result,hresult,hstands⟩ := hcarries
  rcases hown with hcopy|⟨hother,hattached⟩
  · -- the copy would have shown the zone
    have hin := hinv.covers i scope listed hscope hlisted entry hentry copy hlacks.read other hcopy
      result hresult hstands.zone
    have hresultId := ((hinv.wf scopeId entry hentry).result_id _ result hresult).1
    exact hlacks.lacks other hcopy hrole result hin hstands hresultId.symm
  · exact hfirst _ hattached scopeId other rfl hother

/-- One operation of one request: what it did, and what it read. -/
structure ZoneStep (requests : ι → ZoneRequest) (scopeId : ℕ) (pool : ZonePool ι) (k : ι)
    (event : MappingEvent) (next : ZonePool ι) : Prop where
  /-- The operation is recorded. -/
  trace : next.trace=pool.trace++[(k,event)]
  /-- The request was under way. -/
  live : (pool.tasks k).ended=false
  /-- A request that was finished still is. -/
  ended : ∀ j,(next.tasks j).ended=false → (pool.tasks j).ended=false
  /-- The operation keeps to the specification. -/
  spec : ZoneSpec (requests k) scopeId (Pool.history pool.trace k) event.op
  /-- What it does to the scopes. -/
  effect : ZoneEffect (requests k) scopeId pool.world.scopes next.world.scopes event
  /-- A scope that is read is a copy of the stored one. -/
  scope : ∀ scope,event=⟨.getScopeById scopeId,.ok (some scope)⟩ →
    next.world.scopes=pool.world.scopes ∧
    ∃ entry,pool.world.scopes.get? scopeId=some entry ∧ scope=materializeScope entry
  /-- Listed are the zone results that are stored. -/
  results : ∀ results,event=⟨.listResults scopeId (some .zone) none,.ok results⟩ →
    next.world.scopes=pool.world.scopes ∧
    results=listResults pool.world.scopes scopeId (some .zone) none

/-- An operation of a request is such a step, and leaves every request with its
specification. -/
theorem ZonesInv.zoneStep (hinv : ZonesInv requests scopeId pool)
    (hstep : Pool.Step zoneHandles Expires pool (some (k,event)) next) :
    ZoneStep requests scopeId pool k event next ∧
      next.SoundEach (fun _ => ZoneAnswer) (fun i => ZoneSpec (requests i) scopeId)
        fun i => ZoneDone (requests i) scopeId := by
  obtain ⟨htrace,hhandles,hlive,hended⟩ := hstep.trace_eq
  obtain ⟨hspec,hnext⟩ := hinv.sound.step hstep
  refine ⟨⟨htrace,hlive,hended,hspec,zoneEffect_of_handles hinv.wf hspec hhandles,
    fun scope he => ?_,fun results he => ?_⟩,hnext (zoneAnswer_of_handles hinv.wf hhandles)⟩
  · subst he
    exact scope_of_zoneHandles hhandles
  · subst he
    exact results_of_zoneHandles hhandles

section Steps

variable (hinv : ZonesInv requests scopeId pool) (hz : ZoneStep requests scopeId pool k event next)

include hz

/-- An operation lies in a history when it did before or was just done. -/
theorem ZoneStep.mem {i : ι} {other : MappingEvent} :
    other∈Pool.history next.trace i ↔
      other∈Pool.history pool.trace i ∨ i=k ∧ other=event := by
  rw [hz.trace]
  exact Pool.mem_history_append

/-- A request that has added no result now had added none before. -/
theorem ZoneStep.none_added {i : ι}
    (h : (Pool.history next.trace i).any addsResults=false) :
    (Pool.history pool.trace i).any addsResults=false ∧ ¬(i=k ∧ addsResults event=true) := by
  rw [hz.trace,Pool.any_history_append,Bool.or_eq_false_iff] at h
  refine ⟨h.1,fun hk => ?_⟩
  simp [hk.1,hk.2] at h

include hinv

/-- The result of an operand that is attached stands for the zone of its request. -/
theorem ZoneStep.points {operand : MappingScopeRuleOperand}
    (he : event=⟨.addRuleOperand scopeId operand,.ok ()⟩) {entry : MappingScopeCacheEntry}
    (hentry : pool.world.scopes.get? scopeId=some entry) :
    operand.role=(requests k).role ∧ ∃ result,
      entry.results.get? operand.mappingEntityResultId=some result ∧
      StandsFor (requests k).zoneSdwanId result := by
  subst he
  obtain ⟨-,hrole,scope,listed,copy,-,-,hlisted,-,hpoints,-⟩ := hz.spec
  exact ⟨hrole,hinv.points hentry hlisted hpoints⟩

theorem ZoneStep.refs {entry : MappingScopeCacheEntry}
    (hentry : next.world.scopes.get? scopeId=some entry) : Refs entry := by
  refine hz.effect.refs hinv.refs (fun operand he old hold => ?_) hentry
  obtain ⟨-,result,hresult,-⟩ := hz.points hinv he hold
  exact ⟨result,hresult⟩

theorem ZoneStep.copies {i : ι} {scope : MappingScope}
    (hread : ScopeRead scopeId (Pool.history next.trace i) scope)
    {entry : MappingScopeCacheEntry} (hentry : next.world.scopes.get? scopeId=some entry) :
    CopyOf scope entry := by
  rcases hz.mem.mp hread with hold|⟨-,he⟩
  · obtain ⟨old,hget,hlater⟩ := hz.effect.later hentry
    exact (hinv.copies i scope hold old hget).later hlater
  · obtain ⟨hsame,stored,hstored,rfl⟩ := hz.scope scope he.symm
    rw [hsame,hstored] at hentry
    cases hentry
    exact copyOf_materializeScope (hinv.wf _ _ hstored) (hinv.refs _ hstored)

theorem ZoneStep.listed {i : ι} {results : List MappingEntityResult}
    (hread : ResultsRead scopeId (Pool.history next.trace i) results)
    {entry : MappingScopeCacheEntry} (hentry : next.world.scopes.get? scopeId=some entry)
    {result : MappingEntityResult} (hr : result∈results) :
    entry.results.get? result.id=some result := by
  rcases hz.mem.mp hread with hold|⟨-,he⟩
  · obtain ⟨old,hget,hlater⟩ := hz.effect.later hentry
    exact hlater.results _ _ (hinv.listed i results hold old hget result hr)
  · obtain ⟨hsame,rfl⟩ := hz.results results he.symm
    rw [hsame] at hentry
    exact ((mem_listResults_zone hentry (hinv.wf _ _ hentry)).mp hr).1

/-- What an operand of a copy points at was there when the results were read. -/
theorem ZoneStep.covers {i : ι} {scope : MappingScope} {results : List MappingEntityResult}
    (hscope : ScopeRead scopeId (Pool.history next.trace i) scope)
    (hread : ResultsRead scopeId (Pool.history next.trace i) results)
    {entry : MappingScopeCacheEntry} (hentry : next.world.scopes.get? scopeId=some entry)
    {rule : MappingScopeRule} (hrule : rule∈scope.rules.getD [])
    {operand : MappingScopeRuleOperand} (ho : operand∈rule.operands.getD [])
    {result : MappingEntityResult}
    (hresult : entry.results.get? operand.mappingEntityResultId=some result)
    (hzone : result.entityType=.zone) : result∈results := by
  rcases hz.mem.mp hread with hread|⟨hik,he⟩
  · rcases hz.mem.mp hscope with hscope|⟨hik,he⟩
    · obtain ⟨old,hold,hlater⟩ := hz.effect.later hentry
      obtain ⟨before,hbefore⟩ := (hinv.copies i scope hscope old hold).refs rule hrule operand ho
      have hsame := hlater.results _ _ hbefore
      rw [hresult,Option.some.injEq] at hsame
      exact hinv.covers i scope results hscope hread old hold rule hrule operand ho result
        (hsame▸hbefore) hzone
    · -- the scope is read before anything else
      subst he
      have hnil := hz.spec.2
      rw [hik,hnil] at hread
      exact absurd hread List.not_mem_nil
  · obtain ⟨hsame,rfl⟩ := hz.results results he.symm
    rw [hsame] at hentry
    refine (mem_listResults_zone hentry (hinv.wf _ _ hentry)).mpr ⟨?_,hzone⟩
    rwa [((hinv.wf _ _ hentry).result_id _ result hresult).1]

theorem ZoneStep.made {i : ι} {results : List MappingEntityResult}
    (hadded : (⟨.addResults scopeId results,.ok ()⟩ : MappingEvent)∈Pool.history next.trace i)
    {entry : MappingScopeCacheEntry} (hentry : next.world.scopes.get? scopeId=some entry)
    {result : MappingEntityResult} (hr : result∈results) :
    entry.results.get? result.id=some result := by
  rcases hz.mem.mp hadded with hold|⟨-,he⟩
  · obtain ⟨old,hget,hlater⟩ := hz.effect.later hentry
    exact hlater.results _ _ (hinv.made i results hold old hget result hr)
  · have heffect := hz.effect
    rw [←he] at heffect
    cases heffect with
    | quiet _ hresults => exact absurd rfl (hresults scopeId results)
    | made hold hentry' hrules hnew hresults =>
      rw [hentry] at hentry'
      cases hentry'
      rw [List.mem_singleton] at hr
      exact (hresults _ _).mpr (Or.inl ⟨by rw [hr]; rfl,hr⟩)

theorem ZoneStep.attached {i : ι} {operand : MappingScopeRuleOperand}
    (hadded : Attached scopeId (Pool.history next.trace i) operand)
    {entry : MappingScopeCacheEntry} (hentry : next.world.scopes.get? scopeId=some entry) :
    ∃ rule,entry.rules.get? operand.mappingScopeRuleId=some rule ∧
      operand∈rule.operands.getD [] := by
  rcases hz.mem.mp hadded with hold|⟨-,he⟩
  · obtain ⟨old,hget,hlater⟩ := hz.effect.later hentry
    obtain ⟨rule,hrule,hin⟩ := hinv.attached i operand hold old hget
    obtain ⟨stored,hstored,hsub⟩ := hlater.rules _ _ hrule
    exact ⟨stored,hstored,hsub hin⟩
  · have heffect := hz.effect
    rw [←he] at heffect
    cases heffect with
    | quiet _ _ hoperands => exact absurd rfl (hoperands scopeId operand)
    | attached hold hentry' hresults hrule hrules =>
      rw [hentry] at hentry'
      cases hentry'
      exact ⟨_,by rw [hrules,if_pos rfl],List.mem_append_right _ (List.mem_singleton_self _)⟩

/-- An unfinished request still knows every operand of its zone, since no other
request for it has added one. -/
theorem ZoneStep.own (halone : AddsAlone requests scopeId pool (some (k,event))) {i : ι}
    {scope : MappingScope} (hread : ScopeRead scopeId (Pool.history next.trace i) scope)
    (hlive : (next.tasks i).ended=false) {entry : MappingScopeCacheEntry}
    (hentry : next.world.scopes.get? scopeId=some entry) {rule : MappingScopeRule}
    (hrule : rule∈scope.rules.getD []) {stored : MappingScopeRule}
    (hstored : entry.rules.get? rule.id=some stored) {operand : MappingScopeRuleOperand}
    (ho : operand∈stored.operands.getD []) (hcarries : Carries entry (requests i) operand) :
    operand∈rule.operands.getD [] ∨ (operand.mappingScopeRuleId=rule.id ∧
      Attached scopeId (Pool.history next.trace i) operand) := by
  rcases hz.mem.mp hread with hscope|⟨-,he⟩
  · have hbusy := hz.ended i hlive
    obtain ⟨old,hold,hlater⟩ := hz.effect.later hentry
    -- operands that were there before are known already
    have hbefore : ∀ before,old.rules.get? rule.id=some before →
        operand∈before.operands.getD [] → operand∈rule.operands.getD [] ∨
        (operand.mappingScopeRuleId=rule.id ∧
          Attached scopeId (Pool.history next.trace i) operand) := by
      intro before hb hin
      have hcarried := hcarries.of_later hlater (hinv.refs old hold rule.id before hb operand hin)
      have hown := hinv.own i scope hscope hbusy old hold rule hrule before hb operand hin hcarried
      exact hown.imp_right fun h => ⟨h.1,hz.mem.mpr (Or.inl h.2)⟩
    have heffect := hz.effect
    cases heffect with
    | quiet hsame =>
      rw [hsame,hold] at hentry
      cases hentry
      exact hbefore stored hstored ho
    | made hold' hentry' hrules =>
      rw [hold] at hold'
      cases hold'
      rw [hentry] at hentry'
      cases hentry'
      exact hbefore stored (hrules▸hstored) ho
    | @attached added _ _ found hold' hentry' hresults hfound hrules =>
      rw [hold] at hold'
      cases hold'
      rw [hentry] at hentry'
      cases hentry'
      rw [hrules] at hstored
      by_cases hid : rule.id=added.mappingScopeRuleId
      · rw [if_pos hid] at hstored
        cases hstored
        rcases List.mem_append.mp ho with ho|ho
        · exact hbefore found (by rw [hid,hfound]) ho
        · rw [List.mem_singleton.mp ho] at hcarries ⊢
          by_cases hik : i=k
          · exact Or.inr ⟨hid.symm,hz.mem.mpr (Or.inr ⟨hik,rfl⟩)⟩
          · -- another request for the zone would have had to wait
            obtain ⟨hrole,result,hresult,hstands⟩ := hz.points hinv rfl hold
            obtain ⟨hrole',result',hresult',hstands'⟩ := hcarries
            rw [hresults,hresult,Option.some.injEq] at hresult'
            have hzone := hstands.selected.symm.trans (hresult'▸hstands'.selected)
            have hrequest : requests i=requests k := ZoneRequest.eq_of_role
              (hrole'.symm.trans hrole) (Option.some.inj hzone).symm
            exact absurd hscope ((halone k _ rfl i hik hbusy).1 ⟨_,_,rfl⟩ hrequest scope)
      · rw [if_neg hid] at hstored
        exact hbefore stored hstored ho
  · obtain ⟨hsame,old,hold,rfl⟩ := hz.scope scope he.symm
    rw [hsame,hold] at hentry
    cases hentry
    rw [(mem_materializeScope (hinv.wf _ _ hold)).mp hrule] at hstored
    cases hstored
    exact Or.inl ho

/-- An unfinished request still knows every manual result of its zone. -/
theorem ZoneStep.manuals (halone : AddsAlone requests scopeId pool (some (k,event))) {i : ι}
    {results : List MappingEntityResult}
    (hread : ResultsRead scopeId (Pool.history next.trace i) results)
    (hnone : (Pool.history next.trace i).any addsResults=false)
    (hlive : (next.tasks i).ended=false) {entry : MappingScopeCacheEntry}
    (hentry : next.world.scopes.get? scopeId=some entry) {resultId : ℕ}
    {result : MappingEntityResult} (hresult : entry.results.get? resultId=some result)
    (hmanual : Manual result) (hstands : StandsFor (requests i).zoneSdwanId result) :
    result∈results := by
  rcases hz.mem.mp hread with hlisted|⟨-,he⟩
  · have hbusy := hz.ended i hlive
    obtain ⟨hfirst,hother⟩ := hz.none_added hnone
    have hknown := hinv.manuals i results hlisted hfirst hbusy
    have heffect := hz.effect
    cases heffect with
    | quiet hsame => exact hknown entry (hsame▸hentry) resultId result hresult hmanual hstands
    | @made newId old _ hold hentry' hrules hnew hresults =>
      rw [hentry] at hentry'
      cases hentry'
      rcases (hresults resultId result).mp hresult with ⟨-,rfl⟩|hstored
      · have hik : i≠k := fun hik => hother ⟨hik,rfl⟩
        have hzone :=
          (standsFor_manual newId scopeId (requests k).zoneSdwanId).1.selected.symm.trans
          hstands.selected
        exact absurd hlisted
          ((halone k _ rfl i hik hbusy).2 rfl (Option.some.inj hzone).symm results)
      · exact hknown old hold resultId result hstored hmanual hstands
    | attached hold hentry' hresults =>
      rw [hentry] at hentry'
      cases hentry'
      exact hknown _ hold resultId result (hresults▸hresult) hmanual hstands
  · obtain ⟨hsame,rfl⟩ := hz.results results he.symm
    rw [hsame] at hentry
    refine (mem_listResults_zone hentry (hinv.wf _ _ hentry)).mpr ⟨?_,hstands.zone⟩
    rwa [((hinv.wf _ _ hentry).result_id _ result hresult).1]

/-- A manual result is made only where the scope has none for its zone. -/
theorem ZoneStep.once {entry : MappingScopeCacheEntry}
    (hentry : next.world.scopes.get? scopeId=some entry) : OneManual entry := by
  have heffect := hz.effect
  cases heffect with
  | quiet hsame => exact hinv.once entry (hsame▸hentry)
  | attached hold hentry' hresults =>
    rw [hentry] at hentry'
    cases hentry'
    have honce := hinv.once _ hold
    unfold OneManual at honce ⊢
    rwa [hresults]
  | @made newId old _ hold hentry' hrules hnew hresults =>
    rw [hentry] at hentry'
    cases hentry'
    -- the request saw every manual result of its zone, and there was none
    obtain ⟨-,hfirst,_,_,listed,_,-,-,hlisted,-,hnone⟩ := hz.spec
    have hfree : ∀ resultId result,old.results.get? resultId=some result → Manual result →
        ¬StandsFor (requests k).zoneSdwanId result := by
      intro resultId result hresult hmanual hstands
      have hin := hinv.manuals k listed hlisted hfirst hz.live old hold resultId result hresult
        hmanual hstands
      exact hnone result hin hstands hmanual
    have hzone : ∀ zoneSdwanId,StandsFor zoneSdwanId
        (MappingEntityResult.createZoneManuallyAssigned newId scopeId (requests k).zoneSdwanId) →
        zoneSdwanId=(requests k).zoneSdwanId :=
      fun zoneSdwanId h => (Option.some.inj h.selected).symm
    intro zoneSdwanId resultId result otherId other hresult hother hmanual hmanual' hstands hstands'
    rcases (hresults resultId result).mp hresult with ⟨hid,rfl⟩|hresult
    · rcases (hresults otherId other).mp hother with ⟨hid',-⟩|hother
      · rw [hid,hid']
      · rw [hzone zoneSdwanId hstands] at hstands'
        exact absurd hstands' (hfree otherId other hother hmanual')
    · rcases (hresults otherId other).mp hother with ⟨-,rfl⟩|hother
      · rw [hzone zoneSdwanId hstands'] at hstands
        exact absurd hstands (hfree resultId result hresult hmanual)
      · exact hinv.once old hold zoneSdwanId resultId result otherId other hresult hother hmanual
          hmanual' hstands hstands'

end Steps

/-- Scopes that expire take nothing with them. -/
theorem ZonesInv.expires (hinv : ZonesInv requests scopeId pool) (htrace : next.trace=pool.trace)
    (htasks : next.tasks=pool.tasks)
    (hsound : next.SoundEach (fun _ => ZoneAnswer) (fun i => ZoneSpec (requests i) scopeId)
      fun i => ZoneDone (requests i) scopeId)
    (h : Expires pool.world next.world) : ZonesInv requests scopeId next := by
  have hback := h.2 scopeId
  constructor
  case sound => exact hsound
  case wf => exact fun otherId entry he => hinv.wf otherId entry (h.2 otherId entry he)
  case refs => exact fun entry he => hinv.refs entry (hback entry he)
  case once => exact fun entry he => hinv.once entry (hback entry he)
  case copies =>
    rw [htrace]
    exact fun i scope hread entry he => hinv.copies i scope hread entry (hback entry he)
  case listed =>
    rw [htrace]
    exact fun i results hread entry he => hinv.listed i results hread entry (hback entry he)
  case covers =>
    rw [htrace]
    exact fun i scope results hscope hread entry he =>
      hinv.covers i scope results hscope hread entry (hback entry he)
  case made =>
    rw [htrace]
    exact fun i results hadded entry he => hinv.made i results hadded entry (hback entry he)
  case attached =>
    rw [htrace]
    exact fun i operand hadded entry he => hinv.attached i operand hadded entry (hback entry he)
  case own =>
    rw [htrace,htasks]
    exact fun i scope hread hlive entry he => hinv.own i scope hread hlive entry (hback entry he)
  case manuals =>
    rw [htrace,htasks]
    exact fun i results hread hnone hlive entry he =>
      hinv.manuals i results hread hnone hlive entry (hback entry he)

/-- One operation of one request, where it adds alone, or an expiry keeps all of it. -/
theorem ZonesInv.step (hinv : ZonesInv requests scopeId pool) {label : Option (ι × MappingEvent)}
    (halone : AddsAlone requests scopeId pool label)
    (hstep : Pool.Step zoneHandles Expires pool label next) : ZonesInv requests scopeId next := by
  cases label with
  | none =>
    have hsound := hinv.sound.world hstep
    cases hstep with
    | world hothers => exact hinv.expires rfl rfl hsound hothers
  | some entry =>
    obtain ⟨k,event⟩ := entry
    obtain ⟨hz,hsound⟩ := hinv.zoneStep hstep
    constructor
    case sound => exact hsound
    case wf => exact scopesWf_of_scopeHandles hinv.wf hstep.trace_eq.2.1.1
    case refs => exact fun entry he => hz.refs hinv he
    case once => exact fun entry he => hz.once hinv he
    case copies => exact fun i scope hread entry he => hz.copies hinv hread he
    case listed => exact fun i results hread entry he result hr => hz.listed hinv hread he hr
    case covers =>
      exact fun i scope results hscope hread entry he rule hr operand ho result hresult hzone =>
        hz.covers hinv hscope hread he hr ho hresult hzone
    case made => exact fun i results hadded entry he result hr => hz.made hinv hadded he hr
    case attached => exact fun i operand hadded entry he => hz.attached hinv hadded he
    case own =>
      exact fun i scope hread hlive entry he rule hr stored hs operand ho hcarries =>
        hz.own hinv halone hread hlive he hr hs ho hcarries
    case manuals =>
      exact fun i results hread hnone hlive entry he resultId result hresult hmanual hstands =>
        hz.manuals hinv halone hread hnone hlive he hresult hmanual hstands

/-- A scope whose operands point at its results, without two manual results for a zone. -/
structure ZoneReady (scopeId : ℕ) (world : ScopeWorld) : Prop where
  /-- Scopes, rules and results lie under their numbers. -/
  wf : ScopesWf world.scopes
  /-- The scope is consistent. -/
  ok : ∀ entry,world.scopes.get? scopeId=some entry → ScopeOk entry
  /-- No zone has two manual results. -/
  once : ∀ entry,world.scopes.get? scopeId=some entry → OneManual entry

/-- Before any step nothing was read or added. -/
theorem zonesInv_start {world : ScopeWorld} (hready : ZoneReady scopeId world) :
    ZonesInv requests scopeId ⟨world,fun i => (requests i).serve scopeId,[]⟩ := by
  constructor
  case sound => exact fun i => serve_sound (requests i) scopeId
  case wf => exact hready.wf
  case refs => exact fun entry he => (hready.ok entry he).operands
  case once => exact hready.once
  case copies => exact fun i scope h => absurd h List.not_mem_nil
  case listed => exact fun i results h => absurd h List.not_mem_nil
  case covers => exact fun i scope results h => absurd h List.not_mem_nil
  case made => exact fun i results h => absurd h List.not_mem_nil
  case attached => exact fun i operand h => absurd h List.not_mem_nil
  case own => exact fun i scope h => absurd h List.not_mem_nil
  case manuals => exact fun i results h => absurd h List.not_mem_nil

/-- A request that returned has its zone on every rule. -/
theorem ZonesInv.hasZone (hinv : ZonesInv requests scopeId pool) {i : ι}
    {result : MappingEntityResult × List MappingScopeRuleOperand}
    (hdone : pool.tasks i=.done (.ok result)) {entry : MappingScopeCacheEntry}
    (hentry : pool.world.scopes.get? scopeId=some entry) {ruleId : ℕ} {rule : MappingScopeRule}
    (hrule : entry.rules.get? ruleId=some rule) : HasZone entry (requests i) rule := by
  have hsound := hinv.sound i
  rw [hdone] at hsound
  obtain ⟨scope,listed,hscope,hlisted,hattached⟩ := hsound
  have hcopy := hinv.copies i scope hscope entry hentry
  obtain ⟨copy,hread,rfl⟩ := hcopy.complete ruleId rule hrule
  by_cases hlacks : Lacks (requests i) scope listed copy
  · -- the request attached an operand to the rule
    obtain ⟨operand,ho,hid,hrole,hpoints⟩ := hattached copy hlacks
    obtain ⟨stored,hstored,hin⟩ := hinv.attached i operand ho entry hentry
    rw [hid,hrule] at hstored
    cases hstored
    exact ⟨operand,hin,hrole,hinv.points hentry hlisted hpoints⟩
  · -- the copy of the rule had the zone already
    have hhad : ∃ operand∈copy.operands.getD [],operand.role=(requests i).role ∧
        ∃ result∈listed,StandsFor (requests i).zoneSdwanId result ∧
          operand.mappingEntityResultId=result.id := by
      by_contra hnone
      refine hlacks ⟨hread,fun operand ho hrole result hr hstands hid => hnone ?_⟩
      exact ⟨operand,ho,hrole,result,hr,hstands,hid⟩
    obtain ⟨operand,ho,hrole,result,hr,hstands,hid⟩ := hhad
    obtain ⟨stored,hstored,hsub⟩ := hcopy.rules copy hread
    rw [hrule] at hstored
    cases hstored
    exact ⟨operand,hsub ho,hrole,result,
      by rw [hid,hinv.listed i listed hlisted entry hentry result hr],hstands⟩

/-- What zone assignments guarantee of the states they reach. -/
structure ZonesAssigned (requests : ι → ZoneRequest) (scopeId : ℕ) (pool : ZonePool ι) : Prop where
  /-- A request that returned has its zone on every rule. -/
  everywhere : ∀ i result,pool.tasks i=.done (.ok result) →
    ∀ entry,pool.world.scopes.get? scopeId=some entry →
    ∀ ruleId rule,entry.rules.get? ruleId=some rule → HasZone entry (requests i) rule
  /-- No request gives a rule a zone the rule has. -/
  no_second : ∀ i event next,Pool.Step zoneHandles Expires pool (some (i,event)) next →
    ∀ operand,event.op=.addRuleOperand scopeId operand →
    ∀ entry,pool.world.scopes.get? scopeId=some entry →
    ∀ rule,entry.rules.get? operand.mappingScopeRuleId=some rule →
      ¬HasZone entry (requests i) rule
  /-- No zone has two manual results. -/
  one_manual : ∀ entry,pool.world.scopes.get? scopeId=some entry → OneManual entry
  /-- A request that returned changes nothing when it is repeated. -/
  repeated : ∀ i result,pool.tasks i=.done (.ok result) → ∀ events last outcome,
    Async.Runs zoneHandles pool.world ((requests i).serve scopeId) events last outcome →
    last.scopes=pool.world.scopes

/-- Any number of zone assignments, with their operations in any order, give
every rule each zone once, as long as nothing is added for a zone while another
request for it works from an older copy. -/
theorem zonesAssigned_of_addsAlone {world : ScopeWorld} (hready : ZoneReady scopeId world)
    (hrun : Pool.Run zoneHandles Expires (AddsAlone requests scopeId)
      ⟨world,fun i => (requests i).serve scopeId,[]⟩ pool) :
        ZonesAssigned requests scopeId pool := by
  have hinv : ZonesInv requests scopeId pool := hrun.inv (zonesInv_start hready)
    fun _ _ _ hinv halone hstep => hinv.step halone hstep
  have hzone : ∀ i result,pool.tasks i=.done (.ok result) →
      ∀ entry,pool.world.scopes.get? scopeId=some entry →
      ∀ ruleId rule,entry.rules.get? ruleId=some rule → HasZone entry (requests i) rule :=
    fun i result hdone entry hentry ruleId rule hrule => hinv.hasZone hdone hentry hrule
  constructor
  case everywhere => exact hzone
  case no_second =>
    intro i event next hstep operand hop entry hentry rule hrule
    have hz := (hinv.zoneStep hstep).1
    have hspec := hz.spec
    rw [hop] at hspec
    exact hinv.lacks hentry hz.live hspec hrule
  case one_manual => exact hinv.once
  case repeated =>
    exact fun i result hdone events last outcome hruns =>
      scopes_eq_of_hasZone hinv.wf (hzone i result hdone) hruns

end Interleaving

section Twins

open MappingReaderIds

/-- The sample controller with two more zones. -/
def zonesCatalog : SdwanFullCatalog :=
  { PlanStaleness.branchCatalog with
    zones := [⟨3,3,"Inside",.lan⟩,⟨4,4,"Outside",.wan⟩,⟨5,5,"Guests",.lan⟩] }

/-- The controller of the sample looks zones up by their number. -/
theorem zoneHandles_siteScopes (world : ScopeWorld) (op : MappingOp) :
    zoneHandles world op (siteScopes twinStore zonesCatalog world op).1
      (siteScopes twinStore zonesCatalog world op).2 := by
  refine ⟨scopeHandles_siteScopes twinStore zonesCatalog world op,?_⟩
  cases op with
  | getZone zoneId =>
    have hanswer : (siteScopes twinStore zonesCatalog world (.getZone zoneId)).1=
        .ok (zonesCatalog.zones.find? fun zone => decide (zone.id=zoneId)) := rfl
    rw [hanswer]
    cases hfound : zonesCatalog.zones.find? fun zone => decide (zone.id=zoneId) with
    | none => exact trivial
    | some zone =>
      have hid : decide (zone.id=zoneId)=true :=
        List.find?_some (p:=fun other : SdwanZone => decide (other.id=zoneId)) hfound
      exact of_decide_eq_true hid
  | _ => exact trivial

/-- The mapped rule may be given zones. -/
theorem zoneReady_twinMapped : ZoneReady 100 twinMapped.world := by
  have hinv : ScopesInv twinMapped := twinMapped_run.inv
    (@scopesInv_start Unit _ asciiUnicode PlanStaleness.firstBytes twinRequests ∅)
    fun _ _ _ h _ hstep => h.step hstep
  have hmapped : ((twinMapped.world.scopes.get? 100).all fun entry =>
      entry.results.values.all fun result =>
        !(decide (result.canonicalZoneId=none) &&
          decide (result.canonicalObjectId=none)))=true := by
    decide +kernel
  refine ⟨hinv.wf,fun entry he => (hinv.ok 100 entry he).1,fun entry he => ?_⟩
  rw [he,Option.all_some,List.all_eq_true] at hmapped
  intro zoneSdwanId resultId result otherId other hresult _ hmanual
  have hnone := hmapped result (Dict.mem_values_of_get? hresult)
  simp [hmanual.1,hmanual.2] at hnone

/-- Zone assignments of the sample, in the given order of steps. -/
def twinZones (requests : Bool → ZoneRequest) (order : List Bool) : ZonePool Bool :=
  order.foldl (Pool.advance (siteScopes twinStore zonesCatalog))
    ⟨twinMapped.world,fun i => (requests i).serve 100,[]⟩

/-- Twice the same request. -/
def sameZone (_ : Bool) : ZoneRequest := ⟨.srcZone,4⟩

/-- The first request runs to its end. -/
@[irreducible] def twinFirst : ZonePool Bool := twinZones sameZone (List.replicate 12 false)

/-- After it the second one does. -/
@[irreducible] def twinOneByOne : ZonePool Bool :=
  (List.replicate 12 true).foldl (Pool.advance (siteScopes twinStore zonesCatalog)) twinFirst

/-- A request that ended before the second one begins leaves nothing to add
twice: the rule has the zone, and has it once. -/
theorem zonesAssigned_twin : ZonesAssigned sameZone 100 twinOneByOne ∧
    (∀ i,(twinOneByOne.tasks i).ended=true) ∧
    twinOneByOne.world.scopes=twinFirst.world.scopes ∧
    (twinOneByOne.world.scopes.get? 100).map (fun entry => entry.rules.values.map fun rule =>
      (rule.operands.getD []).countP fun operand => decide (Carries entry (sameZone true) operand))=
        some [1] := by
  have hfirst : Pool.Run zoneHandles Expires (AddsAlone sameZone 100)
      ⟨twinMapped.world,fun i => (sameZone i).serve 100,[]⟩ twinFirst := by
    unfold twinFirst twinZones
    exact Pool.run_alone zoneHandles_siteScopes (fun _ => addsAlone_of_idle) .start
      (fun _ _ => Or.inl rfl) 12
  have hended : (twinFirst.tasks false).ended=true := by decide +kernel
  have hrun : Pool.Run zoneHandles Expires (AddsAlone sameZone 100)
      ⟨twinMapped.world,fun i => (sameZone i).serve 100,[]⟩ twinOneByOne := by
    unfold twinOneByOne
    refine Pool.run_alone zoneHandles_siteScopes (fun _ => addsAlone_of_idle) hfirst
      (fun j hj => Or.inr ?_) 12
    rw [Bool.eq_false_of_not_eq_true hj]
    exact hended
  exact ⟨zonesAssigned_of_addsAlone zoneReady_twinMapped hrun,by decide +kernel,by decide +kernel,
    by decide +kernel⟩

/-- Both requests read the scope, the first one runs to its end, and the second
one is about to add its operand. -/
@[irreducible] def twinStale : ZonePool Bool :=
  twinZones sameZone ([false,true]++List.replicate 8 false++List.replicate 5 true)

/-- The operand a request is about to add. -/
def pendingOperand (pool : ZonePool Bool) (i : Bool) : Option MappingScopeRuleOperand :=
  match pool.tasks i with
  | .await (.addRuleOperand 100 operand) _ => some operand
  | _ => none

/-- The rule already has the zone of the operand that is about to be added. -/
theorem pendingOperand_twinStale :
    ∃ operand entry rule,pendingOperand twinStale true=some operand ∧
      twinStale.world.scopes.get? 100=some entry ∧
      entry.rules.get? operand.mappingScopeRuleId=some rule ∧
      HasZone entry (sameZone true) rule := by
  have hchecked : ((pendingOperand twinStale true).any fun operand =>
      (twinStale.world.scopes.get? 100).any fun entry =>
        (entry.rules.get? operand.mappingScopeRuleId).any fun rule =>
          decide (HasZone entry (sameZone true) rule))=true := by
    decide +kernel
  obtain ⟨operand,hoperand,hentries⟩ := (Option.any_eq_true _ _).mp hchecked
  obtain ⟨entry,hentry,hrules⟩ := (Option.any_eq_true _ _).mp hentries
  obtain ⟨rule,hrule,hzone⟩ := (Option.any_eq_true _ _).mp hrules
  exact ⟨operand,entry,rule,hoperand,hentry,hrule,of_decide_eq_true hzone⟩

/-- Two requests that both read the scope before either adds its operand give
the rule the zone twice. -/
theorem zoneAssignedTwice_twin : ZoneReady 100 twinMapped.world ∧
    Pool.Run zoneHandles Expires (fun _ _ => True)
      ⟨twinMapped.world,fun i => (sameZone i).serve 100,[]⟩ twinStale ∧
    ¬ZonesAssigned sameZone 100 twinStale := by
  refine ⟨zoneReady_twinMapped,?_,fun h => ?_⟩
  · unfold twinStale twinZones
    exact Pool.run_schedule zoneHandles_siteScopes (fun _ _ => trivial) _ _
  · obtain ⟨operand,entry,rule,hpending,hentry,hrule,hzone⟩ := pendingOperand_twinStale
    unfold pendingOperand at hpending
    split at hpending
    next other resume htask =>
      cases hpending
      have hstep : Pool.Step zoneHandles Expires twinStale _ _ := .task htask
        (zoneHandles_siteScopes twinStale.world (.addRuleOperand 100 operand))
      exact h.no_second _ _ _ hstep operand rfl entry hentry rule hrule hzone
    next => cases hpending

end Twins

end NspMigrator.MappingZoneAssignment
