import Mathlib
import NspMigrator.MappingScopeLinks

/-!
# Shown scopes are the scopes that are read

However requests on scopes interleave, and whatever expires, a scope with rules
that is stored can be shown, and shows all its rules as mapped exactly when it
can be read for a plan. Then both give every slot the same objects.
-/

namespace NspMigrator.MappingProjectionRuns

open PyAsync PyDict PyText PyExcept SdwanModels ExecuteRepository MappingEntities
open MappingRepository MappingReader MappingSchemas MappingObjects MappingUseCases
open MigrationRequests CanonicalReader MappingProjection MappingProjectionRows MappingScopeRead
open MappingScopeSpec MappingScopeInvariant MappingScopeSources MappingScopeLinks
open MappingReaderIds MappingProjectionAgreement

/-- What the operations do to the scopes, the canonical rules being read from one store. -/
def readHandles (snapshots : SnapshotStore) (world : ScopeWorld) (op : MappingOp)
    (answer : Except PyException (MappingAns op)) (next : ScopeWorld) : Prop :=
  scopeHandles world op answer next ∧ ReadsFrom snapshots ⟨op,answer⟩

section Interleaving

variable {ι : Type} [DecidableEq ι] [PyUnicode]

/-- Everything that is stored of a scope comes from the selection of the request
that stored it. -/
structure SourcesInv (snapshots : SnapshotStore) (requests : ι → MappingRequest)
    (pool : ScopePool ι) : Prop where
  /-- Every request keeps to what its source says. -/
  follows : pool.SoundEach (fun _ => ReadsFrom snapshots)
    (fun i => SourceSpec snapshots (requests i)) (fun _ _ _ => True)
  /-- Stored results name an entity of their own kind. -/
  refs : ∀ scopeId entry,pool.world.scopes.get? scopeId=some entry → ∀ resultId result,
    entry.results.get? resultId=some result → RefsOfKind result
  /-- So do the results that a request has seen. -/
  seen : ∀ i scopeId result,Seen (Pool.history pool.trace i) scopeId result → RefsOfKind result
  /-- A stored scope comes from the selection of the request that stored it. -/
  sourced : ∀ scopeId entry,pool.world.scopes.get? scopeId=some entry → ∃ i command,
    Stored (Pool.history pool.trace i) scopeId ∧ requests i=.mapCanonicalToSdwan command ∧
    Sourced snapshots command entry
  /-- It has no rules before that request attaches them. -/
  ruleless : ∀ i scopeId entry,Stored (Pool.history pool.trace i) scopeId →
    (Pool.history pool.trace i).any attachesRules=false →
    pool.world.scopes.get? scopeId=some entry → Ruleless entry

variable {snapshots : SnapshotStore} {requests : ι → MappingRequest} {pool next : ScopePool ι}
  {k : ι} {op : MappingOp} {scopeId : ℕ} {old entry : MappingScopeCacheEntry}

omit [PyUnicode] in
/-- The request that stored a scope is the only one. -/
theorem owner_unique (hinv : ScopesInv pool) {i : ι} {command other : MapCanonicalToSdwanCommand}
    (hi : Stored (Pool.history pool.trace i) scopeId)
    (hk : Stored (Pool.history pool.trace k) scopeId)
    (hcommand : requests i=.mapCanonicalToSdwan command)
    (hother : requests k=.mapCanonicalToSdwan other) : command=other := by
  have hik : i=k := hinv.drawn_once i k scopeId (hinv.drew i scopeId hi) (hinv.drew k scopeId hk)
  rw [hik,hother] at hcommand
  cases hcommand
  rfl

/-- A result is saved as a selection of the one that is stored. -/
theorem saved_of_spec (hinv : ScopesInv pool) (hsrc : SourcesInv snapshots requests pool)
    {result current : MappingEntityResult}
    (hspec : ScopeSpec (Pool.history pool.trace k) (.saveResult result))
    (hold : pool.world.scopes.get? result.mappingScopeId=some old)
    (hcurrent : old.results.get? result.id=some current) :
    ∃ seen method sdwanEntityId,result=seen.select method sdwanEntityId ∧ RefsOfKind seen ∧
      SameEntity seen current := by
  obtain ⟨seenId,seen,method,sdwanEntityId,hseen,rfl⟩ := hspec
  obtain ⟨-,rfl,-,hthere⟩ := hinv.seen k seenId seen hseen
  obtain ⟨stored,hstored,hsame⟩ := hthere old hold
  have heq : stored=current := Option.some.inj (hstored.symm.trans hcurrent)
  exact ⟨seen,method,sdwanEntityId,rfl,hsrc.seen k _ seen hseen,heq▸hsame⟩

/-- Results keep references of their kind, and keep standing for their entities. -/
theorem results_of_changes (hinv : ScopesInv pool) (hsrc : SourcesInv snapshots requests pool)
    (hspec : ScopeSpec (Pool.history pool.trace k) op)
    (hsource : SourceSpec snapshots (requests k) (Pool.history pool.trace k) op)
    (hold : pool.world.scopes.get? scopeId=some old) (h : Changes op scopeId old entry) :
    (∀ resultId result,entry.results.get? resultId=some result → RefsOfKind result) ∧
      Grows old entry := by
  cases h with
  | same hscope => exact ⟨hsrc.refs scopeId old hold,grows_of_results rfl⟩
  | attached hop => exact ⟨hsrc.refs scopeId old hold,grows_of_results rfl⟩
  | operand hop hrule => exact ⟨hsrc.refs scopeId old hold,grows_of_results rfl⟩
  | @added results added hop hadded =>
    subst hop
    refine ⟨fun resultId result hr => ?_,fun resultId result hr =>
      ⟨result,(hadded resultId result).mpr (Or.inr hr),rfl,rfl⟩⟩
    rcases (hadded resultId result).mp hr with ⟨hin,-⟩|hbefore
    · rcases hsource with ⟨id,sdwanZoneId,rfl⟩|⟨command,entities,-,hmaps⟩
      · rw [List.mem_singleton.mp hin]
        exact Or.inl ⟨rfl,rfl⟩
      · exact (origin_of_maps hmaps hin).1
    · exact hsrc.refs scopeId old hold resultId result hbefore
  | @saved result current written hop hscope hcurrent hwritten =>
    subst hop hscope
    obtain ⟨seen,method,sdwanEntityId,rfl,hrefs,hsame⟩ :=
      saved_of_spec hinv hsrc hspec hold hcurrent
    refine ⟨fun resultId stored hs => ?_,fun resultId stored hs => ?_⟩
    · rw [hwritten] at hs
      by_cases hid : resultId=(seen.select method sdwanEntityId).id
      · rw [if_pos hid,Option.some.injEq] at hs
        rw [←hs]
        exact refsOfKind_select hrefs method sdwanEntityId
      · rw [if_neg hid] at hs
        exact hsrc.refs _ old hold resultId stored hs
    · by_cases hid : resultId=(seen.select method sdwanEntityId).id
      · have heq : current=stored := Option.some.inj (hcurrent.symm.trans (hid▸hs))
        refine ⟨_,by rw [hwritten,if_pos hid],?_⟩
        rw [←heq]
        exact ⟨hsame.1.symm,hsame.2.symm⟩
      · exact ⟨stored,by rw [hwritten,if_neg hid,hs],rfl,rfl⟩

/-- A scope without rules gets them only from the request that stored it. -/
theorem ruleless_of_changes
    (hsource : SourceSpec snapshots (requests k) (Pool.history pool.trace k) op)
    (h : Changes op scopeId old entry) (hnone : Ruleless old) :
    Ruleless entry ∨ Stored (Pool.history pool.trace k) scopeId ∧
      ∀ answer,attachesRules ⟨op,answer⟩=true := by
  cases h with
  | same hscope => exact Or.inl hnone
  | added hop hadded => exact Or.inl hnone
  | saved hop hscope hcurrent hwritten => exact Or.inl hnone
  | attached hop =>
    subst hop
    exact Or.inr ⟨hsource.1,fun _ => rfl⟩
  | operand hop hrule =>
    rw [hnone] at hrule
    cases hrule

/-- What is stored of a scope keeps coming from its selection. -/
theorem sourced_of_changes (hinv : ScopesInv pool) (hsrc : SourcesInv snapshots requests pool)
    (hspec : ScopeSpec (Pool.history pool.trace k) op)
    (hsource : SourceSpec snapshots (requests k) (Pool.history pool.trace k) op)
    (hold : pool.world.scopes.get? scopeId=some old) (hwf : ScopeEntryWf scopeId entry)
    (h : Changes op scopeId old entry) {i : ι} {command : MapCanonicalToSdwanCommand}
    (hi : Stored (Pool.history pool.trace i) scopeId)
    (hcommand : requests i=.mapCanonicalToSdwan command)
    (hsourced : Sourced snapshots command old) : Sourced snapshots command entry := by
  obtain ⟨hrefs,hgrows⟩ := results_of_changes hinv hsrc hspec hsource hold h
  have holdWf := hinv.wf scopeId old hold
  have holdRefs := hsrc.refs scopeId old hold
  -- while the rules stay, they stay linked
  have hkept : entry.rules=old.rules → Ruleless entry ∨
      ∃ entities canonicalRules addrs services,
        RulesLinked snapshots command entry entities canonicalRules addrs services := by
    intro hrules
    rcases hsourced.rules with hnone|⟨entities,canonicalRules,addrs,services,hlinked⟩
    · exact Or.inl fun ruleId => by rw [hrules,hnone]
    · exact Or.inr ⟨entities,canonicalRules,addrs,services,
        hlinked.grows hrules hgrows holdWf hwf holdRefs hrefs⟩
  cases h with
  | same hscope => exact ⟨hscope.trans hsourced.snapshot,hsourced.results,hkept rfl⟩
  | @added results added hop hadded =>
    subst hop
    refine ⟨hsourced.snapshot,fun resultId result hr => ?_,hkept rfl⟩
    rcases (hadded resultId result).mp hr with ⟨hin,-⟩|hbefore
    · rcases hsource with ⟨id,sdwanZoneId,rfl⟩|⟨other,entities,hk,hmaps⟩
      · rw [List.mem_singleton.mp hin]
        exact (origin_manual snapshots command id scopeId sdwanZoneId).2
      · rw [owner_unique hinv hi hk hcommand hmaps.request_eq]
        exact (origin_of_maps hmaps hin).2
    · exact hsourced.results resultId result hbefore
  | @saved result current written hop hscope hcurrent hwritten =>
    subst hop hscope
    obtain ⟨seen,method,sdwanEntityId,rfl,hseenRefs,hsame⟩ :=
      saved_of_spec hinv hsrc hspec hold hcurrent
    refine ⟨hsourced.snapshot,fun resultId stored hs => ?_,hkept rfl⟩
    rw [hwritten] at hs
    by_cases hid : resultId=(seen.select method sdwanEntityId).id
    · rw [if_pos hid,Option.some.injEq] at hs
      rw [←hs]
      exact (hsourced.results _ current hcurrent).select (holdRefs _ current hcurrent) hseenRefs
        hsame method sdwanEntityId
    · rw [if_neg hid] at hs
      exact hsourced.results resultId stored hs
  | @attached rules hop =>
    subst hop
    obtain ⟨hk,hfirst,other,entities,canonicalRules,results,firstRule,hmaps,hcanonical,hadded,
      hbuild⟩ := hsource
    have howner := owner_unique hinv hi hk hcommand hmaps.request_eq
    rw [←howner] at hmaps hcanonical
    refine ⟨hsourced.snapshot,hsourced.results,Or.inr ⟨entities,canonicalRules,?_⟩⟩
    refine rulesLinked_of_build hmaps hcanonical hbuild (fun result hr => ?_) holdWf
      (hsrc.ruleless k scopeId old hk hfirst hold)
    exact (hinv.seen k scopeId result ⟨_,hadded,rfl,hr⟩).2.2.2 old hold
  | @operand operand rule hop hrule =>
    subst hop
    obtain ⟨result,hseen,hid,hmanual⟩ := hsource
    obtain ⟨stored,hstored,hsame⟩ := (hinv.seen k scopeId result hseen).2.2.2 old hold
    rw [hid] at hstored
    have hstoredManual := isManual_of_sameEntity hsame (hsrc.seen k scopeId result hseen)
      (holdRefs _ stored hstored) hmanual
    refine ⟨hsourced.snapshot,hsourced.results,?_⟩
    rcases hsourced.rules with hnone|⟨entities,canonicalRules,addrs,services,hlinked⟩
    · rw [hnone] at hrule
      cases hrule
    · exact Or.inr ⟨entities,canonicalRules,addrs,services,
        hlinked.assign holdWf hrule hstored hstoredManual⟩

/-- One operation of one request, or an expiry, keeps where everything comes from. -/
theorem SourcesInv.step (hinv : ScopesInv pool) (hsrc : SourcesInv snapshots requests pool)
    (hnextInv : ScopesInv next) {label : Option (ι × MappingEvent)}
    (hstep : Pool.Step (readHandles snapshots) Expires pool label next) :
    SourcesInv snapshots requests next := by
  cases label with
  | none =>
    have hfollows := hsrc.follows.world hstep
    cases hstep with
    | world hothers =>
      obtain ⟨-,hscopes⟩ := hothers
      exact ⟨hfollows,fun scopeId entry he => hsrc.refs scopeId entry (hscopes scopeId entry he),
        hsrc.seen,fun scopeId entry he => hsrc.sourced scopeId entry (hscopes scopeId entry he),
        fun i scopeId entry hi hnone he =>
          hsrc.ruleless i scopeId entry hi hnone (hscopes scopeId entry he)⟩
  | some label =>
    obtain ⟨k,event⟩ := label
    obtain ⟨htrace,⟨hhandles,hreads⟩,-,-⟩ := hstep.trace_eq
    obtain ⟨hsource,hfollows⟩ := hsrc.follows.step hstep
    have hspec : ScopeSpec (Pool.history pool.trace k) event.op :=
      (hinv.sound.step hstep).1
    have hmem : ∀ i other,other∈Pool.history next.trace i ↔
        other∈Pool.history pool.trace i ∨ i=k ∧ other=event := by
      intro i other
      rw [htrace]
      exact Pool.mem_history_append
    have hstored : ∀ i scopeId,Stored (Pool.history pool.trace i) scopeId →
        Stored (Pool.history next.trace i) scopeId := by
      rintro i scopeId ⟨scope,hin,hid⟩
      exact ⟨scope,(hmem i _).mpr (Or.inl hin),hid⟩
    have hchanges : ∀ scopeId entry,next.world.scopes.get? scopeId=some entry →
        (∃ old,pool.world.scopes.get? scopeId=some old ∧ Changes event.op scopeId old entry) ∨
        ∃ scope,event=⟨.addScope scope,.ok ()⟩ ∧ scope.id=scopeId ∧
          entry=⟨scope,.empty,.empty⟩ := by
      intro scopeId entry he
      refine changes_of_handles hhandles (fun otherId results hop => ?_) he
      rw [hop] at hspec
      rcases hspec with ⟨id,sdwanZoneId,rfl⟩|⟨-,-,hbuilt⟩
      · exact List.nodup_singleton _
      · exact hbuilt.ids
    constructor
    case follows => exact hfollows hreads
    case refs =>
      intro scopeId entry he
      rcases hchanges scopeId entry he with ⟨old,hold,hchange⟩|⟨scope,-,-,rfl⟩
      · exact (results_of_changes hinv hsrc hspec hsource hold hchange).1
      · exact fun resultId result hr => by cases hr
    case seen =>
      rintro i scopeId result ⟨other,hin,hshows⟩
      rcases (hmem i other).mp hin with hin|⟨-,rfl⟩
      · exact hsrc.seen i scopeId result ⟨other,hin,hshows⟩
      rcases shows_of_handles hhandles hshows with ⟨entry,resultId,he,hr⟩|⟨results,rfl,hr⟩
      · exact hsrc.refs scopeId entry he resultId result hr
      · rcases hsource with ⟨id,sdwanZoneId,rfl⟩|⟨command,entities,-,hmaps⟩
        · rw [List.mem_singleton.mp hr]
          exact Or.inl ⟨rfl,rfl⟩
        · exact (origin_of_maps hmaps hr).1
    case sourced =>
      intro scopeId entry he
      rcases hchanges scopeId entry he with ⟨old,hold,hchange⟩|⟨scope,rfl,rfl,rfl⟩
      · obtain ⟨i,command,hi,hcommand,hsourced⟩ := hsrc.sourced scopeId old hold
        exact ⟨i,command,hstored i scopeId hi,hcommand,sourced_of_changes hinv hsrc hspec hsource
          hold (hnextInv.wf scopeId entry he) hchange hi hcommand hsourced⟩
      · obtain ⟨command,hcommand,hsnapshot⟩ := hsource
        exact ⟨k,command,⟨scope,(hmem k _).mpr (Or.inr ⟨rfl,rfl⟩),rfl⟩,hcommand,hsnapshot,
          fun resultId result hr => (by cases hr),Or.inl fun ruleId => rfl⟩
    case ruleless =>
      intro i scopeId entry hi hnone he
      have hsplit : (Pool.history pool.trace i).any attachesRules=false ∧
          ¬(i=k ∧ attachesRules event=true) := by
        rw [htrace,Pool.any_history_append,Bool.or_eq_false_iff] at hnone
        refine ⟨hnone.1,fun h => ?_⟩
        simp [h.1,h.2] at hnone
      rcases hchanges scopeId entry he with ⟨old,hold,hchange⟩|⟨scope,-,-,rfl⟩
      · obtain ⟨scope,hin,hid⟩ := hi
        rcases (hmem i _).mp hin with hin|⟨-,rfl⟩
        · have hbefore : Stored (Pool.history pool.trace i) scopeId := ⟨scope,hin,hid⟩
          have hnoRules := hsrc.ruleless i scopeId old hbefore hsplit.1 hold
          rcases ruleless_of_changes hsource hchange hnoRules with hdone|⟨hk,hattaches⟩
          · exact hdone
          · have hik : i=k := hinv.drawn_once i k scopeId (hinv.drew i scopeId hbefore)
              (hinv.drew k scopeId hk)
            exact absurd ⟨hik,hattaches event.answer⟩ hsplit.2
        · rw [←hid,none_of_addScope hhandles] at hold
          cases hold
      · exact fun ruleId => rfl

omit [PyUnicode] in
/-- A step that reads one store of snapshots is one of the scopes. -/
theorem scopeStep_of_readStep {label : Option (ι × MappingEvent)}
    (h : Pool.Step (readHandles snapshots) Expires pool label next) :
    Pool.Step scopeHandles Expires pool label next := by
  cases h with
  | task htask hop => exact .task htask hop.1
  | world hothers => exact .world hothers

/-- Requests that have done nothing yet, with an empty cache. -/
theorem sourcesInv_start (snapshots : SnapshotStore) (hashFunc : String → String)
    (requests : ι → MappingRequest) (drawn : Finset ℕ) :
    SourcesInv snapshots requests
      ⟨⟨.empty,drawn⟩,fun i => (requests i).serve hashFunc mappingServices,[]⟩ := by
  constructor
  case follows => exact fun i => serve_follows hashFunc (requests i)
  case refs => exact fun scopeId entry he => by cases he
  case seen => exact fun i scopeId result ⟨event,hin,_⟩ => absurd hin List.not_mem_nil
  case sourced => exact fun scopeId entry he => by cases he
  case ruleless => exact fun i scopeId entry ⟨scope,hin,_⟩ => absurd hin List.not_mem_nil

omit [PyUnicode] in
/-- The canonical rules of a scope are those of its selection, each once. -/
theorem canonicalIds_perm {command : MapCanonicalToSdwanCommand}
    {entities : CanonicalScopeEntities} {canonicalRules : List CanonicalRule}
    {addrs : MappingGroupIndex.CanonicalObjectIndex CanonicalAddrObject}
    {services : MappingGroupIndex.CanonicalObjectIndex CanonicalService}
    (h : RulesLinked snapshots command entry entities canonicalRules addrs services)
    (hwf : ScopeEntryWf scopeId entry) :
    command.canonicalRulesIds.Perm (canonicalIds entry) := by
  have hstored : ∀ rule∈rulesByPriority entry,entry.rules.get? rule.id=some rule :=
    fun rule hr => (mem_rulesByPriority hwf).mp hr
  have hnodup : (rulesByPriority entry).Nodup :=
    (MappingZoneAssignment.nodup_materializeScope hwf).of_map
  have honce : (canonicalIds entry).Nodup := by
    refine hnodup.map_on fun rule hr other ho hsame => ?_
    have hid := h.once _ rule _ other (hstored rule hr) (hstored other ho) hsame
    have hget := hstored rule hr
    rw [hid,hstored other ho] at hget
    exact (Option.some.inj hget).symm
  refine (h.read.rule_ids.symm).trans ((List.perm_ext_iff_of_nodup h.read.rules_nodup honce).mpr ?_)
  intro id
  rw [canonicalIds,List.mem_map,List.mem_map]
  constructor
  · rintro ⟨canonicalRule,hc,rfl⟩
    obtain ⟨ruleId,rule,hr,hsame⟩ := h.every canonicalRule hc
    refine ⟨rule,(mem_rulesByPriority hwf).mpr ?_,hsame⟩
    rw [hwf.rule_id ruleId rule hr,hr]
  · rintro ⟨rule,hr,rfl⟩
    obtain ⟨-,canonicalRule,hc,hid,-⟩ := h.linked _ rule (hstored rule hr)
    exact ⟨canonicalRule,hc,hid⟩

omit [PyUnicode] in
/-- A scope whose rules and results come from its selection can be shown. -/
theorem entryLinked_of_sourced {command : MapCanonicalToSdwanCommand}
    {entities : CanonicalScopeEntities} {canonicalRules : List CanonicalRule}
    {addrs : MappingGroupIndex.CanonicalObjectIndex CanonicalAddrObject}
    {services : MappingGroupIndex.CanonicalObjectIndex CanonicalService}
    (h : RulesLinked snapshots command entry entities canonicalRules addrs services)
    (hsnapshot : entry.scope.canonicalSnapshotId=command.canonicalSnapshotId)
    (horigin : ∀ resultId result,entry.results.get? resultId=some result →
      Origin snapshots command result)
    (hrefs : ∀ resultId result,entry.results.get? resultId=some result → RefsOfKind result)
    (hwf : ScopeEntryWf scopeId entry) (hok : ScopeOk entry) :
    EntryLinked snapshots entry entities canonicalRules addrs services := by
  have hperm := canonicalIds_perm h hwf
  constructor
  case entities_read =>
    rw [hsnapshot]
    exact getCanonicalScopeEntitiesData_perm hperm h.entities_read
  case rules_read =>
    rw [hsnapshot,←getCanonicalScopeRules_perm hperm]
    exact h.rules_read
  case addrs_index => exact h.read.addrs_index
  case services_index => exact h.read.services_index
  case canonical_nodup => exact h.read.rules_nodup
  case linked => exact h.linked
  case covered =>
    intro resultId result hr
    rcases horigin resultId result hr with ⟨-,hmatched⟩|⟨others,entity,hread,hentity,hmapped⟩
    · exact Or.inl hmatched
    rw [h.entities_read,Except.ok.injEq] at hread
    rw [←hread] at hmapped
    -- an operand of a canonical rule asks for the entity, and its rule has it
    obtain ⟨canonicalRule,hc,operand,ho,htype,hall⟩ := h.read.asked _ entity hmapped
    obtain ⟨ruleId,rule,hrule,hsame⟩ := h.every canonicalRule hc
    obtain ⟨-,other,hother,hid,hlinked⟩ := h.linked ruleId rule hrule
    have heq : other=canonicalRule :=
      List.inj_on_of_nodup_map h.read.rules_nodup hother hc (hid.trans hsame)
    rw [heq] at hlinked
    obtain ⟨ids,hids,-,htargets⟩ := hlinked.targets operand ho
    obtain ⟨found,⟨⟨foundId,hfound⟩,hkind,hfor⟩,own,hown,-,hpoint⟩ :=
      htargets entity (hall ids hids)
    have hone : foundId=resultId := hok.unique foundId found resultId result hfound hr
      (hkind.trans htype) entity hfor hentity
    refine Or.inr ⟨ruleId,rule,hrule,own,hown,?_⟩
    rw [hpoint,(hwf.result_id foundId found hfound).1,hone]
  case keyed =>
    intro resultId result hr
    rcases hrefs resultId result hr with ⟨htype,-⟩|⟨htype,-,hobject⟩
    · exact Or.inl htype
    · obtain ⟨objectId,hsome⟩ := Option.ne_none_iff_exists'.mp hobject
      refine Or.inr ⟨objectId,?_⟩
      rw [MappingEntityResult.canonicalEntityId,if_neg htype,hsome]

/-- However requests on scopes interleave and scopes expire, a stored scope without
rules is neither shown nor read. One with rules, whose objects the controller has,
is shown, with all rules mapped exactly when it can be read for a plan, and then
rule by rule and slot by slot with the objects that are read. -/
theorem shown_as_read (hashFunc : String → String) (drawn : Finset ℕ)
    (hrun : Pool.Run (readHandles snapshots) Expires (fun _ _ => True)
      ⟨⟨.empty,drawn⟩,fun i => (requests i).serve hashFunc mappingServices,[]⟩ pool)
    (hentry : pool.world.scopes.get? scopeId=some entry) {catalog : SdwanFullCatalog}
    (hselected : SelectionsIn catalog entry) :
    (rulesByPriority entry=[] →
      (∀ view,getMappingScopeRulesProjection pool.world.scopes snapshots catalog scopeId≠.ok view) ∧
      ∀ rules,getMappingScopeRules pool.world.scopes scopeId≠.ok rules) ∧
    (rulesByPriority entry≠[] → ∃ view,
      getMappingScopeRulesProjection pool.world.scopes snapshots catalog scopeId=.ok view ∧
      ViewAgrees view (getMappingScopeRules pool.world.scopes scopeId)) := by
  have hboth : ScopesInv pool ∧ SourcesInv snapshots requests pool := by
    refine hrun.inv (I:=fun pool => ScopesInv pool ∧ SourcesInv snapshots requests pool)
      ⟨scopesInv_start hashFunc requests drawn,
        sourcesInv_start snapshots hashFunc requests drawn⟩ ?_
    rintro reached label later ⟨hinv,hsrc⟩ - hstep
    have hnext := hinv.step (scopeStep_of_readStep hstep)
    exact ⟨hnext,hsrc.step hinv hnext hstep⟩
  obtain ⟨hinv,hsrc⟩ := hboth
  have hwf := hinv.wf scopeId entry hentry
  have hok := (hinv.ok scopeId entry hentry).1
  obtain ⟨i,command,-,-,hsourced⟩ := hsrc.sourced scopeId entry hentry
  constructor
  · intro hnone
    constructor
    · intro view hview
      rw [getMappingScopeRulesProjection,getScopeById,hentry,Option.map_some,materializeScope]
        at hview
      obtain ⟨rules,-,hview⟩ := bind_eq_ok.mp hview
      obtain ⟨entities,hread,-⟩ := bind_eq_ok.mp hview
      have hids : (entry.rules.values.insertionSort fun a b => a.priority≤b.priority).map
          (·.canonicalRuleId)=[] := by
        rw [rulesByPriority] at hnone
        rw [hnone,List.map_nil]
      rw [hids] at hread
      cases hread
    · intro rules hread
      have hready := (exists_getMappingScopeRules_iff hentry hwf hok
        fun ruleId rule hr => ?_).mp ⟨rules,hread⟩
      · exact hready.1 hnone
      · have hin : rule∈rulesByPriority entry :=
          (mem_rulesByPriority hwf).mpr (by rw [hwf.rule_id ruleId rule hr,hr])
        rw [hnone] at hin
        cases hin
  · intro hrules
    rcases hsourced.rules with hnone|⟨entities,canonicalRules,addrs,services,hlinked⟩
    · obtain ⟨rule,hr⟩ := List.exists_mem_of_ne_nil _ hrules
      have hget := (mem_rulesByPriority hwf).mp hr
      rw [hnone] at hget
      cases hget
    · exact viewAgrees hentry hwf hok (entryLinked_of_sourced hlinked hsourced.snapshot
        hsourced.results (hsrc.refs scopeId entry hentry) hwf hok) hlinked.read.zones_nodup
        hselected hrules

end Interleaving

section Twins

/-- The site reads its snapshots. -/
theorem readHandles_siteScopes (snapshots : SnapshotStore) (catalog : SdwanFullCatalog)
    (world : ScopeWorld) (op : MappingOp) :
    readHandles snapshots world op (siteScopes snapshots catalog world op).1
      (siteScopes snapshots catalog world op).2 := by
  refine ⟨scopeHandles_siteScopes snapshots catalog world op,?_⟩
  cases op with
  | getCanonicalScopeEntitiesData snapshotId ruleIds =>
    have hreads : ∀ answer,getCanonicalScopeEntitiesData snapshots snapshotId ruleIds=answer →
        ReadsFrom snapshots ⟨.getCanonicalScopeEntitiesData snapshotId ruleIds,answer⟩ := by
      intro answer hanswer
      cases answer with
      | error error => trivial
      | ok entities => exact hanswer
    exact hreads _ rfl
  | getCanonicalScopeRules snapshotId ruleIds =>
    have hreads : ∀ answer,getCanonicalScopeRules snapshots snapshotId ruleIds=answer →
        ReadsFrom snapshots ⟨.getCanonicalScopeRules snapshotId ruleIds,answer⟩ := by
      intro answer hanswer
      cases answer with
      | error error => trivial
      | ok rules => exact hanswer
    exact hreads _ rfl
  | _ => exact trivial

/-- The mapping of the sample is a run that reads its snapshots. -/
theorem twinMapped_reads :
    Pool.Run (readHandles twinStore) Expires (fun _ _ => True) twinPool twinMapped := by
  unfold twinMapped
  exact Pool.run_schedule (readHandles_siteScopes twinStore PlanStaleness.branchCatalog)
    (fun _ _ => trivial) (List.replicate 13 ()) twinPool

/-- What is checked of the sample when it is shown. -/
theorem twinMapped_entry :
    ∃ entry,twinMapped.world.scopes.get? 100=some entry ∧ rulesByPriority entry≠[] ∧
      SelectionsIn PlanStaleness.branchCatalog entry := by
  have hchecked : (twinMapped.world.scopes.get? 100).any (fun entry =>
      decide (rulesByPriority entry≠[]) && entry.results.values.all fun result =>
        result.selectedSdwanEntityId.all fun id =>
          decide (InCatalog PlanStaleness.branchCatalog result.entityType id))=true := by
    decide +kernel
  obtain ⟨entry,hentry,hall⟩ := (Option.any_eq_true _ _).mp hchecked
  rw [Bool.and_eq_true,decide_eq_true_eq,List.all_eq_true] at hall
  refine ⟨entry,hentry,hall.1,fun resultId result hr id hid => ?_⟩
  have hone := hall.2 result (Dict.mem_values_of_get? hr)
  rw [hid] at hone
  exact of_decide_eq_true hone

/-- The sample is shown as it is read. -/
theorem shown_as_read_twin :
    ∃ view,getMappingScopeRulesProjection twinMapped.world.scopes twinStore
        PlanStaleness.branchCatalog 100=.ok view ∧
      ViewAgrees view (getMappingScopeRules twinMapped.world.scopes 100) ∧
      ∃ rules,getMappingScopeRules twinMapped.world.scopes 100=.ok rules := by
  obtain ⟨entry,hentry,hrules,hselected⟩ := twinMapped_entry
  obtain ⟨rules,hread,-⟩ := twinMapped_read
  obtain ⟨view,hview,hagrees⟩ := (@shown_as_read Unit inferInstance asciiUnicode twinStore
    twinRequests twinMapped 100 entry PlanStaleness.firstBytes ∅ twinMapped_reads hentry
    PlanStaleness.branchCatalog hselected).2 hrules
  exact ⟨view,hview,hagrees,rules,hread⟩

end Twins

end NspMigrator.MappingProjectionRuns
