import Mathlib
import NspMigrator.FirstMatch
import NspMigrator.ExecutePlan

/-!
# Withholding matched rules

The controller evaluates the blocks in turn, each in position order, and the
first policy that matches a packet decides it. Plan rules that match an
existing policy are not created. The verdict on a packet stays what creating
every plan rule would give as long as the matched policy is reached without a
rule of the other action in between.
-/

namespace NspMigrator.ExecuteWithholding

open PyText FirstMatch SdwanModels ExecuteValues ExecuteRuleValues ExecuteCoverage
  ExecuteRulesComparer ExecuteMatchSoundness ExecuteGateway ExecutePlan

/-- A packet: its zones, the points its addresses stand for, and its service. -/
structure Packet where
  /-- The zone it comes from. -/
  srcZone : ℤ
  /-- The zone it goes to. -/
  dstZone : ℤ
  /-- What its source address is known as. -/
  srcPoints : List AddressPoint
  /-- What its destination address is known as. -/
  dstPoints : List AddressPoint
  /-- Its service. -/
  service : ServicePoint
  deriving DecidableEq

/-- What the controller decides about rules the comparison does not interpret. -/
structure SdwanSemantics where
  /-- Whether an empty operand list matches everything or nothing. -/
  emptyMatches : Bool
  /-- Whether a rule with operands that do not resolve matches a packet. -/
  unresolvedMatches : RuleBody → Packet → Bool

/-- Whether an operand field matches, given a test for its values. -/
def fieldMatches {α : Type} [DecidableEq α] (sem : SdwanSemantics) (values : Finset α)
    (test : α → Prop) [DecidablePred test] : Bool :=
  if values=∅ then sem.emptyMatches else decide (∃ value∈values,test value)

/-- Whether a rule matches a packet. Zones are the controller's own zones. -/
def bodyMatches [PyUnicode] (sem : SdwanSemantics) (resolver : RuleValuesResolver)
    (body : RuleBody) (packet : Packet) : Bool :=
  match resolver.resolveRule body with
  | .error _ => sem.unresolvedMatches body packet
  | .ok values =>
    fieldMatches sem body.srcZones.toFinset (fun zone => zone=packet.srcZone) &&
    (fieldMatches sem body.dstZones.toFinset (fun zone => zone=packet.dstZone) &&
    (fieldMatches sem values.normalized.srcAddresses
      (fun value => ∃ point∈packet.srcPoints,value.Denotes point) &&
    (fieldMatches sem values.normalized.dstAddresses
      (fun value => ∃ point∈packet.dstPoints,value.Denotes point) &&
    fieldMatches sem values.normalized.services (fun value => value.Denotes packet.service))))

/-- The order in which blocks are evaluated. -/
def blockRank : SdwanRulePriority → ℕ
  | .pre => 0
  | .localBlock => 1
  | .post => 2

section Evaluation

variable {ι : Type} (position : PolicyResponse ι → ℕ) (policies : List (PolicyResponse ι))

/-- The bodies of the policies in force of one block, in position order. -/
def blockBodies (block : SdwanRulePriority) : List RuleBody :=
  ((policies.filter fun policy => decide (policy.priority=block) && decide policy.InForce)
    |>.insertionSort fun p q => position p≤position q).map fun policy =>
      policy.toSdwanRule.toRuleBody

/-- What is evaluated up to the tail of a block. -/
def upTo : SdwanRulePriority → List RuleBody
  | .pre => blockBodies position policies .pre
  | .localBlock => blockBodies position policies .pre++blockBodies position policies .localBlock
  | .post => blockBodies position policies .pre++blockBodies position policies .localBlock++
      blockBodies position policies .post

/-- What is evaluated after the tail of a block. -/
def beyond : SdwanRulePriority → List RuleBody
  | .pre => blockBodies position policies .localBlock++blockBodies position policies .post
  | .localBlock => blockBodies position policies .post
  | .post => []

/-- All rules in evaluation order once new ones stand at the tail of a block. -/
def evaluationOrder (block : SdwanRulePriority) (created : List RuleBody) : List RuleBody :=
  upTo position policies block++created++beyond position policies block

/-- A policy in force is evaluated with its block. -/
theorem mem_blockBodies {policy : PolicyResponse ι} (hp : policy∈policies)
    (hforce : policy.InForce) :
    policy.toSdwanRule.toRuleBody∈blockBodies position policies policy.priority := by
  refine List.mem_map.mpr ⟨policy,?_,rfl⟩
  rw [List.mem_insertionSort,List.mem_filter]
  exact ⟨hp,by simp [hforce]⟩

/-- A policy in force is evaluated before or after the tail of a block, as the
ranks of its own block and that one tell. -/
theorem mem_upTo_or_beyond {policy : PolicyResponse ι} (hp : policy∈policies)
    (hforce : policy.InForce) (block : SdwanRulePriority) :
    (blockRank policy.priority≤blockRank block ∧
      policy.toSdwanRule.toRuleBody∈upTo position policies block) ∨
    (blockRank block<blockRank policy.priority ∧
      policy.toSdwanRule.toRuleBody∈beyond position policies block) := by
  have hmem := mem_blockBodies position policies hp hforce
  cases hpriority : policy.priority <;> rw [hpriority] at hmem <;> cases block <;>
    simp [blockRank,upTo,beyond,hmem]

end Evaluation

/-- A covering field matches whatever the covered field matches, whether or
not empty fields match everything. -/
theorem fieldMatches_of_fieldCovers {α : Type} [DecidableEq α] [CoverableMatchableObject α]
    (sem : SdwanSemantics) {existing planned : Finset α} (h : FieldCovers existing planned)
    {test : α → Prop} [DecidablePred test]
    (htest : ∀ a b,CoverableMatchableObject.covers a b=true → test b → test a)
    (hp : fieldMatches sem planned test=true) : fieldMatches sem existing test=true := by
  unfold fieldMatches at hp ⊢
  by_cases hempty : planned=∅
  · rw [if_pos hempty] at hp
    rw [if_pos (h.1 hempty)]
    exact hp
  · rw [if_neg hempty,decide_eq_true_eq] at hp
    obtain ⟨p,hmem,ht⟩ := hp
    obtain ⟨e,he,hc⟩ := h.2 p hmem
    rw [if_neg (Finset.ne_empty_of_mem he)]
    exact decide_eq_true ⟨e,he,htest e p hc ht⟩

/-- A zone field with at least the same zones, empty only together, matches alike. -/
theorem fieldMatches_of_subset (sem : SdwanSemantics) {existing planned : List ℤ}
    (hsub : planned⊆existing) (hempty : planned=[] → existing=[]) {zone : ℤ}
    (hp : fieldMatches sem planned.toFinset (fun z => z=zone)=true) :
    fieldMatches sem existing.toFinset (fun z => z=zone)=true := by
  unfold fieldMatches at hp ⊢
  by_cases hn : planned=[]
  · rw [hempty hn]
    rw [hn] at hp
    exact hp
  · rw [if_neg (by simpa using hn),decide_eq_true_eq] at hp
    obtain ⟨z,hz,he⟩ := hp
    have hmem : z∈existing.toFinset := List.mem_toFinset.mpr (hsub (List.mem_toFinset.mp hz))
    rw [if_neg (Finset.ne_empty_of_mem hmem)]
    exact decide_eq_true ⟨z,hmem,he⟩

section Withholding

variable [PyUnicode] {ι : Type}

/-- No zone list with a zone has an empty set of normalized names. -/
theorem eq_nil_of_normalizeZones {resolver : RuleValuesResolver} {zoneIds : List ℤ}
    (h : resolver.normalizeZones zoneIds=.ok ∅) : zoneIds=[] := by
  cases zoneIds with
  | nil => rfl
  | cons zoneId rest =>
    obtain ⟨zone,-,hmem⟩ :=
      (RuleValuesResolver.mem_normalizeZones h).1 zoneId List.mem_cons_self
    exact absurd hmem (Finset.notMem_empty _)

/-- Where normalized zone names are covered, an empty zone list is covered by
an empty zone list only. -/
theorem eq_nil_of_strSetCovers {resolver : RuleValuesResolver} {existing planned : List ℤ}
    {existingNames plannedNames : Finset String}
    (he : resolver.normalizeZones existing=.ok existingNames)
    (hp : resolver.normalizeZones planned=.ok plannedNames)
    (hc : strSetCovers existingNames plannedNames=true) (h : planned=[]) : existing=[] := by
  have hnames : plannedNames=∅ := by
    by_contra hne
    obtain ⟨name,hname⟩ := Finset.nonempty_iff_ne_empty.mpr hne
    obtain ⟨zoneId,hz,-⟩ := (RuleValuesResolver.mem_normalizeZones hp).2 name hname
    rw [h] at hz
    cases hz
  rw [((strSetCovers_eq_true _ _).mp hc).1 hnames] at he
  exact eq_nil_of_normalizeZones he

/-- An existing rule that covers a planned one and has its zones matches every
packet the planned rule matches. -/
theorem bodyMatches_of_covers (sem : SdwanSemantics) {resolver : RuleValuesResolver}
    {existing planned : RuleBody} {existingValues plannedValues : ResolvedRuleValues}
    (he : resolver.resolveRule existing=.ok existingValues)
    (hp : resolver.resolveRule planned=.ok plannedValues)
    (hcov : NormalizedCovers existingValues.normalized plannedValues.normalized)
    (hsrc : planned.srcZones⊆existing.srcZones) (hdst : planned.dstZones⊆existing.dstZones)
    {packet : Packet} (hm : bodyMatches sem resolver planned packet=true) :
    bodyMatches sem resolver existing packet=true := by
  obtain ⟨-,hsrcZones,hdstZones,-⟩ := RuleValuesResolver.resolveRule_eq_ok he
  obtain ⟨-,hsrcZones',hdstZones',-⟩ := RuleValuesResolver.resolveRule_eq_ok hp
  obtain ⟨-,hcs,hcd,hsa,hda,hsv⟩ := hcov
  have haddr : ∀ points : List AddressPoint,∀ a b : AddressValue,
      CoverableMatchableObject.covers a b=true → (∃ point∈points,b.Denotes point) →
        ∃ point∈points,a.Denotes point := by
    rintro points a b hc ⟨point,hmem,hd⟩
    exact ⟨point,hmem,(AddressValue.covers_iff a b).mp hc point hd⟩
  unfold bodyMatches at hm ⊢
  simp only [hp,Bool.and_eq_true] at hm
  simp only [he,Bool.and_eq_true]
  obtain ⟨h1,h2,h3,h4,h5⟩ := hm
  exact ⟨fieldMatches_of_subset sem hsrc (eq_nil_of_strSetCovers hsrcZones hsrcZones' hcs) h1,
    fieldMatches_of_subset sem hdst (eq_nil_of_strSetCovers hdstZones hdstZones' hcd) h2,
    fieldMatches_of_fieldCovers sem hsa (haddr packet.srcPoints) h3,
    fieldMatches_of_fieldCovers sem hda (haddr packet.dstPoints) h4,
    fieldMatches_of_fieldCovers sem hsv (fun _ _ hc => ServiceValue.denotes_of_covers hc) h5⟩

/-- The verdict on a packet, rejection and silent dropping being one. -/
def packetVerdict (sem : SdwanSemantics) (resolver : RuleValuesResolver) (rules : List RuleBody)
    (packet : Packet) : Option SdwanRuleAction :=
  verdict (bodyMatches sem resolver) (fun body => normalizeAction body.action) rules packet

/-- When the first plan rule that matches a packet is withheld, the policy it
was matched with has its zones, and stands at or before the chosen block, or
is reached without a new rule or a policy of the other action matching. -/
def WithheldSafely (sem : SdwanSemantics) (resolver : RuleValuesResolver)
    (position : PolicyResponse ι → ℕ) (policies : List (PolicyResponse ι))
    (plan : List ExecutePlanRule) (block : SdwanRulePriority) (packet : Packet) : Prop :=
  ∀ r,(plan.find? fun r => bodyMatches sem resolver r.draft.toRuleBody packet)=some r →
    r.matchStatus≠.new → ∀ policy∈policies,r.matchedSdwanRuleId=some policy.policyId →
    (r.draft.srcZones⊆policy.ingressZone ∧ r.draft.dstZones⊆policy.egressZone) ∧
    (blockRank policy.priority≤blockRank block ∨
      (∀ q∈plan,q.matchStatus=.new → bodyMatches sem resolver q.draft.toRuleBody packet=true →
        normalizeAction q.draft.action=normalizeAction r.draft.action) ∧
      ∀ o∈(beyond position policies block).takeWhile
          (fun o => decide (o≠policy.toSdwanRule.toRuleBody)),
        bodyMatches sem resolver o packet=true →
        normalizeAction o.action=normalizeAction r.draft.action)

/-- A withheld plan rule was matched with a policy that resolves and covers it. -/
theorem exists_policy_of_withheld {hashFunc : String → String}
    (hf : Function.Injective hashFunc) {gateway : SDWANCatalogGateway} {targetId : String}
    {policies : List (PolicyResponse ι)} {mapped : List MappedRuleData} {r : ExecutePlanRule}
    (hr : r∈preparePlan hashFunc gateway targetId policies mapped)
    (hnew : r.matchStatus≠.new) (herror : r.matchStatus≠.matchError) :
    ∃ policy∈policies,r.matchedSdwanRuleId=some policy.policyId ∧
      ∃ existingValues plannedValues,
      (catalogResolver (planCatalog gateway targetId policies mapped)).resolveRule
        policy.toSdwanRule.toRuleBody=.ok existingValues ∧
      (catalogResolver (planCatalog gateway targetId policies mapped)).resolveRule
        r.draft.toRuleBody=.ok plannedValues ∧
      NormalizedCovers existingValues.normalized plannedValues.normalized := by
  obtain ⟨m,-,rfl⟩ := List.mem_map.mp hr
  have hmatch : RuleMatchStatus.IsMatch (compareWithCatalog hashFunc
      (planCatalog gateway targetId policies mapped) (buildDraft m).toRuleBody).matchStatus := by
    cases hs : (compareWithCatalog hashFunc (planCatalog gateway targetId policies mapped)
        (buildDraft m).toRuleBody).matchStatus with
    | exactMatch => exact Or.inl rfl
    | coveredMatch => exact Or.inr rfl
    | new => exact absurd hs hnew
    | matchError => exact absurd hs herror
  obtain ⟨existing,hmem,existingValues,plannedValues,hid,he,hp,hcov⟩ :=
    exists_covering_of_isMatch hf hmatch
  obtain ⟨policy,hpolicy,rfl⟩ := List.mem_map.mp hmem
  exact ⟨policy,hpolicy,hid,existingValues,plannedValues,he,hp,hcov⟩

/-- A push decides a packet as creating every plan rule would, wherever the
withheld rules are withheld safely for that packet. -/
theorem push_verdict_eq {hashFunc : String → String} (hf : Function.Injective hashFunc)
    (gateway : SDWANCatalogGateway) (targetId : String) (policies : List (PolicyResponse ι))
    (mapped : List MappedRuleData) (position : PolicyResponse ι → ℕ) (sem : SdwanSemantics)
    (parentType : DeviceObjectType) (block : SdwanRulePriority) (packet : Packet)
    (hforce : ∀ policy∈policies,policy.InForce)
    (herror : ∀ r∈preparePlan hashFunc gateway targetId policies mapped,
      r.matchStatus≠.matchError)
    (hsafe : WithheldSafely sem (catalogResolver (planCatalog gateway targetId policies mapped))
      position policies (preparePlan hashFunc gateway targetId policies mapped) block packet) :
    packetVerdict sem (catalogResolver (planCatalog gateway targetId policies mapped))
      (evaluationOrder position policies block (createdBodies targetId parentType block
        (rulesToPush (preparePlan hashFunc gateway targetId policies mapped)))) packet=
    packetVerdict sem (catalogResolver (planCatalog gateway targetId policies mapped))
      (evaluationOrder position policies block (createdBodies targetId parentType block
        (preparePlan hashFunc gateway targetId policies mapped))) packet := by
  rw [createdBodies_eq,createdBodies_eq,rulesToPush_preparePlan]
  by_cases hallowed : PlacementAllowed parentType block
  · rw [if_pos hallowed,if_pos hallowed]
    refine verdict_filter_middle _ _ (fun rule : ExecutePlanRule => rule.draft.toRuleBody)
      (fun r hfind hkeep => ?_)
    have hr := List.mem_of_find?_eq_some hfind
    have hhit : bodyMatches sem (catalogResolver (planCatalog gateway targetId policies mapped))
        r.draft.toRuleBody packet=true := by
      simpa using List.find?_some hfind
    have hnew : r.matchStatus≠.new := of_decide_eq_false hkeep
    obtain ⟨policy,hpolicy,hid,existingValues,plannedValues,he,hp,hcov⟩ :=
      exists_policy_of_withheld hf hr hnew (herror r hr)
    obtain ⟨⟨hsrc,hdst⟩,hplace⟩ := hsafe r hfind hnew policy hpolicy hid
    have hpolicyHit := bodyMatches_of_covers sem he hp hcov hsrc hdst hhit
    have haction : normalizeAction policy.action=normalizeAction r.draft.action := by
      obtain ⟨hae,-⟩ := RuleValuesResolver.resolveRule_eq_ok he
      obtain ⟨hap,-⟩ := RuleValuesResolver.resolveRule_eq_ok hp
      exact hae.symm.trans (hcov.1.trans hap)
    rcases mem_upTo_or_beyond position policies hpolicy (hforce policy hpolicy) block with
      ⟨-,hmem⟩|⟨hrank,hmem⟩
    · exact Or.inl ⟨_,hmem,hpolicyHit⟩
    · obtain ⟨hplan,hbetween⟩ := hplace.resolve_left (by omega)
      refine Or.inr ⟨fun q hq hkeepq hqhit => ?_,_,hmem,hpolicyHit,haction,hbetween⟩
      exact hplan q hq (of_decide_eq_true hkeepq) hqhit
  · rw [if_neg hallowed,if_neg hallowed]

end Withholding

/-- A controller with two zones, all addresses and any service. -/
def openGateway : SDWANCatalogGateway where
  getZones _ := [⟨1,101,"LAN",.lan⟩,⟨2,102,"WAN",.wan⟩]
  getServices _ := [.ofAny 20 "any"]
  getAddrObjects _ := [.ofPrefix 10 [] "all" (.ofNat 0 0)]

/-- Everything from the first zone to the second. -/
def lanToWanBody (action : SdwanRuleAction) : RuleBody := ⟨action,[1],[2],[10],[10],[20]⟩

/-- An accepting policy in a block. -/
def acceptPolicy (block : SdwanRulePriority) : PolicyResponse String :=
  ⟨7,block,"1",true,.accept,[1],[2],[10],[10],[20],[],[]⟩

/-- Two mapped rules: accept everything, then drop everything. -/
def acceptThenDrop : List MappedRuleData :=
  [⟨lanToWanBody .accept,1,"allow",1⟩,⟨lanToWanBody .drop,2,"deny",2⟩]

/-- A packet from the first zone to the second. -/
def lanPacket : Packet :=
  ⟨1,2,[.ipv4 167772161],[.ipv4 134744072],.port .tcp 443⟩

/-- The plan of the two mapped rules: the first is withheld, the second is new. -/
theorem acceptThenDrop_plan (block : SdwanRulePriority) :
    ∃ allow deny,@preparePlan asciiUnicode String id openGateway "branch" [acceptPolicy block]
        acceptThenDrop=[allow,deny] ∧
      allow.matchStatus=.exactMatch ∧ deny.matchStatus=.new ∧
      allow.draft.toRuleBody=lanToWanBody .accept ∧
      deny.draft.toRuleBody=lanToWanBody .drop := by
  have houtcome := @compareRule_outcome asciiUnicode id Function.injective_id
    (planCatalog openGateway "branch" [acceptPolicy block] acceptThenDrop)
  have hallow : @compareOutcome asciiUnicode (catalogResolver (planCatalog openGateway "branch"
      [acceptPolicy block] acceptThenDrop)) [(acceptPolicy block).toSdwanRule]
      (lanToWanBody .accept)=(.exactMatch,some 7) := by
    rfl
  have hdeny : @compareOutcome asciiUnicode (catalogResolver (planCatalog openGateway "branch"
      [acceptPolicy block] acceptThenDrop)) [(acceptPolicy block).toSdwanRule]
      (lanToWanBody .drop)=(.new,none) := by
    rfl
  have hsorted : sortedMappedRules acceptThenDrop=acceptThenDrop := by decide
  refine ⟨@planRule asciiUnicode id _ ⟨lanToWanBody .accept,1,"allow",1⟩,
    @planRule asciiUnicode id _ ⟨lanToWanBody .drop,2,"deny",2⟩,?_,
    congrArg Prod.fst ((houtcome (lanToWanBody .accept)).trans hallow),
    congrArg Prod.fst ((houtcome (lanToWanBody .drop)).trans hdeny),rfl,rfl⟩
  unfold preparePlan
  rw [hsorted,acceptThenDrop,List.map_cons,List.map_singleton]

/-- What the controller evaluates once the rules are created before the devices. -/
def openEvaluation (block : SdwanRulePriority) (created : List RuleBody) : List RuleBody :=
  evaluationOrder (fun _ => 0) [acceptPolicy block] .pre created

/-- The resolver of the plan of the two rules. -/
def openResolver : RuleValuesResolver :=
  .ofObjects (openGateway.getZones []) (openGateway.getServices [])
    (openGateway.getAddrObjects [])

/-- A rule withheld for a policy in front of the chosen block is decided by
that policy. -/
theorem push_verdict_eq_acceptThenDrop :
    @packetVerdict asciiUnicode ⟨false,fun _ _ => false⟩ openResolver
      (openEvaluation .pre (createdBodies "branch" .group .pre (rulesToPush
        (@preparePlan asciiUnicode String id openGateway "branch" [acceptPolicy .pre]
          acceptThenDrop)))) lanPacket=
    @packetVerdict asciiUnicode ⟨false,fun _ _ => false⟩ openResolver
      (openEvaluation .pre (createdBodies "branch" .group .pre
        (@preparePlan asciiUnicode String id openGateway "branch" [acceptPolicy .pre]
          acceptThenDrop))) lanPacket := by
  obtain ⟨allow,deny,hplan,hallow,hdeny,hallowBody,hdenyBody⟩ := acceptThenDrop_plan .pre
  refine @push_verdict_eq asciiUnicode String id Function.injective_id openGateway "branch"
    [acceptPolicy .pre] acceptThenDrop (fun _ => 0) ⟨false,fun _ _ => false⟩ .group .pre lanPacket
    (by decide) ?_ ?_
  · rw [hplan]
    intro r hr
    rcases List.mem_cons.mp hr with rfl|hr
    · rw [hallow]
      decide
    · rw [List.mem_singleton.mp hr,hdeny]
      decide
  · intro r hfind hnew policy hpolicy hid
    rw [hplan] at hfind
    have hr : r=allow := by
      rcases List.mem_cons.mp (List.mem_of_find?_eq_some hfind) with hr|hr
      · exact hr
      · exact absurd ((List.mem_singleton.mp hr)▸hdeny) hnew
    rw [List.mem_singleton.mp hpolicy,hr,hallowBody]
    exact ⟨by decide,Or.inl le_rfl⟩

/-- The same rule withheld for a policy behind the chosen block: the new rule
of the other action is reached first, and the packet is rejected although the
whole plan would accept it. -/
theorem push_verdict_ne_acceptThenDrop :
    (∀ policy∈[acceptPolicy .post],policy.InForce) ∧
    (∀ r∈@preparePlan asciiUnicode String id openGateway "branch" [acceptPolicy .post]
      acceptThenDrop,r.matchStatus≠.matchError) ∧
    @packetVerdict asciiUnicode ⟨false,fun _ _ => false⟩ openResolver
      (openEvaluation .post (createdBodies "branch" .group .pre (rulesToPush
        (@preparePlan asciiUnicode String id openGateway "branch" [acceptPolicy .post]
          acceptThenDrop)))) lanPacket=some .reject ∧
    @packetVerdict asciiUnicode ⟨false,fun _ _ => false⟩ openResolver
      (openEvaluation .post (createdBodies "branch" .group .pre
        (@preparePlan asciiUnicode String id openGateway "branch" [acceptPolicy .post]
          acceptThenDrop))) lanPacket=some .accept := by
  obtain ⟨allow,deny,hplan,hallow,hdeny,hallowBody,hdenyBody⟩ := acceptThenDrop_plan .post
  have hpush : createdBodies "branch" .group .pre (rulesToPush
      (@preparePlan asciiUnicode String id openGateway "branch" [acceptPolicy .post]
        acceptThenDrop))=[lanToWanBody .drop] := by
    rw [@rulesToPush_preparePlan asciiUnicode,hplan,createdBodies_eq,if_pos (by decide)]
    simp [hallow,hdeny,hdenyBody]
  have hall : createdBodies "branch" .group .pre
      (@preparePlan asciiUnicode String id openGateway "branch" [acceptPolicy .post]
        acceptThenDrop)=[lanToWanBody .accept,lanToWanBody .drop] := by
    rw [hplan,createdBodies_eq,if_pos (by decide)]
    simp [hallowBody,hdenyBody]
  refine ⟨by decide,?_,?_,?_⟩
  · rw [hplan]
    intro r hr
    rcases List.mem_cons.mp hr with rfl|hr
    · rw [hallow]
      decide
    · rw [List.mem_singleton.mp hr,hdeny]
      decide
  · rw [hpush]
    decide +kernel
  · rw [hall]
    decide +kernel

end NspMigrator.ExecuteWithholding
