import Mathlib
import NspMigrator.ExecuteRulesComparer

/-!
# What a match says about the matched rule

A planned rule is matched only with a rule of the catalog that the resolver
accepts, with the same action, and whose traffic includes all of the planned
traffic. Zones are compared by normalized name, which is as good as by number
wherever names differ after normalization.
-/

namespace NspMigrator.ExecuteMatchSoundness

open PyDict PyText SdwanModels ExecuteValues ExecuteRuleValues ExecuteCoverage
  ExecuteRulesComparer

/-- One combination of source, destination and service. -/
structure TrafficPoint where
  /-- The source. -/
  src : AddressPoint
  /-- The destination. -/
  dst : AddressPoint
  /-- The service. -/
  service : ServicePoint
  deriving DecidableEq

/-- The traffic a normalized rule stands for. -/
def NormalizedRuleValues.Denotes (values : NormalizedRuleValues) (point : TrafficPoint) : Prop :=
  (∃ value∈values.srcAddresses,value.Denotes point.src) ∧
    (∃ value∈values.dstAddresses,value.Denotes point.dst) ∧
    ∃ value∈values.services,value.Denotes point.service

/-- A field that covers another denotes all of its points. -/
theorem exists_denotes_of_fieldCovers {α β : Type} [CoverableMatchableObject α]
    (Denotes : α → β → Prop)
    (hcovers : ∀ a b point,CoverableMatchableObject.covers a b=true → Denotes b point →
      Denotes a point)
    {existing planned : Finset α} (h : FieldCovers existing planned) {point : β}
    (hp : ∃ value∈planned,Denotes value point) : ∃ value∈existing,Denotes value point := by
  obtain ⟨value,hv,hd⟩ := hp
  obtain ⟨cover,hc,hcov⟩ := h.2 value hv
  exact ⟨cover,hc,hcovers cover value point hcov hd⟩

/-- A rule that covers another stands for all of its traffic. -/
theorem denotes_of_normalizedCovers {existing planned : NormalizedRuleValues}
    (h : NormalizedCovers existing planned) {point : TrafficPoint}
    (hp : NormalizedRuleValues.Denotes planned point) :
    NormalizedRuleValues.Denotes existing point := by
  obtain ⟨-,-,-,hsrc,hdst,hservices⟩ := h
  have haddr : ∀ a b point,CoverableMatchableObject.covers a b=true →
      AddressValue.Denotes b point → AddressValue.Denotes a point :=
    fun a b point hc => (AddressValue.covers_iff a b).mp hc point
  exact ⟨exists_denotes_of_fieldCovers AddressValue.Denotes haddr hsrc hp.1,
    exists_denotes_of_fieldCovers AddressValue.Denotes haddr hdst hp.2.1,
    exists_denotes_of_fieldCovers ServiceValue.Denotes
      (fun _ _ _ hc => ServiceValue.denotes_of_covers hc) hservices hp.2.2⟩

/-- The status of a planned rule that will not be created. -/
def RuleMatchStatus.IsMatch (status : RuleMatchStatus) : Prop :=
  status=.exactMatch ∨ status=.coveredMatch

/-- Either way of choosing an existing rule chooses one that covers the planned one. -/
theorem covers_of_matchExisting {rules : List ResolvedSdwanRule}
    {planned : NormalizedRuleValues} {status : RuleMatchStatus} {r : ResolvedSdwanRule}
    (h : matchExisting rules planned=some (status,r)) :
    r∈rules ∧ NormalizedCovers r.values.normalized planned := by
  unfold matchExisting at h
  cases he : findExact rules planned with
  | some e =>
    rw [he] at h
    simp only [Option.some.injEq,Prod.mk.injEq] at h
    obtain ⟨-,rfl⟩ := h
    have heq : e.values.normalized=planned := by simpa using List.find?_some he
    exact ⟨List.mem_of_find?_eq_some he,heq▸normalizedCovers_self _⟩
  | none =>
    rw [he] at h
    obtain ⟨c,hc,hr⟩ := Option.map_eq_some_iff.mp h
    rw [Prod.mk.injEq] at hr
    obtain ⟨-,rfl⟩ := hr
    exact ⟨List.mem_of_find?_eq_some hc,by simpa using List.find?_some hc⟩

variable [PyUnicode] {hashFunc : String → String}

/-- A matched planned rule and its existing rule both resolve, and the
existing values cover the planned ones. -/
theorem exists_covering_of_isMatch (hf : Function.Injective hashFunc)
    {catalog : SdwanPolicyCatalog} {rule : RuleBody}
    (hm : RuleMatchStatus.IsMatch (compareWithCatalog hashFunc catalog rule).matchStatus) :
    ∃ existing∈catalog.rules,∃ existingValues plannedValues,
      (compareWithCatalog hashFunc catalog rule).matchedSdwanRuleId=some existing.id ∧
      (catalogResolver catalog).resolveRule existing.toRuleBody=.ok existingValues ∧
      (catalogResolver catalog).resolveRule rule=.ok plannedValues ∧
      NormalizedCovers existingValues.normalized plannedValues.normalized := by
  have hspec := compareRule_outcome hf catalog rule
  rw [compareOutcome] at hspec
  cases hr : (catalogResolver catalog).resolveRule rule with
  | error reason =>
    simp only [hr,Prod.mk.injEq] at hspec
    rw [hspec.1] at hm
    rcases hm with h|h <;> cases h
  | ok plannedValues =>
    simp only [hr] at hspec
    cases hx : matchExisting (resolvedRules (catalogResolver catalog) catalog.rules)
        plannedValues.normalized with
    | none =>
      simp only [hx,Prod.mk.injEq] at hspec
      rw [hspec.1] at hm
      rcases hm with h|h <;> cases h
    | some chosen =>
      obtain ⟨status,r⟩ := chosen
      simp only [hx,Prod.mk.injEq] at hspec
      obtain ⟨hmem,hcov⟩ := covers_of_matchExisting hx
      obtain ⟨hrule,hvalues⟩ := mem_resolvedRules.mp hmem
      exact ⟨r.rule,hrule,r.values,plannedValues,hspec.2,hvalues,rfl,hcov⟩

/-- A match names a rule of the catalog that resolves, has the same
normalized action, at least the planned zones, and all of the planned traffic. -/
theorem compareRule_match_sound (hf : Function.Injective hashFunc)
    (catalog : SdwanPolicyCatalog) (rule : RuleBody)
    (hm : RuleMatchStatus.IsMatch (compareWithCatalog hashFunc catalog rule).matchStatus) :
    ∃ existing∈catalog.rules,∃ existingValues plannedValues,
      (compareWithCatalog hashFunc catalog rule).matchedSdwanRuleId=some existing.id ∧
      (catalogResolver catalog).resolveRule existing.toRuleBody=.ok existingValues ∧
      (catalogResolver catalog).resolveRule rule=.ok plannedValues ∧
      normalizeAction existing.action=normalizeAction rule.action ∧
      plannedValues.normalized.srcZones⊆existingValues.normalized.srcZones ∧
      (plannedValues.normalized.srcZones=∅ ↔ existingValues.normalized.srcZones=∅) ∧
      plannedValues.normalized.dstZones⊆existingValues.normalized.dstZones ∧
      (plannedValues.normalized.dstZones=∅ ↔ existingValues.normalized.dstZones=∅) ∧
      ∀ point,NormalizedRuleValues.Denotes plannedValues.normalized point →
        NormalizedRuleValues.Denotes existingValues.normalized point := by
  obtain ⟨existing,hmem,existingValues,plannedValues,hid,hexisting,hplanned,hcov⟩ :=
    exists_covering_of_isMatch hf hm
  obtain ⟨haction,-⟩ := RuleValuesResolver.resolveRule_eq_ok hexisting
  obtain ⟨haction',-⟩ := RuleValuesResolver.resolveRule_eq_ok hplanned
  refine ⟨existing,hmem,existingValues,plannedValues,hid,hexisting,hplanned,?_,?_⟩
  · rw [←haction,←haction',hcov.1]
  · obtain ⟨hsrcEmpty,hsrc⟩ := (strSetCovers_eq_true _ _).mp hcov.2.1
    obtain ⟨hdstEmpty,hdst⟩ := (strSetCovers_eq_true _ _).mp hcov.2.2.1
    refine ⟨hsrc,⟨hsrcEmpty,fun h => ?_⟩,hdst,⟨hdstEmpty,fun h => ?_⟩,
      fun point => denotes_of_normalizedCovers hcov⟩
    · exact Finset.subset_empty.mp (h▸hsrc)
    · exact Finset.subset_empty.mp (h▸hdst)

/-- A catalog with a group, a domain name and a silently dropping rule. -/
def branchCatalog : SdwanPolicyCatalog where
  targetId := "branch"
  rules := [⟨⟨.drop,[1],[2],[10],[11],[21]⟩,7⟩]
  zones := [⟨1,101,"LAN",.lan⟩,⟨2,102,"WAN",.wan⟩]
  services := [.ofTcp 20 "http" (80,80) [],.ofAny 21 "any"]
  addressObjects := [.ofPrefix 10 [] "office" (.ofNat 167772160 8),.ofGroup 11 [] "servers" none,
    .ofFqdn 12 [11] "www" " WWW.example ",.ofHost 13 [] "pc" (.ofNat 167837953)]

omit [PyUnicode] in
/-- Rejecting one service from one host to the group is covered by the rule
that drops everything from the network around it. -/
theorem compareRule_match_sound_branch :
    ∃ existing∈branchCatalog.rules,
      (@compareWithCatalog asciiUnicode id branchCatalog
        ⟨.reject,[1],[2],[13],[12],[20]⟩).matchedSdwanRuleId=some existing.id ∧
      normalizeAction existing.action=normalizeAction .reject := by
  have houtcome := @compareRule_outcome asciiUnicode id Function.injective_id branchCatalog
    ⟨.reject,[1],[2],[13],[12],[20]⟩
  have hcovered : @compareOutcome asciiUnicode (catalogResolver branchCatalog) branchCatalog.rules
      ⟨.reject,[1],[2],[13],[12],[20]⟩=(.coveredMatch,some 7) := by decide +kernel
  rw [hcovered,Prod.mk.injEq] at houtcome
  obtain ⟨existing,hmem,-,-,hid,-,-,haction,-⟩ :=
    @compareRule_match_sound asciiUnicode id Function.injective_id branchCatalog
      ⟨.reject,[1],[2],[13],[12],[20]⟩ (Or.inr houtcome.1)
  exact ⟨existing,hmem,hid,haction⟩

/-- Every planned zone is a zone of the catalog whose normalized name an
existing zone shares; where no other zone of the catalog has that normalized
name, the existing zones include it. -/
def ZonesKept (zones : List SdwanZone) (planned existing : List ℤ) : Prop :=
  ∀ zoneId∈planned,∃ zone∈zones,zone.id=zoneId ∧
    (∃ other∈zones,other.id∈existing ∧ normalizeText other.name=normalizeText zone.name) ∧
    ((∀ other∈zones,normalizeText other.name=normalizeText zone.name → other.id=zoneId) →
      zoneId∈existing)

omit [PyUnicode] in
/-- A zone found by number is a zone of the catalog with that number. -/
theorem mem_of_zonesById {catalog : SdwanPolicyCatalog} {zoneId : ℤ} {zone : SdwanZone}
    (h : (catalogResolver catalog).zonesById.get? zoneId=some zone) :
    zone∈catalog.zones ∧ zone.id=zoneId := by
  obtain ⟨other,hm,he⟩ := List.mem_map.mp (Dict.mem_of_get?_ofList h)
  rw [Prod.mk.injEq] at he
  obtain ⟨hid,rfl⟩ := he
  exact ⟨hm,hid⟩

/-- Inclusion of normalized names keeps the zones. -/
theorem zonesKept_of_subset {catalog : SdwanPolicyCatalog} {planned existing : List ℤ}
    {plannedNames existingNames : Finset String}
    (hp : (catalogResolver catalog).normalizeZones planned=.ok plannedNames)
    (he : (catalogResolver catalog).normalizeZones existing=.ok existingNames)
    (hsub : plannedNames⊆existingNames) : ZonesKept catalog.zones planned existing := by
  intro zoneId hz
  obtain ⟨zone,hzone,hname⟩ := (RuleValuesResolver.mem_normalizeZones hp).1 zoneId hz
  obtain ⟨otherId,hother,other,hget,hsame⟩ :=
    (RuleValuesResolver.mem_normalizeZones he).2 _ (hsub hname)
  obtain ⟨hmem,hid⟩ := mem_of_zonesById hzone
  obtain ⟨hmem',hid'⟩ := mem_of_zonesById hget
  refine ⟨zone,hmem,hid,⟨other,hmem',hid'▸hother,hsame⟩,fun hunique => ?_⟩
  rw [←hunique other hmem' hsame,hid']
  exact hother

/-- A matched rule keeps the zones of the planned one, as far as normalized
names tell them apart. -/
theorem compareRule_zones_kept (hf : Function.Injective hashFunc)
    (catalog : SdwanPolicyCatalog) (rule : RuleBody)
    (hm : RuleMatchStatus.IsMatch (compareWithCatalog hashFunc catalog rule).matchStatus) :
    ∃ existing∈catalog.rules,
      (compareWithCatalog hashFunc catalog rule).matchedSdwanRuleId=some existing.id ∧
      ZonesKept catalog.zones rule.srcZones existing.srcZones ∧
      ZonesKept catalog.zones rule.dstZones existing.dstZones := by
  obtain ⟨existing,hmem,existingValues,plannedValues,hid,hexisting,hplanned,hcov⟩ :=
    exists_covering_of_isMatch hf hm
  obtain ⟨-,hsrc,hdst,-⟩ := RuleValuesResolver.resolveRule_eq_ok hexisting
  obtain ⟨-,hsrc',hdst',-⟩ := RuleValuesResolver.resolveRule_eq_ok hplanned
  exact ⟨existing,hmem,hid,
    zonesKept_of_subset hsrc' hsrc ((strSetCovers_eq_true _ _).mp hcov.2.1).2,
    zonesKept_of_subset hdst' hdst ((strSetCovers_eq_true _ _).mp hcov.2.2.1).2⟩

/-- Two zones whose names differ only in case and separator. -/
def twoLansCatalog : SdwanPolicyCatalog where
  targetId := "branch"
  rules := [⟨⟨.accept,[2],[2],[],[],[]⟩,7⟩]
  zones := [⟨1,101,"lan 1",.lan⟩,⟨2,102,"LAN_1",.lan⟩]
  services := []
  addressObjects := []

omit [PyUnicode] in
/-- A rule between the first of the two zones keeps them through its match,
up to the shared normalized name. -/
theorem compareRule_zones_kept_twoLans :
    ∃ existing∈twoLansCatalog.rules,
      @ZonesKept asciiUnicode twoLansCatalog.zones [1] existing.srcZones := by
  have houtcome := @compareRule_outcome asciiUnicode id Function.injective_id twoLansCatalog
    ⟨.accept,[1],[1],[],[],[]⟩
  have hexact : @compareOutcome asciiUnicode (catalogResolver twoLansCatalog)
      twoLansCatalog.rules ⟨.accept,[1],[1],[],[],[]⟩=(.exactMatch,some 7) := by decide +kernel
  rw [hexact,Prod.mk.injEq] at houtcome
  obtain ⟨existing,hmem,-,hsrc,-⟩ :=
    @compareRule_zones_kept asciiUnicode id Function.injective_id twoLansCatalog
      ⟨.accept,[1],[1],[],[],[]⟩ (Or.inl houtcome.1)
  exact ⟨existing,hmem,hsrc⟩

omit [PyUnicode] in
/-- The two zones have different numbers, and yet a rule between the first is
matched exactly with the rule between the second. -/
theorem twoLans_matched_across_zones :
    (twoLansCatalog.zones.map SdwanZone.id).Nodup ∧
    (@compareWithCatalog asciiUnicode id twoLansCatalog
      ⟨.accept,[1],[1],[],[],[]⟩).matchStatus=.exactMatch ∧
    (@compareWithCatalog asciiUnicode id twoLansCatalog
      ⟨.accept,[1],[1],[],[],[]⟩).matchedSdwanRuleId=some 7 ∧
    ∀ existing∈twoLansCatalog.rules,existing.id=7 →
      ¬[1]⊆existing.srcZones ∧ ¬[1]⊆existing.dstZones := by
  have houtcome := @compareRule_outcome asciiUnicode id Function.injective_id twoLansCatalog
    ⟨.accept,[1],[1],[],[],[]⟩
  have hexact : @compareOutcome asciiUnicode (catalogResolver twoLansCatalog)
      twoLansCatalog.rules ⟨.accept,[1],[1],[],[],[]⟩=(.exactMatch,some 7) := by decide +kernel
  rw [hexact,Prod.mk.injEq] at houtcome
  exact ⟨by decide,houtcome.1,houtcome.2,by decide⟩

end NspMigrator.ExecuteMatchSoundness
