import Mathlib
import NspMigrator.PyExcept
import NspMigrator.SdwanAddressGroups
import NspMigrator.ExecuteValues

/-!
# Rule bodies resolved to values

A rule names zones, services and address objects by number. The resolver
replaces the numbers by normalized values, keeps the object every value came
from, and compares two resolved rules field by field.
-/

namespace NspMigrator.ExecuteRuleValues

open PyDict PyText PyRepr PyJson PyExcept SdwanModels SdwanAddressGroups ExecuteValues

/-- What a rule does with traffic. -/
inductive SdwanRuleAction where
  | accept
  | reject
  | drop
  deriving DecidableEq

/-- The text of an action. -/
def SdwanRuleAction.value : SdwanRuleAction → String
  | .accept => "ACCEPT"
  | .reject => "REJECT"
  | .drop => "DROP"

/-- The operands rules are compared by. -/
structure RuleBody where
  /-- What the rule does with the traffic. -/
  action : SdwanRuleAction
  /-- The source zones. -/
  srcZones : List ℤ
  /-- The destination zones. -/
  dstZones : List ℤ
  /-- The source address objects. -/
  srcAddrObjects : List ℤ
  /-- The destination address objects. -/
  dstAddrObjects : List ℤ
  /-- The services. -/
  services : List ℤ
  deriving DecidableEq

/-- A rule prepared for creation. -/
structure PlannedRuleDraft extends RuleBody where
  /-- The name of the rule. -/
  name : String
  deriving DecidableEq

/-- A rule that exists on the controller. -/
structure SdwanRule extends RuleBody where
  /-- The number of the policy. -/
  id : ℤ
  deriving DecidableEq

/-- The rules of a target with the objects they and the planned rules name. -/
structure SdwanPolicyCatalog where
  /-- The target. -/
  targetId : String
  /-- Its policies. -/
  rules : List SdwanRule
  /-- The zones they use. -/
  zones : List SdwanZone
  /-- The services they use. -/
  services : List SdwanService
  /-- The address objects they use. -/
  addressObjects : List SdwanAddrObject
  deriving DecidableEq

/-- One object value taking part in coverage evidence. -/
structure CoverageValue where
  /-- The object the value belongs to. -/
  objectId : ℤ
  /-- Its name. -/
  objectName : String
  /-- The value as a text. -/
  value : String
  deriving DecidableEq

/-- The field whose planned values an existing rule covers. -/
inductive CoverageField where
  | srcAddrObjects
  | dstAddrObjects
  | services
  deriving DecidableEq

/-- One existing value with the planned values it strictly covers. -/
structure CoverageDetail where
  /-- The slot of the rule. -/
  field : CoverageField
  /-- The existing value that covers. -/
  coveringValue : CoverageValue
  /-- The planned values it covers. -/
  coveredValues : List CoverageValue
  deriving DecidableEq

/-- A value and the object that provides it. -/
structure ResolvedCoverageValue (α : Type) where
  /-- The value. -/
  value : α
  /-- Where it comes from, as it is shown. -/
  evidence : CoverageValue
  deriving DecidableEq

/-- A rule normalized for comparison. -/
structure NormalizedRuleValues where
  /-- The action. -/
  action : SdwanRuleAction
  /-- The names of the source zones. -/
  srcZones : Finset String
  /-- The names of the destination zones. -/
  dstZones : Finset String
  /-- The values of the sources. -/
  srcAddresses : Finset AddressValue
  /-- The values of the destinations. -/
  dstAddresses : Finset AddressValue
  /-- The values of the services. -/
  services : Finset ServiceValue
  deriving DecidableEq

/-- The values of a list of resolved values, as a set. -/
def valueSet {α : Type} [DecidableEq α] (values : List (ResolvedCoverageValue α)) : Finset α :=
  (values.map ResolvedCoverageValue.value).toFinset

/-- Normalized values together with the objects they came from. -/
structure ResolvedRuleValues where
  /-- The values without their objects. -/
  normalized : NormalizedRuleValues
  /-- The values of the sources with their objects. -/
  srcAddresses : List (ResolvedCoverageValue AddressValue)
  /-- The values of the destinations with their objects. -/
  dstAddresses : List (ResolvedCoverageValue AddressValue)
  /-- The values of the services with their objects. -/
  services : List (ResolvedCoverageValue ServiceValue)
  /-- The source set is the set of the source values. -/
  src_eq : normalized.srcAddresses=valueSet srcAddresses
  /-- The destination set is the set of the destination values. -/
  dst_eq : normalized.dstAddresses=valueSet dstAddresses
  /-- The service set is the set of the service values. -/
  services_eq : normalized.services=valueSet services

/-- The outcome of one comparison of an existing rule with a planned one. -/
structure CoverageAnalysis where
  /-- Whether the planned rule is covered. -/
  isCovered : Bool
  /-- Which existing values cover which planned ones. -/
  details : List CoverageDetail := []
  deriving DecidableEq

/-- The loaded objects by number. -/
structure RuleValuesResolver where
  /-- The zones by number. -/
  zonesById : Dict ℤ SdwanZone
  /-- The services by number. -/
  servicesById : Dict ℤ SdwanService
  /-- What opens groups of addresses. -/
  addressGroupResolver : SDWANAddressGroupLeavesResolver

/-- Index the loaded objects. -/
def RuleValuesResolver.ofObjects (zones : List SdwanZone) (services : List SdwanService)
    (addressObjects : List SdwanAddrObject) : RuleValuesResolver where
  zonesById := Dict.ofList (zones.map fun zone => (zone.id,zone))
  servicesById := Dict.ofList (services.map fun service => (service.id,service))
  addressGroupResolver := SDWANAddressGroupLeavesResolver.ofObjects addressObjects

/-- Rejection and silent dropping are one action for comparison. -/
def normalizeAction : SdwanRuleAction → SdwanRuleAction
  | .reject | .drop => .reject
  | .accept => .accept

/-- Keep the first object of every semantic value. -/
def distinctResolvedValues {α : Type} [CoverableMatchableObject α]
    (values : List (ResolvedCoverageValue α)) : List (ResolvedCoverageValue α) :=
  distinctBy (fun resolved => CoverableMatchableObject.signature resolved.value) values

section Resolve

variable [PyUnicode]

namespace RuleValuesResolver

/-- The normalized names of zones. -/
def normalizeZones (resolver : RuleValuesResolver) (zoneIds : List ℤ) :
    Except String (Finset String) := do
  let names ← zoneIds.mapM fun zoneId =>
    match resolver.zonesById.get? zoneId with
    | none => .error ("Unknown zone id: "++toString zoneId)
    | some zone => .ok (normalizeText zone.name)
  return names.toFinset

/-- The value of a leaf address object. -/
def addressValueFromLeaf (object : SdwanAddrObject) : Except String AddressValue :=
  match object.type with
  | .prefixNet =>
    match object.prefixNet with
    | none => .error ("Prefix address object "++toString object.id++" has no prefix value")
    | some network => .ok (.span (.fromNetwork network))
  | .network =>
    match object.network with
    | none => .error ("Network address object "++toString object.id++
        " has no resolved network value")
    | some network => .ok (.span (.fromNetwork network))
  | .host =>
    match object.host with
    | none => .error ("Host address object "++toString object.id++" has no host value")
    | some host => .ok (.span (.fromHost host))
  | .ipRange =>
    match object.ipRangeFrom,object.ipRangeTo with
    | some start,some stop => .span <$> AddressSpan.fromRange start stop
    | _,_ => .error ("IP range address object "++toString object.id++" has incomplete range")
  | .fqdn =>
    match object.fqdn with
    | none => .error ("FQDN address object "++toString object.id++" has no fqdn value")
    | some fqdn => .ok (.fqdn (.fromRaw fqdn))
  | .addrGroup => .error "ADDR_GROUP must be expanded before leaf normalization"

/-- The value of a leaf with the leaf as evidence. -/
def resolvedAddressValue (object : SdwanAddrObject) :
    Except String (ResolvedCoverageValue AddressValue) := do
  let value ← addressValueFromLeaf object
  return ⟨value,⟨object.id,object.name,value.display⟩⟩

/-- The values of address operands, groups opened. -/
def resolveAddressValues (resolver : RuleValuesResolver) (addrObjectIds : List ℤ) :
    Except String (List (ResolvedCoverageValue AddressValue)) := do
  let values ← addrObjectIds.mapM fun addrObjectId => do
    let leaves ← resolver.addressGroupResolver.resolveLeaves addrObjectId
    leaves.mapM resolvedAddressValue
  return distinctResolvedValues values.flatten

/-- The values of one service. -/
def serviceValues (service : SdwanService) : Except String (List ServiceValue) :=
  match service.l4Proto with
  | .tcp => ports .tcp
  | .udp => ports .udp
  | .icmp => .ok [.ofCodes service.codes]
  | .any => .ok [.any]
  | .ipIp => .ok [.ipIp]
where
  /-- One value for every port range. -/
  ports (proto : PortProto) : Except String (List ServiceValue) :=
    match service.ranges.getD [] with
    | [] => .error ("TCP/UDP service "++toString service.id++" has no port ranges")
    | ranges => ranges.mapM fun range => ServiceValue.ofRange proto range.1 range.2

/-- The values of service operands. -/
def resolveServiceValues (resolver : RuleValuesResolver) (serviceIds : List ℤ) :
    Except String (List (ResolvedCoverageValue ServiceValue)) := do
  let values ← serviceIds.mapM fun serviceId =>
    match resolver.servicesById.get? serviceId with
    | none => .error ("Unknown service id: "++toString serviceId)
    | some service => do
      let values ← serviceValues service
      return values.map fun value => ⟨value,⟨service.id,service.name,value.display⟩⟩
  return distinctResolvedValues values.flatten

/-- All values of a rule. Addresses and services are resolved before zones. -/
def resolveRule (resolver : RuleValuesResolver) (rule : RuleBody) :
    Except String ResolvedRuleValues := do
  let srcAddresses ← resolver.resolveAddressValues rule.srcAddrObjects
  let dstAddresses ← resolver.resolveAddressValues rule.dstAddrObjects
  let services ← resolver.resolveServiceValues rule.services
  let srcZones ← resolver.normalizeZones rule.srcZones
  let dstZones ← resolver.normalizeZones rule.dstZones
  return ⟨⟨normalizeAction rule.action,srcZones,dstZones,valueSet srcAddresses,
    valueSet dstAddresses,valueSet services⟩,srcAddresses,dstAddresses,services,rfl,rfl,rfl⟩

/-- What a resolved rule is made of. -/
theorem resolveRule_eq_ok {resolver : RuleValuesResolver} {rule : RuleBody}
    {values : ResolvedRuleValues} (h : resolver.resolveRule rule=.ok values) :
    values.normalized.action=normalizeAction rule.action ∧
      resolver.normalizeZones rule.srcZones=.ok values.normalized.srcZones ∧
      resolver.normalizeZones rule.dstZones=.ok values.normalized.dstZones ∧
      resolver.resolveAddressValues rule.srcAddrObjects=.ok values.srcAddresses ∧
      resolver.resolveAddressValues rule.dstAddrObjects=.ok values.dstAddresses ∧
      resolver.resolveServiceValues rule.services=.ok values.services := by
  obtain ⟨src,hsrc,h⟩ := bind_eq_ok.mp h
  obtain ⟨dst,hdst,h⟩ := bind_eq_ok.mp h
  obtain ⟨services,hservices,h⟩ := bind_eq_ok.mp h
  obtain ⟨srcZones,hsrcZones,h⟩ := bind_eq_ok.mp h
  obtain ⟨dstZones,hdstZones,h⟩ := bind_eq_ok.mp h
  rw [pure_eq_ok] at h
  subst h
  exact ⟨rfl,hsrcZones,hdstZones,hsrc,hdst,hservices⟩

/-- The normalized zones of a rule are the normalized names of its zones, all
of which exist. -/
theorem mem_normalizeZones {resolver : RuleValuesResolver} {zoneIds : List ℤ}
    {names : Finset String} (h : resolver.normalizeZones zoneIds=.ok names) :
    (∀ zoneId∈zoneIds,∃ zone,resolver.zonesById.get? zoneId=some zone ∧
        normalizeText zone.name∈names) ∧
      ∀ name∈names,∃ zoneId∈zoneIds,∃ zone,
        resolver.zonesById.get? zoneId=some zone ∧ normalizeText zone.name=name := by
  obtain ⟨listed,hlisted,h⟩ := bind_eq_ok.mp h
  rw [pure_eq_ok] at h
  subst h
  constructor
  · intro zoneId hz
    obtain ⟨name,hn,he⟩ := exists_of_mapM_eq_ok hlisted hz
    cases hg : resolver.zonesById.get? zoneId with
    | none => simp [hg] at he
    | some zone =>
      simp only [hg,Except.ok.injEq] at he
      exact ⟨zone,rfl,by rw [he]; exact List.mem_toFinset.mpr hn⟩
  · intro name hn
    obtain ⟨zoneId,hz,he⟩ := exists_of_mem_mapM hlisted (List.mem_toFinset.mp hn)
    cases hg : resolver.zonesById.get? zoneId with
    | none => simp [hg] at he
    | some zone =>
      simp only [hg,Except.ok.injEq] at he
      exact ⟨zoneId,hz,zone,hg,he⟩

end RuleValuesResolver

/-- The texts a set of signatures is sorted by. -/
def sortedSignatures {α : Type} [CoverableMatchableObject α] (values : Finset α) :
    List PyData :=
  letI : LinearOrder (List PyAtom) := LinearOrder.lift' tupleRepr tupleRepr_injective
  ((values.image CoverableMatchableObject.signature).sort (·≤·)).map .tuple

/-- The stable signature of a whole rule. -/
def NormalizedRuleValues.exactSignature (hashFunc : String → String)
    (values : NormalizedRuleValues) : String :=
  jsonHash hashFunc (.dict [
    ("action",.text values.action.value),
    ("src_zones",.list ((sortedTexts values.srcZones).map .text)),
    ("dst_zones",.list ((sortedTexts values.dstZones).map .text)),
    ("src_addresses",.list (sortedSignatures values.srcAddresses)),
    ("dst_addresses",.list (sortedSignatures values.dstAddresses)),
    ("services",.list (sortedSignatures values.services))])

end Resolve

/-- Set coverage in which an empty set covers and is covered by an empty set only. -/
def strSetCovers (existing target : Finset String) : Bool :=
  if target=∅ then decide (existing=∅)
  else if existing=∅ then false
  else decide (target⊆existing)

section Coverage

variable {α : Type} [CoverableMatchableObject α]

/-- Walk through the planned values, collecting under each covering value the
planned values it covers strictly; nothing when a planned value is uncovered. -/
def collectCovered (existing : List (ResolvedCoverageValue α)) :
    List (ResolvedCoverageValue α) → Dict CoverageValue (List CoverageValue) →
      Option (Dict CoverageValue (List CoverageValue))
  | [],covered => some covered
  | planned::rest,covered =>
    match existing.find? fun e => CoverableMatchableObject.covers e.value planned.value with
    | none => none
    | some covering =>
      if CoverableMatchableObject.signature covering.value≠
          CoverableMatchableObject.signature planned.value then
        collectCovered existing rest (covered.append covering.evidence planned.evidence)
      else collectCovered existing rest covered

/-- Coverage of one field, with its strict deltas. -/
def analyzeValuesCoverage (field : CoverageField)
    (existing planned : List (ResolvedCoverageValue α)) : Option (List CoverageDetail) :=
  if planned=[] then if existing=[] then some [] else none
  else if existing=[] then none
  else (collectCovered existing planned Dict.empty).map fun covered =>
    covered.entries.map fun entry => ⟨field,entry.1,entry.2⟩

end Coverage

/-- Coverage of a planned rule by an existing one, field by field. -/
def analyzeCoverage (existing planned : ResolvedRuleValues) : CoverageAnalysis :=
  if existing.normalized.action≠planned.normalized.action ∨
      strSetCovers existing.normalized.srcZones planned.normalized.srcZones=false ∨
      strSetCovers existing.normalized.dstZones planned.normalized.dstZones=false then
    { isCovered := false }
  else
    match analyzeValuesCoverage .srcAddrObjects existing.srcAddresses planned.srcAddresses with
    | none => { isCovered := false }
    | some srcDetails =>
      match analyzeValuesCoverage .dstAddrObjects existing.dstAddresses
          planned.dstAddresses with
      | none => { isCovered := false }
      | some dstDetails =>
        match analyzeValuesCoverage .services existing.services planned.services with
        | none => { isCovered := false }
        | some serviceDetails =>
          { isCovered := true, details := srcDetails++dstDetails++serviceDetails }

end NspMigrator.ExecuteRuleValues
