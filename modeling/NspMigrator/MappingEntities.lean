import Mathlib
import NspMigrator.SdwanModels
import NspMigrator.ExecuteRepository

/-!
# Entities of a mapping scope

A scope holds one result for every canonical entity of its rules, and the
rules themselves, whose operands point at results. Creation times are left
out: entities stand in the order they were created.
-/

namespace NspMigrator.MappingEntities

open SdwanModels ExecuteRepository

/-- Where the rules of a scope are placed. -/
inductive MappingScopeRulesPriority where
  | localBlock
  | pre
  | post
  deriving DecidableEq

/-- Kinds of entity that are mapped. -/
inductive MappingEntityType where
  | zone
  | addr
  | service
  deriving DecidableEq

/-- The text of a kind of entity. -/
def MappingEntityType.value : MappingEntityType → String
  | .zone => "zone"
  | .addr => "addr"
  | .service => "service"

/-- Kinds of entity in the order of their texts. -/
def MappingEntityType.rank : MappingEntityType → ℕ
  | .addr => 0
  | .service => 1
  | .zone => 2

/-- The outcome of mapping one entity. -/
inductive MappingResultStatus where
  | matched
  | ambiguous
  | unresolved
  deriving DecidableEq

/-- How the selected object was chosen. -/
inductive SdwanObjectSelectionMethod where
  | autoSelected
  | manualCandidate
  | manualDirect
  | autoCreated
  deriving DecidableEq

/-- How a candidate was found. -/
inductive CandidateMatchStrategy where
  | normalizedName
  | exactValue
  | builtinAny
  | serviceSignature
  deriving DecidableEq

/-- Operand slots of a mapped rule. -/
inductive MappingScopeRuleOperandRole where
  | srcZone
  | dstZone
  | srcAddrObject
  | dstAddrObject
  | service
  deriving DecidableEq

/-- The text of a slot. -/
def MappingScopeRuleOperandRole.value : MappingScopeRuleOperandRole → String
  | .srcZone => "src_zone"
  | .dstZone => "dst_zone"
  | .srcAddrObject => "src_addr_object"
  | .dstAddrObject => "dst_addr_object"
  | .service => "service"

/-- Actions of a mapped rule. -/
inductive MappingScopeRuleAction where
  | accept
  | reject
  deriving DecidableEq

/-- An operand points at the result that holds the selected object. -/
structure MappingScopeRuleOperand where
  /-- The number of the operand. -/
  id : ℕ
  /-- The rule it belongs to. -/
  mappingScopeRuleId : ℕ
  /-- Its slot in the rule. -/
  role : MappingScopeRuleOperandRole
  /-- The result it refers to. -/
  mappingEntityResultId : ℕ
  deriving DecidableEq

/-- A canonical rule included into a scope. -/
structure MappingScopeRule where
  /-- The number of the rule. -/
  id : ℕ
  /-- The scope it belongs to. -/
  mappingScopeId : ℕ
  /-- The canonical rule it stands for. -/
  canonicalRuleId : ℕ
  /-- Its name. -/
  name : String
  /-- What it does with the traffic. -/
  action : MappingScopeRuleAction
  /-- Its place among the rules. -/
  priority : ℤ
  /-- Its operands, if they were read. -/
  operands : Option (List MappingScopeRuleOperand)
  deriving DecidableEq

/-- A scope, with its rules once they are attached. -/
structure MappingScope where
  /-- The number of the scope. -/
  id : ℕ
  /-- Its title. -/
  title : String
  /-- The snapshot it maps. -/
  canonicalSnapshotId : ℕ
  /-- The connection it uses. -/
  cspProfileId : ℕ
  /-- The network it is for. -/
  vpcId : String
  /-- The target policies are created on. -/
  sdwanTargetId : String
  /-- The block they go to. -/
  rulesPriority : MappingScopeRulesPriority
  /-- The fingerprint of the catalog it was mapped with. -/
  catalogFingerprint : String
  /-- Its rules, if they were read. -/
  rules : Option (List MappingScopeRule) := none
  deriving DecidableEq

/-- Accept the catalog state produced by an intentional write. -/
def MappingScope.refreshCatalogFingerprint (scope : MappingScope)
    (catalogFingerprint : String) : MappingScope :=
  { scope with catalogFingerprint := catalogFingerprint }

/-- A candidate before it has an identifier. -/
structure MappingEntityCandidatePayload where
  /-- Its place among the candidates. -/
  rank : ℕ
  /-- How good it is. -/
  score : ℕ
  /-- How it was found. -/
  strategy : CandidateMatchStrategy
  /-- The object it proposes. -/
  sdwanEntityId : ℤ
  deriving DecidableEq

/-- A candidate object for one result. -/
structure MappingEntityCandidate where
  /-- The number of the candidate. -/
  id : ℕ
  /-- The result it belongs to. -/
  resultId : ℕ
  /-- Its place among the candidates. -/
  rank : ℕ
  /-- How good it is. -/
  score : ℕ
  /-- How it was found. -/
  strategy : CandidateMatchStrategy
  /-- The object it proposes. -/
  sdwanEntityId : ℤ
  deriving DecidableEq

/-- The result of mapping one entity. -/
structure MappingEntityResult where
  /-- The number of the result. -/
  id : ℕ
  /-- The scope it belongs to. -/
  mappingScopeId : ℕ
  /-- What kind of entity it is for. -/
  entityType : MappingEntityType
  /-- The canonical zone it is for. -/
  canonicalZoneId : Option ℕ
  /-- The canonical object it is for. -/
  canonicalObjectId : Option ℕ
  /-- How far the entity is mapped. -/
  resultStatus : MappingResultStatus
  /-- How the object was selected. -/
  selectionMethod : Option SdwanObjectSelectionMethod
  /-- The selected object. -/
  selectedSdwanEntityId : Option ℤ
  /-- What else was found. -/
  candidates : Option (List MappingEntityCandidate) := none
  deriving DecidableEq

namespace MappingEntityResult

/-- The zone of a zone result, the object of any other. -/
def canonicalEntityId (result : MappingEntityResult) : Except PyException ℕ :=
  if result.entityType=.zone then
    match result.canonicalZoneId with
    | some zoneId => .ok zoneId
    | none => .error ⟨"ValueError","ZONE have no canonical_zone_id"⟩
  else
    match result.canonicalObjectId with
    | some objectId => .ok objectId
    | none =>
      .error ⟨"ValueError",result.entityType.value++" result requires canonical_object_id"⟩

/-- The identifiers of an entity, as a zone and as an object. -/
def resolveCanonicalIdsFields (entityType : MappingEntityType) (canonicalEntityId : ℕ) :
    Option ℕ × Option ℕ :=
  if entityType=.zone then (some canonicalEntityId,none) else (none,some canonicalEntityId)

/-- The result of an entity nothing was found for. -/
def createUnresolved (id mappingScopeId : ℕ) (entityType : MappingEntityType)
    (canonicalEntityId : ℕ) : MappingEntityResult :=
  let ids := resolveCanonicalIdsFields entityType canonicalEntityId
  ⟨id,mappingScopeId,entityType,ids.1,ids.2,.unresolved,none,none,some []⟩

/-- A candidate of a result. -/
def createCandidate (resultId : ℕ) (payload : MappingEntityCandidatePayload) (id : ℕ) :
    MappingEntityCandidate :=
  ⟨id,resultId,payload.rank,payload.score,payload.strategy,payload.sdwanEntityId⟩

/-- The result of an entity several objects were found for. -/
def createAmbiguous (id mappingScopeId : ℕ) (entityType : MappingEntityType)
    (canonicalEntityId : ℕ) (payloads : List MappingEntityCandidatePayload) :
    MappingEntityResult :=
  let ids := resolveCanonicalIdsFields entityType canonicalEntityId
  ⟨id,mappingScopeId,entityType,ids.1,ids.2,.ambiguous,none,none,
    some (payloads.mapIdx fun i payload => createCandidate id payload (id+1+i))⟩

/-- The result of an entity exactly one object was found for. -/
def createMatchedAuto (id mappingScopeId : ℕ) (entityType : MappingEntityType)
    (canonicalEntityId : ℕ) (payload : MappingEntityCandidatePayload) : MappingEntityResult :=
  let ids := resolveCanonicalIdsFields entityType canonicalEntityId
  ⟨id,mappingScopeId,entityType,ids.1,ids.2,.matched,some .autoSelected,
    some payload.sdwanEntityId,some [createCandidate id payload (id+1)]⟩

/-- The result of a zone assigned by hand. -/
def createZoneManuallyAssigned (id mappingScopeId : ℕ) (sdwanZoneId : ℤ) :
    MappingEntityResult :=
  { id, mappingScopeId, entityType := .zone, canonicalZoneId := none,
    canonicalObjectId := none, resultStatus := .matched,
    selectionMethod := some .manualDirect, selectedSdwanEntityId := some sdwanZoneId }

/-- The result with an object and the way it was chosen. -/
def select (result : MappingEntityResult) (method : SdwanObjectSelectionMethod)
    (sdwanEntityId : ℤ) : MappingEntityResult :=
  { result with
    resultStatus := .matched, selectionMethod := some method,
    selectedSdwanEntityId := some sdwanEntityId }

/-- Choose one of the stored candidates. -/
def selectCandidate (result : MappingEntityResult) (candidate : MappingEntityCandidate) :
    Except PyException MappingEntityResult :=
  if candidate.resultId≠result.id then
    .error ⟨"ValueError","Candidate does not belong to this mapping result"⟩
  else .ok (result.select .manualCandidate candidate.sdwanEntityId)

/-- Choose an object that need not be a candidate. -/
def selectDirect (result : MappingEntityResult) (sdwanEntityId : ℤ) : MappingEntityResult :=
  result.select .manualDirect sdwanEntityId

/-- Choose an object that was created for the entity. -/
def selectCreated (result : MappingEntityResult) (sdwanEntityId : ℤ) : MappingEntityResult :=
  result.select .autoCreated sdwanEntityId

end MappingEntityResult

/-- Kinds of address object that can be created. -/
inductive CreatedAddrObjectType where
  | prefixNet
  | host
  | fqdn
  | ipRange
  deriving DecidableEq

/-- A request for an address object. -/
structure CreateAddrObjectPayload where
  /-- What kind of address it is. -/
  type : CreatedAddrObjectType
  /-- The network. -/
  prefixNet : Option String
  /-- The host. -/
  host : Option String
  /-- The domain name. -/
  fqdn : Option String
  /-- The first address of a range. -/
  ipRangeFrom : Option String
  /-- The last address of a range. -/
  ipRangeTo : Option String
  /-- Prefixes have their network. -/
  prefix_set : type=.prefixNet → prefixNet.isSome=true
  /-- Hosts have their address. -/
  host_set : type=.host → host.isSome=true
  /-- Names have their domain. -/
  fqdn_set : type=.fqdn → fqdn.isSome=true
  /-- Ranges have both ends. -/
  range_set : type=.ipRange → ipRangeFrom.isSome=true ∧ ipRangeTo.isSome=true
  deriving DecidableEq

/-- A request for a TCP or UDP service. -/
structure CreateServicePayload where
  /-- The name of the service. -/
  name : String
  /-- Its protocol. -/
  l4Proto : SdwanServiceL4Proto
  /-- The first port. -/
  portStart : ℕ
  /-- The last port. -/
  portEnd : ℕ
  /-- Services are created for port protocols only. -/
  proto : l4Proto=.tcp ∨ l4Proto=.udp
  deriving DecidableEq

end NspMigrator.MappingEntities
