import Mathlib
import NspMigrator.CanonicalScope
import NspMigrator.ExecuteRepository
import NspMigrator.MappingSchemas

/-!
# Reading a selection of rules for the mapping

The mapping reads its own view of zones, address objects, services and rules.
Kinds, slots and actions are read back from their texts, and a selection that
is empty or names an unknown rule is refused.
-/

namespace NspMigrator.CanonicalReader

open PyDict ExecuteRepository CanonicalModels CanonicalScope MappingSchemas

/-- Snapshots by number. -/
abbrev SnapshotStore := Dict ℕ CanonicalSnapshot

/-- The text of a list of identifiers. -/
def idsText (ids : List ℕ) : String :=
  "["++", ".intercalate (ids.map fun id => "UUID('"++toString id++"')")++"]"

/-- The text of a set of identifiers. -/
def idSetText (ids : List ℕ) : String :=
  if ids=[] then "set()"
  else "\x7b"++", ".intercalate (ids.dedup.map fun id => "UUID('"++toString id++"')")++"\x7d"

/-- The scope of rules of a snapshot that exists. -/
def getCanonicalRuleScope (snapshots : SnapshotStore) (snapshotId : ℕ) (ruleIds : List ℕ) :
    Except PyException GetCanonicalRuleScopeResult :=
  match snapshots.get? snapshotId with
  | none => .error ⟨"CanonicalModuleNotFoundError",
      "Canonical snapshot not found: "++toString snapshotId⟩
  | some snapshot => .ok (snapshot.getCanonicalRuleScope ruleIds)

/-- A kind of address object from its text. -/
def addrObjKind : ObjectKind → Except PyException CanonicalAddrObjKind
  | .host => .ok .host
  | .subnet => .ok .subnet
  | .range => .ok .range
  | .fqdn => .ok .fqdn
  | .anyAddr => .ok .anyAddr
  | .unresolvedAddr => .ok .unresolvedAddr
  | .addrGroup => .ok .addrGroup
  | kind => .error ⟨"ValueError",
      "'"++objectKindValue kind++"' is not a valid CanonicalAddrObjKind"⟩

/-- A kind of service from its text. -/
def serviceKind : ObjectKind → Except PyException CanonicalServiceKind
  | .tcp => .ok .tcp
  | .udp => .ok .udp
  | .icmp => .ok .icmp
  | .ipProto => .ok .ipProto
  | .anyService => .ok .anyService
  | .serviceGroup => .ok .serviceGroup
  | .unresolvedService => .ok .unresolvedService
  | kind => .error ⟨"ValueError",
      "'"++objectKindValue kind++"' is not a valid CanonicalServiceKind"⟩

/-- An object as an address object. -/
def mapCanonicalObjToAddr (dto : CanonicalObjectDTO) : Except PyException CanonicalAddrObject := do
  let kind ← addrObjKind dto.object.value.objectKind
  return {
    id := dto.object.id, kind, name := dto.object.value.name, parentIds := dto.parentIds,
    cidr := dto.object.value.cidr, rangeStart := dto.object.value.rangeStart,
    rangeEnd := dto.object.value.rangeEnd, fqdn := dto.object.value.fqdn }

/-- An object as a service. -/
def mapCanonicalObjToService (dto : CanonicalObjectDTO) : Except PyException CanonicalService := do
  let kind ← serviceKind dto.object.value.objectKind
  return {
    id := dto.object.id, kind, name := dto.object.value.name, parentIds := dto.parentIds,
    protocol := dto.object.value.protocol, portFrom := dto.object.value.portFrom,
    portTo := dto.object.value.portTo, icmpType := dto.object.value.icmpType,
    icmpCode := dto.object.value.icmpCode }

/-- An object as what its family makes of it. -/
def mapCanonicalObj (dto : CanonicalObjectDTO) :
    Except PyException (CanonicalAddrObject ⊕ CanonicalService) :=
  match dto.object.value.objectFamily with
  | .addr => Sum.inl <$> mapCanonicalObjToAddr dto
  | .service => Sum.inr <$> mapCanonicalObjToService dto

/-- The zones, address objects and services of a selection of rules. -/
def getCanonicalScopeEntitiesData (snapshots : SnapshotStore) (snapshotId : ℕ)
    (ruleIds : List ℕ) : Except PyException CanonicalScopeEntities := do
  if ruleIds=[] then
    throw ⟨"MappingModuleError","Canonical rules ids must be provided"⟩
  let result ← getCanonicalRuleScope snapshots snapshotId ruleIds
  if result.rules=[] then
    throw ⟨"MappingModuleNotFoundError",
      "No found canonical rules for provided ids list: "++idsText ruleIds⟩
  if result.rules.length≠ruleIds.length then
    throw ⟨"MappingModuleNotFoundError","Not found canonical rules for ids: "++
      idSetText (ruleIds.filter fun id => decide (id∉result.rules.map (·.rule.id)))⟩
  let objects ← result.objects.mapM mapCanonicalObj
  return {
    zones := result.zones.map fun zone => ⟨zone.id,zone.zoneKey,zone.name⟩
    addrObjects := objects.filterMap Sum.getLeft?
    services := objects.filterMap Sum.getRight? }

/-- One object of a snapshot that exists. The groups it is in are not read. -/
def getCanonicalObject (snapshots : SnapshotStore) (snapshotId objectId : ℕ) :
    Except PyException CanonicalObjectDTO :=
  match snapshots.get? snapshotId with
  | none => .error ⟨"CanonicalModuleNotFoundError",
      "Canonical snapshot not found: "++toString snapshotId⟩
  | some snapshot =>
    match snapshot.objects.find? fun object => decide (object.id=objectId) with
    | none => .error ⟨"CanonicalModuleNotFoundError",
        "Canonical object not found: "++toString objectId⟩
    | some object => .ok ⟨object,[]⟩

/-- One object for the mapping, what was not found being raised under its own name. -/
def readCanonicalObject (snapshots : SnapshotStore) (snapshotId objectId : ℕ) :
    Except PyException CanonicalObjectDTO :=
  match getCanonicalObject snapshots snapshotId objectId with
  | .ok dto => .ok dto
  | .error error =>
    if "not found".toList <:+: error.message.toList then
      .error ⟨"MappingModuleNotFoundError",
        "Not found canonical addr object "++toString objectId⟩
    else .error error

/-- One address object. -/
def getCanonicalAddrObject (snapshots : SnapshotStore) (snapshotId objectId : ℕ) :
    Except PyException CanonicalAddrObject := do
  let dto ← readCanonicalObject snapshots snapshotId objectId
  if dto.object.value.objectFamily≠.addr then
    throw ⟨"MappingModuleNotFoundError","Canonical object "++toString objectId++" is not ADDR"⟩
  mapCanonicalObjToAddr dto

/-- One service. -/
def getCanonicalService (snapshots : SnapshotStore) (snapshotId objectId : ℕ) :
    Except PyException CanonicalService := do
  let dto ← readCanonicalObject snapshots snapshotId objectId
  if dto.object.value.objectFamily≠.service then
    throw ⟨"MappingModuleNotFoundError",
      "Canonical object "++toString objectId++" is not SERVICE"⟩
  mapCanonicalObjToService dto

/-- An action from its text. -/
def ruleAction (action : String) : Except PyException CanonicalRuleAction :=
  if action="PERMIT" then .ok .permit
  else if action="DENY" then .ok .deny
  else .error ⟨"ValueError","'"++action++"' is not a valid CanonicalRuleAction"⟩

/-- A slot from its text. -/
def operandRole : OperandRole → CanonicalRuleOperandRole
  | .srcZone => .srcZone
  | .dstZone => .dstZone
  | .srcObject => .srcObject
  | .dstObject => .dstObject
  | .service => .service

/-- An operand as the mapping sees it. -/
def mapOperand (operand : CanonicalModels.CanonicalRuleOperand) :
    MappingSchemas.CanonicalRuleOperand where
  id := operand.id
  ruleId := operand.ruleId
  role := operandRole operand.operandRole
  targetZoneId := operand.targetZoneId
  targetObjectId := operand.targetObjectId

/-- A rule as the mapping sees it. Whether it is enabled is not read. -/
def mapRule (snapshotId : ℕ) (dto : CanonicalRuleDTO) :
    Except PyException MappingSchemas.CanonicalRule := do
  let action ← ruleAction dto.rule.action
  return {
    id := dto.rule.id, canonicalSnapshotId := snapshotId, name := dto.rule.name, action,
    priority := dto.rule.priority, operands := (dto.operands.getD []).map mapOperand }

/-- The selected rules with their operands. -/
def getCanonicalScopeRules (snapshots : SnapshotStore) (snapshotId : ℕ) (ruleIds : List ℕ) :
    Except PyException (List MappingSchemas.CanonicalRule) := do
  let result ← getCanonicalRuleScope snapshots snapshotId ruleIds
  result.rules.mapM (mapRule snapshotId)

end NspMigrator.CanonicalReader
