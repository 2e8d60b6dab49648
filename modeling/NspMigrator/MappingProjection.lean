import Mathlib
import NspMigrator.CanonicalReader
import NspMigrator.MappingGroupMembers
import NspMigrator.MappingReader
import NspMigrator.MappingRules
import NspMigrator.SdwanFingerprint

/-!
# The rules of a scope as they are shown

A rule of a scope is shown slot by slot: the canonical entities of its operands
with groups opened, beside each the object its result selects, then what was
assigned by hand. The status of the rule is that of everything it shows.
-/

namespace NspMigrator.MappingProjection

open PyDict Ipv4 SdwanModels SdwanFingerprint ExecuteRepository MappingEntities MappingRepository
open MappingSchemas CanonicalReader MappingGroupIndex MappingRules

/-- The status of a rule that is shown. -/
inductive MappedRuleStatus where
  | mapped
  | ambiguous
  | partly
  | unresolved
  deriving DecidableEq

/-- An SD-WAN object as it is shown. -/
structure SdwanEntityDTO where
  /-- The number of the object. -/
  sdwanId : ℤ
  /-- Its name. -/
  name : String
  /-- Its kind, in words. -/
  type : String
  /-- Its value, in words. -/
  strValue : String
  deriving DecidableEq

/-- A canonical entity as it is shown. -/
structure CanonicalEntityDisplayDTO where
  /-- The number of the entity. -/
  canonicalId : Option ℕ
  /-- The group it is shown under. -/
  parentName : Option String
  /-- Its name. -/
  name : String
  /-- Its kind, in words. -/
  type : String
  /-- Its value, in words. -/
  strValue : Option String
  deriving DecidableEq

/-- A result as it is shown, with its object when it has one. -/
structure MappedSdwanEntityDisplayDTO where
  /-- The result that is shown. -/
  mappingResultId : Option ℕ
  /-- How far the entity is mapped. -/
  matchStatus : MappingResultStatus
  /-- How the object was selected. -/
  selectionMethod : Option SdwanObjectSelectionMethod
  /-- The selected object. -/
  sdwanId : Option ℤ
  /-- Its name. -/
  name : Option String
  /-- Its kind, in words. -/
  type : Option String
  /-- Its value, in words. -/
  strValue : Option String
  deriving DecidableEq

/-- One row: a canonical entity, a result, or both. -/
structure CanonicalToSdwanEntityProjectionDTO where
  /-- The canonical side of the row. -/
  canonical : Option CanonicalEntityDisplayDTO
  /-- The other side. -/
  sdwan : Option MappedSdwanEntityDisplayDTO
  deriving DecidableEq

/-- What is shown in the five slots of a rule. -/
structure RuleSlots (α : Type) where
  /-- The source zones. -/
  srcZones : List α
  /-- The destination zones. -/
  dstZones : List α
  /-- The source address objects. -/
  srcAddrObjects : List α
  /-- The destination address objects. -/
  dstAddrObjects : List α
  /-- The services. -/
  services : List α
  deriving DecidableEq

/-- What is shown in one slot. -/
def RuleSlots.slot {α : Type} (slots : RuleSlots α) : MappingScopeRuleOperandRole → List α
  | .srcZone => slots.srcZones
  | .dstZone => slots.dstZones
  | .srcAddrObject => slots.srcAddrObjects
  | .dstAddrObject => slots.dstAddrObjects
  | .service => slots.services

/-- A canonical rule as it is shown. -/
structure CanonicalRuleDisplayDTO extends RuleSlots CanonicalEntityDisplayDTO where
  /-- The number of the canonical rule. -/
  canonicalRuleId : ℕ
  /-- Its name. -/
  name : String
  /-- What it does with the traffic. -/
  action : CanonicalRuleAction
  /-- Its place among the rules. -/
  priority : ℤ
  deriving DecidableEq

/-- A rule of a scope as it is shown. -/
structure MappingScopeRuleDisplayDTO extends RuleSlots MappedSdwanEntityDisplayDTO where
  /-- The number of the rule in its scope. -/
  mappingScopeRuleId : ℕ
  /-- The canonical rule it was made from. -/
  canonicalRuleId : ℕ
  /-- Its name. -/
  name : String
  /-- What it does with the traffic. -/
  action : MappingScopeRuleAction
  /-- Its place among the rules. -/
  priority : ℤ
  /-- Whether all of it is mapped. -/
  status : MappedRuleStatus
  deriving DecidableEq

/-- A rule of a scope with all its rows. -/
structure MappingCanonicalRuleProjectionDTO extends
    RuleSlots CanonicalToSdwanEntityProjectionDTO where
  /-- The number of the rule in its scope. -/
  mappingScopeRuleId : ℕ
  /-- The canonical rule it was made from. -/
  canonicalRuleId : ℕ
  /-- Its name. -/
  name : String
  /-- What it does with the traffic. -/
  action : MappingScopeRuleAction
  /-- Whether all of it is mapped. -/
  status : MappedRuleStatus
  deriving DecidableEq

/-- Everything that is shown of a scope. -/
structure MappingScopeRulesProjectionDTO where
  /-- The scope that is shown. -/
  mappingScopeId : ℕ
  /-- The snapshot its rules come from. -/
  canonicalSnapshotId : ℕ
  /-- Where its rules are to go. -/
  sdwanTargetId : String
  /-- The canonical rules. -/
  canonicalRules : List CanonicalRuleDisplayDTO
  /-- The rules of the scope, as far as they are mapped. -/
  mappedRules : List MappingScopeRuleDisplayDTO
  /-- The rows of every rule, by its number in the scope. -/
  detailsByRuleId : Dict ℕ MappingCanonicalRuleProjectionDTO
  deriving DecidableEq

/-- The error of something that is not there. -/
def notFoundError (message : String) : PyException := ⟨"MappingModuleNotFoundError",message⟩

/-! ## SD-WAN objects -/

/-- The objects of a catalog, each kind by number. -/
structure SdwanFullCatalogIndex where
  /-- The zones by number. -/
  zonesById : Dict ℤ SdwanZone
  /-- The address objects by number. -/
  addrObjsById : Dict ℤ SdwanAddrObject
  /-- The services by number. -/
  servicesById : Dict ℤ SdwanService

/-- Index a catalog. Of two objects with one number the first is kept. -/
def SdwanFullCatalogIndex.create (catalog : SdwanFullCatalog) : SdwanFullCatalogIndex where
  zonesById := catalog.zones.foldl (fun d zone => d.setdefault zone.id zone) Dict.empty
  addrObjsById := catalog.addrObjs.foldl (fun d object => d.setdefault object.id object) Dict.empty
  servicesById :=
    catalog.services.foldl (fun d service => d.setdefault service.id service) Dict.empty

/-- The value of an address object as it is shown. -/
def buildAddrStrValue (object : SdwanAddrObject) : String :=
  match object.type with
  | .network => (object.network.map networkText).getD "None"
  | .prefixNet => (object.prefixNet.map networkText).getD "None"
  | .host => (object.host.map fun host => dotted host.toInt).getD "None"
  | .fqdn => if object.fqdn.getD ""="" then object.name else object.fqdn.getD ""
  | .ipRange => (object.ipRangeFrom.map fun start => dotted start.toInt).getD "None"++"-"++
      (object.ipRangeTo.map fun stop => dotted stop.toInt).getD "None"
  | .addrGroup => "ADDR GROUP: "++object.name

/-- The value of a service as it is shown. -/
def buildServiceStrValue (service : SdwanService) : String :=
  if service.ranges.getD []≠[] then
    service.l4Proto.value++"/"++",".intercalate ((service.ranges.getD []).map fun range =>
      if range.1=range.2 then toString range.1 else toString range.1++"-"++toString range.2)
  else if service.codes.getD []≠[] then
    service.l4Proto.value++"/"++",".intercalate (service.codes.getD [])
  else service.name

namespace SdwanFullCatalogIndex

variable (index : SdwanFullCatalogIndex)

/-- A zone as it is shown. -/
def getZoneDisplay (zoneId : ℤ) : Except PyException SdwanEntityDTO :=
  match index.zonesById.get? zoneId with
  | none => .error (notFoundError ("SD-WAN zone not found: "++toString zoneId))
  | some zone => .ok ⟨zone.id,zone.name,zone.type.value,zone.name⟩

/-- An address object as it is shown. -/
def getAddrDisplay (addrObjId : ℤ) : Except PyException SdwanEntityDTO :=
  match index.addrObjsById.get? addrObjId with
  | none => .error (notFoundError ("SD-WAN address object not found: "++toString addrObjId))
  | some object => .ok ⟨object.id,object.name,object.type.value,buildAddrStrValue object⟩

/-- A service as it is shown. -/
def getServiceDisplay (serviceId : ℤ) : Except PyException SdwanEntityDTO :=
  match index.servicesById.get? serviceId with
  | none => .error (notFoundError ("SD-WAN service not found: "++toString serviceId))
  | some service =>
    .ok ⟨service.id,service.name,service.l4Proto.value,buildServiceStrValue service⟩

/-- An object of a kind as it is shown. -/
def getDisplayEntity (entityType : MappingEntityType) (sdwanEntityId : ℤ) :
    Except PyException SdwanEntityDTO :=
  match entityType with
  | .zone => index.getZoneDisplay sdwanEntityId
  | .addr => index.getAddrDisplay sdwanEntityId
  | .service => index.getServiceDisplay sdwanEntityId

end SdwanFullCatalogIndex

/-- A result as it is shown. Only a matched one shows an object, and it must have one. -/
def sdwanResultDisplay (index : SdwanFullCatalogIndex) :
    Option MappingEntityResult → Except PyException MappedSdwanEntityDisplayDTO
  | none => .ok ⟨none,.unresolved,none,none,none,none,none⟩
  | some result =>
    if result.resultStatus≠.matched then
      .ok ⟨some result.id,result.resultStatus,result.selectionMethod,none,none,none,none⟩
    else
      match result.selectedSdwanEntityId with
      | none => .error (domainError
          ("Matched mapping result must have selected SD-WAN entity id: "++toString result.id))
      | some sdwanEntityId => do
        let entity ← index.getDisplayEntity result.entityType sdwanEntityId
        return ⟨some result.id,result.resultStatus,result.selectionMethod,some entity.sdwanId,
          some entity.name,some entity.type,some entity.strValue⟩

/-! ## Canonical entities -/

/-- Put a zone under its identifier, once. -/
def addZone (zonesById : Dict ℕ CanonicalZone) (zone : CanonicalZone) :
    Except PyException (Dict ℕ CanonicalZone) :=
  if zonesById.contains zone.id=true then
    .error (domainError ("Duplicate canonical zone id: "++toString zone.id))
  else .ok (zonesById.insert zone.id zone)

/-- Zones by identifier. -/
def canonicalZoneIndex (zones : List CanonicalZone) : Except PyException (Dict ℕ CanonicalZone) :=
  zones.foldlM addZone Dict.empty

/-- The zone with an identifier. -/
def getZone (zonesById : Dict ℕ CanonicalZone) (zoneId : ℕ) : Except PyException CanonicalZone :=
  match zonesById.get? zoneId with
  | none => .error (notFoundError ("Canonical zone not found: "++toString zoneId))
  | some zone => .ok zone

/-- A zone as it is shown. -/
def canonicalZoneDisplay (zone : CanonicalZone) : CanonicalEntityDisplayDTO :=
  ⟨some zone.id,none,zone.name,"zone",some zone.zoneKey⟩

/-- A text, or another when it is missing or empty. -/
def orText (value : Option String) (other : String) : String :=
  if value.getD ""="" then other else value.getD ""

/-- The value of an address object as it is shown. -/
def canonicalAddrStrValue (object : CanonicalAddrObject) : Option String :=
  match object.kind with
  | .addrGroup => none
  | .host | .subnet | .anyAddr => object.cidr
  | .range => some (object.rangeStart.getD "None"++"-"++object.rangeEnd.getD "None")
  | .fqdn => object.fqdn
  | .unresolvedAddr => some object.name

/-- The ports of a service as they are shown. -/
def canonicalL4PortStrValue (service : CanonicalService) : Option String :=
  match service.portFrom,service.portTo with
  | none,_ => service.protocol
  | some portFrom,none => some (service.protocol.getD "None"++"/"++toString portFrom)
  | some portFrom,some portTo =>
    if portTo=portFrom then some (service.protocol.getD "None"++"/"++toString portFrom)
    else some (service.protocol.getD "None"++"/"++toString portFrom++"-"++toString portTo)

/-- The value of a service as it is shown. -/
def canonicalServiceStrValue (service : CanonicalService) : Option String :=
  match service.kind with
  | .serviceGroup => none
  | .anyService => some service.name
  | .tcp | .udp => canonicalL4PortStrValue service
  | .icmp => some ("/".intercalate ([orText service.protocol service.kind.value]++
      (service.icmpType.map fun type => "type="++toString type).toList++
      (service.icmpCode.map fun code => "code="++toString code).toList))
  | .ipProto | .unresolvedService => some (orText service.protocol service.name)

/-- What is shown of the objects of a family. -/
structure ObjectFamily (α : Type) where
  /-- What an operand of the family is called. -/
  operandNoun : String
  /-- The kind its results have. -/
  entityType : MappingEntityType
  /-- How an object is named. -/
  name : α → String
  /-- How its kind is put in words. -/
  kindText : α → String
  /-- How its value is put in words. -/
  strValue : α → Option String

/-- Address objects as they are shown. -/
def addrFamily : ObjectFamily CanonicalAddrObject :=
  ⟨"Address object",.addr,(·.name),(·.kind.value),canonicalAddrStrValue⟩

/-- Services as they are shown. -/
def serviceFamily : ObjectFamily CanonicalService :=
  ⟨"Service",.service,(·.name),(·.kind.value),canonicalServiceStrValue⟩

/-- What a projection looks things up in. -/
structure ProjectionIndexes where
  /-- The canonical rules by number. -/
  canonicalRulesById : Dict ℕ CanonicalRule
  /-- The results by number. -/
  mappingResultsById : Dict ℕ MappingEntityResult
  /-- The canonical zones by number. -/
  zones : Dict ℕ CanonicalZone
  /-- The canonical address objects, with their groups. -/
  addrs : CanonicalObjectIndex CanonicalAddrObject
  /-- The canonical services, with their groups. -/
  services : CanonicalObjectIndex CanonicalService
  /-- The results by the entity they stand for. -/
  results : Dict MappingResultLookupKey MappingEntityResult
  /-- The catalog, by number. -/
  sdwan : SdwanFullCatalogIndex

/-- Index what was read for a projection. -/
def ProjectionIndexes.create (canonicalRules : List CanonicalRule)
    (entities : CanonicalScopeEntities) (mappingResults : List MappingEntityResult)
    (catalog : SdwanFullCatalog) : Except PyException ProjectionIndexes := do
  let zones ← canonicalZoneIndex entities.zones
  let addrs ← CanonicalObjectIndex.create entities.addrObjects
  let services ← CanonicalObjectIndex.create entities.services
  let results ← mappingResultsIndex mappingResults
  return {
    canonicalRulesById := Dict.ofList (canonicalRules.map fun rule => (rule.id,rule))
    mappingResultsById := Dict.ofList (mappingResults.map fun result => (result.id,result))
    zones, addrs, services, results, sdwan := .create catalog }

section Objects

variable {α : Type} [GroupedObject α] (family : ObjectFamily α) (index : CanonicalObjectIndex α)
  (indexes : ProjectionIndexes)

open GroupedObject

/-- The name of the group an object is shown in. -/
def getParentName : Option ℕ → Except PyException (Option String)
  | none => .ok none
  | some parentId => do
    let parent ← index.get parentId
    return some (family.name parent)

/-- An object as it is shown. -/
def canonicalObjectDisplay (object : α) (parentId : Option ℕ) :
    Except PyException CanonicalEntityDisplayDTO := do
  let parentName ← getParentName family index parentId
  return ⟨some (objectId object),parentName,family.name object,family.kindText object,
    family.strValue object⟩

/-- The row of an object. A group has no result of its own. -/
def buildObjectProjection (object : α) (parentId : Option ℕ) :
    Except PyException CanonicalToSdwanEntityProjectionDTO := do
  let canonical ← canonicalObjectDisplay family index object parentId
  if isGroup object=true then return ⟨some canonical,none⟩
  else
    let sdwan ← sdwanResultDisplay indexes.sdwan
      (indexes.results.get? (family.entityType,objectId object))
    return ⟨some canonical,some sdwan⟩

/-- The rows of an operand: its object, or everything below its group. -/
def buildObjectOperandProjection (operand : CanonicalRuleOperand) :
    Except PyException (List CanonicalToSdwanEntityProjectionDTO) :=
  match operand.targetObjectId with
  | none => .error (domainError
      (family.operandNoun++" operand "++toString operand.id++" has no target_object_id"))
  | some targetId => do
    let object ← index.get targetId
    if isGroup object=true then
      let members ← MappingGroupMembers.CanonicalObjectIndex.resolveGroupMembers index
        (objectId object)
      members.mapM fun member => buildObjectProjection family index indexes member.obj
        member.parentId
    else
      let row ← buildObjectProjection family index indexes object none
      return [row]

/-- The object of an operand as its rule shows it, groups as they are. -/
def objectOperandSummary (operand : CanonicalRuleOperand) :
    Except PyException (List CanonicalEntityDisplayDTO) :=
  match operand.targetObjectId with
  | none => .ok []
  | some targetId => do
    let object ← index.get targetId
    let display ← canonicalObjectDisplay family index object none
    return [display]

end Objects

section Rules

variable (indexes : ProjectionIndexes)

/-- The row of a zone operand. -/
def buildZoneOperandProjection (operand : CanonicalRuleOperand) :
    Except PyException (List CanonicalToSdwanEntityProjectionDTO) :=
  match operand.targetZoneId with
  | none =>
    .error (domainError ("Zone operand "++toString operand.id++" has no target_zone_id"))
  | some zoneId => do
    let zone ← getZone indexes.zones zoneId
    let sdwan ← sdwanResultDisplay indexes.sdwan (indexes.results.get? (.zone,zone.id))
    return [⟨some (canonicalZoneDisplay zone),some sdwan⟩]

/-- The rows of an address operand. -/
def buildAddrOperandProjection :
    CanonicalRuleOperand → Except PyException (List CanonicalToSdwanEntityProjectionDTO) :=
  buildObjectOperandProjection addrFamily indexes.addrs indexes

/-- The rows of a service operand. -/
def buildServiceOperandProjection :
    CanonicalRuleOperand → Except PyException (List CanonicalToSdwanEntityProjectionDTO) :=
  buildObjectOperandProjection serviceFamily indexes.services indexes

/-- The rows of an operand. -/
def buildCanonicalOperandProjection (operand : CanonicalRuleOperand) :
    Except PyException (List CanonicalToSdwanEntityProjectionDTO) :=
  match operand.role with
  | .srcZone | .dstZone => buildZoneOperandProjection indexes operand
  | .srcObject | .dstObject => buildAddrOperandProjection indexes operand
  | .service => buildServiceOperandProjection indexes operand

/-- Whether a result was not made for a canonical entity. -/
def isManualResultWithoutCanonical (result : MappingEntityResult) : Bool :=
  decide (result.canonicalZoneId=none) && decide (result.canonicalObjectId=none)

/-- The result of an operand that was assigned by hand. -/
def manualOperandResult (mappedRole : MappingScopeRuleOperandRole)
    (operand : MappingScopeRuleOperand) : Option MappingEntityResult :=
  if operand.role≠mappedRole then none
  else (indexes.mappingResultsById.get? operand.mappingEntityResultId).filter
    isManualResultWithoutCanonical

/-- The rows of what was assigned to a slot by hand. -/
def buildManualOperandProjection (mappingRule : MappingScopeRule)
    (mappedRole : MappingScopeRuleOperandRole) :
    Except PyException (List CanonicalToSdwanEntityProjectionDTO) :=
  ((mappingRule.operands.getD []).filterMap (manualOperandResult indexes mappedRole)).mapM
    fun result => do
      let sdwan ← sdwanResultDisplay indexes.sdwan (some result)
      return ⟨none,some sdwan⟩

/-- The rows of one slot. -/
def buildRoleProjection (canonicalRule : CanonicalRule) (mappingRule : MappingScopeRule)
    (canonicalRole : CanonicalRuleOperandRole) (mappedRole : MappingScopeRuleOperandRole) :
    Except PyException (List CanonicalToSdwanEntityProjectionDTO) := do
  let rows ← (canonicalRule.operands.filter fun operand =>
    decide (operand.role=canonicalRole)).mapM (buildCanonicalOperandProjection indexes)
  let manual ← buildManualOperandProjection indexes mappingRule mappedRole
  return rows.flatten++manual

/-- The results that are shown in rows. -/
def extractSdwanEntities (rows : List CanonicalToSdwanEntityProjectionDTO) :
    List MappedSdwanEntityDisplayDTO :=
  rows.filterMap (·.sdwan)

/-- The statuses of rows. A match without an object counts as unresolved. -/
def extractMappingStatuses (rows : List CanonicalToSdwanEntityProjectionDTO) :
    List MappingResultStatus :=
  (extractSdwanEntities rows).map fun display =>
    if display.matchStatus=.matched ∧ display.sdwanId=none then .unresolved
    else display.matchStatus

/-- The status of a rule from those of what it shows. -/
def aggregateMappingStatuses (statuses : List MappingResultStatus) : MappedRuleStatus :=
  if statuses=[] then .unresolved
  else if statuses.count .matched=statuses.length then .mapped
  else if statuses.count .unresolved>0 then
    if statuses.count .matched>0 ∨ statuses.count .ambiguous>0 then .partly else .unresolved
  else if statuses.count .ambiguous>0 then .ambiguous
  else .partly

/-- The status of a rule from its slots, each of which must show a result. -/
def aggregateRuleStatusByRoles (slots : RuleSlots CanonicalToSdwanEntityProjectionDTO) :
    MappedRuleStatus :=
  let statuses := extractMappingStatuses (slots.srcZones++slots.dstZones++slots.srcAddrObjects++
    slots.dstAddrObjects++slots.services)
  let requiredRoles := [slots.srcZones,slots.dstZones,slots.srcAddrObjects,slots.dstAddrObjects,
    slots.services]
  aggregateMappingStatuses
    (if requiredRoles.all (fun rows => rows.any (·.sdwan.isSome))=true then statuses
      else statuses++[.unresolved])

/-- A rule with all its rows. -/
def buildRuleDetails (mappingRule : MappingScopeRule) (canonicalRule : CanonicalRule) :
    Except PyException MappingCanonicalRuleProjectionDTO := do
  let srcZones ← buildRoleProjection indexes canonicalRule mappingRule .srcZone .srcZone
  let dstZones ← buildRoleProjection indexes canonicalRule mappingRule .dstZone .dstZone
  let srcAddrObjects ←
    buildRoleProjection indexes canonicalRule mappingRule .srcObject .srcAddrObject
  let dstAddrObjects ←
    buildRoleProjection indexes canonicalRule mappingRule .dstObject .dstAddrObject
  let services ← buildRoleProjection indexes canonicalRule mappingRule .service .service
  let slots : RuleSlots CanonicalToSdwanEntityProjectionDTO :=
    ⟨srcZones,dstZones,srcAddrObjects,dstAddrObjects,services⟩
  return { slots with
    mappingScopeRuleId := mappingRule.id, canonicalRuleId := canonicalRule.id,
    name := mappingRule.name, action := mappingRule.action,
    status := aggregateRuleStatusByRoles slots }

/-- The entities of an operand as its rule shows them. -/
def canonicalOperandSummaryEntities (operand : CanonicalRuleOperand) :
    Except PyException (List CanonicalEntityDisplayDTO) :=
  match operand.role with
  | .srcZone | .dstZone =>
    match operand.targetZoneId with
    | none => .ok []
    | some zoneId => do
      let zone ← getZone indexes.zones zoneId
      return [canonicalZoneDisplay zone]
  | .srcObject | .dstObject => objectOperandSummary addrFamily indexes.addrs operand
  | .service => objectOperandSummary serviceFamily indexes.services operand

/-- A canonical rule as it is shown, groups unopened. -/
def buildCanonicalRuleRow (canonicalRule : CanonicalRule) :
    Except PyException CanonicalRuleDisplayDTO := do
  let entities ← canonicalRule.operands.mapM fun operand => do
    let displays ← canonicalOperandSummaryEntities indexes operand
    return (operand.role,displays)
  let ofRole := fun role : CanonicalRuleOperandRole =>
    ((entities.filter fun entry => decide (entry.1=role)).map Prod.snd).flatten
  return {
    srcZones := ofRole .srcZone, dstZones := ofRole .dstZone,
    srcAddrObjects := ofRole .srcObject, dstAddrObjects := ofRole .dstObject,
    services := ofRole .service, canonicalRuleId := canonicalRule.id,
    name := canonicalRule.name, action := canonicalRule.action,
    priority := canonicalRule.priority }

/-- A rule of the scope as it is shown, taken from its rows. -/
def buildMappedRuleRow (mappingRule : MappingScopeRule)
    (details : MappingCanonicalRuleProjectionDTO) : MappingScopeRuleDisplayDTO where
  srcZones := extractSdwanEntities details.srcZones
  dstZones := extractSdwanEntities details.dstZones
  srcAddrObjects := extractSdwanEntities details.srcAddrObjects
  dstAddrObjects := extractSdwanEntities details.dstAddrObjects
  services := extractSdwanEntities details.services
  mappingScopeRuleId := mappingRule.id
  canonicalRuleId := mappingRule.canonicalRuleId
  name := mappingRule.name
  action := mappingRule.action
  priority := mappingRule.priority
  status := details.status

/-- The canonical rule of a rule. -/
def getCanonicalRule (canonicalRuleId : ℕ) : Except PyException CanonicalRule :=
  match indexes.canonicalRulesById.get? canonicalRuleId with
  | none => .error (notFoundError ("Canonical rule "++toString canonicalRuleId++
      " not found for mapping projection"))
  | some rule => .ok rule

/-- What is shown of one rule. -/
structure RuleView where
  /-- The canonical side. -/
  canonical : CanonicalRuleDisplayDTO
  /-- The rule of the scope. -/
  mapped : MappingScopeRuleDisplayDTO
  /-- Its rows. -/
  details : MappingCanonicalRuleProjectionDTO

/-- One rule, its rows first. -/
def buildRule (mappingRule : MappingScopeRule) : Except PyException RuleView := do
  let canonicalRule ← getCanonicalRule indexes mappingRule.canonicalRuleId
  let details ← buildRuleDetails indexes mappingRule canonicalRule
  let canonicalRow ← buildCanonicalRuleRow indexes canonicalRule
  return ⟨canonicalRow,buildMappedRuleRow mappingRule details,details⟩

/-- The rules of a scope by priority. -/
def build (scope : MappingScope) (mappingRules : List MappingScopeRule) :
    Except PyException MappingScopeRulesProjectionDTO := do
  let views ← (mappingRules.insertionSort fun a b => a.priority≤b.priority).mapM
    (buildRule indexes)
  return {
    mappingScopeId := scope.id, canonicalSnapshotId := scope.canonicalSnapshotId,
    sdwanTargetId := scope.sdwanTargetId, canonicalRules := views.map (·.canonical),
    mappedRules := views.map (·.mapped),
    detailsByRuleId := Dict.ofList (views.map fun view =>
      (view.details.mappingScopeRuleId,view.details)) }

end Rules

/-- The rules of a scope as they are shown, with the snapshots and the catalog
they are shown on. -/
def getMappingScopeRulesProjection (store : ScopeStore) (snapshots : SnapshotStore)
    (catalog : SdwanFullCatalog) (scopeId : ℕ) :
    Except PyException MappingScopeRulesProjectionDTO :=
  match getScopeById store scopeId with
  | none => .error (notFoundError ("Mapping scope "++toString scopeId++" not found"))
  | some scope =>
    match scope.rules with
    | none =>
      .error (notFoundError ("Rules not provided for mapping scope "++toString scopeId))
    | some mappingRules => do
      let mappingResults := listResults store scope.id none none
      let canonicalRuleIds := mappingRules.map (·.canonicalRuleId)
      let canonicalRules ←
        getCanonicalScopeRules snapshots scope.canonicalSnapshotId canonicalRuleIds
      let entities ←
        getCanonicalScopeEntitiesData snapshots scope.canonicalSnapshotId canonicalRuleIds
      let indexes ← ProjectionIndexes.create canonicalRules entities mappingResults catalog
      build indexes scope mappingRules

end NspMigrator.MappingProjection
