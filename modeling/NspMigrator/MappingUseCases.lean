import Mathlib
import NspMigrator.ExecutePush
import NspMigrator.MappingRepository
import NspMigrator.MappingSchemas

/-!
# Working on a mapping scope

A scope is mapped once. After that its results are selected by hand or with a
newly created object, zones are assigned to all its rules, and its fingerprint
is refreshed after writes to the controller.
-/

namespace NspMigrator.MappingUseCases

open PyAsync PyDict PyText SdwanModels SdwanFingerprint ExecuteRepository ExecutePlan ExecutePush
open MappingEntities MappingRepository MappingSchemas

/-- The operations the mapping awaits. -/
inductive MappingOp where
  | newIds
  | getScopeById (scopeId : ℕ)
  | getResult (scopeId resultId : ℕ)
  | listResults (scopeId : ℕ) (entityType : Option MappingEntityType)
      (status : Option MappingResultStatus)
  | saveResult (result : MappingEntityResult)
  | addScope (scope : MappingScope)
  | addResults (scopeId : ℕ) (results : List MappingEntityResult)
  | attachRules (scopeId : ℕ) (rules : List MappingScopeRule)
  | addRuleOperand (scopeId : ℕ) (operand : MappingScopeRuleOperand)
  | refreshCatalogFingerprint (scopeId : ℕ) (catalogFingerprint : String)
  | acquire (profileId : ℕ) (vpcId : String)
  | release
  | getDeviceObject (devObjId : String)
  | getSdwanFullCatalog
  | getZone (zoneId : ℤ)
  | getService (serviceId : ℤ)
  | getAddrObject (addrObjectId : ℤ)
  | createAddrObject (payload : CreateAddrObjectPayload)
  | createService (payload : CreateServicePayload)
  | getCanonicalAddrObject (snapshotId objectId : ℕ)
  | getCanonicalService (snapshotId objectId : ℕ)
  | getCanonicalScopeEntitiesData (snapshotId : ℕ) (ruleIds : List ℕ)
  | getCanonicalScopeRules (snapshotId : ℕ) (ruleIds : List ℕ)

/-- What the operations of the mapping answer. -/
@[reducible] def MappingAns : MappingOp → Type
  | .newIds => ℕ
  | .getScopeById _ => Option MappingScope
  | .getResult _ _ => Option MappingEntityResult
  | .listResults _ _ _ => List MappingEntityResult
  | .saveResult _ => MappingEntityResult
  | .refreshCatalogFingerprint _ _ => MappingScope
  | .addScope _ | .addResults _ _ | .attachRules _ _ | .addRuleOperand _ _ => Unit
  | .acquire _ _ | .release => Unit
  | .getDeviceObject _ => Option SdwanDeviceObject
  | .getSdwanFullCatalog => SdwanFullCatalog
  | .getZone _ => Option SdwanZone
  | .getService _ => Option SdwanService
  | .getAddrObject _ => Option SdwanAddrObject
  | .createAddrObject _ => SdwanAddrObject
  | .createService _ => SdwanService
  | .getCanonicalAddrObject _ _ => Option CanonicalAddrObject
  | .getCanonicalService _ _ => Option CanonicalService
  | .getCanonicalScopeEntitiesData _ _ => CanonicalScopeEntities
  | .getCanonicalScopeRules _ _ => List CanonicalRule

/-- A computation of the mapping. -/
abbrev Mapping := Async MappingOp MappingAns PyException

/-- One awaited operation of the mapping. -/
abbrev MappingEvent := Event MappingOp MappingAns PyException

/-- Await an operation. -/
abbrev await (op : MappingOp) : Mapping (MappingAns op) := Async.call op

/-- Work with an acquired client, which is released however the work ends. -/
def withGateway {α : Type} (profileId : ℕ) (vpcId : String) (body : Mapping α) :
    Mapping α :=
  Async.within (.acquire profileId vpcId) .release body

/-- Choose one of the candidates found for an entity. -/
def selectEntityCandidate (scopeId resultId candidateId : ℕ) : Mapping MappingEntityResult := do
  let found : Option MappingEntityResult ← await (.getResult scopeId resultId)
  match found with
  | none => Async.raise ⟨"MappingModuleNotFoundError",
      "Mapping Result with id "++toString resultId++" not found"⟩
  | some result =>
    match result.candidates.getD [] with
    | [] => Async.raise ⟨"MappingModuleDomainValidationError","Candidates not provided"⟩
    | [_] => Async.raise ⟨"MappingModuleDomainValidationError",
        "Mapping Result with id "++toString resultId++" has single candidate only"⟩
    | candidates =>
      match (Dict.ofList (candidates.map fun c => (c.id,c))).get? candidateId with
      | none => Async.raise ⟨"MappingModuleDomainValidationError","Candidate "++
          toString candidateId++" not linked to MappingResult "++toString resultId⟩
      | some candidate => do
        let updated ← Async.ofExcept (result.selectCandidate candidate)
        let _ ← await (.saveResult updated)
        return updated

/-- The number of an object the controller knows. -/
def findSdwanEntity (entityType : MappingEntityType) (sdwanEntityId : ℤ) :
    Mapping (Option ℤ) := do
  match entityType with
  | .zone => do
    let zone : Option SdwanZone ← await (.getZone sdwanEntityId)
    return zone.map (·.id)
  | .service => do
    let service : Option SdwanService ← await (.getService sdwanEntityId)
    return service.map (·.id)
  | .addr => do
    let object : Option SdwanAddrObject ← await (.getAddrObject sdwanEntityId)
    return object.map (·.id)

/-- Choose any object the controller knows. -/
def selectSdwanEntityDirectly (scopeId resultId : ℕ) (sdwanEntityId : ℤ) :
    Mapping MappingEntityResult := do
  let found : Option MappingEntityResult ← await (.getResult scopeId resultId)
  match found with
  | none => Async.raise ⟨"MappingModuleNotFoundError",
      "Mapping Result with id "++toString resultId++" not found"⟩
  | some result =>
    let scope : Option MappingScope ← await (.getScopeById scopeId)
    match scope with
    | none => Async.raise ⟨"MappingModuleNotFoundError","Mapping scope not found"⟩
    | some scope =>
      let entity ← withGateway scope.cspProfileId scope.vpcId
        (findSdwanEntity result.entityType sdwanEntityId)
      match entity with
      | none => Async.raise ⟨"MappingModuleNotFoundError","Sdwan entity with id "++
          toString sdwanEntityId++" and type `"++result.entityType.value++"` not found"⟩
      | some entityId => do
        let updated := result.selectDirect entityId
        let _ ← await (.saveResult updated)
        return updated

/-- The two directions a zone is assigned in. -/
inductive ZoneDirection where
  | srcZone
  | dstZone
  deriving DecidableEq

/-- The slot of a direction. -/
def mapZoneDirection : ZoneDirection → MappingScopeRuleOperandRole
  | .srcZone => .srcZone
  | .dstZone => .dstZone

/-- Rules without the zone in a slot. -/
def rulesWithoutZone (rules : List MappingScopeRule) (role : MappingScopeRuleOperandRole)
    (matchingZoneResults : List MappingEntityResult) : List MappingScopeRule :=
  rules.filter fun rule => !((rule.operands.getD []).any fun operand =>
    decide (operand.role=role) &&
      decide (operand.mappingEntityResultId∈matchingZoneResults.map (·.id)))

/-- The first result that was assigned by hand. -/
def manualResult (matchingZoneResults : List MappingEntityResult) : Option MappingEntityResult :=
  matchingZoneResults.find? fun result =>
    decide (result.canonicalZoneId=none) && decide (result.canonicalObjectId=none)

/-- The result that already stands for a zone. -/
def existingMappingResult (matchingZoneResults : List MappingEntityResult) :
    Except PyException MappingEntityResult :=
  match manualResult matchingZoneResults,matchingZoneResults with
  | some result,_ => .ok result
  | none,result::_ => .ok result
  | none,[] => .error ⟨"IndexError","list index out of range"⟩

/-- The results of a scope that select a zone. -/
def getMatchingZoneResults (scopeId : ℕ) (sdwanZoneId : ℤ) :
    Mapping (List MappingEntityResult) := do
  let results : List MappingEntityResult ← await (.listResults scopeId (some .zone) none)
  return results.filter fun result => decide (result.resultStatus=.matched) &&
    decide (result.selectedSdwanEntityId=some sdwanZoneId)

/-- Use the zone's manual result, or create it once for the scope. -/
def getOrCreateManualZoneResult (scopeId : ℕ) (sdwanZoneId : ℤ)
    (matchingZoneResults : List MappingEntityResult) : Mapping MappingEntityResult := do
  match manualResult matchingZoneResults with
  | some result => return result
  | none =>
    let id : ℕ ← await .newIds
    let result := MappingEntityResult.createZoneManuallyAssigned id scopeId sdwanZoneId
    let _ ← await (.addResults scopeId [result])
    return result

/-- Attach a result to every rule that needs it. -/
def addZoneOperands (scopeId : ℕ) (rules : List MappingScopeRule)
    (role : MappingScopeRuleOperandRole) (mappingResultId : ℕ) :
    Mapping (List MappingScopeRuleOperand) :=
  rules.foldlM (fun operands rule => do
    let id : ℕ ← await .newIds
    let operand : MappingScopeRuleOperand := ⟨id,rule.id,role,mappingResultId⟩
    let _ ← await (.addRuleOperand scopeId operand)
    return operands++[operand]) []

/-- Assign a zone to every rule of a scope that lacks it. -/
def assignZoneForScope (zoneDirection : ZoneDirection) (zoneSdwanId : ℤ) (scopeId : ℕ) :
    Mapping (MappingEntityResult × List MappingScopeRuleOperand) := do
  let scope : Option MappingScope ← await (.getScopeById scopeId)
  match scope with
  | none => Async.raise ⟨"MappingModuleNotFoundError",
      "Mapping scope with id "++toString scopeId++" not found"⟩
  | some scope =>
    if scope.rules.getD []=[] then
      Async.raise ⟨"MappingModuleNotFoundError",
        "Not provided rules for mapping scope "++toString scopeId⟩
    else
      let zone : Option SdwanZone ← withGateway scope.cspProfileId scope.vpcId
        (await (.getZone zoneSdwanId))
      match zone with
      | none => Async.raise ⟨"MappingModuleNotFoundError",
          "Zone with id "++toString zoneSdwanId++" not found in SD-WAN"⟩
      | some zone =>
        let matching ← getMatchingZoneResults scope.id zone.id
        let role := mapZoneDirection zoneDirection
        let rules := rulesWithoutZone (scope.rules.getD []) role matching
        if rules=[] then
          let result ← Async.ofExcept (existingMappingResult matching)
          return (result,[])
        else
          let result ← getOrCreateManualZoneResult scope.id zone.id matching
          let operands ← addZoneOperands scope.id rules role result.id
          return (result,operands)

/-- Accept the current catalog of the controller as the baseline of a scope. -/
def refreshMappingScopeCatalogFingerprint [PyUnicode] (hashFunc : String → String)
    (scopeId : ℕ) : Mapping (MappingScope × Bool) := do
  let scope : Option MappingScope ← await (.getScopeById scopeId)
  match scope with
  | none => Async.raise ⟨"MappingModuleNotFoundError",
      "Mapping scope "++toString scopeId++" not found"⟩
  | some scope =>
    let catalog : SdwanFullCatalog ← withGateway scope.cspProfileId scope.vpcId
      (await .getSdwanFullCatalog)
    if getFingerprint hashFunc catalog=scope.catalogFingerprint then return (scope,false)
    else
      let refreshed : MappingScope ←
        await (.refreshCatalogFingerprint scope.id (getFingerprint hashFunc catalog))
      return (refreshed,true)

/-- The kind of object created for a canonical address object. -/
def addrObjectTypeMap : CanonicalAddrObjKind → Option CreatedAddrObjectType
  | .host => some .host
  | .subnet => some .prefixNet
  | .fqdn => some .fqdn
  | .range => some .ipRange
  | _ => none

/-- The request for a canonical address object, refused without the value of its kind. -/
def createAddrObjectPayload (type : CreatedAddrObjectType) (object : CanonicalAddrObject) :
    Except PyException CreateAddrObjectPayload :=
  let host := if object.cidr.getD ""="" then none
    else object.cidr.map (firstPart '/')
  if hprefix : type=.prefixNet → object.cidr.isSome=true then
    if hhost : type=.host → host.isSome=true then
      if hfqdn : type=.fqdn → object.fqdn.isSome=true then
        if hrange : type=.ipRange → object.rangeStart.isSome=true ∧ object.rangeEnd.isSome=true then
          .ok ⟨type,object.cidr,host,object.fqdn,object.rangeStart,object.rangeEnd,
            hprefix,hhost,hfqdn,hrange⟩
        else .error ⟨"ValueError","IP Range addr obj must have from and to values"⟩
      else .error ⟨"ValueError","FQDN addr obj must have fqdn string"⟩
    else .error ⟨"ValueError","Host addr obj must have host address"⟩
  else .error ⟨"ValueError","Prefix addr obj must have prefix net"⟩

/-- The request for a canonical service, refused without ports. -/
def createServicePayload (service : CanonicalService) :
    Except PyException CreateServicePayload :=
  if h : service.kind=.tcp ∨ service.kind=.udp then
    match service.portFrom,service.portTo with
    | some portFrom,some portTo =>
      .ok ⟨service.name,if service.kind=.tcp then .tcp else .udp,portFrom,portTo,by
        by_cases htcp : service.kind=.tcp
        · exact Or.inl (if_pos htcp)
        · exact Or.inr (if_neg htcp)⟩
    | _,_ => .error ⟨"ValueError","TCP/UDP addr obj must have range ports"⟩
  else .error ⟨"ValueError",
    "Service proto `"++service.kind.value++"` not supported for auto-creation"⟩

/-- Create an address object like the one of a result. -/
def createForAddr (scope : MappingScope) (result : MappingEntityResult) : Mapping ℤ := do
  let objectId ← Async.ofExcept result.canonicalEntityId
  let object : Option CanonicalAddrObject ←
    await (.getCanonicalAddrObject scope.canonicalSnapshotId objectId)
  match object with
  | none =>
    Async.raise ⟨"ValueError","Canonical addr obj "++toString objectId++" not found"⟩
  | some object =>
    match addrObjectTypeMap object.kind with
    | none => Async.raise ⟨"ValueError",
        "Addr object kind `"++object.kind.value++"` not supported for auto-creation"⟩
    | some type =>
      withGateway scope.cspProfileId scope.vpcId do
        let payload ← Async.ofExcept (createAddrObjectPayload type object)
        let created : SdwanAddrObject ← await (.createAddrObject payload)
        return created.id

/-- Create a service like the one of a result. -/
def createForService (scope : MappingScope) (result : MappingEntityResult) : Mapping ℤ := do
  let objectId ← Async.ofExcept result.canonicalEntityId
  let service : Option CanonicalService ←
    await (.getCanonicalService scope.canonicalSnapshotId objectId)
  match service with
  | none =>
    Async.raise ⟨"ValueError","Canonical service "++toString objectId++" not found"⟩
  | some service =>
    if service.kind≠.tcp ∧ service.kind≠.udp then
      Async.raise ⟨"ValueError",
        "Service proto `"++service.kind.value++"` not supported for auto-creation"⟩
    else
      withGateway scope.cspProfileId scope.vpcId do
        let payload ← Async.ofExcept (createServicePayload service)
        let created : SdwanService ← await (.createService payload)
        return created.id

/-- Create an object for a result and choose it. -/
def selectEntityWithCreateOnSdwan [PyUnicode] (hashFunc : String → String)
    (scopeId resultId : ℕ) (refresh : Bool) : Mapping (MappingEntityResult × Bool) := do
  let found : Option MappingEntityResult ← await (.getResult scopeId resultId)
  match found with
  | none => Async.raise ⟨"MappingModuleNotFoundError",
      "Mapping Result with id "++toString resultId++" does not exist"⟩
  | some result =>
    if result.entityType=.zone then
      Async.raise ⟨"ValueError","Zone can't be created automatically on SD-WAN"⟩
    else
      let scope : Option MappingScope ← await (.getScopeById scopeId)
      match scope with
      | none => Async.raise ⟨"ValueError",
          "Mapping scope "++toString result.mappingScopeId++" not found"⟩
      | some scope =>
        let createdId ← if result.entityType=.addr then createForAddr scope result
          else createForService scope result
        let updated := result.selectCreated createdId
        let _ ← await (.saveResult updated)
        if refresh=true then
          let refreshed ← refreshMappingScopeCatalogFingerprint hashFunc scope.id
          return (updated,refreshed.2)
        else return (updated,false)

/-- How many results could be chosen, and the texts of the failures. -/
structure AutoSelectResult where
  /-- How many results could not be selected for. -/
  failedSelects : ℕ
  /-- How many were. -/
  successSelects : ℕ
  /-- What went wrong. -/
  errors : List String
  /-- Whether the catalog has changed since the mapping. -/
  catalogFingerprintChanged : Bool
  deriving DecidableEq

/-- Create and choose objects for all results without one. -/
def autoSelectEntitiesWithCreate [PyUnicode] (hashFunc : String → String) (scopeId : ℕ) :
    Mapping AutoSelectResult := do
  let scope : Option MappingScope ← await (.getScopeById scopeId)
  match scope with
  | none => Async.raise ⟨"MappingModuleNotFoundError",
      "Mapping scope "++toString scopeId++" not found"⟩
  | some scope =>
    let unresolved : List MappingEntityResult ←
      await (.listResults scope.id none (some .unresolved))
    let done : ℕ × List String ← unresolved.foldlM (fun done result => do
      let outcome ←
        (selectEntityWithCreateOnSdwan hashFunc scope.id result.id false).attempt
      match outcome with
      | .ok _ => return (done.1+1,done.2)
      | .error error => return (done.1,done.2++[error.message])) (0,[])
    if done.1>0 then
      let refreshed ← refreshMappingScopeCatalogFingerprint hashFunc scope.id
      return ⟨done.2.length,done.1,done.2,refreshed.2⟩
    else return ⟨done.2.length,done.1,done.2,false⟩

/-- The services that build the results and the rules of a scope, each with
the identifiers it may use. -/
structure MappingServices where
  /-- Results for zones, address objects and services. -/
  buildResults (firstId scopeId : ℕ) (entities : CanonicalScopeEntities)
    (catalog : SdwanFullCatalog) : Except PyException (List MappingEntityResult)
  /-- Rules with operands that point at results. -/
  buildRules (firstId scopeId : ℕ) (rules : List CanonicalRule)
    (entities : CanonicalScopeEntities) (results : List MappingEntityResult) :
    Except PyException (List MappingScopeRule)

/-- A request for a new scope. -/
structure MapCanonicalToSdwanCommand where
  /-- The title of the scope. -/
  title : String
  /-- The profile of the controller. -/
  cspProfileId : ℕ
  /-- The project on it. -/
  vpcId : String
  /-- Where the rules are to go. -/
  sdwanTargetId : String
  /-- Where among the rules there. -/
  rulesPriority : MappingScopeRulesPriority
  /-- The snapshot to map. -/
  canonicalSnapshotId : ℕ
  /-- Its rules to map. -/
  canonicalRulesIds : List ℕ

/-- How many entities were mapped, by kind. -/
structure MappingResultsSummary where
  /-- How many entities there are. -/
  totalEntities : ℕ
  /-- How many are matched. -/
  matchedEntities : ℕ
  /-- How many have several candidates. -/
  ambiguous : ℕ
  /-- How many have none. -/
  unresolved : ℕ
  /-- How many of them are zones. -/
  zonesTotal : ℕ
  /-- How many of the zones are matched. -/
  zonesMatched : ℕ
  /-- How many are address objects. -/
  addrTotal : ℕ
  /-- How many of these are matched. -/
  addrMatched : ℕ
  /-- How many are services. -/
  servicesTotal : ℕ
  /-- How many of these are matched. -/
  servicesMatched : ℕ
  deriving DecidableEq

/-- How many results have a status. -/
def countStatus (results : List MappingEntityResult) (status : MappingResultStatus) : ℕ :=
  results.countP fun result => decide (result.resultStatus=status)

/-- The summary of results. -/
def buildResultsSummary (results : List MappingEntityResult) : MappingResultsSummary :=
  let ofType := fun type : MappingEntityType =>
    results.filter fun result => decide (result.entityType=type)
  ⟨results.length,countStatus results .matched,countStatus results .ambiguous,
    countStatus results .unresolved,(ofType .zone).length,countStatus (ofType .zone) .matched,
    (ofType .addr).length,countStatus (ofType .addr) .matched,(ofType .service).length,
    countStatus (ofType .service) .matched⟩

/-- What mapping returns. -/
structure MapCanonicalToSdwanResult where
  /-- The scope that was created. -/
  mappingScopeId : ℕ
  /-- How far it is mapped. -/
  mappingResultsSummary : MappingResultsSummary
  /-- How many rules it has. -/
  mappedRulesCount : ℕ
  deriving DecidableEq

/-- The checks of a target, and the catalog its scope is mapped on. -/
def readTargetCatalog (command : MapCanonicalToSdwanCommand) : Mapping SdwanFullCatalog := do
  let target : Option SdwanDeviceObject ← await (.getDeviceObject command.sdwanTargetId)
  match target with
  | none => Async.raise ⟨"MappingModuleNotFoundError",
      "Target (device object) "++command.sdwanTargetId++" not found"⟩
  | some target =>
    if command.canonicalRulesIds=[] then
      Async.raise ⟨"MappingModuleDomainValidationError","Canonical rules ids must be provided"⟩
    else if target.type=.device ∧ command.rulesPriority≠.localBlock then
      Async.raise ⟨"MappingModuleDomainValidationError",
        "Policies for DEVICE can be placed only in LOCAL placements"⟩
    else if target.type=.group ∧ command.rulesPriority≠.pre ∧ command.rulesPriority≠.post then
      Async.raise ⟨"MappingModuleDomainValidationError",
        "Policies for GROUP can be placed only in PRE, POST placements"⟩
    else await .getSdwanFullCatalog

/-- Map canonical rules to a controller: results for their entities, then the
rules themselves. -/
def mapCanonicalToSdwan [PyUnicode] (hashFunc : String → String) (services : MappingServices)
    (command : MapCanonicalToSdwanCommand) : Mapping MapCanonicalToSdwanResult := do
  let catalog ← withGateway command.cspProfileId command.vpcId (readTargetCatalog command)
  let scopeId : ℕ ← await .newIds
  let scope : MappingScope :=
    { id := scopeId, title := command.title, canonicalSnapshotId := command.canonicalSnapshotId,
      cspProfileId := command.cspProfileId, vpcId := command.vpcId,
      sdwanTargetId := command.sdwanTargetId, rulesPriority := command.rulesPriority,
      catalogFingerprint := getFingerprint hashFunc catalog }
  let entities : CanonicalScopeEntities ← await
    (.getCanonicalScopeEntitiesData command.canonicalSnapshotId command.canonicalRulesIds)
  let canonicalRules : List CanonicalRule ← await
    (.getCanonicalScopeRules command.canonicalSnapshotId command.canonicalRulesIds)
  let firstResult : ℕ ← await .newIds
  let results ← Async.ofExcept (services.buildResults firstResult scopeId entities catalog)
  let firstRule : ℕ ← await .newIds
  let rules ← Async.ofExcept
    (services.buildRules firstRule scopeId canonicalRules entities results)
  let _ ← await (.addScope scope)
  let _ ← await (.addResults scopeId results)
  let _ ← await (.attachRules scopeId rules)
  return ⟨scopeId,buildResultsSummary results,rules.length⟩

end NspMigrator.MappingUseCases
