import Mathlib
import NspMigrator.CiscoServices

/-!
# Rules

Every parsed row becomes a rule with its operands. Doubts about a row leave
issues and a status in the description of the rule, and never suppress it.
-/

namespace NspMigrator.CiscoRules

open PyText PyWords PyDict PyState PyRegistry CanonicalModels CiscoParsedConfig
open CiscoState CiscoAddresses CiscoServices

/-- How often each rule name was used. -/
abbrev SeenKeys := Dict String ℕ

/-- The key of the next rule of a name, with a suffix for a repeated name. -/
def buildRuleKey (seen : SeenKeys) (baseKey : String) : String × SeenKeys :=
  let count := (seen.get? baseKey).getD 0
  (if count=0 then baseKey else baseKey++":dup"++toString count,seen.insert baseKey (count+1))

/-- The status of a rule, the reasons to skip it, and whether it may be applied. -/
def resolveRuleProcessing (rule : ParsedAccessRule) (hasProtocolBlocker : Bool) :
    RuleProcessingStatus × List IssueReasonCode × Bool :=
  let skipReasons :=
    (if rule.aclUsageType=.cryptoMapSelector then [.cryptoMapSelector] else [])++
    (if rule.aclUsageType=.conflict then [.usageConflict] else [])++
    (if rule.zoneInferenceStatus=.globalScope then [.globalScope] else [])++
    (if rule.unresolvedZone=true ∧ rule.zoneInferenceStatus≠.globalScope then [.bindingMissing]
      else [])++
    (if hasProtocolBlocker=true then [IssueReasonCode.protocolUnresolved] else [])
  if skipReasons=[] then (.fwApplicable,[],true) else (.skippedForNow,skipReasons,false)

/-- The metadata text of a rule. -/
def buildRuleMetadata (rule : ParsedAccessRule) (processingStatus : RuleProcessingStatus)
    (skipReasonCodes : List IssueReasonCode) (autoApplyEligible : Bool) : Option String :=
  let parts :=
    (if rule.aclBindingType=.global then ["acl_binding=global","zone_inference=global_scope"]
      else if rule.zoneInferenceStatus≠.unknown then
        ["zone_inference="++rule.zoneInferenceStatus.value]
      else [])++
    ["binding_context="++rule.bindingContextKey]++
    ((rule.bindingInterface.filter (·≠"")).toList.map fun s => "binding_interface="++s)++
    ((rule.bindingDirection.filter (·≠"")).toList.map fun s => "binding_direction="++s)++
    ["acl_usage="++rule.aclUsageType.value,
      "processing_status="++processingStatus.value,
      "auto_apply_eligible="++(if autoApplyEligible=true then "true" else "false")]++
    (if rule.protocolOperandKind≠.literal then
        ["protocol_operand="++rule.protocolOperandKind.value] else [])++
    ((rule.protocolGroupRef.filter (·≠"")).toList.map fun s => "protocol_group="++s)++
    (rule.protocolNumber.toList.map fun n => "protocol_number="++toString n)++
    ((rule.cryptoMapName.filter (·≠"")).toList.map fun s => "crypto_map="++s++":"++
      ((rule.cryptoMapSeq.map toString).getD "None"))++
    (if skipReasonCodes≠[] then
        ["skip_reasons="++",".intercalate (skipReasonCodes.map (·.value))] else [])++
    ((rule.timeRange.filter (·≠"")).toList.map fun s => "time-range="++s)++
    (if rule.log=true then ["log"] else [])
  if parts=[] then none else some ("; ".intercalate parts)

/-- The issues about the use of the list of a rule. -/
def emitRuleUsageIssues (rule : ParsedAccessRule) : Normalizing PUnit := do
  let mapName := rule.cryptoMapName.getD "None"
  if rule.aclUsageType=.conflict then
    let _ ← emitIssue "cisco_asa_rule" "usage_conflict"
      ("ACL "++rule.aclName++" is referenced by both firewall policy and crypto map "++mapName)
      (some rule.ruleName) (some rule.lineStart) (some rule.lineEnd) none (some .usageConflict)
  if rule.aclUsageType=.cryptoMapSelector then
    let _ ← emitIssue "cisco_asa_rule" "crypto_map_selector"
      ("ACL "++rule.aclName++" is a crypto-map selector ("++mapName++" "++
        ((rule.cryptoMapSeq.map toString).getD "None")++
        "); excluded from firewall auto-apply scope")
      (some rule.ruleName) (some rule.lineStart) (some rule.lineEnd) none
      (some .cryptoMapSelector)

/-- Block a rule with an issue about its protocol operand. -/
def emitProtocolIssue (rule : ParsedAccessRule) (issueCode message : String)
    (reason : IssueReasonCode) : Normalizing Bool := do
  let _ ← emitIssue "cisco_asa_rule" issueCode message (some rule.ruleName)
    (some rule.lineStart) (some rule.lineEnd) none (some reason)
  return true

/-- Whether the protocol operand of a rule blocks it, with an issue when it does. -/
def validateProtocolOperand (rule : ParsedAccessRule) : Normalizing Bool := do
  match rule.protocolOperandKind with
  | .protocolGroup =>
    match rule.protocolGroupRef.filter (·≠"") with
    | none =>
      emitProtocolIssue rule "protocol_unresolved" "Protocol object-group reference is missing"
        .protocolUnresolved
    | some groupRef =>
      if (← objectId? ("service:"++groupRef)).isSome then return false
      else
        emitProtocolIssue rule "protocol_mapping_missing"
          ("Protocol object-group not found: "++groupRef) .mappingMissing
  | .ipProtocolNumber =>
    if (rule.protocolNumber.filter (· ≤255)).isSome=true then return false
    else
      emitProtocolIssue rule "protocol_unresolved"
        ("Invalid IP protocol number: "++rule.protocol) .protocolUnresolved
  | _ => return false

/-- The zone of a name, made when it is new. -/
def ensureZone (zoneName : String) (sourceLine : ℕ) : Normalizing CanonicalZone := do
  let key := "zone:"++zoneName
  match (← get).zonesByKey.get? key with
  | some zone => return zone
  | none =>
    let id ← freshId
    let zone : CanonicalZone := ⟨id,key,zoneName⟩
    modify fun σ => { σ with zonesByKey := σ.zonesByKey.insert key zone }
    emitTrace sourceLine sourceLine .zone zone.id (some zoneName) (some "from_acl_name")
      (some "zone derived from acl/binding context")
    return zone

/-- One operand of a rule with its lineage record. -/
def addOperand (ruleId : ℕ) (role : OperandRole) (targetZoneId targetObjectId : Option ℕ)
    (position lineStart lineEnd : ℕ) (fragment : String) (note : Option String) :
    Normalizing PUnit := do
  let id ← freshId
  modify fun σ => { σ with
    operands := σ.operands++[⟨id,ruleId,role,targetZoneId,targetObjectId,position⟩] }
  emitTrace lineStart lineEnd .ruleOperand id (some fragment) (some role.value) note

/-- The operand of an inferred zone. -/
def addZoneOperand (rule : ParsedAccessRule) (ruleId : ℕ) (role : OperandRole)
    (zoneName : Option String) : Normalizing PUnit := do
  match zoneName.filter (·≠"") with
  | none => return ⟨⟩
  | some zoneName =>
    let zone ← ensureZone zoneName rule.lineStart
    addOperand ruleId role (some zone.id) none 0 rule.lineStart rule.lineEnd zoneName none

/-- The zone operands of a rule. -/
def materializeRuleZoneOperands (rule : ParsedAccessRule) (ruleId : ℕ) : Normalizing PUnit := do
  addZoneOperand rule ruleId .srcZone rule.srcZone
  addZoneOperand rule ruleId .dstZone rule.dstZone

/-- The rule of a row, with its lineage record. -/
def createRuleWithTrace (rule : ParsedAccessRule) (processingStatus ruleKey : String)
    (description : Option String) : Normalizing CanonicalRule := do
  let id ← freshId
  let canonicalRule : CanonicalRule := ⟨id,ruleKey,ruleKey,rule.action,rule.enabled,rule.order,
    some rule.aclName,description⟩
  modify fun σ => { σ with rules := σ.rules++[canonicalRule] }
  emitTrace rule.lineStart rule.lineEnd .rule canonicalRule.id
    (if rule.rawLineText="" then none else some rule.rawLineText) none
    (some ("processing_status="++processingStatus))
  return canonicalRule

variable [PyUnicode]

/-- The issue of a line that repeats another one of its list and binding. -/
def emitTextualDuplicateIssue (rule : ParsedAccessRule) : Normalizing PUnit := do
  let normalizedLine := PyUnicode.lower (joinWords (splitWords rule.rawLineText))
  let signature := (rule.aclName,rule.bindingContextKey,normalizedLine)
  match (← get).textualRuleSignatures.get? signature with
  | none =>
    modify fun σ => { σ with
      textualRuleSignatures := σ.textualRuleSignatures.insert signature rule.ruleName }
  | some firstSeenKey =>
    let _ ← emitIssue "cisco_asa_rule" "textual_duplicate_rule"
      ("Textual duplicate ACL line in same ACL and binding context; first seen as "++
        firstSeenKey)
      (some rule.ruleName) (some rule.lineStart) (some rule.lineEnd) (some rule.rawLineText)
      (some .textualDuplicate)

/-- The address operands of a rule. -/
def materializeRuleAddressOperands (rule : ParsedAccessRule) (ruleId : ℕ) :
    Normalizing PUnit := do
  let srcObjId ← ensureAddrObjectFromRef rule.srcRef rule.lineStart OperandRole.srcObject.value
  let dstObjId ← ensureAddrObjectFromRef rule.dstRef rule.lineStart OperandRole.dstObject.value
  addOperand ruleId .srcObject none (some srcObjId) 0 rule.lineStart rule.lineEnd rule.srcRef none
  addOperand ruleId .dstObject none (some dstObjId) 0 rule.lineStart rule.lineEnd rule.dstRef none

/-- The service operands of a rule. -/
def appendServiceOperands (rule : ParsedAccessRule) (ruleId : ℕ) (serviceObjIds : List ℕ) :
    Normalizing PUnit :=
  forM serviceObjIds.zipIdx fun (serviceObjId,position) =>
    addOperand ruleId .service none (some serviceObjId) position rule.lineStart rule.lineEnd
      ((rule.serviceRef.filter (·≠"")).getD rule.protocol)
      (some ("protocol_operand="++rule.protocolOperandKind.value))

/-- One row. -/
def materializeRule (rule : ParsedAccessRule) (ruleKey : String) : Normalizing PUnit := do
  emitRuleUsageIssues rule
  emitTextualDuplicateIssue rule
  let protocolBlocker ← validateProtocolOperand rule
  modify fun σ => { σ with
    ruleProtocolBlockers := σ.ruleProtocolBlockers.insert rule.ruleName protocolBlocker }
  let (processingStatus,skipReasons,autoApplyEligible) :=
    resolveRuleProcessing rule protocolBlocker
  let description := buildRuleMetadata rule processingStatus skipReasons autoApplyEligible
  let canonicalRule ← createRuleWithTrace rule processingStatus.value ruleKey description
  materializeRuleZoneOperands rule canonicalRule.id
  materializeRuleAddressOperands rule canonicalRule.id
  let serviceObjIds ← ensureServicesForRule rule
  appendServiceOperands rule canonicalRule.id serviceObjIds

omit [PyUnicode] in
/-- The keys of rows in turn. -/
def ruleKeys (seen : SeenKeys) : List ParsedAccessRule → List String
  | [] => []
  | rule::rest =>
    let (ruleKey,seen) := buildRuleKey seen rule.ruleName
    ruleKey::ruleKeys seen rest

/-- All rows. -/
def materializeRules (parsed : ParsedConfig) : Normalizing PUnit :=
  forM (parsed.rules.zip (ruleKeys Dict.empty parsed.rules)) fun (rule,ruleKey) =>
    materializeRule rule ruleKey

end NspMigrator.CiscoRules
