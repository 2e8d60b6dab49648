import Mathlib
import NspMigrator.ExecuteRepository
import NspMigrator.SdwanFingerprint

/-!
# Reports of pushed plans

A report keeps the outcome of every rule of a plan with the values its
objects had. What cannot be resolved is left out, so values never fail a
report; only a blank title or a report without rules does.
-/

namespace NspMigrator.ReportRules

open PyDict PyText Ipv4 SdwanModels SdwanAddressGroups SdwanFingerprint
open ExecuteRuleValues ExecuteRulesComparer ExecutePlan ExecuteRepository

/-- The outcome a report records for a rule. -/
inductive ReportRuleMigrationResult where
  | pushed
  | failed
  | matched
  | covered
  | error
  deriving DecidableEq

/-- The outcome of a plan rule and its reason. -/
def reportRuleStatusOutcome (rule : StoredPlanRule) : ReportRuleMigrationResult × String :=
  match rule.matchStatus with
  | .exactMatch => (.matched,rule.matchInfo)
  | .coveredMatch => (.covered,rule.matchInfo)
  | .matchError => (.error,rule.matchInfo)
  | .new => match rule.pushStatus with
    | .succeeded => (.pushed,"Success")
    | .failed =>
      let error := rule.pushError.getD ""
      (.failed,if error="" then "Push failed" else error)
    | .pending => (.error,"Push outcome was not recorded")

/-- One rule of a plan given to a report. -/
structure SaveReportRuleCommand where
  /-- The planned rule. -/
  draft : PlannedRuleDraft
  /-- Its place among the rules. -/
  priority : ℤ
  /-- What became of it. -/
  migrationResult : ReportRuleMigrationResult
  /-- Why. -/
  reason : String
  deriving DecidableEq

/-- A plan rule as a report receives it. -/
def toRuleCommand (rule : StoredPlanRule) : SaveReportRuleCommand :=
  let outcome := reportRuleStatusOutcome rule
  ⟨rule.draft,rule.priority,outcome.1,outcome.2⟩

/-- The values of one rule kept by a report. -/
structure ReportRuleSnapshot where
  /-- The name of the policy. -/
  policyName : String
  /-- What it does with the traffic. -/
  action : SdwanRuleAction
  /-- Its place among the rules. -/
  priority : ℤ
  /-- The names of its source zones. -/
  srcZoneNames : List String
  /-- The names of its destination zones. -/
  dstZoneNames : List String
  /-- Its source addresses, in words. -/
  srcAddrValues : List String
  /-- Its destination addresses, in words. -/
  dstAddrValues : List String
  /-- Its services, in words. -/
  serviceValues : List String
  /-- What became of it. -/
  migrationResult : ReportRuleMigrationResult
  /-- Why. -/
  reason : String
  deriving DecidableEq

/-- Where a report's plan was pushed. -/
structure ReportEnvironmentSnapshot where
  /-- The name of the project. -/
  projectName : String
  /-- The project. -/
  vpcId : String
  /-- The name of the target. -/
  targetName : String
  /-- The target. -/
  targetId : String
  deriving DecidableEq

/-- A saved report. -/
structure Report where
  /-- Its title. -/
  title : String
  /-- The profile the rules were pushed with. -/
  cspProfileId : ℕ
  /-- The commit of the push. -/
  commitId : ℤ
  /-- Where the rules went. -/
  environment : ReportEnvironmentSnapshot
  /-- A row for every rule. -/
  rules : List ReportRuleSnapshot
  deriving DecidableEq

/-- The text of a leaf address object. -/
def addressValue [PyUnicode] (object : SdwanAddrObject) : Option String :=
  match object.type with
  | .prefixNet => some ((object.prefixNet.map networkText).getD "None")
  | .network => some ((object.network.map networkText).getD "None")
  | .host => object.host.map fun host => dotted host.toInt
  | .ipRange => match object.ipRangeFrom,object.ipRangeTo with
    | some start,some stop => some (dotted start.toInt++"-"++dotted stop.toInt)
    | _,_ => none
  | .fqdn => match object.fqdn with
    | some fqdn => if fqdn="" then none else some (PyUnicode.lower (strip fqdn))
    | none => none
  | .addrGroup => none

/-- The texts of a service. -/
def serviceTexts (service : SdwanService) : List String :=
  match service.l4Proto with
  | .tcp | .udp => (service.ranges.getD []).map fun range =>
      if range.1=range.2 then service.l4Proto.value++"/"++toString range.1
      else service.l4Proto.value++"/"++toString range.1++"-"++toString range.2
  | .icmp => ["icmp/"++",".intercalate ((service.codes.getD []).insertionSort (·≤·))]
  | .any => ["any"]
  | .ipIp => [service.l4Proto.value]

/-- The names of the zones that are known. -/
def resolveZoneNames (catalog : SdwanFullCatalog) (ids : List ℤ) : List String :=
  let zonesById := Dict.ofList (catalog.zones.map fun zone => (zone.id,zone))
  ids.filterMap fun zoneId => (zonesById.get? zoneId).map (·.name)

/-- The values of the address operands that can be resolved. -/
def resolveAddressValues [PyUnicode] (catalog : SdwanFullCatalog) (ids : List ℤ) : List String :=
  let resolver := SDWANAddressGroupLeavesResolver.ofObjects catalog.addrObjs
  ids.flatMap fun addressObjectId =>
    match resolver.resolveLeaves addressObjectId with
    | .error _ => []
    | .ok leaves => leaves.filterMap addressValue

/-- The values of the services that are known. -/
def resolveServiceValues (catalog : SdwanFullCatalog) (ids : List ℤ) : List String :=
  let servicesById := Dict.ofList (catalog.services.map fun service => (service.id,service))
  ids.flatMap fun serviceId => ((servicesById.get? serviceId).map serviceTexts).getD []

/-- The values of a rule. -/
def resolve [PyUnicode] (catalog : SdwanFullCatalog) (rule : SaveReportRuleCommand) :
    ReportRuleSnapshot where
  policyName := rule.draft.name
  action := rule.draft.action
  priority := rule.priority
  srcZoneNames := resolveZoneNames catalog rule.draft.srcZones
  dstZoneNames := resolveZoneNames catalog rule.draft.dstZones
  srcAddrValues := resolveAddressValues catalog rule.draft.srcAddrObjects
  dstAddrValues := resolveAddressValues catalog rule.draft.dstAddrObjects
  serviceValues := resolveServiceValues catalog rule.draft.services
  migrationResult := rule.migrationResult
  reason := rule.reason

/-- A report of resolved rules. -/
def Report.create [PyUnicode] (scopeTitle : String) (cspProfileId : ℕ) (commitId : ℤ)
    (environment : ReportEnvironmentSnapshot) (rules : List ReportRuleSnapshot) :
    Except PyException Report :=
  if strip scopeTitle="" then
    .error ⟨"ReportsModuleDomainValidationError","scope_title must not be blank"⟩
  else if rules=[] then
    .error ⟨"ReportsModuleDomainValidationError","report must contain at least one rule"⟩
  else .ok ⟨strip scopeTitle,cspProfileId,commitId,environment,rules⟩

end NspMigrator.ReportRules
