import Mathlib
import NspMigrator.PyDict

/-!
# Parsed ASA configuration

What the extractors hand to the normalizer: address objects and groups,
service objects and groups, and one row for every access-list line and
binding of its list.
-/

namespace NspMigrator.CiscoParsedConfig

open PyDict

/-- How the protocol field of an access-list line was parsed. -/
inductive ProtocolOperandKind where
  | literal
  | protocolGroup
  | serviceObject
  | ipProtocolNumber
  deriving DecidableEq

def ProtocolOperandKind.value : ProtocolOperandKind → String
  | .literal => "literal"
  | .protocolGroup => "protocol_group"
  | .serviceObject => "service_object"
  | .ipProtocolNumber => "ip_protocol_number"

/-- What an access list is used for. -/
inductive AclUsageType where
  | firewallPolicy
  | cryptoMapSelector
  | unknown
  | conflict
  deriving DecidableEq

def AclUsageType.value : AclUsageType → String
  | .firewallPolicy => "firewall_policy"
  | .cryptoMapSelector => "crypto_map_selector"
  | .unknown => "unknown"
  | .conflict => "conflict"

/-- Whether a rule may be applied automatically. -/
inductive RuleProcessingStatus where
  | fwApplicable
  | skippedForNow
  deriving DecidableEq

def RuleProcessingStatus.value : RuleProcessingStatus → String
  | .fwApplicable => "fw_applicable"
  | .skippedForNow => "skipped_for_now"

/-- Structured reasons of issues and skipped rules. -/
inductive IssueReasonCode where
  | bindingMissing
  | mappingMissing
  | protocolUnresolved
  | usageConflict
  | cryptoMapSelector
  | globalScope
  | textualDuplicate
  deriving DecidableEq

def IssueReasonCode.value : IssueReasonCode → String
  | .bindingMissing => "binding_missing"
  | .mappingMissing => "mapping_missing"
  | .protocolUnresolved => "protocol_unresolved"
  | .usageConflict => "usage_conflict"
  | .cryptoMapSelector => "crypto_map_selector"
  | .globalScope => "global_scope"
  | .textualDuplicate => "textual_duplicate"

/-- How an access list is bound. -/
inductive AclBindingType where
  | interface
  | global
  | unknown
  deriving DecidableEq

/-- Whether the zones of a rule could be inferred. -/
inductive ZoneInferenceStatus where
  | directional
  | nonDirectional
  | globalScope
  | unknown
  deriving DecidableEq

def ZoneInferenceStatus.value : ZoneInferenceStatus → String
  | .directional => "directional"
  | .nonDirectional => "non_directional"
  | .globalScope => "global_scope"
  | .unknown => "unknown"

/-- The address lines of a network object. Each of them overwrites every field
the one before it had set and the normalizer reads. -/
inductive AddressBody where
  | host (ip : String)
  | subnet (ip mask : String)
  | range (start stop : String)
  | fqdn (name : String)
  deriving DecidableEq

/-- What is read from the lines of a network object. -/
structure AddressPayload where
  /-- The address, where some line gave one. -/
  body : Option AddressBody := none
  /-- The text of a description line. -/
  description : Option String := none
  /-- Lines that were not understood. -/
  rawLines : List String := []
  deriving DecidableEq

/-- A member line of a network group. -/
inductive AddressMember where
  | host (ip : String)
  | subnet (ip mask : String)
  | object (name : String)
  | group (name : String)
  deriving DecidableEq

/-- What is read from the lines of a network group. -/
structure AddressGroupPayload (μ : Type) where
  /-- The members, line by line. -/
  members : List μ := []
  /-- The text of a description line. -/
  description : Option String := none
  /-- Lines that were not understood. -/
  rawLines : List String := []
  deriving DecidableEq

/-- The content of an address item. -/
inductive AddressContent (μ : Type) where
  | address (payload : AddressPayload)
  | addressGroup (payload : AddressGroupPayload μ)
  deriving DecidableEq

/-- One parsed network object or group. Group members are read as records and become
reference texts. -/
structure ParsedAddressObject (μ : Type) where
  /-- The name in the header. -/
  name : String
  /-- An address or a group. -/
  content : AddressContent μ
  /-- The first line. -/
  sourceLine : ℕ
  /-- The last line. -/
  sourceLineEnd : ℕ
  /-- The text. -/
  sourceFragment : String
  deriving DecidableEq

/-- The member lines of service, protocol and icmp-type groups. -/
inductive ServiceMember where
  | groupObject (name : String)
  | serviceObjectObject (name : String)
  | serviceObject (payload : Option (Dict String String)) (raw : String)
  | portObject (raw : String)
  | protocolObject (raw : String)
  | icmpObject (name : String)
  deriving DecidableEq

/-- The kinds of service items. -/
inductive ServiceItemKind where
  | service
  | serviceGroup
  | protocolGroup
  deriving DecidableEq

/-- One parsed service object, service group, icmp-type group or protocol group. -/
structure ParsedServiceObject where
  /-- The name in the header. -/
  name : String
  /-- What kind of item it is. -/
  kind : ServiceItemKind
  /-- Text fields of the payload. -/
  payload : Dict String String
  /-- The members, line by line. -/
  members : List ServiceMember
  /-- Lines that were not understood. -/
  rawLines : List String
  /-- The first line. -/
  sourceLine : ℕ
  /-- The last line. -/
  sourceLineEnd : ℕ
  /-- The text. -/
  sourceFragment : String
  deriving DecidableEq

/-- One access-list line in one binding context. -/
structure ParsedAccessRule where
  /-- The access list. -/
  aclName : String
  /-- The list with the place of the line among the access-list lines. -/
  ruleName : String
  /-- The action word. -/
  action : String
  /-- The protocol. -/
  protocol : String
  /-- The reference text of the source. -/
  srcRef : String
  /-- The reference text of the destination. -/
  dstRef : String
  /-- The reference text of the service. -/
  serviceRef : Option String
  /-- Whether the line is not marked inactive. -/
  enabled : Bool
  /-- The place of the line among the access-list lines. -/
  order : ℕ
  /-- The first line. -/
  lineStart : ℕ
  /-- The last line. -/
  lineEnd : ℕ
  /-- The zone traffic comes from. -/
  srcZone : Option String
  /-- The zone traffic goes to. -/
  dstZone : Option String
  /-- Whether the binding tells no zone. -/
  unresolvedZone : Bool
  /-- How the list is bound. -/
  aclBindingType : AclBindingType
  /-- How far the zones could be told. -/
  zoneInferenceStatus : ZoneInferenceStatus
  /-- The time range it is limited to. -/
  timeRange : Option String
  /-- Whether matches are logged. -/
  log : Bool
  /-- How the protocol field is written. -/
  protocolOperandKind : ProtocolOperandKind
  /-- The group the protocol field names. -/
  protocolGroupRef : Option String
  /-- The protocol number, if it is written as one. -/
  protocolNumber : Option ℕ
  /-- What the list is used for. -/
  aclUsageType : AclUsageType
  /-- The crypto map that uses the list. -/
  cryptoMapName : Option String
  /-- The entry of the crypto map. -/
  cryptoMapSeq : Option ℕ
  /-- The text of the line. -/
  rawLineText : String
  /-- The key of the binding. -/
  bindingContextKey : String
  /-- The interface the list is bound to. -/
  bindingInterface : Option String
  /-- The direction it is bound in. -/
  bindingDirection : Option String
  deriving DecidableEq

/-- What the normalizer consumes. -/
structure ParsedConfig where
  /-- Network objects and groups. -/
  addressObjects : List (ParsedAddressObject String)
  /-- Service objects and groups. -/
  serviceObjects : List ParsedServiceObject
  /-- The rows of the access lists. -/
  rules : List ParsedAccessRule

end NspMigrator.CiscoParsedConfig
