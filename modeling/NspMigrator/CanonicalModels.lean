import Mathlib
import NspMigrator.PyRegistry

/-!
# Canonical entities

Objects, memberships, rules, operands, issues and zones of a canonical
snapshot, with the lineage records that point at them. Every entity of one
snapshot carries a number of its own in place of a random identifier; the
snapshot's identifiers and the creation times are left out.
-/

namespace NspMigrator.CanonicalModels

open PyRegistry

/-- Top-level object classification. -/
inductive ObjectFamily where
  | addr
  | service
  deriving DecidableEq

/-- Concrete object kind within a family. -/
inductive ObjectKind where
  | host
  | subnet
  | range
  | fqdn
  | anyAddr
  | unresolvedAddr
  | tcp
  | udp
  | icmp
  | ipProto
  | anyService
  | unresolvedService
  | addrGroup
  | serviceGroup
  deriving DecidableEq

/-- Everything an object is created with. -/
structure ObjectFields where
  /-- The key that tells objects of a snapshot apart. -/
  objectKey : String
  /-- Whether it is an address object or a service. -/
  objectFamily : ObjectFamily
  /-- What kind of address or service it is. -/
  objectKind : ObjectKind
  /-- The name shown. -/
  name : String
  /-- The version of an address. -/
  ipVersion : Option ℕ := none
  /-- The block of a host or subnet. -/
  cidr : Option String := none
  /-- The first address of a range. -/
  rangeStart : Option String := none
  /-- The last address of a range. -/
  rangeEnd : Option String := none
  /-- A domain name. -/
  fqdn : Option String := none
  /-- The protocol of a service. -/
  protocol : Option String := none
  /-- The first port. -/
  portFrom : Option ℕ := none
  /-- The last port. -/
  portTo : Option ℕ := none
  /-- The type of an ICMP message. -/
  icmpType : Option ℕ := none
  /-- The code of an ICMP message. -/
  icmpCode : Option ℕ := none
  /-- Why an object could not be resolved, or a remark. -/
  description : Option String := none
  deriving DecidableEq

/-- An address or service object, a leaf or a group. -/
abbrev CanonicalObject := Entry ObjectFields

/-- A membership edge of a group. -/
structure CanonicalObjectMember where
  /-- The number of the edge. -/
  id : ℕ
  /-- The group. -/
  parentObjectId : ℕ
  /-- Its member. -/
  childObjectId : ℕ
  /-- The place of the member in the group. -/
  position : ℕ
  deriving DecidableEq

/-- Rule operand slot. -/
inductive OperandRole where
  | srcZone
  | dstZone
  | srcObject
  | dstObject
  | service
  deriving DecidableEq

/-- The persisted text of a slot. -/
def OperandRole.value : OperandRole → String
  | .srcZone => "src_zone"
  | .dstZone => "dst_zone"
  | .srcObject => "src_object"
  | .dstObject => "dst_object"
  | .service => "service"

/-- A normalized rule. -/
structure CanonicalRule where
  /-- The number of the rule. -/
  id : ℕ
  /-- The key that tells rules of a snapshot apart. -/
  ruleKey : String
  /-- The name shown. -/
  name : String
  /-- What the rule does with the traffic. -/
  action : String
  /-- Whether the rule is in force. -/
  enabled : Bool
  /-- Its place among the rules. -/
  priority : ℕ
  /-- The name of the access list. -/
  sectionName : Option String
  /-- A remark. -/
  description : Option String
  deriving DecidableEq

/-- What a rule refers to in one slot. -/
structure CanonicalRuleOperand where
  /-- The number of the operand. -/
  id : ℕ
  /-- The rule it belongs to. -/
  ruleId : ℕ
  /-- Its slot in the rule. -/
  operandRole : OperandRole
  /-- The zone it refers to. -/
  targetZoneId : Option ℕ
  /-- The object it refers to. -/
  targetObjectId : Option ℕ
  /-- Its place in the slot. -/
  position : ℕ
  deriving DecidableEq

/-- A diagnostic of the import. -/
structure CanonicalIssue where
  /-- The number of the issue. -/
  id : ℕ
  /-- What kind of entity it is about. -/
  entityType : String
  /-- Which entity it is about. -/
  entityKey : Option String
  /-- What kind of issue it is. -/
  issueCode : String
  /-- The words of the issue. -/
  message : String
  /-- The first line it is about. -/
  sourceLineStart : Option ℕ
  /-- The last line it is about. -/
  sourceLineEnd : Option ℕ
  deriving DecidableEq

/-- A named zone. -/
structure CanonicalZone where
  /-- The number of the zone. -/
  id : ℕ
  /-- The key that tells zones of a snapshot apart. -/
  zoneKey : String
  /-- The name shown. -/
  name : String
  deriving DecidableEq

/-- What a lineage record points at. -/
inductive TraceCanonicalKind where
  | rule
  | object
  | objectMember
  | zone
  | ruleOperand
  | issue
  deriving DecidableEq

/-- One link from lines of the configuration to a canonical entity. -/
structure TraceRecord where
  /-- The number of the record. -/
  id : ℕ
  /-- The first line the entity comes from. -/
  sourceLineStart : ℕ
  /-- The last line the entity comes from. -/
  sourceLineEnd : ℕ
  /-- The text the entity comes from. -/
  sourceFragment : Option String
  /-- What kind of entity is traced. -/
  canonicalKind : TraceCanonicalKind
  /-- Which entity is traced. -/
  canonicalId : ℕ
  /-- The part the text plays for the entity. -/
  canonicalRole : Option String
  /-- A remark. -/
  note : Option String
  /-- Lines are counted from one. -/
  start_pos : 1≤ sourceLineStart
  /-- A record covers at least its first line. -/
  start_le : sourceLineStart≤ sourceLineEnd
  deriving DecidableEq

end NspMigrator.CanonicalModels
