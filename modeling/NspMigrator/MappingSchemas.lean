import Mathlib

/-!
# Canonical entities as the mapping reads them

Zones, address objects and services of the rules of a scope, each object with
the groups it is a member of, and the rules with their operands.
-/

namespace NspMigrator.MappingSchemas

/-- Kinds of address object. -/
inductive CanonicalAddrObjKind where
  | host
  | subnet
  | range
  | fqdn
  | anyAddr
  | unresolvedAddr
  | addrGroup
  deriving DecidableEq

/-- The text of a kind of address object. -/
def CanonicalAddrObjKind.value : CanonicalAddrObjKind → String
  | .host => "host"
  | .subnet => "subnet"
  | .range => "range"
  | .fqdn => "fqdn"
  | .anyAddr => "any_addr"
  | .unresolvedAddr => "unresolved_addr"
  | .addrGroup => "addr_group"

/-- Kinds of service. -/
inductive CanonicalServiceKind where
  | tcp
  | udp
  | icmp
  | ipProto
  | anyService
  | serviceGroup
  | unresolvedService
  deriving DecidableEq

/-- The text of a kind of service. -/
def CanonicalServiceKind.value : CanonicalServiceKind → String
  | .tcp => "tcp"
  | .udp => "udp"
  | .icmp => "icmp"
  | .ipProto => "ip_proto"
  | .anyService => "any_service"
  | .serviceGroup => "service_group"
  | .unresolvedService => "unresolved_service"

/-- A zone. -/
structure CanonicalZone where
  /-- The number of the zone. -/
  id : ℕ
  /-- The key that tells zones of a snapshot apart. -/
  zoneKey : String
  /-- The name shown. -/
  name : String
  deriving DecidableEq

/-- An address object with the groups it is a member of. -/
structure CanonicalAddrObject where
  /-- The number of the object. -/
  id : ℕ
  /-- What kind of address it is. -/
  kind : CanonicalAddrObjKind
  /-- The name shown. -/
  name : String
  /-- The groups it is a member of. -/
  parentIds : List ℕ := []
  /-- The block of a host or subnet. -/
  cidr : Option String := none
  /-- The first address of a range. -/
  rangeStart : Option String := none
  /-- The last address of a range. -/
  rangeEnd : Option String := none
  /-- A domain name. -/
  fqdn : Option String := none
  deriving DecidableEq

/-- A service with the groups it is a member of. -/
structure CanonicalService where
  /-- The number of the service. -/
  id : ℕ
  /-- What kind of service it is. -/
  kind : CanonicalServiceKind
  /-- The name shown. -/
  name : String
  /-- The groups it is a member of. -/
  parentIds : List ℕ := []
  /-- The protocol. -/
  protocol : Option String := none
  /-- The first port. -/
  portFrom : Option ℕ := none
  /-- The last port. -/
  portTo : Option ℕ := none
  /-- The type of an ICMP message. -/
  icmpType : Option ℕ := none
  /-- The code of an ICMP message. -/
  icmpCode : Option ℕ := none
  deriving DecidableEq

/-- The zones, address objects and services of a selection of rules. -/
structure CanonicalScopeEntities where
  /-- The zones. -/
  zones : List CanonicalZone
  /-- The address objects, members of groups included. -/
  addrObjects : List CanonicalAddrObject
  /-- The services, members of groups included. -/
  services : List CanonicalService

/-- Operand slots. -/
inductive CanonicalRuleOperandRole where
  | srcZone
  | dstZone
  | srcObject
  | dstObject
  | service
  deriving DecidableEq

/-- An operand with a zone or an object. -/
structure CanonicalRuleOperand where
  /-- The number of the operand. -/
  id : ℕ
  /-- The rule it belongs to. -/
  ruleId : ℕ
  /-- The slot it is in. -/
  role : CanonicalRuleOperandRole
  /-- The zone it names. -/
  targetZoneId : Option ℕ
  /-- The object it names. -/
  targetObjectId : Option ℕ
  deriving DecidableEq

/-- What a rule does. -/
inductive CanonicalRuleAction where
  | permit
  | deny
  deriving DecidableEq

/-- A rule with its operands. -/
structure CanonicalRule where
  /-- The number of the rule. -/
  id : ℕ
  /-- The snapshot it is part of. -/
  canonicalSnapshotId : ℕ
  /-- The name shown. -/
  name : String
  /-- What it does with the traffic. -/
  action : CanonicalRuleAction
  /-- Its place among the rules. -/
  priority : ℤ
  /-- Its operands. -/
  operands : List CanonicalRuleOperand
  deriving DecidableEq

end NspMigrator.MappingSchemas
