import Mathlib
import NspMigrator.Ipv4

/-!
# SD-WAN catalog objects

The zones, services and address objects an SD-WAN controller returns, with
the checks their constructors make carried as fields.
-/

namespace NspMigrator.SdwanModels

open Ipv4

/-- Kinds of zone. -/
inductive SdwanZoneType where
  | lan
  | wan
  | wgd
  | wgra
  deriving DecidableEq

/-- The text of a kind of zone. -/
def SdwanZoneType.value : SdwanZoneType → String
  | .lan => "lan"
  | .wan => "wan"
  | .wgd => "wgd"
  | .wgra => "wgra"

/-- Protocols a service may stand for. -/
inductive SdwanServiceL4Proto where
  | tcp
  | udp
  | icmp
  | any
  | ipIp
  deriving DecidableEq

/-- The text of a protocol. -/
def SdwanServiceL4Proto.value : SdwanServiceL4Proto → String
  | .tcp => "tcp"
  | .udp => "udp"
  | .icmp => "icmp"
  | .any => "any"
  | .ipIp => "ip_ip"

/-- Kinds of address object. -/
inductive SdwanAddrObjectType where
  | prefixNet
  | host
  | fqdn
  | ipRange
  | network
  | addrGroup
  deriving DecidableEq

/-- The text of a kind of address object. -/
def SdwanAddrObjectType.value : SdwanAddrObjectType → String
  | .prefixNet => "prefix"
  | .host => "host"
  | .fqdn => "fqdn"
  | .ipRange => "ip_range"
  | .network => "network"
  | .addrGroup => "addr_group"

/-- The blocks a policy may be placed in: before, at, or after a device. -/
inductive SdwanRulePriority where
  | pre
  | localBlock
  | post
  deriving DecidableEq

/-- A zone. -/
structure SdwanZone where
  /-- The number of the object, which rules name. -/
  id : ℤ
  /-- The number of the zone itself. -/
  zoneId : ℤ
  /-- Its name. -/
  name : String
  /-- Its kind. -/
  type : SdwanZoneType
  deriving DecidableEq

/-- A service. Port services have ranges, ICMP services have codes. -/
structure SdwanService where
  /-- The number of the service. -/
  id : ℤ
  /-- Its name. -/
  name : String
  /-- Its protocol. -/
  l4Proto : SdwanServiceL4Proto
  /-- Port ranges, for TCP and UDP. -/
  ranges : Option (List (ℤ × ℤ))
  /-- ICMP codes. -/
  codes : Option (List String)
  /-- TCP and UDP services have ranges. -/
  ranges_ne : l4Proto=.tcp ∨ l4Proto=.udp → ranges.getD []≠[]
  /-- ICMP services have codes. -/
  codes_ne : l4Proto=.icmp → codes.getD []≠[]
  deriving DecidableEq

/-- A service for any traffic. -/
def SdwanService.ofAny (id : ℤ) (name : String) : SdwanService where
  id := id
  name := name
  l4Proto := .any
  ranges := none
  codes := none
  ranges_ne := by simp
  codes_ne := by simp

/-- A TCP service with at least one range. -/
def SdwanService.ofTcp (id : ℤ) (name : String) (first : ℤ × ℤ) (rest : List (ℤ × ℤ)) :
    SdwanService where
  id := id
  name := name
  l4Proto := .tcp
  ranges := some (first::rest)
  codes := none
  ranges_ne _ := List.cons_ne_nil first rest
  codes_ne := by simp

/-- An address object. The field its type names holds the value. -/
structure SdwanAddrObject where
  /-- The number of the object. -/
  id : ℤ
  /-- The groups it is a member of. -/
  parents : List ℤ
  /-- Its name. -/
  name : String
  /-- Its kind. -/
  type : SdwanAddrObjectType
  /-- The network it refers to. -/
  networkId : Option String := none
  /-- The block of that network. -/
  network : Option Ipv4Network := none
  /-- The block of a prefix. -/
  prefixNet : Option Ipv4Network := none
  /-- The address of a host. -/
  host : Option Ipv4Address := none
  /-- A domain name. -/
  fqdn : Option String := none
  /-- The first address of a range. -/
  ipRangeFrom : Option Ipv4Address := none
  /-- The last address of a range. -/
  ipRangeTo : Option Ipv4Address := none
  /-- The group number, for groups. -/
  addrGroup : Option ℤ := none
  /-- Networks are resolved. -/
  network_set : type=.network → networkId.isSome=true ∧ network.isSome=true := by decide
  /-- Prefixes have their network. -/
  prefix_set : type=.prefixNet → prefixNet.isSome=true := by decide
  /-- Hosts have their address. -/
  host_set : type=.host → host.isSome=true := by decide
  /-- Names have their domain. -/
  fqdn_set : type=.fqdn → fqdn.isSome=true := by decide
  /-- Ranges have both ends. -/
  range_set : type=.ipRange → ipRangeFrom.isSome=true ∧ ipRangeTo.isSome=true := by decide
  deriving DecidableEq

namespace SdwanAddrObject

variable (id : ℤ) (parents : List ℤ) (name : String)

/-- A host. -/
def ofHost (host : Ipv4Address) : SdwanAddrObject where
  id := id
  parents := parents
  name := name
  type := .host
  host := some host
  host_set _ := rfl

/-- A prefix. -/
def ofPrefix (net : Ipv4Network) : SdwanAddrObject where
  id := id
  parents := parents
  name := name
  type := .prefixNet
  prefixNet := some net
  prefix_set _ := rfl

/-- A domain name. -/
def ofFqdn (fqdn : String) : SdwanAddrObject where
  id := id
  parents := parents
  name := name
  type := .fqdn
  fqdn := some fqdn
  fqdn_set _ := rfl

/-- A range of addresses. -/
def ofIpRange (start stop : Ipv4Address) : SdwanAddrObject where
  id := id
  parents := parents
  name := name
  type := .ipRange
  ipRangeFrom := some start
  ipRangeTo := some stop
  range_set _ := ⟨rfl,rfl⟩

/-- A network with its net. -/
def ofNetwork (networkId : String) (net : Ipv4Network) : SdwanAddrObject where
  id := id
  parents := parents
  name := name
  type := .network
  networkId := some networkId
  network := some net
  network_set _ := ⟨rfl,rfl⟩

/-- A group. -/
def ofGroup (addrGroup : Option ℤ) : SdwanAddrObject where
  id := id
  parents := parents
  name := name
  type := .addrGroup
  addrGroup := addrGroup

end SdwanAddrObject

/-- A network an address object may refer to. -/
structure SdwanNetwork where
  /-- The network. -/
  networkId : String
  /-- Its block. -/
  net : Ipv4Network
  deriving DecidableEq

/-- Everything a controller knows. -/
structure SdwanFullCatalog where
  /-- The zones. -/
  zones : List SdwanZone
  /-- The services. -/
  services : List SdwanService
  /-- The address objects. -/
  addrObjs : List SdwanAddrObject
  /-- The networks. -/
  networks : List SdwanNetwork
  deriving DecidableEq

end NspMigrator.SdwanModels
