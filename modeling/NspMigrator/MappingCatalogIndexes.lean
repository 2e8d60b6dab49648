import Mathlib
import NspMigrator.ExecuteRepository
import NspMigrator.Ipv4Text
import NspMigrator.PyWords
import NspMigrator.SdwanFingerprint

/-!
# Finding catalog objects by name and by value

Names are compared without regard to case and punctuation, values by their
texts. Every index keeps the first object of each identifier, in catalog
order.
-/

namespace NspMigrator.MappingCatalogIndexes

open PyDict PyText PyWords Ipv4 Ipv4Text SdwanModels SdwanFingerprint ExecuteRepository

variable [PyUnicode]

/-- A character that separates the words of a name. -/
def isNameSeparator (c : Char) : Bool :=
  !(c.isDigit || (97≤c.toNat && c.toNat≤122))

/-- Names up to case, white space and punctuation. -/
def normalizeName (value : String) : String :=
  let normalized := PyUnicode.casefold (strip value)
  let words := String.ofList (collapseRuns isNameSeparator ' ' false normalized.toList)
  joinWords (splitWords words)

/-- Domain names up to case and a trailing dot. -/
def normalizeFqdn (value : String) : String :=
  let folded := (PyUnicode.casefold (strip value)).toList
  String.ofList (folded.reverse.dropWhile (fun c => decide (c = '.'))).reverse

/-- Zones by name. -/
structure SdwanZonesCatalogIndex where
  /-- The zones by normalized name. -/
  zonesByName : Dict String (List SdwanZone)

/-- Index zones. -/
def SdwanZonesCatalogIndex.create (zones : List SdwanZone) : SdwanZonesCatalogIndex where
  zonesByName := groupBy (fun zone => normalizeName zone.name) (distinctBy (·.id) zones)

/-- Zones with a name. -/
def SdwanZonesCatalogIndex.findZonesByName (index : SdwanZonesCatalogIndex) (name : String) :
    List SdwanZone :=
  (index.zonesByName.get? (normalizeName name)).getD []

/-- The value an address object is found by. -/
inductive AddrValueKey where
  | host (host : String)
  | prefixNet (prefixNet : String)
  | fqdn (fqdn : String)
  | range (start «end» : String)
  deriving DecidableEq

/-- The value of an address object, nothing for groups. -/
def addrValueKey (addr : SdwanAddrObject) : Except PyException (Option AddrValueKey) :=
  let unexpected := Except.error ⟨"MappingModuleDomainValidationError",
    "Unexpected for index addr obj type "++"\x60"++addr.type.value++"\x60"⟩
  match addr.type,addr.host,addr.prefixNet,addr.network,addr.fqdn,addr.ipRangeFrom,
    addr.ipRangeTo with
  | .host,some host,_,_,_,_,_ => .ok (some (.host (dotted host.toInt)))
  | .prefixNet,_,some net,_,_,_,_ => .ok (some (.prefixNet (networkText net)))
  | .network,_,_,some net,_,_,_ => .ok (some (.prefixNet (networkText net)))
  | .fqdn,_,_,_,some fqdn,_,_ => .ok (some (.fqdn (normalizeFqdn fqdn)))
  | .ipRange,_,_,_,_,some start,some stop =>
    .ok (some (.range (dotted start.toInt) (dotted stop.toInt)))
  | .addrGroup,_,_,_,_,_,_ => .ok none
  | _,_,_,_,_,_,_ => unexpected

/-- Address objects by name and by value. -/
structure SdwanAddrObjsCatalogIndex where
  /-- The address objects by normalized name. -/
  addrByName : Dict String (List SdwanAddrObject)
  /-- The address objects by value. -/
  addrByValue : Dict AddrValueKey (List SdwanAddrObject)

/-- Index address objects. -/
def SdwanAddrObjsCatalogIndex.create (addrObjs : List SdwanAddrObject) :
    Except PyException SdwanAddrObjsCatalogIndex := do
  let objects := distinctBy (·.id) addrObjs
  let keys ← objects.mapM fun addr => do
    return (← addrValueKey addr).map fun key => (key,addr)
  return ⟨groupBy (fun addr => normalizeName addr.name) objects,groupPairs (keys.filterMap id)⟩

namespace SdwanAddrObjsCatalogIndex

variable (index : SdwanAddrObjsCatalogIndex)

/-- Address objects with a name. -/
def findAddrByName (name : String) : List SdwanAddrObject :=
  (index.addrByName.get? (normalizeName name)).getD []

/-- Address objects with a value. -/
def findAddrByValue (key : AddrValueKey) : List SdwanAddrObject :=
  (index.addrByValue.get? key).getD []

/-- Hosts with an address. -/
def findAddrByHost (host : Ipv4Address) : List SdwanAddrObject :=
  index.findAddrByValue (.host (dotted host.toInt))

/-- Prefixes and networks of a network. -/
def findAddrByPrefix (net : Ipv4Network) : List SdwanAddrObject :=
  index.findAddrByValue (.prefixNet (networkText net))

/-- Domain names. -/
def findAddrByFqdn (fqdn : String) : List SdwanAddrObject :=
  index.findAddrByValue (.fqdn (normalizeFqdn fqdn))

/-- Ranges with both ends. -/
def findAddrByRange (start stop : Ipv4Address) : List SdwanAddrObject :=
  index.findAddrByValue (.range (dotted start.toInt) (dotted stop.toInt))

/-- Objects that may stand for any address: the whole network, and what is
called any or all. -/
def findBuiltinAnyAddrObjects : List SdwanAddrObject :=
  distinctBy (·.id) (index.findAddrByValue (.prefixNet "0.0.0.0/0")++
    index.findAddrByName "any"++index.findAddrByName "all")

end SdwanAddrObjsCatalogIndex

/-- Port ranges in the order of their ends. -/
def sortRanges (ranges : List (ℤ × ℤ)) : List (ℤ × ℤ) :=
  ranges.insertionSort fun a b => a.1<b.1 ∨ a.1=b.1 ∧ a.2≤b.2

/-- Codes in the order of their texts. -/
def sortCodes (codes : List String) : List String := codes.insertionSort fun a b => a≤b

/-- The protocol of a service with its ports and codes up to order. -/
abbrev ServiceSignature := SdwanServiceL4Proto × List (ℤ × ℤ) × List String

/-- The signature of a service. -/
def serviceSignature (service : SdwanService) : ServiceSignature :=
  (service.l4Proto,sortRanges (service.ranges.getD []),sortCodes (service.codes.getD []))

/-- Services by name and by signature. -/
structure SdwanServicesCatalogIndex where
  /-- All services. -/
  services : List SdwanService
  /-- The services by normalized name. -/
  servicesByName : Dict String (List SdwanService)
  /-- The services by protocol and ports. -/
  servicesBySignature : Dict ServiceSignature (List SdwanService)

/-- Index services. -/
def SdwanServicesCatalogIndex.create (services : List SdwanService) :
    SdwanServicesCatalogIndex where
  services := distinctBy (·.id) services
  servicesByName := groupBy (fun service => normalizeName service.name)
    (distinctBy (·.id) services)
  servicesBySignature := groupBy serviceSignature (distinctBy (·.id) services)

namespace SdwanServicesCatalogIndex

variable (index : SdwanServicesCatalogIndex)

/-- Services with a name. -/
def findServicesByName (name : String) : List SdwanService :=
  (index.servicesByName.get? (normalizeName name)).getD []

/-- Services with a protocol, ports and codes. -/
def findServicesBySignature (l4Proto : SdwanServiceL4Proto) (ranges : List (ℤ × ℤ))
    (codes : List String) : List SdwanService :=
  (index.servicesBySignature.get? (l4Proto,sortRanges ranges,sortCodes codes)).getD []

/-- ICMP services with exactly these codes. -/
def findIcmpServicesByCodes (codes : List String) : List SdwanService :=
  index.services.filter fun service =>
    decide (service.l4Proto=.icmp ∧ sortCodes (service.codes.getD [])=sortCodes codes)

/-- Services that may stand for any service: what is called any or all. -/
def findBuiltinAnyServices : List SdwanService :=
  distinctBy (·.id) (index.findServicesByName "any"++index.findServicesByName "all")

end SdwanServicesCatalogIndex

end NspMigrator.MappingCatalogIndexes
