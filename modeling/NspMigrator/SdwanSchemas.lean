import Mathlib
import NspMigrator.ExecuteRepository
import NspMigrator.SdwanModels

/-!
# Requests and responses of the SD-WAN client

Objects are created from JSON records and read back from JSON records. A
request is dumped under the names of its fields, a response is validated under
its aliases. Fields a response does not know are ignored.
-/

namespace NspMigrator.SdwanSchemas

open SdwanModels ExecuteRepository

/-- A JSON value. -/
inductive JsonValue where
  | null
  | bool (value : Bool)
  | int (value : ℤ)
  | str (value : String)
  | arr (items : List JsonValue)
  | obj (fields : List (String × JsonValue))

/-- The fields of a JSON record. -/
abbrev JsonFields := List (String × JsonValue)

/-- The value of a field. -/
def field? (fields : JsonFields) (name : String) : Option JsonValue :=
  (fields.find? fun field => decide (field.1=name)).map Prod.snd

/-- A record that does not validate. -/
def validationError (name reason : String) : PyException :=
  ⟨"ValidationError",name++": "++reason⟩

/-- A required field of some type. -/
def required {α : Type} (read : JsonValue → Option α) (reason : String) (fields : JsonFields)
    (name : String) : Except PyException α :=
  match field? fields name with
  | none => .error (validationError name "Field required")
  | some value =>
    match read value with
    | none => .error (validationError name reason)
    | some value => .ok value

/-- A field that may be missing or null. -/
def optional {α : Type} (read : JsonValue → Option α) (reason : String) (fields : JsonFields)
    (name : String) : Except PyException (Option α) :=
  match field? fields name with
  | none | some .null => .ok none
  | some value =>
    match read value with
    | none => .error (validationError name reason)
    | some value => .ok (some value)

def JsonValue.str? : JsonValue → Option String
  | .str value => some value
  | _ => none

def JsonValue.bool? : JsonValue → Option Bool
  | .bool value => some value
  | _ => none

def JsonValue.int? : JsonValue → Option ℤ
  | .int value => some value
  | _ => none

def JsonValue.strs? : JsonValue → Option (List String)
  | .arr items => items.mapM JsonValue.str?
  | _ => none

/-- A required text. -/
abbrev requiredStr := required JsonValue.str? "Input should be a valid string"

/-- A required truth value. -/
abbrev requiredBool := required JsonValue.bool? "Input should be a valid boolean"

/-- A required number. -/
abbrev requiredInt := required JsonValue.int? "Input should be a valid integer"

/-- A required list of texts. -/
abbrev requiredStrs := required JsonValue.strs? "Input should be a valid list"

/-- The data of an address object as it is read. -/
inductive AddrObjectDataResponse where
  | prefixNet (prefixNet : String) (raw : Bool)
  | host (host : String) (raw : Bool)
  | fqdn (fqdn : String) (ips : List String)
  | ipRange (start stop : String) (raw : Bool)
  | network (network : String)
  | addrGroup (addrGroup : ℤ)

/-- Validate the data of an address object. The lower end of a range is read
from the field "from". -/
def AddrObjectDataResponse.modelValidate (fields : JsonFields) :
    Except PyException AddrObjectDataResponse := do
  let type ← requiredStr fields "type"
  if type=SdwanAddrObjectType.prefixNet.value then
    return .prefixNet (← requiredStr fields "prefix") (← requiredBool fields "raw")
  else if type=SdwanAddrObjectType.host.value then
    return .host (← requiredStr fields "host") (← requiredBool fields "raw")
  else if type=SdwanAddrObjectType.fqdn.value then
    let fqdn ← requiredStr fields "fqdn"
    let _ ← required some "" fields "status"
    return .fqdn fqdn (← requiredStrs fields "ips")
  else if type=SdwanAddrObjectType.ipRange.value then
    return .ipRange (← requiredStr fields "from") (← requiredStr fields "to")
      (← requiredBool fields "raw")
  else if type=SdwanAddrObjectType.network.value then
    return .network (← requiredStr fields "network")
  else if type=SdwanAddrObjectType.addrGroup.value then
    return .addrGroup (← requiredInt fields "addr_group")
  else .error (validationError "type" "Input tag does not match any of the expected tags")

/-- An address object as it is read. -/
structure AddrObjectResponse where
  /-- The number of the object. -/
  id : ℤ
  /-- The groups it is a member of. -/
  parents : List ℤ
  /-- Its name. -/
  name : String
  /-- What its kind says of it. -/
  data : AddrObjectDataResponse

/-- A request for an address object. -/
inductive CreateAddrObjectRequestData where
  | prefixNet (prefixNet : String) (raw : Bool)
  | host (host : String) (raw : Bool)
  | fqdn (fqdn : String) (raw : Bool)
  | ipRange (start stop : String) (raw : Bool)

/-- The record of a request. The client does not dump by alias, so the lower
end of a range, the field "from_" with the alias "from", is sent as "from_". -/
def CreateAddrObjectRequestData.modelDump : CreateAddrObjectRequestData → JsonFields
  | .prefixNet net raw =>
    [("type",.str "prefix"),("prefix",.str net),("raw",.bool raw)]
  | .host address raw => [("type",.str "host"),("host",.str address),("raw",.bool raw)]
  | .fqdn name raw => [("type",.str "fqdn"),("fqdn",.str name),("raw",.bool raw)]
  | .ipRange start stop raw =>
    [("type",.str "ip_range"),("from_",.str start),("to",.str stop),("raw",.bool raw)]

/-- The ICMP codes a service may have. -/
def icmpCodes : List String := [
  "echo_reply","network_unreachable","host_unreachable","protocol_unreachable",
  "port_unreachable","fragmentation_needed","source_route_failed","network_unknown",
  "host_unknown","source_host_isolated","network_prohibited","host_prohibited",
  "tos_network_unreachable","tos_host_unreachable","communication_prohibited",
  "host_precedence_violation","precedence_cutoff","network_redirect","host_redirect",
  "tos_network_redirect","tos_host_redirect","echo_request","router_advertisement",
  "does_not_route_common_traffic","router_solicitation","ttl_zero_during_transit",
  "ttl_zero_during_reassembly","ip_header_bad","required_option_missing","bad_length",
  "timestamp_request","timestamp_reply"]

/-- A range of ports. -/
structure ServicePortRange where
  /-- The first port. -/
  start : ℤ
  /-- The last port. -/
  stop : ℤ
  /-- Ports begin at zero. -/
  start_nonneg : 0≤ start
  /-- A range does not end before it begins. -/
  start_le : start≤ stop
  /-- Ports end at 65535. -/
  stop_le : stop≤65535
  deriving DecidableEq

/-- Validate a range of ports. -/
def ServicePortRange.create (start stop : ℤ) : Except PyException ServicePortRange :=
  if hstart : 0≤ start ∧ start≤65535 then
    if hstop : 0≤ stop ∧ stop≤65535 then
      if hle : start≤ stop then .ok ⟨start,stop,hstart.1,hle,hstop.2⟩
      else .error (validationError "ranges" "start must be <= end")
    else .error (validationError "end" "Input should be between 0 and 65535")
  else .error (validationError "start" "Input should be between 0 and 65535")

/-- Validate the record of a range of ports. -/
def ServicePortRange.modelValidate (value : JsonValue) : Except PyException ServicePortRange :=
  match value with
  | .obj fields => do
    let start ← requiredInt fields "start"
    let stop ← requiredInt fields "end"
    ServicePortRange.create start stop
  | _ => .error (validationError "ranges" "Input should be an object")

/-- The record of a range of ports. -/
def ServicePortRange.modelDump (range : ServicePortRange) : JsonValue :=
  .obj [("start",.int range.start),("end",.int range.stop)]

/-- The protocol of a text. -/
def serviceL4Proto? (value : String) : Option SdwanServiceL4Proto :=
  [.tcp,.udp,.icmp,.any,.ipIp].find? fun proto => decide (SdwanServiceL4Proto.value proto=value)

/-- The ranges and codes a protocol allows. -/
def validateProtoSpecificFields (l4Proto : SdwanServiceL4Proto)
    (ranges : Option (List ServicePortRange)) (codes : Option (List String)) :
    Except PyException Unit :=
  if l4Proto=.tcp ∨ l4Proto=.udp then
    if codes.isSome=true then .error (validationError "" "tcp/udp service must not have icmp codes")
    else if ranges.isNone=true then
      .error (validationError "" "tcp/udp service must have port ranges")
    else .ok ()
  else if l4Proto=.icmp then
    if ranges.isSome=true then .error (validationError "" "icmp service must not have port ranges")
    else if codes.isNone=true then
      .error (validationError "" "icmp service must have icmp codes")
    else .ok ()
  else .ok ()

/-- A service as it is read, and as it is requested. -/
structure ServiceData where
  /-- The name of the service. -/
  name : String
  /-- Its protocol. -/
  l4Proto : SdwanServiceL4Proto
  /-- Its ranges of ports. -/
  ranges : Option (List ServicePortRange)
  /-- Its ICMP codes. -/
  codes : Option (List String)

/-- Validate the fields of a service. -/
def ServiceData.create (name : String) (l4Proto : SdwanServiceL4Proto)
    (ranges : Option (List ServicePortRange)) (codes : Option (List String)) :
    Except PyException ServiceData := do
  validateProtoSpecificFields l4Proto ranges codes
  return ⟨name,l4Proto,ranges,codes⟩

/-- The codes of a record, each one of the known ones. -/
def readCodes (value : JsonValue) : Option (List String) := do
  let codes ← value.strs?
  if ∀ code∈codes,code∈icmpCodes then some codes else none

/-- Validate the record of a service. -/
def ServiceData.modelValidate (fields : JsonFields) : Except PyException ServiceData := do
  let name ← requiredStr fields "name"
  let l4Proto ← required (fun value => value.str?.bind serviceL4Proto?)
    "Input should be 'tcp', 'udp', 'icmp', 'any' or 'ip_ip'" fields "l4_proto"
  let items ← optional (fun value => match value with
    | .arr items => some items
    | _ => none) "Input should be a valid list" fields "ranges"
  let ranges ← items.mapM fun items => items.mapM ServicePortRange.modelValidate
  let codes ← optional readCodes "Input should be a valid list of codes" fields "codes"
  ServiceData.create name l4Proto ranges codes

/-- The record of a requested service. -/
def ServiceData.modelDump (service : ServiceData) : JsonFields := [
  ("name",.str service.name),("description",.null),("l4_proto",.str service.l4Proto.value),
  ("ranges",match service.ranges with
    | none => .null
    | some ranges => .arr (ranges.map ServicePortRange.modelDump)),
  ("codes",match service.codes with
    | none => .null
    | some codes => .arr (codes.map JsonValue.str))]

end NspMigrator.SdwanSchemas
