import Mathlib
import NspMigrator.PyRepr
import NspMigrator.CiscoTokens
import NspMigrator.CiscoServiceLines
import NspMigrator.CiscoState

/-!
# Building service objects

A service payload becomes one leaf object, or none where the protocol is not
supported. A destination port constraint is kept only where one closed range
stands for it exactly.
-/

namespace NspMigrator.CiscoServiceBuilders

open PyText PyWords PyDict PyExcept CanonicalModels CiscoParsedConfig CiscoTokens

/-- ICMP message types by name. -/
def icmpNameToTypeTable : List (String × ℕ) := [
  ("echo",8),("echo-reply",0),("alternate-address",6),("destination-unreachable",3),
  ("source-quench",4),("redirect",5),("router-advertisement",9),("router-solicitation",10),
  ("time-exceeded",11),("parameter-problem",12),("timestamp-request",13),
  ("timestamp-reply",14),("information-request",15),("information-reply",16),
  ("mask-request",17),("mask-reply",18),("traceroute",30)]

/-- The type of an ICMP message name. -/
def icmpNameToType (name : String) : Option ℕ :=
  (icmpNameToTypeTable.find? fun entry => decide (entry.1=name)).map Prod.snd

/-- Blanks become hyphens. -/
def hyphenated (s : String) : String :=
  String.ofList (s.toList.map fun c => if c= ' ' then '-' else c)

/-- A port range as text, a single port for equal bounds. -/
def servicePortRangeLabel (portFrom portTo : ℕ) : String :=
  if portFrom=portTo then toString portFrom else toString portFrom++"-"++toString portTo

/-- A protocol with its port range. -/
def servicePortLabel (protocol : String) (portFrom portTo : ℕ) : String :=
  protocol++":"++servicePortRangeLabel portFrom portTo

/-- The key of a leaf with ports. -/
def serviceObjectKey (protocol : String) (portFrom portTo : ℕ) : String :=
  "service:"++servicePortLabel protocol portFrom portTo

/-- The smallest and the largest port. -/
def minPort : ℕ := 0

/-- The largest port. -/
def maxPort : ℕ := 65535

/-- The sentinel for every service. -/
def anyServiceFields : ObjectFields where
  objectKey := "service:any"
  objectFamily := .service
  objectKind := .anyService
  name := "any"

/-- An unresolved service in place of a constraint that cannot be represented. -/
def buildUnresolvedL4Service (name objectKey protocol : String) (description : Option String) :
    ObjectFields where
  objectKey := objectKey
  objectFamily := .service
  objectKind := .unresolvedService
  name := name
  protocol := some protocol
  description := description

/-- The object of a reference to no service. -/
def unresolvedServiceFields (protocol ref : String) : ObjectFields where
  objectKey := "service:unresolved:"++ref
  objectFamily := .service
  objectKind := .unresolvedService
  name := ref
  protocol := if protocol="" then none else some protocol
  description := some "unresolved ASA service reference"

variable [PyUnicode]

/-- The key of a protocol without ports. -/
def ipProtocolObjectKey (protocol : String) : String :=
  "service:ip-proto:"++PyUnicode.lower protocol

/-- The kind of a leaf of a protocol. -/
def kindForProtocol (proto : String) : ObjectKind :=
  let p := PyUnicode.lower proto
  if p="tcp" then .tcp
  else if p="udp" then .udp
  else if p="icmp" ∨ p="icmp6" then .icmp
  else .ipProto

/-- The range a destination port constraint stands for, where a single one does. -/
def resolveL4DestinationRange (payload : Dict String String) : Except String (Option (ℕ × ℕ)) :=
  if (payload.get? "source_op").isSome=true ∨ (payload.get? "raw").isSome=true then .ok none
  else
    let operator := (payload.get? "destination_op").or (payload.get? "op")
    let portValue := (payload.get? "destination_port").or (payload.get? "port")
    let portFromValue := (payload.get? "destination_port_from").or (payload.get? "port_from")
    let portToValue := (payload.get? "destination_port_to").or (payload.get? "port_to")
    match operator with
    | none =>
      if portValue.isSome=true ∨ portFromValue.isSome=true ∨ portToValue.isSome=true then .ok none
      else .ok (some (minPort,maxPort))
    | some operator => do
      if operator="range" then
        let portFrom ← parsePortToken (portFromValue.getD "None")
        let portTo ← parsePortToken (portToValue.getD "None")
        match portFrom,portTo with
        | some portFrom,some portTo =>
          if portFrom≤portTo ∧ portTo≤ maxPort then return some (portFrom,portTo)
          else return none
        | _,_ => return none
      else
        match ← parsePortToken (portValue.getD "None") with
        | none => return none
        | some port =>
          if maxPort<port then return none
          else if operator="eq" then return some (port,port)
          else if operator="lt" ∧ minPort<port then return some (minPort,port-1)
          else if operator="gt" ∧ port< maxPort then return some (port+1,maxPort)
          else return none

/-- A leaf with ports. -/
def l4Fields (name objectKey protocol : String) (portFrom portTo : ℕ)
    (description : Option String) : ObjectFields where
  objectKey := objectKey
  objectFamily := .service
  objectKind := kindForProtocol protocol
  name := name
  protocol := some protocol
  portFrom := some portFrom
  portTo := some portTo
  description := description

/-- An ICMP leaf. -/
def icmpFields (name objectKey protocol : String) (icmpType : Option ℕ)
    (description : Option String) : ObjectFields where
  objectKey := objectKey
  objectFamily := .service
  objectKind := .icmp
  name := name
  protocol := some protocol
  icmpType := icmpType
  description := description

/-- A leaf of a protocol without ports. -/
def ipProtoFields (name objectKey : String) (protocol : Option String)
    (description : Option String) : ObjectFields where
  objectKey := objectKey
  objectFamily := .service
  objectKind := .ipProto
  name := name
  protocol := protocol
  description := description

/-- One leaf from a payload, nothing where the protocol is not supported. -/
def buildCanonicalServiceFromPayload (name objectKey : String) (payload : Dict String String) :
    Except String (Option ObjectFields) := do
  let proto := PyUnicode.lower ((payload.get? "protocol").getD "")
  let description := payload.get? "description"
  if proto="" then return none
  else if proto="tcp-udp" ∧ payload.get? "op"=some "eq" ∧ (payload.get? "port").isSome=true then
    match ← parsePortToken ((payload.get? "port").getD "") with
    | none => return none
    | some port => return some {
        objectKey := objectKey
        objectFamily := .service
        objectKind := .ipProto
        name := servicePortLabel "tcp-udp" port port
        protocol := some "tcp-udp"
        portFrom := some port
        portTo := some port
        description := some "expanded tcp-udp service-object member" }
  else if proto="tcp" ∨ proto="udp" then
    match ← resolveL4DestinationRange payload with
    | none => return some (buildUnresolvedL4Service name objectKey proto description)
    | some (portFrom,portTo) =>
      return some (l4Fields name objectKey proto portFrom portTo description)
  else if proto="icmp" ∨ proto="icmp6" then
    let icmpName := hyphenated (PyUnicode.lower ((payload.get? "icmp").getD ""))
    return some (icmpFields name objectKey proto (icmpNameToType icmpName) description)
  else if proto∈["ip","esp","ah","gre"] then
    return some (ipProtoFields name objectKey (some proto) description)
  else if isdigit proto=true then
    return some (ipProtoFields ("ip-proto-"++proto) objectKey (some proto) description)
  else return none

/-- The bounds of an inline port reference. A hyphen separates the bounds of a range. -/
def inlinePortBounds (ref : String) : Except String (Option ℕ × Option ℕ) := do
  match ref.toList.dropWhile (·≠ '-') with
  | [] =>
    let port ← parsePortToken ref
    return (port,port)
  | _::rest =>
    let portFrom ← parsePortToken (String.ofList (ref.toList.takeWhile (·≠ '-')))
    let portTo ← parsePortToken (String.ofList rest)
    return (portFrom,portTo)

/-- A leaf from the port or message token of an access-list line. -/
def buildInlineServiceFromRef (protocol ref : String) : Except String (Option ObjectFields) := do
  let proto := PyUnicode.lower protocol
  let ref := strip ref
  if proto="tcp" ∨ proto="udp" then
    match ← inlinePortBounds ref with
    | (some portFrom,some portTo) =>
      return some (l4Fields (servicePortLabel proto portFrom portTo)
        (serviceObjectKey proto portFrom portTo) proto portFrom portTo none)
    | _ =>
      match lookupBuiltinService ref (some proto) with
      | some entry => return some (l4Fields
          (servicePortLabel entry.protocol entry.portFrom entry.portTo)
          (serviceObjectKey entry.protocol entry.portFrom entry.portTo) entry.protocol
          entry.portFrom entry.portTo none)
      | none => return none
  else if proto="icmp" ∨ proto="icmp6" then
    return some (icmpFields ref ("service:"++proto++":icmp-"++ref) proto
      (icmpNameToType (hyphenated (PyUnicode.lower ref))) none)
  else return none

/-- The object of a protocol number or name. -/
def buildIpProtocolService (protocolNumber : Option ℕ) (protocolName : Option String) :
    ObjectFields :=
  match protocolNumber with
  | some number =>
    ipProtoFields ("ip-proto-"++toString number) (ipProtocolObjectKey (toString number))
      (some (toString number)) (some "ASA IP protocol operand")
  | none =>
    let proto := PyUnicode.lower ((protocolName.filter (·≠"")).getD "ip")
    ipProtoFields proto (ipProtocolObjectKey proto) (some proto) (some "ASA IP protocol operand")

/-- The payload of a port-object line. -/
def parsePortObjectLine (raw : String) (defaultProtocol : Option String) :
    Except String (Option (Dict String String)) := do
  let parts := splitWords raw
  let lowered := parts.map PyUnicode.lower
  let proto := PyUnicode.lower ((defaultProtocol.filter (·≠"")).getD "tcp")
  if parts=[] then return none
  else
    match CiscoServiceLines.indexOf? "eq" lowered with
    | some idx =>
      match parts[idx+1]? with
      | none => return none
      | some portTok =>
        match ← parsePortToken portTok with
        | none =>
          match lookupBuiltinService portTok (some proto) with
          | none => return none
          | some entry => return some (Dict.ofList [("protocol",entry.protocol),("op","eq"),
              ("port",toString entry.portFrom)])
        | some port => return some (Dict.ofList [("protocol",proto),("op","eq"),
            ("port",toString port)])
    | none =>
      match CiscoServiceLines.indexOf? "range" lowered with
      | some idx =>
        match parts[idx+1]?,parts[idx+2]? with
        | some portFrom,some portTo => return some (Dict.ofList [("protocol",proto),
            ("op","range"),("port_from",portFrom),("port_to",portTo)])
        | _,_ => return none
      | none => return none

/-- The header object of a service item. Groups get a header, leaves their own object, and a
leaf that is not supported a stub without a protocol. -/
def canonicalObjectForParsedService (item : ParsedServiceObject) : Except String ObjectFields := do
  let key := "service:"++item.name
  let description := item.payload.get? "description"
  match item.kind with
  | .serviceGroup => return {
      objectKey := key
      objectFamily := .service
      objectKind := .serviceGroup
      name := item.name
      protocol := (item.payload.get? "protocol").filter (·≠"")
      description := description }
  | .protocolGroup => return {
      objectKey := key
      objectFamily := .service
      objectKind := .serviceGroup
      name := item.name
      protocol := some "protocol-group"
      description := description }
  | .service =>
    match ← buildCanonicalServiceFromPayload item.name key item.payload with
    | some built => return built
    | none => return ipProtoFields item.name key none description

/-- A leaf from a payload has the key that was asked for. -/
theorem objectKey_buildCanonicalServiceFromPayload {name objectKey : String}
    {payload : Dict String String} {fields : ObjectFields}
    (h : buildCanonicalServiceFromPayload name objectKey payload=.ok (some fields)) :
    fields.objectKey=objectKey := by
  unfold buildCanonicalServiceFromPayload at h
  dsimp only at h
  split at h
  · cases h
  split at h
  · obtain ⟨port,-,hrest⟩ := bind_eq_ok.mp h
    cases port with
    | none => cases hrest
    | some port =>
      cases hrest
      rfl
  split at h
  · obtain ⟨bounds,-,hrest⟩ := bind_eq_ok.mp h
    rcases bounds with _|⟨portFrom,portTo⟩
    · cases hrest
      rfl
    · cases hrest
      rfl
  split at h
  · cases h
    rfl
  split at h
  · cases h
    rfl
  split at h
  · cases h
    rfl
  · cases h

theorem objectKey_canonicalObjectForParsedService {item : ParsedServiceObject}
    {fields : ObjectFields} (h : canonicalObjectForParsedService item=.ok fields) :
    fields.objectKey="service:"++item.name := by
  unfold canonicalObjectForParsedService at h
  dsimp only at h
  split at h
  · cases h
    rfl
  · cases h
    rfl
  · obtain ⟨built,hbuilt,hrest⟩ := bind_eq_ok.mp h
    cases built with
    | none =>
      cases hrest
      rfl
    | some built =>
      cases hrest
      exact objectKey_buildCanonicalServiceFromPayload hbuilt

end NspMigrator.CiscoServiceBuilders
