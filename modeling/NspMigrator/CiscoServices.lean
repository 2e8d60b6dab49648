import Mathlib
import NspMigrator.CiscoServiceBuilders
import NspMigrator.CiscoAddresses

/-!
# Service objects, group members and service operands

Headers of services and groups come first, then the members of groups, then
the service of every rule. A member that leads to no object leaves an issue
and no edge. A rule without a service gets the service of its protocol.
-/

namespace NspMigrator.CiscoServices

open PyText PyWords PyDict PyRepr PyState PyRegistry CanonicalModels CiscoParsedConfig
open CiscoTokens CiscoState CiscoAddresses CiscoServiceLines CiscoServiceBuilders

/-- The type text of a member record. -/
def memberType : ServiceMember → String
  | .groupObject _ => "group-object"
  | .serviceObjectObject _ => "service-object-object"
  | .serviceObject _ _ => "service-object"
  | .portObject _ => "port-object"
  | .protocolObject _ => "protocol-object"
  | .icmpObject _ => "icmp-object"

/-- The protocols a tcp-udp port stands for. -/
def expandedProtocols (proto : String) : List String :=
  if proto="tcp-udp" then ["tcp","udp"] else [proto]

variable [PyUnicode]

/-- The representation of a text. -/
def textRepr (s : String) : String := String.ofList (reprChars s.toList)

/-- The representation of a dictionary from the representations of its values. -/
def dictRepr (entries : List (String × String)) : String :=
  "\x7b"++", ".intercalate (entries.map fun entry => textRepr entry.1++": "++entry.2)++"\x7d"

/-- The representation of a member record. -/
def memberRepr (member : ServiceMember) : String :=
  let type := ("type",textRepr (memberType member))
  match member with
  | .groupObject name => dictRepr [type,("name",textRepr name)]
  | .serviceObjectObject name => dictRepr [type,("name",textRepr name)]
  | .icmpObject name => dictRepr [type,("name",textRepr name)]
  | .portObject raw => dictRepr [type,("raw",textRepr raw)]
  | .protocolObject raw => dictRepr [type,("raw",textRepr raw)]
  | .serviceObject none raw => dictRepr [type,("raw",textRepr raw)]
  | .serviceObject (some payload) raw => dictRepr [type,
      ("payload",dictRepr (payload.entries.map fun entry => (entry.1,textRepr entry.2))),
      ("raw",textRepr raw)]

/-- The object of a header that stands under a key, as a list of one key. -/
def existingKey (key : String) : Normalizing (List String) := do
  return if (← objectId? key).isSome then [key] else []

/-- Register a leaf under a key unless the key is taken. Nothing is built for a taken key. -/
def registerLeaf (key : String) (build : Except String (Option ObjectFields)) :
    Normalizing (Option String) := do
  if (← objectId? key).isSome then return some key
  else
    match ← liftM build with
    | none => return none
    | some built =>
      let _ ← register built
      return some key

/-- The key of a service payload, nothing where the payload is not supported. -/
def servicePayloadKey (payload : Dict String String) : Except String (Option String) := do
  let proto := PyUnicode.lower ((payload.get? "protocol").getD "")
  if proto="" then return none
  else if proto="tcp" ∨ proto="udp" then
    match ← resolveL4DestinationRange payload with
    | none => return none
    | some (portFrom,portTo) => return some (serviceObjectKey proto portFrom portTo)
  else if proto="tcp-udp" ∧ payload.get? "op"=some "eq" ∧ (payload.get? "port").isSome=true then
    match ← parsePortToken ((payload.get? "port").getD "") with
    | none => return none
    | some port => return some (serviceObjectKey "tcp-udp" port port)
  else if proto="icmp" ∨ proto="icmp6" then
    let icmp := hyphenated (PyUnicode.lower (((payload.get? "icmp").filter (·≠"")).getD "any"))
    return some ("service:"++proto++":icmp-"++icmp)
  else if isdigit proto=true ∨ proto∈["ip","esp","ah","gre"] then
    return some (ipProtocolObjectKey proto)
  else return none

/-- The key of the leaf of a payload, registered when missing. -/
def registerServicePayload (payload : Dict String String) : Normalizing (Option String) := do
  match ← liftM (servicePayloadKey payload) with
  | none => return none
  | some key =>
    registerLeaf key
      (buildCanonicalServiceFromPayload ( removeprefix "service:" key) key payload)

/-- The key of a protocol-object member, registered when missing. -/
def materializeProtocolObjectMember (raw : String) : Normalizing (Option String) := do
  let proto := PyUnicode.lower (strip raw)
  if proto="" then return none
  else
    let key := ipProtocolObjectKey proto
    registerLeaf key do
      let built ← buildCanonicalServiceFromPayload ( removeprefix "service:" key) key
        (Dict.ofList [("protocol",proto)])
      return some (built.getD (buildIpProtocolService none (some proto)))

/-- The leaves of a port-object member for the given protocols. A protocol that is not
supported gives the member up. -/
def registerPortObjects (payload : Dict String String) (portFrom portTo : ℕ) :
    List String → Normalizing (Option (List String))
  | [] => return some []
  | protocol::rest => do
    let key := serviceObjectKey protocol portFrom portTo
    match ← registerLeaf key (buildCanonicalServiceFromPayload ( removeprefix "service:" key) key
        (payload.insert "protocol" protocol)) with
    | none => return none
    | some key =>
      match ← registerPortObjects payload portFrom portTo rest with
      | none => return none
      | some keys => return some (key::keys)

/-- The bounds of a parsed port-object line. -/
def portObjectBounds (payload : Dict String String) : Except String (Option (ℕ × ℕ)) := do
  if payload.get? "op"=some "eq" then
    let port ← intOf ((payload.get? "port").getD "")
    return some (port,port)
  else
    let portFrom ← parsePortToken ((payload.get? "port_from").getD "")
    let portTo ← parsePortToken ((payload.get? "port_to").getD "")
    match portFrom,portTo with
    | some portFrom,some portTo => return some (portFrom,portTo)
    | _,_ => return none

/-- The keys of a port-object member. -/
def materializePortObject (raw : String) (groupProtocol : Option String) :
    Normalizing (List String) := do
  match ← liftM (parsePortObjectLine raw groupProtocol) with
  | none => return []
  | some payload =>
    let proto := (payload.get? "protocol").getD ""
    match ← liftM (portObjectBounds payload) with
    | none => return []
    | some (portFrom,portTo) =>
      return (← registerPortObjects payload portFrom portTo (expandedProtocols proto)).getD []

/-- The keys of the objects of one group member, none for a member that leads nowhere. -/
def materializeServiceGroupMember (member : ServiceMember) (groupProtocol : Option String) :
    Normalizing (List String) := do
  match member with
  | .serviceObjectObject name => if name="" then return [] else existingKey ("service:"++name)
  | .groupObject name => if name="" then return [] else existingKey ("service:"++name)
  | .icmpObject name =>
    if name="" then return []
    else
      let key := "service:icmp:"++name
      return (← registerLeaf key (.ok (some (icmpFields name key "icmp"
        (icmpNameToType (hyphenated (PyUnicode.lower name))) none)))).toList
  | .portObject raw => if raw="" then return [] else materializePortObject raw groupProtocol
  | .serviceObject (some payload) _ => return (← registerServicePayload payload).toList
  | .serviceObject none raw =>
    match parseInlineServiceObject raw with
    | some payload => return (← registerServicePayload payload).toList
    | none => return []
  | .protocolObject raw =>
    if raw="" then return [] else return (← materializeProtocolObjectMember raw).toList

/-- The issue of a member that leads nowhere. -/
def emitUnresolvedMemberIssue (groupName : String) (member : ServiceMember) (sourceLine : ℕ)
    (entityType : String) : Normalizing PUnit := do
  let _ ← emitIssue entityType "unresolved_group_member_ref"
    ("Unresolved service group member in "++groupName++": "++memberRepr member)
    (some (groupName++":"++memberType member)) (some sourceLine) (some sourceLine)
    (some (memberRepr member)) (some .mappingMissing)

/-- One edge to every object of a member. -/
def attachGroupMemberEdges (parentId : ℕ) (childKeys : List String) (pos sourceLine : ℕ)
    (member : ServiceMember) : Normalizing PUnit :=
  forM childKeys.zipIdx fun (childKey,offset) => do
    match ← objectId? childKey with
    | none => return ⟨⟩
    | some childId => attachMemberEdge parentId childId (pos+offset) sourceLine (memberRepr member)

/-- One member of a service group. -/
def attachGroupMember (groupName : String) (parentId sourceLine : ℕ)
    (groupProtocol : Option String) (entityType : String) (member : ServiceMember × ℕ) :
    Normalizing PUnit := do
  let keysBefore := (← get).registry.entries.keys
  let childKeys ← materializeServiceGroupMember member.1 groupProtocol
  emitMaterializedObjects sourceLine (memberRepr member.1) "service group member materialized"
    keysBefore
  if childKeys=[] then emitUnresolvedMemberIssue groupName member.1 sourceLine entityType
  else attachGroupMemberEdges parentId childKeys member.2 sourceLine member.1

/-- The members of one group. -/
def attachGroupMembers (item : ParsedServiceObject) (groupProtocol : Option String)
    (entityType : String) : Normalizing PUnit := do
  match ← objectId? ("service:"++item.name) with
  | none => return ⟨⟩
  | some parentId =>
    forM item.members.zipIdx
      (attachGroupMember item.name parentId item.sourceLine groupProtocol entityType)

/-- Register the header of one service item. -/
def materializeServiceObject (item : ParsedServiceObject) : Normalizing PUnit := do
  let fields ← liftM (canonicalObjectForParsedService item)
  let (_,created) ← register fields
  emitTrace item.sourceLine item.sourceLineEnd .object created (some item.sourceFragment)
    (some "header") none

/-- Register the headers of all service items. -/
def materializeServiceObjects (parsed : ParsedConfig) : Normalizing PUnit :=
  forM parsed.serviceObjects materializeServiceObject

/-- The members of one item, if it is a service group. -/
def materializeServiceGroup (item : ParsedServiceObject) : Normalizing PUnit :=
  if item.kind=.serviceGroup then
    attachGroupMembers item (item.payload.get? "protocol") "cisco_asa_service_group"
  else return ⟨⟩

/-- The members of all service groups. -/
def materializeServiceGroupMembers (parsed : ParsedConfig) : Normalizing PUnit :=
  forM parsed.serviceObjects materializeServiceGroup

/-- The members of one item, if it is a protocol group. -/
def materializeProtocolGroup (item : ParsedServiceObject) : Normalizing PUnit :=
  if item.kind=.protocolGroup then
    attachGroupMembers item none "cisco_asa_protocol_group"
  else return ⟨⟩

/-- The members of all protocol groups. -/
def materializeProtocolGroupMembers (parsed : ParsedConfig) : Normalizing PUnit :=
  forM parsed.serviceObjects materializeProtocolGroup

/-- The lineage record of a service made for a rule. -/
def emitServiceObjectTrace (sourceLine objectId : ℕ) (sourceFragment note : String) :
    Normalizing PUnit :=
  emitTrace sourceLine sourceLine .object objectId (some sourceFragment) (some "service")
    (some note)

/-- The service a reference names. -/
def lookupNamedServiceRef (ref : Option String) : Normalizing (Option ℕ) := do
  match ref.filter (·≠"") with
  | none => return none
  | some ref => objectId? ("service:"++ref)

/-- The service of a protocol without a reference. A protocol that is not supported gets the
sentinel. -/
def ensureDefaultServiceObject (protocol : String) (sourceLine : ℕ) : Normalizing ℕ := do
  let normalizedProtocol := PyUnicode.lower protocol
  match ← liftM (buildCanonicalServiceFromPayload normalizedProtocol
      (ipProtocolObjectKey normalizedProtocol) (Dict.ofList [("protocol",normalizedProtocol)])) with
  | none => objectIdAt "service:any"
  | some built =>
    let (obj,_) ← register built
    emitServiceObjectTrace sourceLine obj.id normalizedProtocol
      "implicit protocol-only service for ACL rule"
    return obj.id

/-- The unresolved object of a reference, with an issue when it is new. -/
def ensureUnresolvedServiceObject (ref protocol : String) (sourceLine : ℕ) : Normalizing ℕ := do
  let fields := unresolvedServiceFields protocol ref
  match ← objectId? fields.objectKey with
  | some id => return id
  | none =>
    let (_,created) ← register fields
    emitServiceObjectTrace sourceLine created ref "unresolved service reference fallback"
    let _ ← emitIssue "cisco_asa_rule" "unresolved_service_ref"
      ("Unresolved ASA service reference: "++ref) (some ref) (some sourceLine)
      (some sourceLine) none (some .mappingMissing)
    return created

/-- The service of a reference: the default, a named object, an inline leaf, or unresolved. -/
def ensureServiceObjectFromRef (protocol : String) (ref : Option String) (sourceLine : ℕ) :
    Normalizing ℕ := do
  match ref.filter fun ref => decide (ref≠"" ∧ ref≠"any") with
  | none => ensureDefaultServiceObject protocol sourceLine
  | some ref =>
    match ← lookupNamedServiceRef (some ref) with
    | some id => return id
    | none =>
      match ← liftM (buildInlineServiceFromRef protocol ref) with
      | some inline =>
        let (obj,_) ← register inline
        emitServiceObjectTrace sourceLine obj.id (protocol++" "++ref)
          "inline service materialized from ACL operand"
        return obj.id
      | none => ensureUnresolvedServiceObject ref protocol sourceLine

/-- The protocol a protocol group lends to a port reference. -/
def effectiveProtocolFromGroup (rule : ParsedAccessRule) : Normalizing (Option String) := do
  match rule.protocolGroupRef.filter (·≠"") with
  | none => return none
  | some groupRef =>
    match (← get).object? ("service:"++groupRef) with
    | none => return none
    | some group => return group.value.protocol

/-- The service of a rule with a protocol number. -/
def ensureIpProtocolService (rule : ParsedAccessRule) : Normalizing ℕ := do
  match ← lookupNamedServiceRef rule.serviceRef with
  | some id => return id
  | none =>
    match rule.protocolNumber with
    | some number =>
      let (obj,_) ← register (buildIpProtocolService (some number) none)
      emitServiceObjectTrace rule.lineStart obj.id ("protocol "++toString number)
        "IP protocol number materialized from ACL operand"
      return obj.id
    | none => objectIdAt "service:any"

/-- The protocol group of a rule, the sentinel where it is missing. -/
def ensureProtocolGroupService (rule : ParsedAccessRule) : Normalizing ℕ := do
  match rule.protocolGroupRef.filter (·≠"") with
  | none => objectIdAt "service:any"
  | some groupRef =>
    match ← objectId? ("service:"++groupRef) with
    | some id => return id
    | none => objectIdAt "service:any"

/-- The service of a rule before a tcp-udp group is taken apart. -/
def ensureServiceForRule (rule : ParsedAccessRule) : Normalizing ℕ := do
  match rule.protocolOperandKind with
  | .ipProtocolNumber => ensureIpProtocolService rule
  | .serviceObject => ensureServiceObjectFromRef "ip" rule.serviceRef rule.lineStart
  | .protocolGroup =>
    match rule.serviceRef.filter (·≠"") with
    | some serviceRef =>
      let effectiveProtocol ← effectiveProtocolFromGroup rule
      ensureServiceObjectFromRef ((effectiveProtocol.filter (·≠"")).getD "ip") (some serviceRef)
        rule.lineStart
    | none => ensureProtocolGroupService rule
  | .literal => ensureServiceObjectFromRef rule.protocol rule.serviceRef rule.lineStart

/-- The distinct members of a group that have a protocol, in the order of its edges. -/
def selectMembers (serviceId : ℕ) (protocol : String) (members : List CanonicalObjectMember) :
    Normalizing (List ℕ) := do
  let children ← (members.filter fun member =>
    decide (member.parentObjectId=serviceId)).mapM fun member =>
      objectById member.childObjectId
  let selected := children.filter fun child => decide (child.value.protocol=some protocol)
  return (distinctBy (·.id) selected).map (·.id)

/-- The services of a rule. A tcp-udp group is taken apart for a tcp or udp rule. -/
def ensureServicesForRule (rule : ParsedAccessRule) : Normalizing (List ℕ) := do
  let serviceId ← ensureServiceForRule rule
  let service ← objectById serviceId
  if service.value.objectKind=.serviceGroup ∧ service.value.protocol=some "tcp-udp" ∧
      (rule.protocol="tcp" ∨ rule.protocol="udp") then
    let selectedIds ← selectMembers serviceId rule.protocol (← get).objectMembers
    if selectedIds=[] then
      let unresolvedId ← ensureUnresolvedServiceObject (service.value.name++":"++rule.protocol)
        rule.protocol rule.lineStart
      return [unresolvedId]
    else return selectedIds
  else return [serviceId]

end NspMigrator.CiscoServices
