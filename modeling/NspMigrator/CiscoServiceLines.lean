import Mathlib
import NspMigrator.CiscoAddressLines

/-!
# Lines of service objects and groups

Service lines become dictionaries of text fields. Member lines of service,
icmp-type and protocol groups become records, and a line that is none of
them is kept aside.
-/

namespace NspMigrator.CiscoServiceLines

open PyText PyWords PyDict CiscoParsedConfig CiscoAddressLines

/-- The port operators. -/
def portOperators : List String := ["eq","range","lt","gt","neq"]

/-- The text fields of one dictionary written over those of another. -/
def updateFields (fields new : Dict String String) : Dict String String :=
  new.entries.foldl (fun d entry => d.insert entry.1 entry.2) fields

variable [PyUnicode]

/-- The index of the first token that reads a given word. -/
def indexOf? (word : String) (lowered : List String) : Option ℕ :=
  lowered.findIdx? fun token => decide (token=word)

/-- The port clause behind a direction word, as fields named after the direction. -/
def parseDirectionalPortClause (parts : List String) (direction : String) :
    Dict String String :=
  let lowered := parts.map PyUnicode.lower
  let raw := Dict.ofList [("raw",joinWords parts)]
  match indexOf? direction lowered with
  | none => Dict.empty
  | some directionIdx =>
    match lowered.drop (directionIdx+1) with
    | [] => raw
    | operator::_ =>
      if operator∉portOperators then raw
      else if operator="range" then
        match parts.drop (directionIdx+2) with
        | portFrom::portTo::_ => Dict.ofList [(direction++"_op",operator),
            (direction++"_port_from",portFrom),(direction++"_port_to",portTo)]
        | _ => raw
      else
        match parts.drop (directionIdx+2) with
        | port::_ => Dict.ofList [(direction++"_op",operator),(direction++"_port",port)]
        | [] => raw

/-- A tcp, udp or tcp-udp service without direction words. -/
def parsePlainPortClause (proto raw : String) (parts : List String) : Dict String String :=
  let lowered := parts.map PyUnicode.lower
  match lowered.findIdx? fun token => decide (token∈portOperators) with
  | none =>
    if 1<parts.length then Dict.ofList [("protocol",proto),("raw",raw)]
    else Dict.ofList [("protocol",proto)]
  | some operatorIdx =>
    let operator := (lowered[operatorIdx]?).getD ""
    let payload := Dict.ofList [("protocol",proto),("op",operator)]
    let values := parts.drop (operatorIdx+1)
    if operator="range" then
      match values with
      | portFrom::portTo::_ => (payload.insert "port_from" portFrom).insert "port_to" portTo
      | _ => payload.insert "raw" raw
    else
      match values with
      | port::_ => payload.insert "port" port
      | [] => payload.insert "raw" raw

/-- The fields of an inline service. -/
def parseInlineServiceObject (raw : String) : Option (Dict String String) :=
  let parts := splitWords raw
  match parts with
  | [] => none
  | head::rest =>
    let proto := PyUnicode.lower head
    if proto∈["tcp","udp","tcp-udp"] then
      let lowered := parts.map PyUnicode.lower
      if "source"∈lowered ∨ "destination"∈lowered then
        let payload := Dict.ofList [("protocol",proto)]
        let payload := updateFields payload (parseDirectionalPortClause parts "source")
        some (updateFields payload (parseDirectionalPortClause parts "destination"))
      else some (parsePlainPortClause proto raw parts)
    else if proto∈["icmp","icmp6"] then
      let payload := Dict.ofList [("protocol",proto)]
      some (if rest≠[] then payload.insert "icmp" (joinWords rest) else payload)
    else if proto∈["ip","esp"] then some (Dict.ofList [("protocol",proto)])
    else some (Dict.ofList [("protocol",proto),("raw",raw)])

/-- The fields of a service line under a service object. -/
def parseServiceLine (stripped : String) : Dict String String :=
  match splitWords stripped with
  | head::second::rest =>
    if PyUnicode.lower head="service" then
      (parseInlineServiceObject (joinWords (second::rest))).getD Dict.empty
    else Dict.empty
  | _ => Dict.empty

/-- A text without its first characters, trimmed. -/
def afterPrefix (pre line : String) : String :=
  strip (String.ofList (line.toList.drop pre.length))

/-- A member line of a service group. -/
def parseServiceGroupMember (stripped : String) : Option ServiceMember :=
  let low := PyUnicode.lower stripped
  if startsWith "group-object " low=true then some (.groupObject (splitRest 1 stripped))
  else if startsWith "service-object object " low=true then
    some (.serviceObjectObject (splitRest 2 stripped))
  else if startsWith "service-object " low=true then
    let raw := afterPrefix "service-object " stripped
    some (.serviceObject (parseInlineServiceObject raw) raw)
  else if startsWith "port-object " low=true then
    some (.portObject (afterPrefix "port-object " stripped))
  else if startsWith "protocol-object " low=true then
    some (.protocolObject (afterPrefix "protocol-object " stripped))
  else none

/-- A member line of a protocol group. -/
def parseProtocolGroupMember (stripped : String) : Option ServiceMember :=
  let low := PyUnicode.lower stripped
  if startsWith "protocol-object " low=true then
    some (.protocolObject (afterPrefix "protocol-object " stripped))
  else if startsWith "group-object " low=true then some (.groupObject (splitRest 1 stripped))
  else none

/-- A member line of an icmp-type group. -/
def parseIcmpGroupMember (stripped : String) : Option ServiceMember :=
  if startsWith "icmp-object " (PyUnicode.lower stripped)=true then
    some (.icmpObject (splitRest 1 stripped))
  else none

/-- What is read from the lines under a service item. -/
structure ServiceLines where
  /-- The text fields. -/
  payload : Dict String String
  /-- The members, line by line. -/
  members : List ServiceMember := []
  /-- Lines that were not understood. -/
  rawLines : List String := []

/-- One line under a service object. -/
def serviceLine (lines : ServiceLines) (line : String) : ServiceLines :=
  let low := PyUnicode.lower line
  if line="" then lines
  else if startsWith "service " low=true then
    { lines with payload := updateFields lines.payload (parseServiceLine line) }
  else if startsWith "description " low=true then
    { lines with payload := lines.payload.insert "description" (splitRest 1 line) }
  else { lines with rawLines := lines.rawLines++[line] }

/-- One line under a group whose member lines a parser reads. -/
def groupLine (parseMember : String → Option ServiceMember) (lines : ServiceLines)
    (line : String) : ServiceLines :=
  if line="" then lines
  else if startsWith "description " (PyUnicode.lower line)=true then
    { lines with payload := lines.payload.insert "description" (splitRest 1 line) }
  else
    match parseMember line with
    | some member => { lines with members := lines.members++[member] }
    | none => { lines with rawLines := lines.rawLines++[line] }

/-- The member a line names under a group whose member lines a parser reads. -/
def groupMember? (parseMember : String → Option ServiceMember) (line : String) :
    Option ServiceMember :=
  if line="" then none
  else if startsWith "description " (PyUnicode.lower line)=true then none
  else parseMember line

/-- A line that names a member appends it, any other leaves the members. -/
theorem groupLine_members (parseMember : String → Option ServiceMember) (lines : ServiceLines)
    (line : String) : (groupLine parseMember lines line).members=
      lines.members++(groupMember? parseMember line).toList := by
  unfold groupLine groupMember?
  split
  · exact (List.append_nil _).symm
  split
  · exact (List.append_nil _).symm
  cases parseMember line with
  | none => exact (List.append_nil _).symm
  | some member => rfl

/-- The members of a group are those its lines name, in order. -/
theorem foldl_groupLine_members (parseMember : String → Option ServiceMember)
    (lines : ServiceLines) (children : List String) :
    (children.foldl (groupLine parseMember) lines).members=
      lines.members++children.filterMap (groupMember? parseMember) := by
  induction children generalizing lines with
  | nil => exact (List.append_nil _).symm
  | cons line rest ih =>
    rw [List.foldl_cons,ih,groupLine_members,List.append_assoc,List.filterMap_cons]
    cases groupMember? parseMember line with
    | none => rfl
    | some member => rfl

/-- The item of a stanza. -/
def serviceItem (kind : ServiceItemKind) (name : String) (stanza : Stanza)
    (lines : ServiceLines) : ParsedServiceObject where
  name := name
  kind := kind
  payload := lines.payload
  members := lines.members
  rawLines := lines.rawLines
  sourceLine := stanza.lineStart
  sourceLineEnd := stanza.lineEnd
  sourceFragment := stanza.fragment

/-- A service object. -/
def serviceObjectItem (name : String) (stanza : Stanza) : ParsedServiceObject :=
  serviceItem .service name stanza (stanza.children.foldl serviceLine ⟨Dict.empty,[],[]⟩)

/-- A service group. The fourth word of its header is the protocol of its ports. -/
def serviceGroupItem (name : String) (stanza : Stanza) : ParsedServiceObject :=
  let payload :=
    match (splitWords stanza.header)[3]? with
    | some protocol => Dict.ofList [("protocol",PyUnicode.lower protocol)]
    | none => Dict.empty
  serviceItem .serviceGroup name stanza
    (stanza.children.foldl (groupLine parseServiceGroupMember) ⟨payload,[],[]⟩)

/-- An icmp-type group. -/
def icmpTypeGroupItem (name : String) (stanza : Stanza) : ParsedServiceObject :=
  let payload := Dict.ofList [("protocol","icmp"),("group_kind","icmp-type")]
  serviceItem .serviceGroup name stanza
    (stanza.children.foldl (groupLine parseIcmpGroupMember) ⟨payload,[],[]⟩)

/-- A protocol group. -/
def protocolGroupItem (name : String) (stanza : Stanza) : ParsedServiceObject :=
  serviceItem .protocolGroup name stanza (stanza.children.foldl
    (groupLine parseProtocolGroupMember) ⟨Dict.ofList [("group_kind","protocol")],[],[]⟩)

/-- Service objects, service groups, icmp-type groups and protocol groups, by name. -/
def extract (objectService objectGroupService objectGroupIcmpType objectGroupProtocol :
    Dict String Stanza) : List ParsedServiceObject :=
  objectService.entries.map (fun (name,stanza) => serviceObjectItem name stanza)++
    objectGroupService.entries.map (fun (name,stanza) => serviceGroupItem name stanza)++
    objectGroupIcmpType.entries.map (fun (name,stanza) => icmpTypeGroupItem name stanza)++
    objectGroupProtocol.entries.map (fun (name,stanza) => protocolGroupItem name stanza)

end NspMigrator.CiscoServiceLines
