import Mathlib
import NspMigrator.PyExcept
import NspMigrator.CiscoConfigTree
import NspMigrator.CiscoTokens

/-!
# Extended access-list lines

A line is split into its protocol operand, two endpoints and a tail. The
endpoints become reference texts, and the service reference is searched in
the tail from its end. One row is built for every binding of the list.
-/

namespace NspMigrator.CiscoAcls

open PyText PyWords PyExcept CiscoParsedConfig CiscoTokens
open CiscoConfigTree (ConfigLine)

/-- One binding context of an access list. -/
structure ZoneResolution where
  /-- The zone traffic comes from. -/
  srcZone : Option String
  /-- The zone traffic goes to. -/
  dstZone : Option String
  /-- Whether the binding tells no zone. -/
  unresolved : Bool
  /-- How the list is bound. -/
  bindingType : AclBindingType
  /-- How far the zones could be told. -/
  zoneInferenceStatus : ZoneInferenceStatus
  /-- The interface the list is bound to. -/
  bindingInterface : Option String := none
  /-- The direction it is bound in. -/
  bindingDirection : Option String := none
  /-- The key of the binding. -/
  bindingContextKey : String := "unbound"
  deriving DecidableEq

/-- The use of an access list. -/
structure AclUsageResolution where
  /-- What the list is used for. -/
  usageType : AclUsageType
  /-- The crypto map that uses it. -/
  cryptoMapName : Option String := none
  /-- The entry of the crypto map. -/
  cryptoMapSeq : Option ℕ := none
  deriving DecidableEq

/-- A character that a pattern letter matches without regard to case. Three letters also
match characters outside ASCII. -/
def matchesLetter (p c : Char) : Bool :=
  c.toLower == p || (p == 's' && c.toNat == 0x17F) || (p == 'k' && c.toNat == 0x212A) ||
    (p == 'i' && (c.toNat == 0x130 || c.toNat == 0x131))

/-- A word that a lower-case pattern word matches without regard to case. -/
def matchesWord (pattern word : String) : Bool :=
  decide (pattern.length=word.length) &&
    (pattern.toList.zip word.toList).all fun pair => matchesLetter pair.1 pair.2

/-- Upper-casing of a matched action. -/
def upperMatched (word : String) : String :=
  String.ofList (word.toList.map fun c => if c.toNat=0x131 then 'I' else c.toUpper)

/-- The parts of an extended access-list line. -/
structure AccessListMatch where
  /-- The name of the list. -/
  acl : String
  /-- The action word. -/
  action : String
  /-- The protocol field. -/
  proto : String
  /-- The tokens behind it. -/
  rest : List String
  deriving DecidableEq

variable [PyUnicode]

/-- The extended access-list line a text is. -/
def matchAccessList (stripped : String) : Option AccessListMatch :=
  match splitWords stripped with
  | head::acl::extended::action::proto::token::rest =>
    if matchesWord "access-list" head=true ∧ matchesWord "extended" extended=true ∧
        (matchesWord "permit" action=true ∨ matchesWord "deny" action=true) then
      some ⟨acl,upperMatched action,proto,token::rest⟩
    else none
  | _ => none

/-- Loose test for an address or mask token. -/
def isIpv4 (token : String) : Bool :=
  let octets := token.toList.splitOn '.'
  decide (octets.length=4) && octets.all fun octet =>
    decide (1≤octet.length ∧ octet.length≤3) &&
      octet.all fun c => (PyUnicode.decimal c).isSome

/-- One endpoint as a reference text, and the tokens after it. -/
def parseEndpoint : List String → String × List String
  | [] => ("any",[])
  | token::rest =>
    let lowered := PyUnicode.lower token
    if lowered∈["any","any4","any6"] then ("any",rest)
    else
      match rest with
      | [] => (token,[])
      | next::rest' =>
        if lowered="object-group" then (next,rest')
        else if lowered="object" then (next,rest')
        else if lowered="host" then ("host:"++next,rest')
        else if lowered="interface" then ("interface:"++next,rest')
        else if isIpv4 token=true ∧ isIpv4 next=true then ("net:"++token++"/"++next,rest')
        else (token,next::rest')

/-- The tokens after the last occurrence of a keyword. -/
def afterLast (keyword : String) : List String → Option (List String)
  | [] => none
  | token::rest =>
    match afterLast keyword rest with
    | some after => some after
    | none => if PyUnicode.lower token=keyword then some rest else none

/-- The token after the last occurrence of a keyword. -/
def tokenAfterLast (keyword : String) (tail : List String) : Option String :=
  (afterLast keyword tail).bind List.head?

/-- The name after the last object-group keyword, else after the last object keyword. -/
def objectRef (tail : List String) : Option String :=
  (tokenAfterLast "object-group" tail).or (tokenAfterLast "object" tail)

/-- The range after the last range keyword. -/
def rangeRef (tail : List String) : Option String :=
  match afterLast "range" tail with
  | some (start::stop::_) => some (start++"-"++stop)
  | _ => none

/-- The message token of an ICMP line. -/
def icmpRef (operand : ParsedProtocolOperand) (tail : List String) : Option String :=
  match tail with
  | [] => none
  | token::_ =>
    if operand.kind=.literal ∧ (operand.protocol="icmp" ∨ operand.protocol="icmp6") ∧
        PyUnicode.lower token∉["log","inactive","time-range"] then some token
    else none

/-- The service reference in the tail of a line. -/
def extractServiceRef (operand : ParsedProtocolOperand) (tail : List String) : Option String :=
  if tail=[] then none
  else if operand.kind=.ipProtocolNumber then objectRef tail
  else
    (objectRef tail).or <|
      (["eq","lt","gt","neq"].findSome? fun operator => tokenAfterLast operator tail).or <|
        (rangeRef tail).or (icmpRef operand tail)

/-- The binding context of a list that is not looked up. -/
def unboundResolution : ZoneResolution where
  srcZone := none
  dstZone := none
  unresolved := true
  bindingType := .unknown
  zoneInferenceStatus := .unknown

/-- The rows of one matched line. -/
def extractLine (zones : Option (String → List ZoneResolution))
    (usage : Option (String → AclUsageResolution)) (line : ConfigLine) (m : AccessListMatch)
    (ruleOrder : ℕ) : Except String (List ParsedAccessRule) := do
  let (tokens,mods) := parseModifiers m.rest
  let (operand,endpointTokens) ← parseProtocolOperand m.proto tokens
  let (srcRef,afterSrc) := parseEndpoint endpointTokens
  let (dstRef,tail) := parseEndpoint afterSrc
  let serviceRef := operand.serviceRef.or (extractServiceRef operand tail)
  let zoneResolutions :=
    match zones with
    | some resolveAll => resolveAll m.acl
    | none => [unboundResolution]
  let ur := usage.map fun resolve => resolve m.acl
  return zoneResolutions.map fun zr => {
    aclName := m.acl
    ruleName := m.acl++":"++toString ruleOrder
    action := m.action
    protocol := operand.protocol
    srcRef := srcRef
    dstRef := dstRef
    serviceRef := serviceRef
    enabled := !mods.inactive
    order := ruleOrder
    lineStart := line.lineNo
    lineEnd := line.lineNo
    srcZone := zr.srcZone
    dstZone := zr.dstZone
    unresolvedZone := zr.unresolved
    aclBindingType := zr.bindingType
    zoneInferenceStatus := zr.zoneInferenceStatus
    timeRange := mods.timeRange
    log := mods.log
    protocolOperandKind := operand.kind
    protocolGroupRef := operand.groupRef
    protocolNumber := operand.protocolNumber
    aclUsageType := (ur.map (·.usageType)).getD .unknown
    cryptoMapName := ur.bind (·.cryptoMapName)
    cryptoMapSeq := ur.bind (·.cryptoMapSeq)
    rawLineText := line.stripped
    bindingContextKey := zr.bindingContextKey
    bindingInterface := zr.bindingInterface
    bindingDirection := zr.bindingDirection }

/-- The matched lines of a configuration. -/
def accessListLines (nodes : List ConfigLine) : List (ConfigLine × AccessListMatch) :=
  nodes.filterMap fun line => (matchAccessList line.stripped).map fun m => (line,m)

/-- All rows, in the order of the lines. The order number counts lines of every list. -/
def extract (zones : Option (String → List ZoneResolution))
    (usage : Option (String → AclUsageResolution)) (nodes : List ConfigLine) :
    Except String (List ParsedAccessRule) := do
  let rows ← ((accessListLines nodes).zipIdx 1).mapM fun ((line,m),ruleOrder) =>
    extractLine zones usage line m ruleOrder
  return rows.flatten

/-- Every row comes from some line of its own. -/
theorem exists_line_of_mem_extract {zones : Option (String → List ZoneResolution)}
    {usage : Option (String → AclUsageResolution)} {nodes : List ConfigLine}
    {rules : List ParsedAccessRule} (h : extract zones usage nodes=.ok rules)
    {rule : ParsedAccessRule} (hr : rule∈rules) :
    ∃ line∈nodes,∃ m order rows,matchAccessList line.stripped=some m ∧
      extractLine zones usage line m order=.ok rows ∧ rule∈rows := by
  rw [extract] at h
  obtain ⟨rows,hrows,hp⟩ := bind_eq_ok.mp h
  rw [←pure_eq_ok.mp hp] at hr
  obtain ⟨row,hrow,hmem⟩ := List.mem_flatten.mp hr
  obtain ⟨⟨⟨line,m⟩,order⟩,hx,hok⟩ := exists_of_mem_mapM hrows hrow
  have hl : (line,m)∈accessListLines nodes := by
    have hfst := List.mem_map_of_mem (f:=Prod.fst) hx
    rw [List.zipIdx_map_fst] at hfst
    exact hfst
  obtain ⟨line',hline',hmap⟩ := List.mem_filterMap.mp hl
  obtain ⟨m',hm',he⟩ := Option.map_eq_some_iff.mp hmap
  obtain ⟨rfl,rfl⟩ := Prod.mk.inj he
  exact ⟨line',hline',m',order,row,hm',hok,hmem⟩

end NspMigrator.CiscoAcls
