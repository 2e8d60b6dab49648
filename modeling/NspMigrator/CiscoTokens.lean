import Mathlib
import NspMigrator.PyWords
import NspMigrator.CiscoParsedConfig

/-!
# Tokens, port names and protocol operands

The modifiers of an access-list line are taken out of its tokens first. A
port token is a number or a name of the catalog. The protocol operand may
consume the token after it.
-/

namespace NspMigrator.CiscoTokens

open PyText PyWords CiscoParsedConfig

/-- Modifiers of an access-list line. -/
structure AclModifiers where
  /-- The line is marked inactive. -/
  inactive : Bool := false
  /-- Matches are logged. -/
  log : Bool := false
  /-- The time range it is limited to. -/
  timeRange : Option String := none
  deriving DecidableEq

/-- A port by name. -/
structure ServiceCatalogEntry where
  /-- The protocol. -/
  protocol : String
  /-- The first port. -/
  portFrom : ℕ
  /-- The last port. -/
  portTo : ℕ
  deriving DecidableEq

/-- The port names the parser knows. -/
def builtinServices : List (String × ServiceCatalogEntry) := [
  ("bootps",⟨"udp",67,67⟩),("bootpc",⟨"udp",68,68⟩),("echo",⟨"tcp",7,7⟩),
  ("ftp-data",⟨"tcp",20,20⟩),("www",⟨"tcp",80,80⟩),("http",⟨"tcp",80,80⟩),
  ("https",⟨"tcp",443,443⟩),("ssh",⟨"tcp",22,22⟩),("telnet",⟨"tcp",23,23⟩),
  ("rsh",⟨"tcp",514,514⟩),("lpd",⟨"tcp",515,515⟩),("smtp",⟨"tcp",25,25⟩),
  ("domain",⟨"udp",53,53⟩),("dns",⟨"udp",53,53⟩),("ntp",⟨"udp",123,123⟩),
  ("snmp",⟨"udp",161,161⟩),("snmptrap",⟨"udp",162,162⟩),("syslog",⟨"udp",514,514⟩),
  ("sunrpc",⟨"tcp",111,111⟩),("nfs",⟨"tcp",2049,2049⟩),("radius",⟨"udp",1812,1812⟩),
  ("radius-acct",⟨"udp",1813,1813⟩),("rtsp",⟨"tcp",554,554⟩),
  ("netbios-ssn",⟨"tcp",139,139⟩),("tftp",⟨"udp",69,69⟩),("ftp",⟨"tcp",21,21⟩),
  ("pop3",⟨"tcp",110,110⟩),("imap4",⟨"tcp",143,143⟩),("imap",⟨"tcp",143,143⟩),
  ("ldap",⟨"tcp",389,389⟩),("ldaps",⟨"tcp",636,636⟩),("rdp",⟨"tcp",3389,3389⟩),
  ("ms-sql",⟨"tcp",1433,1433⟩),("mssql",⟨"tcp",1433,1433⟩),("mysql",⟨"tcp",3306,3306⟩),
  ("postgresql",⟨"tcp",5432,5432⟩),("postgres",⟨"tcp",5432,5432⟩)]

/-- The entry of a lower-case name. -/
def catalogEntry (key : String) : Option ServiceCatalogEntry :=
  (builtinServices.find? fun entry => decide (entry.1=key)).map Prod.snd

/-- The protocols known by name. -/
def knownLiteralProtocols : List String :=
  ["tcp","udp","icmp","icmp6","ip","ah","esp","gre","igmp","eigrp","ospf","pim","sctp"]

/-- The protocol field of an access-list line. -/
structure ParsedProtocolOperand where
  /-- How the field is written. -/
  kind : ProtocolOperandKind
  /-- The protocol it stands for. -/
  protocol : String
  /-- The protocol group it names. -/
  groupRef : Option String := none
  /-- The service object it names. -/
  serviceRef : Option String := none
  /-- The protocol number it spells. -/
  protocolNumber : Option ℕ := none
  deriving DecidableEq

variable [PyUnicode]

/-- The number a text of digits stands for. Digits that are not decimal raise, and so
do texts longer than the interpreter's limit. -/
def intOf (s : String) : Except String ℕ :=
  if 4300<s.length then .error "ValueError"
  else
    match parseNat s with
    | some n => .ok n
    | none => .error "ValueError"

/-- The loop that takes the modifiers out of the tokens. -/
def parseModifiersFrom (mods : AclModifiers) : List String → List String × AclModifiers
  | [] => ([],mods)
  | token::rest =>
    let t := PyUnicode.lower token
    if t="inactive" then parseModifiersFrom { mods with inactive := true } rest
    else if t="log" then
      let (filtered,mods) := parseModifiersFrom { mods with log := true } rest
      (token::filtered,mods)
    else
      match rest with
      | value::rest' =>
        if t="time-range" then parseModifiersFrom { mods with timeRange := some value } rest'
        else
          let (filtered,mods) := parseModifiersFrom mods (value::rest')
          (token::filtered,mods)
      | [] => ([token],mods)

/-- The tokens left without modifiers, and the modifiers. -/
def parseModifiers (tokens : List String) : List String × AclModifiers :=
  parseModifiersFrom {} tokens

/-- Look a port name up. A hint of tcp or udp replaces the protocol of the entry
except for the names that keep their own. -/
def lookupBuiltinService (name : String) (protocolHint : Option String) :
    Option ServiceCatalogEntry :=
  let key := PyUnicode.lower (strip name)
  match catalogEntry key with
  | none => none
  | some entry =>
    match protocolHint.map PyUnicode.lower with
    | none => some entry
    | some hinted =>
      if hinted="tcp" ∨ hinted="udp" then
        if entry.protocol≠hinted ∧ key∈["domain","dns","ntp","snmp","tftp"] then some entry
        else some ⟨hinted,entry.portFrom,entry.portTo⟩
      else some entry

/-- The port of a token: a number, or a name of the catalog. -/
def parsePortToken (token : String) : Except String (Option ℕ) :=
  let token := strip token
  if isdigit token=true then some <$> intOf token
  else .ok ((lookupBuiltinService token none).map (·.portFrom))

/-- A nonempty text of decimal digits. -/
def isdecimal (s : String) : Bool :=
  !s.toList.isEmpty && s.toList.all fun c => (PyUnicode.decimal c).isSome

/-- The protocol operand of a line, and the tokens left for the endpoints. -/
def parseProtocolOperand (protoToken : String) (restTokens : List String) :
    Except String (ParsedProtocolOperand × List String) := do
  let lowered := PyUnicode.lower protoToken
  if lowered="object-group" then
    match restTokens with
    | [] => return ({ kind := .protocolGroup, protocol := "protocol-group" },[])
    | groupRef::rest =>
      return ({ kind := .protocolGroup, protocol := "protocol-group", groupRef := some groupRef },
        rest)
  else if lowered="object" then
    match restTokens with
    | [] => return ({ kind := .serviceObject, protocol := "service-object" },[])
    | serviceRef::rest =>
      return ({ kind := .serviceObject, protocol := "service-object",
                serviceRef := some serviceRef },rest)
  else
    let number ← if isdigit lowered=true then some <$> intOf lowered else pure none
    match number.filter (· ≤255) with
    | some number =>
      return ({ kind := .ipProtocolNumber, protocol := toString number,
                protocolNumber := some number },restTokens)
    | none =>
      if lowered∈knownLiteralProtocols then
        return ({ kind := .literal, protocol := lowered },restTokens)
      else if isdecimal lowered=true then
        -- out-of-range numbers are validated by the normalizer
        let number ← intOf lowered
        return ({ kind := .ipProtocolNumber, protocol := lowered,
                  protocolNumber := some number },restTokens)
      else return ({ kind := .literal, protocol := lowered },restTokens)

end NspMigrator.CiscoTokens
