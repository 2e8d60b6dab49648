import Mathlib
import NspMigrator.PyWords
import NspMigrator.CiscoParsedConfig

/-!
# Lines of network objects and groups

A network object holds the address of its last address line, over all the
stanzas of its name. A network group holds one record for every member line
it recognizes, and the records become reference texts for the normalizer.
-/

namespace NspMigrator.CiscoAddressLines

open PyText PyWords PyDict CiscoParsedConfig

/-- One stanza of the configuration: its header line, the lines under it, and where it stands. -/
structure Stanza where
  /-- The header line. -/
  header : String
  /-- The lines under it. -/
  children : List String
  /-- The number of its first line. -/
  lineStart : ℕ
  /-- The number of its last line. -/
  lineEnd : ℕ
  /-- Its text. -/
  fragment : String
  deriving DecidableEq

variable [PyUnicode]

/-- One line under a network object. -/
def objectNetworkLine (payload : AddressPayload) (line : String) : AddressPayload :=
  let low := PyUnicode.lower line
  if startsWith "host " low=true then { payload with body := some (.host (splitRest 1 line)) }
  else if startsWith "subnet " low=true then
    match splitWords line with
    | _::ip::mask::_ => { payload with body := some (.subnet ip mask) }
    | _ => payload
  else if startsWith "range " low=true then
    match splitWords line with
    | _::start::stop::_ => { payload with body := some (.range start stop) }
    | _ => payload
  else if startsWith "fqdn" low=true then
    { payload with body := some (.fqdn ((splitWords line).getLast?.getD "")) }
  else if startsWith "description " low=true then
    { payload with description := some (splitRest 1 line) }
  else { payload with rawLines := payload.rawLines++[line] }

/-- The lines under a network object. -/
def parseObjectNetworkChildren (children : List String) : AddressPayload :=
  children.foldl objectNetworkLine {}

/-- The address a line under a network object gives. -/
def addressLine? (line : String) : Option AddressBody :=
  let low := PyUnicode.lower line
  if startsWith "host " low=true then some (.host (splitRest 1 line))
  else if startsWith "subnet " low=true then
    match splitWords line with
    | _::ip::mask::_ => some (.subnet ip mask)
    | _ => none
  else if startsWith "range " low=true then
    match splitWords line with
    | _::start::stop::_ => some (.range start stop)
    | _ => none
  else if startsWith "fqdn" low=true then some (.fqdn ((splitWords line).getLast?.getD ""))
  else none

/-- A line that gives an address replaces the one there was, any other leaves it. -/
theorem objectNetworkLine_body (payload : AddressPayload) (line : String) :
    (objectNetworkLine payload line).body=(addressLine? line).or payload.body := by
  unfold objectNetworkLine addressLine?
  dsimp only
  split
  · rfl
  split
  · split <;> rfl
  split
  · split <;> rfl
  split
  · rfl
  split <;> rfl

/-- A network object has the address of its last address line. -/
theorem parseObjectNetworkChildren_body (children : List String) :
    (parseObjectNetworkChildren children).body=(children.filterMap addressLine?).getLast? := by
  unfold parseObjectNetworkChildren
  induction children using List.reverseRecOn with
  | nil => rfl
  | append_singleton lines line ih =>
    rw [List.foldl_append,List.foldl_cons,List.foldl_nil,objectNetworkLine_body,ih,
      List.filterMap_append]
    cases h : addressLine? line with
    | none => simp [h]
    | some body => simp [h]

/-- The stanzas of one name as one object: the last typed address, the last nonempty
description, all raw lines. -/
def mergeObjectNetworkDeclarations (declarations : List (Stanza × AddressPayload)) :
    Option (Stanza × AddressPayload) :=
  let typed := declarations.filter fun declaration => declaration.2.body.isSome
  (typed.getLast?.or declarations.getLast?).map fun (stanza,base) =>
    (stanza,{
      body := base.body
      description := (declarations.filterMap fun declaration =>
        declaration.2.description.filter (·≠"")).getLast?
      rawLines := declarations.flatMap fun declaration => declaration.2.rawLines })

/-- One line under a network group. -/
def objectGroupNetworkLine (payload : AddressGroupPayload AddressMember) (line : String) :
    AddressGroupPayload AddressMember :=
  let low := PyUnicode.lower line
  if startsWith "network-object host " low=true then
    { payload with members := payload.members++[.host (splitRest 2 line)] }
  else if startsWith "network-object object " low=true then
    { payload with members := payload.members++[.object (splitRest 2 line)] }
  else if startsWith "network-object " low=true then
    match splitWords line with
    | _::ip::mask::_ => { payload with members := payload.members++[.subnet ip mask] }
    | _ => payload
  else if startsWith "group-object " low=true then
    { payload with members := payload.members++[.group (splitRest 1 line)] }
  else if startsWith "description " low=true then
    { payload with description := some (splitRest 1 line) }
  else { payload with rawLines := payload.rawLines++[line] }

/-- The lines under a network group. -/
def parseObjectGroupNetworkChildren (children : List String) :
    AddressGroupPayload AddressMember :=
  children.foldl objectGroupNetworkLine {}

/-- The member a line under a network group names. -/
def memberLine? (line : String) : Option AddressMember :=
  let low := PyUnicode.lower line
  if startsWith "network-object host " low=true then some (.host (splitRest 2 line))
  else if startsWith "network-object object " low=true then some (.object (splitRest 2 line))
  else if startsWith "network-object " low=true then
    match splitWords line with
    | _::ip::mask::_ => some (.subnet ip mask)
    | _ => none
  else if startsWith "group-object " low=true then some (.group (splitRest 1 line))
  else none

/-- A line that names a member appends it, any other leaves the members. -/
theorem objectGroupNetworkLine_members (payload : AddressGroupPayload AddressMember)
    (line : String) : (objectGroupNetworkLine payload line).members=
      payload.members++(memberLine? line).toList := by
  unfold objectGroupNetworkLine memberLine?
  dsimp only
  split
  · rfl
  split
  · rfl
  split
  · split
    · rfl
    · exact (List.append_nil _).symm
  split
  · rfl
  split
  · exact (List.append_nil _).symm
  · exact (List.append_nil _).symm

/-- The members of a network group are those its lines name, in order. -/
theorem parseObjectGroupNetworkChildren_members (children : List String) :
    (parseObjectGroupNetworkChildren children).members=children.filterMap memberLine? := by
  unfold parseObjectGroupNetworkChildren
  induction children using List.reverseRecOn with
  | nil => rfl
  | append_singleton lines line ih =>
    rw [List.foldl_append,List.foldl_cons,List.foldl_nil,objectGroupNetworkLine_members,ih,
      List.filterMap_append]
    cases h : memberLine? line with
    | none => simp [h]
    | some member => simp [h]

/-- The item of a network object, from the stanzas of its name. -/
def objectItem (name : String) (stanzas : List Stanza) :
    Option (ParsedAddressObject AddressMember) :=
  (mergeObjectNetworkDeclarations (stanzas.map fun stanza =>
    (stanza,parseObjectNetworkChildren stanza.children))).map fun (stanza,payload) => {
      name := name
      content := .address payload
      sourceLine := stanza.lineStart
      sourceLineEnd := stanza.lineEnd
      sourceFragment := stanza.fragment }

/-- The item of a network group. -/
def groupItem (name : String) (stanza : Stanza) : ParsedAddressObject AddressMember where
  name := name
  content := .addressGroup (parseObjectGroupNetworkChildren stanza.children)
  sourceLine := stanza.lineStart
  sourceLineEnd := stanza.lineEnd
  sourceFragment := stanza.fragment

omit [PyUnicode] in
/-- The last of several lists one after the other is in the last list that is not empty. -/
theorem getLast?_flatMap {α β : Type} (f : α → List β) (xs : List α) :
    (xs.flatMap f).getLast?=
      (xs.filter fun x => (f x).getLast?.isSome).getLast?.bind fun x => (f x).getLast? := by
  induction xs using List.reverseRecOn with
  | nil => rfl
  | append_singleton xs x ih =>
    rw [List.flatMap_append,List.flatMap_singleton,List.getLast?_append,ih,List.filter_append]
    cases h : (f x).getLast? with
    | none => simp [h]
    | some last => simp [h]

/-- The addresses that the lines under all stanzas of a name give, in order. -/
def addressLines (stanzas : List Stanza) : List AddressBody :=
  (stanzas.flatMap (·.children)).filterMap addressLine?

/-- A name with a stanza has an item. -/
theorem exists_objectItem (name : String) {stanzas : List Stanza} (h : stanzas≠[]) :
    ∃ item,objectItem name stanzas=some item := by
  obtain ⟨last,hlast⟩ := List.getLast?_isSome.mpr h |> Option.isSome_iff_exists.mp
  rw [objectItem,mergeObjectNetworkDeclarations,List.getLast?_map,hlast]
  cases (List.filter _ (stanzas.map fun stanza =>
    (stanza,parseObjectNetworkChildren stanza.children))).getLast? with
  | none => exact ⟨_,rfl⟩
  | some typed => exact ⟨_,rfl⟩

/-- A network object has the address of the last address line of its name. -/
theorem body_objectItem {name : String} {stanzas : List Stanza}
    {item : ParsedAddressObject AddressMember} (h : objectItem name stanzas=some item) :
    ∃ payload,item.content=.address payload ∧ item.name=name ∧
      payload.body=(addressLines stanzas).getLast? := by
  obtain ⟨⟨stanza,payload⟩,hmerged,rfl⟩ := Option.map_eq_some_iff.mp h
  refine ⟨payload,rfl,rfl,?_⟩
  obtain ⟨⟨source,base⟩,hbase,hpayload⟩ := Option.map_eq_some_iff.mp hmerged
  have hbody : payload.body=base.body := by
    rw [←(Prod.mk.inj hpayload).2]
  have hown : ∀ stanza : Stanza,(stanza.children.filterMap addressLine?).getLast?=
      (parseObjectNetworkChildren stanza.children).body :=
    fun stanza => (parseObjectNetworkChildren_body _).symm
  rw [hbody,addressLines,List.filterMap_flatMap,getLast?_flatMap]
  simp only [hown]
  rw [List.filter_map,List.getLast?_map,List.getLast?_map] at hbase
  cases htyped : (stanzas.filter fun stanza =>
      (parseObjectNetworkChildren stanza.children).body.isSome).getLast? with
  | some typed =>
    rw [Function.comp_def,htyped] at hbase
    obtain ⟨rfl,rfl⟩ := Prod.mk.inj (Option.some.inj hbase)
    rfl
  | none =>
    rw [Function.comp_def,htyped] at hbase
    obtain ⟨last,hlast,heq⟩ := Option.map_eq_some_iff.mp hbase
    obtain ⟨rfl,rfl⟩ := Prod.mk.inj heq
    -- no stanza gives an address, the last one neither
    have huntyped := List.filter_eq_nil_iff.mp (List.getLast?_eq_none_iff.mp htyped) last
      (List.mem_of_getLast? hlast)
    exact Option.not_isSome_iff_eq_none.mp huntyped

/-- The network objects, then the network groups, by name. -/
def extract (objectNetwork : Dict String (List Stanza)) (objectGroupNetwork : Dict String Stanza) :
    List (ParsedAddressObject AddressMember) :=
  (objectNetwork.entries.filterMap fun entry => objectItem entry.1 entry.2)++
    objectGroupNetwork.entries.map fun entry => groupItem entry.1 entry.2

omit [PyUnicode] in
/-- The reference text of a member record. -/
def memberRef : AddressMember → Option String
  | .host ip => if ip≠"" then some ("host:"++ip) else none
  | .subnet ip mask => if ip≠"" ∧ mask≠"" then some ("net:"++ip++"/"++mask) else none
  | .object name => if name≠"" then some name else none
  | .group name => if name≠"" then some name else none

omit [PyUnicode] in
/-- Group members become reference texts. -/
def normalizeAddressGroupMembers (item : ParsedAddressObject AddressMember) :
    ParsedAddressObject String where
  name := item.name
  content :=
    match item.content with
    | .address payload => .address payload
    | .addressGroup payload => .addressGroup {
        members := payload.members.filterMap memberRef
        description := payload.description
        rawLines := payload.rawLines }
  sourceLine := item.sourceLine
  sourceLineEnd := item.sourceLineEnd
  sourceFragment := item.sourceFragment

section Written

/-- A member as a line of a network group. -/
def writeMember : AddressMember → String
  | .host ip => "network-object host "++ip
  | .subnet ip mask => "network-object "++ip++" "++mask
  | .object name => "network-object object "++name
  | .group name => "group-object "++name

/-- Members made of words. The address of a subnet begins with a digit, so that it is
not taken for a keyword. -/
def Writable : AddressMember → Prop
  | .host ip => IsWord ip
  | .subnet ip mask => IsWord ip ∧ IsWord mask ∧ IsAscii ip ∧
      ∃ first rest,ip.toList=first::rest ∧ first.isDigit=true
  | .object name => IsWord name
  | .group name => IsWord name

/-- A line of two keywords and a text, lower-cased. -/
theorem lower_keywords {first second : String} (hfirst : IsAscii first) (hsecond : IsAscii second)
    (rest : String) : PyUnicode.lower (first++" "++(second++" "++rest))=
      asciiLower first++" "++(asciiLower second++" "++PyUnicode.lower rest) := by
  rw [PyUnicode.lower_append _ _ hfirst,PyUnicode.lower_append _ _ hsecond]

/-- A written host member is read as one. -/
theorem memberLine?_host {ip : String} (h : IsWord ip) :
    memberLine? ("network-object host "++ip)=some (.host ip) := by
  have hline : "network-object host "++ip="network-object"++" "++("host"++" "++ip) := by
    rw [←String.append_assoc,←String.append_assoc]
    rfl
  have hlow : PyUnicode.lower ("network-object host "++ip)=
      "network-object host "++PyUnicode.lower ip := by
    rw [hline,lower_keywords (by simp [IsAscii]) (by simp [IsAscii]),←String.append_assoc,
      ←String.append_assoc]
    rfl
  have hrest : splitRest 2 ("network-object host "++ip)=ip := by
    rw [hline,splitRest_two (isWord_of_ascii (by decide) (by simp [asciiSpace]))
      (isWord_of_ascii (by decide) (by simp [asciiSpace])),strip_word h.2]
  simp only [memberLine?,hlow,startsWith_append,if_true,hrest]

/-- A written object member is read as one. -/
theorem memberLine?_object {name : String} (h : IsWord name) :
    memberLine? ("network-object object "++name)=some (.object name) := by
  have hline : "network-object object "++name="network-object"++" "++("object"++" "++name) := by
    rw [←String.append_assoc,←String.append_assoc]
    rfl
  have hlow : PyUnicode.lower ("network-object object "++name)=
      "network-object object "++PyUnicode.lower name := by
    rw [hline,lower_keywords (by simp [IsAscii]) (by simp [IsAscii]),←String.append_assoc,
      ←String.append_assoc]
    rfl
  have hrest : splitRest 2 ("network-object object "++name)=name := by
    rw [hline,splitRest_two (isWord_of_ascii (by decide) (by simp [asciiSpace]))
      (isWord_of_ascii (by decide) (by simp [asciiSpace])),strip_word h.2]
  have hhost : startsWith "network-object host " ("network-object object "++PyUnicode.lower name)=
      false := by
    simp only [startsWith,String.toList_append]
    rfl
  simp only [memberLine?,hlow,hhost,startsWith_append,if_true,hrest,Bool.false_eq_true,if_false]

/-- A written group member is read as one. -/
theorem memberLine?_group {name : String} (h : IsWord name) :
    memberLine? ("group-object "++name)=some (.group name) := by
  have hline : "group-object "++name="group-object"++" "++name := rfl
  have hlow : PyUnicode.lower ("group-object "++name)="group-object "++PyUnicode.lower name := by
    rw [hline,PyUnicode.lower_append _ _ (by simp [IsAscii])]
    rfl
  have hrest : splitRest 1 ("group-object "++name)=name := by
    rw [hline,splitRest_one (isWord_of_ascii (by decide) (by simp [asciiSpace])),strip_word h.2]
  have hother : ∀ pre,pre∈["network-object host ","network-object object ","network-object "] →
      startsWith pre ("group-object "++PyUnicode.lower name)=false := by
    intro pre hpre
    simp only [List.mem_cons,List.not_mem_nil,or_false] at hpre
    rcases hpre with rfl|rfl|rfl <;> (simp only [startsWith,String.toList_append]; rfl)
  have hhost := hother "network-object host " (by simp)
  have hobject := hother "network-object object " (by simp)
  have hsubnet := hother "network-object " (by simp)
  simp only [memberLine?,hlow,hhost,hobject,hsubnet,startsWith_append,if_true,hrest,
    Bool.false_eq_true,if_false]

/-- A written subnet member is read as one. -/
theorem memberLine?_subnet {ip mask : String} (hip : IsWord ip) (hmask : IsWord mask)
    (hascii : IsAscii ip) {first : Char} {rest : List Char} (hfirst : ip.toList=first::rest)
    (hdigit : first.isDigit=true) :
    memberLine? ("network-object "++ip++" "++mask)=some (.subnet ip mask) := by
  have hline : "network-object "++ip++" "++mask="network-object"++" "++(ip++" "++mask) := by
    rw [←String.append_assoc,←String.append_assoc]
    rfl
  have hlow : PyUnicode.lower ("network-object "++ip++" "++mask)=
      "network-object "++(asciiLower ip++" "++PyUnicode.lower mask) := by
    rw [hline,lower_keywords (by simp [IsAscii]) hascii]
    rfl
  have hwords : splitWords ("network-object "++ip++" "++mask)=["network-object",ip,mask] := by
    rw [hline,splitWords_cons (isWord_of_ascii (by decide) (by simp [asciiSpace])),
      splitWords_cons hip,splitWords_word hmask]
  -- the digit is neither of the letters the other keywords begin with
  have hstart : (asciiLower ip).toList=first::rest.map Char.toLower := by
    rw [asciiLower,String.toList_ofList,hfirst,List.map_cons,toLower_of_isDigit hdigit]
  have hkeyword : ∀ letter : Char,letter.isDigit=false → (letter==first)=false := by
    intro letter hletter
    rw [beq_eq_false_iff_ne]
    rintro rfl
    rw [hdigit] at hletter
    cases hletter
  have hhost : startsWith "network-object host "
      ("network-object "++(asciiLower ip++" "++PyUnicode.lower mask))=false := by
    simp [startsWith,String.toList_append,hstart,List.isPrefixOf,hkeyword]
  have hobject : startsWith "network-object object "
      ("network-object "++(asciiLower ip++" "++PyUnicode.lower mask))=false := by
    simp [startsWith,String.toList_append,hstart,List.isPrefixOf,hkeyword]
  simp only [memberLine?,hlow,hhost,hobject,startsWith_append,if_true,hwords,
    Bool.false_eq_true,if_false]

/-- A written member line is read back. -/
theorem memberLine?_writeMember {member : AddressMember} (h : Writable member) :
    memberLine? (writeMember member)=some member := by
  cases member with
  | host ip => exact memberLine?_host h
  | subnet ip mask =>
    obtain ⟨hip,hmask,hascii,first,rest,hfirst,hdigit⟩ := h
    exact memberLine?_subnet hip hmask hascii hfirst hdigit
  | object name => exact memberLine?_object h
  | group name => exact memberLine?_group h

/-- A group that is written line by line is read back. -/
theorem parseObjectGroupNetworkChildren_written {members : List AddressMember}
    (h : ∀ member∈members,Writable member) :
    (parseObjectGroupNetworkChildren (members.map writeMember)).members=members := by
  rw [parseObjectGroupNetworkChildren_members,List.filterMap_map]
  exact (List.filterMap_congr fun member hm => memberLine?_writeMember (h member hm)).trans
    List.filterMap_some

end Written

end NspMigrator.CiscoAddressLines
