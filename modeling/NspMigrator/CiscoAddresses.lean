import Mathlib
import NspMigrator.Ipv4Text
import NspMigrator.CiscoState

/-!
# Address objects and group members

Network objects become address objects, references of rules and group
members become the object they name or a literal made on demand. Whatever
leads to no address becomes an unresolved object, so that nothing widens.
-/

namespace NspMigrator.CiscoAddresses

open PyText PyDict PyState PyRegistry Ipv4Text CanonicalModels CiscoParsedConfig CiscoState

/-- The prefix length of a mask text. -/
def maskToPrefix (mask : String) : Option ℕ :=
  (parseNetwork ("0.0.0.0/"++mask)).map (·.prefixlen)

/-- The object of a network object. -/
def addrObjectFromPayload (objectKey name : String) (payload : AddressPayload) : ObjectFields :=
  match payload.body with
  | some (.host ip) => {
      objectKey := objectKey
      objectFamily := .addr
      objectKind := .host
      name := name
      ipVersion := some 4
      cidr := some (ip++"/32") }
  | some (.subnet ip mask) =>
    match maskToPrefix mask with
    | none => {
        objectKey := objectKey
        objectFamily := .addr
        objectKind := .unresolvedAddr
        name := name
        description := some ("invalid ASA subnet mask: "++ip++" "++mask) }
    | some prefixlen => {
        objectKey := objectKey
        objectFamily := .addr
        objectKind := .subnet
        name := name
        ipVersion := some 4
        cidr := some (ip++"/"++toString prefixlen) }
  | some (.range start stop) => {
      objectKey := objectKey
      objectFamily := .addr
      objectKind := .range
      name := start++"-"++stop
      ipVersion := some 4
      rangeStart := some start
      rangeEnd := some stop }
  | some (.fqdn fqdn) => {
      objectKey := objectKey
      objectFamily := .addr
      objectKind := .fqdn
      name := fqdn
      fqdn := some fqdn }
  | none => {
      objectKey := objectKey
      objectFamily := .addr
      objectKind := .unresolvedAddr
      name := name
      description := some "unsupported ASA address object payload" }

theorem objectKey_addrObjectFromPayload (objectKey name : String) (payload : AddressPayload) :
    (addrObjectFromPayload objectKey name payload).objectKey=objectKey := by
  unfold addrObjectFromPayload
  split
  · rfl
  · split
    · rfl
    · rfl
  · rfl
  · rfl
  · rfl

/-- The sentinel for every address. -/
def anyAddrFields : ObjectFields where
  objectKey := "addr:any"
  objectFamily := .addr
  objectKind := .anyAddr
  name := "any"

/-- The object of a host literal. -/
def hostFields (ip : String) : ObjectFields where
  objectKey := "addr:host:"++ip
  objectFamily := .addr
  objectKind := .host
  name := ip
  ipVersion := some 4
  cidr := some (ip++"/32")

/-- The object of a subnet literal. -/
def subnetFields (cidr : String) : ObjectFields where
  objectKey := "addr:net:"++cidr
  objectFamily := .addr
  objectKind := .subnet
  name := cidr
  ipVersion := some 4
  cidr := some cidr

/-- The object of a reference that leads nowhere. -/
def unresolvedFields (description ref : String) : ObjectFields where
  objectKey := "addr:unresolved:"++ref
  objectFamily := .addr
  objectKind := .unresolvedAddr
  name := ref
  description := some description

/-- What the unresolved object of a rule operand says. -/
def refDescription : String := "unresolved ASA address reference"

/-- What the unresolved object of a group member says. -/
def memberDescription : String := "unresolved ASA address group member"

/-- The parts of a subnet literal before and after its first slash. -/
def splitSlash (body : String) : Option (String × String) :=
  match body.toList.dropWhile (·≠ '/') with
  | [] => none
  | _::mask => some (String.ofList (body.toList.takeWhile (·≠ '/')),String.ofList mask)

/-- The parts of a subnet literal. Without a slash they cannot be taken apart. -/
def subnetParts (ref : String) : Normalizing (String × String) := do
  match splitSlash ( removeprefix "net:" ref) with
  | some parts => return parts
  | none => throw "ValueError"

/-- The object of a host operand. -/
def ensureHostRef (ref : String) (sourceLine : ℕ) (role : String) : Normalizing ℕ := do
  let ip := removeprefix "host:" ref
  let fields := hostFields ip
  if (← objectId? fields.objectKey).isNone then
    let (_,created) ← register fields
    emitTrace sourceLine sourceLine .object created (some ("host "++ip)) (some role)
      (some "inline host materialized from ACL operand")
  objectIdAt fields.objectKey

/-- The unresolved object of an operand, with an issue when it is new. -/
def ensureUnresolvedRef (ref : String) (sourceLine : ℕ) (role : String) : Normalizing ℕ := do
  let fields := unresolvedFields refDescription ref
  match ← objectId? fields.objectKey with
  | some id => return id
  | none =>
    let (_,created) ← register fields
    emitTrace sourceLine sourceLine .object created (some ref) (some role)
      (some "unresolved address reference fallback")
    let _ ← emitIssue "cisco_asa_rule" "unresolved_address_ref"
      ("Unresolved ASA address reference: "++ref) (some ref) (some sourceLine)
      (some sourceLine) (some ref) (some .mappingMissing)
    return created

/-- The object of a subnet operand. -/
def ensureSubnetRef (ref : String) (sourceLine : ℕ) (role : String) : Normalizing ℕ := do
  let (ip,mask) ← subnetParts ref
  match maskToPrefix mask with
  | none => ensureUnresolvedRef ref sourceLine role
  | some prefixlen =>
    let cidr := ip++"/"++toString prefixlen
    let fields := subnetFields cidr
    if (← objectId? fields.objectKey).isNone then
      let (_,created) ← register fields
      emitTrace sourceLine sourceLine .object created (some cidr) (some role)
        (some "inline subnet materialized from ACL operand")
    objectIdAt fields.objectKey

/-- The object of an operand of a rule. -/
def ensureAddrObjectFromRef (ref : String) (sourceLine : ℕ) (role : String) :
    Normalizing ℕ := do
  if ref="any" then objectIdAt "addr:any"
  else if startsWith "host:" ref=true then ensureHostRef ref sourceLine role
  else if startsWith "net:" ref=true then ensureSubnetRef ref sourceLine role
  else
    match ← objectId? ("addr:"++ref) with
    | some id => return id
    | none => ensureUnresolvedRef ref sourceLine role

/-- Register a member object unless its key is taken. -/
def registerMember (fields : ObjectFields) : Normalizing String := do
  if (← objectId? fields.objectKey).isNone then
    let _ ← register fields
  return fields.objectKey

/-- The key of a host member. -/
def resolveHostMember (ref : String) : Normalizing String :=
  registerMember (hostFields ( removeprefix "host:" ref))

/-- The key of a subnet member, nothing for a mask that is none. -/
def resolveSubnetMember (ref : String) : Normalizing (Option String) := do
  let (ip,mask) ← subnetParts ref
  match maskToPrefix mask with
  | none => return none
  | some prefixlen => return some (← registerMember (subnetFields (ip++"/"++toString prefixlen)))

/-- The key of an unresolved leaf of a group. -/
def resolveUnresolvedMember (ref : String) : Normalizing String :=
  registerMember (unresolvedFields memberDescription ref)

/-- The key of the object a group member leads to. -/
def resolveMemberRef (ref : String) : Normalizing String := do
  if startsWith "host:" ref=true then resolveHostMember ref
  else if startsWith "net:" ref=true then
    match ← resolveSubnetMember ref with
    | some key => return key
    | none => resolveUnresolvedMember ref
  else
    match ← objectId? ("addr:"++ref) with
    | some _ => return "addr:"++ref
    | none => resolveUnresolvedMember ref

/-- Lineage records of the objects registered since some keys were known. Keys are visited
in the order they were registered. -/
def emitMaterializedObjects (sourceLine : ℕ) (fragment note : String) (keysBefore : List String) :
    Normalizing PUnit := do
  let keys := (← get).registry.entries.keys
  forM (keys.filter fun key => decide (key∉keysBefore)) fun key => do
    let id ← objectIdAt key
    emitTrace sourceLine sourceLine .object id (some fragment) none (some note)

/-- One edge from a group to a member, with its lineage record. -/
def attachMemberEdge (parentId childObjectId position sourceLine : ℕ) (fragment : String) :
    Normalizing PUnit := do
  let id ← freshId
  modify fun σ =>
    { σ with objectMembers := σ.objectMembers++[⟨id,parentId,childObjectId,position⟩] }
  emitTrace sourceLine sourceLine .objectMember id (some fragment) (some "member_ref") none

/-- The issue of a member that leads nowhere. -/
def emitUnresolvedAddressGroupMemberIssue (groupName memberRef : String) (sourceLine : ℕ) :
    Normalizing PUnit := do
  let _ ← emitIssue "cisco_asa_address_group" "unresolved_group_member_ref"
    ("Unresolved address group member reference: "++groupName++" -> "++memberRef)
    (some (groupName++":"++memberRef)) (some sourceLine) (some sourceLine) (some memberRef)
    (some .mappingMissing)

/-- The object of a parsed address item. -/
def headerFields (item : ParsedAddressObject String) : ObjectFields :=
  match item.content with
  | .addressGroup _ => {
      objectKey := "addr:"++item.name
      objectFamily := .addr
      objectKind := .addrGroup
      name := item.name }
  | .address payload => addrObjectFromPayload ("addr:"++item.name) item.name payload

theorem objectKey_headerFields (item : ParsedAddressObject String) :
    (headerFields item).objectKey="addr:"++item.name := by
  unfold headerFields
  split
  · rfl
  · exact objectKey_addrObjectFromPayload _ _ _

/-- Register the header of one address item. -/
def materializeAddressObject (item : ParsedAddressObject String) : Normalizing PUnit := do
  let (_,created) ← register (headerFields item)
  emitTrace item.sourceLine item.sourceLineEnd .object created (some item.sourceFragment)
    (some "header") none

/-- Register the headers of all address items. -/
def materializeAddressObjects (parsed : ParsedConfig) : Normalizing PUnit :=
  forM parsed.addressObjects materializeAddressObject

/-- One member of a group. -/
def materializeAddressGroupMember (groupName : String) (parentId sourceLine : ℕ)
    (member : String × ℕ) : Normalizing PUnit := do
  let keysBefore := (← get).registry.entries.keys
  let childKey ← resolveMemberRef member.1
  emitMaterializedObjects sourceLine member.1 "inline member materialized from group body"
    keysBefore
  match ← objectId? childKey with
  | some childId =>
    attachMemberEdge parentId childId member.2 sourceLine member.1
    if startsWith "addr:unresolved:" childKey=true then
      emitUnresolvedAddressGroupMemberIssue groupName member.1 sourceLine
  | none => emitUnresolvedAddressGroupMemberIssue groupName member.1 sourceLine

/-- The members of one address item, if it is a group. -/
def materializeAddressGroup (item : ParsedAddressObject String) : Normalizing PUnit := do
  match item.content with
  | .address _ => return ⟨⟩
  | .addressGroup payload =>
    match ← objectId? ("addr:"++item.name) with
    | none => return ⟨⟩
    | some parentId =>
      forM payload.members.zipIdx (materializeAddressGroupMember item.name parentId item.sourceLine)

/-- The members of all address groups. -/
def materializeAddressGroupMembers (parsed : ParsedConfig) : Normalizing PUnit :=
  forM parsed.addressObjects materializeAddressGroup

section Specs

variable {σ σ' : NormalizerState} {ref role : String} {sourceLine id : ℕ}

/-- The object a host or subnet literal stands for, nothing where the parts of a subnet cannot
be taken apart. -/
def literalFields (description ref : String) : Option ObjectFields :=
  if startsWith "host:" ref=true then some (hostFields ( removeprefix "host:" ref))
  else if startsWith "net:" ref=true then
    (splitSlash ( removeprefix "net:" ref)).map fun parts =>
      match maskToPrefix parts.2 with
      | none => unresolvedFields description ref
      | some prefixlen => subnetFields (parts.1++"/"++toString prefixlen)
  else some (unresolvedFields description ref)

/-- The objects made for references on demand. -/
inductive AddressLiteral : ObjectFields → Prop
  | host (ip : String) : AddressLiteral (hostFields ip)
  | subnet (cidr : String) : AddressLiteral (subnetFields cidr)
  | unresolved (description ref : String) : AddressLiteral (unresolvedFields description ref)

/-- A reference that is a host or subnet literal. -/
def IsLiteral (ref : String) : Prop :=
  startsWith "host:" ref=true ∨ startsWith "net:" ref=true

instance (ref : String) : Decidable (IsLiteral ref) := inferInstanceAs (Decidable (_ ∨ _))

/-- The object a reference leads to in a state: a literal, a registered object, or an
unresolved one. -/
def addressTarget (description ref : String) (σ : NormalizerState) : Option ObjectFields :=
  if IsLiteral ref then literalFields description ref
  else
    match σ.object? ("addr:"++ref) with
    | some obj => some obj.value
    | none => literalFields description ref

theorem subnetParts_spec {parts : String × String}
    (h : (subnetParts ref).run σ=.ok (parts,σ')) :
    σ'=σ ∧ splitSlash ( removeprefix "net:" ref)=some parts := by
  unfold subnetParts at h
  cases hs : splitSlash ( removeprefix "net:" ref) with
  | none =>
    rw [hs] at h
    exact absurd h run_throw_eq_ok
  | some found =>
    rw [hs] at h
    obtain ⟨rfl,rfl⟩ := run_pure_eq_ok.mp h
    exact ⟨rfl,rfl⟩

/-- Registering under a free key resolves to the new object. -/
theorem register_resolves {fields : ObjectFields} {obj : CanonicalObject} {created : ℕ}
    (h : (register fields).run σ=.ok ((obj,created),σ')) :
    Adds (·=fields) σ σ' ∧ Resolves σ σ' fields obj.id := by
  obtain ⟨hadd,hobj,hc⟩ := register_spec (P:=(·=fields)) h rfl
  exact ⟨hadd,obj,hobj,rfl,hc⟩

/-- Registering a free key creates the registered object. -/
theorem register_created {fields : ObjectFields} {obj : CanonicalObject} {created : ℕ}
    (h : (register fields).run σ=.ok ((obj,created),σ'))
    (hnone : σ.object? fields.objectKey=none) : obj.id=created := by
  have he := run_modifyGet_eq_ok.mp h
  obtain ⟨hpair,-⟩ := Prod.mk.inj he
  obtain ⟨hobj,hcreated⟩ := Prod.mk.inj hpair
  have hget : (σ.registry.register fields).get? fields.objectKey=
      some ⟨σ.registry.nextId,fields⟩ := by
    rw [Registry.get?_register,if_pos ⟨rfl,hnone⟩]
  rw [hget,Option.getD_some] at hobj
  rw [←hobj,←hcreated]

/-- The shape shared by host and subnet operands: register and trace when the key is free, then
read the number under the key. -/
theorem ensureLiteral_spec {fields : ObjectFields} {fragment note : String}
    (h : (do
      if (← objectId? fields.objectKey).isNone then
        let (_,created) ← register fields
        emitTrace sourceLine sourceLine .object created (some fragment) (some role) (some note)
      objectIdAt fields.objectKey : Normalizing ℕ).run σ=.ok (id,σ')) :
    Adds (·=fields) σ σ' ∧ Resolves σ σ' fields id := by
  obtain ⟨found,τ,hfound,h⟩ := run_bind_eq_ok.mp h
  obtain ⟨rfl,hfound⟩ := objectId?_spec hfound
  rcases run_ite h with ⟨hnone,h⟩|⟨hsome,h⟩
  · obtain ⟨⟨obj,created⟩,τ,hreg,h⟩ := run_bind_eq_ok.mp h
    obtain ⟨⟨⟩,τ',htrace,h⟩ := run_bind_eq_ok.mp h
    obtain ⟨hadd,hres⟩ := register_resolves hreg
    have hs := emitTrace_spec htrace
    obtain ⟨rfl,obj',hobj',hid⟩ := objectIdAt_spec h
    obtain ⟨obj'',hobj'',-,hc⟩ := hres
    rw [hs.object?_eq,hobj'',Option.some.injEq] at hobj'
    subst hobj'
    refine ⟨hadd.trans hs.adds,obj'',?_,hid,hc⟩
    rw [hs.object?_eq,hobj'']
  · obtain ⟨rfl,obj,hobj,hid⟩ := objectIdAt_spec h
    exact ⟨Adds.refl _ _,obj,hobj,hid,Or.inl hobj⟩

theorem ensureHostRef_spec (h : (ensureHostRef ref sourceLine role).run σ=.ok (id,σ')) :
    Adds (·=hostFields ( removeprefix "host:" ref)) σ σ' ∧
      Resolves σ σ' (hostFields ( removeprefix "host:" ref)) id :=
  ensureLiteral_spec h

theorem ensureUnresolvedRef_spec
    (h : (ensureUnresolvedRef ref sourceLine role).run σ=.ok (id,σ')) :
    Adds (·=unresolvedFields refDescription ref) σ σ' ∧
      Resolves σ σ' (unresolvedFields refDescription ref) id := by
  obtain ⟨found,τ,hfound,h⟩ := run_bind_eq_ok.mp h
  obtain ⟨rfl,hfound⟩ := objectId?_spec hfound
  cases found with
  | some id' =>
    obtain ⟨rfl,rfl⟩ := run_pure_eq_ok.mp h
    obtain ⟨obj,hobj,hid⟩ := Option.map_eq_some_iff.mp hfound.symm
    exact ⟨Adds.refl _ _,obj,hobj,hid,Or.inl hobj⟩
  | none =>
    obtain ⟨⟨obj,created⟩,τ,hreg,h⟩ := run_bind_eq_ok.mp h
    obtain ⟨⟨⟩,τ₁,htrace,h⟩ := run_bind_eq_ok.mp h
    obtain ⟨issue,τ₂,hissue,h⟩ := run_bind_eq_ok.mp h
    obtain ⟨rfl,rfl⟩ := run_pure_eq_ok.mp h
    obtain ⟨hadd,hres⟩ := register_resolves hreg
    have hnone := Option.map_eq_none_iff.mp hfound.symm
    have hall := (hadd.trans (emitTrace_spec htrace).adds).trans (emitIssue_adds hissue)
    rw [register_created hreg hnone] at hres
    have hquiet : Adds (fun _ => True) τ τ₂ :=
      (emitTrace_spec htrace).adds.trans (emitIssue_adds hissue)
    exact ⟨hall,hres.later hquiet.later⟩

/-- A subnet literal with a good mask. -/
theorem literalFields_subnet {description ip mask : String} {prefixlen : ℕ}
    (hhost : ¬startsWith "host:" ref=true) (hnet : startsWith "net:" ref=true)
    (hparts : splitSlash ( removeprefix "net:" ref)=some (ip,mask))
    (hmask : maskToPrefix mask=some prefixlen) :
    literalFields description ref=some (subnetFields (ip++"/"++toString prefixlen)) := by
  rw [literalFields,if_neg hhost,if_pos hnet,hparts,Option.map_some]
  simp only [hmask]

/-- A subnet literal with a mask that is none. -/
theorem literalFields_badMask {description ip mask : String}
    (hhost : ¬startsWith "host:" ref=true) (hnet : startsWith "net:" ref=true)
    (hparts : splitSlash ( removeprefix "net:" ref)=some (ip,mask))
    (hmask : maskToPrefix mask=none) :
    literalFields description ref=some (unresolvedFields description ref) := by
  rw [literalFields,if_neg hhost,if_pos hnet,hparts,Option.map_some]
  simp only [hmask]

theorem ensureSubnetRef_spec (hhost : ¬startsWith "host:" ref=true)
    (hnet : startsWith "net:" ref=true)
    (h : (ensureSubnetRef ref sourceLine role).run σ=.ok (id,σ')) :
    ∃ fields,literalFields refDescription ref=some fields ∧
      Adds (fun made => made=fields ∧ AddressLiteral made) σ σ' ∧ Resolves σ σ' fields id := by
  obtain ⟨⟨ip,mask⟩,τ,hrun,hrest⟩ := run_bind_eq_ok.mp h
  obtain ⟨rfl,hparts⟩ := subnetParts_spec hrun
  cases hmask : maskToPrefix mask with
  | none =>
    simp only [hmask] at hrest
    obtain ⟨hadd,hres⟩ := ensureUnresolvedRef_spec hrest
    exact ⟨_,literalFields_badMask hhost hnet hparts hmask,
      hadd.of_eq ⟨rfl,.unresolved _ _⟩,hres⟩
  | some prefixlen =>
    simp only [hmask] at hrest
    obtain ⟨hadd,hres⟩ := ensureLiteral_spec hrest
    exact ⟨_,literalFields_subnet hhost hnet hparts hmask,
      hadd.of_eq ⟨rfl,.subnet _⟩,hres⟩

/-- A reference that is no literal and names a registered object leads to it. -/
theorem addressTarget_registered {description : String} {obj : CanonicalObject}
    (hlit : ¬IsLiteral ref) (hobj : σ.object? ("addr:"++ref)=some obj) :
    addressTarget description ref σ=some obj.value := by
  rw [addressTarget,if_neg hlit]
  simp only [hobj]

/-- A reference that is no literal and names nothing leads to an unresolved object. -/
theorem addressTarget_unresolved {description : String} (hlit : ¬IsLiteral ref)
    (hobj : σ.object? ("addr:"++ref)=none) :
    addressTarget description ref σ=some (unresolvedFields description ref) := by
  have hhost : ¬startsWith "host:" ref=true := fun h => hlit (Or.inl h)
  have hnet : ¬startsWith "net:" ref=true := fun h => hlit (Or.inr h)
  rw [addressTarget,if_neg hlit]
  simp only [hobj]
  rw [literalFields,if_neg hhost,if_neg hnet]

/-- The object of an operand is the one its reference leads to, and no other is added. -/
theorem ensureAddrObjectFromRef_spec
    (h : (ensureAddrObjectFromRef ref sourceLine role).run σ=.ok (id,σ')) :
    ∃ fields,addressTarget refDescription ref σ=some fields ∧
      Adds (fun made => made=fields ∧ AddressLiteral made) σ σ' ∧ Resolves σ σ' fields id := by
  unfold ensureAddrObjectFromRef at h
  rcases run_ite h with ⟨hany,h⟩|⟨hany,h⟩
  · obtain ⟨rfl,obj,hobj,rfl⟩ := objectIdAt_spec h
    have hlit : ¬IsLiteral "any" := by decide
    subst hany
    exact ⟨obj.value,addressTarget_registered hlit hobj,Adds.refl _ _,resolves_of_object? hobj⟩
  rcases run_ite h with ⟨hhost,h⟩|⟨hhost,h⟩
  · have ht : addressTarget refDescription ref σ=
        some (hostFields ( removeprefix "host:" ref)) := by
      have hlit : IsLiteral ref := Or.inl hhost
      rw [addressTarget,if_pos hlit,literalFields,if_pos hhost]
    obtain ⟨hadd,hres⟩ := ensureHostRef_spec h
    exact ⟨_,ht,hadd.of_eq ⟨rfl,.host _⟩,hres⟩
  rcases run_ite h with ⟨hnet,h⟩|⟨hnet,h⟩
  · obtain ⟨fields,hf,hspec⟩ := ensureSubnetRef_spec hhost hnet h
    have hlit : IsLiteral ref := Or.inr hnet
    refine ⟨fields,?_,hspec⟩
    rw [addressTarget,if_pos hlit,hf]
  · have hlit : ¬IsLiteral ref := fun hl => hl.elim hhost hnet
    obtain ⟨found,τ,hfound,h⟩ := run_bind_eq_ok.mp h
    obtain ⟨rfl,hfound⟩ := objectId?_spec hfound
    cases found with
    | some id' =>
      obtain ⟨rfl,rfl⟩ := run_pure_eq_ok.mp h
      obtain ⟨obj,hobj,rfl⟩ := Option.map_eq_some_iff.mp hfound.symm
      exact ⟨obj.value,addressTarget_registered hlit hobj,Adds.refl _ _,
        resolves_of_object? hobj⟩
    | none =>
      have hnone := Option.map_eq_none_iff.mp hfound.symm
      obtain ⟨hadd,hres⟩ := ensureUnresolvedRef_spec h
      exact ⟨_,addressTarget_unresolved hlit hnone,
        hadd.of_eq ⟨rfl,.unresolved _ _⟩,hres⟩

/-- A member object is registered under its key when the key is free. -/
theorem registerMember_spec {fields : ObjectFields} {key : String}
    (h : (registerMember fields).run σ=.ok (key,σ')) :
    key=fields.objectKey ∧ Adds (·=fields) σ σ' ∧ ∃ id,Resolves σ σ' fields id := by
  obtain ⟨found,τ,hfound,h⟩ := run_bind_eq_ok.mp h
  obtain ⟨rfl,hfound⟩ := objectId?_spec hfound
  rcases run_ite h with ⟨hnone,h⟩|⟨hsome,h⟩
  · obtain ⟨⟨obj,created⟩,τ,hreg,h⟩ := run_bind_eq_ok.mp h
    obtain ⟨rfl,rfl⟩ := run_pure_eq_ok.mp h
    obtain ⟨hadd,hres⟩ := register_resolves hreg
    exact ⟨rfl,hadd,obj.id,hres⟩
  · obtain ⟨rfl,rfl⟩ := run_pure_eq_ok.mp h
    rw [Option.isNone_map,Option.isNone_iff_eq_none,←ne_eq,Option.ne_none_iff_exists'] at hsome
    obtain ⟨obj,hobj⟩ := hsome
    exact ⟨rfl,Adds.refl _ _,obj.id,obj,hobj,rfl,Or.inl hobj⟩

/-- The key of a group member is that of the object its reference leads to, and only the
object of a literal is added. -/
theorem resolveMemberRef_spec {key : String} (h : (resolveMemberRef ref).run σ=.ok (key,σ')) :
    ∃ fields,addressTarget memberDescription ref σ=some fields ∧ key=fields.objectKey ∧
      Adds (fun made => literalFields memberDescription ref=some made) σ σ' ∧
      ∃ id,Resolves σ σ' fields id := by
  unfold resolveMemberRef at h
  rcases run_ite h with ⟨hhost,h⟩|⟨hhost,h⟩
  · have hf : literalFields memberDescription ref=
        some (hostFields ( removeprefix "host:" ref)) := by
      rw [literalFields,if_pos hhost]
    have hlit : IsLiteral ref := Or.inl hhost
    obtain ⟨hkey,hadd,hres⟩ := registerMember_spec h
    exact ⟨_,(if_pos hlit).trans hf,hkey,hadd.of_eq hf,hres⟩
  rcases run_ite h with ⟨hnet,h⟩|⟨hnet,h⟩
  · have hlit : IsLiteral ref := Or.inr hnet
    obtain ⟨found,τ,hfound,h⟩ := run_bind_eq_ok.mp h
    obtain ⟨⟨ip,mask⟩,τ',hparts,hsub⟩ := run_bind_eq_ok.mp hfound
    obtain ⟨rfl,hparts'⟩ := subnetParts_spec hparts
    cases hmask : maskToPrefix mask with
    | none =>
      dsimp only at hsub
      rw [hmask] at hsub
      obtain ⟨rfl,rfl⟩ := run_pure_eq_ok.mp hsub
      obtain ⟨hkey,hadd,hres⟩ := registerMember_spec h
      have hf : literalFields memberDescription ref=
          some (unresolvedFields memberDescription ref) :=
        literalFields_badMask hhost hnet hparts' hmask
      exact ⟨_,(if_pos hlit).trans hf,hkey,hadd.of_eq hf,hres⟩
    | some prefixlen =>
      dsimp only at hsub
      rw [hmask] at hsub
      obtain ⟨key',τ'',hreg,hp⟩ := run_bind_eq_ok.mp hsub
      obtain ⟨rfl,rfl⟩ := run_pure_eq_ok.mp hp
      obtain ⟨rfl,rfl⟩ := run_pure_eq_ok.mp h
      obtain ⟨hkey,hadd,hres⟩ := registerMember_spec hreg
      have hf : literalFields memberDescription ref=
          some (subnetFields (ip++"/"++toString prefixlen)) :=
        literalFields_subnet hhost hnet hparts' hmask
      exact ⟨_,(if_pos hlit).trans hf,hkey,hadd.of_eq hf,hres⟩
  · have hlit : ¬IsLiteral ref := fun hl => hl.elim hhost hnet
    obtain ⟨found,τ,hfound,h⟩ := run_bind_eq_ok.mp h
    obtain ⟨rfl,hfound⟩ := objectId?_spec hfound
    cases found with
    | some id' =>
      obtain ⟨rfl,rfl⟩ := run_pure_eq_ok.mp h
      obtain ⟨obj,hobj,-⟩ := Option.map_eq_some_iff.mp hfound.symm
      have hkey := τ.registry.key_eq _ obj hobj
      exact ⟨obj.value,addressTarget_registered hlit hobj,hkey.symm,Adds.refl _ _,
        obj.id,resolves_of_object? hobj⟩
    | none =>
      have hnone := Option.map_eq_none_iff.mp hfound.symm
      obtain ⟨hkey,hadd,hres⟩ := registerMember_spec h
      have hf : literalFields memberDescription ref=
          some (unresolvedFields memberDescription ref) := by
        rw [literalFields,if_neg hhost,if_neg hnet]
      exact ⟨_,addressTarget_unresolved hlit hnone,hkey,hadd.of_eq hf,hres⟩

/-- Tracing new objects changes nothing but the records. -/
theorem emitMaterializedObjects_spec {fragment note : String} {keysBefore : List String}
    {u : PUnit}
    (h : (emitMaterializedObjects sourceLine fragment note keysBefore).run σ=.ok (u,σ')) :
    Silent σ σ' := by
  obtain ⟨t,τ,hget,h⟩ := run_bind_eq_ok.mp h
  obtain ⟨rfl,rfl⟩ := run_get_eq_ok.mp hget
  refine run_forM_invariant (P:=fun τ => Silent σ τ) ?_ (Silent.refl σ) h
  intro key hk s s' hs hr
  obtain ⟨id,τ,hid,htrace⟩ := run_bind_eq_ok.mp hr
  obtain ⟨rfl,-⟩ := objectIdAt_spec hid
  exact hs.trans (emitTrace_spec htrace)

/-- An edge is appended, and nothing else but the records changes. -/
theorem attachMemberEdge_spec {parentId childObjectId position : ℕ} {fragment : String} {u : PUnit}
    (h : (attachMemberEdge parentId childObjectId position sourceLine fragment).run σ=.ok (u,σ')) :
    ∃ edgeId,Silent { σ with objectMembers :=
      σ.objectMembers++[⟨edgeId,parentId,childObjectId,position⟩] } σ' := by
  obtain ⟨edgeId,τ,hid,h⟩ := run_bind_eq_ok.mp h
  obtain ⟨-,rfl⟩ := freshId_spec hid
  obtain ⟨⟨⟩,τ,hmod,h⟩ := run_bind_eq_ok.mp h
  have he := run_modify_eq_ok.mp hmod
  subst he
  have hs := emitTrace_spec h
  have hle := hs.nextId_le
  refine ⟨edgeId,hs.registry_eq,hs.issues_eq,hs.zones_eq,hs.members_eq,hs.rules_eq,
    hs.operands_eq,hs.blockers_eq,hs.signatures_eq,?_⟩
  simp only at hle ⊢
  omega

end Specs

end NspMigrator.CiscoAddresses
