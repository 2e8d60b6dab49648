import Mathlib
import NspMigrator.PyExcept
import NspMigrator.CiscoAcls
import NspMigrator.CiscoIndex
import NspMigrator.CiscoSubnetLines
import NspMigrator.CiscoMemberLines

/-!
# The parser

A configuration is read into address items, service items and rows. What its
normalization leaves is stated over the lines of the text: over the headers of
a name and the lines that stand under them.
-/

namespace NspMigrator.CiscoParser

open PyText PyWords PyDict PyExcept Ipv4 Ipv4Text CanonicalModels CiscoParsedConfig
open CiscoConfigTree CiscoIndex CiscoAcls CiscoAddresses CiscoAddressLines
open CiscoServiceLines CiscoNormalizer CiscoServiceMembers CiscoGroupLines
open CiscoSubnetLines CiscoMemberLines

/-- What access lists are bound to and used for. -/
structure AclBindings where
  /-- The bindings of a list. -/
  zones : String → List ZoneResolution
  /-- The use of a list. -/
  usage : String → AclUsageResolution

variable [PyUnicode]

/-- The address items of a tree. -/
def addressObjects (tree : ConfigTree) : List (ParsedAddressObject String) :=
  (CiscoAddressLines.extract (objectStanzas tree) (groupStanzas tree (·.objectGroupNetwork))).map
    normalizeAddressGroupMembers

/-- The service items of a tree. -/
def serviceObjects (tree : ConfigTree) : List ParsedServiceObject :=
  CiscoServiceLines.extract (groupStanzas tree (·.objectService))
    (groupStanzas tree (·.objectGroupService)) (groupStanzas tree (·.objectGroupIcmpType))
    (groupStanzas tree (·.objectGroupProtocol))

/-- A configuration is read. It has some row. -/
def parse (bindingsOf : ConfigTree → Except String AclBindings) (rawText : String) :
    Except String ParsedConfig := do
  if strip rawText="" then throw "Cisco ASA config is empty"
  let tree := build rawText
  let bindings ← bindingsOf tree
  let rules ← CiscoAcls.extract (some bindings.zones) (some bindings.usage)
    (tree.nodes.map (·.line))
  if rules=[] then throw "No ACL rules found in Cisco ASA config"
  return ⟨addressObjects tree,serviceObjects tree,rules⟩

/-- What is read of a text comes from its tree. -/
theorem parse_spec {bindingsOf : ConfigTree → Except String AclBindings} {rawText : String}
    {parsed : ParsedConfig} (h : parse bindingsOf rawText=.ok parsed) :
    parsed.addressObjects=addressObjects (build rawText) ∧
      parsed.serviceObjects=serviceObjects (build rawText) ∧ parsed.rules≠[] := by
  unfold parse at h
  split at h
  · cases h
  obtain ⟨bindings,-,h⟩ := bind_eq_ok.mp h
  obtain ⟨rules,-,h⟩ := bind_eq_ok.mp h
  split at h
  · cases h
  next hrules =>
  rw [←pure_eq_ok.mp h]
  exact ⟨rfl,rfl,hrules⟩

omit [PyUnicode] in
/-- Related lists have a partner for each element. -/
theorem exists_of_mem_forall₂ {α β : Type} {R : α → β → Prop} {xs : List α} {ys : List β} {x : α}
    (h : List.Forall₂ R xs ys) (hx : x∈xs) : ∃ y∈ys,R x y := by
  induction h with
  | nil => cases hx
  | cons hr _ ih =>
    rcases List.mem_cons.mp hx with rfl|hx
    · exact ⟨_,List.mem_cons_self,hr⟩
    · obtain ⟨y,hy,hr⟩ := ih hx
      exact ⟨y,List.mem_cons_of_mem _ hy,hr⟩

section Config

variable {bindingsOf : ConfigTree → Except String AclBindings} {rawText : String}
  {parsed : ParsedConfig} {outcome : NormalizeOutcome}

/-- What a line left is in the outcome. -/
def LeftIn (outcome : NormalizeOutcome) (left : LineLeft) : Prop :=
  (∀ edge∈left.1,edge∈outcome.objectMembers) ∧ ∀ issue∈left.2,issue∈outcome.issues

/-- The addresses that the lines under the headers of a network object give, in order. -/
def bodiesOf (nodes : List ConfigNode) (name : String) : List AddressBody :=
  ((headerNodes nodes .objectNetwork name).flatMap (bodyLines nodes)).filterMap addressLine?

/-- A network object of a configuration is in the outcome, with the address of the last address
line under any of its headers. -/
theorem config_object_shown (hparse : parse bindingsOf rawText=.ok parsed)
    (h : normalize parsed=.ok outcome) {name : String} (hany : name≠"any")
    (hne : headerNodes (build rawText).nodes .objectNetwork name≠[]) :
    ∃ obj∈outcome.objects,∃ payload : AddressPayload,
      payload.body=(bodiesOf (build rawText).nodes name).getLast? ∧
      obj.value=addrObjectFromPayload ("addr:"++name) name payload := by
  obtain ⟨stanzas,hentry,hall⟩ := exists_objectStanzas rawText hne
  have hstanzas : stanzas≠[] := by
    rintro rfl
    exact hne (List.forall₂_nil_right_iff.mp hall)
  obtain ⟨obj,hobj,payload,hbody,hvalue⟩ :=
    text_objects_shown (parse_spec hparse).1 h hentry hstanzas hany
  exact ⟨obj,hobj,payload,by rw [hbody,addressLines,children_of_stanzas hall,bodiesOf],hvalue⟩

/-- The object of a name whose last address line is a subnet stands for the addresses of that
line exactly when its mask is a netmask. -/
theorem config_subnet_exact (hparse : parse bindingsOf rawText=.ok parsed)
    (h : normalize parsed=.ok outcome) {name : String} (hany : name≠"any")
    {address : Ipv4Address} {mask : ℕ} (hmask : mask<2^32)
    (hlast : (bodiesOf (build rawText).nodes name).getLast?=
      some (.subnet (dotted address.toInt) (dotted mask))) :
    ∃ obj∈outcome.objects,obj.value.objectKey="addr:"++name ∧
      (StandsForLine obj.value address mask ↔ IsNetmask mask) := by
  have hne : headerNodes (build rawText).nodes .objectNetwork name≠[] := by
    intro hnone
    rw [bodiesOf,hnone] at hlast
    cases hlast
  obtain ⟨obj,hobj,payload,hbody,hvalue⟩ := config_object_shown hparse h hany hne
  refine ⟨obj,hobj,?_,?_⟩
  · rw [hvalue,objectKey_addrObjectFromPayload]
  · rw [hvalue]
    exact subnet_line_exact (hbody.trans hlast) hmask

/-- The members that the network groups of a tree name. -/
def addressLinesOf (tree : ConfigTree) : List AddressGroupLine :=
  textAddressLines (groupStanzas tree (·.objectGroupNetwork))

/-- The members that the service, icmp-type and protocol groups of a tree name. -/
def serviceLinesOf (tree : ConfigTree) : List GroupLine :=
  textServiceLines serviceGroupItem parseServiceGroupMember
      (groupStanzas tree (·.objectGroupService))++
    textServiceLines icmpTypeGroupItem parseIcmpGroupMember
      (groupStanzas tree (·.objectGroupIcmpType))++
    textServiceLines protocolGroupItem parseProtocolGroupMember
      (groupStanzas tree (·.objectGroupProtocol))

/-- The edges of an outcome are those that the lines of the groups of a configuration leave, one
line after the other. -/
theorem config_lines_shown (hstable : LowerStable) (hparse : parse bindingsOf rawText=.ok parsed)
    (h : normalize parsed=.ok outcome) :
    ∃ addressLeft serviceLeft : List LineLeft,
      List.Forall₂ (MemberShown parsed outcome) (addressLinesOf (build rawText)) addressLeft ∧
      List.Forall₂ (LineShown parsed outcome) (serviceLinesOf (build rawText)) serviceLeft ∧
      outcome.objectMembers=addressLeft.flatMap Prod.fst++serviceLeft.flatMap Prod.fst ∧
      (addressLeft.flatMap Prod.snd++serviceLeft.flatMap Prod.snd).Sublist outcome.issues := by
  obtain ⟨haddresses,hservices,-⟩ := parse_spec hparse
  exact text_lines_shown hstable haddresses hservices h

omit [PyUnicode] in
/-- What one of several lines left is in an outcome that has what they all left. -/
theorem leftIn_of_mem {lefts : List LineLeft} {left : LineLeft} (hleft : left∈lefts)
    (hedges : ∀ edge∈lefts.flatMap Prod.fst,edge∈outcome.objectMembers)
    (hissues : ∀ issue∈lefts.flatMap Prod.snd,issue∈outcome.issues) : LeftIn outcome left :=
  ⟨fun edge hedge => hedges edge (List.mem_flatMap_of_mem hleft hedge),
    fun issue hissue => hissues issue (List.mem_flatMap_of_mem hleft hissue)⟩

/-- Every member of a network group leaves what is shown of it. -/
theorem address_line_left (hstable : LowerStable) (hparse : parse bindingsOf rawText=.ok parsed)
    (h : normalize parsed=.ok outcome) {line : AddressGroupLine}
    (hline : line∈addressLinesOf (build rawText)) :
    ∃ left,MemberShown parsed outcome line left ∧ LeftIn outcome left := by
  obtain ⟨addressLeft,serviceLeft,hshown,-,hmembers,hissues⟩ :=
    config_lines_shown hstable hparse h
  obtain ⟨left,hleft,hmember⟩ := exists_of_mem_forall₂ hshown hline
  refine ⟨left,hmember,leftIn_of_mem hleft (fun edge hedge => ?_) fun issue hissue => ?_⟩
  · rw [hmembers]
    exact List.mem_append_left _ hedge
  · exact hissues.subset (List.mem_append_left _ hissue)

/-- Every member of a service group leaves what is shown of it. -/
theorem service_line_left (hstable : LowerStable) (hparse : parse bindingsOf rawText=.ok parsed)
    (h : normalize parsed=.ok outcome) {line : GroupLine}
    (hline : line∈serviceLinesOf (build rawText)) :
    ∃ left,LineShown parsed outcome line left ∧ LeftIn outcome left := by
  obtain ⟨addressLeft,serviceLeft,-,hshown,hmembers,hissues⟩ :=
    config_lines_shown hstable hparse h
  obtain ⟨left,hleft,hmember⟩ := exists_of_mem_forall₂ hshown hline
  refine ⟨left,hmember,leftIn_of_mem hleft (fun edge hedge => ?_) fun issue hissue => ?_⟩
  · rw [hmembers]
    exact List.mem_append_right _ hedge
  · exact hissues.subset (List.mem_append_right _ hissue)

/-- Every line under the last header of a network group that names a member leaves an edge to
the object its reference leads to. -/
theorem config_member_shown (hstable : LowerStable) (hparse : parse bindingsOf rawText=.ok parsed)
    (h : normalize parsed=.ok outcome) {name : String} {header : ConfigNode}
    (hlast : (headerNodes (build rawText).nodes .objectGroupNetwork name).getLast?=some header)
    {ref : String} {position : ℕ}
    (hline : (((bodyLines (build rawText).nodes header).filterMap memberLine?).filterMap
      memberRef)[position]?=some ref) :
    ∃ item : ParsedAddressObject String,item.name=name ∧ ∃ left,
      MemberShown parsed outcome (item,ref,position) left ∧ LeftIn outcome left := by
  obtain ⟨stanza,hentry,-,hchildren⟩ := @exists_groupStanza _ rawText _
    (·.objectGroupNetwork) ⟨by decide,fun _ _ => rfl⟩ _ _ hlast
  have hin : (normalizeAddressGroupMembers (groupItem name stanza),ref,position)∈
      addressLinesOf (build rawText) := by
    refine List.mem_flatMap.mpr ⟨(name,stanza),hentry,List.mem_map_of_mem ?_⟩
    rw [List.mem_zipIdx_iff_getElem?,hchildren]
    exact hline
  exact ⟨_,rfl,address_line_left hstable hparse h hin⟩

/-- The groups of services, with how their items are made and their lines are read. -/
inductive ServiceGroup : HeaderKind → (AsaIndex → Dict String ℕ) →
    (String → Stanza → ParsedServiceObject) → (String → Option ServiceMember) → Prop
  | service : ServiceGroup .objectGroupService (·.objectGroupService) serviceGroupItem
      parseServiceGroupMember
  | icmpType : ServiceGroup .objectGroupIcmpType (·.objectGroupIcmpType) icmpTypeGroupItem
      parseIcmpGroupMember
  | protocol : ServiceGroup .objectGroupProtocol (·.objectGroupProtocol) protocolGroupItem
      parseProtocolGroupMember

/-- Every line under the last header of a service group that names a member leaves its edges or
its issue. -/
theorem config_service_member_shown (hstable : LowerStable)
    (hparse : parse bindingsOf rawText=.ok parsed) (h : normalize parsed=.ok outcome)
    {kind : HeaderKind} {places : AsaIndex → Dict String ℕ}
    {itemOf : String → Stanza → ParsedServiceObject}
    {parseMember : String → Option ServiceMember}
    (hgroup : ServiceGroup kind places itemOf parseMember) {name : String} {header : ConfigNode}
    (hlast : (headerNodes (build rawText).nodes kind name).getLast?=some header)
    {member : ServiceMember} {position : ℕ}
    (hline : ((bodyLines (build rawText).nodes header).filterMap
      (groupMember? parseMember))[position]?=some member) :
    ∃ item : ParsedServiceObject,item.name=name ∧ ∃ left,
      LineShown parsed outcome (item,member,position) left ∧ LeftIn outcome left := by
  have hplaces : NotedBy kind places := by
    cases hgroup <;> exact ⟨by decide,fun _ _ => rfl⟩
  have hname : ∀ stanza,(itemOf name stanza).name=name := by
    cases hgroup <;> exact fun _ => rfl
  obtain ⟨stanza,hentry,-,hchildren⟩ := exists_groupStanza rawText hplaces hlast
  have hown : (itemOf name stanza,member,position)∈
      textServiceLines itemOf parseMember (groupStanzas (build rawText) places) := by
    refine List.mem_flatMap.mpr ⟨(name,stanza),hentry,List.mem_map_of_mem ?_⟩
    rw [List.mem_zipIdx_iff_getElem?,hchildren]
    exact hline
  have hin : (itemOf name stanza,member,position)∈serviceLinesOf (build rawText) := by
    cases hgroup with
    | service => exact List.mem_append_left _ (List.mem_append_left _ hown)
    | icmpType => exact List.mem_append_left _ (List.mem_append_right _ hown)
    | protocol => exact List.mem_append_right _ hown
  exact ⟨_,hname stanza,service_line_left hstable hparse h hin⟩

end Config

/-- A subnet, a group of it and a host, and a row for the group. -/
def officeText : String :=
  "object network LAN\n subnet 10.0.0.0 255.0.0.0\nobject-group network G\n"++
    " network-object object LAN\n network-object host 10.0.0.1\n"++
    "access-list A extended permit ip any object-group G\n"

/-- Lists that are bound to nothing. -/
def unboundLists (_tree : ConfigTree) : Except String AclBindings :=
  .ok ⟨fun _ => [unboundResolution],fun _ => ⟨.unknown,none,none⟩⟩

-- both members of the group get their edges, and nothing is left to resolve
example : ((@parse asciiUnicode unboundLists officeText).bind
    (@CiscoNormalizer.normalize asciiUnicode)).toOption.map (fun outcome =>
      (outcome.objectMembers.length,outcome.issues.length))=some (2,0) := by
  decide +kernel

end NspMigrator.CiscoParser
