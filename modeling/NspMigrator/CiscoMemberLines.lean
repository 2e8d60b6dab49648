import Mathlib
import NspMigrator.CiscoAddressLines
import NspMigrator.CiscoGroupLines
import NspMigrator.CiscoAddresses

/-!
# The member lines of a configuration

Every member of a network group leaves one edge, to the object its reference
leads to, and an issue that names it when that object stands for nothing.
Together with what the lines of service groups leave these are all the edges
of an outcome, so that it accounts for every member line of the text.
-/

namespace NspMigrator.CiscoMemberLines

open PyText PyWords PyDict PyState PyRegistry CanonicalModels CiscoParsedConfig
open CiscoState CiscoAddresses CiscoAddressLines CiscoServiceLines
open CiscoServiceBuilders CiscoServices CiscoNormalizer CiscoClosure CiscoRuleServices
open CiscoRowRuns CiscoRuleTranslation CiscoServiceMembers CiscoGroupLines

/-- A member of a network group, with its place. -/
abbrev AddressGroupLine := ParsedAddressObject String × String × ℕ

/-- The member references of an address item. -/
def membersOf (item : ParsedAddressObject String) : List String :=
  match item.content with
  | .address _ => []
  | .addressGroup payload => payload.members

/-- The members of the network groups, in the order in which they are worked off. -/
def addressGroupLines (parsed : ParsedConfig) : List AddressGroupLine :=
  parsed.addressObjects.flatMap fun item => (membersOf item).zipIdx.map fun line => (item,line)

/-- The keys that are taken when the members are worked off. -/
def KnownAddress (parsed : ParsedConfig) (key : String) : Prop :=
  key="addr:any" ∨ key="service:any" ∨ ∃ item∈parsed.addressObjects,key="addr:"++item.name

/-- An issue about a member that leads nowhere: it names the group and the reference. -/
structure NamesMember (line : AddressGroupLine) (issue : CanonicalIssue) : Prop where
  /-- The code of all such issues. -/
  code : issue.issueCode="unresolved_group_member_ref"
  /-- The group and the reference. -/
  key : issue.entityKey=some (line.1.name++":"++line.2.1)
  /-- The group and the reference again, in words. -/
  text : issue.message="["++IssueReasonCode.mappingMissing.value++"] "++
    ("Unresolved address group member reference: "++line.1.name++" -> "++line.2.1)
  /-- The line the group begins at. -/
  start : issue.sourceLineStart=some line.1.sourceLine

/-- The object a reference leads to: the one that has its name, or the one its literal is made
into. A name leads to a literal only if nothing has it. -/
inductive TargetOf (known : String → Prop) (ref : String) (obj : CanonicalObject) : Prop
  | named (hlit : ¬IsLiteral ref) (hkey : obj.value.objectKey="addr:"++ref)
  | made {fields : ObjectFields} (hfields : literalFields memberDescription ref=some fields)
      (hfree : IsLiteral ref ∨ ¬known ("addr:"++ref))
      (hkey : obj.value.objectKey=fields.objectKey)
      (hvalue : known fields.objectKey ∨ obj.value=fields)

/-- The edge of a member, from its group to the object its reference leads to. -/
structure MemberEdge (there : CanonicalObject → Prop) (known : String → Prop)
    (line : AddressGroupLine) (obj : CanonicalObject) (edge : CanonicalObjectMember) : Prop where
  /-- It starts at the object of the group. -/
  parent : ∃ parent,there parent ∧ parent.value.objectKey="addr:"++line.1.name ∧
    edge.parentObjectId=parent.id
  /-- It ends at the object. -/
  child : there obj ∧ edge.childObjectId=obj.id
  /-- The reference leads to that object. -/
  target : TargetOf known line.2.1 obj
  /-- It has the place of the member. -/
  position : edge.position=line.2.2

/-- What a member leaves: its edge, and an issue when the object stands for nothing. -/
inductive MemberLeft (there : CanonicalObject → Prop) (known : String → Prop)
    (line : AddressGroupLine) : LineLeft → Prop
  | attached {obj : CanonicalObject} {edge : CanonicalObjectMember}
      (hedge : MemberEdge there known line obj edge)
      (hresolved : ¬startsWith "addr:unresolved:" obj.value.objectKey=true) :
      MemberLeft there known line ([edge],[])
  | unresolved {obj : CanonicalObject} {edge : CanonicalObjectMember} {issue : CanonicalIssue}
      (hedge : MemberEdge there known line obj edge)
      (hunresolved : startsWith "addr:unresolved:" obj.value.objectKey=true)
      (hnames : NamesMember line issue) : MemberLeft there known line ([edge],[issue])

/-- The objects that are registered in a state. -/
def Stands (σ : NormalizerState) (obj : CanonicalObject) : Prop :=
  σ.object? obj.value.objectKey=some obj

/-- A member is kept in a state with what it left. -/
def MemberKept (known : String → Prop) (σ : NormalizerState) (line : AddressGroupLine)
    (left : LineLeft) : Prop :=
  MemberLeft (Stands σ) known line left

variable {known : String → Prop} {there there' : CanonicalObject → Prop}
  {σ σ' : NormalizerState} {line : AddressGroupLine} {left : LineLeft}
  {edge : CanonicalObjectMember} {obj : CanonicalObject}

section Left

/-- An edge may see more objects. -/
theorem MemberEdge.imp (h : MemberEdge there known line obj edge)
    (hthere : ∀ obj,there obj → there' obj) : MemberEdge there' known line obj edge where
  parent := by
    obtain ⟨parent,hparent,hends⟩ := h.parent
    exact ⟨parent,hthere parent hparent,hends⟩
  child := ⟨hthere obj h.child.1,h.child.2⟩
  target := h.target
  position := h.position

/-- What a member left may see more objects. -/
theorem MemberLeft.imp (h : MemberLeft there known line left)
    (hthere : ∀ obj,there obj → there' obj) : MemberLeft there' known line left := by
  cases h with
  | attached hedge hresolved => exact .attached (hedge.imp hthere) hresolved
  | unresolved hedge hunresolved hnames =>
    exact .unresolved (hedge.imp hthere) hunresolved hnames

/-- Objects stay registered. -/
theorem Stands.later (h : Stands σ obj) (hl : Registry.Later σ.registry σ'.registry) :
    Stands σ' obj :=
  hl.get?_eq _ _ h

/-- A registered object stands under its own key. -/
theorem stands_of_object? {key : String} (h : σ.object? key=some obj) :
    Stands σ obj ∧ obj.value.objectKey=key := by
  have hkey := σ.registry.key_eq _ obj h
  exact ⟨by rw [Stands,hkey,h],hkey⟩

/-- Members stay kept. -/
theorem memberKept_lasting (known : String → Prop) : Lasting (MemberKept known) :=
  fun _ _ _ _ h hl => h.imp fun _ hobj => hobj.later hl

end Left

section Literals

/-- Objects that are made for members. -/
def MemberLiteral (fields : ObjectFields) : Prop :=
  ∃ ref,literalFields memberDescription ref=some fields

/-- The literals of members are hosts, subnets and unresolved objects of one description. -/
theorem MemberLiteral.cases {fields : ObjectFields} (h : MemberLiteral fields) :
    (∃ ip,fields=hostFields ip) ∨ (∃ cidr,fields=subnetFields cidr) ∨
      ∃ ref,fields=unresolvedFields memberDescription ref := by
  obtain ⟨ref,hfields⟩ := h
  unfold literalFields at hfields
  split at hfields
  · exact Or.inl ⟨_,(Option.some.inj hfields).symm⟩
  split at hfields
  · obtain ⟨parts,-,hparts⟩ := Option.map_eq_some_iff.mp hfields
    subst hparts
    split
    · exact Or.inr (Or.inr ⟨_,rfl⟩)
    · exact Or.inr (Or.inl ⟨_,rfl⟩)
  · exact Or.inr (Or.inr ⟨_,(Option.some.inj hfields).symm⟩)

/-- Literals of one key are one literal. -/
theorem MemberLiteral.eq {fields other : ObjectFields} (h : MemberLiteral fields)
    (h' : MemberLiteral other) (hkey : fields.objectKey=other.objectKey) : fields=other := by
  -- the kinds differ in the first letters of their keys
  have hkind : fields.objectKey.toList.take 8=other.objectKey.toList.take 8 :=
    congrArg (fun key => key.toList.take 8) hkey
  rcases h.cases with ⟨ip,rfl⟩|⟨cidr,rfl⟩|⟨ref,rfl⟩ <;>
    rcases h'.cases with ⟨ip',rfl⟩|⟨cidr',rfl⟩|⟨ref',rfl⟩
  · exact congrArg hostFields ((String.append_right_inj _).mp hkey)
  · simp [hostFields,subnetFields] at hkind
  · simp [hostFields,unresolvedFields] at hkind
  · simp [hostFields,subnetFields] at hkind
  · exact congrArg subnetFields ((String.append_right_inj _).mp hkey)
  · simp [subnetFields,unresolvedFields] at hkind
  · simp [hostFields,unresolvedFields] at hkind
  · simp [subnetFields,unresolvedFields] at hkind
  · exact congrArg (unresolvedFields memberDescription) ((String.append_right_inj _).mp hkey)

end Literals

section Members

/-- Known objects are registered, and besides them only literals of members. -/
structure Held (known : String → Prop) (σ : NormalizerState) : Prop where
  /-- What is known is registered. -/
  registered : Registered known σ
  /-- What else is registered was made for a member. -/
  literal : ∀ key obj,σ.object? key=some obj → known key ∨ MemberLiteral obj.value

/-- One more literal of a member may be registered. -/
theorem Held.adds (h : Held known σ) {ref : String}
    (ha : Adds (fun made => literalFields memberDescription ref=some made) σ σ') :
    Held known σ' where
  registered := h.registered.later ha.later
  literal key obj hobj := by
    rcases ha.added key obj hobj with hold|⟨-,hmade⟩
    · exact h.literal key obj hold
    · exact Or.inr ⟨ref,hmade⟩

/-- Only the registry counts. -/
theorem Held.of_registry (h : Held known σ) (hr : σ'.registry=σ.registry) : Held known σ' := by
  have hobject : ∀ key,σ'.object? key=σ.object? key := fun key => by
    rw [NormalizerState.object?,NormalizerState.object?,hr]
  exact ⟨h.registered.later (hr▸Registry.Later.refl _),fun key obj hobj =>
    h.literal key obj (hobject key▸hobj)⟩

/-- The object made for a literal is the one of the literal, unless its key was known. -/
theorem value_of_resolves {fields : ObjectFields} (hheld : Held known σ) {ref : String}
    (hfields : literalFields memberDescription ref=some fields)
    (hobj : σ.object? fields.objectKey=some obj ∨
      σ.object? fields.objectKey=none ∧ obj.value=fields) :
    known fields.objectKey ∨ obj.value=fields := by
  rcases hobj with hold|⟨-,hnew⟩
  · refine (hheld.literal _ _ hold).imp_right fun hlit => ?_
    exact hlit.eq ⟨ref,hfields⟩ (stands_of_object? hold).2
  · exact Or.inr hnew

/-- A reference is resolved to the object it leads to. -/
theorem resolveMemberRef_target {ref key : String} (hheld : Held known σ)
    (h : (resolveMemberRef ref).run σ=.ok (key,σ')) :
    ∃ obj,Stands σ' obj ∧ obj.value.objectKey=key ∧ TargetOf known ref obj ∧
      Held known σ' ∧ Attaches [] [] σ σ' := by
  obtain ⟨fields,htarget,rfl,hadds,id,obj,hobj,-,hfrom⟩ := resolveMemberRef_spec h
  obtain ⟨hstands,hkey⟩ := stands_of_object? hobj
  refine ⟨obj,hstands,hkey,?_,hheld.adds hadds,attaches_of_adds hadds⟩
  by_cases hlit : IsLiteral ref
  · rw [addressTarget,if_pos hlit] at htarget
    exact .made htarget (Or.inl hlit) hkey (value_of_resolves hheld htarget hfrom)
  · cases hfound : σ.object? ("addr:"++ref) with
    | some found =>
      rw [addressTarget_registered hlit hfound,Option.some.injEq] at htarget
      subst htarget
      exact .named hlit (hkey.trans (stands_of_object? hfound).2)
    | none =>
      have hfields : literalFields memberDescription ref=some fields := by
        rw [addressTarget,if_neg hlit,hfound] at htarget
        exact htarget
      refine .made hfields (Or.inr fun hk => ?_) hkey (value_of_resolves hheld hfields hfrom)
      have hthere := hheld.registered _ hk
      rw [hfound] at hthere
      cases hthere

/-- The issue of a member that leads nowhere. -/
theorem emitUnresolvedAddressGroupMemberIssue_spec {item : ParsedAddressObject String}
    {member : String × ℕ} {u : PUnit}
    (h : (emitUnresolvedAddressGroupMemberIssue item.name member.1 item.sourceLine).run σ=
      .ok (u,σ')) :
    ∃ issue,NamesMember (item,member) issue ∧ Attaches [] [issue] σ σ' ∧
      σ'.registry=σ.registry := by
  obtain ⟨issue,τ,hissue,hlast⟩ := run_bind_eq_ok.mp h
  obtain ⟨-,rfl⟩ := run_pure_eq_ok.mp hlast
  obtain ⟨rfl,hs⟩ := emitIssue_spec hissue
  refine ⟨_,⟨rfl,rfl,rfl,rfl⟩,⟨hs.registry_eq▸Registry.Later.refl _,
    ⟨[_],hs.issues_eq,List.Sublist.refl _⟩,by rw [hs.members_eq,List.append_nil]⟩,hs.registry_eq⟩

/-- One member of a group whose object is registered. -/
theorem materializeAddressGroupMember_spec {item : ParsedAddressObject String}
    {parent : CanonicalObject} {member : String × ℕ} {u : PUnit} (hheld : Held known σ)
    (hparent : σ.object? ("addr:"++item.name)=some parent)
    (h : (materializeAddressGroupMember item.name parent.id item.sourceLine member).run σ=
      .ok (u,σ')) :
    Held known σ' ∧ Kept (MemberKept known) [(item,member)] σ σ' := by
  obtain ⟨t,τ,hget,h⟩ := run_bind_eq_ok.mp h
  obtain ⟨rfl,rfl⟩ := run_get_eq_ok.mp hget
  obtain ⟨key,τ₁,hkey,h⟩ := run_bind_eq_ok.mp h
  obtain ⟨⟨⟩,τ₂,htraces,h⟩ := run_bind_eq_ok.mp h
  obtain ⟨found,τ₃,hfound,h⟩ := run_bind_eq_ok.mp h
  obtain ⟨rfl,hfound⟩ := objectId?_spec hfound
  obtain ⟨obj,hstands,rfl,htarget,hheld₁,hresolve⟩ := resolveMemberRef_target hheld hkey
  have htraced := emitMaterializedObjects_spec htraces
  rw [htraced.object?_eq,hstands,Option.map_some] at hfound
  subst hfound
  obtain ⟨⟨⟩,τ₄,hattach,h⟩ := run_bind_eq_ok.mp h
  obtain ⟨edgeId,hedge⟩ := attachMemberEdge_spec hattach
  have hattached : Attaches [⟨edgeId,parent.id,obj.id,member.2⟩] [] τ₃ τ₄ :=
    ⟨hedge.registry_eq▸Registry.Later.refl _,⟨[],by rw [hedge.issues_eq,List.append_nil],.slnil⟩,
      hedge.members_eq⟩
  have hbefore := (hresolve.trans (attaches_of_silent htraced)).trans hattached
  have hheld₄ : Held known τ₄ :=
    (hheld₁.of_registry htraced.registry_eq).of_registry hedge.registry_eq
  have hobj : Stands τ₄ obj :=
    (hstands.later (attaches_of_silent htraced).later).later hattached.later
  have hmember : MemberEdge (Stands τ₄) known (item,member) obj
      ⟨edgeId,parent.id,obj.id,member.2⟩ := by
    obtain ⟨hown,hkey⟩ := stands_of_object? hparent
    exact ⟨⟨parent,hown.later hbefore.later,hkey,rfl⟩,⟨hobj,rfl⟩,htarget,rfl⟩
  rcases run_ite h with ⟨hunresolved,h⟩|⟨hresolved,h⟩
  · obtain ⟨issue,hnames,hissue,hregistry⟩ := emitUnresolvedAddressGroupMemberIssue_spec h
    refine ⟨hheld₄.of_registry hregistry,
      kept_singleton (_,_) (hbefore.trans hissue) (.unresolved ?_ hunresolved hnames)⟩
    exact hmember.imp fun _ hthere => hthere.later hissue.later
  · obtain ⟨-,rfl⟩ := run_pure_eq_ok.mp h
    exact ⟨hheld₄,kept_singleton (_,_) hbefore (.attached hmember hresolved)⟩

variable {parsed : ParsedConfig}

/-- The members of one address item whose name is known. -/
theorem materializeAddressGroup_spec {item : ParsedAddressObject String} {u : PUnit}
    (hheld : Held known σ) (hitem : known ("addr:"++item.name))
    (h : (materializeAddressGroup item).run σ=.ok (u,σ')) :
    Held known σ' ∧
      Kept (MemberKept known) ((membersOf item).zipIdx.map fun line => (item,line)) σ σ' := by
  unfold materializeAddressGroup at h
  unfold membersOf
  cases hcontent : item.content with
  | address payload =>
    rw [hcontent] at h
    obtain ⟨-,rfl⟩ := run_pure_eq_ok.mp h
    exact ⟨hheld,kept_nil _ σ⟩
  | addressGroup payload =>
    rw [hcontent] at h
    obtain ⟨parent,hparent⟩ := Option.isSome_iff_exists.mp (hheld.registered _ hitem)
    obtain ⟨found,τ,hfound,h⟩ := run_bind_eq_ok.mp h
    obtain ⟨rfl,hfound⟩ := objectId?_spec hfound
    rw [hparent,Option.map_some] at hfound
    subst hfound
    rw [List.map_eq_flatMap]
    refine (kept_forM _ (fun s => Held known s ∧ s.object? ("addr:"++item.name)=some parent)
      (memberKept_lasting known) ?_ ⟨hheld,hparent⟩ h).imp And.left id
    rintro line - s s' u ⟨hs,hp⟩ hr
    obtain ⟨hs',hkept⟩ := materializeAddressGroupMember_spec hs hp hr
    exact ⟨⟨hs',hkept.later.get?_eq _ _ hp⟩,hkept⟩

/-- The members of all network groups. -/
theorem materializeAddressGroupMembers_spec {u : PUnit} (hheld : Held (KnownAddress parsed) σ)
    (h : (materializeAddressGroupMembers parsed).run σ=.ok (u,σ')) :
    Kept (MemberKept (KnownAddress parsed)) (addressGroupLines parsed) σ σ' :=
  (kept_forM _ (Held (KnownAddress parsed)) (memberKept_lasting _)
    (fun item hi _ _ _ hs hr =>
      materializeAddressGroup_spec hs (Or.inr (Or.inr ⟨item,hi,rfl⟩)) hr) hheld h).2

end Members

section Headers

variable {parsed : ParsedConfig}

/-- Only known keys are taken. -/
def OnlyKnown (known : String → Prop) (σ : NormalizerState) : Prop :=
  ∀ key obj,σ.object? key=some obj → known key

/-- The sentinels have known keys. -/
theorem registerSentinelObjects_known {u : PUnit} (h : registerSentinelObjects.run {}=.ok (u,σ)) :
    OnlyKnown (KnownAddress parsed) σ ∧ (σ.object? "addr:any").isSome=true ∧
      (σ.object? "service:any").isSome=true := by
  obtain ⟨⟨addr,id⟩,τ,haddr,hrest⟩ := run_bind_eq_ok.mp h
  obtain ⟨⟨service,id'⟩,τ',hservice,hlast⟩ := run_bind_eq_ok.mp hrest
  obtain ⟨-,rfl⟩ := run_pure_eq_ok.mp hlast
  obtain ⟨haddrAdds,haddrSome,-⟩ := register_spec (P:=(·=anyAddrFields)) haddr rfl
  obtain ⟨hserviceAdds,hserviceSome,-⟩ := register_spec (P:=(·=anyServiceFields)) hservice rfl
  refine ⟨fun key obj hobj => ?_,?_,Option.isSome_iff_exists.mpr ⟨service,hserviceSome⟩⟩
  · have hkey := (stands_of_object? hobj).2
    rcases hserviceAdds.added key obj hobj with hold|⟨-,hvalue⟩
    · rcases haddrAdds.added key obj hold with hempty|⟨-,hvalue⟩
      · cases hempty
      · exact Or.inl (by rw [←hkey,hvalue]; rfl)
    · exact Or.inr (Or.inl (by rw [←hkey,hvalue]; rfl))
  · exact Option.isSome_iff_exists.mpr ⟨addr,hserviceAdds.object?_eq haddrSome⟩

/-- Once the headers are registered, their keys and those of the sentinels are taken and no
others are. -/
theorem known_of_headers {u : PUnit} (hknown : OnlyKnown (KnownAddress parsed) σ)
    (haddr : (σ.object? "addr:any").isSome=true) (hservice : (σ.object? "service:any").isSome=true)
    (h : (materializeAddressObjects parsed).run σ=.ok (u,σ')) :
    OnlyKnown (KnownAddress parsed) σ' ∧ Registered (KnownAddress parsed) σ' := by
  have hall := run_forM_done (R:=fun done s => OnlyKnown (KnownAddress parsed) s ∧
    Registry.Later σ.registry s.registry ∧
    ∀ item∈done,(s.object? ("addr:"++item.name)).isSome=true) ?_
    ⟨hknown,Registry.Later.refl _,fun _ hi => absurd hi List.not_mem_nil⟩ h
  · obtain ⟨honly,hlater,hitems⟩ := hall
    have hstart : Registered (fun key => (σ.object? key).isSome=true) σ' :=
      Registered.later (fun _ hk => hk) hlater
    refine ⟨honly,?_⟩
    rintro key (rfl|rfl|⟨item,hi,rfl⟩)
    · exact hstart _ haddr
    · exact hstart _ hservice
    · exact hitems item hi
  · rintro done item rest hsplit s s' ⟨honly,hlater,hitems⟩ hr
    have hheader := materializeAddressObject_header hr
    have hin : item∈parsed.addressObjects := hsplit▸List.mem_append_right _ List.mem_cons_self
    refine ⟨fun key obj hobj => ?_,hlater.trans hheader.later,fun other ho => ?_⟩
    · rcases hheader.fresh key obj hobj with hold|⟨hkey,-⟩
      · exact honly key obj hold
      · exact Or.inr (Or.inr ⟨item,hin,hkey⟩)
    · rcases List.mem_append.mp ho with ho|ho
      · obtain ⟨obj,hobj⟩ := Option.isSome_iff_exists.mp (hitems other ho)
        exact Option.isSome_iff_exists.mpr ⟨obj,hheader.later.get?_eq _ _ hobj⟩
      · rw [List.mem_singleton.mp ho]
        exact hheader.taken

/-- A header leaves edges and issues alone. -/
theorem header_attaches {fields : ObjectFields} {lineStart lineEnd : ℕ}
    {sourceFragment canonicalRole note : Option String} {u : PUnit}
    (h : (do
      let (_,created) ← register fields
      emitTrace lineStart lineEnd .object created sourceFragment canonicalRole note :
        Normalizing PUnit).run σ=.ok (u,σ')) : Attaches [] [] σ σ' := by
  obtain ⟨⟨obj,created⟩,τ,hreg,htrace⟩ := run_bind_eq_ok.mp h
  obtain ⟨hadds,-,-⟩ := register_spec (P:=fun _ => True) hreg trivial
  exact attaches_of_adds (hadds.trans (emitTrace_spec htrace).adds)

/-- The sentinels leave edges and issues alone. -/
theorem registerSentinelObjects_attaches {u : PUnit}
    (h : registerSentinelObjects.run σ=.ok (u,σ')) : Attaches [] [] σ σ' := by
  obtain ⟨⟨addr,id⟩,τ,haddr,hrest⟩ := run_bind_eq_ok.mp h
  obtain ⟨⟨service,id'⟩,τ',hservice,hlast⟩ := run_bind_eq_ok.mp hrest
  obtain ⟨-,rfl⟩ := run_pure_eq_ok.mp hlast
  obtain ⟨haddrAdds,-,-⟩ := register_spec (P:=fun _ => True) haddr trivial
  obtain ⟨hserviceAdds,-,-⟩ := register_spec (P:=fun _ => True) hservice trivial
  exact attaches_of_adds (haddrAdds.trans hserviceAdds)

/-- Address headers leave edges and issues alone. -/
theorem materializeAddressObjects_attaches {u : PUnit}
    (h : (materializeAddressObjects parsed).run σ=.ok (u,σ')) : Attaches [] [] σ σ' :=
  run_forM_invariant (P:=fun s => Attaches [] [] σ s)
    (fun _ _ _ _ hs hr => hs.trans (header_attaches hr)) (attaches_of_silent (Silent.refl σ)) h

variable [PyUnicode]

/-- Service headers leave edges and issues alone. -/
theorem materializeServiceObjects_attaches {u : PUnit}
    (h : (materializeServiceObjects parsed).run σ=.ok (u,σ')) : Attaches [] [] σ σ' := by
  refine run_forM_invariant (P:=fun s => Attaches [] [] σ s) ?_
    (attaches_of_silent (Silent.refl σ)) h
  intro item _ s s' hs hr
  obtain ⟨fields,τ,hlift,hrest⟩ := run_bind_eq_ok.mp hr
  obtain ⟨-,rfl⟩ := run_lift_eq_ok.mp hlift
  exact hs.trans (header_attaches hrest)

/-- What an outcome shows of a member of a network group. -/
def MemberShown (parsed : ParsedConfig) (outcome : NormalizeOutcome) (line : AddressGroupLine)
    (left : LineLeft) : Prop :=
  MemberLeft (·∈outcome.objects) (KnownAddress parsed) line left

/-- Every member line is accounted for: the edges of an outcome are those its lines leave, one
line after the other, and what leads nowhere has its issue. -/
theorem member_lines_shown {outcome : NormalizeOutcome} (hstable : LowerStable)
    (h : normalize parsed=.ok outcome) :
    ∃ addressLeft serviceLeft : List LineLeft,
      List.Forall₂ (MemberShown parsed outcome) (addressGroupLines parsed) addressLeft ∧
      List.Forall₂ (LineShown parsed outcome) (groupLines parsed) serviceLeft ∧
      outcome.objectMembers=addressLeft.flatMap Prod.fst++serviceLeft.flatMap Prod.fst ∧
      (addressLeft.flatMap Prod.snd++serviceLeft.flatMap Prod.snd).Sublist outcome.issues := by
  obtain ⟨ρ,hrun,rfl⟩ := normalize_eq_ok h
  obtain ⟨σ₀,σ₁,σ₂,σ₃,σ₄,start,hsentinels,haddresses,hmembers,hheaders,hgroups,hprotocols,hrules,
    hphases⟩ := normalizePhases_start hrun
  obtain ⟨hknown,haddr,hservice⟩ := @registerSentinelObjects_known _ parsed _ hsentinels
  obtain ⟨honly,hregistered⟩ := known_of_headers hknown haddr hservice haddresses
  have hheld : Held (KnownAddress parsed) σ₁ :=
    ⟨hregistered,fun key obj hobj => Or.inl (honly key obj hobj)⟩
  obtain ⟨addressLeft,haddressKept,haddressAll⟩ :=
    materializeAddressGroupMembers_spec hheld hmembers
  obtain ⟨serviceLeft,hserviceKept,hserviceAll⟩ :=
    groupLines_kept hstable hheaders hgroups hprotocols
  have hquiet := materializeServiceObjects_attaches hheaders
  have hall := (((registerSentinelObjects_attaches hsentinels).trans
    (materializeAddressObjects_attaches haddresses)).trans haddressAll).trans
    (hquiet.trans hserviceAll)
  -- the rows keep what the groups left
  obtain ⟨hnone,hnoOperands,hclean⟩ := start_clean (hphases 0 start (run_forM_nil.mpr rfl))
  obtain ⟨made,hmade⟩ := materializeRules_written hnone hnoOperands hclean hrules
  refine ⟨addressLeft,serviceLeft,?_,?_,?_,?_⟩
  · refine haddressKept.imp fun line left hk => ?_
    have hlater := (hquiet.later.trans hserviceAll.later).trans hmade.later
    exact (memberKept_lasting _ _ _ _ _ hk hlater).imp fun _ hobj =>
      (mem_objects_of_object? hobj).1
  · exact hserviceKept.imp fun _ _ hk => (lineKept_lasting _ _ _ _ _ hk hmade.later).shown
  · exact hmade.members_eq.trans hall.members_eq
  · obtain ⟨added,heq,hin⟩ := hall.issues_added
    refine (hin.trans ?_).trans hmade.issues.sublist
    rw [heq]
    exact List.sublist_append_right _ _

end Headers

section Text

variable [PyUnicode] {parsed : ParsedConfig} {objectNetwork : Dict String (List Stanza)}
  {objectGroupNetwork objectService objectGroupService objectGroupIcmpType
    objectGroupProtocol : Dict String Stanza}

/-- The members that the lines of network groups name, in order. -/
def textAddressLines (objectGroupNetwork : Dict String Stanza) : List AddressGroupLine :=
  objectGroupNetwork.entries.flatMap fun entry =>
    ((entry.2.children.filterMap memberLine?).filterMap memberRef).zipIdx.map fun line =>
      (normalizeAddressGroupMembers (groupItem entry.1 entry.2),line)

/-- The members that the lines of service groups of one kind name, in order. -/
def textServiceLines (itemOf : String → Stanza → ParsedServiceObject)
    (parseMember : String → Option ServiceMember) (stanzas : Dict String Stanza) :
    List GroupLine :=
  stanzas.entries.flatMap fun entry =>
    (entry.2.children.filterMap (groupMember? parseMember)).zipIdx.map fun line =>
      (itemOf entry.1 entry.2,line)

/-- The members that are worked off are those the lines of network groups name. -/
theorem addressGroupLines_extract (hparsed : parsed.addressObjects=
      (CiscoAddressLines.extract objectNetwork objectGroupNetwork).map
        normalizeAddressGroupMembers) :
    addressGroupLines parsed=textAddressLines objectGroupNetwork := by
  have hobjects : ∀ item∈objectNetwork.entries.filterMap fun entry => objectItem entry.1 entry.2,
      membersOf (normalizeAddressGroupMembers item)=[] := by
    intro item hitem
    obtain ⟨entry,-,hitem⟩ := List.mem_filterMap.mp hitem
    obtain ⟨declaration,-,rfl⟩ := Option.map_eq_some_iff.mp hitem
    rfl
  rw [addressGroupLines,hparsed,CiscoAddressLines.extract,List.map_append,List.flatMap_append,
    List.flatMap_map,List.flatMap_map,List.flatMap_map]
  have hnone : ((objectNetwork.entries.filterMap fun entry => objectItem entry.1 entry.2).flatMap
      fun item => (membersOf (normalizeAddressGroupMembers item)).zipIdx.map fun line =>
        (normalizeAddressGroupMembers item,line))=[] := by
    refine List.flatMap_eq_nil_iff.mpr fun item hitem => ?_
    rw [hobjects item hitem]
    rfl
  rw [hnone,List.nil_append]
  refine List.flatMap_congr fun entry _ => ?_
  have hmembers : membersOf (normalizeAddressGroupMembers (groupItem entry.1 entry.2))=
      (entry.2.children.filterMap memberLine?).filterMap memberRef :=
    congrArg (List.filterMap memberRef) (parseObjectGroupNetworkChildren_members _)
  rw [hmembers]

/-- Items of one kind have the members that their lines name. -/
theorem linesOf_items (kind : ServiceItemKind) {other : ServiceItemKind}
    {itemOf : String → Stanza → ParsedServiceObject}
    {parseMember : String → Option ServiceMember} (stanzas : Dict String Stanza)
    (hkind : ∀ name stanza,(itemOf name stanza).kind=other)
    (hmembers : ∀ name stanza,(itemOf name stanza).members=
      stanza.children.filterMap (groupMember? parseMember)) :
    linesOf kind (stanzas.entries.map fun entry => itemOf entry.1 entry.2)=
      if other=kind then textServiceLines itemOf parseMember stanzas else [] := by
  rw [linesOf_eq,List.flatMap_map]
  split
  next h =>
    refine List.flatMap_congr fun entry _ => ?_
    rw [if_pos ((hkind _ _).trans h),hmembers]
  next h =>
    refine List.flatMap_eq_nil_iff.mpr fun entry _ => ?_
    rw [if_neg (fun heq => h ((hkind _ _).symm.trans heq))]

/-- The member lines that are worked off are those the groups of the text have. -/
theorem groupLines_extract (hparsed : parsed.serviceObjects=CiscoServiceLines.extract
      objectService objectGroupService objectGroupIcmpType objectGroupProtocol) :
    groupLines parsed=
      textServiceLines serviceGroupItem parseServiceGroupMember objectGroupService++
      textServiceLines icmpTypeGroupItem parseIcmpGroupMember objectGroupIcmpType++
      textServiceLines protocolGroupItem parseProtocolGroupMember objectGroupProtocol := by
  have hservice : ∀ kind,kind≠.service → linesOf kind
      (objectService.entries.map fun entry => serviceObjectItem entry.1 entry.2)=[] := by
    intro kind hkind
    rw [linesOf_eq,List.flatMap_map]
    exact List.flatMap_eq_nil_iff.mpr fun entry _ => if_neg (Ne.symm hkind)
  have hgroup := fun kind => linesOf_items kind objectGroupService
    (fun name stanza => (rfl : (serviceGroupItem name stanza).kind=.serviceGroup))
    fun name stanza => foldl_groupLine_members parseServiceGroupMember _ _
  have hicmp := fun kind => linesOf_items kind objectGroupIcmpType
    (fun name stanza => (rfl : (icmpTypeGroupItem name stanza).kind=.serviceGroup))
    fun name stanza => foldl_groupLine_members parseIcmpGroupMember _ _
  have hprotocol := fun kind => linesOf_items kind objectGroupProtocol
    (fun name stanza => (rfl : (protocolGroupItem name stanza).kind=.protocolGroup))
    fun name stanza => foldl_groupLine_members parseProtocolGroupMember _ _
  have happend : ∀ kind (items others : List ParsedServiceObject),
      linesOf kind (items++others)=linesOf kind items++linesOf kind others := by
    intro kind items others
    rw [linesOf_eq,linesOf_eq,linesOf_eq,List.flatMap_append]
  rw [groupLines,hparsed,CiscoServiceLines.extract]
  simp only [happend,hservice .serviceGroup (by decide),hservice .protocolGroup (by decide),
    hgroup,hicmp,hprotocol,reduceCtorEq,if_true,if_false,List.nil_append,List.append_nil]

/-- Every member line of the text is accounted for: the edges of an outcome are those the lines
of its groups leave, one line after the other, and what leads nowhere has its issue. -/
theorem text_lines_shown {outcome : NormalizeOutcome} (hstable : LowerStable)
    (haddresses : parsed.addressObjects=
      (CiscoAddressLines.extract objectNetwork objectGroupNetwork).map normalizeAddressGroupMembers)
    (hservices : parsed.serviceObjects=CiscoServiceLines.extract objectService objectGroupService
      objectGroupIcmpType objectGroupProtocol) (h : normalize parsed=.ok outcome) :
    ∃ addressLeft serviceLeft : List LineLeft,
      List.Forall₂ (MemberShown parsed outcome) (textAddressLines objectGroupNetwork)
        addressLeft ∧
      List.Forall₂ (LineShown parsed outcome)
        (textServiceLines serviceGroupItem parseServiceGroupMember objectGroupService++
          textServiceLines icmpTypeGroupItem parseIcmpGroupMember objectGroupIcmpType++
          textServiceLines protocolGroupItem parseProtocolGroupMember objectGroupProtocol)
        serviceLeft ∧
      outcome.objectMembers=addressLeft.flatMap Prod.fst++serviceLeft.flatMap Prod.fst ∧
      (addressLeft.flatMap Prod.snd++serviceLeft.flatMap Prod.snd).Sublist outcome.issues := by
  have hshown := member_lines_shown hstable h
  rwa [addressGroupLines_extract haddresses,groupLines_extract hservices] at hshown

end Text

section Objects

variable [PyUnicode] {parsed : ParsedConfig} {objectNetwork : Dict String (List Stanza)}
  {objectGroupNetwork : Dict String Stanza} {outcome : NormalizeOutcome}

omit [PyUnicode] in
/-- A name that no item has is not taken. -/
theorem OnlyKnown.free {σ : NormalizerState} {item : ParsedAddressObject String}
    (h : OnlyKnown (KnownAddress parsed) σ) (hany : item.name≠"any")
    (hfirst : ∀ other∈parsed.addressObjects,other.name≠item.name) :
    σ.object? ("addr:"++item.name)=none := by
  rw [Option.eq_none_iff_forall_ne_some]
  intro obj hobj
  rcases h _ obj hobj with hkey|hkey|⟨other,ho,hkey⟩
  · have hsame : "addr:"++item.name="addr:"++"any" := hkey
    exact hany ((String.append_right_inj _).mp hsame)
  · have hlist := congrArg String.toList hkey
    simp at hlist
  · exact hfirst other ho ((String.append_right_inj _).mp hkey).symm

omit [PyUnicode] in
/-- The header of a name that is not taken is registered as it is made. -/
theorem materializeAddressObject_value {σ σ' : NormalizerState}
    {item : ParsedAddressObject String} {u : PUnit}
    (hfree : σ.object? ("addr:"++item.name)=none)
    (h : (materializeAddressObject item).run σ=.ok (u,σ')) :
    ∃ obj,σ'.object? (headerFields item).objectKey=some obj ∧ obj.value=headerFields item := by
  obtain ⟨⟨obj,created⟩,τ,hreg,htrace⟩ := run_bind_eq_ok.mp h
  obtain ⟨-,hobj,hold|⟨-,hnew⟩⟩ := register_spec (P:=fun _ => True) hreg trivial
  · rw [objectKey_headerFields,hfree] at hold
    cases hold
  · exact ⟨obj,(attaches_of_silent (emitTrace_spec htrace)).later.get?_eq _ _ hobj,hnew⟩

/-- The first item of a name is in the outcome as its header is made. -/
theorem header_shown {before after : List (ParsedAddressObject String)}
    {item : ParsedAddressObject String} (hitems : parsed.addressObjects=before++item::after)
    (hfirst : ∀ other∈before,other.name≠item.name) (hany : item.name≠"any")
    (h : normalize parsed=.ok outcome) : ∃ obj∈outcome.objects,obj.value=headerFields item := by
  obtain ⟨ρ,hrun,rfl⟩ := normalize_eq_ok h
  obtain ⟨σ₀,σ₁,hsentinels,haddresses,-,hphases⟩ := normalizePhases_later hrun
  rw [materializeAddressObjects,hitems] at haddresses
  obtain ⟨s,hbefore,hrest⟩ := run_forM_append.mp haddresses
  obtain ⟨t,hitem,hafter⟩ := run_forM_cons.mp hrest
  -- only the items before have taken keys
  obtain ⟨hknown,haddr,hservice⟩ :=
    @registerSentinelObjects_known _ { parsed with addressObjects := before } _ hsentinels
  obtain ⟨honly,-⟩ := known_of_headers hknown haddr hservice hbefore
  obtain ⟨obj,hobj,hvalue⟩ := materializeAddressObject_value (honly.free hany hfirst) hitem
  have hafterLater : Registry.Later t.registry σ₁.registry :=
    run_forM_invariant (P:=fun s => Registry.Later t.registry s.registry)
      (fun other _ s s' hs hr => hs.trans (materializeAddressObject_header hr).later)
      (Registry.Later.refl _) hafter
  have hlast := (hafterLater.trans hphases).get?_eq _ _ hobj
  exact ⟨obj,(mem_objects_of_object? hlast).1,hvalue⟩

/-- A network object of the text is in the outcome, with the address of the last address line
of its name. -/
theorem text_objects_shown (haddresses : parsed.addressObjects=
      (CiscoAddressLines.extract objectNetwork objectGroupNetwork).map normalizeAddressGroupMembers)
    (h : normalize parsed=.ok outcome) {name : String} {stanzas : List Stanza}
    (hentry : (name,stanzas)∈objectNetwork.entries) (hne : stanzas≠[]) (hany : name≠"any") :
    ∃ obj∈outcome.objects,∃ payload : AddressPayload,
      payload.body=(addressLines stanzas).getLast? ∧
      obj.value=addrObjectFromPayload ("addr:"++name) name payload := by
  obtain ⟨item,hitem⟩ := exists_objectItem name hne
  obtain ⟨payload,hcontent,hname,hbody⟩ := body_objectItem hitem
  obtain ⟨before,after,hsplit⟩ := List.append_of_mem hentry
  have hnodup := objectNetwork.nodup
  rw [hsplit,List.map_append,List.map_cons] at hnodup
  have hitems : parsed.addressObjects=
      (before.filterMap fun entry => objectItem entry.1 entry.2).map normalizeAddressGroupMembers++
        normalizeAddressGroupMembers item::
          ((after.filterMap fun entry => objectItem entry.1 entry.2)++
            objectGroupNetwork.entries.map fun entry => groupItem entry.1 entry.2).map
              normalizeAddressGroupMembers := by
    rw [haddresses,CiscoAddressLines.extract,hsplit,List.filterMap_append,
      List.filterMap_cons_some
        (f:=fun entry : String × List Stanza => objectItem entry.1 entry.2) hitem,
      List.append_assoc,List.map_append,List.cons_append,List.map_cons]
  have hfirst : ∀ other∈(before.filterMap fun entry => objectItem entry.1 entry.2).map
      normalizeAddressGroupMembers,other.name≠(normalizeAddressGroupMembers item).name := by
    intro other ho hsame
    obtain ⟨made,hmade,rfl⟩ := List.mem_map.mp ho
    obtain ⟨entry,hentry,hmade⟩ := List.mem_filterMap.mp hmade
    obtain ⟨-,-,hown,-⟩ := body_objectItem hmade
    have heq : entry.1=name := hown.symm.trans (hsame.trans hname)
    have hkey : entry.1∈before.map Prod.fst := List.mem_map_of_mem hentry
    rw [heq] at hkey
    exact List.disjoint_of_nodup_append hnodup hkey List.mem_cons_self
  have hnot : (normalizeAddressGroupMembers item).name≠"any" := fun heq => hany (hname▸heq)
  obtain ⟨obj,hobj,hvalue⟩ := header_shown hitems hfirst hnot h
  refine ⟨obj,hobj,payload,hbody,hvalue.trans ?_⟩
  rw [headerFields,normalizeAddressGroupMembers,hcontent,←hname]

end Objects

end NspMigrator.CiscoMemberLines
