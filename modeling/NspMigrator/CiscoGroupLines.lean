import Mathlib
import NspMigrator.CiscoServiceMembers
import NspMigrator.CiscoRuleTranslation

/-!
# The lines of a service group

Every line of a group leaves one edge to each object it wants, in order and
at its place, or an issue that names it. No line is lost.
-/

namespace NspMigrator.CiscoGroupLines

open PyText PyWords PyDict PyExcept PyState PyRegistry CanonicalModels CiscoParsedConfig
open CiscoTokens CiscoState CiscoAddresses CiscoServiceLines CiscoServiceBuilders CiscoServices
open CiscoNormalizer CiscoClosure CiscoRuleServices CiscoRowRuns CiscoRuleTranslation
open CiscoServiceMembers

/-- A step that appends edges, adds issues, and keeps objects and earlier issues. -/
structure Attaches (edges : List CanonicalObjectMember) (issues : List CanonicalIssue)
    (σ σ' : NormalizerState) : Prop where
  /-- Objects keep their keys and numbers. -/
  later : Registry.Later σ.registry σ'.registry
  /-- The issues are among the added ones, in order. -/
  issues_added : ∃ added,σ'.issues=σ.issues++added ∧ issues.Sublist added
  /-- The edges are all that is appended. -/
  members_eq : σ'.objectMembers=σ.objectMembers++edges

/-- The edges from a group to objects, at their places from one on. -/
def EdgesTo (σ : NormalizerState) (parentId pos : ℕ) (entries : List (String × ℕ))
    (edges : List CanonicalObjectMember) : Prop :=
  List.Forall₂ (fun entry edge => ∃ obj,σ.object? entry.1=some obj ∧
    edge.parentObjectId=parentId ∧ edge.childObjectId=obj.id ∧ edge.position=pos+entry.2)
    entries edges

variable [PyUnicode]

/-- An issue about a line that leads nowhere: it names the group, the kind of the line
and the line itself. -/
structure NamesLine (item : ParsedServiceObject) (member : ServiceMember)
    (issue : CanonicalIssue) : Prop where
  /-- The code of all such issues. -/
  code : issue.issueCode="unresolved_group_member_ref"
  /-- The group and the kind of the line. -/
  key : issue.entityKey=some (item.name++":"++memberType member)
  /-- The group and the line. -/
  text : issue.message="["++IssueReasonCode.mappingMissing.value++"] "++
    ("Unresolved service group member in "++item.name++": "++memberRepr member)
  /-- The line the group begins at. -/
  start : issue.sourceLineStart=some item.sourceLine

/-- The protocol the lines of an item are read with, for the items that are groups. -/
def groupProtocolOf (item : ParsedServiceObject) : Option String :=
  if item.kind=.serviceGroup then item.payload.get? "protocol" else none

/-- A member line of a group, with its place. -/
abbrev GroupLine := ParsedServiceObject × ServiceMember × ℕ

/-- The edges and the issues a line leaves. -/
abbrev LineLeft := List CanonicalObjectMember × List CanonicalIssue

/-- The member lines of the groups of one kind, in order. -/
def linesOf (kind : ServiceItemKind) (items : List ParsedServiceObject) : List GroupLine :=
  (items.filter fun item => decide (item.kind=kind)).flatMap fun item =>
    item.members.zipIdx.map fun line => (item,line)

/-- The member lines of all groups, in the order in which they are worked off. -/
def groupLines (parsed : ParsedConfig) : List GroupLine :=
  linesOf .serviceGroup parsed.serviceObjects++linesOf .protocolGroup parsed.serviceObjects

/-- The edge to the object under one key, at its place. -/
def edgeStep (parentId pos sourceLine : ℕ) (member : ServiceMember) (entry : String × ℕ) :
    Normalizing PUnit := do
  match ← objectId? entry.1 with
  | none => return ⟨⟩
  | some childId => attachMemberEdge parentId childId (pos+entry.2) sourceLine (memberRepr member)

/-- What a line left: an edge to every object it wants, or one issue about it, and the latter
only if it wants nothing or something that is not known beforehand. -/
inductive LineDone (known : String → Prop) (parentId : ℕ) (groupProtocol : Option String)
    (σ : NormalizerState) (line : GroupLine) : LineLeft → Prop
  | attached {wanted : List String} {edges : List CanonicalObjectMember}
      (hwanted : wantedKeys line.2.1 groupProtocol=.ok wanted) (hne : wanted≠[])
      (hedges : EdgesTo σ parentId line.2.2 wanted.zipIdx edges) :
      LineDone known parentId groupProtocol σ line (edges,[])
  | refused {wanted : List String} {issue : CanonicalIssue}
      (hwanted : wantedKeys line.2.1 groupProtocol=.ok wanted)
      (hmissing : wanted=[] ∨ ∃ key∈wanted,¬known key) (hnames : NamesLine line.1 line.2.1 issue) :
      LineDone known parentId groupProtocol σ line ([],[issue])

variable {σ σ' σ'' : NormalizerState} {edges edges' : List CanonicalObjectMember}
  {issues issues' : List CanonicalIssue} {known : String → Prop} {parentId pos sourceLine : ℕ}
  {entityType : String} {groupProtocol : Option String} {left : LineLeft}

section Steps

omit [PyUnicode] in
theorem Attaches.trans (h : Attaches edges issues σ σ') (h' : Attaches edges' issues' σ' σ'') :
    Attaches (edges++edges') (issues++issues') σ σ'' where
  later := h.later.trans h'.later
  issues_added := by
    obtain ⟨added,heq,hin⟩ := h.issues_added
    obtain ⟨added',heq',hin'⟩ := h'.issues_added
    exact ⟨added++added',by rw [heq',heq,List.append_assoc],hin.append hin'⟩
  members_eq := by rw [h'.members_eq,h.members_eq,List.append_assoc]

omit [PyUnicode] in
theorem attaches_of_adds {P : ObjectFields → Prop} (h : Adds P σ σ') : Attaches [] [] σ σ' where
  later := h.later
  issues_added := by
    obtain ⟨added,heq⟩ := h.issues
    exact ⟨added,heq.symm,List.nil_sublist _⟩
  members_eq := by rw [h.members_eq,List.append_nil]

omit [PyUnicode] in
theorem attaches_of_silent (h : Silent σ σ') : Attaches [] [] σ σ' :=
  attaches_of_adds (P:=fun _ => True) h.adds

omit [PyUnicode] in
theorem EdgesTo.later {entries : List (String × ℕ)} (h : EdgesTo σ parentId pos entries edges)
    (hl : Registry.Later σ.registry σ'.registry) : EdgesTo σ' parentId pos entries edges := by
  refine h.imp ?_
  rintro entry edge ⟨obj,hobj,hedge⟩
  exact ⟨obj,hl.get?_eq _ _ hobj,hedge⟩

/-- What a line left stays as it is. -/
theorem LineDone.later {line : GroupLine} (h : LineDone known parentId groupProtocol σ line left)
    (hl : Registry.Later σ.registry σ'.registry) :
    LineDone known parentId groupProtocol σ' line left := by
  cases h with
  | attached hwanted hne hedges => exact .attached hwanted hne (hedges.later hl)
  | refused hwanted hmissing hnames => exact .refused hwanted hmissing hnames

end Steps

section Lines

/-- The edges of a line are attached one by one. -/
theorem attachGroupMemberEdges_eq (parentId : ℕ) (keys : List String) (pos sourceLine : ℕ)
    (member : ServiceMember) : attachGroupMemberEdges parentId keys pos sourceLine member=
      forM keys.zipIdx (edgeStep parentId pos sourceLine member) := rfl

/-- One edge is attached to every registered object. -/
theorem forM_attachMemberEdge_spec {entries : List (String × ℕ)} {member : ServiceMember}
    {u : PUnit} (hthere : ∀ entry∈entries,(σ.object? entry.1).isSome=true)
    (h : (forM entries (edgeStep parentId pos sourceLine member)).run σ=.ok (u,σ')) :
    ∃ edges,Attaches edges [] σ σ' ∧ EdgesTo σ' parentId pos entries edges := by
  induction entries generalizing σ with
  | nil =>
    obtain rfl := run_forM_nil.mp h
    exact ⟨[],attaches_of_silent (Silent.refl σ),.nil⟩
  | cons entry rest ih =>
    obtain ⟨τ,hfirst,hrest⟩ := run_forM_cons.mp h
    obtain ⟨found,τ₁,hfound,hattach⟩ := run_bind_eq_ok.mp hfirst
    obtain ⟨rfl,hfound⟩ := objectId?_spec hfound
    obtain ⟨obj,hobj⟩ := Option.isSome_iff_exists.mp (hthere entry List.mem_cons_self)
    rw [hobj,Option.map_some] at hfound
    subst hfound
    obtain ⟨edgeId,hs⟩ := attachMemberEdge_spec hattach
    have hedge : Attaches [⟨edgeId,parentId,obj.id,pos+entry.2⟩] [] τ₁ τ :=
      ⟨hs.registry_eq▸Registry.Later.refl _,⟨[],by rw [hs.issues_eq,List.append_nil],.slnil⟩,
        hs.members_eq⟩
    have hthere' : ∀ other∈rest,(τ.object? other.1).isSome=true := by
      intro other ho
      obtain ⟨found,hf⟩ := Option.isSome_iff_exists.mp (hthere other (List.mem_cons_of_mem _ ho))
      exact Option.isSome_iff_exists.mpr ⟨found,hedge.later.get?_eq _ _ hf⟩
    obtain ⟨edges,hall,hedges⟩ := ih hthere' hrest
    refine ⟨_::edges,hedge.trans hall,.cons ⟨obj,?_,rfl,rfl,rfl⟩ hedges⟩
    exact hall.later.get?_eq _ _ (hedge.later.get?_eq _ _ hobj)

/-- The issue of a line that leads nowhere. -/
theorem emitUnresolvedMemberIssue_spec {item : ParsedServiceObject} {member : ServiceMember}
    {u : PUnit}
    (h : (emitUnresolvedMemberIssue item.name member item.sourceLine entityType).run σ=.ok (u,σ')) :
    ∃ issue,NamesLine item member issue ∧ Attaches [] [issue] σ σ' := by
  obtain ⟨issue,τ,hissue,hlast⟩ := run_bind_eq_ok.mp h
  obtain ⟨-,rfl⟩ := run_pure_eq_ok.mp hlast
  obtain ⟨rfl,hs⟩ := emitIssue_spec hissue
  refine ⟨_,⟨rfl,rfl,rfl,rfl⟩,hs.registry_eq▸Registry.Later.refl _,
    ⟨[_],hs.issues_eq,List.Sublist.refl _⟩,by rw [hs.members_eq,List.append_nil]⟩

/-- A line leaves its edges or an issue. -/
theorem attachGroupMember_spec {item : ParsedServiceObject} {line : ServiceMember × ℕ} {u : PUnit}
    (hstable : LowerStable) (hknown : ∀ key,known key → (σ.object? key).isSome=true)
    (h : (attachGroupMember item.name parentId item.sourceLine groupProtocol entityType line).run σ=
      .ok (u,σ')) :
    ∃ left : LineLeft,Attaches left.1 left.2 σ σ' ∧
      LineDone known parentId groupProtocol σ' (item,line) left := by
  obtain ⟨t,τ,hget,h⟩ := run_bind_eq_ok.mp h
  obtain ⟨rfl,rfl⟩ := run_get_eq_ok.mp hget
  obtain ⟨keys,τ₁,hkeys,h⟩ := run_bind_eq_ok.mp h
  obtain ⟨⟨⟩,τ₂,htraces,h⟩ := run_bind_eq_ok.mp h
  obtain ⟨wanted,hwanted,hleads⟩ := materializeServiceGroupMember_spec hkeys
  have htraced := emitMaterializedObjects_spec htraces
  have hbefore := (attaches_of_adds hleads.adds).trans (attaches_of_silent htraced)
  rcases run_ite h with ⟨hnil,h⟩|⟨hne,h⟩
  · obtain ⟨issue,hnames,hissue⟩ := emitUnresolvedMemberIssue_spec h
    refine ⟨([],[issue]),hbefore.trans hissue,.refused hwanted ?_ hnames⟩
    rcases hleads.missing hnil with hnone|⟨key,hkey,hfree⟩
    · exact Or.inl hnone
    · refine Or.inr ⟨key,hkey,fun hk => ?_⟩
      have hthere := hknown key hk
      rw [hfree] at hthere
      cases hthere
  · have hall : keys=wanted := hleads.all_or_none.resolve_right hne
    subst hall
    have hthere : ∀ entry∈keys.zipIdx,(τ₂.object? entry.1).isSome=true := by
      intro entry he
      rw [htraced.object?_eq]
      exact hleads.there hstable entry.1 (List.fst_mem_of_mem_zipIdx he)
    rw [attachGroupMemberEdges_eq] at h
    obtain ⟨edges,hedges,hto⟩ := forM_attachMemberEdge_spec hthere h
    exact ⟨(edges,[]),hbefore.trans hedges,.attached hwanted hne hto⟩

end Lines

section Groups

/-- Lines are kept one after the other, and what they left is all that was attached. -/
def Kept {α : Type} (R : NormalizerState → α → LineLeft → Prop) (lines : List α)
    (σ σ' : NormalizerState) : Prop :=
  ∃ left : List LineLeft,List.Forall₂ (R σ') lines left ∧
    Attaches (left.flatMap Prod.fst) (left.flatMap Prod.snd) σ σ'

/-- What is kept stays so while objects stay registered. -/
def Lasting {α : Type} (R : NormalizerState → α → LineLeft → Prop) : Prop :=
  ∀ s s' line left,R s line left → Registry.Later s.registry s'.registry → R s' line left

section Kept

variable {α β : Type} {R : NormalizerState → α → LineLeft → Prop} {lines lines' : List α}

omit [PyUnicode] in
theorem kept_nil (R : NormalizerState → α → LineLeft → Prop) (σ : NormalizerState) :
    Kept R [] σ σ :=
  ⟨[],.nil,attaches_of_silent (Silent.refl σ)⟩

omit [PyUnicode] in
theorem kept_singleton {line : α} (left : LineLeft) (h : Attaches left.1 left.2 σ σ')
    (hR : R σ' line left) : Kept R [line] σ σ' :=
  ⟨[left],.cons hR .nil,by simpa using h⟩

omit [PyUnicode] in
theorem Kept.trans (hR : Lasting R) (h : Kept R lines σ σ') (h' : Kept R lines' σ' σ'') :
    Kept R (lines++lines') σ σ'' := by
  obtain ⟨left,hkept,hall⟩ := h
  obtain ⟨left',hkept',hall'⟩ := h'
  refine ⟨left++left',?_,?_⟩
  · exact List.rel_append (hkept.imp fun line left hk => hR _ _ line left hk hall'.later) hkept'
  · rw [List.flatMap_append,List.flatMap_append]
    exact hall.trans hall'

omit [PyUnicode] in
theorem Kept.later (h : Kept R lines σ σ') : Registry.Later σ.registry σ'.registry := by
  obtain ⟨left,-,hall⟩ := h
  exact hall.later

omit [PyUnicode] in
/-- A loop keeps all lines when each of its rounds keeps its own. -/
theorem kept_forM {items : List β} {body : β → Normalizing PUnit} {u : PUnit}
    (linesOf : β → List α) (inv : NormalizerState → Prop) (hR : Lasting R)
    (hstep : ∀ item∈items,∀ s s' u,inv s → (body item).run s=.ok (u,s') →
      inv s' ∧ Kept R (linesOf item) s s') (hinv : inv σ)
    (h : (forM items body).run σ=.ok (u,σ')) : inv σ' ∧ Kept R (items.flatMap linesOf) σ σ' := by
  refine run_forM_done (R:=fun done s => inv s ∧ Kept R (done.flatMap linesOf) σ s) ?_
    ⟨hinv,kept_nil R σ⟩ h
  rintro done item rest hsplit s s' ⟨hs,hkept⟩ hr
  obtain ⟨hs',hown⟩ := hstep item (hsplit▸List.mem_append_right _ List.mem_cons_self) s s' _ hs hr
  rw [List.flatMap_append,List.flatMap_singleton]
  exact ⟨hs',hkept.trans hR hown⟩

end Kept

/-- A line of a group is kept in a state with what it left. -/
def LineKept (known : String → Prop) (σ : NormalizerState) (line : GroupLine) (left : LineLeft) :
    Prop :=
  ∃ parent,σ.object? ("service:"++line.1.name)=some parent ∧
    LineDone known parent.id (groupProtocolOf line.1) σ line left

variable {item : ParsedServiceObject} {parsed : ParsedConfig}

/-- A line that is kept stays so. -/
theorem lineKept_lasting (known : String → Prop) : Lasting (LineKept known) := by
  rintro s s' line left ⟨parent,hparent,hdone⟩ hl
  exact ⟨parent,hl.get?_eq _ _ hparent,hdone.later hl⟩

/-- Every key of a set is registered. -/
def Registered (known : String → Prop) (σ : NormalizerState) : Prop :=
  ∀ key,known key → (σ.object? key).isSome=true

omit [PyUnicode] in
theorem Registered.later (h : Registered known σ) (hl : Registry.Later σ.registry σ'.registry) :
    Registered known σ' := by
  intro key hk
  obtain ⟨obj,hobj⟩ := Option.isSome_iff_exists.mp (h key hk)
  exact Option.isSome_iff_exists.mpr ⟨obj,hl.get?_eq _ _ hobj⟩

/-- Every line of a group that is registered is kept. -/
theorem attachGroupMembers_spec {u : PUnit} (hstable : LowerStable)
    (hknown : Registered known σ) (hprotocol : groupProtocol=groupProtocolOf item)
    (hthere : (σ.object? ("service:"++item.name)).isSome=true)
    (h : (attachGroupMembers item groupProtocol entityType).run σ=.ok (u,σ')) :
    Registered known σ' ∧
      Kept (LineKept known) (item.members.zipIdx.map fun line => (item,line)) σ σ' := by
  obtain ⟨parent,hparent⟩ := Option.isSome_iff_exists.mp hthere
  obtain ⟨found,τ,hfound,h⟩ := run_bind_eq_ok.mp h
  obtain ⟨rfl,hfound⟩ := objectId?_spec hfound
  rw [hparent,Option.map_some] at hfound
  subst hfound
  subst hprotocol
  -- the parent stays registered from line to line
  rw [List.map_eq_flatMap]
  refine (kept_forM _ (fun s => Registered known s ∧
    s.object? ("service:"++item.name)=some parent) (lineKept_lasting known) ?_
    ⟨hknown,hparent⟩ h).imp And.left id
  rintro line - s s' u ⟨hs,hp⟩ hr
  obtain ⟨left,hleft,hdone⟩ := attachGroupMember_spec hstable hs hr
  have hp' := hleft.later.get?_eq _ _ hp
  exact ⟨⟨hs.later hleft.later,hp'⟩,kept_singleton left hleft ⟨parent,hp',hdone⟩⟩

/-- The headers of all items are registered. -/
theorem headers_registered {u : PUnit}
    (h : (materializeServiceObjects parsed).run σ=.ok (u,σ')) :
    ∀ item∈parsed.serviceObjects,(σ'.object? ("service:"++item.name)).isSome=true := by
  refine run_forM_done (R:=fun done s => ∀ item∈done,
    (s.object? ("service:"++item.name)).isSome=true) ?_ (fun item hi => ?_) h
  · intro done item rest hsplit s s' hs hr other ho
    have hheader := materializeServiceObject_header hr
    rcases List.mem_append.mp ho with ho|ho
    · obtain ⟨obj,hobj⟩ := Option.isSome_iff_exists.mp (hs other ho)
      exact Option.isSome_iff_exists.mpr ⟨obj,hheader.later.get?_eq _ _ hobj⟩
    · rw [List.mem_singleton.mp ho]
      exact hheader.taken
  · exact absurd hi List.not_mem_nil

/-- The headers of a configuration. -/
def IsHeader (parsed : ParsedConfig) (key : String) : Prop :=
  ∃ item∈parsed.serviceObjects,key="service:"++item.name

omit [PyUnicode] in
/-- The lines of the items of one kind, item by item. -/
theorem linesOf_eq (kind : ServiceItemKind) (items : List ParsedServiceObject) :
    linesOf kind items=items.flatMap fun item =>
      if item.kind=kind then item.members.zipIdx.map fun line => (item,line) else [] := by
  induction items with
  | nil => rfl
  | cons item rest ih =>
    rw [List.flatMap_cons,←ih,linesOf,linesOf,List.filter_cons]
    split
    next hkind => rw [if_pos (of_decide_eq_true hkind),List.flatMap_cons]
    next hkind => rw [if_neg (fun h => hkind (decide_eq_true h)),List.nil_append]

/-- Items with lines of a kind are worked off one after the other. -/
theorem forM_attachGroupMembers_spec {u : PUnit} {kind : ServiceItemKind}
    {protocolOf : ParsedServiceObject → Option String} (hstable : LowerStable)
    (hprotocol : ∀ item,item.kind=kind → protocolOf item=groupProtocolOf item)
    (hknown : Registered (IsHeader parsed) σ)
    (h : (forM parsed.serviceObjects fun item => if item.kind=kind then
      attachGroupMembers item (protocolOf item) entityType else return ⟨⟩).run σ=.ok (u,σ')) :
    Registered (IsHeader parsed) σ' ∧
      Kept (LineKept (IsHeader parsed)) (linesOf kind parsed.serviceObjects) σ σ' := by
  rw [linesOf_eq]
  refine kept_forM _ (Registered (IsHeader parsed)) (lineKept_lasting _)
    (fun item hi s s' u hs hr => ?_) hknown h
  rcases run_ite hr with ⟨hkind,hr⟩|⟨hkind,hr⟩
  · rw [if_pos hkind]
    exact attachGroupMembers_spec hstable hs (hprotocol item hkind) (hs _ ⟨item,hi,rfl⟩) hr
  · obtain ⟨-,rfl⟩ := run_pure_eq_ok.mp hr
    rw [if_neg hkind]
    exact ⟨hs,kept_nil _ s⟩

/-- The lines of all groups are kept from the headers on. -/
theorem groupLines_kept {σ₂ σ₃ σ₄ start : NormalizerState} (hstable : LowerStable)
    (hheaders : (materializeServiceObjects parsed).run σ₂=.ok (⟨⟩,σ₃))
    (hgroups : (materializeServiceGroupMembers parsed).run σ₃=.ok (⟨⟩,σ₄))
    (hprotocols : (materializeProtocolGroupMembers parsed).run σ₄=.ok (⟨⟩,start)) :
    Kept (LineKept (IsHeader parsed)) (groupLines parsed) σ₃ start := by
  have hknown : Registered (IsHeader parsed) σ₃ := by
    rintro key ⟨item,hi,rfl⟩
    exact headers_registered hheaders item hi
  obtain ⟨hknown',hservice⟩ := forM_attachGroupMembers_spec hstable
    (fun item hkind => by rw [groupProtocolOf,if_pos hkind]) hknown hgroups
  obtain ⟨-,hprotocol⟩ := forM_attachGroupMembers_spec hstable
    (fun item hkind => by rw [groupProtocolOf,if_neg (by rw [hkind]; decide)]) hknown' hprotocols
  exact hservice.trans (lineKept_lasting _) hprotocol

/-- What an outcome shows of a member line of a group: an edge to the object of every key it
wants, at its place, or one issue that names it, and the latter only if the line wants nothing
or something the configuration does not define. -/
inductive LineShown (parsed : ParsedConfig) (outcome : NormalizeOutcome) (line : GroupLine) :
    LineLeft → Prop
  | attached {wanted : List String} {edges : List CanonicalObjectMember} {parent : CanonicalObject}
      (hwanted : wantedKeys line.2.1 (groupProtocolOf line.1)=.ok wanted) (hne : wanted≠[])
      (hparent : parent∈outcome.objects)
      (hkey : parent.value.objectKey="service:"++line.1.name)
      (hedges : List.Forall₂ (fun entry edge => ∃ obj∈outcome.objects,
        obj.value.objectKey=entry.1 ∧ edge.parentObjectId=parent.id ∧
          edge.childObjectId=obj.id ∧ edge.position=line.2.2+entry.2) wanted.zipIdx edges) :
      LineShown parsed outcome line (edges,[])
  | refused {wanted : List String} {issue : CanonicalIssue}
      (hwanted : wantedKeys line.2.1 (groupProtocolOf line.1)=.ok wanted)
      (hmissing : wanted=[] ∨ ∃ key∈wanted,¬IsHeader parsed key)
      (hnames : NamesLine line.1 line.2.1 issue) : LineShown parsed outcome line ([],[issue])

/-- A line that is kept is shown. -/
theorem LineKept.shown {line : GroupLine} (h : LineKept (IsHeader parsed) σ line left) :
    LineShown parsed (outcomeOf σ) line left := by
  obtain ⟨parent,hparent,hdone⟩ := h
  obtain ⟨hmem,hkey⟩ := mem_objects_of_object? hparent
  cases hdone with
  | attached hwanted hne hedges =>
    refine .attached hwanted hne hmem hkey (hedges.imp ?_)
    rintro entry edge ⟨obj,hobj,hends⟩
    obtain ⟨ho,hown⟩ := mem_objects_of_object? hobj
    exact ⟨obj,ho,hown,hends⟩
  | refused hwanted hmissing hnames => exact .refused hwanted hmissing hnames

/-- No line of a service or protocol group is lost: line by line the outcome has edges to all
objects the line wants, or an issue about it, and no edge or issue stands for two lines. -/
theorem group_lines_shown {outcome : NormalizeOutcome} (hstable : LowerStable)
    (h : normalize parsed=.ok outcome) :
    ∃ left : List LineLeft,List.Forall₂ (LineShown parsed outcome) (groupLines parsed) left ∧
      left.flatMap Prod.fst<:+outcome.objectMembers ∧
      (left.flatMap Prod.snd).Sublist outcome.issues := by
  obtain ⟨ρ,hrun,rfl⟩ := normalize_eq_ok h
  obtain ⟨-,-,σ₂,σ₃,σ₄,start,-,-,-,hheaders,hgroups,hprotocols,hrules,hphases⟩ :=
    normalizePhases_start hrun
  -- the rows keep what the groups left
  obtain ⟨hnone,hnoOperands,hclean⟩ := start_clean (hphases 0 start (run_forM_nil.mpr rfl))
  obtain ⟨made,hmade⟩ := materializeRules_written hnone hnoOperands hclean hrules
  obtain ⟨left,hkept,hall⟩ := groupLines_kept hstable hheaders hgroups hprotocols
  refine ⟨left,hkept.imp fun _ _ hk => (lineKept_lasting _ _ _ _ _ hk hmade.later).shown,?_,?_⟩
  · exact ⟨σ₃.objectMembers,by rw [←hall.members_eq,←hmade.members_eq]; rfl⟩
  · obtain ⟨added,heq,hin⟩ := hall.issues_added
    refine (hin.trans ?_).trans hmade.issues.sublist
    rw [heq]
    exact List.sublist_append_right _ _

end Groups

section Samples

omit [PyUnicode] in
/-- Lower-casing an ASCII text twice is lower-casing it once. -/
theorem lowerStable_ascii : @LowerStable asciiUnicode := by
  intro s
  change asciiLower (asciiLower s)=asciiLower s
  rw [asciiLower,asciiLower,String.toList_ofList,List.map_map]
  congr 1
  exact List.map_congr_left fun c _ => Char.toLower_toLower_eq_toLower c

/-- A group of tcp services with a port and with two lines that name nothing. -/
def portGroup : ParsedServiceObject where
  name := "PORTS"
  kind := .serviceGroup
  payload := Dict.ofList [("protocol","tcp")]
  members := [.portObject "eq 80",.groupObject "MISSING",.groupObject "GONE"]
  rawLines := []
  sourceLine := 1
  sourceLineEnd := 4
  sourceFragment := "object-group service PORTS tcp"

/-- A configuration with the group. -/
def portConfig : ParsedConfig := { webToHost with serviceObjects := [portGroup] }

omit [PyUnicode] in
/-- The port has its edge, behind that of a network group, and either of the other lines has
its own issue. -/
theorem group_lines_shown_ports : ∃ outcome : NormalizeOutcome,
    @normalize asciiUnicode portConfig=.ok outcome ∧
    (∃ left : List LineLeft,List.Forall₂ (@LineShown asciiUnicode portConfig outcome)
      [(portGroup,.portObject "eq 80",0),(portGroup,.groupObject "MISSING",1),
        (portGroup,.groupObject "GONE",2)] left ∧
      left.flatMap Prod.fst<:+outcome.objectMembers ∧
      (left.flatMap Prod.snd).Sublist outcome.issues) ∧
    outcome.objectMembers.length=2 ∧ outcome.issues.countP (fun issue =>
      decide (issue.issueCode="unresolved_group_member_ref"))=2 := by
  have hrun : (@normalize asciiUnicode portConfig).toOption.map (fun outcome =>
      (outcome.objectMembers.length,outcome.issues.countP fun issue =>
        decide (issue.issueCode="unresolved_group_member_ref")))=some (2,2) := by
    decide +kernel
  cases h : @normalize asciiUnicode portConfig with
  | error e =>
    rw [h] at hrun
    cases hrun
  | ok outcome =>
    rw [h] at hrun
    obtain ⟨hedges,hissues⟩ := Prod.mk.inj (Option.some.inj hrun)
    exact ⟨outcome,rfl,@group_lines_shown asciiUnicode _ outcome lowerStable_ascii h,hedges,hissues⟩

end Samples

end NspMigrator.CiscoGroupLines
