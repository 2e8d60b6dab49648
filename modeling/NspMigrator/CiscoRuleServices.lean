import Mathlib
import NspMigrator.CiscoRuleRows
import NspMigrator.CiscoClosure

/-!
# Services of the rules of an outcome

A row refers to the one object its service leads to. Only a tcp-udp group
under a tcp or udp row is taken apart, into its distinct members of that
protocol in the order of its edges, and a group without such members is
replaced by an unresolved object.
-/

namespace NspMigrator.CiscoRuleServices

open PyText PyWords PyDict PyExcept PyState PyRegistry CanonicalModels CiscoParsedConfig
open CiscoState CiscoAddresses CiscoServiceBuilders CiscoServices CiscoRules CiscoReferences
open CiscoRuleReferences CiscoServiceTargets CiscoRuleRows CiscoNormalizer

/-- The members of a group in the order of its edges. -/
def childrenOf (outcome : NormalizeOutcome) (parentId : ℕ) : List CanonicalObject :=
  (outcome.objectMembers.filter fun member => decide (member.parentObjectId=parentId)).filterMap
    fun member => outcome.objects.find? fun obj => decide (obj.id=member.childObjectId)

/-- The distinct members of a group that have a protocol. -/
def membersFor (outcome : NormalizeOutcome) (parentId : ℕ) (protocol : String) :
    List CanonicalObject :=
  distinctBy (·.id) ((childrenOf outcome parentId).filter fun child =>
    decide (child.value.protocol=some protocol))

/-- A tcp-udp group under a row of one of the two protocols. -/
def TakenApart (rule : ParsedAccessRule) (service : CanonicalObject) : Prop :=
  service.value.objectKind=.serviceGroup ∧ service.value.protocol=some "tcp-udp" ∧
    (rule.protocol="tcp" ∨ rule.protocol="udp")

instance (rule : ParsedAccessRule) (service : CanonicalObject) :
    Decidable (TakenApart rule service) := inferInstanceAs (Decidable (_ ∧ _ ∧ _))

/-- The key of the unresolved object in place of a group without members of a protocol. -/
def emptySelectionKey (rule : ParsedAccessRule) (service : CanonicalObject) : String :=
  "service:unresolved:"++(service.value.name++":"++rule.protocol)

/-- The numbers a row refers to when its service is an object. -/
inductive ServiceIds (outcome : NormalizeOutcome) (rule : ParsedAccessRule)
    (service : CanonicalObject) : List ℕ → Prop
  | whole (hwhole : ¬TakenApart rule service) : ServiceIds outcome rule service [service.id]
  | selected (hapart : TakenApart rule service)
      (hne : membersFor outcome service.id rule.protocol≠[]) : ServiceIds outcome rule service
        ((membersFor outcome service.id rule.protocol).map (·.id))
  | unresolved (obj : CanonicalObject) (hapart : TakenApart rule service)
      (hnone : membersFor outcome service.id rule.protocol=[]) (hobj : obj∈outcome.objects)
      (hkey : obj.value.objectKey=emptySelectionKey rule service) :
      ServiceIds outcome rule service [obj.id]

variable {P Q : ObjectFields → Prop} {σ σ' τ ρ : NormalizerState} {rules : List CanonicalRule}
  {operands : List CanonicalRuleOperand}

section Outcomes

/-- An object of an outcome is the one under its key. -/
theorem mem_objects_iff {obj : CanonicalObject} :
    obj∈(outcomeOf σ).objects ↔ σ.object? obj.value.objectKey=some obj := by
  constructor
  · intro h
    obtain ⟨key,hkey⟩ := Dict.exists_get?_of_mem_values h
    have hown := σ.registry.key_eq key obj hkey
    rw [hown]
    exact hkey
  · exact fun h => Dict.mem_values_of_get? h

/-- What is under a key is an object of the outcome. -/
theorem mem_objects_of_object? {key : String} {obj : CanonicalObject}
    (h : σ.object? key=some obj) : obj∈(outcomeOf σ).objects ∧ obj.value.objectKey=key :=
  ⟨Dict.mem_values_of_get? h,σ.registry.key_eq key obj h⟩

/-- Members that are registered stay the members of their group while rows are written. -/
theorem childrenOf_writes (h : Writes P rules operands σ σ') {parentId : ℕ}
    (hknown : ∀ member∈σ.objectMembers,member.parentObjectId=parentId →
      Known σ member.childObjectId) :
    childrenOf (outcomeOf σ') parentId=childrenOf (outcomeOf σ) parentId := by
  have hmembers : (outcomeOf σ').objectMembers=(outcomeOf σ).objectMembers := h.members_eq
  rw [childrenOf,childrenOf,hmembers]
  refine List.filterMap_congr fun member hm => ?_
  obtain ⟨hin,hparent⟩ := List.mem_filter.mp hm
  obtain ⟨obj,hobj⟩ := hknown member hin (of_decide_eq_true hparent)
  exact (h.later.find?_eq hobj).trans hobj.symm

theorem membersFor_writes (h : Writes P rules operands σ σ') (parentId : ℕ)
    (hknown : ∀ member∈σ.objectMembers,member.parentObjectId=parentId →
      Known σ member.childObjectId) (protocol : String) :
    membersFor (outcomeOf σ') parentId protocol=membersFor (outcomeOf σ) parentId protocol := by
  rw [membersFor,membersFor,childrenOf_writes h hknown]

/-- Objects stay objects of the outcome while rows are written. -/
theorem mem_objects_writes (h : Writes P rules operands σ σ') {obj : CanonicalObject}
    (ho : obj∈(outcomeOf σ).objects) : obj∈(outcomeOf σ').objects :=
  mem_objects_iff.mpr (h.object?_eq (mem_objects_iff.mp ho))

/-- The services of a row stay what they are while other rows are written. -/
theorem ServiceIds.writes {rule : ParsedAccessRule} {service : CanonicalObject} {ids : List ℕ}
    (h : ServiceIds (outcomeOf σ) rule service ids) (hw : Writes P rules operands σ σ')
    (hknown : ∀ member∈σ.objectMembers,Known σ member.childObjectId) :
    ServiceIds (outcomeOf σ') rule service ids := by
  have hsame := membersFor_writes hw service.id (fun member hm _ => hknown member hm)
    rule.protocol
  cases h with
  | whole hwhole => exact .whole hwhole
  | selected hapart hne =>
    rw [←hsame] at hne ⊢
    exact .selected hapart hne
  | unresolved obj hapart hnone hobj hkey =>
    rw [←hsame] at hnone
    exact .unresolved obj hapart hnone (mem_objects_writes hw hobj) hkey

end Outcomes

section Specs

/-- Objects that are read by number are the objects with these numbers. -/
theorem mapM_objectById_spec {members : List CanonicalObjectMember}
    {children : List CanonicalObject}
    (h : (members.mapM fun member => objectById member.childObjectId).run σ=
      .ok (children,σ')) :
    σ'=σ ∧ children=members.filterMap fun member => σ.registry.find? member.childObjectId := by
  induction members generalizing σ σ' children with
  | nil =>
    rw [List.mapM_nil] at h
    obtain ⟨rfl,rfl⟩ := run_pure_eq_ok.mp h
    exact ⟨rfl,rfl⟩
  | cons member rest ih =>
    rw [List.mapM_cons] at h
    obtain ⟨child,τ,hchild,hrest⟩ := run_bind_eq_ok.mp h
    obtain ⟨rfl,hfound⟩ := objectById_spec hchild
    obtain ⟨others,τ₁,hothers,hlast⟩ := run_bind_eq_ok.mp hrest
    obtain ⟨rfl,hall⟩ := ih hothers
    obtain ⟨rfl,rfl⟩ := run_pure_eq_ok.mp hlast
    refine ⟨rfl,?_⟩
    rw [List.filterMap_cons,hfound,hall]

/-- The numbers that are selected are those of the distinct members of the protocol. -/
theorem selectMembers_spec {serviceId : ℕ} {protocol : String} {ids : List ℕ}
    (h : (selectMembers serviceId protocol σ.objectMembers).run σ=.ok (ids,σ')) :
    σ'=σ ∧ ids=(membersFor (outcomeOf σ) serviceId protocol).map (·.id) := by
  obtain ⟨children,τ,hchildren,hrest⟩ := run_bind_eq_ok.mp h
  obtain ⟨rfl,rfl⟩ := mapM_objectById_spec hchildren
  obtain ⟨rfl,rfl⟩ := run_pure_eq_ok.mp hrest
  exact ⟨rfl,rfl⟩

variable [PyUnicode]

/-- The services of a row are those of the object it leads to. -/
theorem ensureServicesForRule_spec {rule : ParsedAccessRule} {ids : List ℕ}
    (hknown : ∀ member∈σ.objectMembers,Known σ member.childObjectId)
    (h : (ensureServicesForRule rule).run σ=.ok (ids,σ')) :
    Writes (fun _ => True) [] [] σ σ' ∧ ∃ fields service,ruleTarget rule σ=.ok fields ∧
      σ'.object? fields.objectKey=some service ∧
      (σ.object? fields.objectKey=some service ∨
        σ.object? fields.objectKey=none ∧ service.value=fields) ∧
      ServiceIds (outcomeOf σ') rule service ids := by
  obtain ⟨serviceId,τ,hservice,hrest⟩ := run_bind_eq_ok.mp h
  obtain ⟨fields,htarget,hadd,service,hobj,rfl,horigin⟩ := ensureServiceForRule_spec hservice
  have hwrites : Writes (fun _ => True) [] [] σ τ :=
    (writes_of_adds hadd).mono fun _ _ => trivial
  have hknown' : ∀ member∈τ.objectMembers,Known τ member.childObjectId := by
    intro member hm
    rw [hwrites.members_eq] at hm
    exact (hknown member hm).later hwrites.later
  obtain ⟨read,τ₁,hread,hbranch⟩ := run_bind_eq_ok.mp hrest
  obtain ⟨rfl,hfound⟩ := objectById_spec hread
  have hsame : read=service := Option.some.inj (hfound.symm.trans (find?_of_object? hobj))
  subst hsame
  rcases run_ite hbranch with ⟨hapart,hgroup⟩|⟨hwhole,hsingle⟩
  · obtain ⟨t,τ₂,hget,hmembers⟩ := run_bind_eq_ok.mp hgroup
    obtain ⟨rfl,rfl⟩ := run_get_eq_ok.mp hget
    obtain ⟨selected,τ₃,hselected,hchoice⟩ := run_bind_eq_ok.mp hmembers
    obtain ⟨rfl,rfl⟩ := selectMembers_spec hselected
    rcases run_ite hchoice with ⟨hnil,hnone⟩|⟨hne,hsome⟩
    · obtain ⟨unresolved,τ₄,hunresolved,hlast⟩ := run_bind_eq_ok.mp hnone
      obtain ⟨rfl,rfl⟩ := run_pure_eq_ok.mp hlast
      obtain ⟨hafter,obj,hkey,rfl,-⟩ := ensureUnresolvedServiceObject_spec hunresolved
      have hafter' := (writes_of_adds hafter).mono (Q:=fun _ => True) fun _ _ => trivial
      refine ⟨hwrites.trans hafter',fields,read,htarget,hafter'.object?_eq hobj,horigin,?_⟩
      obtain ⟨hin,hown⟩ := mem_objects_of_object? hkey
      refine .unresolved obj hapart ?_ hin hown
      rw [membersFor_writes hafter' _ (fun member hm _ => hknown' member hm)]
      exact List.map_eq_nil_iff.mp hnil
    · obtain ⟨rfl,rfl⟩ := run_pure_eq_ok.mp hsome
      exact ⟨hwrites,fields,read,htarget,hobj,horigin,
        .selected hapart fun hnil => hne (List.map_eq_nil_iff.mpr hnil)⟩
  · obtain ⟨rfl,rfl⟩ := run_pure_eq_ok.mp hsingle
    exact ⟨hwrites,fields,read,htarget,hobj,horigin,.whole hwhole⟩

end Specs

end NspMigrator.CiscoRuleServices
