import Mathlib
import NspMigrator.CiscoServices

/-!
# What a service reference leads to

The service of a row is a function of the row and of the objects registered
before it: a named object, the leaf of its ports, the service of its protocol
or an unresolved object. A row adds no object but this one.
-/

namespace NspMigrator.CiscoServiceTargets

open PyText PyWords PyDict PyExcept PyState PyRegistry CanonicalModels CiscoParsedConfig
open CiscoTokens CiscoState CiscoAddresses CiscoServiceBuilders CiscoServices

variable [PyUnicode]

/-- The service of a protocol without ports, the sentinel where there is none. -/
def defaultTarget (protocol : String) : Except String ObjectFields := do
  let proto := PyUnicode.lower protocol
  let built ← buildCanonicalServiceFromPayload proto (ipProtocolObjectKey proto)
    (Dict.ofList [("protocol",proto)])
  return built.getD anyServiceFields

omit [PyUnicode] in
/-- The object a text that is given and not empty names. -/
def namedService (ref : Option String) (σ : NormalizerState) : Option CanonicalObject :=
  (ref.filter (·≠"")).bind fun name => σ.object? ("service:"++name)

/-- What a reference leads to in a state. -/
def refTarget (protocol : String) (ref : Option String) (σ : NormalizerState) :
    Except String ObjectFields :=
  match ref.filter fun ref => decide (ref≠"" ∧ ref≠"any") with
  | none => defaultTarget protocol
  | some ref =>
    match σ.object? ("service:"++ref) with
    | some obj => .ok obj.value
    | none => do
      return (← buildInlineServiceFromRef protocol ref).getD (unresolvedServiceFields protocol ref)

omit [PyUnicode] in
/-- The protocol the group of a row lends to its ports. -/
def lentProtocol (rule : ParsedAccessRule) (σ : NormalizerState) : String :=
  (((namedService rule.protocolGroupRef σ).bind (·.value.protocol)).filter (·≠"")).getD "ip"

/-- What the service of a row is in a state. -/
def ruleTarget (rule : ParsedAccessRule) (σ : NormalizerState) : Except String ObjectFields :=
  match rule.protocolOperandKind with
  | .ipProtocolNumber =>
    match namedService rule.serviceRef σ with
    | some obj => .ok obj.value
    | none => .ok ((rule.protocolNumber.map fun number =>
        buildIpProtocolService (some number) none).getD anyServiceFields)
  | .serviceObject => refTarget "ip" rule.serviceRef σ
  | .protocolGroup =>
    match rule.serviceRef.filter (·≠"") with
    | some serviceRef => refTarget (lentProtocol rule σ) (some serviceRef) σ
    | none => .ok (((namedService rule.protocolGroupRef σ).map (·.value)).getD anyServiceFields)
  | .literal => refTarget rule.protocol rule.serviceRef σ

section Specs

variable {σ σ' : NormalizerState} {sourceLine id : ℕ}

omit [PyUnicode] in
/-- A number that is read belongs to the object under the key. -/
theorem resolves_of_objectIdAt {fields : ObjectFields}
    (h : (objectIdAt fields.objectKey).run σ=.ok (id,σ')) :
    Adds (·=fields) σ σ' ∧ Resolves σ σ' fields id := by
  obtain ⟨rfl,obj,hobj,rfl⟩ := objectIdAt_spec h
  exact ⟨Adds.refl _ _,obj,hobj,rfl,Or.inl hobj⟩

omit [PyUnicode] in
theorem lookupNamedServiceRef_spec {ref : Option String} {found : Option ℕ}
    (h : (lookupNamedServiceRef ref).run σ=.ok (found,σ')) :
    σ'=σ ∧ found=(namedService ref σ).map (·.id) := by
  unfold lookupNamedServiceRef at h
  cases hname : ref.filter (·≠"") with
  | none =>
    rw [hname] at h
    obtain ⟨rfl,rfl⟩ := run_pure_eq_ok.mp h
    rw [namedService,hname]
    exact ⟨rfl,rfl⟩
  | some name =>
    rw [hname] at h
    obtain ⟨rfl,hfound⟩ := objectId?_spec h
    rw [namedService,hname]
    exact ⟨rfl,hfound⟩

omit [PyUnicode] in
/-- An object that is registered, with a record of the one that stands under its key. -/
theorem registerTraced_spec {fields : ObjectFields} {sourceFragment note : String}
    (h : (do
      let (obj,_) ← register fields
      emitServiceObjectTrace sourceLine obj.id sourceFragment note
      return obj.id : Normalizing ℕ).run σ=.ok (id,σ')) :
    Adds (·=fields) σ σ' ∧ Resolves σ σ' fields id := by
  obtain ⟨⟨obj,created⟩,τ,hreg,h⟩ := run_bind_eq_ok.mp h
  obtain ⟨hadd,hres⟩ := register_resolves hreg
  obtain ⟨⟨⟩,τ₁,htrace,h⟩ := run_bind_eq_ok.mp h
  obtain ⟨rfl,rfl⟩ := run_pure_eq_ok.mp h
  have hsilent : Adds (·=fields) τ τ₁ := (emitTrace_spec htrace).adds
  exact ⟨hadd.trans hsilent,hres.later hsilent.later⟩

theorem ensureDefaultServiceObject_spec {protocol : String}
    (h : (ensureDefaultServiceObject protocol sourceLine).run σ=.ok (id,σ')) :
    ∃ fields,defaultTarget protocol=.ok fields ∧ Adds (·=fields) σ σ' ∧
      Resolves σ σ' fields id := by
  obtain ⟨built,τ,hlift,hrest⟩ := run_bind_eq_ok.mp h
  obtain ⟨hbuilt,rfl⟩ := run_lift_eq_ok.mp hlift
  refine ⟨built.getD anyServiceFields,?_,?_⟩
  · exact bind_eq_ok.mpr ⟨built,hbuilt,rfl⟩
  · cases built with
    | none =>
      have hread : (objectIdAt anyServiceFields.objectKey).run σ=.ok (id,σ') := hrest
      exact resolves_of_objectIdAt hread
    | some fields => exact registerTraced_spec hrest

omit [PyUnicode] in
theorem ensureUnresolvedServiceObject_spec {ref protocol : String}
    (h : (ensureUnresolvedServiceObject ref protocol sourceLine).run σ=.ok (id,σ')) :
    Adds (·=unresolvedServiceFields protocol ref) σ σ' ∧
      Resolves σ σ' (unresolvedServiceFields protocol ref) id := by
  obtain ⟨found,τ,hread,hrest⟩ := run_bind_eq_ok.mp h
  obtain ⟨rfl,hfound⟩ := objectId?_spec hread
  cases found with
  | some found =>
    obtain ⟨rfl,rfl⟩ := run_pure_eq_ok.mp hrest
    obtain ⟨obj,hobj,hid⟩ := Option.map_eq_some_iff.mp hfound.symm
    exact ⟨Adds.refl _ _,obj,hobj,hid,Or.inl hobj⟩
  | none =>
    have hnone := Option.map_eq_none_iff.mp hfound.symm
    obtain ⟨⟨obj,created⟩,τ₁,hreg,htraced⟩ := run_bind_eq_ok.mp hrest
    obtain ⟨⟨⟩,τ₂,htrace,hissued⟩ := run_bind_eq_ok.mp htraced
    obtain ⟨issue,τ₃,hissue,hlast⟩ := run_bind_eq_ok.mp hissued
    obtain ⟨rfl,rfl⟩ := run_pure_eq_ok.mp hlast
    obtain ⟨hadd,hres⟩ := register_resolves hreg
    rw [register_created hreg hnone] at hres
    have hquiet : Adds (·=unresolvedServiceFields protocol ref) τ₁ τ₃ :=
      (emitTrace_spec htrace).adds.trans (emitIssue_adds hissue)
    exact ⟨hadd.trans hquiet,hres.later hquiet.later⟩

theorem ensureServiceObjectFromRef_spec {protocol : String} {ref : Option String}
    (h : (ensureServiceObjectFromRef protocol ref sourceLine).run σ=.ok (id,σ')) :
    ∃ fields,refTarget protocol ref σ=.ok fields ∧ Adds (·=fields) σ σ' ∧
      Resolves σ σ' fields id := by
  unfold ensureServiceObjectFromRef at h
  unfold refTarget
  cases hname : ref.filter fun ref => decide (ref≠"" ∧ ref≠"any") with
  | none =>
    rw [hname] at h
    exact ensureDefaultServiceObject_spec h
  | some name =>
    rw [hname] at h
    have hne : name≠"" := (of_decide_eq_true (Option.filter_eq_some_iff.mp hname).2).1
    obtain ⟨found,τ,hread,hrest⟩ := run_bind_eq_ok.mp h
    obtain ⟨rfl,hfound⟩ := lookupNamedServiceRef_spec hread
    have hnamed : namedService (some name) τ=τ.object? ("service:"++name) := by
      rw [namedService,Option.filter_some,if_pos (decide_eq_true hne)]
      rfl
    rw [hnamed] at hfound
    dsimp only
    cases hobj : τ.object? ("service:"++name) with
    | some obj =>
      rw [hobj] at hfound
      subst hfound
      obtain ⟨rfl,rfl⟩ := run_pure_eq_ok.mp hrest
      exact ⟨obj.value,rfl,Adds.refl _ _,resolves_of_object? hobj⟩
    | none =>
      rw [hobj] at hfound
      subst hfound
      obtain ⟨inline,τ₁,hlift,hmade⟩ := run_bind_eq_ok.mp hrest
      obtain ⟨hinline,rfl⟩ := run_lift_eq_ok.mp hlift
      refine ⟨inline.getD (unresolvedServiceFields protocol name),?_,?_⟩
      · exact bind_eq_ok.mpr ⟨inline,hinline,rfl⟩
      · cases inline with
        | some fields => exact registerTraced_spec hmade
        | none => exact ensureUnresolvedServiceObject_spec hmade

omit [PyUnicode] in
theorem effectiveProtocolFromGroup_spec {rule : ParsedAccessRule} {result : Option String}
    (h : (effectiveProtocolFromGroup rule).run σ=.ok (result,σ')) :
    σ'=σ ∧ (result.filter (·≠"")).getD "ip"=lentProtocol rule σ := by
  unfold effectiveProtocolFromGroup at h
  rw [lentProtocol,namedService]
  cases hname : rule.protocolGroupRef.filter (·≠"") with
  | none =>
    rw [hname] at h
    obtain ⟨rfl,rfl⟩ := run_pure_eq_ok.mp h
    exact ⟨rfl,rfl⟩
  | some name =>
    rw [hname] at h
    obtain ⟨t,τ,hget,hrest⟩ := run_bind_eq_ok.mp h
    obtain ⟨rfl,rfl⟩ := run_get_eq_ok.mp hget
    rw [Option.bind_some]
    cases hobj : σ.object? ("service:"++name) with
    | none =>
      rw [hobj] at hrest
      obtain ⟨rfl,rfl⟩ := run_pure_eq_ok.mp hrest
      exact ⟨rfl,rfl⟩
    | some group =>
      rw [hobj] at hrest
      obtain ⟨rfl,rfl⟩ := run_pure_eq_ok.mp hrest
      exact ⟨rfl,rfl⟩

theorem ensureIpProtocolService_spec {rule : ParsedAccessRule}
    (h : (ensureIpProtocolService rule).run σ=.ok (id,σ')) :
    ∃ fields,(namedService rule.serviceRef σ=none → fields=(rule.protocolNumber.map fun number =>
        buildIpProtocolService (some number) none).getD anyServiceFields) ∧
      (∀ obj,namedService rule.serviceRef σ=some obj → fields=obj.value) ∧
      Adds (·=fields) σ σ' ∧ Resolves σ σ' fields id := by
  obtain ⟨found,τ,hread,hrest⟩ := run_bind_eq_ok.mp h
  obtain ⟨rfl,hfound⟩ := lookupNamedServiceRef_spec hread
  cases hobj : namedService rule.serviceRef τ with
  | some obj =>
    rw [hobj] at hfound
    subst hfound
    obtain ⟨rfl,rfl⟩ := run_pure_eq_ok.mp hrest
    obtain ⟨name,-,hlookup⟩ := Option.bind_eq_some_iff.mp hobj
    refine ⟨obj.value,fun hnone => ?_,fun other ho => ?_,Adds.refl _ _,
      resolves_of_object? hlookup⟩
    · cases hnone
    · rw [Option.some.inj ho]
  | none =>
    rw [hobj] at hfound
    subst hfound
    refine ⟨_,fun _ => rfl,fun other ho => (by cases ho),?_⟩
    cases hnumber : rule.protocolNumber with
    | none =>
      simp only [hnumber] at hrest
      have hread : (objectIdAt anyServiceFields.objectKey).run τ=.ok (id,σ') := hrest
      exact resolves_of_objectIdAt hread
    | some number =>
      simp only [hnumber] at hrest
      exact registerTraced_spec hrest

omit [PyUnicode] in
theorem ensureProtocolGroupService_spec {rule : ParsedAccessRule}
    (h : (ensureProtocolGroupService rule).run σ=.ok (id,σ')) :
    Adds (·=((namedService rule.protocolGroupRef σ).map (·.value)).getD anyServiceFields) σ σ' ∧
      Resolves σ σ'
        (((namedService rule.protocolGroupRef σ).map (·.value)).getD anyServiceFields) id := by
  unfold ensureProtocolGroupService at h
  rw [namedService]
  cases hname : rule.protocolGroupRef.filter (·≠"") with
  | none =>
    rw [hname] at h
    have hread : (objectIdAt anyServiceFields.objectKey).run σ=.ok (id,σ') := h
    exact resolves_of_objectIdAt hread
  | some name =>
    rw [hname] at h
    obtain ⟨found,τ,hread,hrest⟩ := run_bind_eq_ok.mp h
    obtain ⟨rfl,hfound⟩ := objectId?_spec hread
    rw [Option.bind_some]
    cases hobj : τ.object? ("service:"++name) with
    | some obj =>
      rw [hobj] at hfound
      subst hfound
      obtain ⟨rfl,rfl⟩ := run_pure_eq_ok.mp hrest
      exact ⟨Adds.refl _ _,resolves_of_object? hobj⟩
    | none =>
      rw [hobj] at hfound
      subst hfound
      have hread : (objectIdAt anyServiceFields.objectKey).run τ=.ok (id,σ') := hrest
      exact resolves_of_objectIdAt hread

/-- The service of a row, before a group is taken apart, is the one it leads to. -/
theorem ensureServiceForRule_spec {rule : ParsedAccessRule}
    (h : (ensureServiceForRule rule).run σ=.ok (id,σ')) :
    ∃ fields,ruleTarget rule σ=.ok fields ∧ Adds (·=fields) σ σ' ∧ Resolves σ σ' fields id := by
  unfold ensureServiceForRule at h
  unfold ruleTarget
  cases hkind : rule.protocolOperandKind with
  | ipProtocolNumber =>
    rw [hkind] at h
    obtain ⟨fields,hnone,hsome,hspec⟩ := ensureIpProtocolService_spec h
    refine ⟨fields,?_,hspec⟩
    cases hobj : namedService rule.serviceRef σ with
    | some obj => simp only [hsome obj hobj]
    | none => simp only [hnone hobj]
  | serviceObject =>
    rw [hkind] at h
    exact ensureServiceObjectFromRef_spec h
  | protocolGroup =>
    rw [hkind] at h
    dsimp only at h ⊢
    cases href : rule.serviceRef.filter (·≠"") with
    | none =>
      rw [href] at h
      exact ⟨_,rfl,ensureProtocolGroupService_spec h⟩
    | some serviceRef =>
      rw [href] at h
      obtain ⟨effective,τ,hread,hrest⟩ := run_bind_eq_ok.mp h
      obtain ⟨rfl,heff⟩ := effectiveProtocolFromGroup_spec hread
      rw [heff] at hrest
      exact ensureServiceObjectFromRef_spec hrest
  | literal =>
    rw [hkind] at h
    exact ensureServiceObjectFromRef_spec h

end Specs

section Keys

variable {σ : NormalizerState} {fields : ObjectFields}

omit [PyUnicode] in
/-- A text before another one is taken apart. -/
theorem append_split {whole : String} (first second : String) (h : whole=first++second)
    (rest : String) : whole++rest=first++(second++rest) := by
  rw [h,String.append_assoc]

/-- The service of a protocol has the key of the protocol, or is the sentinel. -/
theorem key_of_defaultTarget {protocol : String} (h : defaultTarget protocol=.ok fields) :
    fields.objectKey=ipProtocolObjectKey (PyUnicode.lower protocol) ∨
      fields=anyServiceFields := by
  obtain ⟨built,hbuilt,hlast⟩ := bind_eq_ok.mp h
  cases pure_eq_ok.mp hlast
  cases built with
  | none => exact Or.inr rfl
  | some built => exact Or.inl (objectKey_buildCanonicalServiceFromPayload hbuilt)

/-- The leaf of an inline reference has a key of its protocol. -/
theorem key_of_buildInlineServiceFromRef {protocol ref : String}
    (h : buildInlineServiceFromRef protocol ref=.ok (some fields)) :
    (∃ proto portFrom portTo,fields.objectKey=serviceObjectKey proto portFrom portTo) ∨
      ∃ proto text,(proto="icmp" ∨ proto="icmp6") ∧
        fields.objectKey="service:"++proto++":icmp-"++text := by
  unfold buildInlineServiceFromRef at h
  dsimp only at h
  by_cases hl4 : PyUnicode.lower protocol="tcp" ∨ PyUnicode.lower protocol="udp"
  · rw [if_pos hl4] at h
    obtain ⟨bounds,-,hrest⟩ := bind_eq_ok.mp h
    refine Or.inl ?_
    split at hrest
    · cases pure_eq_ok.mp hrest
      exact ⟨_,_,_,rfl⟩
    · split at hrest
      · cases pure_eq_ok.mp hrest
        exact ⟨_,_,_,rfl⟩
      · cases pure_eq_ok.mp hrest
  · rw [if_neg hl4] at h
    by_cases hicmp : PyUnicode.lower protocol="icmp" ∨ PyUnicode.lower protocol="icmp6"
    · rw [if_pos hicmp] at h
      cases pure_eq_ok.mp h
      exact Or.inr ⟨_,_,hicmp,rfl⟩
    · rw [if_neg hicmp] at h
      cases pure_eq_ok.mp h

omit [PyUnicode] in
theorem key_of_namedService {ref : Option String} {obj : CanonicalObject}
    (h : namedService ref σ=some obj) :
    ∃ name,name≠"" ∧ ref=some name ∧ σ.object? ("service:"++name)=some obj ∧
      obj.value.objectKey="service:"++name := by
  obtain ⟨name,hname,hobj⟩ := Option.bind_eq_some_iff.mp h
  obtain ⟨rfl,hne⟩ := Option.filter_eq_some_iff.mp hname
  exact ⟨name,of_decide_eq_true hne,rfl,hobj,σ.registry.key_eq _ obj hobj⟩

/-- A reference leads to an object under the key of a service. -/
theorem key_of_refTarget {protocol : String} {ref : Option String}
    (h : refTarget protocol ref σ=.ok fields) : ∃ name,fields.objectKey="service:"++name := by
  unfold refTarget at h
  split at h
  · rcases key_of_defaultTarget h with hkey|rfl
    · exact ⟨"ip-proto:"++PyUnicode.lower (PyUnicode.lower protocol),
        hkey.trans (append_split "service:" "ip-proto:" (by decide) _)⟩
    · exact ⟨"any",rfl⟩
  · next name _ =>
    split at h
    · next obj hobj =>
      cases h
      exact ⟨name,σ.registry.key_eq _ obj hobj⟩
    · obtain ⟨built,hbuilt,hlast⟩ := bind_eq_ok.mp h
      cases pure_eq_ok.mp hlast
      cases built with
      | none => exact ⟨"unresolved:"++name,append_split "service:" "unresolved:" (by decide) name⟩
      | some built =>
        rcases key_of_buildInlineServiceFromRef hbuilt with ⟨proto,f,t,hkey⟩|⟨proto,text,-,hkey⟩
        · exact ⟨_,hkey⟩
        · refine ⟨proto++":icmp-"++text,hkey.trans ?_⟩
          simp only [String.append_assoc]

/-- A row leads to an object under the key of a service. -/
theorem key_of_ruleTarget {rule : ParsedAccessRule} (h : ruleTarget rule σ=.ok fields) :
    ∃ name,fields.objectKey="service:"++name := by
  have hobject : ∀ ref obj,namedService ref σ=some obj →
      ∃ name,obj.value.objectKey="service:"++name := fun ref obj hobj => by
    obtain ⟨name,-,-,-,hkey⟩ := key_of_namedService hobj
    exact ⟨name,hkey⟩
  unfold ruleTarget at h
  split at h
  · split at h
    · next obj hobj =>
      cases h
      exact hobject _ obj hobj
    · cases h
      cases rule.protocolNumber with
      | none => exact ⟨"any",rfl⟩
      | some number => exact ⟨_,append_split "service:" "ip-proto:" (by decide) _⟩
  · exact key_of_refTarget h
  · split at h
    · exact key_of_refTarget h
    · cases h
      cases hgroup : namedService rule.protocolGroupRef σ with
      | none => exact ⟨"any",rfl⟩
      | some obj => exact hobject _ obj hgroup
  · exact key_of_refTarget h

end Keys

end NspMigrator.CiscoServiceTargets
