import Mathlib
import NspMigrator.CiscoRuleKeys
import NspMigrator.CiscoServiceTargets

/-!
# Keys of derived services

The key of a leaf that is made for ports spells the protocol and the ports
out, and can be read back. Whatever line or reference such a leaf is made for,
it has the protocol and the ports of its key, or is unresolved.
-/

namespace NspMigrator.CiscoLeafKeys

open PyText PyWords PyDict PyExcept PyState PyRegistry CanonicalModels CiscoParsedConfig
open CiscoTokens CiscoState CiscoServiceLines CiscoServiceBuilders CiscoServices CiscoRuleKeys
open CiscoServiceTargets

section Texts

theorem colon_notMem_label (portFrom portTo : ℕ) :
    ':'∉(servicePortRangeLabel portFrom portTo).toList := by
  rw [servicePortRangeLabel]
  split
  · exact colon_notMem_toString _
  · rw [String.toList_append,String.toList_append,List.mem_append,List.mem_append]
    rintro ((h|h)|h)
    · exact colon_notMem_toString _ h
    · exact absurd h (by decide)
    · exact colon_notMem_toString _ h

/-- The text of a range with two bounds. -/
theorem toList_range (portFrom portTo : ℕ) :
    (toString portFrom++"-"++toString portTo).toList=
      (toString portFrom).toList++ '-'::(toString portTo).toList := by
  rw [String.toList_append,String.toList_append,List.append_assoc]
  rfl

/-- A single port is not a range with two bounds. -/
theorem number_ne_range (n portFrom portTo : ℕ) :
    toString n≠toString portFrom++"-"++toString portTo := by
  intro h
  refine hyphen_notMem_toString n ?_
  rw [h,toList_range]
  exact List.mem_append_right _ List.mem_cons_self

/-- Ports can be read back from their text. -/
theorem servicePortRangeLabel_inj {portFrom portTo otherFrom otherTo : ℕ}
    (h : servicePortRangeLabel portFrom portTo=servicePortRangeLabel otherFrom otherTo) :
    portFrom=otherFrom ∧ portTo=otherTo := by
  unfold servicePortRangeLabel at h
  split at h
  · next hsame =>
    split at h
    · next hother =>
      have hport := Nat.repr_injective h
      exact ⟨hport,hsame.symm.trans (hport.trans hother)⟩
    · exact absurd h (number_ne_range _ _ _)
  · split at h
    · exact absurd h.symm (number_ne_range _ _ _)
    · have hchars := congrArg String.toList h
      rw [toList_range,toList_range] at hchars
      obtain ⟨hfrom,hto⟩ :=
        append_separator_inj (hyphen_notMem_toString _) (hyphen_notMem_toString _)
        hchars
      exact ⟨Nat.repr_injective (String.toList_inj.mp hfrom),
        Nat.repr_injective (String.toList_inj.mp hto)⟩

/-- A key of ports can be read back. -/
theorem serviceObjectKey_inj {protocol other : String} {portFrom portTo otherFrom otherTo : ℕ}
    (h : serviceObjectKey protocol portFrom portTo=serviceObjectKey other otherFrom otherTo) :
    protocol=other ∧ portFrom=otherFrom ∧ portTo=otherTo := by
  have hlabel := (String.append_right_inj "service:").mp h
  obtain ⟨hprotocol,hports⟩ := append_colon_inj (colon_notMem_label _ _) (colon_notMem_label _ _)
    hlabel
  exact ⟨hprotocol,servicePortRangeLabel_inj hports⟩

/-- The key of a text that does not begin like tcp or udp is none of their ports. -/
theorem ne_serviceObjectKey {protocol first rest : String} {a b : Char} {others : List Char}
    (hfirst : first.toList=a::b::others) (htcp : (a,b)≠('t','c')) (hudp : (a,b)≠('u','d'))
    (hl4 : protocol="tcp" ∨ protocol="udp") (portFrom portTo : ℕ) :
    "service:"++(first++rest)≠serviceObjectKey protocol portFrom portTo := by
  intro h
  have htext := congrArg String.toList ((String.append_right_inj "service:").mp h)
  rw [servicePortLabel,String.toList_append,String.toList_append,String.toList_append,hfirst]
    at htext
  have htcp' : "tcp".toList=['t','c','p'] := by decide
  have hudp' : "udp".toList=['u','d','p'] := by decide
  rcases hl4 with rfl|rfl
  · rw [htcp',List.cons_append,List.cons_append] at htext
    obtain ⟨rfl,hrest⟩ := List.cons.inj htext
    obtain ⟨rfl,-⟩ := List.cons.inj hrest
    exact htcp rfl
  · rw [hudp',List.cons_append,List.cons_append] at htext
    obtain ⟨rfl,hrest⟩ := List.cons.inj htext
    obtain ⟨rfl,-⟩ := List.cons.inj hrest
    exact hudp rfl

end Texts

variable [PyUnicode]

/-- A leaf with the ports of a protocol. -/
structure HasPorts (fields : ObjectFields) (protocol : String) (portFrom portTo : ℕ) : Prop where
  /-- The kind is that of the protocol. -/
  kind : fields.objectKind=kindForProtocol protocol
  /-- The protocol is stored. -/
  protocol_eq : fields.protocol=some protocol
  /-- So is the first port. -/
  portFrom_eq : fields.portFrom=some portFrom
  /-- So is the last one. -/
  portTo_eq : fields.portTo=some portTo

/-- An object under a key of tcp or udp ports is unresolved or has these ports. -/
def SaysPorts (fields : ObjectFields) : Prop :=
  ∀ protocol portFrom portTo,(protocol="tcp" ∨ protocol="udp") →
    fields.objectKey=serviceObjectKey protocol portFrom portTo →
      fields.objectKind=.unresolvedService ∨ HasPorts fields protocol portFrom portTo

variable {fields : ObjectFields} {payload : Dict String String} {name key : String}

section Leaves

/-- An object under a key that does not begin like tcp or udp says nothing about ports. -/
theorem saysPorts_of_start {first rest : String} (a b : Char) (others : List Char)
    (hkey : fields.objectKey="service:"++(first++rest)) (hfirst : first.toList=a::b::others)
    (htcp : (a,b)≠('t','c')) (hudp : (a,b)≠('u','d')) : SaysPorts fields := by
  intro protocol portFrom portTo hl4 hports
  exact absurd (hkey.symm.trans hports) (ne_serviceObjectKey hfirst htcp hudp hl4 _ _)

/-- The key of a protocol is none of ports. -/
theorem saysPorts_of_protocol {proto : String} (hkey : fields.objectKey=ipProtocolObjectKey proto) :
    SaysPorts fields := by
  have hsplit := hkey.trans (append_split "service:" "ip-proto:" (by decide) _)
  exact saysPorts_of_start 'i' 'p' "-proto:".toList hsplit (by decide) (by decide) (by decide)

/-- The key of a message type is none of ports. -/
theorem saysPorts_of_icmp {proto : String} (rest : String)
    (hicmp : proto="icmp" ∨ proto="icmp6")
    (hkey : fields.objectKey="service:"++proto++rest) : SaysPorts fields := by
  rw [String.append_assoc] at hkey
  rcases hicmp with rfl|rfl
  · exact saysPorts_of_start 'i' 'c' "mp".toList hkey (by decide) (by decide) (by decide)
  · exact saysPorts_of_start 'i' 'c' "mp6".toList hkey (by decide) (by decide) (by decide)

theorem lower_l4 {protocol : String} (h : protocol="tcp" ∨ protocol="udp") :
    PyUnicode.lower protocol=protocol := by
  rcases h with rfl|rfl
  · rw [PyUnicode.lower_ascii _ (by simp [IsAscii])]
    decide
  · rw [PyUnicode.lower_ascii _ (by simp [IsAscii])]
    decide

/-- A leaf that is built from a payload under the key of ports, when the payload stands for
these ports or none. -/
theorem saysPorts_of_built {proto : String} {portFrom portTo : ℕ}
    (hkey : key=serviceObjectKey proto portFrom portTo)
    (hproto : PyUnicode.lower ((payload.get? "protocol").getD "")=PyUnicode.lower proto)
    (hrange : ∀ range,resolveL4DestinationRange payload=.ok (some range) → range=(portFrom,portTo))
    (h : buildCanonicalServiceFromPayload name key payload=.ok (some fields)) :
    SaysPorts fields := by
  intro protocol otherFrom otherTo hl4 hown
  rw [objectKey_buildCanonicalServiceFromPayload h,hkey] at hown
  obtain ⟨rfl,rfl,rfl⟩ := serviceObjectKey_inj hown
  rw [lower_l4 hl4] at hproto
  unfold buildCanonicalServiceFromPayload at h
  dsimp only at h
  rw [hproto] at h
  have hne : proto≠"" := by rcases hl4 with rfl|rfl <;> decide
  have hboth : ¬(proto="tcp-udp" ∧ payload.get? "op"=some "eq" ∧
      (payload.get? "port").isSome=true) := by
    rintro ⟨hboth,-⟩
    rcases hl4 with rfl|rfl
    · exact absurd hboth (by decide)
    · exact absurd hboth (by decide)
  rw [if_neg hne,if_neg hboth,if_pos hl4] at h
  obtain ⟨range,hresolve,hrest⟩ := bind_eq_ok.mp h
  cases range with
  | none =>
    cases pure_eq_ok.mp hrest
    exact Or.inl rfl
  | some range =>
    obtain rfl := hrange range hresolve
    cases pure_eq_ok.mp hrest
    exact Or.inr ⟨rfl,rfl,rfl,rfl⟩

/-- A leaf of a service payload under the key the payload gives. -/
theorem saysPorts_of_payload (hkey : servicePayloadKey payload=.ok (some key))
    (h : buildCanonicalServiceFromPayload name key payload=.ok (some fields)) :
    SaysPorts fields := by
  have hown := objectKey_buildCanonicalServiceFromPayload h
  unfold servicePayloadKey at hkey
  dsimp only at hkey
  by_cases hnone : PyUnicode.lower ((payload.get? "protocol").getD "")=""
  · rw [if_pos hnone] at hkey
    cases pure_eq_ok.mp hkey
  rw [if_neg hnone] at hkey
  by_cases hl4 : PyUnicode.lower ((payload.get? "protocol").getD "")="tcp" ∨
      PyUnicode.lower ((payload.get? "protocol").getD "")="udp"
  · rw [if_pos hl4] at hkey
    obtain ⟨range,hresolve,hrest⟩ := bind_eq_ok.mp hkey
    rcases range with _|⟨portFrom,portTo⟩
    · cases pure_eq_ok.mp hrest
    · cases pure_eq_ok.mp hrest
      refine saysPorts_of_built rfl (lower_l4 hl4).symm (fun range hr => ?_) h
      exact Option.some.inj (Except.ok.inj (hr.symm.trans hresolve))
  rw [if_neg hl4] at hkey
  by_cases hboth : PyUnicode.lower ((payload.get? "protocol").getD "")="tcp-udp" ∧
      payload.get? "op"=some "eq" ∧ (payload.get? "port").isSome=true
  · rw [if_pos hboth] at hkey
    obtain ⟨port,-,hrest⟩ := bind_eq_ok.mp hkey
    cases port with
    | none => cases pure_eq_ok.mp hrest
    | some port =>
      cases pure_eq_ok.mp hrest
      intro protocol portFrom portTo hprotocol hports
      rw [hown] at hports
      obtain ⟨rfl,-,-⟩ := serviceObjectKey_inj hports
      exact absurd hprotocol (by decide)
  rw [if_neg hboth] at hkey
  by_cases hicmp : PyUnicode.lower ((payload.get? "protocol").getD "")="icmp" ∨
      PyUnicode.lower ((payload.get? "protocol").getD "")="icmp6"
  · rw [if_pos hicmp] at hkey
    cases pure_eq_ok.mp hkey
    rw [String.append_assoc] at hown
    exact saysPorts_of_icmp _ hicmp hown
  rw [if_neg hicmp] at hkey
  split at hkey
  · cases pure_eq_ok.mp hkey
    exact saysPorts_of_protocol hown
  · cases pure_eq_ok.mp hkey

end Leaves

end NspMigrator.CiscoLeafKeys
