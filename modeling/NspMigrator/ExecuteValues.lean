import Mathlib
import NspMigrator.PyJson
import NspMigrator.SdwanModels

/-!
# Values of rule operands

Address spans, domain names and services are the values two rules are
compared by. Each value denotes a set of points and covers another exactly
when a single comparison says so; a signature tells values apart.
-/

namespace NspMigrator.ExecuteValues

open PyText PyRepr Ipv4 SdwanModels

/-- An inclusive range of IPv4 addresses. -/
structure AddressSpan where
  /-- The first address. -/
  start : ℕ
  /-- The last address. -/
  stop : ℕ
  /-- Ranges are not empty. -/
  le : start≤ stop

theorem AddressSpan.eq_iff {a b : AddressSpan} : a=b ↔ a.start=b.start ∧ a.stop=b.stop := by
  cases a
  cases b
  simp

instance : DecidableEq AddressSpan := fun _ _ => decidable_of_iff _ AddressSpan.eq_iff.symm

/-- The range of a network. -/
def AddressSpan.fromNetwork (network : Ipv4Network) : AddressSpan :=
  ⟨network.networkAddress,network.broadcastAddress,network.le_broadcastAddress⟩

/-- The range of a single address. -/
def AddressSpan.fromHost (address : Ipv4Address) : AddressSpan :=
  ⟨address.toInt,address.toInt,le_rfl⟩

/-- The range between two addresses. -/
def AddressSpan.fromRange (start stop : Ipv4Address) : Except String AddressSpan :=
  if h : start.toInt≤ stop.toInt then .ok ⟨start.toInt,stop.toInt,h⟩
  else .error ("Invalid IPv4 range: start "++dotted start.toInt++" is greater than end "++
    dotted stop.toInt)

/-- A domain name, trimmed and in lower case. -/
structure FqdnValue where
  /-- The name. -/
  domain : String
  deriving DecidableEq

/-- The value of a written domain name. -/
def FqdnValue.fromRaw [PyUnicode] (value : String) : FqdnValue :=
  ⟨PyUnicode.lower (strip value)⟩

/-- The value of an address operand. -/
inductive AddressValue where
  | span (value : AddressSpan)
  | fqdn (value : FqdnValue)
  deriving DecidableEq

/-- Values with a coverage test, a signature and a display text. -/
class CoverableMatchableObject (α : Type) where
  /-- Whether everything the second value allows the first allows too. -/
  covers : α → α → Bool
  /-- What equal values have in common. -/
  signature : α → List PyAtom
  /-- The value in words. -/
  display : α → String

/-- Coverage of addresses: a range inside a range, or the same domain name. -/
def AddressValue.covers : AddressValue → AddressValue → Bool
  | .span a,.span b => decide (a.start≤b.start) && decide (b.stop≤a.stop)
  | .fqdn a,.fqdn b => decide (a.domain=b.domain)
  | _,_ => false

/-- The signature of an address value. -/
def AddressValue.signature : AddressValue → List PyAtom
  | .span a => [.text "ipv4",.int a.start,.int a.stop]
  | .fqdn a => [.text "fqdn",.text a.domain]

/-- The display text of an address value. -/
def AddressValue.display : AddressValue → String
  | .span a => if a.start=a.stop then dotted a.start else dotted a.start++"-"++dotted a.stop
  | .fqdn a => a.domain

instance : CoverableMatchableObject AddressValue :=
  ⟨AddressValue.covers,AddressValue.signature,AddressValue.display⟩

/-- The protocols that have ports. -/
inductive PortProto where
  | tcp
  | udp
  deriving DecidableEq

/-- The text of a protocol with ports. -/
def PortProto.value : PortProto → String
  | .tcp => "tcp"
  | .udp => "udp"

/-- A nonempty range of ports. -/
structure PortRange where
  /-- The first port. -/
  start : ℕ
  /-- The last port. -/
  stop : ℕ
  /-- Ranges are not empty. -/
  le : start≤ stop
  /-- Ports fit sixteen bits. -/
  le_max : stop≤65535

theorem PortRange.eq_iff {a b : PortRange} : a=b ↔ a.start=b.start ∧ a.stop=b.stop := by
  cases a
  cases b
  simp

instance : DecidableEq PortRange := fun _ _ => decidable_of_iff _ PortRange.eq_iff.symm

/-- The value of a service operand. -/
inductive ServiceValue where
  | any
  | portRange (proto : PortProto) (range : PortRange)
  | icmp (codes : Finset String)
  | ipIp
  deriving DecidableEq

section Text

variable [PyUnicode]

/-- A character of the class that is collapsed: white space, underscore, hyphen. -/
def isSeparator (c : Char) : Bool := PyUnicode.isSpace c || c == '_' || c == '-'

/-- A name trimmed, in lower case, with every run of separators a hyphen. -/
def normalizeText (value : String) : String :=
  String.ofList (collapseRuns isSeparator '-' false (PyUnicode.lower (strip value)).toList)

/-- The value of an ICMP service. -/
def ServiceValue.ofCodes (codes : Option (List String)) : ServiceValue :=
  .icmp ((codes.getD []).map normalizeText).toFinset

end Text

/-- The value of one port range of a service. -/
def ServiceValue.ofRange (proto : PortProto) (start stop : ℤ) : Except String ServiceValue :=
  if h : start<0 ∨ 65535<stop ∨ stop<start then
    .error ("Invalid port range for "++proto.value++": "++toString start++"-"++toString stop)
  else .ok (.portRange proto ⟨start.toNat,stop.toNat,by omega,by omega⟩)

/-- Coverage of services. Any service covers every other. -/
def ServiceValue.covers : ServiceValue → ServiceValue → Bool
  | .any,_ => true
  | _,.any => false
  | .icmp a,.icmp b => decide (b⊆a)
  | .portRange p a,.portRange q b =>
    decide (p=q) && (decide (a.start≤b.start) && decide (b.stop≤a.stop))
  | .ipIp,.ipIp => true
  | _,_ => false

/-- The texts of a set, in order. -/
def sortedTexts (texts : Finset String) : List String := texts.sort (·≤·)

/-- The signature of a service value. -/
def ServiceValue.signature : ServiceValue → List PyAtom
  | .any => [.text "any",.none,.none,.none]
  | .portRange p a => [.text p.value,.int a.start,.int a.stop,.none]
  | .icmp codes => [.text "icmp",.none,.none,.tuple (sortedTexts codes)]
  | .ipIp => [.text "ip_ip",.none,.none,.none]

/-- The display text of a service value. -/
def ServiceValue.display : ServiceValue → String
  | .any => "any"
  | .portRange p a =>
    if a.start=a.stop then p.value++"/"++toString a.start
    else p.value++"/"++toString a.start++"-"++toString a.stop
  | .icmp codes => "icmp/"++",".intercalate (sortedTexts codes)
  | .ipIp => "ip_ip"

instance : CoverableMatchableObject ServiceValue :=
  ⟨ServiceValue.covers,ServiceValue.signature,ServiceValue.display⟩

/-- Signatures tell address values apart. -/
theorem AddressValue.signature_injective : Function.Injective AddressValue.signature := by
  intro a b h
  cases a with
  | span a =>
    cases b with
    | span b =>
      simp only [AddressValue.signature,List.cons.injEq,PyAtom.int.injEq,Nat.cast_inj,
        true_and,and_true] at h
      rw [AddressSpan.eq_iff.mpr h]
    | fqdn b => simp [AddressValue.signature] at h
  | fqdn a =>
    cases b with
    | span b => simp [AddressValue.signature] at h
    | fqdn b =>
      simp only [AddressValue.signature,List.cons.injEq,PyAtom.text.injEq,true_and,
        and_true] at h
      cases a
      cases b
      simp only at h
      rw [h]

/-- Signatures tell service values apart. -/
theorem ServiceValue.signature_injective : Function.Injective ServiceValue.signature := by
  intro a b h
  cases a with
  | any =>
    cases b with
    | any => rfl
    | portRange q b => simp [ServiceValue.signature] at h
    | icmp ds => simp [ServiceValue.signature] at h
    | ipIp => simp [ServiceValue.signature] at h
  | portRange p a =>
    cases b with
    | any => simp [ServiceValue.signature] at h
    | portRange q b =>
      simp only [ServiceValue.signature,List.cons.injEq,PyAtom.text.injEq,PyAtom.int.injEq,
        Nat.cast_inj,and_true] at h
      obtain ⟨hp,hrange⟩ := h
      have hpq : p=q := by cases p <;> cases q <;> simp [PortProto.value] at hp <;> rfl
      rw [hpq,PortRange.eq_iff.mpr hrange]
    | icmp ds => simp [ServiceValue.signature] at h
    | ipIp => simp [ServiceValue.signature] at h
  | icmp cs =>
    cases b with
    | any => simp [ServiceValue.signature] at h
    | portRange q b => simp [ServiceValue.signature] at h
    | icmp ds =>
      simp only [ServiceValue.signature,List.cons.injEq,PyAtom.tuple.injEq,true_and,
        and_true] at h
      have hd : cs=ds := by
        rw [sortedTexts,sortedTexts] at h
        rw [←Finset.sort_toFinset cs (·≤·),h,Finset.sort_toFinset]
      rw [hd]
    | ipIp => simp [ServiceValue.signature] at h
  | ipIp =>
    cases b with
    | any => simp [ServiceValue.signature] at h
    | portRange q b => simp [ServiceValue.signature] at h
    | icmp ds => simp [ServiceValue.signature] at h
    | ipIp => rfl

/-- A point an address operand may stand for: one address or one domain name. -/
inductive AddressPoint where
  | ipv4 (address : ℕ)
  | fqdn (domain : String)
  deriving DecidableEq

/-- The points of an address value. -/
def AddressValue.Denotes : AddressValue → AddressPoint → Prop
  | .span a,.ipv4 n => a.start≤n ∧ n≤a.stop
  | .fqdn a,.fqdn domain => a.domain=domain
  | _,_ => False

instance (value : AddressValue) (point : AddressPoint) : Decidable (value.Denotes point) := by
  cases value <;> cases point <;> unfold AddressValue.Denotes <;> infer_instance

/-- A point a service operand may stand for. Traffic no other service value
describes is a point of any service only. -/
inductive ServicePoint where
  | port (proto : PortProto) (number : ℕ)
  | icmp (code : String)
  | ipIp
  | other (protocol : ℕ)
  deriving DecidableEq

/-- The points of a service value. -/
def ServiceValue.Denotes : ServiceValue → ServicePoint → Prop
  | .any,_ => True
  | .portRange p range,.port q n => p=q ∧ range.start≤n ∧ n≤range.stop
  | .icmp codes,.icmp code => code∈codes
  | .ipIp,.ipIp => True
  | _,_ => False

instance (value : ServiceValue) (point : ServicePoint) : Decidable (value.Denotes point) := by
  cases value <;> cases point <;> unfold ServiceValue.Denotes <;> infer_instance

/-- Coverage of addresses is inclusion of their points. -/
theorem AddressValue.covers_iff (a b : AddressValue) :
    a.covers b=true ↔ ∀ point,b.Denotes point → a.Denotes point := by
  cases a with
  | span a =>
    cases b with
    | span b =>
      simp only [AddressValue.covers,Bool.and_eq_true,decide_eq_true_eq]
      constructor
      · rintro ⟨hs,ht⟩ (n|domain) hp
        · simp only [AddressValue.Denotes] at hp ⊢
          omega
        · exact hp
      · intro h
        exact ⟨(h (.ipv4 b.start) ⟨le_rfl,b.le⟩).1,(h (.ipv4 b.stop) ⟨b.le,le_rfl⟩).2⟩
    | fqdn b =>
      simp only [AddressValue.covers,Bool.false_eq_true,false_iff]
      exact fun h => h (.fqdn b.domain) rfl
  | fqdn a =>
    cases b with
    | span b =>
      simp only [AddressValue.covers,Bool.false_eq_true,false_iff]
      exact fun h => h (.ipv4 b.start) ⟨le_rfl,b.le⟩
    | fqdn b =>
      simp only [AddressValue.covers,decide_eq_true_eq]
      constructor
      · rintro h (n|domain) hp
        · exact hp
        · exact h.trans hp
      · intro h
        exact h (.fqdn b.domain) rfl

/-- A service that covers another has all of its points. -/
theorem ServiceValue.denotes_of_covers {a b : ServiceValue} (h : a.covers b=true)
    {point : ServicePoint} (hp : b.Denotes point) : a.Denotes point := by
  cases a with
  | any => cases point <;> trivial
  | portRange p a =>
    cases b with
    | portRange q b =>
      simp only [ServiceValue.covers,Bool.and_eq_true,decide_eq_true_eq] at h
      cases point with
      | port r n =>
        simp only [ServiceValue.Denotes] at hp ⊢
        exact ⟨h.1.trans hp.1,by omega⟩
      | icmp code => exact hp
      | ipIp => exact hp
      | other n => exact hp
    | any => simp [ServiceValue.covers] at h
    | icmp ds => simp [ServiceValue.covers] at h
    | ipIp => simp [ServiceValue.covers] at h
  | icmp cs =>
    cases b with
    | icmp ds =>
      simp only [ServiceValue.covers,decide_eq_true_eq] at h
      cases point with
      | icmp code => exact h hp
      | port r n => exact hp
      | ipIp => exact hp
      | other n => exact hp
    | any => simp [ServiceValue.covers] at h
    | portRange q b => simp [ServiceValue.covers] at h
    | ipIp => simp [ServiceValue.covers] at h
  | ipIp =>
    cases b with
    | ipIp => exact hp
    | any => simp [ServiceValue.covers] at h
    | portRange q b => simp [ServiceValue.covers] at h
    | icmp ds => simp [ServiceValue.covers] at h

end NspMigrator.ExecuteValues
