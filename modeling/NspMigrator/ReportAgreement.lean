import Mathlib
import NspMigrator.ExecuteCoverageDetails
import NspMigrator.ExecuteExactMatch
import NspMigrator.ReportRules
import NspMigrator.SdwanCatalogReading

/-!
# Reports agree with comparisons

A report writes the values of a rule as texts, by an implementation of its own
that leaves out what it cannot resolve. Read as texts, these name the addresses,
domain names and services of the values the rule was compared by.
-/

namespace NspMigrator.ReportAgreement

open PyDict PyText PyExcept Ipv4 Ipv4Text SdwanModels SdwanAddressGroups SdwanFingerprint
open ExecuteValues ExecuteRuleValues ExecuteRulesComparer ExecuteExactMatch RuleValuesResolver
open ReportRules SdwanSchemas SdwanCatalogReading ExecuteRepository

section Texts

/-- The addresses a text names: those of a network, a single one, or those of a range. -/
def NamesIpv4 (text : String) (n : ℕ) : Prop :=
  (∃ net : Ipv4Network,text=networkText net ∧ net.networkAddress≤n ∧ n≤ net.broadcastAddress) ∨
    (∃ host : Ipv4Address,text=dotted host.toInt ∧ n=host.toInt) ∨
    ∃ start stop : Ipv4Address,text=dotted start.toInt++"-"++dotted stop.toInt ∧
      start.toInt≤n ∧ n≤ stop.toInt

/-- The addresses or the domain name a text names. What names addresses is no domain name. -/
def AddressTextDenotes (text : String) : AddressPoint → Prop
  | .ipv4 n => NamesIpv4 text n
  | .fqdn domain => text=domain ∧ ∀ n,¬NamesIpv4 text n

/-- An address is written in digits and points. -/
theorem digit_or_point {n : ℕ} {c : Char} (h : c∈(dotted n).toList) : c.isDigit=true ∨ c= '.' := by
  have hdigit : ∀ m : ℕ,c∈(toString m).toList → c.isDigit=true :=
    fun m hm => PyText.isDigit_of_mem_toString hm
  have hpoint : c∈".".toList → c= '.' := fun hm => List.mem_singleton.mp hm
  simp only [dotted,String.toList_append,List.mem_append] at h
  rcases h with ((((((h|h)|h)|h)|h)|h)|h)
  · exact Or.inl (hdigit _ h)
  · exact Or.inr (hpoint h)
  · exact Or.inl (hdigit _ h)
  · exact Or.inr (hpoint h)
  · exact Or.inl (hdigit _ h)
  · exact Or.inr (hpoint h)
  · exact Or.inl (hdigit _ h)

theorem notMem_dotted {c : Char} (hdigit : c.isDigit=false) (hpoint : c≠ '.') (n : ℕ) :
    c∉(dotted n).toList := by
  intro h
  rcases digit_or_point h with hc|hc
  · rw [hdigit] at hc
    cases hc
  · exact hpoint hc

theorem slash_notMem_dotted (n : ℕ) : '/'∉(dotted n).toList :=
    notMem_dotted (by decide) (by decide) n

theorem hyphen_notMem_dotted (n : ℕ) : '-'∉(dotted n).toList :=
    notMem_dotted (by decide) (by decide) n

theorem slash_mem_networkText (net : Ipv4Network) : '/'∈(networkText net).toList := by
  simp [networkText,String.toList_append]

theorem slash_notMem_range (a b : ℕ) : '/'∉(dotted a++"-"++dotted b).toList := by
  simp [String.toList_append,slash_notMem_dotted]

theorem hyphen_mem_range (a b : ℕ) : '-'∈(dotted a++"-"++dotted b).toList := by
  simp [String.toList_append]

/-- The text of a range tells its ends. -/
theorem range_inj {a b c d : Ipv4Address}
    (h : dotted a.toInt++"-"++dotted b.toInt=dotted c.toInt++"-"++dotted d.toInt) : a=c ∧ b=d := by
  have hchars : ∀ x y : ℕ,(dotted x++"-"++dotted y).toList=
      (dotted x).toList++ '-'::(dotted y).toList := by
    intro x y
    simp [String.toList_append]
  have hsplit : (dotted a.toInt).toList++ '-'::(dotted b.toInt).toList=
      (dotted c.toInt).toList++ '-'::(dotted d.toInt).toList := by
    rw [←hchars,h,hchars]
  obtain ⟨hfirst,hlast⟩ := PyText.append_separator_inj (hyphen_notMem_dotted _)
    (hyphen_notMem_dotted _) hsplit
  exact ⟨dotted_injective (String.toList_inj.mp hfirst),
    dotted_injective (String.toList_inj.mp hlast)⟩

/-- What holds another character names no address. -/
theorem not_namesIpv4_of_mem {text : String} {c : Char} (h : c∈text.toList)
    (hdigit : c.isDigit=false) (hother : c∉['.','/','-']) (n : ℕ) : ¬NamesIpv4 text n := by
  have hdotted : ∀ m : ℕ,c∉(dotted m).toList :=
    notMem_dotted hdigit fun heq => hother (heq▸List.mem_cons_self)
  rintro (⟨net,rfl,-⟩|⟨host,rfl,-⟩|⟨start,stop,rfl,-⟩)
  · simp only [networkText,String.toList_append,List.mem_append] at h
    rcases h with (h|h)|h
    · exact hdotted _ h
    · rw [List.mem_singleton.mp h] at hother
      exact hother (by decide)
    · rw [PyText.isDigit_of_mem_toString h] at hdigit
      cases hdigit
  · exact hdotted _ h
  · simp only [String.toList_append,List.mem_append] at h
    rcases h with (h|h)|h
    · exact hdotted _ h
    · rw [List.mem_singleton.mp h] at hother
      exact hother (by decide)
    · exact hdotted _ h

/-- The text of a network names its addresses. -/
theorem namesIpv4_network {net : Ipv4Network} {n : ℕ} :
    NamesIpv4 (networkText net) n ↔ net.networkAddress≤n ∧ n≤ net.broadcastAddress := by
  constructor
  · rintro (⟨other,heq,hn⟩|⟨host,heq,-⟩|⟨start,stop,heq,-⟩)
    · rw [networkText_injective heq]
      exact hn
    · exact absurd (heq▸slash_mem_networkText net) (slash_notMem_dotted _)
    · exact absurd (heq▸slash_mem_networkText net) (slash_notMem_range _ _)
  · exact fun hn => Or.inl ⟨net,rfl,hn⟩

/-- The text of an address names it. -/
theorem namesIpv4_host {host : Ipv4Address} {n : ℕ} :
    NamesIpv4 (dotted host.toInt) n ↔ n=host.toInt := by
  constructor
  · rintro (⟨net,heq,-⟩|⟨other,heq,hn⟩|⟨start,stop,heq,-⟩)
    · exact absurd (heq▸slash_mem_networkText net) (slash_notMem_dotted _)
    · rw [hn,dotted_injective heq]
    · exact absurd (heq▸hyphen_mem_range start.toInt stop.toInt) (hyphen_notMem_dotted _)
  · exact fun hn => Or.inr (Or.inl ⟨host,rfl,hn⟩)

/-- The text of a range names its addresses. -/
theorem namesIpv4_range {start stop : Ipv4Address} {n : ℕ} :
    NamesIpv4 (dotted start.toInt++"-"++dotted stop.toInt) n ↔
      start.toInt≤n ∧ n≤ stop.toInt := by
  constructor
  · rintro (⟨net,heq,-⟩|⟨host,heq,-⟩|⟨first,last,heq,hn⟩)
    · exact absurd (heq▸slash_mem_networkText net) (slash_notMem_range _ _)
    · exact absurd (heq▸hyphen_mem_range start.toInt stop.toInt) (hyphen_notMem_dotted _)
    · obtain ⟨rfl,rfl⟩ := range_inj heq
      exact hn
  · exact fun hn => Or.inr (Or.inr ⟨start,stop,rfl,hn⟩)

/-- The values of the texts of ranges of addresses. -/
theorem denotes_span {text : String} {span : AddressSpan}
    (h : ∀ n,NamesIpv4 text n ↔ span.start≤n ∧ n≤ span.stop) (point : AddressPoint) :
    AddressTextDenotes text point ↔ (AddressValue.span span).Denotes point := by
  cases point with
  | ipv4 n => exact h n
  | fqdn domain =>
    constructor
    · rintro ⟨-,hnone⟩
      exact absurd ((h span.start).mpr ⟨le_rfl,span.le⟩) (hnone _)
    · exact fun hfalse => hfalse.elim

/-- Ports of a protocol, as they are written. -/
def PortText (proto : PortProto) (start stop : ℕ) (text : String) : Prop :=
  (start=stop ∧ text=proto.value++"/"++toString start) ∨
    text=proto.value++"/"++toString start++"-"++toString stop

theorem toString_inj {m n : ℕ} (h : toString m=toString n) : m=n := Nat.repr_injective h

/-- Ports are written in one way. -/
theorem PortText.unique {p q : PortProto} {a b c d : ℕ} {text : String}
    (h : PortText p a b text) (hother : PortText q c d text) : p=q ∧ a=c ∧ b=d := by
  have hchars : ∀ x y : ℕ,(toString x++("-"++toString y)).toList=
      (toString x).toList++ '-'::(toString y).toList := by
    intro x y
    simp [String.toList_append]
  have hone : ∀ x y z : ℕ,toString x≠toString y++("-"++toString z) := by
    intro x y z heq
    refine PyText.hyphen_notMem_toString x ?_
    rw [heq,hchars]
    exact List.mem_append_right _ List.mem_cons_self
  have htwo : ∀ x y z w : ℕ,toString x++("-"++toString y)=toString z++("-"++toString w) →
      x=z ∧ y=w := by
    intro x y z w heq
    have hsplit := congrArg String.toList heq
    rw [hchars,hchars] at hsplit
    obtain ⟨hfirst,hlast⟩ := PyText.append_separator_inj (PyText.hyphen_notMem_toString _)
      (PyText.hyphen_notMem_toString _) hsplit
    exact ⟨toString_inj (String.toList_inj.mp hfirst),toString_inj (String.toList_inj.mp hlast)⟩
  have hproto : ∀ x y : String,p.value++("/"++x)=q.value++("/"++y) → p=q ∧ x=y := by
    intro x y heq
    cases p with
    | tcp =>
      cases q with
      | tcp => simpa using heq
      | udp => exact absurd (congrArg (fun s => s.toList.head?) heq) (by simp [PortProto.value])
    | udp =>
      cases q with
      | tcp => exact absurd (congrArg (fun s => s.toList.head?) heq) (by simp [PortProto.value])
      | udp => simpa using heq
  rcases h with ⟨hab,htext⟩|htext
  · rcases hother with ⟨hcd,hother⟩|hother
    · rw [htext] at hother
      simp only [String.append_assoc] at hother
      obtain ⟨hpq,hac⟩ := hproto _ _ hother
      have heq := toString_inj hac
      exact ⟨hpq,heq,by omega⟩
    · rw [htext] at hother
      simp only [String.append_assoc] at hother
      exact absurd (hproto _ _ hother).2 (hone _ _ _)
  · rcases hother with ⟨hcd,hother⟩|hother
    · rw [htext] at hother
      simp only [String.append_assoc] at hother
      exact absurd (hproto _ _ hother).2.symm (hone _ _ _)
    · rw [htext] at hother
      simp only [String.append_assoc] at hother
      obtain ⟨hpq,hrest⟩ := hproto _ _ hother
      exact ⟨hpq,htwo _ _ _ _ hrest⟩

/-- Codes of ICMP, as they are written. -/
def CodesText (codes : List String) (text : String) : Prop :=
  (∀ code∈codes,','∉code.toList) ∧ text="icmp/"++",".intercalate codes

/-- Codes are written in one way, unless there are none. -/
theorem CodesText.unique {codes others : List String} {text : String} (h : CodesText codes text)
    (hother : CodesText others text) (hcodes : codes≠[]) (hothers : others≠[]) : codes=others := by
  have hsplit : ∀ codes : List String,(∀ code∈codes,','∉code.toList) → codes≠[] →
      (",".intercalate codes).toList.splitOn ','=codes.map String.toList := by
    intro codes hfree hne
    rw [String.toList_intercalate]
    refine List.splitOn_intercalate ',' ?_ (by simpa using hne)
    intro chars hchars
    obtain ⟨code,hcode,rfl⟩ := List.mem_map.mp hchars
    exact hfree code hcode
  have heq := h.2.symm.trans hother.2
  rw [String.append_right_inj] at heq
  have hmap : codes.map String.toList=others.map String.toList := by
    rw [←hsplit codes h.1 hcodes,heq,hsplit others hother.1 hothers]
  exact List.map_injective_iff.mpr (fun a b hab => String.toList_inj.mp hab) hmap

/-- The first letter tells the kinds of service texts apart. -/
theorem head?_portText {proto : PortProto} {start stop : ℕ} {text : String}
    (h : PortText proto start stop text) :
    text.toList.head?=some 't' ∨ text.toList.head?=some 'u' := by
  rcases h with ⟨-,rfl⟩|rfl
  · cases proto with
    | tcp => simp [PortProto.value]
    | udp => simp [PortProto.value]
  · cases proto with
    | tcp => simp [PortProto.value]
    | udp => simp [PortProto.value]

theorem head?_codesText {codes : List String} {text : String} (h : CodesText codes text) :
    ∃ rest,text.toList= 'i':: 'c'::rest := by
  rw [h.2]
  exact ⟨_,by rw [String.toList_append]; rfl⟩

section Names

variable [PyUnicode]

/-- The services a text names: every service, ports of a protocol, codes of ICMP, or IP in IP. -/
def ServiceTextDenotes (text : String) (point : ServicePoint) : Prop :=
  text="any" ∨ match point with
    | .port proto n => ∃ start stop : ℕ,PortText proto start stop text ∧ start≤n ∧ n≤ stop
    | .icmp code => ∃ codes,CodesText codes text ∧ ∃ raw∈codes,normalizeText raw=code
    | .ipIp => text="ip_ip"
    | .other _ => False

/-- The text of ports names them. -/
theorem denotes_portText {proto : PortProto} {range : PortRange} {text : String}
    (h : PortText proto range.start range.stop text) (point : ServicePoint) :
    ServiceTextDenotes text point ↔ (ServiceValue.portRange proto range).Denotes point := by
  have hhead := head?_portText h
  have hany : text≠"any" := by
    rintro rfl
    simp at hhead
  cases point with
  | port q n =>
    constructor
    · rintro (htext|⟨start,stop,hother,hn⟩)
      · exact absurd htext hany
      · obtain ⟨hproto,hstart,hstop⟩ := h.unique hother
        exact ⟨hproto,by omega,by omega⟩
    · rintro ⟨rfl,hn⟩
      exact Or.inr ⟨range.start,range.stop,h,hn⟩
  | icmp code =>
    constructor
    · rintro (htext|⟨codes,hcodes,-⟩)
      · exact absurd htext hany
      · obtain ⟨rest,hrest⟩ := head?_codesText hcodes
        rw [hrest] at hhead
        simp at hhead
    · exact fun hfalse => hfalse.elim
  | ipIp =>
    constructor
    · rintro (htext|rfl)
      · exact absurd htext hany
      · simp at hhead
    · exact fun hfalse => hfalse.elim
  | other protocol =>
    constructor
    · rintro (htext|hfalse)
      · exact absurd htext hany
      · exact hfalse.elim
    · exact fun hfalse => hfalse.elim

/-- The text of codes names them. -/
theorem denotes_codesText {codes : List String} {text : String} (h : CodesText codes text)
    (hcodes : codes≠[]) (point : ServicePoint) :
    ServiceTextDenotes text point ↔
      (ServiceValue.icmp (codes.map normalizeText).toFinset).Denotes point := by
  obtain ⟨rest,hrest⟩ := head?_codesText h
  have hany : text≠"any" := by
    rintro rfl
    simp at hrest
  cases point with
  | port q n =>
    constructor
    · rintro (htext|⟨start,stop,hother,-⟩)
      · exact absurd htext hany
      · have hhead := head?_portText hother
        rw [hrest] at hhead
        simp at hhead
    · exact fun hfalse => hfalse.elim
  | icmp code =>
    show _ ↔ code∈(codes.map normalizeText).toFinset
    rw [List.mem_toFinset,List.mem_map]
    constructor
    · rintro (htext|⟨others,hothers,raw,hraw,hcode⟩)
      · exact absurd htext hany
      · rw [h.unique hothers hcodes (List.ne_nil_of_mem hraw)]
        exact ⟨raw,hraw,hcode⟩
    · rintro ⟨raw,hraw,hcode⟩
      exact Or.inr ⟨codes,h,raw,hraw,hcode⟩
  | ipIp =>
    constructor
    · rintro (htext|rfl)
      · exact absurd htext hany
      · simp at hrest
    · exact fun hfalse => hfalse.elim
  | other protocol =>
    constructor
    · rintro (htext|hfalse)
      · exact absurd htext hany
      · exact hfalse.elim
    · exact fun hfalse => hfalse.elim

/-- The text of any service names every service. -/
theorem denotes_any (point : ServicePoint) :
    ServiceTextDenotes "any" point ↔ ServiceValue.any.Denotes point :=
  ⟨fun _ => by cases point <;> trivial,fun _ => Or.inl rfl⟩

/-- The text of IP in IP names it. -/
theorem denotes_ipIp (point : ServicePoint) :
    ServiceTextDenotes "ip_ip" point ↔ ServiceValue.ipIp.Denotes point := by
  cases point with
  | port q n =>
    constructor
    · rintro (htext|⟨start,stop,hother,-⟩)
      · exact absurd htext (by decide)
      · have hhead := head?_portText hother
        simp at hhead
    · exact fun hfalse => hfalse.elim
  | icmp code =>
    constructor
    · rintro (htext|⟨codes,hcodes,-⟩)
      · exact absurd htext (by decide)
      · obtain ⟨rest,hrest⟩ := head?_codesText hcodes
        simp at hrest
    · exact fun hfalse => hfalse.elim
  | ipIp => exact ⟨fun _ => trivial,fun _ => Or.inr rfl⟩
  | other protocol =>
    constructor
    · rintro (htext|hfalse)
      · exact absurd htext (by decide)
      · exact hfalse.elim
    · exact fun hfalse => hfalse.elim

end Names

end Texts

section Leaves

variable [PyUnicode]

/-- The domain name of an object is not blank, and is not written like addresses. -/
def ReadableFqdn (object : SdwanAddrObject) : Prop :=
  object.type=.fqdn → ∀ raw,object.fqdn=some raw →
    strip raw≠"" ∧ ∀ n,¬NamesIpv4 (PyUnicode.lower (strip raw)) n

/-- The ICMP codes of a service are told apart by commas. -/
def ReadableCodes (service : SdwanService) : Prop :=
  ∀ code∈service.codes.getD [],','∉code.toList

omit [PyUnicode] in
/-- The codes of a validated service are known ones. -/
theorem codes_of_modelValidate {fields : JsonFields} {service : ServiceData}
    (h : ServiceData.modelValidate fields=.ok service) :
    ∀ code∈service.codes.getD [],code∈icmpCodes := by
  obtain ⟨name,-,h⟩ := bind_eq_ok.mp h
  obtain ⟨l4Proto,-,h⟩ := bind_eq_ok.mp h
  obtain ⟨items,-,h⟩ := bind_eq_ok.mp h
  obtain ⟨ranges,-,h⟩ := bind_eq_ok.mp h
  obtain ⟨codes,hcodes,h⟩ := bind_eq_ok.mp h
  obtain ⟨-,-,h⟩ := bind_eq_ok.mp h
  obtain rfl := pure_eq_ok.mp h
  unfold SdwanSchemas.optional at hcodes
  split at hcodes
  · cases hcodes
    exact fun code hcode => absurd hcode List.not_mem_nil
  · cases hcodes
    exact fun code hcode => absurd hcode List.not_mem_nil
  · next value _ _ =>
    cases hread : readCodes value with
    | none =>
      rw [hread] at hcodes
      cases hcodes
    | some found =>
      rw [hread] at hcodes
      cases hcodes
      obtain ⟨listed,-,hlisted⟩ := Option.bind_eq_some_iff.mp hread
      by_cases hknown : ∀ code∈listed,code∈icmpCodes
      · rw [if_pos hknown] at hlisted
        cases hlisted
        exact hknown
      · rw [if_neg hknown] at hlisted
        cases hlisted

omit [PyUnicode] in
/-- The codes of the services of a controller are told apart by commas. -/
theorem readableCodes_of_catalog {server : SdwanServer} {catalog : SdwanFullCatalog}
    (h : getSdwanFullCatalog server=.ok catalog) :
    ∀ service∈catalog.services,ReadableCodes service := by
  obtain ⟨services,hservices,h⟩ := bind_eq_ok.mp h
  obtain ⟨addrObjs,-,h⟩ := bind_eq_ok.mp h
  obtain ⟨networks,-,h⟩ := bind_eq_ok.mp h
  obtain rfl := pure_eq_ok.mp h
  intro service hservice code hcode
  obtain ⟨listed,hlisted,hconvert⟩ := bind_eq_ok.mp hservices
  obtain ⟨found,hfound,hservice⟩ := exists_of_mem_mapM hconvert hservice
  obtain ⟨stored,-,hstored⟩ := exists_of_mem_mapM (mapError_eq_ok.mp hlisted) hfound
  obtain ⟨data,hdata,hpair⟩ := bind_eq_ok.mp hstored
  obtain rfl := pure_eq_ok.mp hpair
  have hknown : ∀ code∈icmpCodes,','∉code.toList := by decide
  refine hknown code (codes_of_modelValidate hdata code ?_)
  unfold toSdwanService at hservice
  dsimp only at hservice
  split at hservice
  · split at hservice
    · cases hservice
      exact hcode
    · cases hservice
  · cases hservice

/-- A leaf that has a value has a text, which denotes that value. -/
theorem addressValue_denotes {object : SdwanAddrObject} {value : AddressValue}
    (hvalue : addressValueFromLeaf object=.ok value) (hfqdn : ReadableFqdn object) :
    ∃ text,addressValue object=some text ∧
      ∀ point,AddressTextDenotes text point ↔ value.Denotes point := by
  unfold addressValueFromLeaf at hvalue
  unfold addressValue
  unfold ReadableFqdn at hfqdn
  cases htype : object.type with
  | prefixNet =>
    rw [htype] at hvalue
    cases hnet : object.prefixNet with
    | none =>
      rw [hnet] at hvalue
      cases hvalue
    | some net =>
      rw [hnet] at hvalue
      cases hvalue
      exact ⟨_,rfl,denotes_span fun n => namesIpv4_network⟩
  | network =>
    rw [htype] at hvalue
    cases hnet : object.network with
    | none =>
      rw [hnet] at hvalue
      cases hvalue
    | some net =>
      rw [hnet] at hvalue
      cases hvalue
      exact ⟨_,rfl,denotes_span fun n => namesIpv4_network⟩
  | host =>
    rw [htype] at hvalue
    cases hhost : object.host with
    | none =>
      rw [hhost] at hvalue
      cases hvalue
    | some host =>
      rw [hhost] at hvalue
      cases hvalue
      refine ⟨_,rfl,denotes_span fun n => ?_⟩
      rw [namesIpv4_host]
      show n=host.toInt ↔ host.toInt≤n ∧ n≤host.toInt
      omega
  | ipRange =>
    rw [htype] at hvalue
    cases hstart : object.ipRangeFrom with
    | none =>
      rw [hstart] at hvalue
      cases hvalue
    | some start =>
      cases hstop : object.ipRangeTo with
      | none =>
        rw [hstart,hstop] at hvalue
        cases hvalue
      | some stop =>
        rw [hstart,hstop] at hvalue
        obtain ⟨span,hspan,rfl⟩ := map_eq_ok.mp hvalue
        unfold AddressSpan.fromRange at hspan
        by_cases hle : start.toInt≤ stop.toInt
        · rw [dif_pos hle] at hspan
          cases hspan
          exact ⟨_,rfl,denotes_span fun n => namesIpv4_range⟩
        · rw [dif_neg hle] at hspan
          cases hspan
  | fqdn =>
    rw [htype] at hvalue
    cases hraw : object.fqdn with
    | none =>
      rw [hraw] at hvalue
      cases hvalue
    | some raw =>
      rw [hraw] at hvalue
      cases hvalue
      obtain ⟨hblank,hnone⟩ := hfqdn htype raw hraw
      have hne : raw≠"" := by
        rintro rfl
        exact hblank rfl
      refine ⟨PyUnicode.lower (strip raw),if_neg hne,fun point => ?_⟩
      cases point with
      | ipv4 n => exact ⟨fun hn => hnone n hn,fun hfalse => hfalse.elim⟩
      | fqdn domain => exact ⟨fun hd => hd.1,fun hd => ⟨hd,hnone⟩⟩
  | addrGroup =>
    rw [htype] at hvalue
    cases hvalue

omit [PyUnicode] in
/-- The text of a range of ports that has a value. -/
theorem portText_of_ofRange {proto : PortProto} {range : ℤ × ℤ} {value : ServiceValue}
    (h : ServiceValue.ofRange proto range.1 range.2=.ok value) :
    ∃ ports : PortRange,value=.portRange proto ports ∧ PortText proto ports.start ports.stop
      (if range.1=range.2 then proto.value++"/"++toString range.1
        else proto.value++"/"++toString range.1++"-"++toString range.2) := by
  unfold ServiceValue.ofRange at h
  by_cases hbad : range.1<0 ∨ 65535<range.2 ∨ range.2<range.1
  · rw [dif_pos hbad] at h
    cases h
  · rw [dif_neg hbad] at h
    cases h
    obtain ⟨start,hstart⟩ : ∃ n : ℕ,range.1=n := ⟨range.1.toNat,by omega⟩
    obtain ⟨stop,hstop⟩ : ∃ n : ℕ,range.2=n := ⟨range.2.toNat,by omega⟩
    refine ⟨_,rfl,?_⟩
    simp only [hstart,hstop,Int.toNat_natCast]
    by_cases heq : (start : ℤ)=stop
    · rw [if_pos heq]
      exact Or.inl ⟨by omega,rfl⟩
    · rw [if_neg heq]
      exact Or.inr rfl

/-- The texts of the port ranges of a service denote its values. -/
theorem portTexts_denote {proto : PortProto} {service : SdwanService} {values : List ServiceValue}
    (hvalues : serviceValues.ports service proto=.ok values) {texts : List String}
    (htexts : texts=(service.ranges.getD []).map fun range =>
      if range.1=range.2 then proto.value++"/"++toString range.1
      else proto.value++"/"++toString range.1++"-"++toString range.2) :
    texts≠[] ∧ ∀ point,(∃ text∈texts,ServiceTextDenotes text point) ↔
      ∃ value∈values,value.Denotes point := by
  unfold serviceValues.ports at hvalues
  cases hranges : service.ranges.getD [] with
  | nil =>
    rw [hranges] at hvalues
    cases hvalues
  | cons first rest =>
    rw [hranges] at hvalues htexts
    dsimp only at hvalues
    subst htexts
    refine ⟨List.cons_ne_nil _ _,fun point => ?_⟩
    constructor
    · rintro ⟨text,htext,hdenotes⟩
      obtain ⟨range,hrange,rfl⟩ := List.mem_map.mp htext
      obtain ⟨value,hvalue,hok⟩ := exists_of_mapM_eq_ok hvalues hrange
      obtain ⟨ports,rfl,hports⟩ := portText_of_ofRange hok
      exact ⟨_,hvalue,(denotes_portText hports point).mp hdenotes⟩
    · rintro ⟨value,hvalue,hdenotes⟩
      obtain ⟨range,hrange,hok⟩ := exists_of_mem_mapM hvalues hvalue
      obtain ⟨ports,rfl,hports⟩ := portText_of_ofRange hok
      exact ⟨_,List.mem_map_of_mem hrange,(denotes_portText hports point).mpr hdenotes⟩

/-- A service that has values has texts, which denote those values. -/
theorem serviceTexts_denotes {service : SdwanService} {values : List ServiceValue}
    (hvalues : serviceValues service=.ok values) (hcodes : ReadableCodes service) :
    serviceTexts service≠[] ∧ ∀ point,(∃ text∈serviceTexts service,ServiceTextDenotes text point) ↔
      ∃ value∈values,value.Denotes point := by
  have hone : ∀ (text : String) (value : ServiceValue),
      (∀ point,ServiceTextDenotes text point ↔ value.Denotes point) →
      [text]≠[] ∧ ∀ point,(∃ found∈[text],ServiceTextDenotes found point) ↔
        ∃ found∈[value],found.Denotes point := by
    intro text value hdenotes
    refine ⟨List.cons_ne_nil _ _,fun point => ?_⟩
    simp only [List.mem_singleton,exists_eq_left]
    exact hdenotes point
  unfold serviceValues at hvalues
  unfold serviceTexts
  cases htype : service.l4Proto with
  | tcp =>
    rw [htype] at hvalues
    exact portTexts_denote hvalues rfl
  | udp =>
    rw [htype] at hvalues
    exact portTexts_denote hvalues rfl
  | icmp =>
    rw [htype] at hvalues
    cases hvalues
    refine hone _ _ fun point => ?_
    have hperm := List.perm_insertionSort (·≤·) (service.codes.getD [])
    have hwritten : CodesText ((service.codes.getD []).insertionSort (·≤·))
        ("icmp/"++",".intercalate ((service.codes.getD []).insertionSort (·≤·))) :=
      ⟨fun code hcode => hcodes code (hperm.mem_iff.mp hcode),rfl⟩
    have hne : (service.codes.getD []).insertionSort (·≤·)≠[] := by
      intro hnil
      rw [hnil] at hperm
      exact service.codes_ne htype hperm.nil_eq.symm
    rw [denotes_codesText hwritten hne,ServiceValue.ofCodes,
      List.toFinset_eq_of_perm _ _ (hperm.map normalizeText)]
  | any =>
    rw [htype] at hvalues
    cases hvalues
    exact hone _ _ denotes_any
  | ipIp =>
    rw [htype] at hvalues
    cases hvalues
    exact hone _ _ denotes_ipIp

/-- The texts of address operands denote what their values denote. -/
def SameAddresses (texts : List String) (values : Finset AddressValue) : Prop :=
  ∀ point,(∃ text∈texts,AddressTextDenotes text point) ↔ ∃ value∈values,value.Denotes point

/-- The texts of service operands denote what their values denote. -/
def SameServices (texts : List String) (values : Finset ServiceValue) : Prop :=
  ∀ point,(∃ text∈texts,ServiceTextDenotes text point) ↔ ∃ value∈values,value.Denotes point

/-- Every leaf of every address operand has its text. -/
def AddressesShown (catalog : SdwanFullCatalog) (ids : List ℤ) (texts : List String) : Prop :=
  ∀ id∈ids,∃ leaves,
    (SDWANAddressGroupLeavesResolver.ofObjects catalog.addrObjs).resolveLeaves id=.ok leaves ∧
      leaves≠[] ∧ ∀ leaf∈leaves,∃ text∈texts,addressValue leaf=some text

/-- Every service operand has its texts. -/
def ServicesShown (catalog : SdwanFullCatalog) (ids : List ℤ) (texts : List String) : Prop :=
  ∀ id∈ids,∃ service,
    (Dict.ofList (catalog.services.map fun service => (service.id,service))).get? id=some service ∧
      serviceTexts service≠[] ∧ serviceTexts service⊆ texts

/-- The names of zones are those of all zone operands, in order. -/
def ZonesNamed (catalog : SdwanFullCatalog) (ids : List ℤ) (names : List String) : Prop :=
  List.Forall₂ (fun id name => ∃ zone,
    (Dict.ofList (catalog.zones.map fun zone => (zone.id,zone))).get? id=some zone ∧
      zone.name=name) ids names

/-- A row of a report agrees with the values a rule is compared by. -/
structure RowAgrees (catalog : SdwanFullCatalog) (rule : SaveReportRuleCommand)
    (values : NormalizedRuleValues) : Prop where
  /-- The source addresses are the same. -/
  src : SameAddresses (resolve catalog rule).srcAddrValues values.srcAddresses
  /-- So are the destination addresses. -/
  dst : SameAddresses (resolve catalog rule).dstAddrValues values.dstAddresses
  /-- So are the services. -/
  services : SameServices (resolve catalog rule).serviceValues values.services
  /-- The source values are those of the source objects. -/
  srcShown : AddressesShown catalog rule.draft.srcAddrObjects (resolve catalog rule).srcAddrValues
  /-- The destination values are those of the destination objects. -/
  dstShown : AddressesShown catalog rule.draft.dstAddrObjects (resolve catalog rule).dstAddrValues
  /-- The service values are those of the services. -/
  servicesShown : ServicesShown catalog rule.draft.services (resolve catalog rule).serviceValues
  /-- The source zones are named. -/
  srcZones : ZonesNamed catalog rule.draft.srcZones (resolve catalog rule).srcZoneNames
  /-- The destination zones are named. -/
  dstZones : ZonesNamed catalog rule.draft.dstZones (resolve catalog rule).dstZoneNames

/-- The resolver a rule is compared by. -/
def comparing (catalog : SdwanFullCatalog) : RuleValuesResolver :=
  .ofObjects catalog.zones catalog.services catalog.addrObjs

variable {catalog : SdwanFullCatalog}

omit [PyUnicode] in
/-- What is found by number is one of the objects. -/
theorem mem_of_get?_byId {α : Type} {items : List α} {number : α → ℤ} {id : ℤ} {item : α}
    (h : (Dict.ofList (items.map fun item => (number item,item))).get? id=some item) :
    item∈items := by
  obtain ⟨found,hfound,heq⟩ := List.mem_map.mp (Dict.mem_of_get?_ofList h)
  obtain ⟨-,rfl⟩ := Prod.mk.inj heq
  exact hfound

omit [PyUnicode] in
/-- Resolving gives some leaf. -/
theorem ne_nil_of_resolveLeavesAt {resolver : SDWANAddressGroupLeavesResolver} {remaining : ℕ}
    {id : ℤ} {leaves : List SdwanAddrObject}
    (h : resolver.resolveLeavesAt remaining id=.ok leaves) : leaves≠[] := by
  unfold SDWANAddressGroupLeavesResolver.resolveLeavesAt at h
  cases hobject : resolver.objectsById.get? id with
  | none =>
    rw [hobject] at h
    cases h
  | some object =>
    rw [hobject] at h
    dsimp only at h
    by_cases htype : object.type=.addrGroup
    · rw [if_neg (not_not.mpr htype)] at h
      cases remaining with
      | zero => cases h
      | succ remaining =>
        dsimp only at h
        split at h
        · cases h
        · obtain ⟨lists,-,hrest⟩ := bind_eq_ok.mp h
          by_cases hempty : lists.flatten=[]
          · rw [if_pos hempty] at hrest
            cases hrest
          · rw [if_neg hempty] at hrest
            cases hrest
            exact hempty
    · rw [if_pos htype] at h
      cases h
      exact List.cons_ne_nil _ _

/-- Address operands that have values are written whole, with texts that denote these values. -/
theorem addresses_agree (hfqdns : ∀ object∈catalog.addrObjs,ReadableFqdn object) {ids : List ℤ}
    {values : List (ResolvedCoverageValue AddressValue)}
    (h : (comparing catalog).resolveAddressValues ids=.ok values) :
    SameAddresses (ReportRules.resolveAddressValues catalog ids) (valueSet values) ∧
      AddressesShown catalog ids (ReportRules.resolveAddressValues catalog ids) := by
  obtain ⟨lists,hlists,-⟩ := bind_eq_ok.mp h
  -- every operand has leaves, and every leaf a value and a text
  have hoperand : ∀ id∈ids,∃ leaves,
      (SDWANAddressGroupLeavesResolver.ofObjects catalog.addrObjs).resolveLeaves id=.ok leaves ∧
        ∀ leaf∈leaves,∃ value text,addressValueFromLeaf leaf=.ok value ∧
          addressValue leaf=some text ∧
          ∀ point,AddressTextDenotes text point ↔ value.Denotes point := by
    intro id hid
    obtain ⟨resolved,-,hresolved⟩ := exists_of_mapM_eq_ok hlists hid
    obtain ⟨leaves,hleaves,hmap⟩ := bind_eq_ok.mp hresolved
    refine ⟨leaves,hleaves,fun leaf hleaf => ?_⟩
    obtain ⟨_,-,hvalue⟩ := exists_of_mapM_eq_ok hmap hleaf
    obtain ⟨value,hvalue,-⟩ := bind_eq_ok.mp hvalue
    obtain ⟨key,hkey⟩ := ExecuteCoverageDetails.get?_of_mem_resolveLeavesAt hleaves hleaf
    obtain ⟨text,htext,hdenotes⟩ :=
      addressValue_denotes hvalue (hfqdns leaf (mem_of_get?_byId hkey))
    exact ⟨value,text,hvalue,htext,hdenotes⟩
  have htexts : ∀ text,text∈ReportRules.resolveAddressValues catalog ids ↔ ∃ id∈ids,∃ leaves,
      (SDWANAddressGroupLeavesResolver.ofObjects catalog.addrObjs).resolveLeaves id=.ok leaves ∧
        ∃ leaf∈leaves,addressValue leaf=some text := by
    intro text
    rw [ReportRules.resolveAddressValues,List.mem_flatMap]
    constructor
    · rintro ⟨id,hid,htext⟩
      obtain ⟨leaves,hleaves,-⟩ := hoperand id hid
      rw [hleaves] at htext
      exact ⟨id,hid,leaves,hleaves,List.mem_filterMap.mp htext⟩
    · rintro ⟨id,hid,leaves,hleaves,htext⟩
      refine ⟨id,hid,?_⟩
      rw [hleaves]
      exact List.mem_filterMap.mpr htext
  constructor
  · intro point
    have hset := coe_valueSet_addresses h
    have hmem : ∀ value,value∈valueSet values ↔
        value∈operandAddresses (comparing catalog) ids := by
      intro value
      rw [←hset]
      exact Finset.mem_coe.symm
    constructor
    · rintro ⟨text,htext,hdenotes⟩
      obtain ⟨id,hid,leaves,hleaves,leaf,hleaf,hvalue⟩ := (htexts text).mp htext
      obtain ⟨leaves',hleaves',hall⟩ := hoperand id hid
      obtain rfl := Except.ok.inj (hleaves.symm.trans hleaves')
      obtain ⟨value,text',hfrom,htext',hsame⟩ := hall leaf hleaf
      obtain rfl := Option.some.inj (hvalue.symm.trans htext')
      exact ⟨value,(hmem value).mpr ⟨id,hid,leaves,hleaves,leaf,hleaf,hfrom⟩,
        (hsame point).mp hdenotes⟩
    · rintro ⟨value,hvalue,hdenotes⟩
      obtain ⟨id,hid,leaves,hleaves,leaf,hleaf,hfrom⟩ := (hmem value).mp hvalue
      obtain ⟨leaves',hleaves',hall⟩ := hoperand id hid
      obtain rfl := Except.ok.inj (hleaves.symm.trans hleaves')
      obtain ⟨value',text,hfrom',htext,hsame⟩ := hall leaf hleaf
      obtain rfl := Except.ok.inj (hfrom.symm.trans hfrom')
      exact ⟨text,(htexts text).mpr ⟨id,hid,leaves,hleaves,leaf,hleaf,htext⟩,
        (hsame point).mpr hdenotes⟩
  · intro id hid
    obtain ⟨leaves,hleaves,hall⟩ := hoperand id hid
    refine ⟨leaves,hleaves,ne_nil_of_resolveLeavesAt hleaves,fun leaf hleaf => ?_⟩
    obtain ⟨value,text,-,htext,-⟩ := hall leaf hleaf
    exact ⟨text,(htexts text).mpr ⟨id,hid,leaves,hleaves,leaf,hleaf,htext⟩,htext⟩

/-- Service operands that have values are written whole, with texts that denote these values. -/
theorem services_agree (hcodes : ∀ service∈catalog.services,ReadableCodes service) {ids : List ℤ}
    {values : List (ResolvedCoverageValue ServiceValue)}
    (h : (comparing catalog).resolveServiceValues ids=.ok values) :
    SameServices (ReportRules.resolveServiceValues catalog ids) (valueSet values) ∧
      ServicesShown catalog ids (ReportRules.resolveServiceValues catalog ids) := by
  obtain ⟨lists,hlists,-⟩ := bind_eq_ok.mp h
  -- every operand is a service with values and texts
  have hoperand : ∀ id∈ids,∃ service found,(comparing catalog).servicesById.get? id=some service ∧
      serviceValues service=.ok found ∧ serviceTexts service≠[] ∧
        ∀ point,(∃ text∈serviceTexts service,ServiceTextDenotes text point) ↔
          ∃ value∈found,value.Denotes point := by
    intro id hid
    obtain ⟨resolved,-,hresolved⟩ := exists_of_mapM_eq_ok hlists hid
    cases hservice : (comparing catalog).servicesById.get? id with
    | none =>
      simp only [hservice] at hresolved
      cases hresolved
    | some service =>
      simp only [hservice] at hresolved
      obtain ⟨found,hfound,-⟩ := bind_eq_ok.mp hresolved
      obtain ⟨hne,hdenotes⟩ :=
        serviceTexts_denotes hfound (hcodes service (mem_of_get?_byId hservice))
      exact ⟨service,found,rfl,hfound,hne,hdenotes⟩
  have htexts : ∀ text,text∈ReportRules.resolveServiceValues catalog ids ↔ ∃ id∈ids,∃ service,
      (comparing catalog).servicesById.get? id=some service ∧ text∈serviceTexts service := by
    intro text
    rw [ReportRules.resolveServiceValues,List.mem_flatMap]
    constructor
    · rintro ⟨id,hid,htext⟩
      obtain ⟨service,-,hservice,-⟩ := hoperand id hid
      have hget : (Dict.ofList (catalog.services.map fun service => (service.id,service))).get? id=
          some service := hservice
      rw [hget] at htext
      exact ⟨id,hid,service,hservice,htext⟩
    · rintro ⟨id,hid,service,hservice,htext⟩
      have hget : (Dict.ofList (catalog.services.map fun service => (service.id,service))).get? id=
          some service := hservice
      refine ⟨id,hid,?_⟩
      rw [hget]
      exact htext
  constructor
  · intro point
    have hset := coe_valueSet_services h
    have hmem : ∀ value,value∈valueSet values ↔
        value∈operandServices (comparing catalog) ids := by
      intro value
      rw [←hset]
      exact Finset.mem_coe.symm
    constructor
    · rintro ⟨text,htext,hdenotes⟩
      obtain ⟨id,hid,service,hservice,hin⟩ := (htexts text).mp htext
      obtain ⟨other,found,hother,hfound,-,hsame⟩ := hoperand id hid
      obtain rfl := Option.some.inj (hservice.symm.trans hother)
      obtain ⟨value,hvalue,hpoint⟩ := (hsame point).mp ⟨text,hin,hdenotes⟩
      exact ⟨value,(hmem value).mpr ⟨id,hid,service,hservice,found,hfound,hvalue⟩,hpoint⟩
    · rintro ⟨value,hvalue,hdenotes⟩
      obtain ⟨id,hid,service,hservice,listed,hlisted,hin⟩ := (hmem value).mp hvalue
      obtain ⟨other,found,hother,hfound,-,hsame⟩ := hoperand id hid
      obtain rfl := Option.some.inj (hservice.symm.trans hother)
      obtain rfl := Except.ok.inj (hlisted.symm.trans hfound)
      obtain ⟨text,htext,hpoint⟩ := (hsame point).mpr ⟨value,hin,hdenotes⟩
      exact ⟨text,(htexts text).mpr ⟨id,hid,service,hservice,htext⟩,hpoint⟩
  · intro id hid
    obtain ⟨service,-,hservice,-,hne,-⟩ := hoperand id hid
    exact ⟨service,hservice,hne,fun text htext => (htexts text).mpr ⟨id,hid,service,hservice,htext⟩⟩

/-- Zone operands that are all known are named in order. -/
theorem zones_named {ids : List ℤ} {names : Finset String}
    (h : (comparing catalog).normalizeZones ids=.ok names) :
    ZonesNamed catalog ids (resolveZoneNames catalog ids) := by
  obtain ⟨hknown,-⟩ := mem_normalizeZones h
  clear h
  induction ids with
  | nil => exact List.Forall₂.nil
  | cons id ids ih =>
    obtain ⟨zone,hzone,-⟩ := hknown id List.mem_cons_self
    have hget : (Dict.ofList (catalog.zones.map fun zone => (zone.id,zone))).get? id=some zone :=
      hzone
    have hnames : resolveZoneNames catalog (id::ids)=zone.name::resolveZoneNames catalog ids := by
      rw [resolveZoneNames,List.filterMap_cons,hget]
      rfl
    rw [hnames]
    exact List.Forall₂.cons ⟨zone,hget,rfl⟩
      (ih fun other ho => hknown other (List.mem_cons_of_mem _ ho))

/-- Where a rule can be compared, the row of its report agrees with the values it is compared
by. -/
theorem report_agrees {rule : SaveReportRuleCommand} {values : ResolvedRuleValues}
    (hfqdns : ∀ object∈catalog.addrObjs,ReadableFqdn object)
    (hcodes : ∀ service∈catalog.services,ReadableCodes service)
    (h : (comparing catalog).resolveRule rule.draft.toRuleBody=.ok values) :
    RowAgrees catalog rule values.normalized := by
  obtain ⟨-,hsrcZones,hdstZones,hsrc,hdst,hservices⟩ := resolveRule_eq_ok h
  obtain ⟨hsrcSame,hsrcShown⟩ := addresses_agree hfqdns hsrc
  obtain ⟨hdstSame,hdstShown⟩ := addresses_agree hfqdns hdst
  obtain ⟨hservicesSame,hservicesShown⟩ := services_agree hcodes hservices
  rw [←values.src_eq] at hsrcSame
  rw [←values.dst_eq] at hdstSame
  rw [←values.services_eq] at hservicesSame
  exact ⟨hsrcSame,hdstSame,hservicesSame,hsrcShown,hdstShown,hservicesShown,
    zones_named hsrcZones,zones_named hdstZones⟩

end Leaves

section Sample

/-- A catalog with a group, a domain name, ports, codes and a zone. -/
def sampleCatalog : SdwanFullCatalog where
  zones := [⟨1,10,"Office",.lan⟩]
  services := [.ofTcp 1 "web" (80,90) [(443,443)],
    ⟨2,"ping",.icmp,none,some ["echo_request","echo_reply"],by decide,by decide⟩]
  addrObjs := [.ofGroup 10 [] "servers" (some 10),
    .ofHost 11 [10] "first" (.ofNat 167772161),.ofFqdn 12 [] "site" "Site.Example "]
  networks := []

/-- A rule of a plan on that catalog. -/
def sampleRule : SaveReportRuleCommand :=
  ⟨⟨⟨.accept,[1],[1],[10],[12],[1,2]⟩,"rule"⟩,1,.pushed,"Success"⟩

/-- The row of a rule agrees with its values. -/
theorem report_agrees_sample :
    ∃ values,@resolveRule asciiUnicode (comparing sampleCatalog) sampleRule.draft.toRuleBody=
        .ok values ∧ @RowAgrees asciiUnicode sampleCatalog sampleRule values.normalized := by
  have hresolves : (@resolveRule asciiUnicode (comparing sampleCatalog)
      sampleRule.draft.toRuleBody).toOption.isSome=true := by decide +kernel
  cases hvalues : @resolveRule asciiUnicode (comparing sampleCatalog)
      sampleRule.draft.toRuleBody with
  | error error =>
    rw [hvalues] at hresolves
    cases hresolves
  | ok values =>
    refine ⟨values,rfl,@report_agrees asciiUnicode sampleCatalog sampleRule values ?_ ?_ hvalues⟩
    · intro object hobject htype raw hraw
      have hsite : raw="Site.Example " := by
        simp only [sampleCatalog,List.mem_cons,List.not_mem_nil,or_false] at hobject
        rcases hobject with rfl|rfl|rfl
        · cases htype
        · cases htype
        · exact (Option.some.inj hraw).symm
      have hlower : @PyUnicode.lower asciiUnicode (@strip asciiUnicode "Site.Example ")=
          "site.example" := by decide +kernel
      rw [hsite,hlower]
      refine ⟨by decide +kernel,fun n => ?_⟩
      have hletter : 's'∈"site.example".toList := by decide
      exact not_namesIpv4_of_mem hletter (by decide) (by decide) n
    · intro service hservice
      simp only [sampleCatalog,List.mem_cons,List.not_mem_nil,or_false] at hservice
      rcases hservice with rfl|rfl
      · exact fun code hcode => absurd hcode List.not_mem_nil
      · intro code hcode
        have hknown : ∀ code∈["echo_request","echo_reply"],','∉code.toList := by decide
        exact hknown code hcode

/-- A catalog with a domain name that is written like an address. -/
def dottedCatalog : SdwanFullCatalog where
  zones := [⟨1,10,"Office",.lan⟩]
  services := [.ofAny 1 "all"]
  addrObjs := [.ofFqdn 12 [] "site" "10.0.0.1"]
  networks := []

/-- A rule of a plan on that catalog. -/
def dottedRule : SaveReportRuleCommand :=
  ⟨⟨⟨.accept,[1],[1],[12],[12],[1]⟩,"rule"⟩,1,.pushed,"Success"⟩

/-- The report shows that name as the address. -/
theorem dotted_name_shown_as_address :
    ¬(∀ (catalog : SdwanFullCatalog) (rule : SaveReportRuleCommand) (values : ResolvedRuleValues),
      (∀ object∈catalog.addrObjs,object.type=.fqdn → ∀ raw,object.fqdn=some raw →
        @strip asciiUnicode raw≠"") →
      (∀ service∈catalog.services,ReadableCodes service) →
      @resolveRule asciiUnicode (comparing catalog) rule.draft.toRuleBody=.ok values →
        @RowAgrees asciiUnicode catalog rule values.normalized) := by
  intro hall
  have hresolves : ((@resolveRule asciiUnicode (comparing dottedCatalog)
      dottedRule.draft.toRuleBody).toOption.map fun values =>
        values.normalized.srcAddresses)=some {.fqdn ⟨"10.0.0.1"⟩} := by decide +kernel
  cases hvalues : @resolveRule asciiUnicode (comparing dottedCatalog)
      dottedRule.draft.toRuleBody with
  | error error =>
    rw [hvalues] at hresolves
    cases hresolves
  | ok values =>
    rw [hvalues] at hresolves
    have hset : values.normalized.srcAddresses={.fqdn ⟨"10.0.0.1"⟩} := Option.some.inj hresolves
    have hblank : ∀ object∈dottedCatalog.addrObjs,object.type=.fqdn →
        ∀ raw,object.fqdn=some raw → @strip asciiUnicode raw≠"" := by
      intro object hobject htype raw hraw
      rw [List.mem_singleton.mp hobject] at hraw
      rw [←Option.some.inj hraw]
      decide +kernel
    have hcodes : ∀ service∈dottedCatalog.services,ReadableCodes service := by
      intro service hservice code hcode
      rw [List.mem_singleton.mp hservice] at hcode
      exact absurd hcode List.not_mem_nil
    have hrow := hall dottedCatalog dottedRule values hblank hcodes hvalues
    have hsrc : ∃ value∈values.normalized.srcAddresses,value.Denotes (.fqdn "10.0.0.1") :=
      ⟨.fqdn ⟨"10.0.0.1"⟩,by rw [hset]; exact Finset.mem_singleton_self _,rfl⟩
    have hsame := @RowAgrees.src asciiUnicode _ _ _ hrow
    obtain ⟨text,htext,rfl,hnone⟩ := (hsame (.fqdn "10.0.0.1")).mpr hsrc
    exact hnone 167772161 (Or.inr (Or.inl ⟨⟨167772161,by decide⟩,by decide +kernel,rfl⟩))

end Sample

end NspMigrator.ReportAgreement
