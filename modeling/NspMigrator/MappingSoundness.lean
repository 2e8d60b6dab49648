import Mathlib
import NspMigrator.ExecuteValues
import NspMigrator.MappingScan

/-!
# What matched objects stand for

An object that is selected without review stands for the addresses or the
traffic of the canonical object it was selected for. Two matches go by less:
what may stand for anything is found by its name, and an ICMP type without a
code is matched with the messages of this type that have a name.
-/

namespace NspMigrator.MappingSoundness

open PyDict PyText PyExcept Ipv4 Ipv4Text SdwanModels SdwanFingerprint
open ExecuteValues (AddressPoint)
open MappingEntities MappingSchemas MappingCatalogIndexes MappingObjects MappingScan

/-- The addresses between two addresses. -/
def rangePoints (start stop : ℕ) : Set AddressPoint := {p | ∃ n,p=.ipv4 n ∧ start≤n ∧ n≤ stop}

/-- The addresses of a network. -/
def networkPoints (net : Ipv4Network) : Set AddressPoint :=
  rangePoints net.networkAddress net.broadcastAddress

/-- What a service may let through: a port, a message, another protocol. -/
inductive TrafficPoint where
  | tcp (port : ℤ)
  | udp (port : ℤ)
  | icmp (icmpType icmpCode : ℕ)
  | icmp6 (icmpType icmpCode : ℕ)
  | other (protocol : ℕ)

/-- The ports between two ports. -/
def portPoints (point : ℤ → TrafficPoint) (start stop : ℤ) : Set TrafficPoint :=
  {p | ∃ n,p=point n ∧ start≤n ∧ n≤ stop}

/-- The messages that have a name. -/
def namedMessages : Set TrafficPoint :=
  {p | ∃ entry∈icmpSdwanCodeByTypeAndCode,p=.icmp entry.1.1 entry.1.2}

/-- The traffic of a service. Its codes are names of messages. -/
def sdwanServicePoints (service : SdwanService) : Set TrafficPoint :=
  match service.l4Proto with
  | .tcp => {p | ∃ range∈service.ranges.getD [],p∈portPoints .tcp range.1 range.2}
  | .udp => {p | ∃ range∈service.ranges.getD [],p∈portPoints .udp range.1 range.2}
  | .icmp => {p | ∃ entry∈icmpSdwanCodeByTypeAndCode,entry.2∈service.codes.getD [] ∧
      p=.icmp entry.1.1 entry.1.2}
  | .any => Set.univ
  | .ipIp => {.other 4}

/-- The messages of a type and a code, of all codes where none is given. -/
def messagePoints (message : ℕ → ℕ → TrafficPoint) (icmpType icmpCode : Option ℕ) :
    Set TrafficPoint :=
  {p | ∃ t c,icmpType=some t ∧ (∀ code,icmpCode=some code → code=c) ∧ p=message t c}

/-- The traffic of a canonical service. -/
def canonicalServicePoints (service : CanonicalService) : Set TrafficPoint :=
  match service.kind with
  | .anyService => Set.univ
  | .tcp => {p | ∃ portFrom portTo : ℕ,service.portFrom=some portFrom ∧ service.portTo=some portTo ∧
      p∈portPoints .tcp portFrom portTo}
  | .udp => {p | ∃ portFrom portTo : ℕ,service.portFrom=some portFrom ∧ service.portTo=some portTo ∧
      p∈portPoints .udp portFrom portTo}
  | .icmp =>
    if service.protocol=some "icmp6" then messagePoints .icmp6 service.icmpType service.icmpCode
    else messagePoints .icmp service.icmpType service.icmpCode
  | .ipProto | .serviceGroup | .unresolvedService => ∅

section Points

variable [PyUnicode]

/-- The addresses of an object that is no group. Domain names are taken up to
case and trailing dots. -/
def sdwanAddrPoints (addr : SdwanAddrObject) : Set AddressPoint :=
  match addr.type with
  | .host => {p | ∃ host,addr.host=some host ∧ p=.ipv4 host.toInt}
  | .prefixNet => {p | ∃ net,addr.prefixNet=some net ∧ p∈networkPoints net}
  | .network => {p | ∃ net,addr.network=some net ∧ p∈networkPoints net}
  | .ipRange => {p | ∃ start stop,addr.ipRangeFrom=some start ∧ addr.ipRangeTo=some stop ∧
      p∈rangePoints start.toInt stop.toInt}
  | .fqdn => {p | ∃ fqdn,addr.fqdn=some fqdn ∧ p=.fqdn (normalizeFqdn fqdn)}
  | .addrGroup => ∅

/-- The addresses of a canonical object that is no group. Hosts may be written
with a mask, networks with host bits. -/
def canonicalAddrPoints (object : CanonicalAddrObject) : Set AddressPoint :=
  match object.kind with
  | .anyAddr => rangePoints 0 (2^32-1)
  | .host => {p | ∃ host,parseAddress (firstPart '/' (object.cidr.getD ""))=some host ∧
      p=.ipv4 host.toInt}
  | .subnet => {p | ∃ net,parseNetwork (object.cidr.getD "")=some net ∧ p∈networkPoints net}
  | .range => {p | ∃ start stop,parseAddress (object.rangeStart.getD "")=some start ∧
      parseAddress (object.rangeEnd.getD "")=some stop ∧ p∈rangePoints start.toInt stop.toInt}
  | .fqdn => {p | ∃ fqdn,object.fqdn=some fqdn ∧ p=.fqdn (normalizeFqdn fqdn)}
  | .unresolvedAddr | .addrGroup => ∅

/-- A name that may stand for anything. -/
def NamedAny (name : String) : Prop :=
  normalizeName name=normalizeName "any" ∨ normalizeName name=normalizeName "all"

/-- An object of any address is found by its name or its addresses, every other
by its addresses. What is unresolved is not matched. -/
def AddrSound (object : CanonicalAddrObject) (addr : SdwanAddrObject) : Prop :=
  match object.kind with
  | .anyAddr => NamedAny addr.name ∨ sdwanAddrPoints addr=canonicalAddrPoints object
  | .host | .subnet | .range | .fqdn =>
    addr.type≠.addrGroup ∧ sdwanAddrPoints addr=canonicalAddrPoints object
  | .unresolvedAddr | .addrGroup => False

/-- A service of any traffic is found by its name, port services by their
ports, ICMP services by those of their messages that have a name. -/
def ServiceSound (canonical : CanonicalService) (service : SdwanService) : Prop :=
  match canonical.kind with
  | .anyService => NamedAny service.name
  | .tcp | .udp => sdwanServicePoints service=canonicalServicePoints canonical
  | .icmp => canonical.protocol≠some "icmp6" →
      sdwanServicePoints service=canonicalServicePoints canonical∩namedMessages ∧
      (canonical.icmpCode≠none → sdwanServicePoints service=canonicalServicePoints canonical)
  | .ipProto | .serviceGroup | .unresolvedService => False

/-- What an index finds under a name. -/
theorem mem_findAddrByName {addrObjs : List SdwanAddrObject} {index : SdwanAddrObjsCatalogIndex}
    (h : SdwanAddrObjsCatalogIndex.create addrObjs=.ok index) {name : String}
    {addr : SdwanAddrObject} (haddr : addr∈index.findAddrByName name) :
    addr∈addrObjs ∧ normalizeName addr.name=normalizeName name := by
  obtain ⟨keys,-,h⟩ := bind_eq_ok.mp h
  rw [pure_eq_ok] at h
  subst h
  rw [SdwanAddrObjsCatalogIndex.findAddrByName,getD_groupBy] at haddr
  obtain ⟨hmem,hname⟩ := List.mem_filter.mp haddr
  exact ⟨mem_of_mem_distinctBy hmem,of_decide_eq_true hname⟩

/-- The services found under a name. -/
theorem mem_findServicesByName {services : List SdwanService} {name : String}
    {service : SdwanService}
    (h : service∈(SdwanServicesCatalogIndex.create services).findServicesByName name) :
    service∈services ∧ normalizeName service.name=normalizeName name := by
  rw [SdwanServicesCatalogIndex.findServicesByName,SdwanServicesCatalogIndex.create,
    getD_groupBy] at h
  obtain ⟨hmem,hname⟩ := List.mem_filter.mp h
  exact ⟨mem_of_mem_distinctBy hmem,of_decide_eq_true hname⟩

omit [PyUnicode] in
/-- The network of all addresses. -/
theorem networkPoints_of_text {net : Ipv4Network} (h : networkText net="0.0.0.0/0") :
    networkPoints net=rangePoints 0 (2^32-1) := by
  have hall : networkText (.ofNat 0 0)="0.0.0.0/0" := by decide
  obtain rfl := networkText_injective (h.trans hall.symm)
  rfl

/-- An object with the value of a canonical one has its addresses. -/
theorem addrPoints_of_addrEquals {object : CanonicalAddrObject} {addr : SdwanAddrObject}
    (h : addrEquals object addr=true) : AddrSound object addr := by
  unfold addrEquals at h
  unfold AddrSound sdwanAddrPoints canonicalAddrPoints
  cases hkind : object.kind with
  | host =>
    rw [hkind] at h
    dsimp only at h ⊢
    cases hparse : parseAddress (firstPart '/' (object.cidr.getD "")) with
    | none =>
      rw [hparse] at h
      cases h
    | some host =>
      rw [hparse] at h
      obtain ⟨htype,hhost⟩ := of_decide_eq_true h
      rw [htype]
      exact ⟨by decide,by simp [hhost]⟩
  | subnet =>
    rw [hkind] at h
    dsimp only at h ⊢
    cases hparse : parseNetwork (object.cidr.getD "") with
    | none =>
      rw [hparse] at h
      cases h
    | some net =>
      rw [hparse] at h
      rcases of_decide_eq_true h with ⟨htype,hnet⟩|⟨htype,hnet⟩
      · rw [htype]
        exact ⟨by decide,by simp [hnet]⟩
      · rw [htype]
        exact ⟨by decide,by simp [hnet]⟩
  | range =>
    rw [hkind] at h
    dsimp only at h ⊢
    cases hstart : parseAddress (object.rangeStart.getD "") with
    | none =>
      rw [hstart] at h
      cases h
    | some start =>
      cases hstop : parseAddress (object.rangeEnd.getD "") with
      | none =>
        rw [hstart,hstop] at h
        cases h
      | some stop =>
        rw [hstart,hstop] at h
        obtain ⟨htype,hfrom,hto⟩ := of_decide_eq_true h
        rw [htype]
        exact ⟨by decide,by simp [hfrom,hto]⟩
  | fqdn =>
    rw [hkind] at h
    obtain ⟨hne,htype,hfqdn⟩ := of_decide_eq_true h
    obtain ⟨name,hname,hsame⟩ := Option.map_eq_some_iff.mp hfqdn
    cases hobject : object.fqdn with
    | none =>
      rw [hobject] at hne
      exact absurd rfl hne
    | some fqdn =>
      rw [hobject] at hsame
      rw [htype]
      refine ⟨by decide,?_⟩
      rw [Option.getD_some] at hsame
      simp [hname,hsame]
  | anyAddr | unresolvedAddr | addrGroup =>
    rw [hkind] at h
    cases h

/-- What is found for a canonical address object is sound. -/
theorem exists_of_mem_matchAddr {addrObjs : List SdwanAddrObject}
    {index : SdwanAddrObjsCatalogIndex}
    (hindex : SdwanAddrObjsCatalogIndex.create addrObjs=.ok index)
    {object : CanonicalAddrObject} {id : ℤ}
    (h : id∈(matchAddr index object).map (·.sdwanEntityId)) :
    ∃ addr∈addrObjs,addr.id=id ∧ AddrSound object addr := by
  by_cases hvalue : object.kind∈valueAddrKinds
  · rw [(matchAddr_perm hindex hvalue).mem_iff,scanAddrs] at h
    obtain ⟨addr,haddr,rfl⟩ := List.mem_map.mp h
    obtain ⟨hmem,hequals⟩ := List.mem_filter.mp haddr
    exact ⟨addr,mem_of_mem_distinctBy hmem,rfl,addrPoints_of_addrEquals hequals⟩
  · cases hkind : object.kind with
    | host | subnet | range | fqdn =>
      rw [hkind] at hvalue
      exact absurd (by decide) hvalue
    | unresolvedAddr | addrGroup =>
      rw [matchAddr,hkind] at h
      cases h
    | anyAddr =>
      rw [matchAddr,hkind] at h
      dsimp only at h
      obtain ⟨addr,haddr,rfl⟩ := ((candidatesOf_ids SdwanAddrObject.id 100 .builtinAny
        index.findBuiltinAnyAddrObjects).2 id).mp h
      have hsound : ∀ addr : SdwanAddrObject,NamedAny addr.name ∨
          sdwanAddrPoints addr=canonicalAddrPoints object → AddrSound object addr := by
        intro addr ha
        unfold AddrSound
        rw [hkind]
        exact ha
      rcases List.mem_append.mp (mem_of_mem_distinctBy haddr) with hfound|hfound
      · rcases List.mem_append.mp hfound with hfound|hfound
        · obtain ⟨hmem,hkey⟩ := (mem_findAddrByValue hindex _ addr).mp hfound
          refine ⟨addr,mem_of_mem_distinctBy hmem,rfl,hsound addr (Or.inr ?_)⟩
          have hall : ∀ net : Ipv4Network,AddrValueKey.prefixNet "0.0.0.0/0"=
              .prefixNet (networkText net) → networkPoints net=rangePoints 0 (2^32-1) :=
            fun net heq => networkPoints_of_text (AddrValueKey.prefixNet.inj heq).symm
          rcases (addrValueKey_eq_iff addr _).mp hkey with ⟨-,host,-,heq⟩|⟨htype,net,hnet,heq⟩|
            ⟨htype,net,hnet,heq⟩|⟨-,fqdn,-,heq⟩|⟨-,start,stop,-,-,heq⟩
          · cases heq
          · simp [sdwanAddrPoints,canonicalAddrPoints,htype,hkind,hnet,hall net heq]
          · simp [sdwanAddrPoints,canonicalAddrPoints,htype,hkind,hnet,hall net heq]
          · cases heq
          · cases heq
        · obtain ⟨hmem,hname⟩ := mem_findAddrByName hindex hfound
          exact ⟨addr,hmem,rfl,hsound addr (Or.inl (Or.inl hname))⟩
      · obtain ⟨hmem,hname⟩ := mem_findAddrByName hindex hfound
        exact ⟨addr,hmem,rfl,hsound addr (Or.inl (Or.inr hname))⟩

end Points

section Services

/-- A message has one name, and a name one message. -/
theorem eq_of_name {entry other : (ℕ × ℕ) × String} (h : entry∈icmpSdwanCodeByTypeAndCode)
    (hother : other∈icmpSdwanCodeByTypeAndCode) (heq : entry.1=other.1 ∨ entry.2=other.2) :
    entry=other := by
  have hkeys : (icmpSdwanCodeByTypeAndCode.map Prod.fst).Nodup := by decide
  have hnames : (icmpSdwanCodeByTypeAndCode.map Prod.snd).Nodup := by decide +kernel
  rcases heq with heq|heq
  · exact List.inj_on_of_nodup_map hkeys h hother heq
  · exact List.inj_on_of_nodup_map hnames h hother heq

/-- The messages a canonical service is matched by are its own. -/
theorem mem_canonicalIcmpCodes {canonical : CanonicalService} {entry : (ℕ × ℕ) × String}
    (h : entry∈icmpSdwanCodeByTypeAndCode) :
    entry.2∈canonicalIcmpCodes canonical ↔ canonical.icmpType=some entry.1.1 ∧
      ∀ code,canonical.icmpCode=some code → code=entry.1.2 := by
  unfold canonicalIcmpCodes
  cases htype : canonical.icmpType with
  | none => simp
  | some icmpType =>
    cases hcode : canonical.icmpCode with
    | none =>
      simp only [List.mem_map,List.mem_filter,decide_eq_true_eq,Option.some.injEq]
      constructor
      · rintro ⟨other,⟨hother,rfl⟩,hname⟩
        obtain rfl := eq_of_name hother h (Or.inr hname)
        exact ⟨rfl,fun code hc => by cases hc⟩
      · rintro ⟨rfl,-⟩
        exact ⟨entry,⟨h,rfl⟩,rfl⟩
    | some icmpCode =>
      simp only [Option.mem_toList,Option.map_eq_some_iff,Option.some.injEq]
      constructor
      · rintro ⟨other,hother,hname⟩
        have hkey : other.1=(icmpType,icmpCode) := by simpa using List.find?_some hother
        obtain rfl := eq_of_name (List.mem_of_find?_eq_some hother) h (Or.inr hname)
        rw [hkey]
        exact ⟨rfl,fun code hc => hc.symm⟩
      · rintro ⟨rfl,hsame⟩
        have hkey : entry.1=(entry.1.1,icmpCode) := by rw [hsame icmpCode rfl]
        obtain ⟨other,hother⟩ : ∃ other,icmpSdwanCodeByTypeAndCode.find?
            (fun found => decide (found.1=(entry.1.1,icmpCode)))=some other := by
          rw [←Option.isSome_iff_exists,List.find?_isSome]
          exact ⟨entry,h,decide_eq_true hkey⟩
        refine ⟨other,hother,?_⟩
        have hfound : other.1=(entry.1.1,icmpCode) := by simpa using List.find?_some hother
        rw [eq_of_name (List.mem_of_find?_eq_some hother) h (Or.inl (hfound.trans hkey.symm))]

/-- A service with the codes of a canonical one has its named messages. -/
theorem icmpPoints_of_perm {canonical : CanonicalService} {service : SdwanService}
    (hproto : service.l4Proto=.icmp) (hkind : canonical.kind=.icmp)
    (hversion : canonical.protocol≠some "icmp6")
    (hcodes : (service.codes.getD []).Perm (canonicalIcmpCodes canonical)) :
    sdwanServicePoints service=canonicalServicePoints canonical∩namedMessages := by
  have hcanonical : canonicalServicePoints canonical=
      messagePoints .icmp canonical.icmpType canonical.icmpCode := by
    unfold canonicalServicePoints
    rw [hkind]
    exact if_neg hversion
  have hsdwan : sdwanServicePoints service={p | ∃ entry∈icmpSdwanCodeByTypeAndCode,
      entry.2∈service.codes.getD [] ∧ p=.icmp entry.1.1 entry.1.2} := by
    unfold sdwanServicePoints
    rw [hproto]
  rw [hcanonical,hsdwan]
  apply Set.ext
  intro p
  constructor
  · rintro ⟨entry,hentry,hin,rfl⟩
    obtain ⟨htype,hcode⟩ := (mem_canonicalIcmpCodes hentry).mp (hcodes.mem_iff.mp hin)
    exact ⟨⟨_,_,htype,hcode,rfl⟩,entry,hentry,rfl⟩
  · rintro ⟨⟨t,c,htype,hcode,rfl⟩,entry,hentry,heq⟩
    obtain ⟨rfl,rfl⟩ := TrafficPoint.icmp.inj heq
    exact ⟨entry,hentry,hcodes.mem_iff.mpr ((mem_canonicalIcmpCodes hentry).mpr ⟨htype,hcode⟩),rfl⟩

/-- A message given by type and code that is matched at all has a name. -/
theorem subset_namedMessages {canonical : CanonicalService} (hkind : canonical.kind=.icmp)
    (hversion : canonical.protocol≠some "icmp6") (hcode : canonical.icmpCode≠none)
    (hcodes : canonicalIcmpCodes canonical≠[]) :
    canonicalServicePoints canonical⊆namedMessages := by
  obtain ⟨icmpCode,hsome⟩ := Option.ne_none_iff_exists'.mp hcode
  obtain ⟨name,hname⟩ := List.exists_mem_of_ne_nil _ hcodes
  unfold canonicalServicePoints
  rw [hkind]
  dsimp only
  rw [if_neg hversion]
  rintro p ⟨t,c,htype,hsame,rfl⟩
  unfold canonicalIcmpCodes at hname
  rw [htype,hsome] at hname
  simp only [Option.mem_toList,Option.map_eq_some_iff] at hname
  obtain ⟨entry,hfound,-⟩ := hname
  have hkey : entry.1=(t,icmpCode) := by simpa using List.find?_some hfound
  refine ⟨entry,List.mem_of_find?_eq_some hfound,?_⟩
  rw [hkey,hsame icmpCode hsome]

variable [PyUnicode]

/-- What is found for a canonical service is sound. -/
theorem exists_of_mem_matchService {services : List SdwanService} {canonical : CanonicalService}
    {id : ℤ} (h : id∈(matchService (SdwanServicesCatalogIndex.create services) canonical).map
      (·.sdwanEntityId)) :
    ∃ service∈services,service.id=id ∧ ServiceSound canonical service := by
  have hports : ∀ (l4Proto : SdwanServiceL4Proto) (point : ℤ → TrafficPoint),
      (∀ service : SdwanService,service.l4Proto=l4Proto → sdwanServicePoints service=
        {p | ∃ range∈service.ranges.getD [],p∈portPoints point range.1 range.2}) →
      canonicalServicePoints canonical={p | ∃ portFrom portTo : ℕ,canonical.portFrom=some portFrom ∧
        canonical.portTo=some portTo ∧ p∈portPoints point portFrom portTo} →
      id∈(matchL4Service (SdwanServicesCatalogIndex.create services) canonical l4Proto).map
        (·.sdwanEntityId) →
      ∃ service∈services,service.id=id ∧
        sdwanServicePoints service=canonicalServicePoints canonical := by
    intro l4Proto point hsdwan hcanonical hid
    unfold matchL4Service at hid
    cases hfrom : canonical.portFrom with
    | none =>
      rw [hfrom] at hid
      cases hid
    | some portFrom =>
      cases hto : canonical.portTo with
      | none =>
        rw [hfrom,hto] at hid
        cases hid
      | some portTo =>
        rw [hfrom,hto] at hid
        obtain ⟨service,hservice,rfl⟩ := ((candidatesOf_ids _ _ _ _).2 id).mp hid
        rw [SdwanServicesCatalogIndex.findServicesBySignature,SdwanServicesCatalogIndex.create,
          getD_groupBy] at hservice
        obtain ⟨hmem,hsignature⟩ := List.mem_filter.mp hservice
        have hsame := of_decide_eq_true hsignature
        rw [serviceSignature,Prod.mk.injEq,Prod.mk.injEq,sortRanges_eq_singleton] at hsame
        obtain ⟨hproto,hranges,-⟩ := hsame
        refine ⟨service,mem_of_mem_distinctBy hmem,rfl,?_⟩
        rw [hsdwan service hproto,hcanonical,hranges,hfrom,hto]
        simp
  unfold ServiceSound
  cases hkind : canonical.kind with
  | anyService =>
    rw [matchService,hkind] at h
    dsimp only at h
    obtain ⟨service,hservice,rfl⟩ := ((candidatesOf_ids _ _ _ _).2 id).mp h
    rcases List.mem_append.mp (mem_of_mem_distinctBy hservice) with hfound|hfound
    · obtain ⟨hmem,hname⟩ := mem_findServicesByName hfound
      exact ⟨service,hmem,rfl,Or.inl hname⟩
    · obtain ⟨hmem,hname⟩ := mem_findServicesByName hfound
      exact ⟨service,hmem,rfl,Or.inr hname⟩
  | tcp =>
    rw [matchService,hkind] at h
    refine hports .tcp .tcp (fun service hproto => ?_) ?_ h
    · rw [sdwanServicePoints,hproto]
    · rw [canonicalServicePoints,hkind]
  | udp =>
    rw [matchService,hkind] at h
    refine hports .udp .udp (fun service hproto => ?_) ?_ h
    · rw [sdwanServicePoints,hproto]
    · rw [canonicalServicePoints,hkind]
  | icmp =>
    rw [matchService,hkind] at h
    dsimp only at h
    by_cases hcodes : canonicalIcmpCodes canonical=[]
    · rw [if_pos hcodes] at h
      cases h
    · rw [if_neg hcodes] at h
      obtain ⟨service,hservice,rfl⟩ := ((candidatesOf_ids _ _ _ _).2 id).mp h
      rw [SdwanServicesCatalogIndex.findIcmpServicesByCodes,SdwanServicesCatalogIndex.create]
        at hservice
      obtain ⟨hmem,hfound⟩ := List.mem_filter.mp hservice
      obtain ⟨hproto,hsorted⟩ := of_decide_eq_true hfound
      refine ⟨service,mem_of_mem_distinctBy hmem,rfl,fun hversion => ?_⟩
      have hpoints := icmpPoints_of_perm hproto hkind hversion (sortCodes_eq_iff.mp hsorted)
      refine ⟨hpoints,fun hcode => ?_⟩
      rw [hpoints]
      exact Set.inter_eq_left.mpr (subset_namedMessages hkind hversion hcode hcodes)
  | ipProto | serviceGroup | unresolvedService =>
    rw [matchService,hkind] at h
    cases h

end Services

section Results

variable [PyUnicode]

omit [PyUnicode] in
/-- A result that is matched selects the one candidate of its entity. -/
theorem exists_match_of_matched {scopeId firstId : ℕ} {found : List EntityMatch}
    {result : MappingEntityResult} (h : result∈numberResults scopeId firstId found)
    (hstatus : result.resultStatus=.matched) :
    ∃ one∈found,result.entityType=one.entityType ∧
      result.canonicalEntityId=.ok one.canonicalEntityId ∧
      ∃ id∈one.candidates.map (·.sdwanEntityId),result.selectedSdwanEntityId=some id := by
  obtain ⟨one,hone,id,rfl⟩ := mem_numberResults h
  obtain ⟨-,-,htype,hentity⟩ := buildResult_spec id scopeId one.canonicalEntityId one.entityType
    one.candidates
  refine ⟨one,hone,htype,hentity,?_⟩
  unfold buildResult at hstatus ⊢
  cases hcandidates : one.candidates with
  | nil =>
    rw [hcandidates] at hstatus
    cases hstatus
  | cons first rest =>
    cases rest with
    | nil => exact ⟨first.sdwanEntityId,by simp,rfl⟩
    | cons second rest =>
      rw [hcandidates] at hstatus
      cases hstatus

/-- Every result that is matched when a scope is built selects an object that stands for what its
canonical object stands for. -/
theorem matched_results_sound {firstId scopeId : ℕ} {entities : CanonicalScopeEntities}
    {catalog : SdwanFullCatalog} {results : List MappingEntityResult}
    (h : buildResults firstId scopeId entities catalog=.ok results) {result : MappingEntityResult}
    (hresult : result∈results) (hstatus : result.resultStatus=.matched) :
    (result.entityType=.addr → ∃ object∈entities.addrObjects,
      result.canonicalEntityId=.ok object.id ∧ ∃ addr∈catalog.addrObjs,
        result.selectedSdwanEntityId=some addr.id ∧ AddrSound object addr) ∧
    (result.entityType=.service → ∃ canonical∈entities.services,
      result.canonicalEntityId=.ok canonical.id ∧ ∃ service∈catalog.services,
        result.selectedSdwanEntityId=some service.id ∧ ServiceSound canonical service) := by
  obtain ⟨addrIndex,haddr,h⟩ := bind_eq_ok.mp h
  rw [pure_eq_ok] at h
  subst h
  obtain ⟨one,hone,htype,hentity,id,hid,hselected⟩ := exists_match_of_matched hresult hstatus
  rw [htype,hentity,hselected]
  simp only [entityMatches,List.mem_append,List.mem_map,List.mem_filter] at hone
  constructor
  · intro hkind
    rcases hone with (⟨zone,-,rfl⟩|⟨object,⟨hobject,-⟩,rfl⟩)|⟨service,-,rfl⟩
    · cases hkind
    · obtain ⟨addr,hmem,rfl,hsound⟩ := exists_of_mem_matchAddr haddr hid
      exact ⟨object,hobject,rfl,addr,hmem,rfl,hsound⟩
    · cases hkind
  · intro hkind
    rcases hone with (⟨zone,-,rfl⟩|⟨object,-,rfl⟩)|⟨canonical,⟨hcanonical,-⟩,rfl⟩
    · cases hkind
    · cases hkind
    · obtain ⟨service,hmem,rfl,hsound⟩ := exists_of_mem_matchService hid
      exact ⟨canonical,hcanonical,rfl,service,hmem,rfl,hsound⟩

omit [PyUnicode] in
/-- The subnet of the sample is selected for the addresses it stands for. -/
theorem matched_results_sound_sample :
    ∃ results,@buildResults asciiUnicode 1 1 sampleEntities sampleCatalog=.ok results ∧
      ∃ result∈results,result.resultStatus=.matched ∧ ∃ object∈sampleEntities.addrObjects,
        result.canonicalEntityId=.ok object.id ∧ ∃ addr∈sampleCatalog.addrObjs,
          result.selectedSdwanEntityId=some addr.id ∧ @AddrSound asciiUnicode object addr := by
  have hrun : (@buildResults asciiUnicode 1 1 sampleEntities sampleCatalog).toOption.any
      (fun results => results.any fun result =>
        decide (result.resultStatus=.matched ∧ result.entityType=.addr))=true := by decide +kernel
  obtain ⟨results,hresults,hany⟩ := (Option.any_eq_true _ _).mp hrun
  obtain ⟨result,hresult,hfound⟩ := List.any_eq_true.mp hany
  obtain ⟨hstatus,htype⟩ := of_decide_eq_true hfound
  have h := eq_ok_of_toOption hresults
  exact ⟨results,h,result,hresult,hstatus,
    (@matched_results_sound asciiUnicode 1 1 _ _ _ h _ hresult hstatus).1 htype⟩

/-- Any address. -/
def anyEntities : CanonicalScopeEntities where
  zones := []
  addrObjects := [⟨1,.anyAddr,"any",[],none,none,none,none⟩]
  services := []

/-- A host that is called any. -/
def anyNamedCatalog : SdwanFullCatalog where
  zones := []
  services := []
  addrObjs := [sampleHost 5 "Any"]
  networks := []

omit [PyUnicode] in
/-- The host is selected for any address. -/
theorem host_matched_for_any :
    (∃ results,@buildResults asciiUnicode 1 1 anyEntities anyNamedCatalog=.ok results ∧
      ∃ result∈results,result.resultStatus=.matched ∧ result.selectionMethod=some .autoSelected ∧
        result.entityType=.addr ∧ result.canonicalEntityId=.ok 1 ∧
        result.selectedSdwanEntityId=some 5) ∧
    @sdwanAddrPoints asciiUnicode (sampleHost 5 "Any")≠
      @canonicalAddrPoints asciiUnicode ⟨1,.anyAddr,"any",[],none,none,none,none⟩ := by
  constructor
  · have hrun : (@buildResults asciiUnicode 1 1 anyEntities anyNamedCatalog).toOption.any
        (fun results => results.any fun result => decide (result.resultStatus=.matched ∧
          result.selectionMethod=some .autoSelected ∧ result.entityType=.addr ∧
          result.canonicalObjectId=some 1 ∧ result.selectedSdwanEntityId=some 5))=true := by
      decide +kernel
    obtain ⟨results,hresults,hany⟩ := (Option.any_eq_true _ _).mp hrun
    obtain ⟨result,hresult,hfound⟩ := List.any_eq_true.mp hany
    obtain ⟨hstatus,hmethod,htype,hobject,hselected⟩ := of_decide_eq_true hfound
    refine ⟨results,eq_ok_of_toOption hresults,result,hresult,hstatus,hmethod,htype,?_,hselected⟩
    rw [MappingEntityResult.canonicalEntityId,htype,hobject]
    rfl
  · intro heq
    have hzero : AddressPoint.ipv4 0∈@canonicalAddrPoints asciiUnicode
        ⟨1,.anyAddr,"any",[],none,none,none,none⟩ := ⟨0,rfl,by omega,by omega⟩
    rw [←heq] at hzero
    obtain ⟨host,hhost,hpoint⟩ := hzero
    obtain rfl := Option.some.inj hhost
    cases hpoint

end Results

end NspMigrator.MappingSoundness
