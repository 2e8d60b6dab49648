import Mathlib
import NspMigrator.PyJson
import NspMigrator.Ipv4Text
import NspMigrator.SdwanModels

/-!
# Fingerprint of a full catalog

The fingerprint is the hash of a normalized document of all objects. Two
catalogs share it exactly when they hold the same objects, whatever the order
of objects, ranges, codes and parents.
-/

namespace NspMigrator.SdwanFingerprint

open PyText PyRepr PyJson Ipv4 Ipv4Text SdwanModels

/-- The text of a network. -/
def networkText (network : Ipv4Network) : String :=
  dotted network.networkAddress++"/"++toString network.prefixlen

/-- The text of an optional text. -/
def optionText (value : Option String) : PyData := .text (value.getD "None")

/-- A zone as data. -/
def zoneData (zone : SdwanZone) : PyData := .dict [
  ("id",.text (toString zone.id)),
  ("zone_id",.text (toString zone.zoneId)),
  ("name",.text zone.name),
  ("type",.text zone.type.value)]

/-- A port range as data. -/
def rangeData (range : ℤ × ℤ) : PyData :=
  .list [.text (toString range.1),.text (toString range.2)]

/-- A list or nothing as data. -/
def optionList (items : Option (List PyData)) : PyData :=
  match items with
  | some items => .list items
  | none => .text "None"

/-- A service as data. -/
def serviceData (service : SdwanService) : PyData := .dict [
  ("id",.text (toString service.id)),
  ("name",.text service.name),
  ("l4_proto",.text service.l4Proto.value),
  ("ranges",optionList (service.ranges.map (·.map rangeData))),
  ("codes",optionList (service.codes.map (·.map .text)))]

/-- An address object as data. -/
def addrObjectData (object : SdwanAddrObject) : PyData := .dict [
  ("id",.text (toString object.id)),
  ("parents",.list (object.parents.map fun parent => .text (toString parent))),
  ("name",.text object.name),
  ("type",.text object.type.value),
  ("network_id",optionText object.networkId),
  ("network",optionText (object.network.map networkText)),
  ("prefix",optionText (object.prefixNet.map networkText)),
  ("host",optionText (object.host.map fun host => dotted host.toInt)),
  ("fqdn",optionText object.fqdn),
  ("ip_range_from",optionText (object.ipRangeFrom.map fun start => dotted start.toInt)),
  ("ip_range_to",optionText (object.ipRangeTo.map fun stop => dotted stop.toInt)),
  ("addr_group",optionText (object.addrGroup.map toString))]

/-- A network as data. -/
def networkData (network : SdwanNetwork) : PyData := .dict [
  ("network_id",.text network.networkId),
  ("net",.text (networkText network.net))]

/-- The order-independent fingerprint of a catalog. -/
def getFingerprint [PyUnicode] (hashFunc : String → String)
    (catalog : SdwanFullCatalog) : String :=
  jsonHash hashFunc (.dict [
    ("zones",.list (catalog.zones.map zoneData)),
    ("services",.list (catalog.services.map serviceData)),
    ("addr_objects",.list (catalog.addrObjs.map addrObjectData)),
    ("networks",.list (catalog.networks.map networkData))])

/-- The value fields of an address object are set for its own type only. -/
structure OwnFields (object : SdwanAddrObject) : Prop where
  /-- Only a network names its network. -/
  networkId : object.type≠.network → object.networkId=none
  /-- Only a network has its block. -/
  network : object.type≠.network → object.network=none
  /-- Only a prefix has a block of its own. -/
  prefixNet : object.type≠.prefixNet → object.prefixNet=none
  /-- Only a host has an address. -/
  host : object.type≠.host → object.host=none
  /-- Only a domain name has a name. -/
  fqdn : object.type≠.fqdn → object.fqdn=none
  /-- Only a range has a first address. -/
  ipRangeFrom : object.type≠.ipRange → object.ipRangeFrom=none
  /-- Only a range has a last one. -/
  ipRangeTo : object.type≠.ipRange → object.ipRangeTo=none
  /-- Exactly groups have a group number. -/
  addrGroup : object.addrGroup.isSome=true ↔ object.type=.addrGroup

/-- A catalog as the gateway builds it. -/
structure GatewayCatalog (catalog : SdwanFullCatalog) : Prop where
  /-- No range of ports ends before it begins. -/
  ranges_ordered : ∀ service∈catalog.services,∀ ranges,service.ranges=some ranges →
    ∀ range∈ranges,range.1≤range.2
  /-- Objects have the fields of their kind only. -/
  own_fields : ∀ object∈catalog.addrObjs,OwnFields object

/-- A service without the order of its ranges and codes. -/
def serviceUpToOrder (service : SdwanService) :
    ℤ × String × SdwanServiceL4Proto × Option (Multiset (ℤ × ℤ)) × Option (Multiset String) :=
  (service.id,service.name,service.l4Proto,service.ranges.map Multiset.ofList,
    service.codes.map Multiset.ofList)

/-- The value fields of an address object. -/
def addrValues (object : SdwanAddrObject) : SdwanAddrObjectType × Option String ×
    Option Ipv4Network × Option Ipv4Network × Option Ipv4Address × Option String ×
    Option Ipv4Address × Option Ipv4Address × Option ℤ :=
  (object.type,object.networkId,object.network,object.prefixNet,object.host,object.fqdn,
    object.ipRangeFrom,object.ipRangeTo,object.addrGroup)

/-- An address object without the order of its parents. -/
def addrObjectUpToOrder (object : SdwanAddrObject) :=
  (object.id,object.name,Multiset.ofList object.parents,addrValues object)

/-- The same objects, up to the order of all lists. -/
structure SameObjects (c d : SdwanFullCatalog) : Prop where
  /-- The zones are the same. -/
  zones : c.zones.Perm d.zones
  /-- So are the services, up to the order of their ranges and codes. -/
  services : (c.services.map serviceUpToOrder).Perm (d.services.map serviceUpToOrder)
  /-- So are the address objects, up to the order of their parents. -/
  addrObjs : (c.addrObjs.map addrObjectUpToOrder).Perm (d.addrObjs.map addrObjectUpToOrder)
  /-- So are the networks. -/
  networks : c.networks.Perm d.networks

/-- The texts of enumerations tell their members apart. -/
theorem SdwanZoneType.value_injective : Function.Injective SdwanZoneType.value := by
  intro a b h
  cases a <;> cases b <;> first | rfl | exact absurd h (by decide)

theorem SdwanServiceL4Proto.value_injective : Function.Injective SdwanServiceL4Proto.value := by
  intro a b h
  cases a <;> cases b <;> first | rfl | exact absurd h (by decide)

theorem SdwanAddrObjectType.value_injective : Function.Injective SdwanAddrObjectType.value := by
  intro a b h
  cases a <;> cases b <;> first | rfl | exact absurd h (by decide)

/-- Decimal text tells numbers apart. -/
theorem intText_inj {a b : ℤ} : toString a=toString b ↔ a=b :=
  ⟨fun h => Int.repr_injective h,fun h => by rw [h]⟩

/-- The text of a network splits at its only slash. -/
theorem networkText_takeWhile (network : Ipv4Network) :
    (networkText network).toList.takeWhile (· ≠ '/')=(dotted network.networkAddress).toList := by
  have hdotted : ∀ c∈(dotted network.networkAddress).toList,c ≠ '/' := by
    intro c hc hslash
    have hdigit : ∀ m : ℕ,c∉(toString m).toList := by
      intro m hm
      rw [Nat.toString_eq_repr,Nat.toList_repr,hslash] at hm
      exact absurd (Nat.isDigit_of_mem_toDigits (by omega) (by omega) hm) (by decide)
    simp only [dotted,String.toList_append,List.mem_append] at hc
    rcases hc with ((((((h|h)|h)|h)|h)|h)|h)
    · exact hdigit _ h
    · simp [hslash] at h
    · exact hdigit _ h
    · simp [hslash] at h
    · exact hdigit _ h
    · simp [hslash] at h
    · exact hdigit _ h
  rw [networkText,String.toList_append,String.toList_append,List.append_assoc,
    List.takeWhile_append_of_pos (by simpa using hdotted)]
  simp

/-- The text of a network tells networks apart. -/
theorem networkText_injective : Function.Injective networkText := by
  intro a b h
  have hfirst : (dotted a.networkAddress).toList=(dotted b.networkAddress).toList := by
    rw [←networkText_takeWhile,←networkText_takeWhile,h]
  have haddress : (⟨a.networkAddress,a.lt⟩ : Ipv4Address)=⟨b.networkAddress,b.lt⟩ :=
    dotted_injective (String.toList_inj.mp hfirst)
  have hn : a.networkAddress=b.networkAddress := congrArg Ipv4Address.toInt haddress
  rw [networkText,networkText,hn,String.append_right_inj] at h
  have hp : a.prefixlen=b.prefixlen := Nat.repr_injective h
  cases a
  cases b
  simp_all

section Fingerprint

variable [PyUnicode]

/-- A zone is determined by its data. -/
theorem zoneData_inj {a b : SdwanZone} :
    (zoneData a).normalize=(zoneData b).normalize ↔ a=b := by
  refine (normalize_dict_inj (by rfl) (by simp)).trans ?_
  simp only [normalizeFields,normalize_text_inj,intText_inj,List.cons.injEq,Prod.mk.injEq,
    true_and,and_true,SdwanZoneType.value_injective.eq_iff]
  cases a
  cases b
  simp only [SdwanZone.mk.injEq]

/-- A network is determined by its data. -/
theorem networkData_inj {a b : SdwanNetwork} :
    (networkData a).normalize=(networkData b).normalize ↔ a=b := by
  refine (normalize_dict_inj (by rfl) (by simp)).trans ?_
  simp only [normalizeFields,normalize_text_inj,List.cons.injEq,Prod.mk.injEq,true_and,
    and_true,networkText_injective.eq_iff]
  cases a
  cases b
  simp only [SdwanNetwork.mk.injEq]

/-- An ordered range is determined by its two ends in any order. -/
theorem rangeData_inj {a b : ℤ × ℤ} (ha : a.1≤a.2) (hb : b.1≤b.2) :
    (rangeData a).normalize=(rangeData b).normalize ↔ a=b := by
  constructor
  · intro h
    rw [rangeData,rangeData,normalize_list_inj] at h
    simp only [List.map_cons,List.map_nil,List.perm_pair,List.cons.injEq,and_true,
      normalize_text_inj,intText_inj] at h
    apply Prod.ext
    · omega
    · omega
  · intro h
    rw [h]

/-- A service is determined by its data, up to the order of ranges and codes. -/
theorem serviceData_inj {a b : SdwanService}
    (ha : ∀ ranges,a.ranges=some ranges → ∀ range∈ranges,range.1≤range.2)
    (hb : ∀ ranges,b.ranges=some ranges → ∀ range∈ranges,range.1≤range.2) :
    (serviceData a).normalize=(serviceData b).normalize ↔
      serviceUpToOrder a=serviceUpToOrder b := by
  have hranges : (optionList (a.ranges.map (·.map rangeData))).normalize=
      (optionList (b.ranges.map (·.map rangeData))).normalize ↔
      a.ranges.map Multiset.ofList=b.ranges.map Multiset.ofList := by
    cases hra : a.ranges with
    | none => cases hrb : b.ranges <;> simp [optionList,PyData.normalize]
    | some xs =>
      cases hrb : b.ranges with
      | none => simp [optionList,PyData.normalize]
      | some ys =>
        simp only [optionList,Option.map_some,Option.some.injEq,Multiset.coe_eq_coe]
        rw [normalize_list_inj,List.map_map,List.map_map]
        refine (perm_map_iff (g:=id) fun x hx y hy => ?_).trans (by rw [List.map_id,List.map_id])
        exact rangeData_inj (ha xs hra x hx) (hb ys hrb y hy)
  have hcodes : (optionList (a.codes.map (·.map .text))).normalize=
      (optionList (b.codes.map (·.map .text))).normalize ↔
      a.codes.map Multiset.ofList=b.codes.map Multiset.ofList := by
    cases a.codes with
    | none => cases b.codes <;> simp [optionList,PyData.normalize]
    | some xs =>
      cases b.codes with
      | none => simp [optionList,PyData.normalize]
      | some ys =>
        simp only [optionList,Option.map_some,Option.some.injEq,Multiset.coe_eq_coe]
        rw [normalize_list_inj,List.map_map,List.map_map]
        exact List.map_perm_map_iff fun s t h => normalize_text_inj.mp h
  refine (normalize_dict_inj (by rfl) (by simp)).trans ?_
  simp only [normalizeFields,List.cons.injEq,Prod.mk.injEq,true_and,and_true,
    normalize_text_inj,intText_inj,SdwanServiceL4Proto.value_injective.eq_iff,hranges,hcodes,
    serviceUpToOrder]

omit [PyUnicode] in
/-- Whether an optional field is set follows from the type it belongs to. -/
theorem isSome_congr {α : Type} {p q : Prop} {a b : Option α} (hpq : p ↔ q)
    (ha : p → a.isSome=true) (ha' : ¬p → a=none) (hb : q → b.isSome=true) (hb' : ¬q → b=none) :
    a.isSome=b.isSome := by
  by_cases hp : p
  · rw [ha hp,hb (hpq.mp hp)]
  · rw [ha' hp,hb' fun hq => hp (hpq.mpr hq)]

/-- An optional field set in both objects or in neither is determined by its text. -/
theorem optionText_inj {α : Type} {f : α → String} (hf : Function.Injective f)
    {a b : Option α} (h : a.isSome=b.isSome) :
    (optionText (a.map f)).normalize=(optionText (b.map f)).normalize ↔ a=b := by
  cases a with
  | none =>
    cases b with
    | none => simp
    | some y => cases h
  | some x =>
    cases b with
    | none => cases h
    | some y =>
      rw [optionText,optionText,normalize_text_inj,Option.some.injEq]
      exact hf.eq_iff

/-- An address object is determined by its data, up to the order of parents. -/
theorem addrObjectData_inj {a b : SdwanAddrObject} (ha : OwnFields a) (hb : OwnFields b) :
    (addrObjectData a).normalize=(addrObjectData b).normalize ↔
      addrObjectUpToOrder a=addrObjectUpToOrder b := by
  have hid : Function.Injective fun s : String => s := fun _ _ h => h
  have hdotted : Function.Injective fun address : Ipv4Address => dotted address.toInt :=
    fun _ _ h => dotted_injective h
  have htext : Function.Injective fun n : ℤ => toString n := fun _ _ h => intText_inj.mp h
  have hparents : (PyData.list (a.parents.map fun parent => .text (toString parent))).normalize=
      (PyData.list (b.parents.map fun parent => .text (toString parent))).normalize ↔
      Multiset.ofList a.parents=Multiset.ofList b.parents := by
    rw [normalize_list_inj,List.map_map,List.map_map,Multiset.coe_eq_coe]
    exact List.map_perm_map_iff fun n m h => htext (normalize_text_inj.mp h)
  refine (normalize_dict_inj (by rfl) (by simp)).trans ?_
  simp only [normalizeFields,List.cons.injEq,Prod.mk.injEq,true_and,and_true,
    normalize_text_inj,intText_inj,SdwanAddrObjectType.value_injective.eq_iff,hparents,
    addrObjectUpToOrder,addrValues]
  by_cases htype : a.type=b.type
  · have hnetworkId := optionText_inj hid (isSome_congr (by rw [htype])
      (fun h => (a.network_set h).1) ha.networkId (fun h => (b.network_set h).1) hb.networkId)
    have hnetwork := optionText_inj networkText_injective (isSome_congr (by rw [htype])
      (fun h => (a.network_set h).2) ha.network (fun h => (b.network_set h).2) hb.network)
    have hprefixNet := optionText_inj networkText_injective (isSome_congr (by rw [htype])
      a.prefix_set ha.prefixNet b.prefix_set hb.prefixNet)
    have hhost := optionText_inj hdotted (isSome_congr (by rw [htype])
      a.host_set ha.host b.host_set hb.host)
    have hfqdn := optionText_inj hid (isSome_congr (by rw [htype])
      a.fqdn_set ha.fqdn b.fqdn_set hb.fqdn)
    have hfrom := optionText_inj hdotted (isSome_congr (by rw [htype])
      (fun h => (a.range_set h).1) ha.ipRangeFrom (fun h => (b.range_set h).1) hb.ipRangeFrom)
    have hto := optionText_inj hdotted (isSome_congr (by rw [htype])
      (fun h => (a.range_set h).2) ha.ipRangeTo (fun h => (b.range_set h).2) hb.ipRangeTo)
    have hgroup := optionText_inj htext (isSome_congr (by rw [htype])
      ha.addrGroup.mpr (fun h => Option.not_isSome_iff_eq_none.mp (h ∘ ha.addrGroup.mp))
      hb.addrGroup.mpr (fun h => Option.not_isSome_iff_eq_none.mp (h ∘ hb.addrGroup.mp)))
    simp only [Option.map_id'] at hnetworkId hfqdn
    rw [hnetworkId,hnetwork,hprefixNet,hhost,hfqdn,hfrom,hto,hgroup]
    exact ⟨fun h => ⟨h.1,h.2.2.1,h.2.1,h.2.2.2⟩,fun h => ⟨h.1,h.2.2.1,h.2.1,h.2.2.2⟩⟩
  · simp [htype]

/-- Without hash collisions, two catalogs the gateway can build share their
fingerprint exactly when they hold the same objects. -/
theorem getFingerprint_eq_iff {hashFunc : String → String} (hf : Function.Injective hashFunc)
    {c d : SdwanFullCatalog} (hc : GatewayCatalog c) (hd : GatewayCatalog d) :
    getFingerprint hashFunc c=getFingerprint hashFunc d ↔ SameObjects c d := by
  have hzones : (c.zones.map (PyData.normalize ∘ zoneData)).Perm
      (d.zones.map (PyData.normalize ∘ zoneData)) ↔ c.zones.Perm d.zones :=
    List.map_perm_map_iff fun _ _ h => zoneData_inj.mp h
  have hnetworks : (c.networks.map (PyData.normalize ∘ networkData)).Perm
      (d.networks.map (PyData.normalize ∘ networkData)) ↔ c.networks.Perm d.networks :=
    List.map_perm_map_iff fun _ _ h => networkData_inj.mp h
  have hservices : (c.services.map (PyData.normalize ∘ serviceData)).Perm
      (d.services.map (PyData.normalize ∘ serviceData)) ↔
      (c.services.map serviceUpToOrder).Perm (d.services.map serviceUpToOrder) :=
    perm_map_iff fun a ha b hb =>
      serviceData_inj (hc.ranges_ordered a ha) (hd.ranges_ordered b hb)
  have haddrs : (c.addrObjs.map (PyData.normalize ∘ addrObjectData)).Perm
      (d.addrObjs.map (PyData.normalize ∘ addrObjectData)) ↔
      (c.addrObjs.map addrObjectUpToOrder).Perm (d.addrObjs.map addrObjectUpToOrder) :=
    perm_map_iff fun a ha b hb =>
      addrObjectData_inj (hc.own_fields a ha) (hd.own_fields b hb)
  refine (jsonHash_inj hf).trans ((normalize_dict_inj (by rfl) (by simp)).trans ?_)
  simp only [normalizeFields,List.cons.injEq,Prod.mk.injEq,true_and,and_true,
    normalize_list_inj,List.map_map,hzones,hservices,haddrs,hnetworks]
  exact ⟨fun h => ⟨h.1,h.2.1,h.2.2.1,h.2.2.2⟩,
    fun h => ⟨h.zones,h.services,h.addrObjs,h.networks⟩⟩

end Fingerprint

/-- A service of two ranges, in the given order. -/
def webService (first second : ℤ × ℤ) : SdwanService :=
  .ofTcp 7 "web" first [second]

/-- A host in two groups, in the given order. -/
def serverObject (first second : ℤ) : SdwanAddrObject :=
  .ofHost 21 [first,second] "server" (.ofNat 3232235777)

/-- A catalog of one service and one address object. -/
def pairCatalog (service : SdwanService) (object : SdwanAddrObject) : SdwanFullCatalog :=
  ⟨[],[service],[object],[]⟩

/-- Reordered ranges and parents keep the fingerprint; a changed group does not. -/
theorem pairCatalog_fingerprints :
    @getFingerprint asciiUnicode id (pairCatalog (webService (80,80) (443,443))
        (serverObject 3 5))=
      @getFingerprint asciiUnicode id (pairCatalog (webService (443,443) (80,80))
        (serverObject 5 3)) ∧
    @getFingerprint asciiUnicode id (pairCatalog (webService (80,80) (443,443))
        (serverObject 3 5))≠
      @getFingerprint asciiUnicode id (pairCatalog (webService (80,80) (443,443))
        (serverObject 3 6)) := by
  have hbuilt : ∀ (a b : ℤ × ℤ) (n m : ℤ),a.1≤a.2 → b.1≤b.2 →
      GatewayCatalog (pairCatalog (webService a b) (serverObject n m)) := by
    intro a b n m ha hb
    refine ⟨?_,?_⟩
    · intro service hs ranges hr range hrange
      rw [pairCatalog,List.mem_singleton] at hs
      subst hs
      rw [webService,SdwanService.ofTcp,Option.some.injEq] at hr
      subst hr
      rcases List.mem_pair.mp hrange with rfl|rfl
      · exact ha
      · exact hb
    · intro object ho
      rw [pairCatalog,List.mem_singleton] at ho
      subst ho
      exact ⟨fun _ => rfl,fun _ => rfl,fun _ => rfl,fun h => absurd rfl h,fun _ => rfl,
        fun _ => rfl,fun _ => rfl,by simp [serverObject,SdwanAddrObject.ofHost]⟩
  have hiff := fun (a b c d : ℤ × ℤ) (n m k l : ℤ) (ha : a.1≤a.2) (hb : b.1≤b.2)
      (hc : c.1≤c.2) (hd : d.1≤d.2) =>
    @getFingerprint_eq_iff asciiUnicode id Function.injective_id _ _
      (hbuilt a b n m ha hb) (hbuilt c d k l hc hd)
  constructor
  · rw [hiff _ _ _ _ _ _ _ _ (by decide) (by decide) (by decide) (by decide)]
    refine ⟨List.Perm.refl _,List.Perm.of_eq ?_,List.Perm.of_eq ?_,List.Perm.refl _⟩
    · simp [pairCatalog,serviceUpToOrder,webService,SdwanService.ofTcp,List.Perm.swap]
    · simp [pairCatalog,addrObjectUpToOrder,addrValues,serverObject,SdwanAddrObject.ofHost,
        List.Perm.swap]
  · rw [ne_eq,hiff _ _ _ _ _ _ _ _ (by decide) (by decide) (by decide) (by decide)]
    intro h
    have hobjects := h.addrObjs
    simp [pairCatalog,addrObjectUpToOrder,serverObject,SdwanAddrObject.ofHost,
      List.perm_pair] at hobjects

end NspMigrator.SdwanFingerprint
