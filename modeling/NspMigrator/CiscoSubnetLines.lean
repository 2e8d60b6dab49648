import Mathlib
import NspMigrator.CiscoAddresses

/-!
# Subnet lines

A subnet line writes its block as an address and a mask. Its object stands
for the addresses that agree with the address under the mask exactly when the
mask is a netmask. The wildcard that routers write instead is read as the
netmask it inverts, and any other mask leaves the object unresolved.
-/

namespace NspMigrator.CiscoSubnetLines

open PyText Ipv4 Ipv4Text CanonicalModels CiscoParsedConfig CiscoAddresses

/-- The block a canonical object stands for. -/
def blockOf (fields : ObjectFields) : Option Ipv4Network :=
  if fields.objectKind=.subnet then fields.cidr.bind parseNetwork else none

/-- An object stands for the addresses that agree with one under a mask. -/
def StandsForLine (fields : ObjectFields) (address : Ipv4Address) (mask : ℕ) : Prop :=
  ∃ net,blockOf fields=some net ∧ ∀ x<2^32,
    (net.networkAddress≤x ∧ x≤net.broadcastAddress ↔ x&&&mask=address.toInt&&&mask)

/-- A dotted text has no slash. -/
theorem slash_notMem_dotted (n : ℕ) : '/'∉(dotted n).toList := by
  have hoctet : ∀ m : ℕ,'/'∉(toString m).toList :=
    fun m h => absurd (isDigit_of_mem_toString h) (by decide)
  rw [dotted_toList]
  simp only [List.intercalate_cons_cons,List.intercalate_singleton,List.mem_append,
    List.mem_singleton,hoctet,or_false,Char.reduceEq,not_false_eq_true]

/-- An address and a mask are read as the block of the mask. -/
theorem parseNetwork_slash {address : Ipv4Address} {mask : String} (hmask : '/'∉mask.toList) :
    (parseNetwork (dotted address.toInt++"/"++mask))=
      (makeNetmask mask).bind fun prefixlen =>
        if h : prefixlen≤32 then some (networkOf address prefixlen h) else none := by
  have hsplit : (dotted address.toInt++"/"++mask).toList.splitOn '/'=
      [(dotted address.toInt).toList,mask.toList] := by
    have hlist : (dotted address.toInt++"/"++mask).toList=
        List.intercalate ['/'] [(dotted address.toInt).toList,mask.toList] := by
      simp only [String.toList_append,List.intercalate_cons_cons,List.intercalate_singleton,
        List.append_assoc]
      rfl
    rw [hlist]
    refine List.splitOn_intercalate '/' ?_ (List.cons_ne_nil _ _)
    intro part hpart
    simp only [List.mem_cons,List.not_mem_nil,or_false] at hpart
    rcases hpart with rfl|rfl
    · exact slash_notMem_dotted _
    · exact hmask
  have haddress : parseAddress (dotted address.toInt)=some address :=
    parseAddress_eq_some.mpr rfl
  rw [parseNetwork,hsplit]
  simp only [String.ofList_toList,haddress,Option.bind_eq_bind,Option.bind_some]

/-- A prefix length is read back from its digits. -/
theorem makeNetmask_toString {prefixlen : ℕ} (h : prefixlen≤32) :
    makeNetmask (toString prefixlen)=some prefixlen := by
  have hall : ∀ n : Fin 33,prefixFromPrefixString (toString n.val)=some n.val := by
    decide +kernel
  rw [makeNetmask,hall ⟨prefixlen,Nat.lt_succ_of_le h⟩,Option.orElse_some]

/-- A mask has the prefix length it is read with. -/
theorem maskToPrefix_dotted {mask : ℕ} (hmask : mask<2^32) :
    maskToPrefix (dotted mask)=makeNetmask (dotted mask) := by
  have hzero : "0.0.0.0/"++dotted mask=dotted (⟨0,by decide⟩ : Ipv4Address).toInt++"/"++
      dotted mask := by
    rw [String.append_assoc]
    rfl
  rw [maskToPrefix,hzero,parseNetwork_slash (slash_notMem_dotted mask)]
  cases hread : makeNetmask (dotted mask) with
  | none => rfl
  | some found =>
    have hfound := ((makeNetmask_dotted hmask).mp hread).1
    rw [Option.bind_some,dif_pos hfound,Option.map_some]
    rfl

variable {objectKey name : String} {payload : AddressPayload} {address : Ipv4Address} {mask : ℕ}

/-- The block of a subnet line is the one its mask is read with. -/
theorem blockOf_subnet (hbody : payload.body=some (.subnet (dotted address.toInt) (dotted mask)))
    (hmask : mask<2^32) : blockOf (addrObjectFromPayload objectKey name payload)=
      (makeNetmask (dotted mask)).bind fun prefixlen =>
        if h : prefixlen≤32 then some (networkOf address prefixlen h) else none := by
  rw [addrObjectFromPayload,hbody]
  dsimp only
  rw [maskToPrefix_dotted hmask]
  cases hread : makeNetmask (dotted mask) with
  | none => rfl
  | some prefixlen =>
    have hle := ((makeNetmask_dotted hmask).mp hread).1
    have hdigits : '/'∉(toString prefixlen).toList :=
      fun h => absurd (isDigit_of_mem_toString h) (by decide)
    rw [blockOf,if_pos rfl,Option.bind_some,parseNetwork_slash hdigits,makeNetmask_toString hle]

/-- The object of a subnet line stands for the addresses of the line exactly when the mask is a
netmask. -/
theorem subnet_line_exact
    (hbody : payload.body=some (.subnet (dotted address.toInt) (dotted mask)))
    (hmask : mask<2^32) :
    StandsForLine (addrObjectFromPayload objectKey name payload) address mask ↔
      IsNetmask mask := by
  rw [StandsForLine,blockOf_subnet hbody hmask]
  constructor
  · rintro ⟨net,hblock,hall⟩
    by_contra hnot
    obtain ⟨prefixlen,hread,hnet⟩ := Option.bind_eq_some_iff.mp hblock
    obtain ⟨hle,heq|⟨-,rfl⟩⟩ := (makeNetmask_dotted hmask).mp hread
    · exact hnot ⟨prefixlen,hle,heq⟩
    · rw [dif_pos hle,Option.some.injEq] at hnet
      subst hnet
      obtain ⟨x,hx,hagrees,hdiffers⟩ := exists_and_hostmask address.lt hle hnot
      exact hdiffers ((mem_networkOf hle x).mp ((hall x hx).mpr hagrees))
  · rintro ⟨prefixlen,hle,rfl⟩
    have hread : makeNetmask (dotted (netmaskOf prefixlen))=some prefixlen :=
      (makeNetmask_dotted hmask).mpr ⟨hle,Or.inl rfl⟩
    refine ⟨networkOf address prefixlen hle,by rw [hread,Option.bind_some,dif_pos hle],?_⟩
    intro x hx
    rw [mem_networkOf,and_netmaskOf_eq_iff hx address.lt hle]

/-- The object is unresolved exactly when the mask is neither a netmask nor the inverse of one. -/
theorem subnet_line_unresolved_iff
    (hbody : payload.body=some (.subnet (dotted address.toInt) (dotted mask)))
    (hmask : mask<2^32) :
    (addrObjectFromPayload objectKey name payload).objectKind=.unresolvedAddr ↔
      ¬IsNetmask mask ∧ ¬IsHostmask mask := by
  have hkind : (addrObjectFromPayload objectKey name payload).objectKind=.unresolvedAddr ↔
      makeNetmask (dotted mask)=none := by
    rw [addrObjectFromPayload,hbody]
    dsimp only
    rw [maskToPrefix_dotted hmask]
    cases makeNetmask (dotted mask) with
    | none => simp
    | some prefixlen => simp
  rw [hkind,Option.eq_none_iff_forall_ne_some]
  constructor
  · intro hnone
    have hnet : ¬IsNetmask mask := by
      rintro ⟨prefixlen,hle,heq⟩
      exact hnone prefixlen ((makeNetmask_dotted hmask).mpr ⟨hle,Or.inl heq⟩)
    refine ⟨hnet,?_⟩
    rintro ⟨k,hle,heq⟩
    refine hnone (32-k) ((makeNetmask_dotted hmask).mpr ?_)
    exact ⟨Nat.sub_le 32 k,Or.inr ⟨hnet,by rw [heq,Nat.sub_sub_self hle]⟩⟩
  · rintro ⟨hnet,hhost⟩ prefixlen hread
    obtain ⟨hle,heq|⟨-,heq⟩⟩ := (makeNetmask_dotted hmask).mp hread
    · exact hnet ⟨prefixlen,hle,heq⟩
    · exact hhost ⟨32-prefixlen,Nat.sub_le 32 prefixlen,heq⟩

end NspMigrator.CiscoSubnetLines
