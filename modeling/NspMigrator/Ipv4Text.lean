import Mathlib
import NspMigrator.Ipv4

/-!
# Reading IPv4 addresses, masks and networks

The readings of the standard address library. A text is an address exactly
when it is the dotted text of one. A mask is a prefix length, a netmask, or
else a hostmask; nothing tells a hostmask from the netmask it inverts.
-/

namespace NspMigrator.Ipv4Text

open PyText Ipv4

/-- A nonempty text of ASCII digits short enough for a number. -/
def asciiDigits (cs : List Char) : Bool := !cs.isEmpty && cs.all Char.isDigit

/-- One octet: at most three digits, no leading zero, at most 255. -/
def parseOctet (cs : List Char) : Option ℕ :=
  if asciiDigits cs=true ∧ cs.length≤3 ∧ (cs=['0'] ∨ cs.head?≠some '0') then
    let octet := Nat.ofDigitChars 10 cs 0
    if 255<octet then none else some octet
  else none

/-- The number of an address text of four octets. -/
def ipIntFromString (s : String) : Option ℕ :=
  match s.toList.splitOn '.' with
  | [a,b,c,d] => do
    let a ← parseOctet a
    let b ← parseOctet b
    let c ← parseOctet c
    let d ← parseOctet d
    return ((a*256+b)*256+c)*256+d
  | _ => none

/-- The number of low zero bits among the given count of bits. -/
def countRighthandZeroBits : ℕ → ℕ → ℕ
  | 0,_ => 0
  | bits+1,number =>
    if number%2=1 then 0 else countRighthandZeroBits bits (number/2)+1

/-- The prefix length of a netmask number. -/
def prefixFromIpInt (ipInt : ℕ) : Option ℕ :=
  let trailingZeroes := countRighthandZeroBits 32 ipInt
  let prefixlen := 32-trailingZeroes
  if ipInt/2^trailingZeroes=2^prefixlen-1 then some prefixlen else none

/-- A prefix length in digits. -/
def prefixFromPrefixString (s : String) : Option ℕ :=
  if asciiDigits s.toList=true then
    let prefixlen := Nat.ofDigitChars 10 s.toList 0
    if prefixlen≤32 then some prefixlen else none
  else none

/-- A mask in dotted text: a netmask, or else a hostmask. -/
def prefixFromIpString (s : String) : Option ℕ := do
  let ipInt ← ipIntFromString s
  (prefixFromIpInt ipInt).orElse fun _ => prefixFromIpInt (ipInt^^^(2^32-1))

/-- The prefix length a mask text stands for. -/
def makeNetmask (arg : String) : Option ℕ :=
  (prefixFromPrefixString arg).orElse fun _ => prefixFromIpString arg

/-- The block of a given prefix length an address lies in. -/
def networkOf (address : Ipv4Address) (prefixlen : ℕ) (h : prefixlen≤32) : Ipv4Network where
  networkAddress := address.toInt/2^(32-prefixlen)*2^(32-prefixlen)
  prefixlen := prefixlen
  prefixlen_le := h
  lt := lt_of_le_of_lt (Nat.div_mul_le_self _ _) address.lt
  aligned := Nat.mul_mod_left _ _

/-- The address a text stands for. -/
def parseAddress (s : String) : Option Ipv4Address := do
  let ipInt ← ipIntFromString s
  if h : ipInt<2^32 then some ⟨ipInt,h⟩ else none

/-- The network a text stands for, host bits dropped. -/
def parseNetwork (s : String) : Option Ipv4Network :=
  match s.toList.splitOn '/' with
  | [address] => do
    let address ← parseAddress (String.ofList address)
    some (networkOf address 32 le_rfl)
  | [address,mask] => do
    let address ← parseAddress (String.ofList address)
    let prefixlen ← makeNetmask (String.ofList mask)
    if h : prefixlen≤32 then some (networkOf address prefixlen h) else none
  | _ => none

/-- Digits without a leading zero are the digits of their number. -/
theorem toDigits_ofDigitChars {cs : List Char} (hd : ∀ c∈cs,c.isDigit=true) (hne : cs≠[])
    (hz : cs=['0'] ∨ cs.head?≠some '0') : Nat.toDigits 10 (Nat.ofDigitChars 10 cs 0)=cs := by
  have hchar : ∀ c : Char,c.isDigit=true → ∃ n<10,c=n.digitChar := by
    intro c hc
    have hr : 48≤c.toNat ∧ c.toNat≤57 := by
      simpa [Char.isDigit,UInt32.le_iff_toNat_le] using hc
    refine ⟨c.toNat-48,by omega,?_⟩
    apply Char.toNat_inj.mp
    rw [Nat.toNat_digitChar_of_lt_ten (by omega)]
    omega
  induction cs using List.reverseRecOn with
  | nil => exact absurd rfl hne
  | append_singleton cs c ih =>
    obtain ⟨n,hn,rfl⟩ := hchar c (hd c (by simp))
    by_cases hcs : cs=[]
    · subst hcs
      rw [List.nil_append,Nat.ofDigitChars_cons_digitChar_of_lt_ten hn,Nat.ofDigitChars_nil,
        Nat.mul_zero,Nat.zero_add,Nat.toDigits_of_lt_base hn]
    · have hdcs : ∀ c∈cs,c.isDigit=true := fun d hm => hd d (List.mem_append_left _ hm)
      have hhead : (cs++[n.digitChar]).head?=cs.head? := by
        cases cs with
        | nil => exact absurd rfl hcs
        | cons d ds => rfl
      have hfirst : cs.head?≠some '0' := by
        rcases hz with hz|hz
        · have hl := congrArg List.length hz
          have hp := List.length_pos_iff.mpr hcs
          simp only [List.length_append,List.length_singleton] at hl
          omega
        · rwa [hhead] at hz
      have hih := ih hdcs hcs (Or.inr hfirst)
      have hpos : 0<Nat.ofDigitChars 10 cs 0 := by
        rw [Nat.pos_iff_ne_zero]
        intro h0
        rw [h0,Nat.toDigits_zero] at hih
        rw [←hih] at hfirst
        exact hfirst rfl
      rw [Nat.ofDigitChars_append,Nat.ofDigitChars_cons_digitChar_of_lt_ten hn,
        Nat.ofDigitChars_nil,←Nat.toDigits_append_toDigits (by omega) hpos hn,hih,
        Nat.toDigits_of_lt_base hn]

/-- An octet text is the decimal text of a number of eight bits. -/
theorem parseOctet_eq_some {cs : List Char} {n : ℕ} :
    parseOctet cs=some n ↔ n<256 ∧ cs=(toString n).toList := by
  constructor
  · intro h
    rw [parseOctet] at h
    split at h
    · next hc =>
      obtain ⟨hd,-,hz⟩ := hc
      simp only [asciiDigits,Bool.and_eq_true,Bool.not_eq_true',List.isEmpty_eq_false_iff,
        List.all_eq_true] at hd
      dsimp only at h
      split at h
      · cases h
      · next hle =>
        rw [Option.some.injEq] at h
        subst h
        refine ⟨by omega,?_⟩
        rw [Nat.toString_eq_repr,Nat.toList_repr,toDigits_ofDigitChars hd.2 hd.1 hz]
    · cases h
  · rintro ⟨hn,rfl⟩
    have hall : ∀ n : Fin 256,parseOctet (toString n.val).toList=some n.val := by
      decide +kernel
    exact hall ⟨n,hn⟩

/-- The characters of a dotted text. -/
theorem dotted_toList (n : ℕ) : (dotted n).toList=List.intercalate ['.']
    [(toString (n/2^24%2^8)).toList,(toString (n/2^16%2^8)).toList,
      (toString (n/2^8%2^8)).toList,(toString (n%2^8)).toList] := by
  simp only [dotted,String.toList_append,List.intercalate_cons_cons,List.intercalate_singleton,
    List.append_assoc]
  rfl

/-- A dotted text splits into its four octets. -/
theorem splitOn_dotted (n : ℕ) : (dotted n).toList.splitOn '.'=
    [(toString (n/2^24%2^8)).toList,(toString (n/2^16%2^8)).toList,
      (toString (n/2^8%2^8)).toList,(toString (n%2^8)).toList] := by
  have hdigit : ∀ m : ℕ,'.'∉(toString m).toList := by
    intro m hm
    rw [Nat.toString_eq_repr,Nat.toList_repr] at hm
    have hd := Nat.isDigit_of_mem_toDigits (by omega) (by omega) hm
    exact absurd hd (by decide)
  rw [dotted_toList]
  apply List.splitOn_intercalate
  · intro l hl
    simp only [List.mem_cons,List.not_mem_nil,or_false] at hl
    rcases hl with rfl|rfl|rfl|rfl
    · exact hdigit _
    · exact hdigit _
    · exact hdigit _
    · exact hdigit _
  · exact List.cons_ne_nil _ _

/-- A text is an address exactly when it is the dotted text of one. -/
theorem ipIntFromString_eq_some {s : String} {n : ℕ} :
    ipIntFromString s=some n ↔ n<2^32 ∧ s=dotted n := by
  constructor
  · intro h
    rw [ipIntFromString] at h
    split at h
    · next a b c d hs =>
      simp only [Option.bind_eq_bind,Option.bind_eq_some_iff,Option.pure_def,
        Option.some.injEq] at h
      obtain ⟨x,hx,y,hy,z,hz,w,hw,rfl⟩ := h
      obtain ⟨hxl,rfl⟩ := parseOctet_eq_some.mp hx
      obtain ⟨hyl,rfl⟩ := parseOctet_eq_some.mp hy
      obtain ⟨hzl,rfl⟩ := parseOctet_eq_some.mp hz
      obtain ⟨hwl,rfl⟩ := parseOctet_eq_some.mp hw
      refine ⟨by omega,?_⟩
      apply String.toList_inj.mp
      have h1 : (((x*256+y)*256+z)*256+w)/2^24%2^8=x := by omega
      have h2 : (((x*256+y)*256+z)*256+w)/2^16%2^8=y := by omega
      have h3 : (((x*256+y)*256+z)*256+w)/2^8%2^8=z := by omega
      have h4 : (((x*256+y)*256+z)*256+w)%2^8=w := by omega
      rw [dotted_toList,h1,h2,h3,h4,←hs,List.intercalate_splitOn]
    · cases h
  · rintro ⟨hn,rfl⟩
    have hoctet : ∀ m : ℕ,parseOctet (toString (m%2^8)).toList=some (m%2^8) := fun m =>
      parseOctet_eq_some.mpr ⟨Nat.mod_lt m (by omega),rfl⟩
    rw [ipIntFromString,splitOn_dotted]
    simp only [hoctet,Option.bind_eq_bind,Option.bind_some,Option.pure_def,Option.some.injEq]
    omega

/-- An address text is read exactly when it is the dotted text of an address. -/
theorem parseAddress_eq_some {s : String} {address : Ipv4Address} :
    parseAddress s=some address ↔ s=dotted address.toInt := by
  simp only [parseAddress,Option.bind_eq_bind,Option.bind_eq_some_iff]
  constructor
  · rintro ⟨n,hn,ha⟩
    obtain ⟨hlt,hs⟩ := ipIntFromString_eq_some.mp hn
    rw [dif_pos hlt,Option.some.injEq] at ha
    rw [←ha]
    exact hs
  · intro hs
    refine ⟨address.toInt,ipIntFromString_eq_some.mpr ⟨address.lt,hs⟩,?_⟩
    rw [dif_pos address.lt]

/-- Dotted texts tell addresses apart. -/
theorem dotted_injective {a b : Ipv4Address} (h : dotted a.toInt=dotted b.toInt) : a=b := by
  have ha := parseAddress_eq_some.mpr (rfl : dotted a.toInt=dotted a.toInt)
  have hb := parseAddress_eq_some.mpr h
  rw [ha,Option.some.injEq] at hb
  exact hb

/-- Low zero bits divide out, and only all of them end the count early. -/
theorem countRighthandZeroBits_spec (bits number : ℕ) :
    countRighthandZeroBits bits number≤bits ∧
      2^countRighthandZeroBits bits number∣number ∧
      (countRighthandZeroBits bits number=bits ∨
        number/2^countRighthandZeroBits bits number%2=1) := by
  induction bits generalizing number with
  | zero => simp [countRighthandZeroBits]
  | succ bits ih =>
    by_cases hodd : number%2=1
    · simp [countRighthandZeroBits,hodd]
    · obtain ⟨hle,hdvd,hend⟩ := ih (number/2)
      rw [countRighthandZeroBits,if_neg hodd]
      refine ⟨by omega,?_,?_⟩
      · rw [pow_succ,mul_comm]
        obtain ⟨q,hq⟩ := hdvd
        refine ⟨q,?_⟩
        rw [mul_assoc,←hq]
        omega
      · rw [pow_succ,mul_comm,←Nat.div_div_eq_div_mul]
        rcases hend with hend|hend
        · exact Or.inl (by omega)
        · exact Or.inr hend

/-- The netmask of a prefix length. -/
def netmaskOf (prefixlen : ℕ) : ℕ := 2^32-2^(32-prefixlen)

theorem netmaskOf_eq_mul {p : ℕ} (h : p≤32) : netmaskOf p=(2^p-1)*2^(32-p) := by
  rw [netmaskOf,Nat.sub_mul,one_mul,←pow_add,Nat.add_sub_cancel' h]

/-- A number is read as a netmask exactly when it is one. -/
theorem prefixFromIpInt_eq_some {n p : ℕ} (hn : n<2^32) :
    prefixFromIpInt n=some p ↔ p≤32 ∧ n=netmaskOf p := by
  obtain ⟨hle,hdvd,hend⟩ := countRighthandZeroBits_spec 32 n
  rw [prefixFromIpInt]
  constructor
  · intro h
    split at h
    · next hone =>
      rw [Option.some.injEq] at h
      subst h
      refine ⟨by omega,?_⟩
      rw [netmaskOf_eq_mul (by omega),←hone,Nat.sub_sub_self hle,Nat.div_mul_cancel hdvd]
    · cases h
  · rintro ⟨hp,he⟩
    have htz : countRighthandZeroBits 32 n=32-p := by
      rw [netmaskOf_eq_mul hp] at he
      have hk : 0<2^(32-p) := by positivity
      rcases Nat.eq_zero_or_pos p with hp0|hp0
      · subst hp0
        rw [pow_zero,Nat.sub_self,zero_mul] at he
        subst he
        decide
      · have hodd : (2^p-1)%2=1 := by
          obtain ⟨q,rfl⟩ : ∃ q,p=q+1 := ⟨p-1,by omega⟩
          have hq : 0<2^q := by positivity
          rw [pow_succ]
          omega
        set t := countRighthandZeroBits 32 n with ht
        rcases Nat.lt_trichotomy t (32-p) with hlt|heq|hgt
        · exfalso
          rcases hend with hend|hend
          · omega
          · obtain ⟨d,hd⟩ : ∃ d,32-p=t+(d+1) := ⟨32-p-t-1,by omega⟩
            have hdiv : n/2^t=(2^p-1)*2^d*2 := by
              have h2t : 0<2^t := by positivity
              rw [he,hd,pow_add,pow_succ]
              apply Nat.div_eq_of_eq_mul_left h2t
              ring
            omega
        · exact heq
        · exfalso
          obtain ⟨d,hd⟩ : ∃ d,t=32-p+(d+1) := ⟨t-(32-p)-1,by omega⟩
          obtain ⟨q,hq⟩ := hdvd
          have hm : 2^p-1=2^d*q*2 := by
            apply Nat.eq_of_mul_eq_mul_right hk
            rw [←he,hq,hd,pow_add,pow_succ]
            ring
          omega
    have hpow : n/2^(32-p)=2^p-1 := by
      have hk : 0<2^(32-p) := by positivity
      rw [he,netmaskOf_eq_mul hp,Nat.mul_div_cancel _ hk]
    simp only [htz,hpow,Nat.sub_sub_self hp,if_true]

/-- A number whose ones are its leading bits. -/
def IsNetmask (n : ℕ) : Prop := ∃ p≤32,n=netmaskOf p

/-- A number whose ones are its trailing bits. -/
def IsHostmask (n : ℕ) : Prop := ∃ k≤32,n=2^k-1

instance (n : ℕ) : Decidable (IsNetmask n) :=
  decidable_of_iff (∃ p : Fin 33,n=netmaskOf p)
    ⟨fun ⟨p,hp⟩ => ⟨p,Nat.le_of_lt_succ p.2,hp⟩,fun ⟨p,hp,he⟩ => ⟨⟨p,Nat.lt_succ_of_le hp⟩,he⟩⟩

instance (n : ℕ) : Decidable (IsHostmask n) :=
  decidable_of_iff (∃ k : Fin 33,n=2^k.val-1)
    ⟨fun ⟨k,hk⟩ => ⟨k,Nat.le_of_lt_succ k.2,hk⟩,fun ⟨k,hk,he⟩ => ⟨⟨k,Nat.lt_succ_of_le hk⟩,he⟩⟩

/-- Inverting all bits of a number of 32 bits. -/
theorem xor_allOnes {n : ℕ} (h : n<2^32) : n^^^(2^32-1)=2^32-1-n := by
  apply Nat.eq_of_testBit_eq
  intro i
  rw [Nat.testBit_xor,Nat.testBit_two_pow_sub_one]
  have hs : 2^32-1-n=2^32-(n+1) := by omega
  rw [hs,Nat.testBit_two_pow_sub_succ h]
  by_cases hi : i<32
  · simp [hi]
  · have hz : n.testBit i=false := Nat.testBit_lt_two_pow (lt_of_lt_of_le h
      (Nat.pow_le_pow_right (by omega) (by omega)))
    simp [hi,hz]

/-- Netmasks of different lengths differ. -/
theorem netmaskOf_inj {p q : ℕ} (hp : p≤32) (hq : q≤32) (h : netmaskOf p=netmaskOf q) : p=q := by
  have hp' : 2^(32-p)≤2^32 := Nat.pow_le_pow_right (by omega) (by omega)
  have hq' : 2^(32-q)≤2^32 := Nat.pow_le_pow_right (by omega) (by omega)
  have he : 2^(32-p)=2^(32-q) := by
    rw [netmaskOf,netmaskOf] at h
    omega
  have hpow := Nat.pow_right_injective (le_refl 2) he
  omega

/-- A dotted text is not a prefix length. -/
theorem prefixFromPrefixString_dotted (n : ℕ) : prefixFromPrefixString (dotted n)=none := by
  have hdot : '.'∈(dotted n).toList := by
    rw [dotted_toList,List.intercalate_cons_cons]
    simp
  have hn : ¬asciiDigits (dotted n).toList=true := by
    intro h
    simp only [asciiDigits,Bool.and_eq_true,List.all_eq_true] at h
    exact absurd (h.2 _ hdot) (by decide)
  rw [prefixFromPrefixString,if_neg hn]

/-- A dotted mask is read as the netmask it is, or else as the hostmask it is. -/
theorem makeNetmask_dotted {n p : ℕ} (hn : n<2^32) :
    makeNetmask (dotted n)=some p ↔
      p≤32 ∧ (n=netmaskOf p ∨ ¬IsNetmask n ∧ n=2^(32-p)-1) := by
  have hip : ipIntFromString (dotted n)=some n := ipIntFromString_eq_some.mpr ⟨hn,rfl⟩
  have hx : n^^^(2^32-1)<2^32 := by
    rw [xor_allOnes hn]
    omega
  have hread : makeNetmask (dotted n)=
      (prefixFromIpInt n).orElse fun _ => prefixFromIpInt (n^^^(2^32-1)) := by
    rw [makeNetmask,prefixFromPrefixString_dotted,Option.orElse_none,prefixFromIpString,hip]
    rfl
  have hflip : ∀ q≤32,(n^^^(2^32-1)=netmaskOf q ↔ n=2^(32-q)-1) := by
    intro q hq
    have hq' : 2^(32-q)≤2^32 := Nat.pow_le_pow_right (by omega) (by omega)
    have hq0 : 0<2^(32-q) := by positivity
    rw [xor_allOnes hn,netmaskOf]
    omega
  rw [hread]
  cases hnet : prefixFromIpInt n with
  | some q =>
    obtain ⟨hq,he⟩ := (prefixFromIpInt_eq_some hn).mp hnet
    rw [Option.orElse_some,Option.some.injEq]
    constructor
    · intro hqp
      subst hqp
      exact ⟨hq,Or.inl he⟩
    · rintro ⟨hp,hm|⟨hm,-⟩⟩
      · exact netmaskOf_inj hq hp (he.symm.trans hm)
      · exact absurd ⟨q,hq,he⟩ hm
  | none =>
    have hnot : ¬IsNetmask n := by
      rintro ⟨q,hq,he⟩
      have hs := (prefixFromIpInt_eq_some hn).mpr ⟨hq,he⟩
      rw [hnet] at hs
      cases hs
    rw [Option.orElse_none,prefixFromIpInt_eq_some hx]
    constructor
    · rintro ⟨hp,he⟩
      exact ⟨hp,Or.inr ⟨hnot,(hflip p hp).mp he⟩⟩
    · rintro ⟨hp,hm|⟨-,hm⟩⟩
      · exact absurd ⟨p,hp,hm⟩ hnot
      · exact ⟨hp,(hflip p hp).mpr hm⟩

/-- An address lies in a block exactly when it has the block's leading bits. -/
theorem mem_networkOf {a : Ipv4Address} {p : ℕ} (hp : p≤32) (x : ℕ) :
    (networkOf a p hp).networkAddress≤x ∧ x≤(networkOf a p hp).broadcastAddress ↔
      x/2^(32-p)=a.toInt/2^(32-p) := by
  have hk : 0<2^(32-p) := by positivity
  rw [Ipv4Network.broadcastAddress]
  simp only [networkOf]
  rw [Nat.div_eq_iff hk,mul_comm]
  omega

/-- The leading bits are what a netmask keeps. -/
theorem and_netmaskOf {x p : ℕ} (hx : x<2^32) (hp : p≤32) :
    x&&&netmaskOf p=x/2^(32-p)*2^(32-p) := by
  apply Nat.eq_of_testBit_eq
  intro i
  rw [Nat.testBit_and,netmaskOf_eq_mul hp,Nat.testBit_mul_two_pow,Nat.testBit_mul_two_pow,
    Nat.testBit_two_pow_sub_one,Nat.testBit_div_two_pow]
  by_cases hi : 32-p≤ i
  · have he : i-(32-p)+(32-p)=i := by omega
    by_cases h32 : i<32
    · have hlt : i-(32-p)<p := by omega
      simp [hi,he,hlt]
    · have hz : x.testBit i=false := Nat.testBit_lt_two_pow (lt_of_lt_of_le hx
        (Nat.pow_le_pow_right (by omega) (by omega)))
      simp [he,hz]
  · simp [hi]

/-- Two addresses agree under a netmask exactly when they lie in one block. -/
theorem and_netmaskOf_eq_iff {x y p : ℕ} (hx : x<2^32) (hy : y<2^32) (hp : p≤32) :
    x&&&netmaskOf p=y&&&netmaskOf p ↔ x/2^(32-p)=y/2^(32-p) := by
  have hk : 0<2^(32-p) := by positivity
  rw [and_netmaskOf hx hp,and_netmaskOf hy hp,Nat.mul_left_inj hk.ne']

/-- A hostmask that is no netmask never keeps the addresses of the block it is read as. -/
theorem exists_and_hostmask {y p : ℕ} (hy : y<2^32) (hp : p≤32)
    (hn : ¬IsNetmask (2^(32-p)-1)) :
    ∃ x<2^32,x&&&(2^(32-p)-1)=y&&&(2^(32-p)-1) ∧ x/2^(32-p)≠y/2^(32-p) := by
  have hk : 32-p<32 := by
    by_contra hge
    have h0 : p=0 := by omega
    subst h0
    exact hn ⟨32,le_rfl,by decide⟩
  -- flipping the top bit leaves the kept low bits alone
  refine ⟨y^^^2^31,Nat.xor_lt_two_pow hy (by decide),?_,?_⟩
  · rw [Nat.and_two_pow_sub_one_eq_mod,Nat.and_two_pow_sub_one_eq_mod]
    apply Nat.eq_of_testBit_eq
    intro i
    rw [Nat.testBit_mod_two_pow,Nat.testBit_mod_two_pow,Nat.testBit_xor,Nat.testBit_two_pow]
    by_cases hi : i<32-p
    · have hne : 31≠i := by omega
      simp [hne]
    · simp [hi]
  · intro he
    have hb := congrArg (fun m => m.testBit (31-(32-p))) he
    simp only [Nat.testBit_div_two_pow,Nat.testBit_xor,Nat.testBit_two_pow] at hb
    have hs : 31-(32-p)+(32-p)=31 := by omega
    simp [hs] at hb

end NspMigrator.Ipv4Text
