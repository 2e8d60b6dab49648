import Mathlib
import NspMigrator.PyText

/-!
# Quoted text and representations

Escaping one character is a code with a decoder; a quoted string is then
uniquely readable, whatever follows it. Representations of strings, numbers
and tuples are built from such codes, so a representation determines the
value it stands for.
-/

namespace NspMigrator.PyRepr

open PyText

/-- An escape of single characters that can be read back inside a quote. -/
structure CharCode where
  /-- The closing quote. -/
  quote : Char
  /-- The text standing for one character. -/
  encode : Char → List Char
  /-- Read one character back. -/
  decode : List Char → Option (Char × List Char)
  /-- Reading undoes writing, whatever follows. -/
  decode_encode : ∀ c rest,decode (encode c++rest)=some (c,rest)
  /-- No character is written as text beginning with the closing quote. -/
  encode_head : ∀ c,∃ d tail,encode c=d::tail ∧ d≠quote

/-- The characters of a string, each escaped, up to the closing quote. -/
def CharCode.body (code : CharCode) (cs : List Char) : List Char :=
  cs.flatMap code.encode++[code.quote]

/-- Two quoted bodies that agree with what follows them are the same body. -/
theorem CharCode.body_append_inj (code : CharCode) {cs ds s t : List Char}
    (h : code.body cs++s=code.body ds++t) : cs=ds ∧ s=t := by
  induction cs generalizing ds with
  | nil =>
    cases ds with
    | nil => exact ⟨rfl,by simpa [CharCode.body] using h⟩
    | cons d ds =>
      obtain ⟨e,tail,he,hne⟩ := code.encode_head d
      simp only [CharCode.body,List.flatMap_nil,List.flatMap_cons,List.nil_append,he,
        List.cons_append,List.cons.injEq] at h
      exact absurd h.1.symm hne
  | cons c cs ih =>
    cases ds with
    | nil =>
      obtain ⟨e,tail,he,hne⟩ := code.encode_head c
      simp only [CharCode.body,List.flatMap_nil,List.flatMap_cons,List.nil_append,he,
        List.cons_append,List.cons.injEq] at h
      exact absurd h.1 hne
    | cons d ds =>
      have hb : code.encode c++(code.body cs++s)=code.encode d++(code.body ds++t) := by
        simpa only [CharCode.body,List.flatMap_cons,List.append_assoc] using h
      have hd := congrArg code.decode hb
      rw [code.decode_encode,code.decode_encode,Option.some.injEq,Prod.mk.injEq] at hd
      obtain ⟨hcs,hst⟩ := ih hd.2
      exact ⟨by rw [hd.1,hcs],hst⟩

/-- The lower-case hexadecimal digit of a value below sixteen. -/
def hexDigit (n : ℕ) : Char :=
  if n<10 then Char.ofNat (48+n) else Char.ofNat (87+n)

/-- The value of a lower-case hexadecimal digit. -/
def hexValue (c : Char) : ℕ := if c.toNat<58 then c.toNat-48 else c.toNat-87

/-- Hexadecimal digits of a fixed width. -/
def hex : ℕ → ℕ → List Char
  | 0,_ => []
  | width+1,n => hex width (n/16)++[hexDigit (n%16)]

/-- The value of a list of hexadecimal digits. -/
def unhex (cs : List Char) : ℕ := cs.foldl (fun acc c => acc*16+hexValue c) 0

theorem hexValue_hexDigit {n : ℕ} (h : n<16) : hexValue (hexDigit n)=n := by
  interval_cases n <;> rfl

theorem hex_length (width n : ℕ) : (hex width n).length=width := by
  induction width generalizing n with
  | zero => rfl
  | succ width ih => simp only [hex,List.length_append,ih,List.length_cons,List.length_nil]

/-- Fixed-width hexadecimal is read back below its capacity. -/
theorem unhex_hex {width n : ℕ} (h : n<16^width) : unhex (hex width n)=n := by
  induction width generalizing n with
  | zero =>
    have hz : n=0 := by simpa using h
    rw [hz]
    rfl
  | succ width ih =>
    have hd : n/16<16^width := by
      rw [Nat.div_lt_iff_lt_mul (by norm_num)]
      rwa [pow_succ] at h
    have hr := ih hd
    rw [unhex] at hr
    rw [hex,unhex,List.foldl_append,hr,List.foldl_cons,List.foldl_nil,
      hexValue_hexDigit (Nat.mod_lt n (by norm_num))]
    omega

/-- Read a character from a fixed number of hexadecimal digits. -/
def readHex (width : ℕ) (cs : List Char) : Option (Char × List Char) :=
  if width≤cs.length then some (Char.ofNat (unhex (cs.take width)),cs.drop width) else none

/-- A character code written in enough digits is read back. -/
theorem readHex_hex {width : ℕ} {c : Char} (h : c.toNat<16^width) (rest : List Char) :
    readHex width (hex width c.toNat++rest)=some (c,rest) := by
  have hl := hex_length width c.toNat
  rw [readHex,if_pos (by simp only [List.length_append,hl]; omega),List.take_left' hl,
    List.drop_left' hl,unhex_hex h,Char.ofNat_toNat]

/-- Every character code fits eight hexadecimal digits. -/
theorem toNat_lt_hex (c : Char) : c.toNat<16^8 := by
  have h := c.valid
  have hv : c.toNat<1114112 := by
    rcases h with h|h
    · exact lt_of_lt_of_le h (by norm_num)
    · exact h.2
  exact hv.trans (by norm_num)

/-- Read one character of a representation back. -/
def decodeReprChar : List Char → Option (Char × List Char)
  | '\\' :: 't' :: rest => some ('\t',rest)
  | '\\' :: 'n' :: rest => some ('\n',rest)
  | '\\' :: 'r' :: rest => some ('\r',rest)
  | '\\' :: 'x' :: rest => readHex 2 rest
  | '\\' :: 'u' :: rest => readHex 4 rest
  | '\\' :: 'U' :: rest => readHex 8 rest
  | '\\'::c::rest => some (c,rest)
  | c::rest => some (c,rest)
  | [] => none

/-- A character other than the backslash stands for itself. -/
theorem decodeReprChar_of_ne {c : Char} (h : c≠ '\\') (rest : List Char) :
    decodeReprChar (c::rest)=some (c,rest) := by
  unfold decodeReprChar
  split <;> simp_all

/-- The quote of a representation: double only around an apostrophe without
a double quote. -/
def reprQuote (cs : List Char) : Char :=
  if '\x27'∈cs ∧ '"'∉cs then '"' else '\x27'

theorem reprQuote_cases (cs : List Char) : reprQuote cs= '\x27' ∨ reprQuote cs= '"' := by
  unfold reprQuote
  split
  · exact Or.inr rfl
  · exact Or.inl rfl

/-- A value inside a tuple: nothing, a number, a text, or a tuple of texts. -/
inductive PyAtom where
  | none
  | int (n : ℤ)
  | text (s : String)
  | tuple (items : List String)
  deriving DecidableEq

/-- The items after the first of a tuple, up to the closing parenthesis. -/
def tupleTail {α : Type} (item : α → List Char) : List α → List Char
  | [] => [')']
  | x::xs => ',' :: ' ' :: (item x++tupleTail item xs)

/-- A tuple, with the comma a single item needs. -/
def tupleChars {α : Type} (item : α → List Char) : List α → List Char
  | [] => ['(',')']
  | [x] => '('::(item x++[',',')'])
  | x::y::xs => '('::(item x++tupleTail item (y::xs))

/-- What may follow an item of a tuple. -/
def Follows (s : List Char) : Prop := ∃ c tail,s=c::tail ∧ (c= ',' ∨ c= ')')

/-- Item texts that are uniquely readable before a comma or parenthesis. -/
def Readable {α : Type} (item : α → List Char) : Prop :=
  (∀ a,∃ c tail,item a=c::tail ∧ c≠ ')') ∧
    ∀ a b s t,Follows s → Follows t → item a++s=item b++t → a=b ∧ s=t

theorem follows_tupleTail {α : Type} (item : α → List Char) (xs : List α) (s : List Char) :
    Follows (tupleTail item xs++s) := by
  cases xs with
  | nil => exact ⟨')',s,rfl,Or.inr rfl⟩
  | cons x xs => exact ⟨',',_,rfl,Or.inl rfl⟩

/-- The later items of a tuple are uniquely readable. -/
theorem tupleTail_append_inj {α : Type} {item : α → List Char} (hr : Readable item)
    {xs ys : List α} {s t : List Char} (h : tupleTail item xs++s=tupleTail item ys++t) :
    xs=ys ∧ s=t := by
  induction xs generalizing ys with
  | nil =>
    cases ys with
    | nil => exact ⟨rfl,by simpa [tupleTail] using h⟩
    | cons y ys => simp [tupleTail] at h
  | cons x xs ih =>
    cases ys with
    | nil => simp [tupleTail] at h
    | cons y ys =>
      simp only [tupleTail,List.cons_append,List.append_assoc,List.cons.injEq,true_and] at h
      obtain ⟨hx,hs⟩ := hr.2 x y _ _ (follows_tupleTail item xs s) (follows_tupleTail item ys t) h
      obtain ⟨hxs,hst⟩ := ih hs
      exact ⟨by rw [hx,hxs],hst⟩

/-- Tuples are uniquely readable, whatever follows them. -/
theorem tupleChars_append_inj {α : Type} {item : α → List Char} (hr : Readable item)
    {xs ys : List α} {s t : List Char} (h : tupleChars item xs++s=tupleChars item ys++t) :
    xs=ys ∧ s=t := by
  have hfirst : ∀ x : α,∀ u v,item x++u≠ ')'::v := by
    intro x u v he
    obtain ⟨c,tail,hc,hne⟩ := hr.1 x
    rw [hc,List.cons_append,List.cons.injEq] at he
    exact hne he.1
  have hone : ∀ u,Follows ([',',')']++u) := fun u => ⟨',',_,rfl,Or.inl rfl⟩
  match xs,ys with
  | [],[] => exact ⟨rfl,by simpa [tupleChars] using h⟩
  | [],[y] =>
    simp only [tupleChars,List.cons_append,List.append_assoc,List.cons.injEq,true_and] at h
    exact absurd h.symm (hfirst y _ _)
  | [],y::z::ys =>
    simp only [tupleChars,List.cons_append,List.append_assoc,List.cons.injEq,true_and] at h
    exact absurd h.symm (hfirst y _ _)
  | [x],[] =>
    simp only [tupleChars,List.cons_append,List.append_assoc,List.cons.injEq,true_and] at h
    exact absurd h (hfirst x _ _)
  | x::z::xs,[] =>
    simp only [tupleChars,List.cons_append,List.append_assoc,List.cons.injEq,true_and] at h
    exact absurd h (hfirst x _ _)
  | [x],[y] =>
    simp only [tupleChars,List.cons_append,List.append_assoc,List.cons.injEq,true_and] at h
    obtain ⟨hx,hs⟩ := hr.2 x y _ _ (hone s) (hone t) h
    exact ⟨by rw [hx],by simpa using hs⟩
  | [x],y::z::ys =>
    simp only [tupleChars,List.cons_append,List.append_assoc,List.cons.injEq,true_and] at h
    obtain ⟨-,hs⟩ := hr.2 x y _ _ (hone s) (follows_tupleTail item (z::ys) t) h
    simp [tupleTail] at hs
  | x::z::xs,[y] =>
    simp only [tupleChars,List.cons_append,List.append_assoc,List.cons.injEq,true_and] at h
    obtain ⟨-,hs⟩ := hr.2 x y _ _ (follows_tupleTail item (z::xs) s) (hone t) h
    simp [tupleTail] at hs
  | x::z::xs,y::w::ys =>
    simp only [tupleChars,List.cons_append,List.append_assoc,List.cons.injEq,true_and] at h
    obtain ⟨hx,hs⟩ := hr.2 x y _ _ (follows_tupleTail item (z::xs) s)
      (follows_tupleTail item (w::ys) t) h
    obtain ⟨hxs,hst⟩ := tupleTail_append_inj hr hs
    exact ⟨by rw [hx,hxs],hst⟩

/-- The characters of a number. -/
def isIntChar (c : Char) : Bool := c.isDigit || c == '-'

theorem isIntChar_of_mem_repr {n : ℤ} {c : Char} (h : c∈n.repr.toList) : isIntChar c=true := by
  cases n with
  | ofNat n =>
    rw [Int.repr,Nat.toList_repr] at h
    simp [isIntChar,Nat.isDigit_of_mem_toDigits (by norm_num) (by norm_num) h]
  | negSucc n =>
    simp only [Int.repr,String.toList_append,List.mem_append,Nat.toList_repr] at h
    rcases h with h|h
    · have hc : c= '-' := by simpa using h
      rw [hc]
      rfl
    · simp [isIntChar,Nat.isDigit_of_mem_toDigits (by norm_num) (by norm_num) h]

/-- Numbers are readable before a comma or parenthesis. -/
theorem intRepr_append_inj {n m : ℤ} {s t : List Char} (hs : Follows s) (ht : Follows t)
    (h : n.repr.toList++s=m.repr.toList++t) : n=m ∧ s=t := by
  have hspan : ∀ (k : ℤ) (u : List Char),Follows u →
      (k.repr.toList++u).takeWhile isIntChar=k.repr.toList := by
    intro k u hu
    obtain ⟨c,tail,rfl,hc⟩ := hu
    have hn : isIntChar c=false := by rcases hc with rfl|rfl <;> rfl
    rw [List.takeWhile_append_of_pos fun d hd => isIntChar_of_mem_repr hd,
      List.takeWhile_cons,if_neg (by simp [hn]),List.append_nil]
  have he : n.repr.toList=m.repr.toList := by
    rw [←hspan n s hs,←hspan m t ht,h]
  rw [he] at h
  exact ⟨Int.repr_injective (String.toList_inj.mp he),List.append_cancel_left h⟩

/-- The representation of a number begins with one of its own characters. -/
theorem intRepr_head (n : ℤ) : ∃ c tail,n.repr.toList=c::tail ∧ isIntChar c=true := by
  cases h : n.repr.toList with
  | nil =>
    exfalso
    cases n with
    | ofNat n =>
      rw [Int.repr,Nat.toList_repr] at h
      exact Nat.toDigits_ne_nil h
    | negSucc n => simp [Int.repr] at h
  | cons c tail =>
    exact ⟨c,tail,rfl,isIntChar_of_mem_repr (n:=n) (by rw [h]; exact List.mem_cons_self)⟩

/-- The first character tells the four kinds of value apart. -/
def atomKind (c : Char) : ℕ :=
  if c= 'N' then 0 else if isIntChar c=true then 1 else if c= '(' then 3 else 2

/-- The kind of a value. -/
def PyAtom.kind : PyAtom → ℕ
  | .none => 0
  | .int _ => 1
  | .text _ => 2
  | .tuple _ => 3

theorem tupleChars_head {α : Type} (item : α → List Char) (xs : List α) :
    ∃ tail,tupleChars item xs= '('::tail := by
  match xs with
  | [] => exact ⟨_,rfl⟩
  | [x] => exact ⟨_,rfl⟩
  | x::y::xs => exact ⟨_,rfl⟩

section Representation

variable [PyUnicode]

/-- The text of one character inside the representation of a string. -/
def encodeReprChar (quote c : Char) : List Char :=
  if c=quote ∨ c= '\\' then ['\\',c]
  else if c= '\t' then ['\\','t']
  else if c= '\n' then ['\\','n']
  else if c= '\r' then ['\\','r']
  else if c.toNat<32 ∨ c.toNat=127 then '\\' :: 'x' :: hex 2 c.toNat
  else if c.toNat<127 then [c]
  else if PyUnicode.isPrintable c=true then [c]
  else if c.toNat<256 then '\\' :: 'x' :: hex 2 c.toNat
  else if c.toNat<65536 then '\\' :: 'u' :: hex 4 c.toNat
  else '\\' :: 'U' :: hex 8 c.toNat

/-- The escapes of representations can be read back under either quote. -/
theorem decodeReprChar_encode {quote : Char} (hq : quote= '\x27' ∨ quote= '"') (c : Char)
    (rest : List Char) : decodeReprChar (encodeReprChar quote c++rest)=some (c,rest) := by
  unfold encodeReprChar
  by_cases h0 : c=quote ∨ c= '\\'
  · rw [if_pos h0]
    rcases h0 with rfl|rfl
    · rcases hq with rfl|rfl <;> rfl
    · rfl
  rw [if_neg h0]
  have hb : c≠ '\\' := fun h => h0 (Or.inr h)
  by_cases h1 : c= '\t'
  · rw [if_pos h1,h1]; rfl
  by_cases h2 : c= '\n'
  · rw [if_neg h1,if_pos h2,h2]; rfl
  by_cases h3 : c= '\r'
  · rw [if_neg h1,if_neg h2,if_pos h3,h3]; rfl
  simp only [if_neg h1,if_neg h2,if_neg h3]
  split_ifs with h4 h5 h6 h7 h8
  · exact readHex_hex (by rcases h4 with h|h <;> omega) rest
  · exact decodeReprChar_of_ne hb rest
  · exact decodeReprChar_of_ne hb rest
  · exact readHex_hex (by omega) rest
  · exact readHex_hex (by omega) rest
  · exact readHex_hex (toNat_lt_hex c) rest

/-- No character is represented by text beginning with the closing quote. -/
theorem encodeReprChar_head {quote : Char} (hq : quote= '\x27' ∨ quote= '"') (c : Char) :
    ∃ d tail,encodeReprChar quote c=d::tail ∧ d≠quote := by
  have hb : '\\'≠quote := by rcases hq with rfl|rfl <;> decide
  unfold encodeReprChar
  split_ifs with h0
  all_goals first
    | exact ⟨_,_,rfl,hb⟩
    | exact ⟨_,_,rfl,fun h => h0 (Or.inl h)⟩

/-- Representations closed by a given quote. -/
def reprCode (quote : Char) (hq : quote= '\x27' ∨ quote= '"') : CharCode :=
  ⟨quote,encodeReprChar quote,decodeReprChar,decodeReprChar_encode hq,encodeReprChar_head hq⟩

/-- The representation of a string. -/
def reprChars (cs : List Char) : List Char :=
  reprQuote cs::(reprCode (reprQuote cs) (reprQuote_cases cs)).body cs

/-- Representations are uniquely readable, whatever follows them. -/
theorem reprChars_append_inj {cs ds s t : List Char}
    (h : reprChars cs++s=reprChars ds++t) : cs=ds ∧ s=t := by
  simp only [reprChars,List.cons_append,List.cons.injEq] at h
  obtain ⟨hq,hb⟩ := h
  have hcode : reprCode (reprQuote cs) (reprQuote_cases cs)=
      reprCode (reprQuote ds) (reprQuote_cases ds) := by
    congr 1
  rw [hcode] at hb
  exact CharCode.body_append_inj _ hb

/-- The representation of a value inside a tuple. -/
def PyAtom.chars : PyAtom → List Char
  | .none => ['N','o','n','e']
  | .int n => n.repr.toList
  | .text s => reprChars s.toList
  | .tuple items => tupleChars (fun s : String => reprChars s.toList) items

/-- Representations of texts are readable inside a tuple. -/
theorem readable_reprChars : Readable (fun s : String => reprChars s.toList) := by
  refine ⟨fun a => ⟨_,_,rfl,?_⟩,fun a b s t _ _ h => ?_⟩
  · rcases reprQuote_cases a.toList with hq|hq <;> rw [hq] <;> decide
  · obtain ⟨hab,hst⟩ := reprChars_append_inj h
    exact ⟨String.toList_inj.mp hab,hst⟩

theorem PyAtom.chars_head (a : PyAtom) :
    ∃ c tail,a.chars=c::tail ∧ atomKind c=a.kind ∧ c≠ ')' := by
  cases a with
  | none => exact ⟨_,_,rfl,rfl,by decide⟩
  | int n =>
    obtain ⟨c,tail,hc,hi⟩ := intRepr_head n
    refine ⟨c,tail,hc,?_,?_⟩
    · have hn : c≠ 'N' := by rintro rfl; exact absurd hi (by decide)
      rw [atomKind,if_neg hn,if_pos hi]
      rfl
    · rintro rfl
      exact absurd hi (by decide)
  | text s =>
    refine ⟨_,_,rfl,?_,?_⟩
    · rcases reprQuote_cases s.toList with hq|hq <;> rw [hq] <;> rfl
    · rcases reprQuote_cases s.toList with hq|hq <;> rw [hq] <;> decide
  | tuple items =>
    obtain ⟨tail,ht⟩ := tupleChars_head (fun s : String => reprChars s.toList) items
    exact ⟨_,tail,ht,rfl,by decide⟩

/-- Values are readable inside a tuple. -/
theorem readable_atom : Readable PyAtom.chars := by
  refine ⟨fun a => ?_,fun a b s t hs ht h => ?_⟩
  · obtain ⟨c,tail,hc,-,hne⟩ := a.chars_head
    exact ⟨c,tail,hc,hne⟩
  have hkind : a.kind=b.kind := by
    obtain ⟨c,u,hc,hk,-⟩ := a.chars_head
    obtain ⟨d,v,hd,hl,-⟩ := b.chars_head
    rw [hc,hd,List.cons_append,List.cons_append,List.cons.injEq] at h
    rw [←hk,←hl,h.1]
  cases a <;> cases b <;> simp only [PyAtom.kind] at hkind <;> try omega
  case none.none => exact ⟨rfl,List.append_cancel_left h⟩
  case int.int n m =>
    obtain ⟨hnm,hst⟩ := intRepr_append_inj hs ht h
    exact ⟨by rw [hnm],hst⟩
  case text.text x y =>
    obtain ⟨hxy,hst⟩ := readable_reprChars.2 x y s t hs ht h
    exact ⟨by rw [hxy],hst⟩
  case tuple.tuple xs ys =>
    obtain ⟨hxy,hst⟩ := tupleChars_append_inj readable_reprChars h
    exact ⟨by rw [hxy],hst⟩

/-- The representation of a tuple of values. -/
def tupleRepr (atoms : List PyAtom) : String := String.ofList (tupleChars PyAtom.chars atoms)

/-- Equal representations come from equal tuples. -/
theorem tupleRepr_injective : Function.Injective tupleRepr := by
  intro xs ys h
  have hc : tupleChars PyAtom.chars xs++[]=tupleChars PyAtom.chars ys++[] := by
    rw [List.append_nil,List.append_nil]
    exact String.ofList_inj.mp h
  exact (tupleChars_append_inj readable_atom hc).1

end Representation

end NspMigrator.PyRepr
