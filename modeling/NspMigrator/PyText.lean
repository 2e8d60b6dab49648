import Mathlib

/-!
# Python text operations

Strings are read through their lists of characters. What the Unicode
database decides (white space, case mapping, digits, printability) is a
structure over which everything is stated; its laws pin the ASCII range and
the behaviour of lower-casing at an ASCII space, and nothing else.
-/

namespace NspMigrator.PyText

/-- White space of the ASCII range: blank, the controls from tab to carriage
return, and the four separators. -/
def asciiSpace (c : Char) : Bool :=
  c == ' ' || (9≤c.toNat && c.toNat≤13) || (28≤c.toNat && c.toNat≤31)

/-- Every character is ASCII. -/
def IsAscii (s : String) : Prop := ∀ c∈s.toList,c.toNat<128

instance (s : String) : Decidable (IsAscii s) := inferInstanceAs (Decidable (∀ c∈s.toList,_))

/-- Lower-casing of the ASCII letters. -/
def asciiLower (s : String) : String := String.ofList (s.toList.map Char.toLower)

/-- The facts of a Unicode database that text operations consult. -/
class PyUnicode where
  /-- White space, as split, strip and the class of regular expressions see it. -/
  isSpace : Char → Bool
  /-- Full lower-casing of a string. -/
  lower : String → String
  /-- Full case folding of a string. -/
  casefold : String → String
  /-- A character with a digit value, superscripts included. -/
  isDigit : Char → Bool
  /-- The value of a decimal digit, the only digits a number may be read from. -/
  decimal : Char → Option ℕ
  /-- Characters a representation shows without an escape. -/
  isPrintable : Char → Bool
  /-- White space on ASCII. -/
  isSpace_ascii : ∀ c : Char,c.toNat<128 → isSpace c=asciiSpace c
  /-- Lower-casing on ASCII. -/
  lower_ascii : ∀ s,IsAscii s → lower s=asciiLower s
  /-- An ASCII text ended by a blank is lower-cased on its own. -/
  lower_append : ∀ s t,IsAscii s → lower (s++" "++t)=asciiLower s++" "++lower t
  /-- Case folding on ASCII. -/
  casefold_ascii : ∀ s,IsAscii s → casefold s=asciiLower s
  /-- Digits on ASCII. -/
  isDigit_ascii : ∀ c : Char,c.toNat<128 → isDigit c=c.isDigit
  /-- Decimal digits are digits. -/
  isDigit_of_decimal : ∀ c d,decimal c=some d → isDigit c=true
  /-- Decimal values on ASCII. -/
  decimal_ascii : ∀ c : Char,c.toNat<128 →
    decimal c=if c.isDigit=true then some (c.toNat - '0'.toNat) else none

/-- The database restricted to ASCII, in which no other character has a property. -/
@[reducible] def asciiUnicode : PyUnicode where
  isSpace := asciiSpace
  lower := asciiLower
  casefold := asciiLower
  isDigit := Char.isDigit
  decimal c := if c.isDigit=true then some (c.toNat - '0'.toNat) else none
  isPrintable c := decide (32≤c.toNat ∧ c.toNat<127)
  isSpace_ascii _ _ := rfl
  lower_ascii _ _ := rfl
  lower_append s t _ := by
    apply String.toList_inj.mp
    simp only [asciiLower,String.toList_append,String.toList_ofList,List.map_append]
    rfl
  casefold_ascii _ _ := rfl
  isDigit_ascii _ _ := rfl
  isDigit_of_decimal c d h := by
    by_contra hc
    rw [if_neg hc] at h
    cases h
  decimal_ascii _ _ := rfl

/-- A number is written in digits. -/
theorem isDigit_of_mem_toString {n : ℕ} {c : Char} (h : c∈(toString n).toList) :
    c.isDigit=true := by
  have hdigits : c∈Nat.toDigits 10 n := by simpa using h
  exact Nat.isDigit_of_mem_toDigits (by decide) (by decide) hdigits

/-- A hyphen is no digit. -/
theorem hyphen_notMem_toString (n : ℕ) : '-'∉(toString n).toList :=
  fun h => absurd (isDigit_of_mem_toString h) (by decide)

/-- Two texts that agree have the same end after their last separator. -/
theorem append_separator_inj {α : Type} {separator : α} {a b s t : List α} (hs : separator∉s)
    (ht : separator∉t) (h : a++separator::s=b++separator::t) : a=b ∧ s=t := by
  -- the shorter beginning is a prefix of the other, and nothing can lie between
  have hprefix : ∀ {c s t : List α},separator∉s → separator::s=c++separator::t → c=[] ∧ s=t := by
    intro c s t hs hc
    cases c with
    | nil => exact ⟨rfl,(List.cons.inj hc).2⟩
    | cons first rest =>
      refine absurd ?_ hs
      rw [(List.cons.inj hc).2]
      exact List.mem_append_right rest List.mem_cons_self
  rcases List.append_eq_append_iff.mp h with ⟨c,rfl,hc⟩|⟨c,rfl,hc⟩
  · obtain ⟨rfl,rfl⟩ := hprefix hs hc
    exact ⟨(List.append_nil a).symm,rfl⟩
  · obtain ⟨rfl,rfl⟩ := hprefix ht hc
    exact ⟨List.append_nil b,rfl⟩

variable [PyUnicode]

/-- Drop the characters of a class from both ends. -/
def stripChars (p : Char → Bool) (cs : List Char) : List Char :=
  ((cs.dropWhile p).reverse.dropWhile p).reverse

/-- White space removed from both ends. -/
def strip (s : String) : String := String.ofList (stripChars PyUnicode.isSpace s.toList)

/-- Every run of a character class becomes one replacement character. -/
def collapseRuns (p : Char → Bool) (rep : Char) : Bool → List Char → List Char
  | _,[] => []
  | inRun,c::cs =>
    if p c=true then
      if inRun=true then collapseRuns p rep true cs else rep::collapseRuns p rep true cs
    else c::collapseRuns p rep false cs

/-- Whether a text begins with a prefix. -/
def startsWith (pre s : String) : Bool := pre.toList.isPrefixOf s.toList

/-- A prefix removed where the text begins with it. -/
def removeprefix (pre s : String) : String :=
  if startsWith pre s=true then String.ofList (s.toList.drop pre.toList.length) else s

/-- The first part of a text split at a character. -/
def firstPart (sep : Char) (s : String) : String :=
  String.ofList (s.toList.takeWhile fun c => decide (c≠sep))

/-- A nonempty text of digits. -/
def isdigit (s : String) : Bool := !s.toList.isEmpty && s.toList.all PyUnicode.isDigit

/-- The number a text of decimal digits denotes; nothing where reading it fails. -/
def parseNat (s : String) : Option ℕ :=
  if s.toList=[] then none
  else s.toList.foldl (fun acc c => do return (← acc)*10+(← PyUnicode.decimal c)) (some 0)

end NspMigrator.PyText
