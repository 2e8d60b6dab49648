import Mathlib
import NspMigrator.PyText

/-!
# Words of a text

Splitting at white space keeps the maximal runs of other characters, and
splitting a bounded number of times leaves the rest of the text as it
stands. A text written as words with single blanks between them is read
back exactly.
-/

namespace NspMigrator.PyWords

open PyText

/-- The maximal runs of characters outside a class, the run being read first. -/
def runs (p : Char → Bool) : List Char → List Char → List (List Char)
  | current,[] => if current=[] then [] else [current.reverse]
  | current,c::cs =>
    if p c=true then
      if current=[] then runs p [] cs else current.reverse::runs p [] cs
    else runs p (c::current) cs

section Runs

variable {p : Char → Bool}

/-- Characters outside the class extend the run being read. -/
theorem runs_append {word : List Char} (h : ∀ c∈word,p c=false) (current rest : List Char) :
    runs p current (word++rest)=runs p (word.reverse++current) rest := by
  induction word generalizing current with
  | nil => rfl
  | cons c cs ih =>
    have hc : p c=false := h c List.mem_cons_self
    have hrest : ∀ d∈cs,p d=false := fun d hd => h d (List.mem_cons_of_mem c hd)
    rw [List.cons_append,runs,hc,if_neg Bool.false_ne_true,ih hrest]
    simp only [List.reverse_cons,List.append_assoc,List.singleton_append]

/-- A nonempty run ends at the first character of the class. -/
theorem runs_word_cons {word : List Char} (hne : word≠[]) (h : ∀ c∈word,p c=false)
    {sep : Char} (hs : p sep=true) (rest : List Char) :
    runs p [] (word++sep::rest)=word::runs p [] rest := by
  have hr : word.reverse++[]≠[] := by simpa using hne
  rw [runs_append h,runs,hs,if_pos rfl,if_neg hr,List.append_nil,List.reverse_reverse]

/-- A nonempty run ends at the end of the text. -/
theorem runs_word {word : List Char} (hne : word≠[]) (h : ∀ c∈word,p c=false) :
    runs p [] word=[word] := by
  have hr : word.reverse++[]≠[] := by simpa using hne
  rw [←List.append_nil word,runs_append h,runs,if_neg (by simpa using hr),List.append_nil,
    List.append_nil,List.reverse_reverse]

/-- Every run is a nonempty text of characters outside the class. -/
theorem mem_runs {current cs word : List Char} (hcurrent : ∀ c∈current,p c=false)
    (h : word∈runs p current cs) : word≠[] ∧ ∀ c∈word,p c=false := by
  induction cs generalizing current with
  | nil =>
    unfold runs at h
    split at h
    · cases h
    next hne =>
      rw [List.mem_singleton.mp h]
      exact ⟨by simpa using hne,fun c hc => hcurrent c (List.mem_reverse.mp hc)⟩
  | cons c cs ih =>
    have hnone : ∀ c∈([] : List Char),p c=false := fun c hc => absurd hc List.not_mem_nil
    unfold runs at h
    split at h
    · split at h
      · exact ih hnone h
      next hne =>
        rcases List.mem_cons.mp h with rfl|h
        · exact ⟨by simpa using hne,fun c hc => hcurrent c (List.mem_reverse.mp hc)⟩
        · exact ih hnone h
    next hc =>
      refine ih (fun d hd => ?_) h
      rcases List.mem_cons.mp hd with rfl|hd
      · exact Bool.eq_false_of_not_eq_true hc
      · exact hcurrent d hd

end Runs

/-- A decimal digit is an ASCII character. -/
theorem toNat_of_isDigit {c : Char} (h : c.isDigit=true) : c.toNat<128 := by
  have hle : c.toNat≤57 := by
    rw [Char.isDigit,Bool.and_eq_true,decide_eq_true_eq,decide_eq_true_eq] at h
    exact h.2
  omega

/-- Digits have no case. -/
theorem toLower_of_isDigit {c : Char} (h : c.isDigit=true) : c.toLower=c := by
  have hle : c.toNat≤57 := by
    rw [Char.isDigit,Bool.and_eq_true,decide_eq_true_eq,decide_eq_true_eq] at h
    exact h.2
  have hnot : ¬(c.toNat≥65 ∧ c.toNat≤90) := by omega
  unfold Char.toLower
  exact dif_neg hnot

/-- A text begins with what it was written behind. -/
theorem startsWith_append (pre rest : String) : startsWith pre (pre++rest)=true := by
  rw [startsWith,String.toList_append,List.isPrefixOf_iff_prefix]
  exact List.prefix_append _ _

variable [PyUnicode]

/-- A nonempty text without white space. -/
def IsWord (s : String) : Prop := s≠"" ∧ ∀ c∈s.toList,PyUnicode.isSpace c=false

instance (s : String) : Decidable (IsWord s) :=
  decidable_of_iff ((!s.toList.isEmpty && s.toList.all fun c => !PyUnicode.isSpace c)=true) (by
    have hempty : s.toList=[] ↔ s="" := String.toList_eq_nil_iff
    simp only [IsWord,Bool.and_eq_true,Bool.not_eq_true',List.all_eq_true,
      List.isEmpty_eq_false_iff,ne_eq,hempty])

/-- The words of a text. -/
def splitWords (s : String) : List String :=
  (runs PyUnicode.isSpace [] s.toList).map String.ofList

/-- Characters after the first word, from the white space that ends it. -/
def afterWord (cs : List Char) : List Char :=
  (cs.dropWhile PyUnicode.isSpace).dropWhile fun c => !PyUnicode.isSpace c

/-- What follows the first words of a text, trimmed. -/
def splitRest (count : ℕ) (s : String) : String :=
  strip (String.ofList (afterWord^[count] s.toList))

/-- Words written with single blanks between them. -/
def joinWords (words : List String) : String := " ".intercalate words

@[simp] theorem isSpace_blank : PyUnicode.isSpace ' '=true := by
  rw [PyUnicode.isSpace_ascii ' ' (by decide)]
  rfl

theorem IsWord.toList_ne {s : String} (h : IsWord s) : s.toList≠[] := by
  intro he
  exact h.1 (String.toList_inj.mp he)

/-- An ASCII text without white space is a word. -/
theorem isWord_of_ascii {s : String} (hne : s≠"")
    (h : ∀ c∈s.toList,c.toNat<128 ∧ asciiSpace c=false) : IsWord s :=
  ⟨hne,fun c hc => (PyUnicode.isSpace_ascii c (h c hc).1).trans (h c hc).2⟩

/-- What a text is split into are words. -/
theorem isWord_of_mem_splitWords {s word : String} (h : word∈splitWords s) : IsWord word := by
  obtain ⟨cs,hcs,rfl⟩ := List.mem_map.mp h
  obtain ⟨hne,hspace⟩ := mem_runs (fun c hc => absurd hc List.not_mem_nil) hcs
  refine ⟨fun he => hne ?_,by rwa [String.toList_ofList]⟩
  rw [←String.toList_ofList (l:=cs),he]
  rfl

/-- The words of one word. -/
theorem splitWords_word {w : String} (h : IsWord w) : splitWords w=[w] := by
  rw [splitWords,runs_word h.toList_ne h.2,List.map_singleton,String.ofList_toList]

/-- A word before a blank is the first word. -/
theorem splitWords_cons {w : String} (h : IsWord w) (rest : String) :
    splitWords (w++" "++rest)=w::splitWords rest := by
  have ht : (w++" "++rest).toList=w.toList++ ' '::rest.toList := by
    simp only [String.toList_append,List.append_assoc]
    rfl
  rw [splitWords,ht,runs_word_cons h.toList_ne h.2 isSpace_blank,List.map_cons,
    String.ofList_toList]
  rfl

/-- Written words are the words read back. -/
theorem splitWords_joinWords {words : List String} (h : ∀ w∈words,IsWord w) :
    splitWords (joinWords words)=words := by
  induction words with
  | nil => rfl
  | cons w rest ih =>
    have hw : IsWord w := h w List.mem_cons_self
    have hrest : ∀ v∈rest,IsWord v := fun v hv => h v (List.mem_cons_of_mem w hv)
    cases rest with
    | nil => exact splitWords_word hw
    | cons v rest =>
      have he : joinWords (w::v::rest)=w++" "++joinWords (v::rest) :=
        String.intercalate_cons_cons
      rw [he,splitWords_cons hw,ih hrest]

/-- Trimming leaves a word alone. -/
theorem strip_word {w : String} (h : ∀ c∈w.toList,PyUnicode.isSpace c=false) : strip w=w := by
  have hdrop : ∀ cs : List Char,(∀ c∈cs,PyUnicode.isSpace c=false) →
      cs.dropWhile PyUnicode.isSpace=cs := by
    intro cs hcs
    cases cs with
    | nil => rfl
    | cons c cs =>
      have hc : PyUnicode.isSpace c=false := hcs c List.mem_cons_self
      rw [List.dropWhile_cons,hc,if_neg Bool.false_ne_true]
  have hr : ∀ c∈w.toList.reverse,PyUnicode.isSpace c=false := fun c hc =>
    h c (List.mem_reverse.mp hc)
  rw [strip,stripChars,hdrop _ h,hdrop _ hr,List.reverse_reverse,String.ofList_toList]

/-- Trimming drops a leading blank. -/
theorem strip_blank_cons (cs : List Char) :
    strip (String.ofList (' '::cs))=strip (String.ofList cs) := by
  simp only [strip,stripChars,String.toList_ofList,List.dropWhile_cons,isSpace_blank,if_true]

/-- What follows a word and a blank starts at the blank. -/
theorem afterWord_append {w : List Char} (hne : w≠[]) (h : ∀ c∈w,PyUnicode.isSpace c=false)
    (rest : List Char) : afterWord (w++ ' '::rest)= ' '::rest := by
  have hspace : (w++ ' '::rest).dropWhile PyUnicode.isSpace=w++ ' '::rest := by
    cases w with
    | nil => exact absurd rfl hne
    | cons c cs =>
      have hc : PyUnicode.isSpace c=false := h c List.mem_cons_self
      rw [List.cons_append,List.dropWhile_cons,hc,if_neg Bool.false_ne_true]
  rw [afterWord,hspace,List.dropWhile_append_of_pos (by simpa using h),List.dropWhile_cons]
  simp

/-- A leading blank does not count as a word. -/
theorem afterWord_blank_cons (cs : List Char) : afterWord (' '::cs)=afterWord cs := by
  simp only [afterWord,List.dropWhile_cons,isSpace_blank,if_true]

/-- What follows the first word. -/
theorem splitRest_one {w : String} (h : IsWord w) (rest : String) :
    splitRest 1 (w++" "++rest)=strip rest := by
  have ht : (w++" "++rest).toList=w.toList++ ' '::rest.toList := by
    simp only [String.toList_append,List.append_assoc]
    rfl
  rw [splitRest,Function.iterate_one,ht,afterWord_append h.toList_ne h.2,strip_blank_cons,
    String.ofList_toList]

/-- What follows the first two words. -/
theorem splitRest_two {v w : String} (hv : IsWord v) (hw : IsWord w) (rest : String) :
    splitRest 2 (v++" "++(w++" "++rest))=strip rest := by
  have ht : (v++" "++(w++" "++rest)).toList=v.toList++ ' '::(w.toList++ ' '::rest.toList) := by
    simp only [String.toList_append,List.append_assoc]
    rfl
  rw [splitRest,Function.iterate_succ,Function.iterate_one,Function.comp_apply,ht,
    afterWord_append hv.toList_ne hv.2,afterWord_blank_cons,
    afterWord_append hw.toList_ne hw.2,strip_blank_cons,String.ofList_toList]

end NspMigrator.PyWords
