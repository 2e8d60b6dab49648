import Mathlib

/-!
# Patterns of a database

A pattern is a text in which one character stands for any text, another one for
any single character, and an escape takes the next character literally. Texts
and patterns may be compared regardless of case. A pattern that begins and ends
with any text finds what lies between inside a text; an escaped text is found
as it stands.
-/

namespace NspMigrator.SqlLike

/-- A part of a pattern. -/
inductive PatternToken where
  /-- Any text. -/
  | any
  /-- Any single character. -/
  | one
  | char (c : Char)
  deriving DecidableEq

/-- The parts of a pattern, unless it ends with an escape. The first argument
says whether the character before was an escape. -/
def parsePattern (escape : Char) : Bool → List Char → Option (List PatternToken)
  | false,[] => some []
  | true,[] => none
  | true,c::rest => (parsePattern escape false rest).map (.char c::·)
  | false,c::rest =>
    if c=escape then parsePattern escape true rest
    else if c= '%' then (parsePattern escape false rest).map (.any::·)
    else if c= '_' then (parsePattern escape false rest).map (.one::·)
    else (parsePattern escape false rest).map (.char c::·)

/-- Whether a text consists of the parts of a pattern. -/
def matchTokens : List PatternToken → List Char → Bool
  | [],text => text.isEmpty
  | .any::tokens,text => text.tails.any (matchTokens tokens)
  | .one::tokens,text => match text with
    | [] => false
    | _::rest => matchTokens tokens rest
  | .char c::tokens,text => match text with
    | [] => false
    | d::rest => decide (c=d) && matchTokens tokens rest

/-- Whether a text matches a pattern, regardless of what a mapping of characters
takes away. A pattern that ends with an escape is refused. -/
def ilike (lower : Char → Char) (escape : Char) (pattern text : List Char) : Option Bool :=
  (parsePattern escape false (pattern.map lower)).map fun tokens =>
    matchTokens tokens (text.map lower)

/-- A character replaced throughout a text. -/
def replaceChar (c : Char) (replacement : List Char) (text : List Char) : List Char :=
  text.flatMap fun d => if d=c then replacement else [d]

/-- Whether a character has a meaning of its own in patterns. -/
def Special (c : Char) : Prop := c= '\\' ∨ c= '%' ∨ c= '_'

instance (c : Char) : Decidable (Special c) := inferInstanceAs (Decidable (_ ∨ _ ∨ _))

/-- A text with an escape before every character that would have a meaning. -/
def escapeText (text : List Char) : List Char :=
  text.flatMap fun c => if Special c then ['\\',c] else [c]

/-- Mapping characters to lower case makes no character of a pattern out of
another one, and leaves those there are. -/
structure KeepsSpecial (lower : Char → Char) : Prop where
  /-- A character of a pattern stays what it is. -/
  fixed : ∀ c,Special c → lower c=c
  /-- No other character becomes one. -/
  reflects : ∀ c,Special (lower c) → Special c

/-- A text stands inside another one, regardless of case. -/
def Contains (lower : Char → Char) (search text : String) : Prop :=
  search.toList.map lower<:+:text.toList.map lower

section Matching

variable {tokens other : List PatternToken} {text : List Char}

/-- Any text is some first part of the text. -/
theorem matchTokens_any : matchTokens (.any::tokens) text=true ↔
    ∃ before rest,text=before++rest ∧ matchTokens tokens rest=true := by
  rw [matchTokens,List.any_eq_true]
  constructor
  · rintro ⟨rest,hrest,hmatch⟩
    obtain ⟨before,hsplit⟩ := (List.mem_tails _ _).mp hrest
    exact ⟨before,rest,hsplit.symm,hmatch⟩
  · rintro ⟨before,rest,hsplit,hmatch⟩
    exact ⟨rest,(List.mem_tails _ _).mpr ⟨before,hsplit.symm⟩,hmatch⟩

/-- Two patterns one after the other match two texts one after the other. -/
theorem matchTokens_append : matchTokens (tokens++other) text=true ↔
    ∃ first second,text=first++second ∧ matchTokens tokens first=true ∧
      matchTokens other second=true := by
  induction tokens generalizing text with
  | nil =>
    constructor
    · exact fun h => ⟨[],text,rfl,rfl,h⟩
    · rintro ⟨first,second,rfl,hfirst,hsecond⟩
      rw [List.isEmpty_iff.mp hfirst]
      exact hsecond
  | cons token tokens ih =>
    cases token with
    | any =>
      rw [List.cons_append,matchTokens_any]
      constructor
      · rintro ⟨before,rest,rfl,hrest⟩
        obtain ⟨first,second,rfl,hfirst,hsecond⟩ := ih.mp hrest
        exact ⟨before++first,second,(List.append_assoc _ _ _).symm,
          matchTokens_any.mpr ⟨before,first,rfl,hfirst⟩,hsecond⟩
      · rintro ⟨first,second,rfl,hfirst,hsecond⟩
        obtain ⟨before,rest,rfl,hrest⟩ := matchTokens_any.mp hfirst
        exact ⟨before,rest++second,List.append_assoc _ _ _,ih.mpr ⟨rest,second,rfl,hrest,hsecond⟩⟩
    | one =>
      constructor
      · intro h
        cases text with
        | nil => cases h
        | cons d rest =>
          obtain ⟨first,second,rfl,hfirst,hsecond⟩ := ih.mp h
          exact ⟨d::first,second,rfl,hfirst,hsecond⟩
      · rintro ⟨first,second,rfl,hfirst,hsecond⟩
        cases first with
        | nil => cases hfirst
        | cons d rest => exact ih.mpr ⟨rest,second,rfl,hfirst,hsecond⟩
    | char c =>
      constructor
      · intro h
        cases text with
        | nil => cases h
        | cons d rest =>
          rw [List.cons_append,matchTokens,Bool.and_eq_true] at h
          obtain ⟨first,second,rfl,hfirst,hsecond⟩ := ih.mp h.2
          refine ⟨d::first,second,rfl,?_,hsecond⟩
          rw [matchTokens,Bool.and_eq_true]
          exact ⟨h.1,hfirst⟩
      · rintro ⟨first,second,rfl,hfirst,hsecond⟩
        cases first with
        | nil => cases hfirst
        | cons d rest =>
          rw [matchTokens,Bool.and_eq_true] at hfirst
          rw [List.cons_append,List.cons_append,matchTokens,Bool.and_eq_true]
          exact ⟨hfirst.1,ih.mpr ⟨rest,second,rfl,hfirst.2,hsecond⟩⟩

/-- A pattern of plain characters matches its own text. -/
theorem matchTokens_chars (literal : List Char) :
    matchTokens (literal.map .char) text=true ↔ text=literal := by
  induction literal generalizing text with
  | nil => exact List.isEmpty_iff
  | cons c literal ih =>
    cases text with
    | nil =>
      constructor
      · intro h
        cases h
      · intro h
        cases h
    | cons d rest =>
      rw [List.map_cons,matchTokens,Bool.and_eq_true,decide_eq_true_eq,ih,List.cons.injEq]
      exact ⟨fun h => ⟨h.1.symm,h.2⟩,fun h => ⟨h.1.symm,h.2⟩⟩

/-- Between two arbitrary texts, a pattern is found inside a text. -/
theorem matchTokens_inside : matchTokens (.any::(tokens++[.any])) text=true ↔
    ∃ before found rest,text=before++found++rest ∧ matchTokens tokens found=true := by
  rw [matchTokens_any]
  constructor
  · rintro ⟨before,tail,rfl,htail⟩
    obtain ⟨found,rest,rfl,hfound,-⟩ := matchTokens_append.mp htail
    exact ⟨before,found,rest,(List.append_assoc _ _ _).symm,hfound⟩
  · rintro ⟨before,found,rest,rfl,hfound⟩
    refine ⟨before,found++rest,List.append_assoc _ _ _,matchTokens_append.mpr
      ⟨found,rest,rfl,hfound,matchTokens_any.mpr ⟨rest,[],(List.append_nil _).symm,rfl⟩⟩⟩

end Matching

/-- Escaping is replacing the escape first and then the other two characters. -/
theorem escapeText_eq (text : List Char) :
    replaceChar '_' ['\\','_'] (replaceChar '%' ['\\','%'] (replaceChar '\\' ['\\','\\'] text))=
      escapeText text := by
  have hone : ∀ c,replaceChar '_' ['\\','_'] (replaceChar '%' ['\\','%']
      (if c= '\\' then ['\\','\\'] else [c]))=if Special c then ['\\',c] else [c] := by
    intro c
    by_cases hescape : c= '\\'
    · subst hescape
      decide
    · by_cases hany : c= '%'
      · subst hany
        decide
      · by_cases hone : c= '_'
        · subst hone
          decide
        · have hplain : ¬Special c := by
            rintro (h|h|h)
            · exact hescape h
            · exact hany h
            · exact hone h
          simp [replaceChar,hescape,hany,hone,hplain]
  induction text with
  | nil => rfl
  | cons c text ih =>
    have hsplit : replaceChar '\\' ['\\','\\'] (c::text)=
        (if c= '\\' then ['\\','\\'] else [c])++replaceChar '\\' ['\\','\\'] text := rfl
    have happend : ∀ (d : Char) (replacement first second : List Char),
        replaceChar d replacement (first++second)=
          replaceChar d replacement first++replaceChar d replacement second :=
      fun d replacement first second => List.flatMap_append
    rw [hsplit,happend,happend,ih,hone]
    rfl

section Escape

variable {lower : Char → Char}

/-- An escaped text is read as its characters. -/
theorem parsePattern_escapeText (text rest : List Char) :
    parsePattern '\\' false (escapeText text++rest)=
      (parsePattern '\\' false rest).map (text.map .char++·) := by
  induction text with
  | nil =>
    show parsePattern '\\' false rest=_
    cases parsePattern '\\' false rest <;> rfl
  | cons c text ih =>
    by_cases hspecial : Special c
    · have hescape : escapeText (c::text)= '\\'::c::escapeText text := by
        rw [escapeText,List.flatMap_cons,if_pos hspecial]
        rfl
      rw [hescape,List.cons_append,List.cons_append,parsePattern,if_pos rfl,parsePattern,ih,
        Option.map_map]
      rfl
    · have hescape : escapeText (c::text)=c::escapeText text := by
        rw [escapeText,List.flatMap_cons,if_neg hspecial]
        rfl
      have hone : c≠ '\\' := fun h => hspecial (Or.inl h)
      have htwo : c≠ '%' := fun h => hspecial (Or.inr (Or.inl h))
      have hthree : c≠ '_' := fun h => hspecial (Or.inr (Or.inr h))
      rw [hescape,List.cons_append,parsePattern,if_neg hone,if_neg htwo,if_neg hthree,ih,
        Option.map_map]
      rfl

/-- Escaping and mapping to lower case can be exchanged. -/
theorem map_escapeText (h : KeepsSpecial lower) (text : List Char) :
    (escapeText text).map lower=escapeText (text.map lower) := by
  rw [escapeText,escapeText,List.map_flatMap,List.flatMap_map]
  congr 1
  funext c
  by_cases hspecial : Special c
  · rw [if_pos hspecial,h.fixed c hspecial,if_pos hspecial,List.map_cons,
      h.fixed '\\' (Or.inl rfl),List.map_cons,h.fixed c hspecial]
    rfl
  · have hlower : ¬Special (lower c) := fun hc => hspecial (h.reflects c hc)
    rw [if_neg hspecial,if_neg hlower]
    rfl

/-- An escaped text between two arbitrary ones is found exactly where it stands
in the text, regardless of case. -/
theorem ilike_escaped (h : KeepsSpecial lower) (search text : List Char) :
    ilike lower '\\' (['%']++escapeText search++['%']) text=
      some (decide (search.map lower<:+:text.map lower)) := by
  have hparse : parsePattern '\\' false ((['%']++escapeText search++['%']).map lower)=
      some (.any::((search.map lower).map .char++[.any])) := by
    have hany : lower '%'= '%' := h.fixed '%' (Or.inr (Or.inl rfl))
    rw [List.map_append,List.map_append,map_escapeText h,List.map_cons,List.map_nil,hany,
      List.append_assoc,List.cons_append,List.nil_append,parsePattern,if_neg (by decide),
      if_pos rfl,parsePattern_escapeText]
    rfl
  have hiff : matchTokens (.any::((search.map lower).map .char++[.any])) (text.map lower)=
      decide (search.map lower<:+:text.map lower) := by
    rw [Bool.eq_iff_iff,matchTokens_inside,decide_eq_true_iff]
    constructor
    · rintro ⟨before,found,rest,hsplit,hfound⟩
      rw [matchTokens_chars] at hfound
      rw [hfound] at hsplit
      exact ⟨before,rest,hsplit.symm⟩
    · rintro ⟨before,rest,hsplit⟩
      exact ⟨before,search.map lower,rest,hsplit.symm,(matchTokens_chars _).mpr rfl⟩
  rw [ilike,hparse,Option.map_some,hiff]

/-- Text in which no character has a meaning needs no escape. -/
theorem escapeText_eq_self {text : List Char} (h : ∀ c∈text,¬Special c) : escapeText text=text := by
  induction text with
  | nil => rfl
  | cons c text ih =>
    rw [escapeText,List.flatMap_cons,if_neg (h c List.mem_cons_self),←escapeText,
      ih fun d hd => h d (List.mem_cons_of_mem _ hd)]
    rfl

end Escape

/-- Mapping the letters of the ASCII range to lower case. -/
theorem keepsSpecial_toLower : KeepsSpecial Char.toLower := by
  constructor
  · rintro c (rfl|rfl|rfl) <;> rfl
  · intro c hspecial
    by_cases hupper : c.val ≥ 'A'.val ∧ c.val ≤ 'Z'.val
    · have hlower : c.toLower.toNat=(c.toNat+32)%2^32 := by
        unfold Char.toLower
        rw [dif_pos hupper]
        rfl
      have hfrom : 65 ≤ c.toNat := UInt32.le_iff_toNat_le.mp hupper.1
      have hto : c.toNat ≤ 90 := UInt32.le_iff_toNat_le.mp hupper.2
      have hvalue : c.toLower.toNat=92 ∨ c.toLower.toNat=37 ∨ c.toLower.toNat=95 := by
        rcases hspecial with h|h|h <;> rw [h] <;> decide
      omega
    · have hsame : c.toLower=c := by
        unfold Char.toLower
        rw [dif_neg hupper]
      rwa [hsame] at hspecial

end NspMigrator.SqlLike
