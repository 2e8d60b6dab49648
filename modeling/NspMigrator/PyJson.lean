import Mathlib
import NspMigrator.PyRepr

/-!
# Canonical JSON

A JSON text is uniquely readable. A normalized value, with sorted fields and
sorted lists, is therefore determined by its text, and a hash of that text is
as injective as the hash itself.
-/

namespace NspMigrator.PyJson

open PyText PyRepr

/-- The text of one character inside a JSON string that keeps non-ASCII text. -/
def encodeJsonChar (c : Char) : List Char :=
  if c= '"' then ['\\','"']
  else if c= '\\' then ['\\','\\']
  else if c= '\n' then ['\\','n']
  else if c= '\r' then ['\\','r']
  else if c= '\t' then ['\\','t']
  else if c= '\x08' then ['\\','b']
  else if c= '\x0c' then ['\\','f']
  else if c.toNat<32 then '\\' :: 'u' :: hex 4 c.toNat
  else [c]

/-- Read one character of a JSON string back. -/
def decodeJsonChar : List Char → Option (Char × List Char)
  | '\\' :: '"' :: rest => some ('"',rest)
  | '\\' :: '\\' :: rest => some ('\\',rest)
  | '\\' :: 'n' :: rest => some ('\n',rest)
  | '\\' :: 'r' :: rest => some ('\r',rest)
  | '\\' :: 't' :: rest => some ('\t',rest)
  | '\\' :: 'b' :: rest => some ('\x08',rest)
  | '\\' :: 'f' :: rest => some ('\x0c',rest)
  | '\\' :: 'u' :: rest => readHex 4 rest
  | c::rest => some (c,rest)
  | [] => none

/-- A character other than the backslash stands for itself. -/
theorem decodeJsonChar_of_ne {c : Char} (h : c≠ '\\') (rest : List Char) :
    decodeJsonChar (c::rest)=some (c,rest) := by
  unfold decodeJsonChar
  split <;> simp_all

/-- The escapes of JSON strings can be read back. -/
theorem decodeJsonChar_encode (c : Char) (rest : List Char) :
    decodeJsonChar (encodeJsonChar c++rest)=some (c,rest) := by
  unfold encodeJsonChar
  by_cases h0 : c= '"'
  · rw [if_pos h0,h0]; rfl
  by_cases h1 : c= '\\'
  · rw [if_neg h0,if_pos h1,h1]; rfl
  by_cases h2 : c= '\n'
  · rw [if_neg h0,if_neg h1,if_pos h2,h2]; rfl
  by_cases h3 : c= '\r'
  · rw [if_neg h0,if_neg h1,if_neg h2,if_pos h3,h3]; rfl
  by_cases h4 : c= '\t'
  · rw [if_neg h0,if_neg h1,if_neg h2,if_neg h3,if_pos h4,h4]; rfl
  by_cases h5 : c= '\x08'
  · rw [if_neg h0,if_neg h1,if_neg h2,if_neg h3,if_neg h4,if_pos h5,h5]; rfl
  by_cases h6 : c= '\x0c'
  · rw [if_neg h0,if_neg h1,if_neg h2,if_neg h3,if_neg h4,if_neg h5,if_pos h6,h6]; rfl
  simp only [if_neg h0,if_neg h1,if_neg h2,if_neg h3,if_neg h4,if_neg h5,if_neg h6]
  split
  · next h => exact readHex_hex (h.trans (by norm_num)) rest
  · exact decodeJsonChar_of_ne h1 rest

/-- No JSON string character is written as the closing quote. -/
theorem encodeJsonChar_head (c : Char) :
    ∃ d tail,encodeJsonChar c=d::tail ∧ d≠ '"' := by
  unfold encodeJsonChar
  split_ifs with h0
  all_goals first | exact ⟨_,_,rfl,by decide⟩ | exact ⟨_,_,rfl,h0⟩

/-- JSON strings. -/
def jsonCode : CharCode :=
  ⟨'"',encodeJsonChar,decodeJsonChar,decodeJsonChar_encode,encodeJsonChar_head⟩

/-- A normalized document: texts, lists and records. -/
inductive Json where
  | str (s : String)
  | arr (items : List Json)
  | obj (fields : List (String × Json))

mutual

/-- The compact text of a document. -/
def Json.render : Json → List Char
  | .str s => '"'::jsonCode.body s.toList
  | .arr items => '['::renderItems true items
  | .obj fields => '{'::renderFields true fields

/-- The items of a list, separated by commas, up to the closing bracket. -/
def renderItems : Bool → List Json → List Char
  | _,[] => [']']
  | first,x::xs => (if first=true then [] else [','])++(x.render++renderItems false xs)

/-- The fields of a record, separated by commas, up to the closing brace. -/
def renderFields : Bool → List (String × Json) → List Char
  | _,[] => ['}']
  | first,(k,x)::fields =>
    (if first=true then [] else [','])++
      ('"'::(jsonCode.body k.toList++(':'::(x.render++renderFields false fields))))

end

/-- No document begins like the end of a list or a separator. -/
theorem Json.render_head (x : Json) :
    ∃ c tail,x.render=c::tail ∧ c≠ ']' ∧ c≠ ',' := by
  cases x with
  | str s => exact ⟨_,_,by rw [Json.render],by decide,by decide⟩
  | arr items => exact ⟨_,_,by rw [Json.render],by decide,by decide⟩
  | obj fields => exact ⟨_,_,by rw [Json.render],by decide,by decide⟩

mutual

/-- Documents are uniquely readable, whatever follows them. -/
theorem Json.render_append_inj (a b : Json) (s t : List Char) (h : a.render++s=b.render++t) :
    a=b ∧ s=t := by
  match a,b with
  | .str x,.str y =>
    simp only [Json.render,List.cons_append,List.cons.injEq,true_and] at h
    obtain ⟨hxy,hst⟩ := jsonCode.body_append_inj h
    exact ⟨by rw [String.toList_inj.mp hxy],hst⟩
  | .arr xs,.arr ys =>
    simp only [Json.render,List.cons_append,List.cons.injEq,true_and] at h
    obtain ⟨hxy,hst⟩ := renderItems_append_inj xs ys true s t h
    exact ⟨by rw [hxy],hst⟩
  | .obj xs,.obj ys =>
    simp only [Json.render,List.cons_append,List.cons.injEq,true_and] at h
    obtain ⟨hxy,hst⟩ := renderFields_append_inj xs ys true s t h
    exact ⟨by rw [hxy],hst⟩
  | .str _,.arr _ | .str _,.obj _ | .arr _,.str _ | .arr _,.obj _ | .obj _,.str _
  | .obj _,.arr _ => simp [Json.render] at h

/-- The items of a list are uniquely readable. -/
theorem renderItems_append_inj (xs ys : List Json) (first : Bool) (s t : List Char)
    (h : renderItems first xs++s=renderItems first ys++t) : xs=ys ∧ s=t := by
  match xs,ys with
  | [],[] => exact ⟨rfl,by simpa [renderItems] using h⟩
  | [],y::ys =>
    obtain ⟨c,tail,hc,hne,-⟩ := y.render_head
    cases first <;> simp [renderItems,hc,Ne.symm hne] at h
  | x::xs,[] =>
    obtain ⟨c,tail,hc,hne,-⟩ := x.render_head
    cases first <;> simp [renderItems,hc,hne] at h
  | x::xs,y::ys =>
    simp only [renderItems,List.append_assoc,List.append_cancel_left_eq] at h
    obtain ⟨hx,hs⟩ := Json.render_append_inj x y _ _ h
    obtain ⟨hxs,hst⟩ := renderItems_append_inj xs ys false s t hs
    exact ⟨by rw [hx,hxs],hst⟩

/-- The fields of a record are uniquely readable. -/
theorem renderFields_append_inj (xs ys : List (String × Json)) (first : Bool) (s t : List Char)
    (h : renderFields first xs++s=renderFields first ys++t) : xs=ys ∧ s=t := by
  match xs,ys with
  | [],[] => exact ⟨rfl,by simpa [renderFields] using h⟩
  | [],(k,y)::ys => cases first <;> simp [renderFields] at h
  | (k,x)::xs,[] => cases first <;> simp [renderFields] at h
  | (k,x)::xs,(l,y)::ys =>
    simp only [renderFields,List.append_assoc,List.append_cancel_left_eq,List.cons_append,
      List.cons.injEq,true_and] at h
    obtain ⟨hk,hr⟩ := jsonCode.body_append_inj h
    rw [List.cons.injEq] at hr
    obtain ⟨hx,hs⟩ := Json.render_append_inj x y _ _ hr.2
    obtain ⟨hxs,hst⟩ := renderFields_append_inj xs ys false s t hs
    exact ⟨by rw [String.toList_inj.mp hk,hx,hxs],hst⟩

end

/-- The compact text of a document, as a string. -/
def Json.dumps (x : Json) : String := String.ofList x.render

/-- A document is determined by its text. -/
theorem Json.dumps_injective : Function.Injective Json.dumps := by
  intro a b h
  have hr : a.render++[]=b.render++[] := by
    rw [List.append_nil,List.append_nil]
    exact String.ofList_inj.mp h
  exact (Json.render_append_inj a b [] [] hr).1

/-- The order of documents by their texts, used to sort lists. -/
def Json.textLe (a b : Json) : Prop := a.dumps≤b.dumps

instance : DecidableRel Json.textLe := fun a b => inferInstanceAs (Decidable (a.dumps≤b.dumps))

instance : Std.Total Json.textLe := ⟨fun a b => le_total a.dumps b.dumps⟩

instance : IsTrans Json Json.textLe := ⟨fun _ _ _ => le_trans⟩

instance : Std.Antisymm Json.textLe :=
  ⟨fun _ _ hab hba => Json.dumps_injective (le_antisymm hab hba)⟩

/-- The order of fields by key and then by value. -/
def fieldLe (a b : String × Json) : Prop := a.1<b.1 ∨ a.1=b.1 ∧ a.2.textLe b.2

instance : DecidableRel fieldLe := fun a b =>
  inferInstanceAs (Decidable (a.1<b.1 ∨ a.1=b.1 ∧ a.2.textLe b.2))

/-- Values given to the hash: texts, tuples, lists and dictionaries. -/
inductive PyData where
  | text (s : String)
  | tuple (atoms : List PyAtom)
  | list (items : List PyData)
  | dict (fields : List (String × PyData))

/-- Records with the same keys in the same order have the same fields when
one is a permutation of the other. -/
theorem eq_of_perm_of_keys {fs gs : List (String × Json)} (hp : fs.Perm gs)
    (hk : fs.map Prod.fst=gs.map Prod.fst) (hn : (fs.map Prod.fst).Nodup) : fs=gs := by
  induction fs generalizing gs with
  | nil => exact (List.Perm.nil_eq hp)
  | cons f fs ih =>
    cases gs with
    | nil => cases hk
    | cons g gs =>
      rw [List.map_cons,List.map_cons,List.cons.injEq] at hk
      rw [List.map_cons,List.nodup_cons] at hn
      have hfg : f=g := by
        rcases List.mem_cons.mp (hp.mem_iff.mp List.mem_cons_self) with h|h
        · exact h
        · exact absurd (hk.2▸List.mem_map_of_mem h) hn.1
      subst hfg
      rw [ih hp.cons_inv hk.2 hn.2]

/-- When two descriptions tell the same items apart, lists agree in one up to
order exactly when they do in the other. -/
theorem perm_map_iff {α β γ : Type} {f : α → β} {g : α → γ} {xs ys : List α}
    (h : ∀ x∈xs,∀ y∈ys,f x=f y ↔ g x=g y) :
    (xs.map f).Perm (ys.map f) ↔ (xs.map g).Perm (ys.map g) := by
  have transfer : ∀ {δ ε : Type} {f : α → δ} {g : α → ε} {ys : List α},
      (∀ x∈xs,∀ y∈ys,f x=f y → g x=g y) →
      (xs.map f).Perm (ys.map f) → (xs.map g).Perm (ys.map g) := by
    clear h
    intro δ ε f g ys h hp
    induction xs generalizing ys with
    | nil =>
      rw [List.map_nil,List.nil_perm,List.map_eq_nil_iff] at hp
      rw [hp]
    | cons x xs ih =>
      obtain ⟨y,hy,hxy⟩ := List.mem_map.mp (hp.mem_iff.mp List.mem_cons_self)
      obtain ⟨left,right,rfl⟩ := List.append_of_mem hy
      have hmid : (left++y::right).Perm (y::(left++right)) := List.perm_middle
      have hrest : (xs.map f).Perm ((left++right).map f) := by
        have hcons := hp.trans (hmid.map f)
        rw [List.map_cons,List.map_cons,hxy] at hcons
        exact hcons.cons_inv
      have hg : g x=g y := h x List.mem_cons_self y hy hxy.symm
      have hih := ih (fun a ha b hb => h a (List.mem_cons_of_mem _ ha) b
        (hmid.mem_iff.mpr (List.mem_cons_of_mem _ hb))) hrest
      have hout : (g x::xs.map g).Perm (g y::(left++right).map g) := by
        rw [hg]
        exact hih.cons _
      exact hout.trans (hmid.map g).symm
  exact ⟨transfer fun x hx y hy => (h x hx y hy).mp,transfer fun x hx y hy => (h x hx y hy).mpr⟩

section Hash

variable [PyUnicode]

mutual

/-- Normal form of a value: fields and lists sorted, everything else its text. -/
def PyData.normalize : PyData → Json
  | .text s => .str s
  | .tuple atoms => .str (tupleRepr atoms)
  | .list items => .arr ((normalizeItems items).insertionSort Json.textLe)
  | .dict fields => .obj ((normalizeFields fields).insertionSort fieldLe)

/-- Normal forms of the items of a list. -/
def normalizeItems : List PyData → List Json
  | [] => []
  | x::xs => x.normalize::normalizeItems xs

/-- Normal forms of the fields of a dictionary. -/
def normalizeFields : List (String × PyData) → List (String × Json)
  | [] => []
  | (k,x)::fields => (k,x.normalize)::normalizeFields fields

end

theorem normalizeItems_eq_map (items : List PyData) :
    normalizeItems items=items.map PyData.normalize := by
  induction items with
  | nil => rfl
  | cons x xs ih => rw [normalizeItems,ih,List.map_cons]

/-- The hash of a value: the hash of the text of its normal form. -/
def jsonHash (hashFunc : String → String) (data : PyData) : String :=
  hashFunc data.normalize.dumps

/-- A hash without collisions tells normal forms apart. -/
theorem jsonHash_inj {hashFunc : String → String} (hf : Function.Injective hashFunc)
    {a b : PyData} : jsonHash hashFunc a=jsonHash hashFunc b ↔ a.normalize=b.normalize :=
  ⟨fun h => Json.dumps_injective (hf h),fun h => by rw [jsonHash,h,jsonHash]⟩

/-- Normal forms of lists agree exactly when the items do, in any order. -/
theorem normalize_list_inj {xs ys : List PyData} :
    (PyData.list xs).normalize=(PyData.list ys).normalize ↔
      (xs.map PyData.normalize).Perm (ys.map PyData.normalize) := by
  rw [PyData.normalize,PyData.normalize,Json.arr.injEq,normalizeItems_eq_map,
    normalizeItems_eq_map]
  constructor
  · intro h
    exact ((List.perm_insertionSort _ _).symm.trans (List.Perm.of_eq h)).trans
      (List.perm_insertionSort _ _)
  · intro h
    exact (((List.perm_insertionSort _ _).trans h).trans
      (List.perm_insertionSort _ _).symm).eq_of_pairwise' (List.pairwise_insertionSort _ _)
      (List.pairwise_insertionSort _ _)

theorem normalizeFields_keys (fs : List (String × PyData)) :
    (normalizeFields fs).map Prod.fst=fs.map Prod.fst := by
  induction fs with
  | nil => rfl
  | cons f fs ih => rw [normalizeFields,List.map_cons,List.map_cons,ih]

/-- Dictionaries with the same keys in the same order and equal normal forms
have fields with equal normal forms. -/
theorem normalizeFields_eq_of_normalize {fs gs : List (String × PyData)}
    (h : (PyData.dict fs).normalize=(PyData.dict gs).normalize)
    (hk : fs.map Prod.fst=gs.map Prod.fst) (hn : (fs.map Prod.fst).Nodup) :
    normalizeFields fs=normalizeFields gs := by
  rw [PyData.normalize,PyData.normalize,Json.obj.injEq] at h
  have hp := ((List.perm_insertionSort _ _).symm.trans (List.Perm.of_eq h)).trans
    (List.perm_insertionSort _ _)
  refine eq_of_perm_of_keys hp ?_ ?_
  · rw [normalizeFields_keys,normalizeFields_keys,hk]
  · rw [normalizeFields_keys]
    exact hn

/-- Records with the same keys have the same normal form exactly when their
fields do. -/
theorem normalize_dict_inj {fs gs : List (String × PyData)}
    (hk : fs.map Prod.fst=gs.map Prod.fst) (hn : (fs.map Prod.fst).Nodup) :
    (PyData.dict fs).normalize=(PyData.dict gs).normalize ↔
      normalizeFields fs=normalizeFields gs :=
  ⟨fun h => normalizeFields_eq_of_normalize h hk hn,fun h => by
    rw [PyData.normalize,PyData.normalize,h]⟩

/-- A text is its own normal form. -/
theorem normalize_text_inj {s t : String} :
    (PyData.text s).normalize=(PyData.text t).normalize ↔ s=t := by
  rw [PyData.normalize,PyData.normalize,Json.str.injEq]

end Hash

end NspMigrator.PyJson
