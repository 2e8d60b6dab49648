import Mathlib
import NspMigrator.MappingScan

/-!
# Names of matched zones

A zone name is read as its words. The normalizer keeps the runs of ASCII
letters and digits and forgets every other character, although only case,
spaces, underscores, hyphens and dots are meant to be forgotten.
-/

namespace NspMigrator.MappingZoneNames

open PyDict PyText PyWords SdwanModels ExecuteRepository
open MappingEntities MappingSchemas MappingCatalogIndexes MappingObjects MappingScan

section Runs

variable {p : Char → Bool}

/-- Runs are nonempty and stay outside the class. -/
theorem runs_spec {current cs : List Char} (hcurrent : ∀ c∈current,p c=false) :
    ∀ word∈runs p current cs,word≠[] ∧ ∀ c∈word,p c=false := by
  induction cs generalizing current with
  | nil =>
    intro word hw
    rw [runs] at hw
    split at hw
    · cases hw
    · next hne =>
      rw [List.mem_singleton.mp hw]
      refine ⟨by simpa using hne,fun c hc => hcurrent c (List.mem_reverse.mp hc)⟩
  | cons c cs ih =>
    intro word hw
    have hnil : ∀ d∈([] : List Char),p d=false := fun d hd => absurd hd List.not_mem_nil
    rw [runs] at hw
    by_cases hc : p c=true
    · rw [if_pos hc] at hw
      by_cases hne : current=[]
      · rw [if_pos hne] at hw
        exact ih hnil word hw
      · rw [if_neg hne] at hw
        rcases List.mem_cons.mp hw with rfl|hw
        · exact ⟨by simpa using hne,fun d hd => hcurrent d (List.mem_reverse.mp hd)⟩
        · exact ih hnil word hw
    · rw [if_neg hc] at hw
      refine ih ?_ word hw
      intro d hd
      rcases List.mem_cons.mp hd with rfl|hd
      · exact Bool.eq_false_iff.mpr hc
      · exact hcurrent d hd

/-- Collapsing the runs of a class to one character of a smaller class leaves
the same words between them. -/
theorem runs_collapseRuns {q : Char → Bool} {sep : Char} (hsep : q sep=true)
    (hsub : ∀ c,p c=false → q c=false) (cs : List Char) (current : List Char) (inRun : Bool)
    (hrun : inRun=true → current=[]) :
    runs q current (collapseRuns p sep inRun cs)=runs p current cs := by
  induction cs generalizing current inRun with
  | nil => rfl
  | cons c cs ih =>
    rw [collapseRuns,runs]
    by_cases hc : p c=true
    · rw [if_pos hc,if_pos hc]
      cases inRun with
      | true =>
        rw [if_pos rfl,if_pos (hrun rfl),hrun rfl]
        exact ih [] true fun _ => rfl
      | false =>
        rw [if_neg Bool.false_ne_true,runs,if_pos hsep,ih [] true fun _ => rfl]
    · rw [if_neg hc,if_neg hc,runs,hsub c (Bool.eq_false_iff.mpr hc),
        if_neg Bool.false_ne_true]
      exact ih (c::current) false fun h => absurd h Bool.false_ne_true

end Runs

variable [PyUnicode]

/-- A name trimmed and case-folded. -/
def foldedName (value : String) : List Char := (PyUnicode.casefold (strip value)).toList

/-- The runs of ASCII letters and digits of a name. -/
def asciiWords (value : String) : List (List Char) := runs isNameSeparator [] (foldedName value)

/-- The characters names may be separated by: white space, underscores,
hyphens and dots. -/
def isDocumentedSeparator (c : Char) : Bool :=
  PyUnicode.isSpace c || c == '_' || c == '-' || c == '.'

/-- The words of a name between these separators. -/
def documentedWords (value : String) : List (List Char) :=
  runs isDocumentedSeparator [] (foldedName value)

omit [PyUnicode] in
/-- Letters and digits of the ASCII range are ASCII characters. -/
theorem toNat_lt_of_letter {c : Char} (h : isNameSeparator c=false) :
    c.toNat<128 ∧ asciiSpace c=false := by
  rw [isNameSeparator,Bool.not_eq_false',Bool.or_eq_true,Bool.and_eq_true,decide_eq_true_eq,
    decide_eq_true_eq] at h
  have hdigit : c.isDigit=true → 48≤ c.toNat ∧ c.toNat≤57 := by
    intro hd
    rw [Char.isDigit,Bool.and_eq_true,decide_eq_true_eq,decide_eq_true_eq] at hd
    exact ⟨hd.1,hd.2⟩
  have hrange : (48≤ c.toNat ∧ c.toNat≤57) ∨ (97≤ c.toNat ∧ c.toNat≤122) := h.imp_left hdigit
  have hblank : c≠ ' ' := by
    rintro rfl
    revert hrange
    decide
  refine ⟨by omega,?_⟩
  rw [asciiSpace,Bool.or_eq_false_iff,Bool.or_eq_false_iff,Bool.and_eq_false_iff,
    Bool.and_eq_false_iff,decide_eq_false_iff_not,decide_eq_false_iff_not,
    decide_eq_false_iff_not,decide_eq_false_iff_not,beq_eq_false_iff_ne]
  refine ⟨⟨hblank,?_⟩,?_⟩
  · omega
  · omega

/-- A letter or digit of the ASCII range is no white space. -/
theorem isSpace_of_letter {c : Char} (h : isNameSeparator c=false) :
    PyUnicode.isSpace c=false := by
  obtain ⟨hlt,hspace⟩ := toNat_lt_of_letter h
  rw [PyUnicode.isSpace_ascii c hlt]
  exact hspace

/-- A normalized name is its ASCII words with single blanks between them. -/
theorem normalizeName_eq_joinWords (value : String) :
    normalizeName value=joinWords ((asciiWords value).map String.ofList) := by
  have hwords : splitWords (String.ofList (collapseRuns isNameSeparator ' ' false
      (foldedName value)))=(asciiWords value).map String.ofList := by
    rw [splitWords,String.toList_ofList,
      runs_collapseRuns isSpace_blank (fun c hc => isSpace_of_letter hc) _ _ _
        (fun h => absurd h Bool.false_ne_true)]
    rfl
  rw [normalizeName,←foldedName,hwords]

/-- The ASCII words are read back from a normalized name. -/
theorem splitWords_normalizeName (value : String) :
    splitWords (normalizeName value)=(asciiWords value).map String.ofList := by
  rw [normalizeName_eq_joinWords]
  apply splitWords_joinWords
  intro word hw
  obtain ⟨cs,hcs,rfl⟩ := List.mem_map.mp hw
  obtain ⟨hne,hchars⟩ := runs_spec (fun c hc => absurd hc List.not_mem_nil) cs hcs
  constructor
  · intro he
    apply hne
    rw [←String.toList_ofList (l:=cs),he]
    rfl
  · intro c hc
    rw [String.toList_ofList] at hc
    exact isSpace_of_letter (hchars c hc)

/-- Names are normalized alike exactly when they have the same ASCII words. -/
theorem normalizeName_eq_iff (a b : String) :
    normalizeName a=normalizeName b ↔ asciiWords a=asciiWords b := by
  constructor
  · intro h
    have hinj : Function.Injective (List.map String.ofList) :=
      List.map_injective_iff.mpr fun a b h => by
        rw [←String.toList_ofList (l:=a),h,String.toList_ofList]
    have hwords := congrArg splitWords h
    rw [splitWords_normalizeName,splitWords_normalizeName] at hwords
    exact hinj hwords
  · intro h
    rw [normalizeName_eq_joinWords,normalizeName_eq_joinWords,h]

/-- A zone is a candidate exactly when it has the ASCII words of the canonical zone. -/
theorem mem_matchZone_ids (zones : List SdwanZone) (zone : CanonicalZone) (id : ℤ) :
    id∈(matchZone (SdwanZonesCatalogIndex.create zones) zone).map (·.sdwanEntityId) ↔
      ∃ sdwanZone∈distinctBy (·.id) zones,
        asciiWords sdwanZone.name=asciiWords zone.name ∧ sdwanZone.id=id := by
  rw [matchZone,(candidatesOf_ids _ _ _ _).2,SdwanZonesCatalogIndex.findZonesByName,
    SdwanZonesCatalogIndex.create,getD_groupBy]
  simp only [List.mem_filter,decide_eq_true_eq,normalizeName_eq_iff,and_assoc]

/-- Every candidate of a canonical zone has its name, up to the differences
that are meant to be forgotten, exactly when no zone of the catalog shares the
runs of ASCII letters and digits with it but differs in another character. -/
theorem matchZone_respects_names_iff (zones : List SdwanZone) (zone : CanonicalZone) :
    (∀ candidate∈matchZone (SdwanZonesCatalogIndex.create zones) zone,
      ∀ sdwanZone∈distinctBy (·.id) zones,sdwanZone.id=candidate.sdwanEntityId →
        documentedWords sdwanZone.name=documentedWords zone.name) ↔
    ∀ sdwanZone∈distinctBy (·.id) zones,asciiWords sdwanZone.name=asciiWords zone.name →
      documentedWords sdwanZone.name=documentedWords zone.name := by
  have hids := mem_matchZone_ids zones zone
  constructor
  · intro h sdwanZone hz hwords
    obtain ⟨candidate,hc,hid⟩ := List.mem_map.mp
      ((hids sdwanZone.id).mpr ⟨sdwanZone,hz,hwords,rfl⟩)
    exact h candidate hc sdwanZone hz hid.symm
  · intro h candidate hc sdwanZone hz hid
    obtain ⟨other,ho,hwords,he⟩ := (hids candidate.sdwanEntityId).mp (List.mem_map_of_mem hc)
    -- one zone of each number is indexed
    have hsame : other=sdwanZone :=
      List.inj_on_of_nodup_map (nodup_distinctBy _ zones) ho hz (he.trans hid.symm)
    subst hsame
    exact h other hz hwords

/-- A scope with one zone, called office. -/
def officeZone : CanonicalScopeEntities := ⟨[⟨1,"zone:офис","Офис"⟩],[],[]⟩

/-- A catalog with one zone, called warehouse. -/
def warehouseCatalog : SdwanFullCatalog := ⟨[⟨3,3,"Склад",.lan⟩],[],[],[]⟩

omit [PyUnicode] in
/-- The office is selected to be the warehouse: neither name has a letter or
digit of the ASCII range. -/
theorem office_matched_with_warehouse :
    (@matchZone asciiUnicode (@SdwanZonesCatalogIndex.create asciiUnicode warehouseCatalog.zones)
      ⟨1,"zone:офис","Офис"⟩).map (·.sdwanEntityId)=[3] ∧
    (∃ results,@buildResults asciiUnicode 1 1 officeZone warehouseCatalog=.ok results ∧
      results.map (fun result => (result.resultStatus,result.selectedSdwanEntityId))=
        [(.matched,some 3)]) ∧
    @documentedWords asciiUnicode "Склад"≠@documentedWords asciiUnicode "Офис" := by
  refine ⟨by decide +kernel,?_,by decide +kernel⟩
  obtain ⟨results,h,-⟩ := @buildResults_spec asciiUnicode 1 1 officeZone warehouseCatalog
    (by decide) (by decide) (by decide)
  refine ⟨results,h,?_⟩
  have heq : (@buildResults asciiUnicode 1 1 officeZone warehouseCatalog).toOption.map
      (fun found => found.map fun result => (result.resultStatus,result.selectedSdwanEntityId))=
        some [(.matched,some 3)] := by decide +kernel
  rw [h] at heq
  exact Option.some.inj heq

end NspMigrator.MappingZoneNames
