import Mathlib
import NspMigrator.MappingProjection

/-!
# What the rows of a rule show

A row shows a result by its number, its status and, when it is matched, its
object. The rows of an operand show exactly the results of what the operand
resolves to when rules are built, for a group those of its leaves.
-/

namespace NspMigrator.MappingProjectionRows

open PyDict PyExcept SdwanModels ExecuteRepository MappingEntities MappingSchemas
open MappingGroupIndex MappingGroupMembers MappingRules MappingProjection

/-- An object of a kind is in the catalog. -/
def InCatalog (catalog : SdwanFullCatalog) (entityType : MappingEntityType) (id : ℤ) : Prop :=
  match entityType with
  | .zone => ∃ zone∈catalog.zones,zone.id=id
  | .addr => ∃ object∈catalog.addrObjs,object.id=id
  | .service => ∃ service∈catalog.services,service.id=id

instance (catalog : SdwanFullCatalog) (entityType : MappingEntityType) (id : ℤ) :
    Decidable (InCatalog catalog entityType id) := by
  cases entityType <;> exact inferInstanceAs (Decidable (∃ item∈_,_=id))

/-- A result and what is shown of it. -/
structure Displays (result : MappingEntityResult) (display : MappedSdwanEntityDisplayDTO) :
    Prop where
  /-- It is shown under its number. -/
  result_id : display.mappingResultId=some result.id
  /-- Its status is shown. -/
  status : display.matchStatus=result.resultStatus
  /-- The selected object is shown when the result is matched. -/
  object : display.sdwanId=
    if result.resultStatus=.matched then result.selectedSdwanEntityId else none

/-- Rows show exactly the results with a property. -/
structure ShowsExactly (rows : List CanonicalToSdwanEntityProjectionDTO)
    (P : MappingEntityResult → Prop) : Prop where
  /-- Whatever is shown is a result with the property. -/
  shown : ∀ display∈extractSdwanEntities rows,∃ result,P result ∧ Displays result display
  /-- Every result with the property is shown. -/
  all : ∀ result,P result → ∃ display∈extractSdwanEntities rows,Displays result display

section Shows

variable {rows others : List CanonicalToSdwanEntityProjectionDTO}
  {P Q : MappingEntityResult → Prop}

theorem ShowsExactly.congr (h : ShowsExactly rows P) (heq : ∀ result,P result ↔ Q result) :
    ShowsExactly rows Q :=
  ⟨fun display hd => (h.shown display hd).imp fun result hr => ⟨(heq result).mp hr.1,hr.2⟩,
    fun result hr => h.all result ((heq result).mpr hr)⟩

theorem ShowsExactly.append (h : ShowsExactly rows P) (ho : ShowsExactly others Q) :
    ShowsExactly (rows++others) fun result => P result ∨ Q result := by
  have hsplit : extractSdwanEntities (rows++others)=
      extractSdwanEntities rows++extractSdwanEntities others := List.filterMap_append
  constructor
  · intro display hd
    rw [hsplit,List.mem_append] at hd
    rcases hd with hd|hd
    · obtain ⟨result,hr,hshows⟩ := h.shown display hd
      exact ⟨result,Or.inl hr,hshows⟩
    · obtain ⟨result,hr,hshows⟩ := ho.shown display hd
      exact ⟨result,Or.inr hr,hshows⟩
  · intro result hr
    rw [hsplit]
    rcases hr with hr|hr
    · obtain ⟨display,hd,hshows⟩ := h.all result hr
      exact ⟨display,List.mem_append_left _ hd,hshows⟩
    · obtain ⟨display,hd,hshows⟩ := ho.all result hr
      exact ⟨display,List.mem_append_right _ hd,hshows⟩

/-- Groups of rows, one for every item, show what the items show. -/
theorem showsExactly_flatten {α : Type} {items : List α}
    {groups : List (List CanonicalToSdwanEntityProjectionDTO)}
    {P : α → MappingEntityResult → Prop}
    (h : List.Forall₂ (fun item rows => ShowsExactly rows (P item)) items groups) :
    ShowsExactly groups.flatten fun result => ∃ item∈items,P item result := by
  induction h with
  | nil =>
    exact ⟨fun _ hd => absurd hd List.not_mem_nil,fun result ⟨_,hitem,_⟩ =>
      absurd hitem List.not_mem_nil⟩
  | @cons item rows items groups hone hrest ih =>
    rw [List.flatten_cons]
    refine (hone.append ih).congr fun result => ?_
    simp only [List.mem_cons,exists_eq_or_imp]

/-- Rows, one for every item, show what the items show. -/
theorem showsExactly_rows {α : Type} {items : List α}
    {P : α → MappingEntityResult → Prop}
    (h : List.Forall₂ (fun item row => ShowsExactly [row] (P item)) items rows) :
    ShowsExactly rows fun result => ∃ item∈items,P item result := by
  have hflat : (rows.map fun row => [row]).flatten=rows :=
    (List.flatMap_def).symm.trans (List.flatMap_singleton' rows)
  rw [←hflat]
  exact showsExactly_flatten (List.forall₂_map_right_iff.mpr h)

/-- A row with a result shows it. -/
theorem showsExactly_singleton {canonical : Option CanonicalEntityDisplayDTO}
    {result : MappingEntityResult} {display : MappedSdwanEntityDisplayDTO}
    (h : Displays result display) : ShowsExactly [⟨canonical,some display⟩] (·=result) := by
  constructor
  · intro other ho
    have heq : other=display := List.mem_singleton.mp ho
    exact ⟨result,rfl,heq▸h⟩
  · rintro other rfl
    exact ⟨display,List.mem_singleton_self display,h⟩

/-- A row without a result shows none. -/
theorem showsExactly_none {canonical : Option CanonicalEntityDisplayDTO} :
    ShowsExactly [⟨canonical,none⟩] fun _ => False :=
  ⟨fun _ hd => absurd hd List.not_mem_nil,fun _ h => h.elim⟩

end Shows

/-! ## Results -/

/-- The first object under a number has that number. -/
theorem get?_setdefault_of_mem {α : Type} {items : List α} {key : α → ℤ} {id : ℤ}
    (h : ∃ item∈items,key item=id) :
    ∃ item,(items.foldl (fun d item => d.setdefault (key item) item) Dict.empty).get? id=
      some item ∧ key item=id := by
  obtain ⟨item,hitem,hkey⟩ := h
  rw [get?_foldl_setdefault,Dict.get?_empty,Option.none_or]
  cases hfind : items.find? (fun other => decide (key other=id)) with
  | none =>
    rw [List.find?_eq_none] at hfind
    exact absurd (decide_eq_true hkey) (hfind item hitem)
  | some found =>
    have hfound := List.find?_some hfind
    exact ⟨found,rfl,of_decide_eq_true hfound⟩

/-- An object of the catalog is shown under its number. -/
theorem getDisplayEntity_spec {catalog : SdwanFullCatalog} {entityType : MappingEntityType}
    {id : ℤ} (h : InCatalog catalog entityType id) :
    ∃ entity,(SdwanFullCatalogIndex.create catalog).getDisplayEntity entityType id=.ok entity ∧
      entity.sdwanId=id := by
  cases entityType with
  | zone =>
    obtain ⟨zone,hget,hid⟩ := get?_setdefault_of_mem h
    refine ⟨⟨zone.id,zone.name,zone.type.value,zone.name⟩,?_,hid⟩
    rw [SdwanFullCatalogIndex.getDisplayEntity,SdwanFullCatalogIndex.getZoneDisplay,
      SdwanFullCatalogIndex.create,hget]
  | addr =>
    obtain ⟨object,hget,hid⟩ := get?_setdefault_of_mem h
    refine ⟨⟨object.id,object.name,object.type.value,buildAddrStrValue object⟩,?_,hid⟩
    rw [SdwanFullCatalogIndex.getDisplayEntity,SdwanFullCatalogIndex.getAddrDisplay,
      SdwanFullCatalogIndex.create,hget]
  | service =>
    obtain ⟨service,hget,hid⟩ := get?_setdefault_of_mem h
    refine ⟨⟨service.id,service.name,service.l4Proto.value,buildServiceStrValue service⟩,?_,hid⟩
    rw [SdwanFullCatalogIndex.getDisplayEntity,SdwanFullCatalogIndex.getServiceDisplay,
      SdwanFullCatalogIndex.create,hget]

/-- The object of a matched result is in the catalog. -/
def Selectable (catalog : SdwanFullCatalog) (result : MappingEntityResult) : Prop :=
  result.resultStatus=.matched →
    ∃ id,result.selectedSdwanEntityId=some id ∧ InCatalog catalog result.entityType id

/-- A result can be shown when its object is in the catalog. -/
theorem sdwanResultDisplay_spec {catalog : SdwanFullCatalog} {result : MappingEntityResult}
    (h : Selectable catalog result) :
    ∃ display,sdwanResultDisplay (.create catalog) (some result)=.ok display ∧
      Displays result display := by
  rw [sdwanResultDisplay]
  by_cases hmatched : result.resultStatus=.matched
  · obtain ⟨id,hid,hin⟩ := h hmatched
    obtain ⟨entity,hentity,hsame⟩ := getDisplayEntity_spec hin
    rw [if_neg (not_not_intro hmatched),hid]
    refine ⟨_,bind_eq_ok.mpr ⟨entity,hentity,rfl⟩,rfl,rfl,?_⟩
    rw [if_pos hmatched,hid,←hsame]
  · rw [if_pos hmatched]
    exact ⟨_,rfl,rfl,rfl,by rw [if_neg hmatched]⟩

/-! ## Objects and their groups -/

section Objects

variable {α : Type} [GroupedObject α] {index : CanonicalObjectIndex α}

open GroupedObject CanonicalObjectIndex

/-- Objects stand under their own identifiers. -/
def KeyedById (index : CanonicalObjectIndex α) : Prop :=
  ∀ key object,index.get key=.ok object → objectId object=key

/-- An index that was made keeps objects under their own identifiers. -/
theorem keyedById_of_create {objects : List α} (h : CanonicalObjectIndex.create objects=.ok index) :
    KeyedById index := by
  obtain ⟨byId,hbyId,h⟩ := bind_eq_ok.mp h
  obtain ⟨children,-,h⟩ := bind_eq_ok.mp h
  cases pure_eq_ok.mp h
  have hkeyed : ∀ key object,byId.get? key=some object → objectId object=key := by
    refine foldlM_preserves (fun d : Dict ℕ α => ∀ key object,d.get? key=some object →
      objectId object=key) ?_ (fun key object hget => ?_) hbyId
    · intro d object _ next hd hnext key other hget
      unfold addObject at hnext
      split at hnext
      · cases hnext
      · cases hnext
        rw [Dict.get?_insert] at hget
        split at hget
        · next hkey =>
          cases hget
          exact hkey.symm
        · exact hd key other hget
    · rw [Dict.get?_empty] at hget
      cases hget
  intro key object hget
  rw [CanonicalObjectIndex.get] at hget
  cases hfound : byId.get? key with
  | none =>
    rw [hfound] at hget
    cases hget
  | some found =>
    rw [hfound] at hget
    cases hget
    exact hkeyed key object hfound

/-- A member names a group that is known. -/
def ParentKnown (index : CanonicalObjectIndex α) (member : CanonicalGroupMember α) : Prop :=
  ∀ parentId,member.parentId=some parentId → ∃ parent,index.get parentId=.ok parent

/-- Everything below a group was met in a group that is known. -/
theorem parentKnown_of_collectGroupMembers (levels : ℕ) {groupId : ℕ} {parentId : Option ℕ}
    {displayDepth : ℕ} {path : List ℕ} {result members : List (CanonicalGroupMember α)}
    (hresult : ∀ member∈result,ParentKnown index member)
    (hparent : ∀ id,parentId=some id → ∃ parent,index.get id=.ok parent)
    (h : collectGroupMembers index levels groupId parentId displayDepth path result=
      .ok members) :
    ∀ member∈members,ParentKnown index member := by
  induction levels generalizing groupId parentId displayDepth path result members with
  | zero => cases h
  | succ levels ih =>
    obtain ⟨group,hgroup,hfold⟩ := bind_eq_ok.mp h
    -- members of this group name the group, which was found
    refine foldlM_preserves (fun acc : List (CanonicalGroupMember α) =>
      ∀ member∈acc,ParentKnown index member) ?_ ?_ hfold
    · intro acc child _ next hacc hnext
      split at hnext
      · split at hnext
        · cases hnext
        · refine ih hacc (fun id hid => ?_) hnext
          cases hid
          exact ⟨group,hgroup⟩
      · cases hnext
        intro member hm
        rcases List.mem_append.mp hm with hm|hm
        · exact hacc member hm
        · rw [List.mem_singleton.mp hm]
          intro id hid
          cases hid
          exact ⟨group,hgroup⟩
    · intro member hm
      rcases List.mem_append.mp hm with hm|hm
      · exact hresult member hm
      · rw [List.mem_singleton.mp hm]
        exact hparent

/-- A group whose leaves are found is opened, every member in a known group, and
its members that are no groups are the leaves. -/
theorem resolveGroupMembers_of_leaves {objects : List α}
    (hindex : CanonicalObjectIndex.create objects=.ok index) {groupId : ℕ} {leaves : List α}
    (h : index.resolveGroupLeaves groupId=.ok leaves) :
    ∃ members,resolveGroupMembers index groupId=.ok members ∧
      (∀ member∈members,ParentKnown index member) ∧
      ∀ id,id∈leaves.map objectId ↔
        ∃ member∈members,¬isGroup member.obj=true ∧ objectId member.obj=id := by
  obtain ⟨group,hget,hrest⟩ := bind_eq_ok.mp h
  by_cases hgroup : isGroup group=true
  · have hleaves : index.collectGroupLeaves maxGroupDepth groupId [groupId] []=.ok leaves := by
      rwa [if_pos hgroup] at hrest
    have hwalk := collectGroupLeaves_eq (indexed_of_create hindex) maxGroupDepth hget hgroup none 0
      [groupId] []
    have hfirst : firstLeaves ([] : List (CanonicalGroupMember α))=[] := rfl
    rw [hfirst,hleaves] at hwalk
    obtain ⟨members,hmembers,heq⟩ := map_eq_ok.mp hwalk.symm
    refine ⟨members,?_,?_,fun id => ?_⟩
    · exact bind_eq_ok.mpr ⟨group,hget,(if_pos hgroup).trans hmembers⟩
    · exact parentKnown_of_collectGroupMembers maxGroupDepth
        (fun member hm => absurd hm List.not_mem_nil) (fun id hid => by cases hid) hmembers
    · rw [←heq]
      simp only [List.mem_map]
      constructor
      · rintro ⟨leaf,hleaf,rfl⟩
        obtain ⟨hobj,hleafOf⟩ := List.mem_filter.mp (mem_of_mem_distinctBy hleaf)
        obtain ⟨member,hmember,rfl⟩ := List.mem_map.mp hobj
        exact ⟨member,hmember,by simpa using hleafOf,rfl⟩
      · rintro ⟨member,hmember,hleafOf,rfl⟩
        have hin : member.obj∈leafObjects members :=
          List.mem_filter.mpr ⟨List.mem_map_of_mem hmember,by simpa using hleafOf⟩
        exact exists_mem_distinctBy objectId hin
  · rw [if_neg hgroup] at hrest
    cases hrest

/-- Indexes made of the entities and the results of a scope, every object that a
result selects being in the catalog. -/
structure IndexesOf (entities : CanonicalScopeEntities) (results : Dict ℕ MappingEntityResult)
    (catalog : SdwanFullCatalog) (indexes : ProjectionIndexes) : Prop where
  /-- The address objects are those of the scope. -/
  addrs : CanonicalObjectIndex.create entities.addrObjects=.ok indexes.addrs
  /-- The services are those of the scope. -/
  services : CanonicalObjectIndex.create entities.services=.ok indexes.services
  /-- Every zone of the scope is found under its number. -/
  zones : ∀ zone∈entities.zones,∃ found,indexes.zones.get? zone.id=some found ∧ found.id=zone.id
  /-- A result is found under the entity it stands for. -/
  byEntity : ∀ key result,indexes.results.get? key=some result ↔
    (∃ resultId,results.get? resultId=some result) ∧ result.entityType=key.1 ∧
      result.canonicalEntityId=.ok key.2
  /-- Every result is found under its number. -/
  resultsById : ∀ resultId,indexes.mappingResultsById.get? resultId=results.get? resultId
  /-- The catalog is indexed. -/
  sdwan : indexes.sdwan=.create catalog
  /-- Every object that is selected is in the catalog. -/
  selectable : ∀ resultId result,results.get? resultId=some result → Selectable catalog result

variable {entities : CanonicalScopeEntities} {results : Dict ℕ MappingEntityResult}
  {catalog : SdwanFullCatalog} {indexes : ProjectionIndexes}

/-- A result that is found by its entity is shown. -/
theorem IndexesOf.display (h : IndexesOf entities results catalog indexes)
    {key : MappingResultLookupKey} {result : MappingEntityResult}
    (hresult : indexes.results.get? key=some result) :
    ∃ display,sdwanResultDisplay indexes.sdwan (indexes.results.get? key)=.ok display ∧
      Displays result display := by
  obtain ⟨⟨resultId,hstored⟩,-⟩ := (h.byEntity key result).mp hresult
  rw [h.sdwan,hresult]
  exact sdwanResultDisplay_spec (h.selectable resultId result hstored)

/-- The name of a known group is found. -/
theorem exists_canonicalObjectDisplay (index : CanonicalObjectIndex α) (family : ObjectFamily α)
    (object : α) (parentId : Option ℕ)
    (h : ∀ id,parentId=some id → ∃ parent,index.get id=.ok parent) :
    ∃ display,canonicalObjectDisplay family index object parentId=.ok display := by
  cases parentId with
  | none => exact ⟨_,rfl⟩
  | some id =>
    obtain ⟨parent,hparent⟩ := h id rfl
    exact ⟨_,bind_eq_ok.mpr ⟨_,bind_eq_ok.mpr ⟨parent,hparent,rfl⟩,rfl⟩⟩

/-- The row of an object shows its result, unless it is a group. -/
theorem buildObjectProjection_spec (h : IndexesOf entities results catalog indexes)
    (family : ObjectFamily α) (object : α) {parentId : Option ℕ}
    (hparent : ∀ id,parentId=some id → ∃ parent,index.get id=.ok parent)
    (hresult : ¬isGroup object=true →
      ∃ result,indexes.results.get? (family.entityType,objectId object)=some result) :
    ∃ row,buildObjectProjection family index indexes object parentId=.ok row ∧
      ShowsExactly [row] fun result => ¬isGroup object=true ∧
        indexes.results.get? (family.entityType,objectId object)=some result := by
  obtain ⟨canonical,hcanonical⟩ :=
    exists_canonicalObjectDisplay index family object parentId hparent
  by_cases hgroup : isGroup object=true
  · refine ⟨⟨some canonical,none⟩,bind_eq_ok.mpr ⟨canonical,hcanonical,if_pos hgroup⟩,?_⟩
    exact showsExactly_none.congr fun result => ⟨fun hf => hf.elim,fun hr => hr.1 hgroup⟩
  · obtain ⟨result,hfound⟩ := hresult hgroup
    obtain ⟨display,hdisplay,hshows⟩ := h.display hfound
    refine ⟨⟨some canonical,some display⟩,bind_eq_ok.mpr ⟨canonical,hcanonical,?_⟩,?_⟩
    · exact (if_neg hgroup).trans (bind_eq_ok.mpr ⟨display,hdisplay,rfl⟩)
    · refine (showsExactly_singleton hshows).congr fun other => ?_
      rw [hfound,Option.some.injEq]
      exact ⟨fun heq => ⟨hgroup,heq.symm⟩,fun hr => hr.2.symm⟩

/-- The rows of an operand show the results of what it resolves to. -/
theorem buildObjectOperandProjection_spec (h : IndexesOf entities results catalog indexes)
    (family : ObjectFamily α) {objects : List α}
    (hindex : CanonicalObjectIndex.create objects=.ok index) {operand : CanonicalRuleOperand}
    {noun leaves : String} {ids : List ℕ}
    (htargets : resolveObjectTargets index noun leaves operand=.ok ids)
    (hresults : ∀ id∈ids,∃ result,indexes.results.get? (family.entityType,id)=some result) :
    ∃ rows,buildObjectOperandProjection family index indexes operand=.ok rows ∧
      ShowsExactly rows fun result =>
        ∃ id∈ids,indexes.results.get? (family.entityType,id)=some result := by
  rw [resolveObjectTargets] at htargets
  rw [buildObjectOperandProjection]
  cases htarget : operand.targetObjectId with
  | none =>
    rw [htarget] at htargets
    cases htargets
  | some targetId =>
    rw [htarget] at htargets
    obtain ⟨group,hhas,hrest⟩ := bind_eq_ok.mp htargets
    obtain ⟨object,hget,hkind⟩ := bind_eq_ok.mp hhas
    have hid : objectId object=targetId := keyedById_of_create hindex targetId object hget
    rw [←pure_eq_ok.mp hkind] at hrest
    by_cases hgroup : isGroup object=true
    · rw [if_pos hgroup] at hrest
      obtain ⟨found,hfound,hrest⟩ := bind_eq_ok.mp hrest
      have hids : ids=found.map objectId := by
        by_cases hempty : found=[]
        · rw [if_pos hempty] at hrest
          cases hrest
        · rw [if_neg hempty] at hrest
          exact (pure_eq_ok.mp hrest).symm
      obtain ⟨members,hmembers,hknown,hleaves⟩ := resolveGroupMembers_of_leaves hindex hfound
      have hrow : ∀ member∈members,∃ row,
          buildObjectProjection family index indexes member.obj member.parentId=.ok row ∧
          ShowsExactly [row] fun result => ¬isGroup member.obj=true ∧
            indexes.results.get? (family.entityType,objectId member.obj)=some result := by
        intro member hm
        refine buildObjectProjection_spec h family member.obj (hknown member hm)
          fun hleaf => hresults _ ?_
        rw [hids,hleaves]
        exact ⟨member,hm,hleaf,rfl⟩
      obtain ⟨rows,hrows,hall⟩ := exists_mapM_forall₂ hrow
      refine ⟨rows,?_,(showsExactly_rows hall).congr fun result => ?_⟩
      · refine bind_eq_ok.mpr ⟨object,hget,?_⟩
        rw [if_pos hgroup,hid]
        exact bind_eq_ok.mpr ⟨members,hmembers,hrows⟩
      · rw [hids]
        constructor
        · rintro ⟨member,hm,hleaf,hresult⟩
          exact ⟨_,(hleaves _).mpr ⟨member,hm,hleaf,rfl⟩,hresult⟩
        · rintro ⟨id,hin,hresult⟩
          obtain ⟨member,hm,hleaf,rfl⟩ := (hleaves id).mp hin
          exact ⟨member,hm,hleaf,hresult⟩
    · rw [if_neg hgroup] at hrest
      have hids : ids=[objectId object] := by
        rw [hid]
        exact (pure_eq_ok.mp hrest).symm
      have hnone : ∀ id,(none : Option ℕ)=some id → ∃ parent,index.get id=.ok parent :=
        fun id hn => by cases hn
      obtain ⟨row,hrow,hshows⟩ := buildObjectProjection_spec h family object hnone
        fun _ => hresults _ (by rw [hids]; exact List.mem_singleton_self _)
      refine ⟨[row],bind_eq_ok.mpr ⟨object,hget,?_⟩,hshows.congr fun result => ?_⟩
      · rw [if_neg hgroup]
        exact bind_eq_ok.mpr ⟨row,hrow,rfl⟩
      · simp [hids,hgroup]

/-- The object of an operand that resolves is shown in the row of its rule. -/
theorem exists_objectOperandSummary (family : ObjectFamily α) {operand : CanonicalRuleOperand}
    {noun leaves : String} {ids : List ℕ}
    (htargets : resolveObjectTargets index noun leaves operand=.ok ids) :
    ∃ displays,objectOperandSummary family index operand=.ok displays := by
  rw [resolveObjectTargets] at htargets
  rw [objectOperandSummary]
  cases htarget : operand.targetObjectId with
  | none => exact ⟨[],rfl⟩
  | some targetId =>
    rw [htarget] at htargets
    obtain ⟨group,hhas,-⟩ := bind_eq_ok.mp htargets
    obtain ⟨object,hget,-⟩ := bind_eq_ok.mp hhas
    obtain ⟨display,hdisplay⟩ := exists_canonicalObjectDisplay index family object none
      fun id hn => by cases hn
    exact ⟨[display],bind_eq_ok.mpr ⟨object,hget,bind_eq_ok.mpr ⟨display,hdisplay,rfl⟩⟩⟩

end Objects

/-! ## Operands and slots -/

/-- A result of a scope that stands for an entity. -/
structure ForEntity (results : Dict ℕ MappingEntityResult) (entityType : MappingEntityType)
    (entity : ℕ) (result : MappingEntityResult) : Prop where
  /-- It is a result of the scope. -/
  stored : ∃ resultId,results.get? resultId=some result
  /-- It is of the kind of the entity. -/
  kind : result.entityType=entityType
  /-- It stands for the entity. -/
  entity : result.canonicalEntityId=.ok entity

/-- What an operand resolves to when rules are built. -/
def ResolvesTo (addrs : CanonicalObjectIndex CanonicalAddrObject)
    (services : CanonicalObjectIndex CanonicalService) (operand : CanonicalRuleOperand)
    (ids : List ℕ) : Prop :=
  resolveOperandTargets ⟨Dict.empty,addrs,services⟩ operand=.ok ids

/-- A rule of a scope and its canonical rule: the operands of the rule are those
of the results of what the canonical operands resolve to, and those assigned by hand. -/
structure Linked (entities : CanonicalScopeEntities)
    (addrs : CanonicalObjectIndex CanonicalAddrObject)
    (services : CanonicalObjectIndex CanonicalService) (results : Dict ℕ MappingEntityResult)
    (canonicalRule : CanonicalRule) (rule : MappingScopeRule) : Prop where
  /-- Every entity a canonical operand resolves to has a result with an operand. -/
  targets : ∀ operand∈canonicalRule.operands,∃ ids,ResolvesTo addrs services operand ids ∧
    (operandEntityType operand.role=.zone → ∀ id∈ids,∃ zone∈entities.zones,zone.id=id) ∧
    ∀ id∈ids,∃ result,ForEntity results (operandEntityType operand.role) id result ∧
      ∃ own∈rule.operands.getD [],own.role=mapOperandRole operand.role ∧
        own.mappingEntityResultId=result.id
  /-- An operand was assigned by hand, or stands for such an entity. -/
  operands : ∀ own∈rule.operands.getD [],∃ result,
    results.get? own.mappingEntityResultId=some result ∧
    (isManualResultWithoutCanonical result=true ∨
      ∃ operand∈canonicalRule.operands,mapOperandRole operand.role=own.role ∧
        ∃ ids,ResolvesTo addrs services operand ids ∧
          ∃ id∈ids,ForEntity results (operandEntityType operand.role) id result)

/-- The results of the operands of a slot. -/
def SlotResult (results : Dict ℕ MappingEntityResult) (rule : MappingScopeRule)
    (role : MappingScopeRuleOperandRole) (result : MappingEntityResult) : Prop :=
  ∃ own∈rule.operands.getD [],own.role=role ∧
    results.get? own.mappingEntityResultId=some result

section Slots

variable {entities : CanonicalScopeEntities} {results : Dict ℕ MappingEntityResult}
  {catalog : SdwanFullCatalog} {indexes : ProjectionIndexes} {canonicalRule : CanonicalRule}
  {rule : MappingScopeRule}

/-- The result found by an entity is the one that stands for it. -/
theorem IndexesOf.get?_iff (h : IndexesOf entities results catalog indexes)
    {entityType : MappingEntityType} {entity : ℕ} {result : MappingEntityResult} :
    indexes.results.get? (entityType,entity)=some result ↔
      ForEntity results entityType entity result :=
  (h.byEntity _ _).trans ⟨fun hr => ⟨hr.1,hr.2.1,hr.2.2⟩,fun hr => ⟨hr.1,hr.2,hr.3⟩⟩

/-- The rows of an operand show the results of what it resolves to. -/
theorem buildCanonicalOperandProjection_spec (h : IndexesOf entities results catalog indexes)
    {operand : CanonicalRuleOperand} {ids : List ℕ}
    (htargets : ResolvesTo indexes.addrs indexes.services operand ids)
    (hzones : operandEntityType operand.role=.zone →
      ∀ id∈ids,∃ zone∈entities.zones,zone.id=id)
    (hresults : ∀ id∈ids,
      ∃ result,ForEntity results (operandEntityType operand.role) id result) :
    ∃ rows,buildCanonicalOperandProjection indexes operand=.ok rows ∧
      ShowsExactly rows fun result =>
        ∃ id∈ids,ForEntity results (operandEntityType operand.role) id result := by
  have hzone : operandEntityType operand.role=.zone →
      ∃ rows,buildZoneOperandProjection indexes operand=.ok rows ∧
        ShowsExactly rows fun result => ∃ id∈ids,ForEntity results .zone id result := by
    intro htype
    simp only [ResolvesTo,resolveOperandTargets,htype] at htargets
    rw [buildZoneOperandProjection]
    cases htarget : operand.targetZoneId with
    | none =>
      rw [htarget] at htargets
      cases htargets
    | some zoneId =>
      rw [htarget,Except.ok.injEq] at htargets
      subst htargets
      have hin : zoneId∈[zoneId] := List.mem_singleton_self zoneId
      obtain ⟨zone,hzone,rfl⟩ := hzones htype zoneId hin
      obtain ⟨found,hfound,hid⟩ := h.zones zone hzone
      obtain ⟨result,hresult⟩ := hresults zone.id hin
      rw [htype] at hresult
      have hget : indexes.results.get? (.zone,found.id)=some result := by
        rw [hid]
        exact h.get?_iff.mpr hresult
      obtain ⟨display,hdisplay,hshows⟩ := h.display hget
      refine ⟨_,bind_eq_ok.mpr ⟨found,by rw [getZone,hfound],
        bind_eq_ok.mpr ⟨display,hdisplay,rfl⟩⟩,?_⟩
      refine (showsExactly_singleton hshows).congr fun other => ?_
      simp only [List.mem_singleton,exists_eq_left]
      rw [←h.get?_iff,←hid,hget,Option.some.injEq]
      exact eq_comm
  have haddr : operandEntityType operand.role=.addr →
      ∃ rows,buildAddrOperandProjection indexes operand=.ok rows ∧
        ShowsExactly rows fun result => ∃ id∈ids,ForEntity results .addr id result := by
    intro htype
    simp only [ResolvesTo,resolveOperandTargets,htype] at htargets
    rw [htype] at hresults
    simp only [←h.get?_iff] at hresults ⊢
    exact buildObjectOperandProjection_spec h addrFamily h.addrs htargets hresults
  have hservice : operandEntityType operand.role=.service →
      ∃ rows,buildServiceOperandProjection indexes operand=.ok rows ∧
        ShowsExactly rows fun result => ∃ id∈ids,ForEntity results .service id result := by
    intro htype
    simp only [ResolvesTo,resolveOperandTargets,htype] at htargets
    rw [htype] at hresults
    simp only [←h.get?_iff] at hresults ⊢
    exact buildObjectOperandProjection_spec h serviceFamily h.services htargets hresults
  rw [buildCanonicalOperandProjection]
  cases hrole : operand.role with
  | srcZone | dstZone => exact hzone (by rw [hrole]; rfl)
  | srcObject | dstObject => exact haddr (by rw [hrole]; rfl)
  | service => exact hservice (by rw [hrole]; rfl)

/-- Slots are told apart by the slots of the canonical operands. -/
theorem mapOperandRole_injective : Function.Injective mapOperandRole := by
  intro first second h
  cases first <;> cases second <;> first | rfl | cases h

/-- The rows of a slot show the results of the operands of the slot. -/
theorem buildRoleProjection_spec (h : IndexesOf entities results catalog indexes)
    (hids : ∀ resultId result,results.get? resultId=some result → result.id=resultId)
    (hlinked : Linked entities indexes.addrs indexes.services results canonicalRule rule)
    (canonicalRole : CanonicalRuleOperandRole) :
    ∃ rows,buildRoleProjection indexes canonicalRule rule canonicalRole
        (mapOperandRole canonicalRole)=.ok rows ∧
      ShowsExactly rows (SlotResult results rule (mapOperandRole canonicalRole)) := by
  have hmem : ∀ operand,operand∈canonicalRule.operands.filter
      (fun operand => decide (operand.role=canonicalRole)) ↔
      operand∈canonicalRule.operands ∧ operand.role=canonicalRole := fun operand => by
    rw [List.mem_filter,decide_eq_true_eq]
  -- the rows of the canonical operands
  let Target : CanonicalRuleOperand → MappingEntityResult → Prop := fun operand result =>
    ∃ ids,ResolvesTo indexes.addrs indexes.services operand ids ∧
      ∃ id∈ids,ForEntity results (operandEntityType operand.role) id result
  have hone : ∀ operand∈canonicalRule.operands.filter
      (fun operand => decide (operand.role=canonicalRole)),
      ∃ rows,buildCanonicalOperandProjection indexes operand=.ok rows ∧
        ShowsExactly rows (Target operand) := by
    intro operand ho
    obtain ⟨ids,hresolves,hzones,htargets⟩ := hlinked.targets operand ((hmem operand).mp ho).1
    obtain ⟨rows,hrows,hshows⟩ := buildCanonicalOperandProjection_spec h hresolves hzones
      fun id hid => (htargets id hid).imp fun result hr => hr.1
    refine ⟨rows,hrows,hshows.congr fun result => ⟨fun hr => ⟨ids,hresolves,hr⟩,?_⟩⟩
    rintro ⟨others,hothers,hr⟩
    rw [ResolvesTo,hresolves,Except.ok.injEq] at hothers
    exact hothers▸hr
  obtain ⟨groups,hgroups,hall⟩ := exists_mapM_forall₂ hone
  -- the rows of what was assigned by hand
  have hmanual : ∀ result,result∈(rule.operands.getD []).filterMap
      (manualOperandResult indexes (mapOperandRole canonicalRole)) ↔
      SlotResult results rule (mapOperandRole canonicalRole) result ∧
        isManualResultWithoutCanonical result=true := by
    intro result
    rw [List.mem_filterMap]
    constructor
    · rintro ⟨own,ho,hown⟩
      rw [manualOperandResult] at hown
      by_cases hrole : own.role=mapOperandRole canonicalRole
      · rw [if_neg (not_not_intro hrole),Option.filter_eq_some_iff,h.resultsById] at hown
        exact ⟨⟨own,ho,hrole,hown.1⟩,hown.2⟩
      · rw [if_pos hrole] at hown
        cases hown
    · rintro ⟨⟨own,ho,hrole,hget⟩,hown⟩
      refine ⟨own,ho,?_⟩
      rw [manualOperandResult,if_neg (not_not_intro hrole),Option.filter_eq_some_iff,
        h.resultsById]
      exact ⟨hget,hown⟩
  have hrow : ∀ result∈(rule.operands.getD []).filterMap
      (manualOperandResult indexes (mapOperandRole canonicalRole)),
      ∃ row,(do let sdwan ← sdwanResultDisplay indexes.sdwan (some result)
                return (⟨none,some sdwan⟩ : CanonicalToSdwanEntityProjectionDTO))=
          Except.ok row ∧
        ShowsExactly [row] (·=result) := by
    intro result hr
    obtain ⟨⟨own,-,-,hget⟩,-⟩ := (hmanual result).mp hr
    obtain ⟨display,hdisplay,hshows⟩ := sdwanResultDisplay_spec (h.selectable _ result hget)
    rw [h.sdwan]
    exact ⟨_,bind_eq_ok.mpr ⟨display,hdisplay,rfl⟩,showsExactly_singleton hshows⟩
  obtain ⟨manual,hmanualRows,hmanualAll⟩ := exists_mapM_forall₂ hrow
  refine ⟨groups.flatten++manual,bind_eq_ok.mpr ⟨groups,hgroups,
    bind_eq_ok.mpr ⟨manual,hmanualRows,rfl⟩⟩,?_⟩
  refine ((showsExactly_flatten hall).append (showsExactly_rows hmanualAll)).congr fun result => ?_
  constructor
  · rintro (⟨operand,ho,ids,hresolves,id,hid,hfor⟩|⟨other,hother,rfl⟩)
    · -- the operand of the rule points at the one result of the entity
      obtain ⟨hin,hrole⟩ := (hmem operand).mp ho
      obtain ⟨others,hothers,-,htargets⟩ := hlinked.targets operand hin
      rw [ResolvesTo,hresolves,Except.ok.injEq] at hothers
      obtain ⟨stored,hstored,own,hown,hownRole,hownId⟩ := htargets id (hothers▸hid)
      have hsame : stored=result := Option.some.inj
        ((h.get?_iff.mpr hstored).symm.trans (h.get?_iff.mpr hfor))
      subst hsame
      obtain ⟨resultId,hget⟩ := hstored.stored
      refine ⟨own,hown,by rw [hownRole,hrole],?_⟩
      rw [hownId,hids resultId stored hget,hget]
    · exact ((hmanual result).mp hother).1
  · rintro ⟨own,hown,hrole,hget⟩
    obtain ⟨stored,hstored,hcases⟩ := hlinked.operands own hown
    rw [hget,Option.some.injEq] at hstored
    subst hstored
    rcases hcases with hhand|⟨operand,ho,howner,hfor⟩
    · exact Or.inr ⟨result,(hmanual result).mpr ⟨⟨own,hown,hrole,hget⟩,hhand⟩,rfl⟩
    · exact Or.inl ⟨operand,(hmem operand).mpr
        ⟨ho,mapOperandRole_injective (howner.trans hrole)⟩,hfor⟩

end Slots

end NspMigrator.MappingProjectionRows
