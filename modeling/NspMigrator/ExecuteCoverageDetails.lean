import Mathlib
import NspMigrator.ExecuteRulesComparer

/-!
# What the details of a coverage list

The walk over planned values looks up the first existing value that covers one,
and lists the planned value when the two differ. An equal existing value that
stands behind a wider one is never looked at.
-/

namespace NspMigrator.ExecuteCoverageDetails

open PyDict PyText PyExcept SdwanModels SdwanAddressGroups ExecuteValues ExecuteRuleValues
open ExecuteCoverage ExecuteRulesComparer RuleValuesResolver

/-- The details of one field. -/
def fieldDetails (details : List CoverageDetail) (field : CoverageField) : List CoverageDetail :=
  details.filter fun detail => decide (detail.field=field)

/-- The planned values listed for one field, in all details together. -/
def listedValues (details : List CoverageDetail) (field : CoverageField) : List CoverageValue :=
  (fieldDetails details field).flatMap (·.coveredValues)

section Field

variable {α : Type} [CoverableMatchableObject α]

/-- Details list the strict deltas of a field: a planned value if and only if no
existing value is equal to it, once, under an existing value that covers it and
differs from it. -/
structure StrictDeltas (field : CoverageField) (existing planned : List (ResolvedCoverageValue α))
    (details : List CoverageDetail) : Prop where
  /-- Listed are the planned values that equal no existing one. -/
  listed_iff : ∀ p∈planned,p.evidence∈listedValues details field ↔
    ∀ e∈existing,e.value≠p.value
  /-- None is listed twice. -/
  once : ∀ p∈planned,p.evidence∈listedValues details field →
    (listedValues details field).count p.evidence=1
  /-- Each is listed under a value that covers it and differs from it. -/
  under : ∀ detail∈fieldDetails details field,∀ listed∈detail.coveredValues,
    ∃ e∈existing,∃ p∈planned,e.evidence=detail.coveringValue ∧ p.evidence=listed ∧
      CoverableMatchableObject.covers e.value p.value=true ∧ e.value≠p.value

/-- No existing value stands before an equal of a planned value and covers it too. -/
def EqualFirst (existing planned : List (ResolvedCoverageValue α)) : Prop :=
  ∀ p∈planned,∀ before e after,existing=before++e::after → e.value=p.value →
    ∀ w∈before,CoverableMatchableObject.covers w.value p.value=false

/-- The existing value a planned value is looked up under. -/
def covering (existing : List (ResolvedCoverageValue α)) (planned : ResolvedCoverageValue α) :
    Option (ResolvedCoverageValue α) :=
  existing.find? fun e => CoverableMatchableObject.covers e.value planned.value

/-- The first covering value covers, and nothing before it does. -/
theorem covering_eq_some {existing : List (ResolvedCoverageValue α)}
    {planned e : ResolvedCoverageValue α} (h : covering existing planned=some e) :
    CoverableMatchableObject.covers e.value planned.value=true ∧
      ∃ before after,existing=before++e::after ∧
        ∀ w∈before,CoverableMatchableObject.covers w.value planned.value=false := by
  obtain ⟨hc,before,after,hsplit,hbefore⟩ := List.find?_eq_some_iff_append.mp h
  exact ⟨hc,before,after,hsplit,fun w hw => by simpa using hbefore w hw⟩

/-- Planned values with the existing values they are listed under. -/
def strictPairs (existing planned : List (ResolvedCoverageValue α)) :
    List (CoverageValue × CoverageValue) :=
  planned.filterMap fun p => (covering existing p).bind fun e =>
    if CoverableMatchableObject.signature e.value≠CoverableMatchableObject.signature p.value then
      some (e.evidence,p.evidence)
    else none

/-- The walk appends every pair in turn. -/
theorem collectCovered_eq {existing planned : List (ResolvedCoverageValue α)}
    {start out : Dict CoverageValue (List CoverageValue)}
    (h : collectCovered existing planned start=some out) :
    out=(strictPairs existing planned).foldl (fun d pair => d.append pair.1 pair.2) start := by
  induction planned generalizing start with
  | nil => exact (Option.some.inj h).symm
  | cons p rest ih =>
    rw [collectCovered] at h
    cases hc : covering existing p with
    | none =>
      rw [covering] at hc
      rw [hc] at h
      cases h
    | some e =>
      have hpairs : strictPairs existing (p::rest)=
          (if CoverableMatchableObject.signature e.value≠
              CoverableMatchableObject.signature p.value then [(e.evidence,p.evidence)]
            else [])++strictPairs existing rest := by
        rw [strictPairs,List.filterMap_cons,hc]
        by_cases hs : CoverableMatchableObject.signature e.value≠
            CoverableMatchableObject.signature p.value
        · simp only [Option.bind_some,if_pos hs]
          rfl
        · simp only [Option.bind_some,if_neg hs]
          rfl
      rw [covering] at hc
      rw [hc] at h
      rw [hpairs]
      by_cases hs : CoverableMatchableObject.signature e.value≠
          CoverableMatchableObject.signature p.value
      · simp only [if_pos hs] at h ⊢
        exact ih h
      · simp only [if_neg hs] at h ⊢
        exact ih h

/-- The details of a covered field are its pairs, grouped by the covering value. -/
theorem analyzeValuesCoverage_eq {field : CoverageField}
    {existing planned : List (ResolvedCoverageValue α)} {details : List CoverageDetail}
    (h : analyzeValuesCoverage field existing planned=some details) :
    details=(groupPairs (strictPairs existing planned)).entries.map
      fun entry => ⟨field,entry.1,entry.2⟩ := by
  rw [analyzeValuesCoverage] at h
  split at h
  · next hp =>
    split at h
    · rw [hp]
      exact (Option.some.inj h).symm
    · cases h
  · split at h
    · cases h
    · obtain ⟨covered,hcovered,heq⟩ := Option.map_eq_some_iff.mp h
      rw [←heq,collectCovered_eq hcovered]
      rfl

/-- A covered field covers every planned value. -/
theorem exists_covering {field : CoverageField}
    {existing planned : List (ResolvedCoverageValue α)} {details : List CoverageDetail}
    (h : analyzeValuesCoverage field existing planned=some details)
    {p : ResolvedCoverageValue α} (hp : p∈planned) : ∃ e,covering existing p=some e := by
  have hall : ∀ p∈planned,∃ e∈existing,CoverableMatchableObject.covers e.value p.value=true := by
    rw [analyzeValuesCoverage] at h
    split at h
    · next hnil =>
      rw [hnil]
      exact fun _ hm => absurd hm List.not_mem_nil
    · split at h
      · cases h
      · obtain ⟨covered,hcovered,-⟩ := Option.map_eq_some_iff.mp h
        exact (collectCovered_isSome existing planned Dict.empty).mp (by rw [hcovered]; rfl)
  rw [←Option.isSome_iff_exists,covering,List.find?_isSome]
  exact hall p hp

/-- The listed values are, up to their order, a part of the planned values. -/
theorem strictPairs_sublist (existing planned : List (ResolvedCoverageValue α)) :
    ((strictPairs existing planned).map Prod.snd).Sublist (planned.map (·.evidence)) := by
  induction planned with
  | nil => exact List.Sublist.refl _
  | cons p rest ih =>
    rw [strictPairs,List.filterMap_cons]
    split
    · exact ih.cons _
    · next pair hpair =>
      have hsecond : pair.2=p.evidence := by
        obtain ⟨e,-,hif⟩ := Option.bind_eq_some_iff.mp hpair
        split at hif
        · rw [←Option.some.inj hif]
        · cases hif
      rw [List.map_cons,List.map_cons,hsecond]
      exact ih.cons_cons _

/-- A pair is a planned value with the first existing value that covers it, when
the two differ. -/
theorem mem_strictPairs (hsig : Function.Injective (CoverableMatchableObject.signature (α:=α)))
    {existing planned : List (ResolvedCoverageValue α)} {pair : CoverageValue × CoverageValue} :
    pair∈strictPairs existing planned ↔ ∃ p∈planned,∃ e,covering existing p=some e ∧
      e.value≠p.value ∧ pair=(e.evidence,p.evidence) := by
  rw [strictPairs,List.mem_filterMap]
  constructor
  · rintro ⟨p,hp,h⟩
    obtain ⟨e,he,hif⟩ := Option.bind_eq_some_iff.mp h
    split at hif
    · next hs => exact ⟨p,hp,e,he,hsig.ne_iff.mp hs,(Option.some.inj hif).symm⟩
    · cases hif
  · rintro ⟨p,hp,e,he,hne,rfl⟩
    exact ⟨p,hp,by rw [he,Option.bind_some,if_pos (hsig.ne_iff.mpr hne)]⟩

/-- The details of a covered field are its strict deltas exactly when no equal
value stands behind a wider one. -/
theorem strictDeltas_iff (hsig : Function.Injective (CoverableMatchableObject.signature (α:=α)))
    (hself : ∀ a : α,CoverableMatchableObject.covers a a=true) {field : CoverageField}
    {existing planned : List (ResolvedCoverageValue α)} {details : List CoverageDetail}
    (hexisting : (existing.map (·.value)).Nodup) (hplanned : (planned.map (·.evidence)).Nodup)
    (hall : ∀ p∈planned,∃ e,covering existing p=some e)
    (hdetails : fieldDetails details field=(groupPairs (strictPairs existing planned)).entries.map
      fun entry => ⟨field,entry.1,entry.2⟩) :
    StrictDeltas field existing planned details ↔ EqualFirst existing planned := by
  have hperm : (listedValues details field).Perm
      ((strictPairs existing planned).map Prod.snd) := by
    rw [listedValues,hdetails,List.flatMap_map]
    exact flatMap_groupPairs (strictPairs existing planned)
  have hnodup : ((strictPairs existing planned).map Prod.snd).Nodup :=
    hplanned.sublist (strictPairs_sublist existing planned)
  have hlisted : ∀ p∈planned,p.evidence∈listedValues details field ↔
      ∃ e,covering existing p=some e ∧ e.value≠p.value := by
    intro p hp
    rw [hperm.mem_iff,List.mem_map]
    constructor
    · rintro ⟨pair,hpair,heq⟩
      obtain ⟨q,hq,e,he,hne,rfl⟩ := (mem_strictPairs hsig).mp hpair
      have hqp : q=p := List.inj_on_of_nodup_map hplanned hq hp heq
      exact ⟨e,hqp▸he,hqp▸hne⟩
    · rintro ⟨e,he,hne⟩
      exact ⟨_,(mem_strictPairs hsig).mpr ⟨p,hp,e,he,hne,rfl⟩,rfl⟩
  have hunder : ∀ detail∈fieldDetails details field,∀ listed∈detail.coveredValues,
      ∃ e∈existing,∃ p∈planned,e.evidence=detail.coveringValue ∧ p.evidence=listed ∧
        CoverableMatchableObject.covers e.value p.value=true ∧ e.value≠p.value := by
    intro detail hdetail listed hl
    rw [hdetails] at hdetail
    obtain ⟨entry,hentry,rfl⟩ := List.mem_map.mp hdetail
    have hlist := getD_groupPairs entry.1 (strictPairs existing planned)
    have hget : (groupPairs (strictPairs existing planned)).get? entry.1=some entry.2 :=
      Dict.get?_eq_some_iff.mpr hentry
    rw [hget,Option.getD_some] at hlist
    rw [hlist] at hl
    obtain ⟨pair,hpair,rfl⟩ := List.mem_map.mp hl
    obtain ⟨hm,hkey⟩ := List.mem_filter.mp hpair
    obtain ⟨p,hp,e,he,hne,rfl⟩ := (mem_strictPairs hsig).mp hm
    exact ⟨e,List.mem_of_find?_eq_some he,p,hp,of_decide_eq_true hkey,rfl,
      (covering_eq_some he).1,hne⟩
  constructor
  · intro h p hp before e after hsplit heq w hw
    -- An equal value exists, so the planned value is not listed: the first value
    -- that covers it is its equal, and there is only one.
    obtain ⟨first,hfirst⟩ := hall p hp
    have hmem : e∈existing := hsplit▸List.mem_append_right _ List.mem_cons_self
    have hsame : first.value=p.value := by
      by_contra hne
      exact (h.listed_iff p hp).mp ((hlisted p hp).mpr ⟨first,hfirst,hne⟩) e hmem heq
    have hunique : first=e :=
      List.inj_on_of_nodup_map hexisting (List.mem_of_find?_eq_some hfirst) hmem
        (hsame.trans heq.symm)
    obtain ⟨-,front,back,hat,hfront⟩ := covering_eq_some hfirst
    by_contra hcovers
    have hearlier : (before.find? fun e => CoverableMatchableObject.covers e.value p.value).isSome=
        true := List.find?_isSome.mpr ⟨w,hw,by simpa using hcovers⟩
    obtain ⟨found,hfound⟩ := Option.isSome_iff_exists.mp hearlier
    have hfind : covering existing p=some found := by
      rw [covering,hsplit,List.find?_append,hfound,Option.some_or]
    have hfe : found=e := (Option.some.inj (hfind.symm.trans hfirst)).trans hunique
    have hnot := List.nodup_append'.mp (List.Nodup.of_map _ hexisting |> fun hn => hsplit▸hn)
    exact hnot.2.2 (hfe▸List.mem_of_find?_eq_some hfound) List.mem_cons_self
  · intro h
    refine ⟨?_,?_,hunder⟩
    · intro p hp
      rw [hlisted p hp]
      constructor
      · rintro ⟨first,hfirst,hne⟩ e he heq
        obtain ⟨hcovers,front,back,hat,hfront⟩ := covering_eq_some hfirst
        obtain ⟨before,after,hsplit⟩ := List.append_of_mem he
        have hbefore := h p hp before e after hsplit heq
        have hfind : covering existing p=some e := by
          refine List.find?_eq_some_iff_append.mpr ⟨?_,before,after,hsplit,?_⟩
          · rw [heq]
            exact hself p.value
          · intro w hw
            rw [hbefore w hw]
            rfl
        exact hne (Option.some.inj (hfirst.symm.trans hfind)▸heq)
      · intro hnone
        obtain ⟨first,hfirst⟩ := hall p hp
        exact ⟨first,hfirst,hnone first (List.mem_of_find?_eq_some hfirst)⟩
    · intro p _ hl
      rw [hperm.count_eq]
      exact List.count_eq_one_of_mem hnodup (hperm.mem_iff.mp hl)

omit [CoverableMatchableObject α] in
/-- Values that are told apart by their evidence have evidence of their own. -/
theorem nodup_evidence {values : List (ResolvedCoverageValue α)}
    (h : (values.map (·.value)).Nodup)
    (heq : ∀ a∈values,∀ b∈values,a.evidence=b.evidence → a.value=b.value) :
    (values.map (·.evidence)).Nodup :=
  List.Nodup.map_on (fun a ha b hb he => List.inj_on_of_nodup_map h ha hb (heq a ha b hb he))
    h.of_map

/-- No value is resolved twice. -/
theorem nodup_distinctResolvedValues (values : List (ResolvedCoverageValue α)) :
    ((distinctResolvedValues values).map (·.value)).Nodup := by
  have h := nodup_distinctBy (fun resolved : ResolvedCoverageValue α =>
    CoverableMatchableObject.signature resolved.value) values
  have hmap : (distinctResolvedValues values).map (fun resolved =>
      CoverableMatchableObject.signature resolved.value)=
      ((distinctResolvedValues values).map (·.value)).map CoverableMatchableObject.signature := by
    rw [List.map_map]
    rfl
  exact List.Nodup.of_map _ (hmap▸h)

end Field

section Evidence

/-- The text of a port range tells ranges of one protocol apart. -/
theorem portRange_display_inj {proto : PortProto} {a b : PortRange}
    (h : (ServiceValue.portRange proto a).display=(ServiceValue.portRange proto b).display) :
    a=b := by
  have hnumbers : a.start=b.start ∧ a.stop=b.stop := by
    have hchars := congrArg String.toList h
    simp only [ServiceValue.display] at hchars
    by_cases ha : a.start=a.stop
    · by_cases hb : b.start=b.stop
      · simp only [if_pos ha,if_pos hb,String.toList_append,List.append_assoc,
          List.append_cancel_left_eq,String.toList_inj] at hchars
        have hstart : a.start=b.start := Nat.repr_injective hchars
        omega
      · simp only [if_pos ha,if_neg hb,String.toList_append,List.append_assoc,
          List.append_cancel_left_eq] at hchars
        have hin : '-' ∈(toString a.start).toList := by
          rw [hchars]
          simp
        exact absurd hin (PyText.hyphen_notMem_toString a.start)
    · by_cases hb : b.start=b.stop
      · simp only [if_neg ha,if_pos hb,String.toList_append,List.append_assoc,
          List.append_cancel_left_eq] at hchars
        have hin : '-' ∈(toString b.start).toList := by
          rw [←hchars]
          simp
        exact absurd hin (PyText.hyphen_notMem_toString b.start)
      · simp only [if_neg ha,if_neg hb,String.toList_append,List.append_assoc,
          List.append_cancel_left_eq] at hchars
        have hsplit := (List.append_cons_inj_of_notMem (PyText.hyphen_notMem_toString a.start)
          (PyText.hyphen_notMem_toString a.stop)).mp
            (show a.start.repr.toList++ '-'::a.stop.repr.toList=
            b.start.repr.toList++ '-'::b.stop.repr.toList from hchars)
        exact ⟨Nat.repr_injective (String.toList_inj.mp hsplit.1),
          Nat.repr_injective (String.toList_inj.mp hsplit.2.2)⟩
  obtain ⟨start,stop,hle,hmax⟩ := a
  obtain ⟨start',stop',hle',hmax'⟩ := b
  simp only at hnumbers
  obtain ⟨rfl,rfl⟩ := hnumbers
  rfl

/-- Leaves are loaded objects. -/
theorem get?_of_mem_resolveLeavesAt {resolver : SDWANAddressGroupLeavesResolver} {remaining : ℕ}
    {objectId : ℤ} {leaves : List SdwanAddrObject}
    (h : resolver.resolveLeavesAt remaining objectId=.ok leaves) {leaf : SdwanAddrObject}
    (hleaf : leaf∈leaves) : ∃ key,resolver.objectsById.get? key=some leaf := by
  induction remaining using Nat.strong_induction_on generalizing objectId leaves with
  | _ remaining ih =>
    obtain ⟨object,hget,⟨-,rfl⟩|⟨-,lower,lists,rfl,hlists,rfl⟩⟩ :=
      SDWANAddressGroupLeavesResolver.resolveLeavesAt_eq_ok h
    · rw [List.mem_singleton.mp hleaf]
      exact ⟨objectId,hget⟩
    · obtain ⟨list,hlist,hin⟩ := List.mem_flatten.mp hleaf
      obtain ⟨child,-,hchild⟩ := exists_of_mem_mapM hlists hlist
      exact ih lower (Nat.lt_succ_self lower) hchild hin

variable [PyUnicode]

/-- The values of one service are told apart by their texts. -/
theorem serviceValues_display_inj {service : SdwanService} {values : List ServiceValue}
    (h : serviceValues service=.ok values) {a b : ServiceValue} (ha : a∈values) (hb : b∈values)
    (hd : a.display=b.display) : a=b := by
  have hports : ∀ proto,serviceValues.ports service proto=.ok values →
      ∀ value∈values,∃ range,value=.portRange proto range := by
    intro proto hok value hv
    rw [serviceValues.ports] at hok
    split at hok
    · cases hok
    · obtain ⟨range,-,hrange⟩ := exists_of_mem_mapM hok hv
      rw [ServiceValue.ofRange] at hrange
      split at hrange
      · cases hrange
      · exact ⟨_,(Except.ok.inj hrange).symm⟩
  have hsame : ∀ proto,serviceValues.ports service proto=.ok values → a=b := by
    intro proto hok
    obtain ⟨first,rfl⟩ := hports proto hok a ha
    obtain ⟨second,rfl⟩ := hports proto hok b hb
    rw [portRange_display_inj hd]
  have hsingle : ∀ value,values=[value] → a=b := by
    rintro value rfl
    rw [List.mem_singleton.mp ha,List.mem_singleton.mp hb]
  rw [serviceValues] at h
  split at h
  · exact hsame .tcp h
  · exact hsame .udp h
  · exact hsingle _ (Except.ok.inj h).symm
  · exact hsingle _ (Except.ok.inj h).symm
  · exact hsingle _ (Except.ok.inj h).symm

/-- Address values of a catalog are told apart by their evidence. -/
theorem nodup_addressEvidence {catalog : SdwanPolicyCatalog} {ids : List ℤ}
    {values : List (ResolvedCoverageValue AddressValue)}
    (h : (catalogResolver catalog).resolveAddressValues ids=.ok values) :
    (values.map (·.value)).Nodup ∧ (values.map (·.evidence)).Nodup := by
  obtain ⟨lists,hlists,h⟩ := bind_eq_ok.mp h
  rw [pure_eq_ok] at h
  subst h
  have hsource : ∀ resolved∈distinctResolvedValues lists.flatten,∃ leaf,
      (catalogResolver catalog).addressGroupResolver.objectsById.get? leaf.id=some leaf ∧
        addressValueFromLeaf leaf=.ok resolved.value ∧ resolved.evidence.objectId=leaf.id := by
    intro resolved hr
    obtain ⟨found,hfound,hin⟩ := List.mem_flatten.mp (mem_of_mem_distinctBy hr)
    obtain ⟨objectId,-,hstep⟩ := exists_of_mem_mapM hlists hfound
    obtain ⟨leaves,hleaves,hstep⟩ := bind_eq_ok.mp hstep
    obtain ⟨leaf,hleaf,hresolved⟩ := exists_of_mem_mapM hstep hin
    obtain ⟨value,hvalue,heq⟩ := bind_eq_ok.mp hresolved
    rw [pure_eq_ok] at heq
    subst heq
    obtain ⟨key,hkey⟩ := get?_of_mem_resolveLeavesAt hleaves hleaf
    obtain ⟨other,-,hpair⟩ := List.mem_map.mp (Dict.mem_of_get?_ofList hkey)
    obtain ⟨rfl,rfl⟩ := Prod.mk.inj hpair
    exact ⟨other,hkey,hvalue,rfl⟩
  have hvalues := nodup_distinctResolvedValues lists.flatten
  refine ⟨hvalues,nodup_evidence hvalues ?_⟩
  intro a ha b hb he
  obtain ⟨leaf,hget,hvalue,hid⟩ := hsource a ha
  obtain ⟨leaf',hget',hvalue',hid'⟩ := hsource b hb
  have hids : leaf.id=leaf'.id := by rw [←hid,←hid',he]
  rw [hids,hget'] at hget
  obtain rfl := Option.some.inj hget
  exact Except.ok.inj (hvalue.symm.trans hvalue')

/-- Service values of a catalog are told apart by their evidence. -/
theorem nodup_serviceEvidence {catalog : SdwanPolicyCatalog} {ids : List ℤ}
    {values : List (ResolvedCoverageValue ServiceValue)}
    (h : (catalogResolver catalog).resolveServiceValues ids=.ok values) :
    (values.map (·.value)).Nodup ∧ (values.map (·.evidence)).Nodup := by
  obtain ⟨lists,hlists,h⟩ := bind_eq_ok.mp h
  rw [pure_eq_ok] at h
  subst h
  have hsource : ∀ resolved∈distinctResolvedValues lists.flatten,∃ service found,
      (catalogResolver catalog).servicesById.get? service.id=some service ∧
        serviceValues service=.ok found ∧ resolved.value∈found ∧
          resolved.evidence=⟨service.id,service.name,resolved.value.display⟩ := by
    intro resolved hr
    obtain ⟨list,hlist,hin⟩ := List.mem_flatten.mp (mem_of_mem_distinctBy hr)
    obtain ⟨serviceId,-,hstep⟩ := exists_of_mem_mapM hlists hlist
    cases hservice : (catalogResolver catalog).servicesById.get? serviceId with
    | none => simp [hservice] at hstep
    | some service =>
      simp only [hservice] at hstep
      obtain ⟨found,hfound,heq⟩ := bind_eq_ok.mp hstep
      rw [pure_eq_ok] at heq
      subst heq
      obtain ⟨value,hv,rfl⟩ := List.mem_map.mp hin
      obtain ⟨other,-,hpair⟩ := List.mem_map.mp (Dict.mem_of_get?_ofList hservice)
      obtain ⟨rfl,rfl⟩ := Prod.mk.inj hpair
      exact ⟨other,found,hservice,hfound,hv,rfl⟩
  have hvalues := nodup_distinctResolvedValues lists.flatten
  refine ⟨hvalues,nodup_evidence hvalues ?_⟩
  intro a ha b hb he
  obtain ⟨service,found,hget,hfound,hv,heva⟩ := hsource a ha
  obtain ⟨service',found',hget',hfound',hv',hevb⟩ := hsource b hb
  rw [heva,hevb,CoverageValue.mk.injEq] at he
  obtain ⟨hids,-,hdisplay⟩ := he
  rw [hids,hget'] at hget
  obtain rfl := Option.some.inj hget
  obtain rfl := Except.ok.inj (hfound.symm.trans hfound')
  exact serviceValues_display_inj hfound hv hv' hdisplay

end Evidence

/-- The details of a comparison list the strict deltas of every field. -/
structure DetailsStrict (existing planned : ResolvedRuleValues) (details : List CoverageDetail) :
    Prop where
  /-- The details of the sources are strict. -/
  src : StrictDeltas .srcAddrObjects existing.srcAddresses planned.srcAddresses details
  /-- So are those of the destinations. -/
  dst : StrictDeltas .dstAddrObjects existing.dstAddresses planned.dstAddresses details
  /-- So are those of the services. -/
  services : StrictDeltas .services existing.services planned.services details

/-- In no field a planned value has its equal behind a wider existing value. -/
structure EqualsFirst (existing planned : ResolvedRuleValues) : Prop where
  /-- Equal sources come first. -/
  src : EqualFirst existing.srcAddresses planned.srcAddresses
  /-- So do equal destinations. -/
  dst : EqualFirst existing.dstAddresses planned.dstAddresses
  /-- So do equal services. -/
  services : EqualFirst existing.services planned.services

/-- The details of a covered field are details of that field. -/
theorem fieldDetails_analyzed {α : Type} [CoverableMatchableObject α] {field : CoverageField}
    {existing planned : List (ResolvedCoverageValue α)} {details : List CoverageDetail}
    (h : analyzeValuesCoverage field existing planned=some details) (other : CoverageField) :
    fieldDetails details other=if other=field then details else [] := by
  have hfield : ∀ detail∈details,detail.field=field := by
    rw [analyzeValuesCoverage_eq h]
    intro detail hd
    obtain ⟨entry,-,rfl⟩ := List.mem_map.mp hd
    rfl
  rw [fieldDetails]
  split
  · next heq =>
    rw [List.filter_eq_self]
    intro detail hd
    rw [heq,hfield detail hd,decide_eq_true rfl]
  · next hne =>
    rw [List.filter_eq_nil_iff]
    intro detail hd
    rw [hfield detail hd,decide_eq_true_eq]
    exact Ne.symm hne

/-- A covered rule is covered in every field, and its details are those of the fields. -/
theorem analyzeCoverage_details {existing planned : ResolvedRuleValues}
    (h : (analyzeCoverage existing planned).isCovered=true) : ∃ src dst services,
      analyzeValuesCoverage .srcAddrObjects existing.srcAddresses planned.srcAddresses=some src ∧
      analyzeValuesCoverage .dstAddrObjects existing.dstAddresses planned.dstAddresses=some dst ∧
      analyzeValuesCoverage .services existing.services planned.services=some services ∧
      (analyzeCoverage existing planned).details=src++dst++services := by
  rw [analyzeCoverage] at h ⊢
  split at h
  · cases h
  · next hzones =>
    rw [if_neg hzones]
    cases hsrc : analyzeValuesCoverage .srcAddrObjects existing.srcAddresses
        planned.srcAddresses with
    | none => simp [hsrc] at h
    | some src =>
      cases hdst : analyzeValuesCoverage .dstAddrObjects existing.dstAddresses
          planned.dstAddresses with
      | none => simp [hsrc,hdst] at h
      | some dst =>
        cases hservices : analyzeValuesCoverage .services existing.services planned.services with
        | none => simp [hsrc,hdst,hservices] at h
        | some services => exact ⟨src,dst,services,rfl,rfl,rfl,rfl⟩

variable [PyUnicode] {hashFunc : String → String}

/-- The details of a covered rule are those of its comparison with the rule that
was found. -/
theorem coverageDetails_of_covered {catalog : SdwanPolicyCatalog} {rule : RuleBody}
    {planned : ResolvedRuleValues} {existing : ResolvedSdwanRule}
    (hplanned : (catalogResolver catalog).resolveRule rule=.ok planned)
    (hexisting : (resolvedRules (catalogResolver catalog) catalog.rules).find?
      (fun r => (analyzeCoverage r.values planned).isCovered)=some existing)
    (hcovered : (compareWithCatalog hashFunc catalog rule).matchStatus=.coveredMatch) :
    (compareWithCatalog hashFunc catalog rule).coverageDetails=
      (analyzeCoverage existing.values planned).details := by
  rw [compareWithCatalog,RulesComparer.compareRule,ofCatalog_resolver,hplanned] at hcovered ⊢
  dsimp only at hcovered ⊢
  cases hindex : ((RulesComparer.ofCatalog hashFunc catalog).rulesIndex.get?
      (planned.normalized.exactSignature hashFunc)).getD [] with
  | cons candidate rest =>
    rw [hindex] at hcovered
    cases hcovered
  | nil =>
    dsimp only
    rw [ofCatalog_resolvedSdwanRules,hexisting]

/-- The details of a covered rule are its strict deltas exactly when in no field
a planned value has its equal behind a wider existing value. -/
theorem coverage_details_strict_iff (hashFunc : String → String) (catalog : SdwanPolicyCatalog)
    (rule : RuleBody) {planned : ResolvedRuleValues} {existing : ResolvedSdwanRule}
    (hplanned : (catalogResolver catalog).resolveRule rule=.ok planned)
    (hexisting : (resolvedRules (catalogResolver catalog) catalog.rules).find?
      (fun r => (analyzeCoverage r.values planned).isCovered)=some existing)
    (hcovered : (compareWithCatalog hashFunc catalog rule).matchStatus=.coveredMatch) :
    DetailsStrict existing.values planned
        (compareWithCatalog hashFunc catalog rule).coverageDetails ↔
      EqualsFirst existing.values planned := by
  have hisCovered : (analyzeCoverage existing.values planned).isCovered=true := by
    simpa using List.find?_some hexisting
  obtain ⟨src,dst,services,hsrc,hdst,hservices,hdetails⟩ := analyzeCoverage_details hisCovered
  have hresolved := (mem_resolvedRules.mp (List.mem_of_find?_eq_some hexisting)).2
  obtain ⟨-,-,-,hesrc,hedst,heservices⟩ := resolveRule_eq_ok hresolved
  obtain ⟨-,-,-,hpsrc,hpdst,hpservices⟩ := resolveRule_eq_ok hplanned
  rw [coverageDetails_of_covered hplanned hexisting hcovered,hdetails]
  have hsplit : ∀ field,fieldDetails (src++dst++services) field=
      fieldDetails src field++fieldDetails dst field++fieldDetails services field := by
    intro field
    rw [fieldDetails,List.filter_append,List.filter_append]
    rfl
  have hsrcField : fieldDetails (src++dst++services) .srcAddrObjects=src := by
    rw [hsplit,fieldDetails_analyzed hsrc,fieldDetails_analyzed hdst,
      fieldDetails_analyzed hservices]
    simp
  have hdstField : fieldDetails (src++dst++services) .dstAddrObjects=dst := by
    rw [hsplit,fieldDetails_analyzed hsrc,fieldDetails_analyzed hdst,
      fieldDetails_analyzed hservices]
    simp
  have hservicesField : fieldDetails (src++dst++services) .services=services := by
    rw [hsplit,fieldDetails_analyzed hsrc,fieldDetails_analyzed hdst,
      fieldDetails_analyzed hservices]
    simp
  have hsrcIff := strictDeltas_iff AddressValue.signature_injective AddressValue.covers_self
    (nodup_addressEvidence hesrc).1 (nodup_addressEvidence hpsrc).2
    (fun p hp => exists_covering hsrc hp) (hsrcField.trans (analyzeValuesCoverage_eq hsrc))
  have hdstIff := strictDeltas_iff AddressValue.signature_injective AddressValue.covers_self
    (nodup_addressEvidence hedst).1 (nodup_addressEvidence hpdst).2
    (fun p hp => exists_covering hdst hp) (hdstField.trans (analyzeValuesCoverage_eq hdst))
  have hservicesIff := strictDeltas_iff ServiceValue.signature_injective ServiceValue.covers_self
    (nodup_serviceEvidence heservices).1 (nodup_serviceEvidence hpservices).2
    (fun p hp => exists_covering hservices hp)
    (hservicesField.trans (analyzeValuesCoverage_eq hservices))
  constructor
  · rintro ⟨h₁,h₂,h₃⟩
    exact ⟨hsrcIff.mp h₁,hdstIff.mp h₂,hservicesIff.mp h₃⟩
  · rintro ⟨h₁,h₂,h₃⟩
    exact ⟨hsrcIff.mpr h₁,hdstIff.mpr h₂,hservicesIff.mpr h₃⟩

/-- A catalog whose one rule reaches a network and, listed behind it, one of its hosts. -/
def lanCatalog : SdwanPolicyCatalog where
  targetId := "branch"
  rules := [⟨⟨.accept,[1],[2],[11],[10,11],[20]⟩,7⟩]
  zones := [⟨1,101,"LAN",.lan⟩,⟨2,102,"WAN",.wan⟩]
  services := [.ofAny 20 "any"]
  addressObjects := [.ofPrefix 10 [] "lan" (.ofNat 167772160 24),
    .ofHost 11 [] "printer" (.ofNat 167772165)]

/-- A planned rule that reaches the host alone. -/
def printerRule : RuleBody := ⟨.accept,[1],[2],[11],[11],[20]⟩

/-- The host as a resolved value. -/
def printerValue : ResolvedCoverageValue AddressValue :=
  ⟨.span ⟨167772165,167772165,le_rfl⟩,⟨11,"printer","10.0.0.5"⟩⟩

/-- The network as a resolved value. -/
def lanValue : ResolvedCoverageValue AddressValue :=
  ⟨.span ⟨167772160,167772415,by decide⟩,⟨10,"lan","10.0.0.0-10.0.0.255"⟩⟩

/-- The values of the planned rule. -/
def printerValues : ResolvedRuleValues :=
  ⟨⟨.accept,{"lan"},{"wan"},{printerValue.value},{printerValue.value},{.any}⟩,[printerValue],
    [printerValue],[⟨.any,⟨20,"any","any"⟩⟩],rfl,rfl,rfl⟩

/-- The values of the existing rule. -/
def lanValues : ResolvedRuleValues :=
  ⟨⟨.accept,{"lan"},{"wan"},{printerValue.value},valueSet [lanValue,printerValue],{.any}⟩,
    [printerValue],[lanValue,printerValue],[⟨.any,⟨20,"any","any"⟩⟩],rfl,rfl,rfl⟩


/-- The existing rule with its values. -/
def lanRule : ResolvedSdwanRule := ⟨⟨⟨.accept,[1],[2],[11],[10,11],[20]⟩,7⟩,lanValues⟩

omit [PyUnicode] in
/-- The planned rule is covered by the existing one. -/
theorem printer_covered :
    (@resolveRule asciiUnicode (catalogResolver lanCatalog) printerRule)=.ok printerValues ∧
      (@resolvedRules asciiUnicode (catalogResolver lanCatalog) lanCatalog.rules).find?
        (fun r => (analyzeCoverage r.values printerValues).isCovered)=some lanRule ∧
      (@compareWithCatalog asciiUnicode id lanCatalog printerRule).matchStatus=.coveredMatch := by
  have houtcome := @compareRule_outcome asciiUnicode id Function.injective_id lanCatalog printerRule
  have hcovered : @compareOutcome asciiUnicode (catalogResolver lanCatalog) lanCatalog.rules
      printerRule=(.coveredMatch,some 7) := by decide +kernel
  rw [hcovered,Prod.mk.injEq] at houtcome
  exact ⟨rfl,rfl,houtcome.1⟩

omit [PyUnicode] in
/-- The law decides the comparison of the two rules. -/
theorem coverage_details_strict_iff_lan :
    DetailsStrict lanValues printerValues
        (@compareWithCatalog asciiUnicode id lanCatalog printerRule).coverageDetails ↔
      EqualsFirst lanValues printerValues :=
  @coverage_details_strict_iff asciiUnicode id lanCatalog printerRule printerValues lanRule
    printer_covered.1 printer_covered.2.1 printer_covered.2.2

omit [PyUnicode] in
/-- The host is listed under the network, although the existing rule has it too. -/
theorem printer_listed_under_lan :
    (@resolveRule asciiUnicode (catalogResolver lanCatalog) printerRule)=.ok printerValues ∧
      (@resolvedRules asciiUnicode (catalogResolver lanCatalog) lanCatalog.rules).find?
        (fun r => (analyzeCoverage r.values printerValues).isCovered)=some lanRule ∧
      (@compareWithCatalog asciiUnicode id lanCatalog printerRule).matchStatus=.coveredMatch ∧
      ¬DetailsStrict lanRule.values printerValues
        (@compareWithCatalog asciiUnicode id lanCatalog printerRule).coverageDetails := by
  obtain ⟨hplanned,hexisting,hcovered⟩ := printer_covered
  refine ⟨hplanned,hexisting,hcovered,?_⟩
  rw [@coverageDetails_of_covered asciiUnicode id lanCatalog printerRule printerValues lanRule
    hplanned hexisting hcovered]
  intro h
  have hlisted : printerValue.evidence∈
      listedValues (analyzeCoverage lanRule.values printerValues).details .dstAddrObjects := by
    decide
  have hdiffers := (h.dst.listed_iff printerValue List.mem_cons_self).mp hlisted
  exact hdiffers printerValue (List.mem_cons_of_mem _ List.mem_cons_self) rfl

end NspMigrator.ExecuteCoverageDetails
