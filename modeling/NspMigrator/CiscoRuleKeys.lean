import Mathlib
import NspMigrator.CiscoAcls
import NspMigrator.CiscoClosure

/-!
# The keys of rules

A rule is keyed by the name of its list and the number of its line, with a
counter where a line gives several rules. Names may hold colons and imitate a
counter, but the last colons of a key are never those of a name.
-/

namespace NspMigrator.CiscoRuleKeys

open PyText PyWords PyDict PyExcept PyState CanonicalModels CiscoParsedConfig CiscoAcls
open CiscoState CiscoAddresses CiscoServices CiscoRules CiscoReferences CiscoRuleReferences
open CiscoClosure CiscoNormalizer
open CiscoConfigTree (ConfigLine)

/-- A name and the number of a line. -/
def Numbered (key : String) : Prop := ∃ (name : String) (order : ℕ),key=name++":"++toString order

/-- A key with the counter of the rules that had it before. -/
def countedKey (key : String) (count : ℕ) : String :=
  if count=0 then key else key++":dup"++toString count

section Texts

/-- The ends of two equal keys after their last colons are equal. -/
theorem append_colon_inj {a b s t : String} (hs : ':'∉s.toList) (ht : ':'∉t.toList)
    (h : a++":"++s=b++":"++t) : a=b ∧ s=t := by
  have hcolon : ∀ x y : String,(x++":"++y).toList=x.toList++ ':'::y.toList := by
    intro x y
    rw [String.toList_append,String.toList_append,List.append_assoc]
    rfl
  have hchars : a.toList++ ':'::s.toList=b.toList++ ':'::t.toList := by
    rw [←hcolon,h,hcolon]
  obtain ⟨hname,hend⟩ := append_separator_inj hs ht hchars
  exact ⟨String.toList_inj.mp hname,String.toList_inj.mp hend⟩

theorem colon_notMem_toString (n : ℕ) : ':'∉(toString n).toList :=
  fun h => absurd (isDigit_of_mem_toString h) (by decide)

/-- What is written after the last colon of a counted key. -/
theorem colon_notMem_counter (n : ℕ) : ':'∉("dup"++toString n).toList := by
  rw [String.toList_append,List.mem_append]
  intro h
  rcases h with h|h
  · exact absurd h (by decide)
  · exact colon_notMem_toString n h

theorem append_counter (a : String) (n : ℕ) :
    a++":dup"++toString n=a++":"++("dup"++toString n) := by
  have hword : (":dup" : String)=":"++"dup" := by decide
  rw [hword,String.append_assoc,String.append_assoc,String.append_assoc]

/-- No counter is the number of a line. -/
theorem counter_ne_number (m n : ℕ) : "dup"++toString n≠toString m := by
  intro h
  have hd : 'd'∈(toString m).toList := by
    rw [←h,String.toList_append]
    exact List.mem_append_left _ (by decide)
  exact absurd (isDigit_of_mem_toString hd) (by decide)

end Texts

section Keys

/-- A counter is read back from a key whose name ends in the number of its line. -/
theorem countedKey_inj {key other : String} {count otherCount : ℕ} (hkey : Numbered key)
    (hother : Numbered other) (h : countedKey key count=countedKey other otherCount) :
    key=other ∧ count=otherCount := by
  obtain ⟨name,order,rfl⟩ := hkey
  obtain ⟨otherName,otherOrder,rfl⟩ := hother
  unfold countedKey at h
  split at h
  next hzero =>
    split at h
    next hotherZero => exact ⟨h,hzero.trans hotherZero.symm⟩
    next =>
      rw [append_counter] at h
      have hend := (append_colon_inj (colon_notMem_toString _) (colon_notMem_counter _) h).2
      exact absurd hend.symm (counter_ne_number _ _)
  next =>
    split at h
    next =>
      rw [append_counter] at h
      have hend := (append_colon_inj (colon_notMem_counter _) (colon_notMem_toString _) h).2
      exact absurd hend (counter_ne_number _ _)
    next =>
      rw [append_counter,append_counter] at h
      obtain ⟨hname,hend⟩ := append_colon_inj (colon_notMem_counter _) (colon_notMem_counter _) h
      have hchars := congrArg String.toList hend
      rw [String.toList_append,String.toList_append] at hchars
      have hcounter := String.toList_inj.mp (List.append_cancel_left hchars)
      exact ⟨hname,Nat.repr_injective hcounter⟩

/-- Keys in turn: each is its name with a count that was not used before. -/
theorem exists_count_of_mem_ruleKeys {rules : List ParsedAccessRule} {seen : SeenKeys}
    {key : String} (h : key∈ruleKeys seen rules) :
    ∃ rule∈rules,∃ count,(seen.get? rule.ruleName).getD 0≤count ∧
      key=countedKey rule.ruleName count := by
  induction rules generalizing seen with
  | nil => exact absurd h List.not_mem_nil
  | cons rule rest ih =>
    rcases List.mem_cons.mp h with rfl|h
    · exact ⟨rule,List.mem_cons_self,_,le_rfl,rfl⟩
    · obtain ⟨other,hother,count,hcount,hkey⟩ := ih h
      refine ⟨other,List.mem_cons_of_mem rule hother,count,?_,hkey⟩
      rw [Dict.get?_insert] at hcount
      split at hcount
      next hname =>
        rw [hname]
        rw [Option.getD_some] at hcount
        omega
      next => exact hcount

/-- Rules whose names end in the number of a line get keys of their own. -/
theorem ruleKeys_nodup {rules : List ParsedAccessRule} (seen : SeenKeys)
    (h : ∀ rule∈rules,Numbered rule.ruleName) : (ruleKeys seen rules).Nodup := by
  induction rules generalizing seen with
  | nil => exact List.nodup_nil
  | cons rule rest ih =>
    refine List.nodup_cons.mpr ⟨fun hin => ?_,ih _ fun other ho =>
      h other (List.mem_cons_of_mem _ ho)⟩
    obtain ⟨other,hother,count,hcount,hkey⟩ := exists_count_of_mem_ruleKeys hin
    have hfirst : (buildRuleKey seen rule.ruleName).1=
        countedKey rule.ruleName ((seen.get? rule.ruleName).getD 0) := rfl
    obtain ⟨hname,hsame⟩ := countedKey_inj (h rule List.mem_cons_self)
      (h other (List.mem_cons_of_mem _ hother)) (hfirst.symm.trans hkey)
    rw [Dict.get?_insert,if_pos hname.symm,Option.getD_some] at hcount
    omega

variable [PyUnicode]

/-- The name of an extracted rule ends in the number of its line. -/
theorem numbered_of_mem_extract {zones : Option (String → List ZoneResolution)}
    {usage : Option (String → AclUsageResolution)} {nodes : List ConfigLine}
    {rules : List ParsedAccessRule} (h : extract zones usage nodes=.ok rules)
    {rule : ParsedAccessRule} (hrule : rule∈rules) : Numbered rule.ruleName := by
  obtain ⟨line,-,m,order,rows,-,hrows,hin⟩ := exists_line_of_mem_extract h hrule
  obtain ⟨operand,-,hp⟩ := bind_eq_ok.mp hrows
  rw [←pure_eq_ok.mp hp] at hin
  obtain ⟨zr,-,rfl⟩ := List.mem_map.mp hin
  exact ⟨m.acl,order,rfl⟩

end Keys

section Run

variable {σ σ' : NormalizerState}

/-- Before the rules, no phase makes one. -/
theorem rules_eq_nil_of_quiet {K : String → Prop} (h : Quiet K σ σ') (hσ : σ.rules=[]) :
    σ'.rules=[] := by
  rw [h.rules_eq,hσ]
  rfl

variable [PyUnicode]

/-- The phases before the rules leave none. -/
theorem normalizePhases_rules {parsed : ParsedConfig} {u : PUnit}
    (h : (normalizePhases parsed).run {}=.ok (u,σ)) :
    ∃ τ : NormalizerState,τ.rules=[] ∧ (materializeRules parsed).run τ=.ok (⟨⟩,σ) := by
  obtain ⟨⟨⟩,σ₀,hsentinels,h⟩ := run_bind_eq_ok.mp h
  obtain ⟨⟨⟩,σ₁,haddresses,h⟩ := run_bind_eq_ok.mp h
  obtain ⟨⟨⟩,σ₂,hmembers,h⟩ := run_bind_eq_ok.mp h
  obtain ⟨⟨⟩,σ₃,hservices,h⟩ := run_bind_eq_ok.mp h
  obtain ⟨⟨⟩,σ₄,hgroups,h⟩ := run_bind_eq_ok.mp h
  obtain ⟨⟨⟩,σ₅,hprotocols,hrules⟩ := run_bind_eq_ok.mp h
  have hrules₀ : σ₀.rules=[] := by
    obtain ⟨⟨addr,id⟩,τ,haddr,hrest⟩ := run_bind_eq_ok.mp hsentinels
    obtain ⟨⟨service,id'⟩,τ',hservice,hlast⟩ := run_bind_eq_ok.mp hrest
    obtain ⟨-,rfl⟩ := run_pure_eq_ok.mp hlast
    obtain ⟨haddrQuiet,-⟩ := register_quiet (K:=AnyKey) trivial haddr
    obtain ⟨hserviceQuiet,-⟩ := register_quiet (K:=AnyKey) trivial hservice
    exact rules_eq_nil_of_quiet hserviceQuiet (rules_eq_nil_of_quiet haddrQuiet rfl)
  have hrules₁ : σ₁.rules=[] := by
    refine run_forM_invariant (P:=fun s => s.rules=[])
      (fun item _ s s' hs hr => ?_) hrules₀ haddresses
    rw [(materializeAddressObject_header hr).rules_eq,hs]
    rfl
  have hrules₂ := rules_eq_nil_of_quiet (materializeAddressGroupMembers_quiet hmembers) hrules₁
  have hrules₃ : σ₃.rules=[] := by
    refine run_forM_invariant (P:=fun s => s.rules=[])
      (fun item _ s s' hs hr => ?_) hrules₂ hservices
    rw [(materializeServiceObject_header hr).rules_eq,hs]
    rfl
  have hrules₄ := rules_eq_nil_of_quiet (materializeServiceGroupMembers_quiet hgroups) hrules₃
  have hrules₅ := rules_eq_nil_of_quiet (materializeProtocolGroupMembers_quiet hprotocols) hrules₄
  exact ⟨σ₅,hrules₅,hrules⟩

/-- Every row becomes one rule with its key, in order. -/
theorem forM_materializeRule_ruleKeys {rows : List (ParsedAccessRule × String)} {u : PUnit}
    (h : (forM rows fun (rule,ruleKey) => materializeRule rule ruleKey).run σ=.ok (u,σ')) :
    σ'.rules.map (·.ruleKey)=σ.rules.map (·.ruleKey)++rows.map (·.2) := by
  induction rows generalizing σ with
  | nil =>
    rw [run_forM_nil.mp h,List.map_nil,List.append_nil]
  | cons row rest ih =>
    obtain ⟨τ,hrow,hrest⟩ := run_forM_cons.mp h
    obtain ⟨rule,operands,hadded,-,-,-,-,hkey⟩ := materializeRule_refers hrow
    rw [ih hrest,hadded.rules_eq,List.map_append,List.append_assoc,List.map_cons,List.map_cons,hkey]
    rfl

omit [PyUnicode] in
/-- There is a key for every row. -/
theorem length_ruleKeys (rules : List ParsedAccessRule) (seen : SeenKeys) :
    (ruleKeys seen rules).length=rules.length := by
  induction rules generalizing seen with
  | nil => rfl
  | cons rule rest ih => exact congrArg (·+1) (ih _)

/-- The rules of a configuration carry the keys of its rows, and no two of them are the same
whatever the lists are called. -/
theorem rule_keys_distinct {zones : Option (String → List ZoneResolution)}
    {usage : Option (String → AclUsageResolution)} {nodes : List ConfigLine}
    {parsed : ParsedConfig} (h : extract zones usage nodes=.ok parsed.rules) :
    (ruleKeys .empty parsed.rules).Nodup ∧
      ∀ outcome,normalize parsed=.ok outcome →
        outcome.rules.map (·.ruleKey)=ruleKeys .empty parsed.rules := by
  refine ⟨ruleKeys_nodup _ fun rule hrule => numbered_of_mem_extract h hrule,fun outcome ho => ?_⟩
  obtain ⟨σ,hrun,rfl⟩ := normalize_eq_ok ho
  obtain ⟨τ,hnone,hrules⟩ := normalizePhases_rules hrun
  have hkeys := forM_materializeRule_ruleKeys hrules
  rw [hnone,List.map_nil,List.nil_append,List.map_snd_zip
    (Nat.le_of_eq (length_ruleKeys parsed.rules .empty))] at hkeys
  exact hkeys

end Run

section Samples

/-- A list on two interfaces, and one whose name imitates the counter of its second rule. -/
def imitatingLines : List ConfigLine := [
  ⟨1,"access-list A extended permit ip any any",0⟩,
  ⟨2,"access-list A:1:dup1 extended permit ip any any",0⟩]

/-- Both lists are bound twice. -/
def twoBindings (_ : String) : List ZoneResolution := [unboundResolution,unboundResolution]

/-- The keys of the sample are all different. -/
theorem rule_keys_distinct_imitating :
    ∃ parsed : ParsedConfig,parsed.rules.map (·.ruleName)=
        ["A:1","A:1","A:1:dup1:2","A:1:dup1:2"] ∧
      ruleKeys .empty parsed.rules=["A:1","A:1:dup1","A:1:dup1:2","A:1:dup1:2:dup1"] ∧
      (ruleKeys .empty parsed.rules).Nodup := by
  have hchecked : (@extract asciiUnicode (some twoBindings) none imitatingLines).toOption.any
      (fun rules => decide (rules.map (·.ruleName)=["A:1","A:1","A:1:dup1:2","A:1:dup1:2"] ∧
        ruleKeys .empty rules=["A:1","A:1:dup1","A:1:dup1:2","A:1:dup1:2:dup1"]))=true := by
    decide +kernel
  cases hextract : @extract asciiUnicode (some twoBindings) none imitatingLines with
  | error error =>
    rw [hextract] at hchecked
    cases hchecked
  | ok rules =>
    rw [hextract] at hchecked
    have hkeys := of_decide_eq_true hchecked
    let parsed : ParsedConfig := ⟨[],[],rules⟩
    have hparsed : @extract asciiUnicode (some twoBindings) none imitatingLines=
      .ok parsed.rules := hextract
    exact ⟨parsed,hkeys.1,hkeys.2,(@rule_keys_distinct asciiUnicode _ _ _ parsed hparsed).1⟩

end Samples

end NspMigrator.CiscoRuleKeys
