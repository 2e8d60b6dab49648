import Mathlib
import NspMigrator.CiscoPortClauses
import NspMigrator.CiscoLeafKeys

/-!
# What a member line of a service group stands for

The objects a line wants are a function of the line and of the protocol its
group declares. A line either leads to all of them or to none, and to none
only when it wants none or one of them is neither there nor can be made.
-/

namespace NspMigrator.CiscoServiceMembers

open PyText PyWords PyDict PyExcept PyState PyRegistry CanonicalModels CiscoParsedConfig
open CiscoTokens CiscoState CiscoAddresses CiscoServiceLines CiscoServiceBuilders CiscoServices
open CiscoRuleKeys CiscoLeafKeys

variable [PyUnicode]

/-- The keys of the ports of a line in a group that declares a protocol. -/
def portKeys (raw : String) (groupProtocol : Option String) : Except String (List String) := do
  match ← parsePortObjectLine raw groupProtocol with
  | none => return []
  | some payload =>
    match ← portObjectBounds payload with
    | none => return []
    | some (portFrom,portTo) =>
      return (expandedProtocols ((payload.get? "protocol").getD "")).map fun protocol =>
        serviceObjectKey protocol portFrom portTo

/-- The keys of the objects a member line wants. -/
def wantedKeys (member : ServiceMember) (groupProtocol : Option String) :
    Except String (List String) :=
  match member with
  | .serviceObjectObject name => .ok (if name="" then [] else ["service:"++name])
  | .groupObject name => .ok (if name="" then [] else ["service:"++name])
  | .icmpObject name => .ok (if name="" then [] else ["service:icmp:"++name])
  | .portObject raw => if raw="" then .ok [] else portKeys raw groupProtocol
  | .serviceObject payload raw =>
    match payload.or (parseInlineServiceObject raw) with
    | none => .ok []
    | some payload => do return (← servicePayloadKey payload).toList
  | .protocolObject raw =>
    .ok (if raw="" ∨ PyUnicode.lower (strip raw)="" then []
      else [ipProtocolObjectKey (PyUnicode.lower (strip raw))])

/-- An object that may be made for a service on demand: it has the key of a service, and the
ports of its key where this is one of ports. -/
structure ServiceLeaf (fields : ObjectFields) : Prop where
  /-- It is a service, by its key. -/
  service : ∃ name,fields.objectKey="service:"++name
  /-- Its ports are those its key tells. -/
  ports : SaysPorts fields

/-- Lower-casing a lower-case text again changes nothing. -/
def LowerStable : Prop := ∀ s,PyUnicode.lower (PyUnicode.lower s)=PyUnicode.lower s

/-- What a line leads to: all the objects it wants, or none for a reason. -/
structure LeadsTo (wanted keys : List String) (σ σ' : NormalizerState) : Prop where
  /-- Only leaves are added. -/
  adds : Adds ServiceLeaf σ σ'
  /-- Either all keys the line wants come back, or none. -/
  all_or_none : keys=wanted ∨ keys=[]
  /-- The objects under the keys are registered. -/
  there : LowerStable → ∀ key∈keys,(σ'.object? key).isSome=true
  /-- None come back only if nothing is wanted, or something that is missing. -/
  missing : keys=[] → wanted=[] ∨ ∃ key∈wanted,σ.object? key=none

variable {σ σ' : NormalizerState} {key name : String} {payload : Dict String String}
  {fields : ObjectFields}

section Ports

/-- A number is written without white space. -/
theorem isSpace_of_isDigit {c : Char} (h : c.isDigit=true) : PyUnicode.isSpace c=false := by
  rw [PyUnicode.isSpace_ascii c (toNat_of_isDigit h)]
  have hdigit : 48≤c.toNat ∧ c.toNat≤57 := by
    rw [Char.isDigit,Bool.and_eq_true,decide_eq_true_iff,decide_eq_true_iff] at h
    exact h
  have hblank : (c == ' ')=false := by
    rw [beq_eq_false_iff_ne]
    rintro rfl
    exact absurd h (by decide)
  simp only [asciiSpace,hblank,Bool.false_or,Bool.or_eq_false_iff,Bool.and_eq_false_iff,
    decide_eq_false_iff_not]
  omega

/-- The token of a number is read as the number. -/
theorem parsePortToken_number (n : ℕ) :
    parsePortToken (toString n)=some <$> intOf (toString n) := by
  have hdigits : ∀ c∈(toString n).toList,c.isDigit=true := fun c hc => isDigit_of_mem_toString hc
  have hstrip : strip (toString n)=toString n :=
    strip_word fun c hc => isSpace_of_isDigit (hdigits c hc)
  have hdigit : isdigit (toString n)=true := by
    rw [isdigit,Bool.and_eq_true,List.all_eq_true]
    refine ⟨?_,fun c hc => ?_⟩
    · simp
    · rw [PyUnicode.isDigit_ascii c (toNat_of_isDigit (hdigits c hc)),
        hdigits c hc]
  rw [parsePortToken]
  simp only [hstrip,hdigit,if_true]

/-- What is read from a port-object line. -/
inductive PortFields (payload : Dict String String) : Prop
  | single (proto : String) (port : ℕ)
      (h : payload=Dict.ofList [("protocol",proto),("op","eq"),("port",toString port)])
  | range (proto first last : String) (h : payload=Dict.ofList [("protocol",proto),
      ("op","range"),("port_from",first),("port_to",last)])

theorem portFields_of_line {raw : String} {groupProtocol : Option String}
    (h : parsePortObjectLine raw groupProtocol=.ok (some payload)) : PortFields payload := by
  unfold parsePortObjectLine at h
  dsimp only at h
  split at h
  · cases pure_eq_ok.mp h
  split at h
  · split at h
    · cases pure_eq_ok.mp h
    · obtain ⟨port,-,hrest⟩ := bind_eq_ok.mp h
      cases port with
      | none =>
        dsimp only at hrest
        split at hrest
        · cases pure_eq_ok.mp hrest
        · cases pure_eq_ok.mp hrest
          exact .single _ _ rfl
      | some port =>
        cases pure_eq_ok.mp hrest
        exact .single _ port rfl
  · split at h
    · split at h
      · cases pure_eq_ok.mp h
        exact .range _ _ _ rfl
      · cases pure_eq_ok.mp h
    · cases pure_eq_ok.mp h

theorem lower_ascii_word {word : String} (hascii : IsAscii word) (hlower : asciiLower word=word) :
    PyUnicode.lower word=word :=
  (PyUnicode.lower_ascii word hascii).trans hlower

/-- A line of one port leaves a constraint to it. -/
theorem fieldsOf_single (proto protocol : String) (port : ℕ) :
    CiscoPortClauses.FieldsOf ((Dict.ofList [("protocol",proto),("op","eq"),
      ("port",toString port)]).insert "protocol" protocol) ["eq",toString port] := by
  have hlower : PyUnicode.lower "eq"="eq" := lower_ascii_word (by simp [IsAscii]) (by decide)
  refine ⟨rfl,rfl,fun name hname => ?_⟩
  rw [CiscoPortClauses.wordsField,hlower]
  simp only [List.mem_cons,List.not_mem_nil,or_false] at hname
  rcases hname with rfl|rfl|rfl|rfl
  · rfl
  · rfl
  · rfl
  · rfl

/-- A line of a range leaves a constraint to it. -/
theorem fieldsOf_range (proto protocol first last : String) :
    CiscoPortClauses.FieldsOf ((Dict.ofList [("protocol",proto),("op","range"),
      ("port_from",first),("port_to",last)]).insert "protocol" protocol) ["range",first,last] := by
  have hlower : PyUnicode.lower "range"="range" := lower_ascii_word (by simp [IsAscii]) (by decide)
  refine ⟨rfl,rfl,fun name hname => ?_⟩
  rw [CiscoPortClauses.wordsField,hlower]
  simp only [List.mem_cons,List.not_mem_nil,or_false] at hname
  rcases hname with rfl|rfl|rfl|rfl
  · rfl
  · rfl
  · rfl
  · rfl

/-- The range of a leaf is the one its line names, whatever protocol it is made for. -/
theorem range_of_bounds {protocol : String} {portFrom portTo : ℕ} (h : PortFields payload)
    (hbounds : portObjectBounds payload=.ok (some (portFrom,portTo))) {range : ℕ × ℕ}
    (hrange : resolveL4DestinationRange (payload.insert "protocol" protocol)=.ok (some range)) :
    range=(portFrom,portTo) := by
  cases h with
  | single proto port h =>
    subst h
    obtain ⟨value,hvalue,hlast⟩ := bind_eq_ok.mp hbounds
    have hread : intOf (toString port)=.ok value := hvalue
    obtain ⟨rfl,rfl⟩ := Prod.mk.inj (Option.some.inj (pure_eq_ok.mp hlast))
    have hword : PyUnicode.lower "eq"=CiscoPortClauses.PortOperator.eq.word :=
      lower_ascii_word (by simp [IsAscii]) (by decide)
    rw [CiscoPortClauses.resolve_of_compare (fieldsOf_single proto protocol port) hword,
      parsePortToken_number,hread] at hrange
    have hclosed : (CiscoPortClauses.PortConstraint.compare .eq value).closedRange=some range :=
      Except.ok.inj hrange
    rw [CiscoPortClauses.PortConstraint.closedRange] at hclosed
    split at hclosed
    · exact (Option.some.inj hclosed).symm
    · cases hclosed
  | range proto first last h =>
    subst h
    obtain ⟨start,hstart,hrest⟩ := bind_eq_ok.mp hbounds
    obtain ⟨stop,hstop,hlast⟩ := bind_eq_ok.mp hrest
    have hfirst : parsePortToken first=.ok start := hstart
    have hsecond : parsePortToken last=.ok stop := hstop
    rw [CiscoPortClauses.resolve_of_range (fieldsOf_range proto protocol first last)
      (lower_ascii_word (by simp [IsAscii]) (by decide)),hfirst,hsecond] at hrange
    cases start with
    | none => cases pure_eq_ok.mp hlast
    | some start =>
      cases stop with
      | none => cases pure_eq_ok.mp hlast
      | some stop =>
        obtain ⟨rfl,rfl⟩ := Prod.mk.inj (Option.some.inj (pure_eq_ok.mp hlast))
        have hclosed : (CiscoPortClauses.PortConstraint.range start stop).closedRange=some range :=
          Except.ok.inj hrange
        rw [CiscoPortClauses.PortConstraint.closedRange] at hclosed
        split at hclosed
        · exact (Option.some.inj hclosed).symm
        · cases hclosed

end Ports

section Members

/-- A leaf is the one under its key, or is made and registered. -/
theorem registerLeaf_spec {build : Except String (Option ObjectFields)} {result : Option String}
    (hleaf : ∀ built,build=.ok (some built) → ServiceLeaf built)
    (h : (registerLeaf key build).run σ=.ok (result,σ')) :
    Adds ServiceLeaf σ σ' ∧ (result=none → σ.object? key=none) ∧
      ∀ found,result=some found → found=key ∧
        ((∀ built,build=.ok (some built) → built.objectKey=key) →
          (σ'.object? key).isSome=true) := by
  obtain ⟨found,τ,hread,hrest⟩ := run_bind_eq_ok.mp h
  obtain ⟨rfl,hfound⟩ := objectId?_spec hread
  rw [hfound,Option.isSome_map] at hrest
  rcases run_ite hrest with ⟨hsome,hpure⟩|⟨hnone,hmade⟩
  · obtain ⟨rfl,rfl⟩ := run_pure_eq_ok.mp hpure
    refine ⟨Adds.refl _ _,fun hr => (by cases hr),fun other ho => ?_⟩
    cases ho
    exact ⟨rfl,fun _ => hsome⟩
  · rw [Bool.not_eq_true,Option.isSome_eq_false_iff,Option.isNone_iff_eq_none] at hnone
    obtain ⟨built,τ₁,hlift,hlast⟩ := run_bind_eq_ok.mp hmade
    obtain ⟨hbuild,rfl⟩ := run_lift_eq_ok.mp hlift
    cases built with
    | none =>
      obtain ⟨rfl,rfl⟩ := run_pure_eq_ok.mp hlast
      exact ⟨Adds.refl _ _,fun _ => hnone,fun other ho => (by cases ho)⟩
    | some built =>
      obtain ⟨⟨obj,created⟩,τ₂,hreg,hpure⟩ := run_bind_eq_ok.mp hlast
      obtain ⟨rfl,rfl⟩ := run_pure_eq_ok.mp hpure
      obtain ⟨hadd,hobj,-⟩ := register_spec (P:=ServiceLeaf) hreg (hleaf built hbuild)
      refine ⟨hadd,fun hr => (by cases hr),fun other ho => ?_⟩
      cases ho
      refine ⟨rfl,fun hkey => ?_⟩
      rw [hkey built hbuild] at hobj
      rw [hobj]
      rfl

/-- The leaf of a payload is made for its key. -/
theorem serviceLeaf_of_payload (hkey : servicePayloadKey payload=.ok (some key))
    (h : buildCanonicalServiceFromPayload name key payload=.ok (some fields)) :
    ServiceLeaf fields := by
  refine ⟨?_,saysPorts_of_payload hkey h⟩
  rw [objectKey_buildCanonicalServiceFromPayload h]
  unfold servicePayloadKey at hkey
  dsimp only at hkey
  split at hkey
  · cases pure_eq_ok.mp hkey
  split at hkey
  · obtain ⟨range,-,hrest⟩ := bind_eq_ok.mp hkey
    rcases range with _|⟨portFrom,portTo⟩
    · cases pure_eq_ok.mp hrest
    · cases pure_eq_ok.mp hrest
      exact ⟨_,rfl⟩
  split at hkey
  · obtain ⟨port,-,hrest⟩ := bind_eq_ok.mp hkey
    cases port with
    | none => cases pure_eq_ok.mp hrest
    | some port =>
      cases pure_eq_ok.mp hrest
      exact ⟨_,rfl⟩
  split at hkey
  · cases pure_eq_ok.mp hkey
    exact ⟨_,(String.append_assoc.trans String.append_assoc).trans
      (congrArg ("service:"++·) rfl)⟩
  split at hkey
  · cases pure_eq_ok.mp hkey
    exact ⟨_,CiscoServiceTargets.append_split "service:" "ip-proto:" (by decide) _⟩
  · cases pure_eq_ok.mp hkey

theorem registerServicePayload_spec {result : Option String}
    (h : (registerServicePayload payload).run σ=.ok (result,σ')) :
    ∃ wanted,servicePayloadKey payload=.ok wanted ∧
      LeadsTo wanted.toList result.toList σ σ' := by
  obtain ⟨wanted,τ,hlift,hrest⟩ := run_bind_eq_ok.mp h
  obtain ⟨hwanted,rfl⟩ := run_lift_eq_ok.mp hlift
  refine ⟨wanted,hwanted,?_⟩
  cases wanted with
  | none =>
    obtain ⟨rfl,rfl⟩ := run_pure_eq_ok.mp hrest
    exact ⟨Adds.refl _ _,Or.inl rfl,fun _ _ hk => absurd hk List.not_mem_nil,fun _ => Or.inl rfl⟩
  | some key =>
    obtain ⟨hadd,hnone,hsome⟩ := registerLeaf_spec
      (fun built hb => serviceLeaf_of_payload hwanted hb) hrest
    have hkey : ∀ built,buildCanonicalServiceFromPayload ( removeprefix "service:" key) key payload=
        .ok (some built) → built.objectKey=key :=
      fun built hb => objectKey_buildCanonicalServiceFromPayload hb
    cases result with
    | none =>
      exact ⟨hadd,Or.inr rfl,fun _ _ hk => absurd hk List.not_mem_nil,
        fun _ => Or.inr ⟨key,List.mem_singleton_self key,hnone rfl⟩⟩
    | some found =>
      obtain ⟨rfl,hthere⟩ := hsome found rfl
      refine ⟨hadd,Or.inl rfl,fun _ other hk => ?_,fun hnil => (by cases hnil)⟩
      rw [List.mem_singleton.mp hk]
      exact hthere hkey

/-- The leaves of a line of ports are made for all its protocols, or the line is given up. -/
theorem registerPortObjects_spec {portFrom portTo : ℕ} (hfields : PortFields payload)
    (hbounds : portObjectBounds payload=.ok (some (portFrom,portTo))) {protocols : List String}
    {result : Option (List String)}
    (h : (registerPortObjects payload portFrom portTo protocols).run σ=.ok (result,σ')) :
    Adds ServiceLeaf σ σ' ∧
      (result=none → ∃ protocol∈protocols,
        σ.object? (serviceObjectKey protocol portFrom portTo)=none) ∧
      ∀ keys,result=some keys →
        keys=protocols.map (fun protocol => serviceObjectKey protocol portFrom portTo) ∧
        ∀ key∈keys,(σ'.object? key).isSome=true := by
  induction protocols generalizing σ σ' result with
  | nil =>
    obtain ⟨rfl,rfl⟩ := run_pure_eq_ok.mp h
    refine ⟨Adds.refl _ _,fun hr => (by cases hr),fun keys hk => ?_⟩
    cases hk
    exact ⟨rfl,fun _ hk => absurd hk List.not_mem_nil⟩
  | cons protocol rest ih =>
    obtain ⟨first,τ,hfirst,hrest⟩ := run_bind_eq_ok.mp h
    have hleaf : ∀ built,buildCanonicalServiceFromPayload
        ( removeprefix "service:" (serviceObjectKey protocol portFrom portTo))
        (serviceObjectKey protocol portFrom portTo) (payload.insert "protocol" protocol)=
          .ok (some built) → ServiceLeaf built := by
      intro built hb
      refine ⟨⟨_,objectKey_buildCanonicalServiceFromPayload hb⟩,?_⟩
      refine saysPorts_of_built rfl ?_ (fun range hr => range_of_bounds hfields hbounds hr) hb
      rw [Dict.get?_insert_self,Option.getD_some]
    obtain ⟨hadd,hnone,hsome⟩ := registerLeaf_spec hleaf hfirst
    cases first with
    | none =>
      obtain ⟨rfl,rfl⟩ := run_pure_eq_ok.mp hrest
      exact ⟨hadd,fun _ => ⟨protocol,List.mem_cons_self,hnone rfl⟩,fun keys hk => (by cases hk)⟩
    | some first =>
      obtain ⟨rfl,hthere⟩ := hsome first rfl
      obtain ⟨others,τ₁,hothers,hlast⟩ := run_bind_eq_ok.mp hrest
      obtain ⟨hadds,hnone',hsome'⟩ := ih hothers
      cases others with
      | none =>
        obtain ⟨rfl,rfl⟩ := run_pure_eq_ok.mp hlast
        refine ⟨hadd.trans hadds,fun _ => ?_,fun keys hk => (by cases hk)⟩
        obtain ⟨other,hin,hfree⟩ := hnone' rfl
        exact ⟨other,List.mem_cons_of_mem _ hin,hadd.object?_none hfree⟩
      | some others =>
        obtain ⟨rfl,rfl⟩ := run_pure_eq_ok.mp hlast
        obtain ⟨rfl,hall⟩ := hsome' others rfl
        refine ⟨hadd.trans hadds,fun hr => (by cases hr),fun keys hk => ?_⟩
        cases hk
        refine ⟨rfl,fun key hin => ?_⟩
        rcases List.mem_cons.mp hin with rfl|hin
        · obtain ⟨obj,hobj⟩ := Option.isSome_iff_exists.mp
            (hthere fun built hb => objectKey_buildCanonicalServiceFromPayload hb)
          rw [hadds.object?_eq hobj]
          rfl
        · exact hall key hin

/-- A line that wants nothing leads to nothing. -/
theorem LeadsTo.nil (σ : NormalizerState) : LeadsTo [] [] σ σ :=
  ⟨Adds.refl _ _,Or.inl rfl,fun _ _ hk => absurd hk List.not_mem_nil,fun _ => Or.inl rfl⟩

theorem materializePortObject_spec {raw : String} {groupProtocol : Option String}
    {keys : List String} (h : (materializePortObject raw groupProtocol).run σ=.ok (keys,σ')) :
    ∃ wanted,portKeys raw groupProtocol=.ok wanted ∧ LeadsTo wanted keys σ σ' := by
  obtain ⟨line,τ,hlift,hrest⟩ := run_bind_eq_ok.mp h
  obtain ⟨hline,rfl⟩ := run_lift_eq_ok.mp hlift
  cases line with
  | none =>
    obtain ⟨rfl,rfl⟩ := run_pure_eq_ok.mp hrest
    exact ⟨[],bind_eq_ok.mpr ⟨none,hline,rfl⟩,.nil _⟩
  | some payload =>
    obtain ⟨bounds,τ₁,hlift',hrest⟩ := run_bind_eq_ok.mp hrest
    obtain ⟨hbounds,rfl⟩ := run_lift_eq_ok.mp hlift'
    rcases bounds with _|⟨portFrom,portTo⟩
    · obtain ⟨rfl,rfl⟩ := run_pure_eq_ok.mp hrest
      exact ⟨[],bind_eq_ok.mpr ⟨some payload,hline,bind_eq_ok.mpr ⟨none,hbounds,rfl⟩⟩,.nil _⟩
    · obtain ⟨found,τ₂,hfound,hlast⟩ := run_bind_eq_ok.mp hrest
      obtain ⟨rfl,rfl⟩ := run_pure_eq_ok.mp hlast
      obtain ⟨hadd,hnone,hsome⟩ := registerPortObjects_spec (portFields_of_line hline) hbounds
        hfound
      refine ⟨_,bind_eq_ok.mpr ⟨some payload,hline,
        bind_eq_ok.mpr ⟨some (portFrom,portTo),hbounds,rfl⟩⟩,hadd,?_,?_,?_⟩
      · cases found with
        | none => exact Or.inr rfl
        | some keys => exact Or.inl (hsome keys rfl).1
      · intro _ key hk
        cases found with
        | none => exact absurd hk List.not_mem_nil
        | some keys => exact (hsome keys rfl).2 key hk
      · intro hnil
        cases found with
        | none =>
          obtain ⟨protocol,hin,hfree⟩ := hnone rfl
          exact Or.inr ⟨_,List.mem_map_of_mem hin,hfree⟩
        | some keys => exact Or.inl ((hsome keys rfl).1.symm.trans hnil)

/-- The leaf of a protocol-object line. -/
theorem serviceLeaf_of_protocol {proto : String}
    (h : (do
      let built ← buildCanonicalServiceFromPayload
        ( removeprefix "service:" (ipProtocolObjectKey proto)) (ipProtocolObjectKey proto)
        (Dict.ofList [("protocol",proto)])
      return some (built.getD (buildIpProtocolService none (some proto))) :
        Except String (Option ObjectFields))=.ok (some fields)) :
    ServiceLeaf fields ∧ ∃ text,fields.objectKey=ipProtocolObjectKey text ∧
      (text=proto ∨ text=PyUnicode.lower ((some proto).filter (·≠"")|>.getD "ip")) := by
  obtain ⟨built,hbuilt,hlast⟩ := bind_eq_ok.mp h
  have hkey : ∃ text,fields.objectKey=ipProtocolObjectKey text ∧
      (text=proto ∨ text=PyUnicode.lower ((some proto).filter (·≠"")|>.getD "ip")) := by
    cases built with
    | none =>
      cases pure_eq_ok.mp hlast
      exact ⟨_,rfl,Or.inr rfl⟩
    | some built =>
      cases pure_eq_ok.mp hlast
      exact ⟨proto,objectKey_buildCanonicalServiceFromPayload hbuilt,Or.inl rfl⟩
  obtain ⟨text,htext,hcases⟩ := hkey
  refine ⟨⟨⟨_,htext.trans (CiscoServiceTargets.append_split "service:" "ip-proto:" (by decide) _)⟩,
    saysPorts_of_protocol htext⟩,text,htext,hcases⟩

theorem materializeProtocolObjectMember_spec {raw : String} {result : Option String}
    (h : (materializeProtocolObjectMember raw).run σ=.ok (result,σ')) :
    LeadsTo (if PyUnicode.lower (strip raw)="" then []
      else [ipProtocolObjectKey (PyUnicode.lower (strip raw))]) result.toList σ σ' := by
  unfold materializeProtocolObjectMember at h
  dsimp only at h
  rcases run_ite h with ⟨hblank,hpure⟩|⟨hne,hmade⟩
  · obtain ⟨rfl,rfl⟩ := run_pure_eq_ok.mp hpure
    rw [if_pos hblank]
    exact .nil σ
  · rw [if_neg hne]
    obtain ⟨hadd,hnone,hsome⟩ := registerLeaf_spec
      (fun built hb => (serviceLeaf_of_protocol hb).1) hmade
    cases result with
    | none =>
      exact ⟨hadd,Or.inr rfl,fun _ _ hk => absurd hk List.not_mem_nil,
        fun _ => Or.inr ⟨_,List.mem_singleton_self _,hnone rfl⟩⟩
    | some found =>
      obtain ⟨rfl,hthere⟩ := hsome found rfl
      refine ⟨hadd,Or.inl rfl,fun hstable other hk => ?_,fun hnil => (by cases hnil)⟩
      rw [List.mem_singleton.mp hk]
      refine hthere fun built hb => ?_
      -- a protocol that no leaf is built for is lower-cased once more
      obtain ⟨-,text,hkey,htext⟩ := serviceLeaf_of_protocol hb
      rw [Option.filter_some,if_pos (decide_eq_true hne),Option.getD_some,hstable] at htext
      rw [hkey]
      rcases htext with rfl|rfl
      · rfl
      · rfl

/-- A member line leads to the objects it wants, or to none. -/
theorem materializeServiceGroupMember_spec {member : ServiceMember} {groupProtocol : Option String}
    {keys : List String}
    (h : (materializeServiceGroupMember member groupProtocol).run σ=.ok (keys,σ')) :
    ∃ wanted,wantedKeys member groupProtocol=.ok wanted ∧ LeadsTo wanted keys σ σ' := by
  have hname : ∀ name,(if name="" then pure [] else existingKey ("service:"++name) :
      Normalizing (List String)).run σ=.ok (keys,σ') →
      LeadsTo (if name="" then [] else ["service:"++name]) keys σ σ' := by
    intro name hrun
    rcases run_ite hrun with ⟨hblank,hpure⟩|⟨hne,hread⟩
    · obtain ⟨rfl,rfl⟩ := run_pure_eq_ok.mp hpure
      rw [if_pos hblank]
      exact .nil σ
    · rw [if_neg hne]
      obtain ⟨found,τ,hfound,hlast⟩ := run_bind_eq_ok.mp hread
      obtain ⟨rfl,hfound⟩ := objectId?_spec hfound
      obtain ⟨rfl,rfl⟩ := run_pure_eq_ok.mp hlast
      rw [hfound,Option.isSome_map]
      cases hobj : τ.object? ("service:"++name) with
      | none =>
        exact ⟨Adds.refl _ _,Or.inr rfl,fun _ _ hk => absurd hk List.not_mem_nil,
          fun _ => Or.inr ⟨_,List.mem_singleton_self _,hobj⟩⟩
      | some obj =>
        refine ⟨Adds.refl _ _,Or.inl rfl,fun _ other hk => ?_,fun hnil => (by cases hnil)⟩
        rw [List.mem_singleton.mp hk,hobj]
        rfl
  have hpayload : ∀ payload,(do return (← registerServicePayload payload).toList :
      Normalizing (List String)).run σ=.ok (keys,σ') →
      ∃ wanted,(do return (← servicePayloadKey payload).toList : Except String (List String))=
        .ok wanted ∧ LeadsTo wanted keys σ σ' := by
    intro payload hrun
    obtain ⟨result,τ,hresult,hlast⟩ := run_bind_eq_ok.mp hrun
    obtain ⟨rfl,rfl⟩ := run_pure_eq_ok.mp hlast
    obtain ⟨wanted,hwanted,hleads⟩ := registerServicePayload_spec hresult
    exact ⟨wanted.toList,bind_eq_ok.mpr ⟨wanted,hwanted,rfl⟩,hleads⟩
  cases member with
  | serviceObjectObject name => exact ⟨_,rfl,hname name h⟩
  | groupObject name => exact ⟨_,rfl,hname name h⟩
  | icmpObject name =>
    refine ⟨_,rfl,?_⟩
    rcases run_ite h with ⟨hblank,hpure⟩|⟨hne,hmade⟩
    · obtain ⟨rfl,rfl⟩ := run_pure_eq_ok.mp hpure
      rw [if_pos hblank]
      exact .nil σ
    · rw [if_neg hne]
      obtain ⟨result,τ,hresult,hlast⟩ := run_bind_eq_ok.mp hmade
      obtain ⟨rfl,rfl⟩ := run_pure_eq_ok.mp hlast
      have hkey : "service:icmp:"++name="service:"++"icmp"++(":"++name) :=
        CiscoServiceTargets.append_split ("service:"++"icmp") ":" (by decide) name
      have hleaf : ∀ built,(.ok (some (icmpFields name ("service:icmp:"++name) "icmp"
          (icmpNameToType (hyphenated (PyUnicode.lower name))) none)) :
            Except String (Option ObjectFields))=.ok (some built) → ServiceLeaf built := by
        intro built hb
        cases hb
        exact ⟨⟨"icmp:"++name,CiscoServiceTargets.append_split "service:" "icmp:" (by decide) name⟩,
          saysPorts_of_icmp _ (Or.inl rfl) hkey⟩
      obtain ⟨hadd,hnone,hsome⟩ := registerLeaf_spec hleaf hresult
      cases result with
      | none =>
        exact ⟨hadd,Or.inr rfl,fun _ _ hk => absurd hk List.not_mem_nil,
          fun _ => Or.inr ⟨_,List.mem_singleton_self _,hnone rfl⟩⟩
      | some found =>
        obtain ⟨rfl,hthere⟩ := hsome found rfl
        refine ⟨hadd,Or.inl rfl,fun _ other hk => ?_,fun hnil => (by cases hnil)⟩
        rw [List.mem_singleton.mp hk]
        refine hthere fun built hb => ?_
        cases hb
        rfl
  | portObject raw =>
    rcases run_ite h with ⟨hblank,hpure⟩|⟨hne,hmade⟩
    · obtain ⟨rfl,rfl⟩ := run_pure_eq_ok.mp hpure
      exact ⟨[],if_pos hblank,.nil σ⟩
    · obtain ⟨wanted,hwanted,hleads⟩ := materializePortObject_spec hmade
      exact ⟨wanted,(if_neg hne).trans hwanted,hleads⟩
  | serviceObject payload raw =>
    cases payload with
    | some payload => exact hpayload payload h
    | none =>
      unfold materializeServiceGroupMember at h
      dsimp only at h
      unfold wantedKeys
      dsimp only
      rw [Option.none_or]
      cases hparsed : parseInlineServiceObject raw with
      | none =>
        rw [hparsed] at h
        obtain ⟨rfl,rfl⟩ := run_pure_eq_ok.mp h
        exact ⟨[],rfl,.nil σ⟩
      | some payload =>
        rw [hparsed] at h
        exact hpayload payload h
  | protocolObject raw =>
    refine ⟨_,rfl,?_⟩
    rcases run_ite h with ⟨hblank,hpure⟩|⟨hne,hmade⟩
    · obtain ⟨rfl,rfl⟩ := run_pure_eq_ok.mp hpure
      rw [if_pos (Or.inl hblank)]
      exact .nil σ
    · obtain ⟨result,τ,hresult,hlast⟩ := run_bind_eq_ok.mp hmade
      obtain ⟨rfl,rfl⟩ := run_pure_eq_ok.mp hlast
      have hleads := materializeProtocolObjectMember_spec hresult
      simpa only [hne,false_or] using hleads

end Members

end NspMigrator.CiscoServiceMembers
