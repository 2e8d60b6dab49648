import Mathlib
import NspMigrator.CiscoServiceBuilders

/-!
# Port clauses

A TCP or UDP clause may constrain its source ports and its destination ports.
The reader keeps a clause exactly where it has no source constraint and one
range stands for its destination ports.
-/

namespace NspMigrator.CiscoPortClauses

open PyText PyWords PyDict CiscoTokens CiscoServiceLines CiscoServiceBuilders

/-- The operators that compare with one port. -/
inductive PortOperator where
  | eq
  | neq
  | lt
  | gt
  deriving DecidableEq

/-- The word of an operator. -/
def PortOperator.word : PortOperator → String
  | .eq => "eq"
  | .neq => "neq"
  | .lt => "lt"
  | .gt => "gt"

/-- A constraint on ports. -/
inductive PortConstraint where
  | compare (operator : PortOperator) (port : ℕ)
  | range (start stop : ℕ)
  deriving DecidableEq

namespace PortConstraint

/-- A port fits a constraint. -/
def Fits : PortConstraint → ℕ → Prop
  | .compare .eq bound,port => port=bound
  | .compare .neq bound,port => port≠bound
  | .compare .lt bound,port => port<bound
  | .compare .gt bound,port => bound<port
  | .range start stop,port => start≤port ∧ port≤ stop

/-- The ports a constraint is written with. -/
def ports : PortConstraint → List ℕ
  | .compare _ port => [port]
  | .range start stop => [start,stop]

end PortConstraint

/-- What a TCP or UDP clause asks of its ports. -/
structure L4Clause where
  /-- What the source ports must satisfy. -/
  source : Option PortConstraint
  /-- What the destination ports must satisfy. -/
  destination : Option PortConstraint

/-- The destination ports a clause admits. -/
def L4Clause.destinationPorts (clause : L4Clause) : Set ℕ :=
  {port | port≤ maxPort ∧ ∀ constraint,clause.destination=some constraint → constraint.Fits port}

section Reading

variable [PyUnicode]

/-- A port as it is written: by its decimal digits, or by a name of the catalog. -/
inductive PortText : String → ℕ → Prop
  | number {token : String} {port : ℕ} (digits : ∀ c∈token.toList,c.isDigit=true)
      (value : parseNat token=some port) : PortText token port
  | name {token : String} {entry : ServiceCatalogEntry} (letters : isdigit token=false)
      (known : catalogEntry (PyUnicode.lower token)=some entry) : PortText token entry.portFrom

/-- The words of a constraint. -/
inductive ConstraintWords : List String → PortConstraint → Prop
  | compare {word token : String} {operator : PortOperator} {port : ℕ}
      (hword : PyUnicode.lower word=operator.word) (hport : PortText token port) :
      ConstraintWords [word,token] (.compare operator port)
  | range {word first last : String} {start stop : ℕ} (hword : PyUnicode.lower word="range")
      (hstart : PortText first start) (hstop : PortText last stop) :
      ConstraintWords [word,first,last] (.range start stop)

/-- The words of a direction, nothing where the direction is not constrained. -/
inductive DirectionWords (direction : String) : List String → Option PortConstraint → Prop
  | absent : DirectionWords direction [] none
  | present {word : String} {words : List String} {constraint : PortConstraint}
      (hword : PyUnicode.lower word=direction) (hwords : ConstraintWords words constraint) :
      DirectionWords direction (word::words) (some constraint)

/-- The words of a clause: a protocol alone, with a constraint on its destination
ports, or with the constraints of both directions. -/
inductive ClauseWords : List String → L4Clause → Prop
  | plain {proto : String} {words : List String} {constraint : PortConstraint}
      (hproto : PyUnicode.lower proto="tcp" ∨ PyUnicode.lower proto="udp")
      (hwords : ConstraintWords words constraint) :
      ClauseWords (proto::words) ⟨none,some constraint⟩
  | directed {proto : String} {sourceWords destinationWords : List String}
      {source destination : Option PortConstraint}
      (hproto : PyUnicode.lower proto="tcp" ∨ PyUnicode.lower proto="udp")
      (hsource : DirectionWords "source" sourceWords source)
      (hdestination : DirectionWords "destination" destinationWords destination) :
      ClauseWords (proto::(sourceWords++destinationWords)) ⟨source,destination⟩

section Tokens

variable {token : String} {port : ℕ}

/-- A numeral is lower-cased to itself. -/
theorem lower_of_digits (h : ∀ c∈token.toList,c.isDigit=true) : PyUnicode.lower token=token := by
  rw [PyUnicode.lower_ascii token fun c hc => toNat_of_isDigit (h c hc),asciiLower]
  have hmap : token.toList.map Char.toLower=token.toList := by
    conv_rhs => rw [←List.map_id token.toList]
    exact List.map_congr_left fun c hc => toLower_of_isDigit (h c hc)
  rw [hmap,String.ofList_toList]

/-- The words that steer the reading of a clause. -/
def keywords : List String := ["source","destination","tcp","udp"]++portOperators

/-- No port is written like a word that steers the reading. -/
theorem PortText.not_keyword (h : PortText token port) : PyUnicode.lower token∉keywords := by
  cases h with
  | number digits value =>
    rw [lower_of_digits digits]
    intro hin
    have hletter : ∀ word∈keywords,word.toList.all Char.isDigit=false := by decide
    have hall : token.toList.all Char.isDigit=true := List.all_eq_true.mpr digits
    rw [hletter token hin] at hall
    cases hall
  | name letters known =>
    intro hin
    have hunknown : ∀ word∈keywords,catalogEntry word=none := by decide +kernel
    rw [hunknown _ hin] at known
    cases known

/-- A port is read as it is written, unless its numeral is too long for the interpreter. -/
theorem parsePortToken_of_portText (hword : IsWord token) (h : PortText token port) :
    parsePortToken token=.ok (some port) ∨
      4300<token.length ∧ parsePortToken token=.error "ValueError" := by
  have hstrip : strip token=token := strip_word hword.2
  cases h with
  | number digits value =>
    have hdigit : isdigit token=true := by
      rw [isdigit,Bool.and_eq_true,List.all_eq_true]
      refine ⟨by simpa using hword.toList_ne,fun c hc => ?_⟩
      rw [PyUnicode.isDigit_ascii c (toNat_of_isDigit (digits c hc)),digits c hc]
    simp only [parsePortToken,hstrip,hdigit,if_true,intOf,value]
    split
    · next hlong => exact Or.inr ⟨hlong,rfl⟩
    · exact Or.inl rfl
  | name letters known =>
    left
    simp only [parsePortToken,hstrip,letters,Bool.false_eq_true,if_false,lookupBuiltinService,known]
    rfl

end Tokens

section Ranges

variable {constraint : PortConstraint} {port start stop : ℕ}

omit [PyUnicode]

/-- The ports a constraint admits. -/
def PortConstraint.admitted (constraint : PortConstraint) : Set ℕ :=
  {port | port≤ maxPort ∧ constraint.Fits port}

/-- The range that stands for a constraint, where a single one does. -/
def PortConstraint.closedRange : PortConstraint → Option (ℕ × ℕ)
  | .compare .eq port => if port≤ maxPort then some (port,port) else none
  | .compare .neq _ => none
  | .compare .lt port => if minPort<port ∧ port≤ maxPort then some (minPort,port-1) else none
  | .compare .gt port => if port< maxPort then some (port+1,maxPort) else none
  | .range start stop => if start≤ stop ∧ stop≤ maxPort then some (start,stop) else none

/-- The range that stands for a constraint holds the ports it admits and no others. -/
theorem PortConstraint.closedRange_exact (h : constraint.closedRange=some (start,stop)) :
    start≤ stop ∧ stop≤ maxPort ∧ Set.Icc start stop=constraint.admitted := by
  have hmax : maxPort=65535 := rfl
  have hmin : minPort=0 := rfl
  have hicc : ∀ port,port∈constraint.admitted ↔ port≤ maxPort ∧ constraint.Fits port :=
    fun port => Iff.rfl
  cases constraint with
  | compare operator bound =>
    cases operator with
    | neq => cases h
    | eq =>
      obtain ⟨hle,heq⟩ := Option.ite_none_right_eq_some.mp h
      obtain ⟨rfl,rfl⟩ := Prod.mk.inj (Option.some.inj heq)
      refine ⟨le_refl _,hle,Set.ext fun port => ?_⟩
      rw [hicc,Set.mem_Icc,PortConstraint.Fits]
      omega
    | lt =>
      obtain ⟨hle,heq⟩ := Option.ite_none_right_eq_some.mp h
      obtain ⟨rfl,rfl⟩ := Prod.mk.inj (Option.some.inj heq)
      refine ⟨by omega,by omega,Set.ext fun port => ?_⟩
      rw [hicc,Set.mem_Icc,PortConstraint.Fits]
      omega
    | gt =>
      obtain ⟨hle,heq⟩ := Option.ite_none_right_eq_some.mp h
      obtain ⟨rfl,rfl⟩ := Prod.mk.inj (Option.some.inj heq)
      refine ⟨by omega,le_refl _,Set.ext fun port => ?_⟩
      rw [hicc,Set.mem_Icc,PortConstraint.Fits]
      omega
  | range first last =>
    obtain ⟨hle,heq⟩ := Option.ite_none_right_eq_some.mp h
    obtain ⟨rfl,rfl⟩ := Prod.mk.inj (Option.some.inj heq)
    refine ⟨hle.1,hle.2,Set.ext fun port => ?_⟩
    rw [hicc,Set.mem_Icc,PortConstraint.Fits]
    omega

/-- A constraint on ports of sixteen bits that admits a port is a range, unless
it leaves a port out. -/
theorem PortConstraint.exists_closedRange (hports : ∀ port∈constraint.ports,port≤ maxPort)
    (hneq : ∀ bound,constraint≠.compare .neq bound) (hsome : constraint.admitted.Nonempty) :
    ∃ range,constraint.closedRange=some range := by
  obtain ⟨port,hle,hfits⟩ := hsome
  cases constraint with
  | compare operator bound =>
    have hbound : bound≤ maxPort := hports bound List.mem_cons_self
    cases operator with
    | neq => exact absurd rfl (hneq bound)
    | eq => exact ⟨_,if_pos hbound⟩
    | lt => exact ⟨_,if_pos ⟨Nat.lt_of_le_of_lt (Nat.zero_le port) hfits,hbound⟩⟩
    | gt => exact ⟨_,if_pos (lt_of_lt_of_le hfits hle)⟩
  | range first last =>
    have hlast : last≤ maxPort := hports last (List.mem_cons_of_mem _ List.mem_cons_self)
    exact ⟨_,if_pos ⟨hfits.1.trans hfits.2,hlast⟩⟩

end Ranges

section Fields

variable {payload : Dict String String} {words : List String} {constraint : PortConstraint}

omit [PyUnicode] in
/-- A destination field of a payload, with the direction before its name or without. -/
def destinationField (payload : Dict String String) (name : String) : Option String :=
  (payload.get? ("destination_"++name)).or (payload.get? name)

/-- The fields of the words of a constraint. -/
def wordsField : List String → String → Option String
  | [word,token],name =>
    if name="op" then some (PyUnicode.lower word) else if name="port" then some token else none
  | [word,first,last],name =>
    if name="op" then some (PyUnicode.lower word)
    else if name="port_from" then some first
    else if name="port_to" then some last else none
  | _,_ => none

/-- The destination fields of a payload are those of the words. -/
structure FieldsOf (payload : Dict String String) (words : List String) : Prop where
  /-- No source operator is stored. -/
  noSource : payload.get? "source_op"=none
  /-- No text was left over. -/
  noRaw : payload.get? "raw"=none
  /-- The plain port fields are those of the clause. -/
  fields : ∀ name∈["op","port","port_from","port_to"],
    destinationField payload name=wordsField words name

/-- What is resolved from the fields of a comparison. -/
theorem resolve_of_compare {operator : PortOperator} {word token : String}
    (hfields : FieldsOf payload [word,token]) (hword : PyUnicode.lower word=operator.word) :
    resolveL4DestinationRange payload=(parsePortToken token).map fun found =>
      found.bind fun port => (PortConstraint.compare operator port).closedRange := by
  have hop : (payload.get? "destination_op").or (payload.get? "op")=some operator.word := by
    rw [←hword]
    exact hfields.fields "op" (by decide)
  have hport : (payload.get? "destination_port").or (payload.get? "port")=some token :=
    hfields.fields "port" (by decide)
  have hrange : operator.word≠"range" := by cases operator <;> decide
  simp only [resolveL4DestinationRange,hfields.noSource,hfields.noRaw,hop,hport,
    Option.isSome_none,Bool.false_eq_true,or_self,if_false,hrange,Option.getD_some]
  cases parsePortToken token with
  | error error => rfl
  | ok found =>
    cases found with
    | none => rfl
    | some port =>
      change (if maxPort<port then _ else _)=Except.ok (PortConstraint.closedRange _)
      by_cases hlarge : maxPort<port
      · rw [if_pos hlarge]
        cases operator with
        | neq => rfl
        | eq | lt | gt =>
          rw [PortConstraint.closedRange,if_neg (by omega)]
          rfl
      · rw [if_neg hlarge]
        cases operator with
        | eq => rw [PortConstraint.closedRange,if_pos (Nat.le_of_not_lt hlarge)]; rfl
        | neq => rfl
        | lt =>
          simp only [PortConstraint.closedRange,PortOperator.word,Nat.le_of_not_lt hlarge,and_true,
            String.reduceEq,if_false,true_and,false_and]
          split <;> rfl
        | gt =>
          simp only [PortConstraint.closedRange,PortOperator.word,String.reduceEq,if_false,
            true_and,false_and]
          split <;> rfl

/-- What is resolved from the fields of a range. -/
theorem resolve_of_range {word first last : String} (hfields : FieldsOf payload [word,first,last])
    (hword : PyUnicode.lower word="range") :
    resolveL4DestinationRange payload=(parsePortToken first).bind fun start =>
      (parsePortToken last).map fun stop => start.bind fun start => stop.bind fun stop =>
        (PortConstraint.range start stop).closedRange := by
  have hop : (payload.get? "destination_op").or (payload.get? "op")=some "range" := by
    rw [←hword]
    exact hfields.fields "op" (by decide)
  have hfirst : (payload.get? "destination_port_from").or (payload.get? "port_from")=some first :=
    hfields.fields "port_from" (by decide)
  have hlast : (payload.get? "destination_port_to").or (payload.get? "port_to")=some last :=
    hfields.fields "port_to" (by decide)
  simp only [resolveL4DestinationRange,hfields.noSource,hfields.noRaw,hop,hfirst,hlast,
    Option.isSome_none,Bool.false_eq_true,or_self,if_false,if_true,Option.getD_some]
  cases parsePortToken first with
  | error error => rfl
  | ok start =>
    cases parsePortToken last with
    | error error => rfl
    | ok stop =>
      cases start with
      | none => rfl
      | some start =>
        cases stop with
        | none => rfl
        | some stop =>
          change (if start≤ stop ∧ stop≤ maxPort then Except.ok (some (start,stop))
            else Except.ok none)=Except.ok (PortConstraint.range start stop).closedRange
          rw [PortConstraint.closedRange]
          split <;> rfl

/-- A constraint resolves to the range that stands for it, unless a numeral is
too long for the interpreter. -/
theorem resolve_of_fields (hfields : FieldsOf payload words)
    (hwords : ConstraintWords words constraint) (hisWord : ∀ word∈words,IsWord word) :
    resolveL4DestinationRange payload=.ok constraint.closedRange ∨
      (∃ word∈words,4300<word.length) ∧ resolveL4DestinationRange payload=.error "ValueError" := by
  cases hwords with
  | @compare word token operator port hword hport =>
    rw [resolve_of_compare hfields hword]
    rcases parsePortToken_of_portText (hisWord token (by simp)) hport with hparse|⟨hlong,hparse⟩
    · rw [hparse]
      exact Or.inl rfl
    · rw [hparse]
      exact Or.inr ⟨⟨token,by simp,hlong⟩,rfl⟩
  | @range word first last start stop hword hstart hstop =>
    rw [resolve_of_range hfields hword]
    rcases parsePortToken_of_portText (hisWord first (by simp)) hstart with hparse|⟨hlong,hparse⟩
    · rw [hparse]
      rcases parsePortToken_of_portText (hisWord last (by simp)) hstop with hparse|⟨hlong,hparse⟩
      · rw [hparse]
        exact Or.inl rfl
      · rw [hparse]
        exact Or.inr ⟨⟨last,by simp,hlong⟩,rfl⟩
    · rw [hparse]
      exact Or.inr ⟨⟨first,by simp,hlong⟩,rfl⟩

/-- Without a constraint every port is resolved. -/
theorem resolve_of_nil (hsource : payload.get? "source_op"=none) (hraw : payload.get? "raw"=none)
    (hfields : ∀ name∈["op","port","port_from","port_to"],destinationField payload name=none) :
    resolveL4DestinationRange payload=.ok (some (minPort,maxPort)) := by
  have hop : (payload.get? "destination_op").or (payload.get? "op")=none :=
    hfields "op" (by decide)
  have hport : (payload.get? "destination_port").or (payload.get? "port")=none :=
    hfields "port" (by decide)
  have hfirst : (payload.get? "destination_port_from").or (payload.get? "port_from")=none :=
    hfields "port_from" (by decide)
  have hlast : (payload.get? "destination_port_to").or (payload.get? "port_to")=none :=
    hfields "port_to" (by decide)
  simp only [resolveL4DestinationRange,hsource,hraw,hop,hport,hfirst,hlast,Option.isSome_none,
    Bool.false_eq_true,or_self,if_false]

end Fields

section Lines

variable {parts words rest : List String} {word proto raw direction : String}
  {constraint : PortConstraint}

omit [PyUnicode] in
theorem get?_updateFields (fields new : Dict String String) (key : String) :
    (updateFields fields new).get? key=(new.get? key).or (fields.get? key) :=
  Dict.get?_foldl_insert key new.nodup fields

/-- The fields of the words behind a direction. -/
def directionFields (direction : String) : List String → Dict String String
  | [word,token] =>
    Dict.ofList [(direction++"_op",PyUnicode.lower word),(direction++"_port",token)]
  | [word,first,last] => Dict.ofList [(direction++"_op",PyUnicode.lower word),
      (direction++"_port_from",first),(direction++"_port_to",last)]
  | _ => Dict.empty

/-- No word of a constraint reads like a direction. -/
theorem ConstraintWords.not_direction (h : ConstraintWords words constraint)
    (hin : word∈words) : PyUnicode.lower word≠"source" ∧ PyUnicode.lower word≠"destination" := by
  have hport : ∀ {token : String} {port : ℕ},PortText token port →
      PyUnicode.lower token≠"source" ∧ PyUnicode.lower token≠"destination" := by
    intro token port ht
    refine ⟨fun he => ht.not_keyword ?_,fun he => ht.not_keyword ?_⟩
    · rw [he]
      decide
    · rw [he]
      decide
  cases h with
  | @compare operatorWord token operator port hword ht =>
    rcases List.mem_cons.mp hin with rfl|hin
    · rw [hword]
      cases operator <;> decide
    · rw [List.mem_singleton.mp hin]
      exact hport ht
  | @range operatorWord first last start stop hword hstart hstop =>
    rcases List.mem_cons.mp hin with rfl|hin
    · rw [hword]
      decide
    · rcases List.mem_cons.mp hin with rfl|hin
      · exact hport hstart
      · rw [List.mem_singleton.mp hin]
        exact hport hstop

/-- A direction that is not named has no fields. -/
theorem parseDirectionalPortClause_absent (h : ∀ word∈parts,PyUnicode.lower word≠direction) :
    parseDirectionalPortClause parts direction=Dict.empty := by
  have hnone : indexOf? direction (parts.map PyUnicode.lower)=none := by
    rw [indexOf?,List.findIdx?_eq_none_iff]
    intro lowered hin
    obtain ⟨word,hword,rfl⟩ := List.mem_map.mp hin
    simpa using h word hword
  simp only [parseDirectionalPortClause,hnone]

/-- The fields of the direction that is named are those of the words behind it. -/
theorem parseDirectionalPortClause_present {earlier : List String}
    (hearlier : ∀ word∈earlier,PyUnicode.lower word≠direction)
    (hword : PyUnicode.lower word=direction) (hwords : ConstraintWords words constraint) :
    parseDirectionalPortClause (earlier++word::(words++rest)) direction=
      directionFields direction words := by
  have hindex : indexOf? direction ((earlier++word::(words++rest)).map PyUnicode.lower)=
      some earlier.length := by
    have hnone : (earlier.map PyUnicode.lower).findIdx? (fun token => decide (token=direction))=
        none := by
      rw [List.findIdx?_eq_none_iff]
      intro lowered hin
      obtain ⟨other,hother,rfl⟩ := List.mem_map.mp hin
      simpa using hearlier other hother
    rw [indexOf?,List.map_append,List.map_cons,List.findIdx?_append,hnone,List.findIdx?_cons,
      hword]
    simp
  have hdropLower : ((earlier++word::(words++rest)).map PyUnicode.lower).drop (earlier.length+1)=
      (words++rest).map PyUnicode.lower := by
    rw [←List.map_drop,←List.drop_drop,List.drop_left]
    rfl
  have hdrop : (earlier++word::(words++rest)).drop (earlier.length+2)=(words++rest).drop 1 := by
    rw [←List.drop_drop,List.drop_left]
    rfl
  simp only [parseDirectionalPortClause,hindex,hdropLower,hdrop]
  cases hwords with
  | @compare operatorWord token operator port hoperator ht =>
    have hin : operator.word∈portOperators := by cases operator <;> decide
    have hrange : operator.word≠"range" := by cases operator <;> decide
    simp only [List.cons_append,List.map_cons,hoperator,hin,not_true_eq_false,if_false,hrange,
      List.drop_succ_cons,List.drop_zero,directionFields]
  | @range operatorWord first last start stop hoperator hstart hstop =>
    have hin : "range"∈portOperators := by decide
    simp only [List.cons_append,List.map_cons,hoperator,hin,not_true_eq_false,if_false,if_true,
      List.drop_succ_cons,List.drop_zero,directionFields]

/-- The fields of a plain clause are those of its words. -/
theorem fieldsOf_plain (hproto : proto="tcp" ∨ proto="udp") (hword : PyUnicode.lower word=proto)
    (hwords : ConstraintWords words constraint) :
    FieldsOf (parsePlainPortClause proto raw (word::words)) words := by
  have hnot : proto∉portOperators := by
    rcases hproto with rfl|rfl <;> decide
  cases hwords with
  | @compare operatorWord token operator port hoperator ht =>
    have hin : operator.word∈portOperators := by cases operator <;> decide
    have hrange : operator.word≠"range" := by cases operator <;> decide
    have hpayload : parsePlainPortClause proto raw [word,operatorWord,token]=
        (Dict.ofList [("protocol",proto),("op",operator.word)]).insert "port" token := by
      simp [parsePlainPortClause,hword,hoperator,hnot,hin,hrange,List.findIdx?_cons]
    rw [hpayload]
    refine ⟨by simp [Dict.ofList,Dict.get?_insert],by simp [Dict.ofList,Dict.get?_insert],?_⟩
    intro name hname
    simp only [List.mem_cons,List.not_mem_nil,or_false] at hname
    rcases hname with rfl|rfl|rfl|rfl <;>
      simp [destinationField,wordsField,hoperator,Dict.ofList,Dict.get?_insert]
  | @range operatorWord first last start stop hoperator hstart hstop =>
    have hin : "range"∈portOperators := by decide
    have hpayload : parsePlainPortClause proto raw [word,operatorWord,first,last]=
        ((Dict.ofList [("protocol",proto),("op","range")]).insert "port_from" first).insert
          "port_to" last := by
      simp [parsePlainPortClause,hword,hoperator,hnot,hin,List.findIdx?_cons]
    rw [hpayload]
    refine ⟨by simp [Dict.ofList,Dict.get?_insert],by simp [Dict.ofList,Dict.get?_insert],?_⟩
    intro name hname
    simp only [List.mem_cons,List.not_mem_nil,or_false] at hname
    rcases hname with rfl|rfl|rfl|rfl <;>
      simp [destinationField,wordsField,hoperator,Dict.ofList,Dict.get?_insert]

end Lines

section Clauses

variable {raw : String} {clause : L4Clause} {words : List String} {constraint : PortConstraint}

/-- The fields of a destination are those of its words. -/
theorem fieldsOf_destination (proto : String) (hwords : ConstraintWords words constraint) :
    FieldsOf (updateFields (Dict.ofList [("protocol",proto)])
      (directionFields "destination" words)) words := by
  cases hwords with
  | @compare word token operator port hword ht =>
    refine ⟨by simp [get?_updateFields,directionFields,Dict.ofList,Dict.get?_insert],
      by simp [get?_updateFields,directionFields,Dict.ofList,Dict.get?_insert],?_⟩
    intro name hname
    simp only [List.mem_cons,List.not_mem_nil,or_false] at hname
    rcases hname with rfl|rfl|rfl|rfl <;>
      simp [destinationField,get?_updateFields,directionFields,wordsField,Dict.ofList,
        Dict.get?_insert]
  | @range word first last start stop hword hstart hstop =>
    refine ⟨by simp [get?_updateFields,directionFields,Dict.ofList,Dict.get?_insert],
      by simp [get?_updateFields,directionFields,Dict.ofList,Dict.get?_insert],?_⟩
    intro name hname
    simp only [List.mem_cons,List.not_mem_nil,or_false] at hname
    rcases hname with rfl|rfl|rfl|rfl <;>
      simp [destinationField,get?_updateFields,directionFields,wordsField,Dict.ofList,
        Dict.get?_insert]

/-- A source constraint shows, whatever is written over it. -/
theorem source_op_of_source (fields new : Dict String String)
    (hwords : ConstraintWords words constraint) :
    ((updateFields (updateFields fields (directionFields "source" words)) new).get?
      "source_op").isSome=true := by
  have hop : ((directionFields "source" words).get? "source_op").isSome=true := by
    cases hwords <;> simp [directionFields,Dict.ofList,Dict.get?_insert]
  rw [get?_updateFields,get?_updateFields,Option.isSome_or,Option.isSome_or,hop]
  simp

/-- What is resolved for a clause. -/
def L4Clause.resolved (clause : L4Clause) : Option (ℕ × ℕ) :=
  match clause.source,clause.destination with
  | some _,_ => none
  | none,none => some (minPort,maxPort)
  | none,some constraint => constraint.closedRange

/-- A protocol alone has no fields. -/
theorem resolve_of_protocol (proto : String) :
    resolveL4DestinationRange (Dict.ofList [("protocol",proto)])=.ok (some (minPort,maxPort)) := by
  refine resolve_of_nil (by simp [Dict.ofList,Dict.get?_insert])
    (by simp [Dict.ofList,Dict.get?_insert]) fun name hname => ?_
  simp only [List.mem_cons,List.not_mem_nil,or_false] at hname
  rcases hname with rfl|rfl|rfl|rfl <;> simp [destinationField,Dict.ofList,Dict.get?_insert]

/-- A source constraint leaves nothing to resolve. -/
theorem resolve_of_source_op {payload : Dict String String}
    (h : (payload.get? "source_op").isSome=true) :
    resolveL4DestinationRange payload=.ok none := by
  rw [resolveL4DestinationRange,if_pos (Or.inl h)]

/-- The outcomes of a clause: what its constraints say, or a numeral that is too
long for the interpreter. -/
def Resolves (words : List String) (payload : Dict String String) (resolved : Option (ℕ × ℕ)) :
    Prop :=
  resolveL4DestinationRange payload=.ok resolved ∨
    (∃ word∈words,4300<word.length) ∧ resolveL4DestinationRange payload=.error "ValueError"

/-- A plain clause is read without directions. -/
theorem parse_of_plain {proto : String}
    (hproto : PyUnicode.lower proto="tcp" ∨ PyUnicode.lower proto="udp")
    (hwords : ConstraintWords words constraint) (hsplit : splitWords raw=proto::words) :
    parseInlineServiceObject raw=
      some (parsePlainPortClause (PyUnicode.lower proto) raw (proto::words)) := by
  have hin : PyUnicode.lower proto∈["tcp","udp","tcp-udp"] := by
    rcases hproto with hproto|hproto <;> rw [hproto] <;> decide
  have hnone : ∀ word∈proto::words,
      PyUnicode.lower word≠"source" ∧ PyUnicode.lower word≠"destination" := by
    intro word hword
    rcases List.mem_cons.mp hword with rfl|hword
    · rcases hproto with hproto|hproto <;> rw [hproto] <;> decide
    · exact hwords.not_direction hword
  have hdirection : ¬("source"∈(proto::words).map PyUnicode.lower ∨
      "destination"∈(proto::words).map PyUnicode.lower) := by
    rintro (hd|hd)
    · obtain ⟨word,hword,he⟩ := List.mem_map.mp hd
      exact (hnone word hword).1 he
    · obtain ⟨word,hword,he⟩ := List.mem_map.mp hd
      exact (hnone word hword).2 he
  simp only [parseInlineServiceObject,hsplit,hin,if_true,if_neg hdirection]

/-- A plain clause resolves as its constraint says. -/
theorem resolves_of_plain {proto : String}
    (hproto : PyUnicode.lower proto="tcp" ∨ PyUnicode.lower proto="udp")
    (hwords : ConstraintWords words constraint) (hsplit : splitWords raw=proto::words) :
    ∃ payload,parseInlineServiceObject raw=some payload ∧
      Resolves (proto::words) payload constraint.closedRange := by
  refine ⟨_,parse_of_plain hproto hwords hsplit,?_⟩
  have hword : ∀ word∈words,IsWord word := fun word hw =>
    isWord_of_mem_splitWords (hsplit▸List.mem_cons_of_mem proto hw)
  rcases resolve_of_fields (fieldsOf_plain hproto rfl hwords) hwords hword with
    hok|⟨⟨word,hw,hlong⟩,herror⟩
  · exact Or.inl hok
  · exact Or.inr ⟨⟨word,List.mem_cons_of_mem proto hw,hlong⟩,herror⟩

/-- A clause with directions is read direction by direction. -/
theorem parse_of_direction {proto : String} {rest : List String}
    (hproto : PyUnicode.lower proto="tcp" ∨ PyUnicode.lower proto="udp")
    (hsplit : splitWords raw=proto::rest)
    (hdirection : ∃ word∈rest,PyUnicode.lower word="source" ∨ PyUnicode.lower word="destination") :
    parseInlineServiceObject raw=some (updateFields
      (updateFields (Dict.ofList [("protocol",PyUnicode.lower proto)])
        (parseDirectionalPortClause (proto::rest) "source"))
      (parseDirectionalPortClause (proto::rest) "destination")) := by
  have hin : PyUnicode.lower proto∈["tcp","udp","tcp-udp"] := by
    rcases hproto with hproto|hproto <;> rw [hproto] <;> decide
  have hsome : "source"∈(proto::rest).map PyUnicode.lower ∨
      "destination"∈(proto::rest).map PyUnicode.lower := by
    obtain ⟨word,hword,hlower⟩ := hdirection
    have hmem : word∈proto::rest := List.mem_cons_of_mem proto hword
    exact hlower.imp (fun he => List.mem_map.mpr ⟨word,hmem,he⟩)
      fun he => List.mem_map.mpr ⟨word,hmem,he⟩
  simp only [parseInlineServiceObject,hsplit,hin,if_true,if_pos hsome]

/-- A clause with directions resolves as its constraints say. -/
theorem resolves_of_directed {proto : String} {sourceWords destinationWords : List String}
    {source destination : Option PortConstraint}
    (hproto : PyUnicode.lower proto="tcp" ∨ PyUnicode.lower proto="udp")
    (hsource : DirectionWords "source" sourceWords source)
    (hdestination : DirectionWords "destination" destinationWords destination)
    (hsplit : splitWords raw=proto::(sourceWords++destinationWords)) :
    ∃ payload,parseInlineServiceObject raw=some payload ∧
      Resolves (proto::(sourceWords++destinationWords)) payload
        (L4Clause.mk source destination).resolved := by
  have hnot : PyUnicode.lower proto≠"source" ∧ PyUnicode.lower proto≠"destination" := by
    rcases hproto with hproto|hproto <;> rw [hproto] <;> decide
  have hfirst : ∀ {direction : String},PyUnicode.lower proto≠direction →
      ∀ word∈[proto],PyUnicode.lower word≠direction := by
    intro direction hne word hword
    rw [List.mem_singleton.mp hword]
    exact hne
  cases hsource with
  | @present word words constraint hword hwords =>
    refine ⟨_,parse_of_direction hproto hsplit ⟨word,by simp,Or.inl hword⟩,Or.inl ?_⟩
    have hparse : parseDirectionalPortClause (proto::(word::words++destinationWords)) "source"=
        directionFields "source" words :=
      parseDirectionalPortClause_present (hfirst hnot.1) hword hwords
    rw [hparse]
    exact resolve_of_source_op (source_op_of_source _ _ hwords)
  | absent =>
    cases hdestination with
    | absent =>
      have hplain : parsePlainPortClause (PyUnicode.lower proto) raw [proto]=
          Dict.ofList [("protocol",PyUnicode.lower proto)] := by
        have hoperator : PyUnicode.lower proto∉portOperators := by
          rcases hproto with hproto|hproto <;> rw [hproto] <;> decide
        simp [parsePlainPortClause,List.findIdx?_cons,hoperator]
      refine ⟨Dict.ofList [("protocol",PyUnicode.lower proto)],?_,
        Or.inl (resolve_of_protocol _)⟩
      have hin : PyUnicode.lower proto∈["tcp","udp","tcp-udp"] := by
        rcases hproto with hproto|hproto <;> rw [hproto] <;> decide
      have hnone : ¬("source"∈[proto].map PyUnicode.lower ∨
          "destination"∈[proto].map PyUnicode.lower) := by
        simp [hnot.1.symm,hnot.2.symm]
      rw [List.append_nil] at hsplit
      simp only [parseInlineServiceObject,hsplit,hin,if_true,if_neg hnone,hplain]
    | @present word words constraint hword hwords =>
      refine ⟨_,parse_of_direction hproto hsplit ⟨word,by simp,Or.inr hword⟩,?_⟩
      have hsourceNone : parseDirectionalPortClause (proto::([]++word::words)) "source"=
          Dict.empty := by
        refine parseDirectionalPortClause_absent fun other hother => ?_
        rw [List.nil_append] at hother
        rcases List.mem_cons.mp hother with rfl|hother
        · exact hnot.1
        · rcases List.mem_cons.mp hother with rfl|hother
          · rw [hword]
            decide
          · exact (hwords.not_direction hother).1
      have hparse : parseDirectionalPortClause (proto::([]++word::words)) "destination"=
          directionFields "destination" words := by
        have hpresent : parseDirectionalPortClause ([proto]++word::(words++[])) "destination"=
            directionFields "destination" words :=
          parseDirectionalPortClause_present (hfirst hnot.2) hword hwords
        rwa [List.append_nil] at hpresent
      rw [hsourceNone,hparse]
      have hisWord : ∀ other∈words,IsWord other := by
        intro other hother
        have hin : other∈splitWords raw := by
          rw [hsplit]
          simp [hother]
        exact isWord_of_mem_splitWords hin
      rcases resolve_of_fields (fieldsOf_destination _ hwords) hwords hisWord with
        hok|⟨⟨long,hlong,hlength⟩,herror⟩
      · exact Or.inl hok
      · exact Or.inr ⟨⟨long,by simp [hlong],hlength⟩,herror⟩

/-- A clause is read, and resolves as its constraints say. -/
theorem resolves_of_clauseWords (h : ClauseWords (splitWords raw) clause) :
    ∃ payload,parseInlineServiceObject raw=some payload ∧
      Resolves (splitWords raw) payload clause.resolved := by
  generalize hsplit : splitWords raw=words at h
  cases h with
  | plain hproto hwords => exact resolves_of_plain hproto hwords hsplit
  | directed hproto hsource hdestination =>
    exact resolves_of_directed hproto hsource hdestination hsplit

/-- A port clause is read exactly. What is resolved for it is the range of its
destination ports, and only where it has no source constraint; and every clause
whose destination ports are a range is resolved, where its numerals are not too
long for the interpreter. -/
theorem portClause_exact (h : ClauseWords (splitWords raw) clause) :
    ∃ payload,parseInlineServiceObject raw=some payload ∧
      (∀ start stop,resolveL4DestinationRange payload=.ok (some (start,stop)) →
        clause.source=none ∧ start≤ stop ∧ stop≤ maxPort ∧
          Set.Icc start stop=clause.destinationPorts) ∧
      (clause.source=none →
        (∀ constraint,clause.destination=some constraint →
          (∀ port∈constraint.ports,port≤ maxPort) ∧ ∀ port,constraint≠.compare .neq port) →
        clause.destinationPorts.Nonempty → (∀ word∈splitWords raw,word.length≤4300) →
        ∃ range,resolveL4DestinationRange payload=.ok (some range)) := by
  obtain ⟨payload,hpayload,hresolves⟩ := resolves_of_clauseWords h
  obtain ⟨source,destination⟩ := clause
  refine ⟨payload,hpayload,fun start stop hok => ?_,fun hsource hports hsome hshort => ?_⟩
  · rcases hresolves with hresolved|⟨-,herror⟩
    · have hrange : (L4Clause.mk source destination).resolved=some (start,stop) := by
        rw [hresolved] at hok
        exact Except.ok.inj hok
      cases source with
      | some source => cases hrange
      | none =>
        cases destination with
        | none =>
          obtain ⟨rfl,rfl⟩ := Prod.mk.inj (Option.some.inj hrange)
          refine ⟨rfl,by decide,le_refl _,Set.ext fun port => ?_⟩
          rw [L4Clause.destinationPorts,Set.mem_Icc,Set.mem_ofPred_eq]
          exact ⟨fun hp => ⟨hp.2,fun _ hc => by cases hc⟩,fun hp => ⟨Nat.zero_le port,hp.1⟩⟩
        | some constraint =>
          obtain ⟨hle,hmax,hicc⟩ := PortConstraint.closedRange_exact hrange
          refine ⟨rfl,hle,hmax,hicc.trans (Set.ext fun port => ?_)⟩
          rw [L4Clause.destinationPorts,PortConstraint.admitted,Set.mem_ofPred_eq,Set.mem_ofPred_eq]
          exact and_congr_right fun _ =>
            ⟨fun hfits other ho => Option.some.inj ho▸hfits,fun hfits => hfits constraint rfl⟩
    · rw [herror] at hok
      cases hok
  · have hok : resolveL4DestinationRange payload=.ok (L4Clause.mk source destination).resolved := by
      rcases hresolves with hresolved|⟨⟨word,hword,hlong⟩,-⟩
      · exact hresolved
      · exact absurd (hshort word hword) (Nat.not_le_of_lt hlong)
    obtain rfl : source=none := hsource
    cases destination with
    | none => exact ⟨_,hok⟩
    | some constraint =>
      obtain ⟨hbounds,hneq⟩ := hports constraint rfl
      have hadmitted : constraint.admitted.Nonempty := by
        obtain ⟨port,hle,hfits⟩ := hsome
        exact ⟨port,hle,hfits constraint rfl⟩
      obtain ⟨range,hrange⟩ := PortConstraint.exists_closedRange hbounds hneq hadmitted
      exact ⟨range,by rw [hok]; exact congrArg Except.ok hrange⟩

end Clauses

end Reading

section Samples

/-- Destination ports from FTP to 1024. -/
def ftpClause : String := joinWords ["tcp","destination","range","ftp","1024"]

/-- The words of the sample. -/
theorem ftpClause_words : @ClauseWords asciiUnicode (@splitWords asciiUnicode ftpClause)
    ⟨none,some (.range 21 1024)⟩ := by
  have hwords : ∀ word∈["tcp","destination","range","ftp","1024"],@IsWord asciiUnicode word := by
    decide +kernel
  have hknown : catalogEntry (asciiUnicode.lower "ftp")=some ⟨"tcp",21,21⟩ := by decide +kernel
  have hftp : @PortText asciiUnicode "ftp" 21 :=
    @PortText.name asciiUnicode _ _ (by decide +kernel) hknown
  have hnumber : @PortText asciiUnicode "1024" 1024 :=
    @PortText.number asciiUnicode _ _ (List.all_eq_true.mp (by decide)) (by decide +kernel)
  rw [ftpClause,@splitWords_joinWords asciiUnicode _ hwords]
  have hproto : asciiUnicode.lower "tcp"="tcp" := by decide +kernel
  have hdirection : asciiUnicode.lower "destination"="destination" := by decide +kernel
  have hrange : asciiUnicode.lower "range"="range" := by decide +kernel
  let _ := asciiUnicode
  exact .directed (Or.inl hproto) .absent (.present hdirection (.range hrange hftp hnumber))

/-- The sample is resolved to its ports. -/
theorem portClause_exact_ftp : ∃ payload start stop,
    @parseInlineServiceObject asciiUnicode ftpClause=some payload ∧
      @resolveL4DestinationRange asciiUnicode payload=.ok (some (start,stop)) ∧
      Set.Icc start stop=Set.Icc 21 1024 := by
  obtain ⟨payload,hpayload,hexact,hresolved⟩ :=
    @portClause_exact asciiUnicode ftpClause _ ftpClause_words
  have hports : (L4Clause.mk none (some (.range 21 1024))).destinationPorts=Set.Icc 21 1024 := by
    refine Set.ext fun port => ⟨fun hp => hp.2 _ rfl,fun hp => ⟨?_,fun constraint hc => ?_⟩⟩
    · exact hp.2.trans (by decide)
    · cases hc
      exact hp
  have hshort : ∀ word∈@splitWords asciiUnicode ftpClause,word.length≤4300 := by decide +kernel
  have hbounds : ∀ port∈(PortConstraint.range 21 1024).ports,port≤ maxPort := by decide
  obtain ⟨⟨start,stop⟩,hrange⟩ := hresolved rfl
    (fun constraint hc => Option.some.inj hc▸⟨hbounds,fun port hne => by cases hne⟩)
    (hports▸⟨21,by simp⟩) hshort
  exact ⟨payload,start,stop,hpayload,hrange,(hexact start stop hrange).2.2.2.trans hports⟩

/-- Zero with one digit more than the interpreter reads. -/
@[irreducible] def longZero : String := String.ofList (List.replicate 4301 '0')

/-- The digits of the numeral. -/
theorem toList_longZero : longZero.toList=List.replicate 4301 '0' := by
  unfold longZero
  exact String.toList_ofList

theorem eq_zero_of_mem_longZero {c : Char} (h : c∈longZero.toList) : c= '0' := by
  rw [toList_longZero] at h
  exact List.eq_of_mem_replicate h

/-- The numeral is a word. -/
theorem isWord_longZero : @IsWord asciiUnicode longZero := by
  refine ⟨fun he => ?_,fun c hc => ?_⟩
  · have hlength := congrArg List.length toList_longZero
    rw [he,List.length_replicate] at hlength
    cases hlength
  · rw [eq_zero_of_mem_longZero hc]
    decide

/-- A numeral of zeros denotes zero. -/
theorem longZero_portText : @PortText asciiUnicode longZero 0 := by
  have hvalue : ∀ n,(List.replicate n '0').foldl
      (fun acc c => do return (← acc)*10+(← asciiUnicode.decimal c)) (some 0)=some 0 := by
    intro n
    induction n with
    | zero => rfl
    | succ n ih => exact ih
  refine @PortText.number asciiUnicode _ _ (fun c hc => ?_) ?_
  · rw [eq_zero_of_mem_longZero hc]
    decide
  · have hne : List.replicate 4301 '0'≠[] := by
      rw [Ne,List.replicate_eq_nil_iff]
      decide
    unfold parseNat
    rw [toList_longZero,if_neg hne]
    exact hvalue 4301

/-- The numeral is not read. -/
theorem parsePortToken_longZero : @parsePortToken asciiUnicode longZero=.error "ValueError" := by
  have hlength : 4300<longZero.length := by
    rw [←String.length_toList,toList_longZero,List.length_replicate]
    decide
  have hdigit : @isdigit asciiUnicode longZero=true := by
    unfold isdigit
    rw [Bool.and_eq_true,List.all_eq_true,Bool.not_eq_true',List.isEmpty_eq_false_iff]
    refine ⟨@IsWord.toList_ne asciiUnicode _ isWord_longZero,fun c hc => ?_⟩
    rw [eq_zero_of_mem_longZero hc]
    decide
  unfold parsePortToken
  rw [@strip_word asciiUnicode _ isWord_longZero.2]
  dsimp only
  rw [if_pos hdigit]
  unfold intOf
  rw [if_pos hlength]
  rfl

/-- A clause for port zero is refused when its numeral is too long for the
interpreter, though the port is one of sixteen bits. -/
theorem longZero_refused : ∃ raw clause,
    @ClauseWords asciiUnicode (@splitWords asciiUnicode raw) clause ∧ clause.source=none ∧
    clause.destination=some (.compare .eq 0) ∧ clause.destinationPorts={0} ∧
    ∀ payload range,@parseInlineServiceObject asciiUnicode raw=some payload →
      @resolveL4DestinationRange asciiUnicode payload≠.ok (some range) := by
  have hkeywords : ∀ word∈["tcp","eq"],@IsWord asciiUnicode word := by
    decide +kernel
  have hwords : ∀ word∈["tcp","eq",longZero],@IsWord asciiUnicode word := by
    intro word hin
    rcases List.mem_append.mp (show word∈["tcp","eq"]++[longZero] from hin) with hin|hin
    · exact hkeywords word hin
    · rw [List.mem_singleton.mp hin]
      exact isWord_longZero
  have hproto : asciiUnicode.lower "tcp"="tcp" := by decide +kernel
  have heq : asciiUnicode.lower "eq"="eq" := by decide +kernel
  have hdestination : (L4Clause.mk none (some (.compare .eq 0))).destinationPorts={0} := by
    refine Set.ext fun port => ⟨fun hp => hp.2 _ rfl,fun hp => ?_⟩
    obtain rfl : port=0 := hp
    exact ⟨by decide,fun constraint hc => Option.some.inj hc▸rfl⟩
  let _ := asciiUnicode
  have hsplit : splitWords (joinWords ["tcp","eq",longZero])=["tcp","eq",longZero] :=
    splitWords_joinWords hwords
  have hconstraint : ConstraintWords ["eq",longZero] (.compare .eq 0) :=
    .compare heq longZero_portText
  refine ⟨joinWords ["tcp","eq",longZero],⟨none,some (.compare .eq 0)⟩,?_,rfl,rfl,
    hdestination,fun payload range hpayload => ?_⟩
  · rw [hsplit]
    exact .plain (Or.inl hproto) hconstraint
  · rw [parse_of_plain (Or.inl hproto) hconstraint hsplit] at hpayload
    have hfields : FieldsOf payload ["eq",longZero] := by
      rw [←Option.some.inj hpayload]
      exact fieldsOf_plain (Or.inl hproto) rfl hconstraint
    have hoperator : PyUnicode.lower "eq"=PortOperator.eq.word := heq
    rw [resolve_of_compare hfields hoperator,parsePortToken_longZero]
    intro he
    cases he

end Samples

end NspMigrator.CiscoPortClauses
