import Mathlib
import NspMigrator.NearestParent
import NspMigrator.PyText

/-!
# The indentation tree of a configuration

Lines that are neither blank nor comments become nodes in one pass. The node
above a line is found on a stack of indentations, and the span of a node takes
in everything below it.
-/

namespace NspMigrator.CiscoConfigTree

open PyText NearestParent

/-- One line of the configuration. -/
structure ConfigLine where
  /-- The number of the line, from one on. -/
  lineNo : ℕ
  /-- Its text. -/
  text : String
  /-- The width of its leading white space. -/
  indent : ℕ
  deriving DecidableEq

/-- A line without outer white space. -/
def ConfigLine.stripped [PyUnicode] (line : ConfigLine) : String := strip line.text

/-- A kept line with its place in the tree. -/
structure ConfigNode where
  /-- Its place among the nodes. -/
  idx : ℕ
  /-- The line. -/
  line : ConfigLine
  /-- The node it stands under. -/
  parentIdx : Option ℕ
  /-- The nodes under it. -/
  children : List ℕ
  deriving DecidableEq

/-- The source range and text of a stanza. -/
structure ConfigSourceSpan where
  /-- The first line. -/
  lineStart : ℕ
  /-- The last line. -/
  lineEnd : ℕ
  /-- The lines between, as they stand. -/
  fragment : String
  deriving DecidableEq

/-- The nodes in the order of their lines. -/
structure ConfigTree where
  /-- All nodes. -/
  nodes : List ConfigNode

/-- Characters that end a line. -/
def isLineBreak (c : Char) : Bool :=
  decide (c.toNat∈[0x0A,0x0B,0x0C,0x0D,0x1C,0x1D,0x1E,0x85,0x2028,0x2029])

/-- The lines of a text, the first one with what was read of it in reverse. -/
def splitLinesFrom (line : List Char) : List Char → List String
  | [] => if line=[] then [] else [String.ofList line.reverse]
  | '\r':: '\n'::rest => String.ofList line.reverse::splitLinesFrom [] rest
  | c::rest =>
    if isLineBreak c=true then String.ofList line.reverse::splitLinesFrom [] rest
    else splitLinesFrom (c::line) rest

/-- The lines of a text. -/
def splitlines (rawText : String) : List String := splitLinesFrom [] rawText.toList

/-- Leading white space, a tab counting four. -/
def indentOf : List Char → ℕ
  | ' '::rest => indentOf rest+1
  | '\t'::rest => indentOf rest+4
  | _ => 0

/-- The nodes made so far, and the stack of indentations from its top. -/
structure BuilderState where
  /-- The nodes made so far. -/
  nodes : List ConfigNode := []
  /-- Indentations and places of the nodes a next line may stand under. -/
  stack : List (ℕ × ℕ) := []

/-- A node becomes the last child of its parent. -/
def appendChild (parentIdx : Option ℕ) (idx : ℕ) (nodes : List ConfigNode) : List ConfigNode :=
  match parentIdx with
  | none => nodes
  | some parent => nodes.modify parent fun node => { node with children := node.children++[idx] }

/-- A kept line becomes a node. -/
def addLine (σ : BuilderState) (line : ConfigLine) : BuilderState :=
  let stack := popNotSmaller line.indent σ.stack
  let parentIdx := stack.head?.map (·.2)
  let idx := σ.nodes.length
  ⟨appendChild parentIdx idx (σ.nodes++[⟨idx,line,parentIdx,[]⟩]),(line.indent,idx)::stack⟩

/-- A node with everything below it, each child before the next one. -/
def appendSubtree (nodes : List ConfigNode) : ℕ → ℕ → Option (List ConfigNode)
  | 0,_ => none
  | fuel+1,currentIdx => do
    let current ← nodes[currentIdx]?
    let below ← current.children.mapM (appendSubtree nodes fuel)
    return current::below.flatten

/-- The span of a node that exists. -/
def sourceSpan (tree : ConfigTree) (nodeIdx : ℕ) : Option ConfigSourceSpan := do
  let stanza ← appendSubtree tree.nodes tree.nodes.length nodeIdx
  let stanzaNodes := stanza.insertionSort fun node other => node.line.lineNo≤ other.line.lineNo
  let first ← stanzaNodes.head?
  let last ← stanzaNodes.getLast?
  return ⟨first.line.lineNo,last.line.lineNo,"\n".intercalate (stanzaNodes.map (·.line.text))⟩

section Reading

variable [PyUnicode]

/-- The line of a text, unless it is blank or a comment. -/
def configLine (lineNo : ℕ) (text : String) : Option ConfigLine :=
  let stripped := strip text
  if stripped="" ∨ startsWith "!" stripped=true then none
  else some ⟨lineNo,text,indentOf text.toList⟩

/-- The tree of a text. -/
def build (rawText : String) : ConfigTree :=
  let σ := ((splitlines rawText).zipIdx 1).foldl (fun σ (text,lineNo) =>
    match configLine lineNo text with
    | none => σ
    | some line => addLine σ line) {}
  ⟨σ.nodes⟩

/-- The lines that are kept. -/
def keptLines (rawText : String) : List ConfigLine :=
  ((splitlines rawText).zipIdx 1).filterMap fun (text,lineNo) => configLine lineNo text

/-- Only kept lines change the tree. -/
theorem build_eq_foldl (rawText : String) :
    (build rawText).nodes=((keptLines rawText).foldl addLine {}).nodes := by
  rw [keptLines,List.foldl_filterMap]
  refine congrArg BuilderState.nodes (congrArg (fun step => List.foldl step _ _) ?_)
  funext σ entry
  obtain ⟨text,lineNo⟩ := entry
  dsimp only
  cases configLine lineNo text <;> rfl

/-- Kept lines are numbered in their order. -/
theorem pairwise_keptLines (rawText : String) :
    (keptLines rawText).Pairwise fun line other => line.lineNo<other.lineNo := by
  have hnumbers : ((splitlines rawText).zipIdx 1).Pairwise fun p q => p.2<q.2 := by
    have hrange := List.pairwise_lt_range' (s:=1) (n:=(splitlines rawText).length)
    rw [←List.zipIdx_map_snd 1 (splitlines rawText),List.pairwise_map] at hrange
    exact hrange
  refine hnumbers.filterMap _ fun p q hpq line hline other hother => ?_
  have hlineNo : ∀ {p : String × ℕ} {line : ConfigLine},configLine p.2 p.1=some line →
      line.lineNo=p.2 := by
    intro p line h
    unfold configLine at h
    dsimp only at h
    split at h
    · cases h
    · cases h
      rfl
  rw [hlineNo hline,hlineNo hother]
  exact hpq

end Reading

/-- The parent of a node that exists. -/
def parentOf (nodes : List ConfigNode) (idx : ℕ) : Option ℕ := nodes[idx]?.bind (·.parentIdx)

/-- The indentation of a line by its place. -/
def indentAt (lines : List ConfigLine) (i : ℕ) : ℕ := (lines[i]?.map (·.indent)).getD 0

/-- The nodes whose parent is a node, in their order. -/
def childrenOf (nodes : List ConfigNode) (idx : ℕ) : List ℕ :=
  (List.range nodes.length).filter fun child => decide (parentOf nodes child=some idx)

/-- The tree of some lines, with its stack. -/
structure Built (lines : List ConfigLine) (σ : BuilderState) : Prop where
  /-- The nodes hold the lines read so far. -/
  lines_eq : σ.nodes.map (·.line)=lines
  /-- Every node knows its place. -/
  idx_eq : ∀ (i : ℕ) (node : ConfigNode),σ.nodes[i]?=some node → node.idx=i
  /-- It stands under the nearest line before it that is indented less. -/
  parent : ∀ (i : ℕ) (node : ConfigNode),σ.nodes[i]?=some node →
    Nearest (indentAt lines) i node.line.indent node.parentIdx
  /-- It lists the nodes that stand under it. -/
  children : ∀ (i : ℕ) (node : ConfigNode),σ.nodes[i]?=some node →
    node.children=childrenOf σ.nodes i
  /-- The stack holds the lines that can still be nearest. -/
  stack : Visible (indentAt lines) lines.length σ.stack

section Building

variable {lines : List ConfigLine} {σ : BuilderState} {nodes : List ConfigNode}
  {parentIdx : Option ℕ} {idx i : ℕ}

theorem getElem?_appendChild : (appendChild parentIdx idx nodes)[i]?=nodes[i]?.map fun node =>
    if parentIdx=some i then { node with children := node.children++[idx] } else node := by
  cases parentIdx with
  | none =>
    cases h : nodes[i]? with
    | none => rw [appendChild,h]; rfl
    | some node => rw [appendChild,h]; rfl
  | some parent =>
    rw [appendChild,List.getElem?_modify]
    cases nodes[i]? with
    | none => rfl
    | some node =>
      by_cases hi : parent=i
      · simp [hi]
      · simp [hi]

theorem length_appendChild : (appendChild parentIdx idx nodes).length=nodes.length := by
  cases parentIdx with
  | none => rfl
  | some parent => exact List.length_modify _ _ _

/-- Children change no line. -/
theorem map_line_appendChild :
    (appendChild parentIdx idx nodes).map (·.line)=nodes.map (·.line) := by
  refine List.ext_getElem? fun j => ?_
  rw [List.getElem?_map,getElem?_appendChild,List.getElem?_map,Option.map_map]
  refine congrArg (Option.map · _) (funext fun node => ?_)
  rw [Function.comp_apply]
  split
  · rfl
  · rfl

theorem Built.length (h : Built lines σ) : σ.nodes.length=lines.length := by
  rw [←h.lines_eq,List.length_map]

/-- Indentations of the lines before stay as they are. -/
theorem indentAt_append {line : ConfigLine} (hi : i<lines.length) :
    indentAt (lines++[line]) i=indentAt lines i := by
  rw [indentAt,indentAt,List.getElem?_append_left hi]

theorem indentAt_self {line : ConfigLine} : indentAt (lines++[line]) lines.length=line.indent := by
  rw [indentAt,List.getElem?_concat_length]
  rfl

/-- A node of the tree with one more line: the new one, or an old one with one more child. -/
theorem getElem?_addLine {line : ConfigLine} {node : ConfigNode}
    (hlen : σ.nodes.length=lines.length) (h : (addLine σ line).nodes[i]?=some node) :
    i<lines.length ∧ (∃ old,σ.nodes[i]?=some old ∧ node.idx=old.idx ∧ node.line=old.line ∧
      node.parentIdx=old.parentIdx ∧ node.children=old.children++
        if ((popNotSmaller line.indent σ.stack).head?.map (·.2))=some i then [lines.length]
        else []) ∨
    i=lines.length ∧ node.idx=i ∧ node.line=line ∧
      node.parentIdx=(popNotSmaller line.indent σ.stack).head?.map (·.2) ∧
      node.children=if ((popNotSmaller line.indent σ.stack).head?.map (·.2))=some i
        then [lines.length] else [] := by
  rw [addLine,getElem?_appendChild] at h
  obtain ⟨old,hold,rfl⟩ := Option.map_eq_some_iff.mp h
  rw [List.getElem?_append] at hold
  split at hold
  next hi =>
    refine Or.inl ⟨hlen▸hi,old,hold,?_⟩
    split
    · exact ⟨rfl,rfl,rfl,by rw [hlen]⟩
    · exact ⟨rfl,rfl,rfl,(List.append_nil _).symm⟩
  next hi =>
    have hzero : i-σ.nodes.length=0 := by
      by_contra hne
      rw [List.getElem?_eq_none (by simp; omega)] at hold
      cases hold
    rw [hzero] at hold
    cases hold
    have hi' : i=lines.length := by omega
    refine Or.inr ⟨hi',?_⟩
    split
    · exact ⟨by rw [hlen,hi'],rfl,rfl,by rw [hlen]; rfl⟩
    · exact ⟨by rw [hlen,hi'],rfl,rfl,rfl⟩

/-- Parents stay, and the new line has its own. -/
theorem parentOf_addLine {line : ConfigLine} (hlen : σ.nodes.length=lines.length) {j : ℕ}
    (hj : j≤lines.length) : parentOf (addLine σ line).nodes j=if j=lines.length
      then (popNotSmaller line.indent σ.stack).head?.map (·.2) else parentOf σ.nodes j := by
  have hsome : j<(addLine σ line).nodes.length := by
    rw [addLine,length_appendChild,List.length_append,hlen]
    exact Nat.lt_succ_of_le hj
  have hnode := List.getElem?_eq_getElem hsome
  rw [parentOf,hnode,Option.bind_some]
  rcases getElem?_addLine hlen hnode with ⟨hlt,old,hold,-,-,hparent,-⟩|⟨heq,-,-,hparent,-⟩
  · rw [if_neg hlt.ne,hparent,parentOf,hold,Option.bind_some]
  · rw [if_pos heq,hparent]

/-- A node gets the new line as its last child when it is the parent of the line. -/
theorem childrenOf_addLine {line : ConfigLine} (hlen : σ.nodes.length=lines.length) :
    childrenOf (addLine σ line).nodes i=childrenOf σ.nodes i++
      if ((popNotSmaller line.indent σ.stack).head?.map (·.2))=some i then [lines.length]
      else [] := by
  have hlen' : (addLine σ line).nodes.length=lines.length+1 := by
    rw [addLine,length_appendChild,List.length_append,hlen]
    rfl
  rw [childrenOf,hlen',List.range_succ,List.filter_append,childrenOf,hlen]
  congr 1
  · refine List.filter_congr fun j hj => ?_
    have hlt := List.mem_range.mp hj
    rw [parentOf_addLine hlen hlt.le,if_neg hlt.ne]
  · rw [List.filter_singleton,parentOf_addLine hlen le_rfl,if_pos rfl]
    by_cases h : ((popNotSmaller line.indent σ.stack).head?.map (·.2))=some i
    · simp [h]
    · simp [h]

/-- One more line. -/
theorem Built.addLine (h : Built lines σ) (line : ConfigLine) :
    Built (lines++[line]) (addLine σ line) := by
  have hlen := h.length
  have hkeys : ∀ j<lines.length,indentAt lines j=indentAt (lines++[line]) j :=
    fun j hj => (indentAt_append hj).symm
  have hstack := h.stack.congr hkeys
  have hnew := hstack.nearest line.indent
  have hparents : ∀ {j : ℕ},j<lines.length → ∀ {x : ℕ} {parent : Option ℕ},
      Nearest (indentAt lines) j x parent → Nearest (indentAt (lines++[line])) j x parent :=
    fun hj _ _ hnear => hnear.congr fun k hk => hkeys k (hk.trans hj)
  constructor
  case lines_eq =>
    rw [CiscoConfigTree.addLine,map_line_appendChild,List.map_append,h.lines_eq]
    rfl
  case idx_eq =>
    intro j node hnode
    rcases getElem?_addLine hlen hnode with ⟨-,old,hold,hidx,-⟩|⟨-,hidx,-⟩
    · exact hidx.trans (h.idx_eq j old hold)
    · exact hidx
  case parent =>
    intro j node hnode
    rcases getElem?_addLine hlen hnode with ⟨hj,old,hold,-,hline,hparent,-⟩|⟨hj,-,hline,hparent,-⟩
    · rw [hline,hparent]
      exact hparents hj (h.parent j old hold)
    · rw [hline,hparent,hj]
      exact hnew
  case children =>
    intro j node hnode
    rw [childrenOf_addLine hlen]
    rcases getElem?_addLine hlen hnode with ⟨-,old,hold,-,-,-,hchildren⟩|⟨hj,-,-,-,hchildren⟩
    · rw [hchildren,h.children j old hold]
    · have hnone : childrenOf σ.nodes j=[] := by
        refine List.filter_eq_nil_iff.mpr fun child hchild hparent => ?_
        obtain ⟨other,hother,hup⟩ := Option.bind_eq_some_iff.mp (of_decide_eq_true hparent)
        have hnear := h.parent child other hother
        rw [hup] at hnear
        have hlt := List.mem_range.mp hchild
        have hbelow := hnear.1
        omega
      rw [hchildren,hnone]
      rfl
  case stack =>
    have hpush := hstack.push
    rw [indentAt_self] at hpush
    rw [List.length_append]
    rw [CiscoConfigTree.addLine,hlen]
    exact hpush

/-- The tree of any lines. -/
theorem built_foldl (lines : List ConfigLine) :
    Built lines (lines.foldl CiscoConfigTree.addLine {}) := by
  induction lines using List.reverseRecOn with
  | nil =>
    exact ⟨rfl,fun i node h => (by cases h),fun i node h => (by cases h),
      fun i node h => (by cases h),visible_nil⟩
  | append_singleton earlier line ih =>
    rw [List.foldl_append]
    exact ih.addLine line

end Building

section Spans

variable {lines : List ConfigLine} {σ : BuilderState}

/-- A parent comes before its child, and both are there. -/
theorem Built.up_lt (h : Built lines σ) {child above : ℕ}
    (hup : Up (parentOf σ.nodes) child above) :
    above<child ∧ child<σ.nodes.length := by
  obtain ⟨node,hnode,hparent⟩ := Option.bind_eq_some_iff.mp hup
  have hnear := h.parent child node hnode
  rw [hparent] at hnear
  exact ⟨hnear.1,(List.getElem?_eq_some_iff.mp hnode).1⟩

/-- The children of a node are the places it is the parent of. -/
theorem Built.mem_children (h : Built lines σ) {i child : ℕ} {node : ConfigNode}
    (hnode : σ.nodes[i]?=some node) : child∈node.children ↔ Up (parentOf σ.nodes) child i := by
  rw [h.children i node hnode,childrenOf,List.mem_filter,List.mem_range,decide_eq_true_eq]
  exact ⟨fun hc => hc.2,fun hup => ⟨(h.up_lt hup).2,hup⟩⟩

/-- Children that are all found are found in order. -/
theorem exists_mapM {β : Type} {f : ℕ → Option β} {P : ℕ → β → Prop} {xs : List ℕ}
    (h : ∀ x∈xs,∃ b,f x=some b ∧ P x b) :
    ∃ bs,xs.mapM f=some bs ∧ List.Forall₂ P xs bs ∧ ∀ b∈bs,∃ x,P x b := by
  induction xs with
  | nil => exact ⟨[],rfl,List.Forall₂.nil,fun b hb => absurd hb List.not_mem_nil⟩
  | cons x xs ih =>
    obtain ⟨b,hb,hp⟩ := h x List.mem_cons_self
    obtain ⟨bs,hbs,hall,hmem⟩ := ih fun y hy => h y (List.mem_cons_of_mem x hy)
    refine ⟨b::bs,by rw [List.mapM_cons,hb,hbs]; rfl,List.Forall₂.cons hp hall,fun c hc => ?_⟩
    rcases List.mem_cons.mp hc with rfl|hc
    · exact ⟨x,hp⟩
    · exact hmem c hc

/-- Enough fuel collects a node and everything below it, each once. -/
theorem Built.appendSubtree (h : Built lines σ) {fuel i : ℕ} (hi : i<σ.nodes.length)
    (hfuel : σ.nodes.length-i≤fuel) :
    ∃ stanza,appendSubtree σ.nodes fuel i=some stanza ∧ (∀ node∈stanza,node∈σ.nodes) ∧
      (stanza.map (·.idx)).Nodup ∧
      ∀ j,j∈stanza.map (·.idx) ↔ Below (parentOf σ.nodes) j i := by
  induction fuel generalizing i with
  | zero => omega
  | succ fuel ih =>
    obtain ⟨node,hnode⟩ : ∃ node,σ.nodes[i]?=some node := ⟨_,List.getElem?_eq_getElem hi⟩
    have hlt : ∀ child above,Up (parentOf σ.nodes) child above → above<child :=
      fun child above hup => (h.up_lt hup).1
    have hchild : ∀ child∈node.children,∃ stanza,
        CiscoConfigTree.appendSubtree σ.nodes fuel child=some stanza ∧
        (∀ node∈stanza,node∈σ.nodes) ∧
          (stanza.map (·.idx)).Nodup ∧
          ∀ j,j∈stanza.map (·.idx) ↔ Below (parentOf σ.nodes) j child := by
      intro child hc
      have hup := h.up_lt ((h.mem_children hnode).mp hc)
      exact ih hup.2 (by omega)
    obtain ⟨stanzas,hmap,hall,hfrom⟩ := exists_mapM hchild
    have hnodup : node.children.Nodup := by
      rw [h.children i node hnode]
      exact List.nodup_range.filter _
    obtain ⟨hflat,hmem⟩ := flatten_below hlt (List.forall₂_map_right_iff.mpr
      (hall.imp fun child stanza hs => hs.2)) (fun child hc => (h.mem_children hnode).mp hc) hnodup
    rw [←List.map_flatten] at hflat hmem
    refine ⟨node::stanzas.flatten,?_,fun other ho => ?_,?_,fun j => ?_⟩
    · rw [CiscoConfigTree.appendSubtree,hnode,Option.bind_eq_bind,Option.bind_some,hmap]
      rfl
    · rcases List.mem_cons.mp ho with rfl|ho
      · exact List.mem_of_getElem? hnode
      · obtain ⟨stanza,hs,hin⟩ := List.mem_flatten.mp ho
        obtain ⟨child,hfound⟩ := hfrom stanza hs
        exact hfound.1 other hin
    · rw [List.map_cons,h.idx_eq i node hnode]
      refine List.nodup_cons.mpr ⟨fun hin => ?_,hflat⟩
      obtain ⟨child,hc,hbelow⟩ := (hmem i).mp hin
      have hle := Below.le hlt hbelow
      have hup := hlt child i ((h.mem_children hnode).mp hc)
      omega
    · rw [List.map_cons,List.mem_cons,h.idx_eq i node hnode,hmem,below_iff]
      refine or_congr Iff.rfl (exists_congr fun child => ?_)
      rw [h.mem_children hnode]

/-- A node is found at its own place. -/
theorem Built.getElem?_idx (h : Built lines σ) {node : ConfigNode} (hnode : node∈σ.nodes) :
    σ.nodes[node.idx]?=some node := by
  obtain ⟨i,hi⟩ := List.mem_iff_getElem?.mp hnode
  rw [h.idx_eq i node hi,hi]

/-- Line numbers tell nodes apart, and put them in order. -/
theorem Built.pairwise_lineNo (h : Built lines σ)
    (hlines : lines.Pairwise fun line other => line.lineNo<other.lineNo) :
    σ.nodes.Pairwise fun node other => node.line.lineNo<other.line.lineNo := by
  rw [←h.lines_eq,List.pairwise_map] at hlines
  exact hlines

/-- Places tell nodes apart, and put them in order. -/
theorem Built.pairwise_idx (h : Built lines σ) :
    σ.nodes.Pairwise fun node other => node.idx<other.idx := by
  refine List.pairwise_iff_getElem.mpr fun i j hi hj hij => ?_
  rw [h.idx_eq i _ (List.getElem?_eq_getElem hi),h.idx_eq j _ (List.getElem?_eq_getElem hj)]
  exact hij

/-- Sorted by line numbers, a node and what is below it stand as in the text. -/
theorem Built.insertionSort_stanza (h : Built lines σ)
    (hlines : lines.Pairwise fun line other => line.lineNo<other.lineNo) {stanza : List ConfigNode}
    (hin : ∀ node∈stanza,node∈σ.nodes) (hnodup : (stanza.map (·.idx)).Nodup) :
    stanza.insertionSort (fun node other => node.line.lineNo≤ other.line.lineNo)=
      σ.nodes.filter fun node => decide (node.idx∈stanza.map (·.idx)) := by
  have horder := h.pairwise_lineNo hlines
  have hnodes : (σ.nodes.map (·.line.lineNo)).Nodup := by
    rw [List.Nodup,List.pairwise_map]
    exact horder.imp fun hlt => hlt.ne
  have hmem : ∀ node,node∈stanza ↔ node∈σ.nodes ∧ node.idx∈stanza.map (·.idx) := by
    intro node
    constructor
    · exact fun hs => ⟨hin node hs,List.mem_map_of_mem hs⟩
    · rintro ⟨hnode,hidx⟩
      obtain ⟨other,hother,heq⟩ := List.mem_map.mp hidx
      have hsame := h.getElem?_idx (hin other hother)
      rw [heq,h.getElem?_idx hnode] at hsame
      rwa [Option.some.inj hsame]
  have hperm : List.Perm stanza
      (σ.nodes.filter fun node => decide (node.idx∈stanza.map (·.idx))) := by
    refine (List.perm_ext_iff_of_nodup (List.Nodup.of_map _ hnodup)
      ((List.Nodup.of_map _ hnodes).filter _)).mpr fun node => ?_
    rw [hmem,List.mem_filter,decide_eq_true_eq]
  have hsorted : (σ.nodes.filter fun node => decide (node.idx∈stanza.map (·.idx))).Pairwise
      fun node other => node.line.lineNo≤ other.line.lineNo :=
    (horder.imp fun hlt => hlt.le).filter _
  refine List.Perm.eq_of_pairwise (fun node other hnode hother hle hge => ?_)
    (List.pairwise_insertionSort _ _) hsorted ((List.perm_insertionSort _ _).trans hperm)
  have hfirst := hin node ((List.mem_insertionSort _).mp hnode)
  exact List.inj_on_of_nodup_map hnodes hfirst (List.mem_of_mem_filter hother) (le_antisymm hle hge)

end Spans

/-- What a span takes in: the node and everything below it, in the order of the text. -/
structure Covers (nodes : List ConfigNode) (node : ConfigNode) (span : ConfigSourceSpan) :
    Prop where
  /-- It takes in the node and everything below it, in order, and nothing else. -/
  lines : ∃ stanza : List ConfigNode,stanza.Sublist nodes ∧
    (∀ other∈nodes,other∈stanza ↔ Below (parentOf nodes) other.idx node.idx) ∧
    stanza.head?=some node ∧ stanza.getLast?.map (·.line.lineNo)=some span.lineEnd ∧
    span.fragment="\n".intercalate (stanza.map (·.line.text))
  /-- It begins at the line of the node. -/
  lineStart_eq : span.lineStart=node.line.lineNo

/-- A node has its place, the nearest shallower line before it as its parent, the nodes
it is the parent of as children in order, and a span of everything below it. -/
structure Placed (tree : ConfigTree) (lines : List ConfigLine) (i : ℕ) (node : ConfigNode) :
    Prop where
  /-- The node knows its place. -/
  idx_eq : node.idx=i
  /-- It stands under the nearest line before it that is indented less. -/
  parent : Nearest (indentAt lines) i node.line.indent node.parentIdx
  /-- It lists the nodes that stand under it. -/
  children : node.children=childrenOf tree.nodes i
  /-- Its span takes in everything below it. -/
  span : ∃ span,sourceSpan tree i=some span ∧ Covers tree.nodes node span

/-- The span of a node. -/
theorem Built.span {lines : List ConfigLine} {σ : BuilderState} (h : Built lines σ)
    (hlines : lines.Pairwise fun line other => line.lineNo<other.lineNo) {i : ℕ} {node : ConfigNode}
    (hnode : σ.nodes[i]?=some node) :
    ∃ span,sourceSpan ⟨σ.nodes⟩ i=some span ∧ Covers σ.nodes node span := by
  have hidx := h.idx_eq i node hnode
  obtain ⟨stanza,hstanza,hin,hnodup,hmem⟩ := h.appendSubtree
    (List.getElem?_eq_some_iff.mp hnode).1 (Nat.sub_le _ _)
  have hsorted := h.insertionSort_stanza hlines hin hnodup
  let sorted := σ.nodes.filter fun other => decide (other.idx∈stanza.map (·.idx))
  have hbelow : ∀ other∈σ.nodes,other∈sorted ↔ Below (parentOf σ.nodes) other.idx node.idx := by
    intro other hother
    rw [List.mem_filter,decide_eq_true_eq,hmem,hidx]
    exact and_iff_right hother
  have hself : node∈sorted :=
    (hbelow node (List.mem_of_getElem? hnode)).mpr Relation.ReflTransGen.refl
  have hsub : sorted.Sublist σ.nodes := List.filter_sublist
  -- what is below the node comes after it
  have hhead : sorted.head?=some node := by
    cases hlist : sorted with
    | nil =>
      rw [hlist] at hself
      exact absurd hself List.not_mem_nil
    | cons first rest =>
      have hfirst : first∈sorted := by
        rw [hlist]
        exact List.mem_cons_self
      have hle : node.idx≤ first.idx := Below.le (fun child above hup => (h.up_lt hup).1)
        ((hbelow first (hsub.subset hfirst)).mp hfirst)
      have horder := h.pairwise_idx.sublist hsub
      rw [hlist] at hself horder
      rcases List.mem_cons.mp hself with rfl|hrest
      · rfl
      · have hlt := (List.pairwise_cons.mp horder).1 node hrest
        omega
  obtain ⟨last,hlast⟩ : ∃ last,sorted.getLast?=some last := by
    cases hnone : sorted.getLast? with
    | none =>
      rw [List.getLast?_eq_none_iff.mp hnone] at hself
      exact absurd hself List.not_mem_nil
    | some last => exact ⟨last,rfl⟩
  refine ⟨⟨node.line.lineNo,last.line.lineNo,"\n".intercalate (sorted.map (·.line.text))⟩,?_,
    ⟨⟨sorted,hsub,hbelow,hhead,by rw [hlast]; rfl,rfl⟩,rfl⟩⟩
  rw [sourceSpan,hstanza,Option.bind_eq_bind,Option.bind_some]
  dsimp only
  rw [hsorted,Option.bind_eq_bind,hhead,Option.bind_some,hlast]
  rfl

section Trees

variable [PyUnicode]

/-- The tree of a text is the tree of its indentations: its nodes are the kept lines in order,
and each has its place. -/
theorem build_is_indentation_tree (rawText : String) :
    (build rawText).nodes.map (·.line)=keptLines rawText ∧
      ∀ (i : ℕ) (node : ConfigNode),(build rawText).nodes[i]?=some node →
        Placed (build rawText) (keptLines rawText) i node := by
  have hbuilt := built_foldl (keptLines rawText)
  have htree : build rawText=⟨((keptLines rawText).foldl addLine {}).nodes⟩ :=
    congrArg ConfigTree.mk (build_eq_foldl rawText)
  rw [htree]
  exact ⟨hbuilt.lines_eq,fun i node hnode => ⟨hbuilt.idx_eq i node hnode,hbuilt.parent i node hnode,
    hbuilt.children i node hnode,hbuilt.span (pairwise_keptLines rawText) hnode⟩⟩

end Trees

/-- A group with a comment in it, a line outside it, and one further in than its first line. -/
def groupText : String :=
  "object-group network G\n  network-object host 10.0.0.1\n! next\n group-object H\naccess-list A"

/-- The second member of the sample stands under the group, as the first one does. -/
theorem build_is_indentation_tree_group :
    ∃ node,(@build asciiUnicode groupText).nodes[2]?=some node ∧ node.parentIdx=some 0 ∧
      Placed (@build asciiUnicode groupText) (@keptLines asciiUnicode groupText) 2 node := by
  have hchecked : ((@build asciiUnicode groupText).nodes[2]?.any fun node =>
      decide (node.parentIdx=some 0))=true := by
    decide +kernel
  obtain ⟨node,hnode,hparent⟩ := (Option.any_eq_true _ _).mp hchecked
  exact ⟨node,hnode,of_decide_eq_true hparent,
    (@build_is_indentation_tree asciiUnicode groupText).2 2 node hnode⟩

end NspMigrator.CiscoConfigTree
