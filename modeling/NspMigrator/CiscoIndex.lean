import Mathlib
import NspMigrator.PyDict
import NspMigrator.CiscoConfigTree
import NspMigrator.CiscoAddressLines

/-!
# Headers of a configuration

One pass over the nodes of a tree notes where the objects and groups begin.
A network object keeps all its headers, because its stanza may be reopened,
of any other header the last one counts. The lines of a stanza are those that
stand directly under its header.
-/

namespace NspMigrator.CiscoIndex

open PyText PyWords PyDict CiscoConfigTree CiscoAddressLines

/-- The headers of objects and groups. -/
inductive HeaderKind where
  | objectNetwork
  | objectGroupNetwork
  | objectService
  | objectGroupService
  | objectGroupIcmpType
  | objectGroupProtocol
  deriving DecidableEq

/-- The nodes at which objects and groups begin, by name. -/
structure AsaIndex where
  /-- The headers of every network object. -/
  objectNetwork : Dict String (List ℕ) := Dict.empty
  /-- The last header of every network group. -/
  objectGroupNetwork : Dict String ℕ := Dict.empty
  /-- That of every service object. -/
  objectService : Dict String ℕ := Dict.empty
  /-- That of every service group. -/
  objectGroupService : Dict String ℕ := Dict.empty
  /-- That of every icmp-type group. -/
  objectGroupIcmpType : Dict String ℕ := Dict.empty
  /-- That of every protocol group. -/
  objectGroupProtocol : Dict String ℕ := Dict.empty

/-- A header is noted under its name. -/
def AsaIndex.note (index : AsaIndex) (name : String) (idx : ℕ) : HeaderKind → AsaIndex
  | .objectNetwork => { index with objectNetwork := index.objectNetwork.append name idx }
  | .objectGroupNetwork =>
    { index with objectGroupNetwork := index.objectGroupNetwork.insert name idx }
  | .objectService => { index with objectService := index.objectService.insert name idx }
  | .objectGroupService =>
    { index with objectGroupService := index.objectGroupService.insert name idx }
  | .objectGroupIcmpType =>
    { index with objectGroupIcmpType := index.objectGroupIcmpType.insert name idx }
  | .objectGroupProtocol =>
    { index with objectGroupProtocol := index.objectGroupProtocol.insert name idx }

/-- The headers that count for a name, the last of them last. -/
def AsaIndex.headers (index : AsaIndex) (name : String) : HeaderKind → List ℕ
  | .objectNetwork => (index.objectNetwork.get? name).getD []
  | .objectGroupNetwork => (index.objectGroupNetwork.get? name).toList
  | .objectService => (index.objectService.get? name).toList
  | .objectGroupService => (index.objectGroupService.get? name).toList
  | .objectGroupIcmpType => (index.objectGroupIcmpType.get? name).toList
  | .objectGroupProtocol => (index.objectGroupProtocol.get? name).toList

/-- Headers of one name so far, after one more. Only network objects keep the others. -/
def HeaderKind.keep (kind : HeaderKind) (found : List ℕ) (idx : ℕ) : List ℕ :=
  match kind with
  | .objectNetwork => found++[idx]
  | _ => [idx]

/-- One more header counts for its own name and kind only. -/
theorem headers_note (index : AsaIndex) (name other : String) (idx : ℕ) (kind kind' : HeaderKind) :
    (index.note name idx kind).headers other kind'=
      if kind'=kind ∧ other=name then kind.keep (index.headers name kind) idx
      else index.headers other kind' := by
  cases kind <;> cases kind' <;>
    simp only [AsaIndex.note,AsaIndex.headers,HeaderKind.keep,Dict.append,Dict.get?_insert,
      reduceCtorEq,true_and,false_and,if_false] <;>
    by_cases hname : other=name <;> simp [hname]

section Reading

variable [PyUnicode]

/-- What a line heads, with the name it gives. -/
def headerOf (stripped : String) : Option (HeaderKind × String) :=
  let low := PyUnicode.lower stripped
  if startsWith "object network " low=true then some (.objectNetwork,splitRest 2 stripped)
  else if startsWith "object-group network " low=true then
    (splitWords stripped)[2]?.map fun name => (.objectGroupNetwork,name)
  else if startsWith "object service " low=true then some (.objectService,splitRest 2 stripped)
  else if startsWith "object-group service " low=true then
    (splitWords stripped)[2]?.map fun name => (.objectGroupService,name)
  else if startsWith "object-group icmp-type " low=true then
    some (.objectGroupIcmpType,splitRest 2 stripped)
  else if startsWith "object-group protocol " low=true then
    some (.objectGroupProtocol,splitRest 2 stripped)
  else none

/-- A node is noted if it is a header. -/
def indexNode (index : AsaIndex) (node : ConfigNode) : AsaIndex :=
  match headerOf node.line.stripped with
  | some (kind,name) => index.note name node.idx kind
  | none => index

/-- The index of a tree. -/
def fromTree (tree : ConfigTree) : AsaIndex := tree.nodes.foldl indexNode {}

/-- The nodes that are headers of a kind and a name. -/
def headerNodes (nodes : List ConfigNode) (kind : HeaderKind) (name : String) : List ConfigNode :=
  nodes.filter fun node => decide (headerOf node.line.stripped=some (kind,name))

/-- All headers of a network object count, and the last one of anything else. -/
def HeaderKind.counting (kind : HeaderKind) (nodes : List ConfigNode) : List ℕ :=
  match kind with
  | .objectNetwork => nodes.map (·.idx)
  | _ => (nodes.getLast?.map (·.idx)).toList

omit [PyUnicode] in
/-- The last header of a group counts. -/
theorem counting_of_ne {kind : HeaderKind} (hkind : kind≠.objectNetwork) (nodes : List ConfigNode) :
    kind.counting nodes=(nodes.getLast?.map (·.idx)).toList := by
  cases kind with
  | objectNetwork => exact absurd rfl hkind
  | _ => rfl

/-- A node counts for the kind and the name it heads. -/
theorem headers_indexNode (index : AsaIndex) (node : ConfigNode) (kind : HeaderKind)
    (name : String) : (indexNode index node).headers name kind=
      if headerOf node.line.stripped=some (kind,name) then
        kind.keep (index.headers name kind) node.idx
      else index.headers name kind := by
  unfold indexNode
  cases headerOf node.line.stripped with
  | none => rfl
  | some header =>
    obtain ⟨kind',name'⟩ := header
    rw [headers_note]
    by_cases hsame : kind=kind' ∧ name=name'
    · obtain ⟨rfl,rfl⟩ := hsame
      rw [if_pos ⟨rfl,rfl⟩,if_pos rfl]
    · rw [if_neg hsame,if_neg]
      rintro heq
      obtain ⟨rfl,rfl⟩ := Prod.mk.inj (Option.some.inj heq)
      exact hsame ⟨rfl,rfl⟩

/-- The index notes exactly the headers that count. -/
theorem headers_fromTree (tree : ConfigTree) (kind : HeaderKind) (name : String) :
    (fromTree tree).headers name kind=kind.counting (headerNodes tree.nodes kind name) := by
  rw [fromTree]
  induction tree.nodes using List.reverseRecOn with
  | nil => cases kind <;> rfl
  | append_singleton nodes node ih =>
    rw [List.foldl_append,List.foldl_cons,List.foldl_nil,headers_indexNode,ih,headerNodes,
      headerNodes,List.filter_append]
    by_cases hheader : headerOf node.line.stripped=some (kind,name)
    · rw [if_pos hheader]
      cases kind <;> simp [hheader,HeaderKind.keep,HeaderKind.counting]
    · simp [hheader]

/-- The stanza of a node. -/
def stanzaAt (tree : ConfigTree) (nodeIdx : ℕ) : Option Stanza := do
  let node ← tree.nodes[nodeIdx]?
  let children ← node.children.mapM fun child => tree.nodes[child]?
  let span ← sourceSpan tree nodeIdx
  return ⟨node.line.stripped,children.map (·.line.stripped),span.lineStart,span.lineEnd,
    span.fragment⟩

/-- The lines that stand directly under a header. -/
def bodyLines (nodes : List ConfigNode) (header : ConfigNode) : List String :=
  (nodes.filter fun node => decide (node.parentIdx=some header.idx)).map (·.line.stripped)

/-- The stanza of a header has its lines. -/
def StanzaOf (nodes : List ConfigNode) (header : ConfigNode) (stanza : Stanza) : Prop :=
  stanza.header=header.line.stripped ∧ stanza.children=bodyLines nodes header

omit [PyUnicode] in
/-- Lookups that all succeed find the list of what they find. -/
theorem mapM_of_forall₂ {β : Type} {f : ℕ → Option β} {xs : List ℕ} {bs : List β}
    (h : List.Forall₂ (fun x b => f x=some b) xs bs) : xs.mapM f=some bs := by
  induction h with
  | nil => rfl
  | cons hb _ ih =>
    rw [List.mapM_cons,hb,ih]
    rfl

omit [PyUnicode] in
/-- The places that are under a node hold the nodes that stand under it. -/
theorem forall₂_childrenOf (nodes : List ConfigNode) (idx : ℕ) :
    List.Forall₂ (fun place node => nodes[place]?=some node) (childrenOf nodes idx)
      (nodes.filter fun node => decide (node.parentIdx=some idx)) := by
  induction nodes using List.reverseRecOn with
  | nil => exact .nil
  | append_singleton nodes node ih =>
    have hbefore : (List.range nodes.length).filter (fun place =>
        decide (parentOf (nodes++[node]) place=some idx))=childrenOf nodes idx := by
      refine List.filter_congr fun place hplace => ?_
      rw [parentOf,parentOf,List.getElem?_append_left (List.mem_range.mp hplace)]
    have hlast : parentOf (nodes++[node]) nodes.length=node.parentIdx := by
      rw [parentOf,List.getElem?_concat_length]
      rfl
    rw [childrenOf,List.length_append,List.length_singleton,List.range_succ,List.filter_append,
      hbefore,List.filter_append]
    refine List.rel_append (ih.imp fun place found hfound => ?_) ?_
    · rw [List.getElem?_append_left (List.getElem?_eq_some_iff.mp hfound).1,hfound]
    · rw [List.filter_singleton,List.filter_singleton,hlast]
      by_cases hchild : node.parentIdx=some idx
      · rw [decide_eq_true hchild]
        exact .cons List.getElem?_concat_length .nil
      · rw [decide_eq_false hchild]
        exact .nil

/-- A node of a built tree has a stanza. -/
theorem exists_stanza (rawText : String) {node : ConfigNode} (hnode : node∈(build rawText).nodes) :
    ∃ stanza,stanzaAt (build rawText) node.idx=some stanza ∧
      StanzaOf (build rawText).nodes node stanza := by
  have hbuilt := built_foldl (keptLines rawText)
  have htree : build rawText=⟨((keptLines rawText).foldl addLine {}).nodes⟩ :=
    congrArg ConfigTree.mk (build_eq_foldl rawText)
  rw [htree] at hnode ⊢
  have hplace := hbuilt.getElem?_idx hnode
  obtain ⟨span,hspan,-⟩ := hbuilt.span (pairwise_keptLines rawText) hplace
  have hchildren : node.children.mapM (fun child =>
      ((keptLines rawText).foldl addLine {}).nodes[child]?)=
        some (((keptLines rawText).foldl addLine {}).nodes.filter fun child =>
          decide (child.parentIdx=some node.idx)) := by
    rw [hbuilt.children _ node hplace]
    exact mapM_of_forall₂ (forall₂_childrenOf _ _)
  refine ⟨⟨node.line.stripped,_,span.lineStart,span.lineEnd,span.fragment⟩,?_,⟨rfl,rfl⟩⟩
  rw [stanzaAt,hplace,Option.bind_eq_bind,Option.bind_some,hchildren,Option.bind_eq_bind,
    Option.bind_some,hspan]
  rfl

omit [PyUnicode] in
/-- Names with what is read at their places, where that succeeds. -/
def readStanzas {ι β : Type} (read : ι → Option β) (index : Dict String ι) : Dict String β where
  entries := index.entries.filterMap fun entry => (read entry.2).map fun found => (entry.1,found)
  nodup := by
    refine index.nodup.sublist ?_
    induction index.entries with
    | nil => exact .slnil
    | cons entry rest ih =>
      rw [List.filterMap_cons]
      cases read entry.2 with
      | none => exact ih.cons entry.1
      | some found => exact ih.cons_cons entry.1

omit [PyUnicode] in
/-- What is read at the place of a name is found under it. -/
theorem mem_readStanzas {ι β : Type} {read : ι → Option β} {index : Dict String ι}
    {name : String} {place : ι} {found : β} (hplace : index.get? name=some place)
    (hfound : read place=some found) : (name,found)∈(readStanzas read index).entries := by
  refine List.mem_filterMap.mpr ⟨(name,place),Dict.get?_eq_some_iff.mp hplace,?_⟩
  rw [hfound]
  rfl

/-- The stanzas of network objects. -/
def objectStanzas (tree : ConfigTree) : Dict String (List Stanza) :=
  readStanzas (fun places => places.mapM (stanzaAt tree)) (fromTree tree).objectNetwork

/-- The stanzas of one kind of groups. -/
def groupStanzas (tree : ConfigTree) (places : AsaIndex → Dict String ℕ) : Dict String Stanza :=
  readStanzas (stanzaAt tree) (places (fromTree tree))

/-- Stanzas have the lines of their headers. -/
theorem children_of_stanzas {nodes headers : List ConfigNode} {stanzas : List Stanza}
    (h : List.Forall₂ (StanzaOf nodes) headers stanzas) :
    stanzas.flatMap (·.children)=headers.flatMap (bodyLines nodes) := by
  induction h with
  | nil => rfl
  | cons hstanza _ ih => rw [List.flatMap_cons,List.flatMap_cons,hstanza.2,ih]

/-- Headers of a built tree have stanzas. -/
theorem exists_stanzas (rawText : String) {headers : List ConfigNode}
    (hheaders : ∀ header∈headers,header∈(build rawText).nodes) :
    ∃ stanzas,(headers.map (·.idx)).mapM (stanzaAt (build rawText))=some stanzas ∧
      List.Forall₂ (StanzaOf (build rawText).nodes) headers stanzas := by
  induction headers with
  | nil => exact ⟨[],rfl,.nil⟩
  | cons header rest ih =>
    obtain ⟨stanza,hstanza,hof⟩ := exists_stanza rawText (hheaders header List.mem_cons_self)
    obtain ⟨stanzas,hrest,hall⟩ := ih fun other ho => hheaders other (List.mem_cons_of_mem _ ho)
    refine ⟨stanza::stanzas,?_,.cons hof hall⟩
    rw [List.map_cons,List.mapM_cons,hstanza,hrest]
    rfl

/-- A network object has the stanzas of all its headers. -/
theorem exists_objectStanzas (rawText : String) {name : String}
    (hne : headerNodes (build rawText).nodes .objectNetwork name≠[]) :
    ∃ stanzas,(name,stanzas)∈(objectStanzas (build rawText)).entries ∧
      List.Forall₂ (StanzaOf (build rawText).nodes)
        (headerNodes (build rawText).nodes .objectNetwork name) stanzas := by
  obtain ⟨stanzas,hread,hall⟩ := @exists_stanzas _ rawText
    (headerNodes (build rawText).nodes .objectNetwork name)
    fun header hheader => List.mem_of_mem_filter hheader
  refine ⟨stanzas,mem_readStanzas ?_ hread,hall⟩
  have hnoted : ((fromTree (build rawText)).objectNetwork.get? name).getD []=
      (headerNodes (build rawText).nodes .objectNetwork name).map (·.idx) :=
    headers_fromTree (build rawText) .objectNetwork name
  cases hplaces : (fromTree (build rawText)).objectNetwork.get? name with
  | none =>
    rw [hplaces] at hnoted
    exact absurd (List.map_eq_nil_iff.mp hnoted.symm) hne
  | some places =>
    rw [hplaces] at hnoted
    exact congrArg some hnoted

/-- The groups of a kind are noted by the place of the last header of each name. -/
def NotedBy (kind : HeaderKind) (places : AsaIndex → Dict String ℕ) : Prop :=
  kind≠.objectNetwork ∧ ∀ index name,index.headers name kind=((places index).get? name).toList

/-- A group has the stanza of its last header. -/
theorem exists_groupStanza (rawText : String) {kind : HeaderKind}
    {places : AsaIndex → Dict String ℕ} (hplaces : NotedBy kind places) {name : String}
    {header : ConfigNode}
    (hlast : (headerNodes (build rawText).nodes kind name).getLast?=some header) :
    ∃ stanza,(name,stanza)∈(groupStanzas (build rawText) places).entries ∧
      StanzaOf (build rawText).nodes header stanza := by
  have hnode : header∈(build rawText).nodes :=
    List.mem_of_mem_filter (List.mem_of_getLast? hlast)
  obtain ⟨stanza,hread,hof⟩ := exists_stanza rawText hnode
  refine ⟨stanza,mem_readStanzas ?_ hread,hof⟩
  have hnoted := headers_fromTree (build rawText) kind name
  rw [hplaces.2,counting_of_ne hplaces.1,hlast] at hnoted
  exact Option.toList_eq_singleton_iff.mp hnoted

end Reading

end NspMigrator.CiscoIndex
