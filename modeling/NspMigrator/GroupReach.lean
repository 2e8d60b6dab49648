import Mathlib

/-!
# Groups, members and leaves

Some nodes of a graph are groups, and only groups have members. What lies
below a node, its leaves, and how deep groups stand in groups are stated over
any graph. A search that takes one round of members at a time finds exactly
what lies below its seeds, after at most as many rounds as there are members.
-/

namespace NspMigrator.GroupReach

universe u

variable {ι : Type u}

/-- A graph whose edges lead from a node to its members, with the nodes that are groups. -/
structure GroupGraph (ι : Type u) where
  /-- The nodes that may have members. -/
  IsGroup : ι → Prop
  /-- A node lists another one. -/
  Lists : ι → ι → Prop

namespace GroupGraph

variable (graph : GroupGraph ι)

/-- A group lists a node. -/
def Member (parent child : ι) : Prop := graph.IsGroup parent ∧ graph.Lists parent child

/-- A node stands below another one, or is that node. -/
def Below (top node : ι) : Prop := Relation.ReflTransGen graph.Member top node

/-- A node below another one that is no group. -/
def LeafOf (top leaf : ι) : Prop := graph.Below top leaf ∧ ¬graph.IsGroup leaf

/-- Every chain of groups, each a member of the one before, is this short. -/
def NestedWithin (depth : ℕ) : Prop :=
  ∀ chain : List ι,chain.IsChain graph.Member → (∀ node∈chain,graph.IsGroup node) →
    chain.length≤depth

/-- Every group lists something. -/
def NonemptyGroups : Prop := ∀ node,graph.IsGroup node → ∃ child,graph.Lists node child

/-- Groups below a node are opened within this many levels. -/
def OpensWithin : ℕ → ι → Prop
  | 0,node => ¬graph.IsGroup node
  | depth+1,node => graph.IsGroup node → ∀ child,graph.Lists node child →
      OpensWithin depth child

variable {graph}

/-- A node that is no group needs no level. -/
theorem opensWithin_of_not_isGroup {node : ι} (h : ¬graph.IsGroup node) (depth : ℕ) :
    graph.OpensWithin depth node := by
  cases depth with
  | zero => exact h
  | succ depth => exact fun hgroup => absurd hgroup h

/-- A node that cannot be opened within some levels starts a longer chain of groups. -/
theorem exists_chain_of_not_opensWithin {depth : ℕ} {node : ι}
    (h : ¬graph.OpensWithin depth node) :
    ∃ chain,(node::chain).IsChain graph.Member ∧ (∀ other∈node::chain,graph.IsGroup other) ∧
      chain.length=depth := by
  induction depth generalizing node with
  | zero =>
    have hnode : graph.IsGroup node := not_not.mp h
    exact ⟨[],List.isChain_singleton node,by simpa using hnode,rfl⟩
  | succ depth ih =>
    rw [OpensWithin] at h
    push Not at h
    obtain ⟨hnode,child,hlists,hchild⟩ := h
    obtain ⟨chain,hchain,hgroups,hlength⟩ := ih hchild
    refine ⟨child::chain,List.isChain_cons_cons.mpr ⟨⟨hnode,hlists⟩,hchain⟩,?_,?_⟩
    · intro other ho
      rcases List.mem_cons.mp ho with rfl|ho
      · exact hnode
      · exact hgroups other ho
    · rw [List.length_cons,hlength]

/-- Short chains of groups let every node be opened within their length. -/
theorem NestedWithin.opensWithin {depth : ℕ} (h : graph.NestedWithin depth) (node : ι) :
    graph.OpensWithin depth node := by
  by_contra hnot
  obtain ⟨chain,hchain,hgroups,hlength⟩ := exists_chain_of_not_opensWithin hnot
  have hle := h (node::chain) hchain hgroups
  rw [List.length_cons,hlength] at hle
  omega

/-- Groups are nested within a bound when a number below it falls from every
group to its members. -/
theorem nestedWithin_of_rank {depth : ℕ} (rank : ι → ℕ)
    (hfalls : ∀ parent child,graph.Member parent child → rank child<rank parent)
    (hle : ∀ node,graph.IsGroup node → 0<rank node ∧ rank node≤depth) :
    graph.NestedWithin depth := by
  have hchain : ∀ (node : ι) (chain : List ι),(node::chain).IsChain graph.Member →
      (∀ other∈node::chain,graph.IsGroup other) → (node::chain).length≤rank node := by
    intro node chain
    induction chain generalizing node with
    | nil => exact fun _ hgroups => (hle node (hgroups node List.mem_cons_self)).1
    | cons child rest ih =>
      intro hc hgroups
      obtain ⟨hm,hrest⟩ := List.isChain_cons_cons.mp hc
      have hlower := ih child hrest fun other ho => hgroups other (List.mem_cons_of_mem _ ho)
      have hlt := hfalls node child hm
      rw [List.length_cons]
      omega
  intro chain hc hgroups
  cases chain with
  | nil => exact Nat.zero_le _
  | cons node rest =>
    exact (hchain node rest hc hgroups).trans (hle node (hgroups node List.mem_cons_self)).2

/-- Below a node the levels get fewer. -/
theorem OpensWithin.lt_of_below {depth : ℕ} {node other : ι} (h : graph.OpensWithin depth node)
    (hbelow : Relation.TransGen graph.Member node other) :
    ∃ lower<depth,graph.OpensWithin lower other := by
  induction hbelow with
  | single hm =>
    cases depth with
    | zero => exact absurd hm.1 h
    | succ depth => exact ⟨depth,by omega,h hm.1 _ hm.2⟩
  | tail _ hm ih =>
    obtain ⟨lower,hlt,hlower⟩ := ih
    cases lower with
    | zero => exact absurd hm.1 hlower
    | succ lower => exact ⟨lower,by omega,hlower hm.1 _ hm.2⟩

/-- A node that can be opened is not below one of its own members. -/
theorem OpensWithin.not_below_self {depth : ℕ} {node : ι} (h : graph.OpensWithin depth node) :
    ¬Relation.TransGen graph.Member node node := by
  intro hcycle
  induction depth using Nat.strong_induction_on with
  | _ depth ih =>
    obtain ⟨lower,hlt,hlower⟩ := h.lt_of_below hcycle
    exact ih lower hlt hlower

/-- A node that is no group is its only leaf. -/
theorem leafOf_of_not_isGroup {node leaf : ι} (h : ¬graph.IsGroup node) :
    graph.LeafOf node leaf ↔ leaf=node := by
  constructor
  · rintro ⟨hbelow,-⟩
    rcases Relation.ReflTransGen.cases_head hbelow with rfl|⟨child,hm,-⟩
    · rfl
    · exact absurd hm.1 h
  · rintro rfl
    exact ⟨Relation.ReflTransGen.refl,h⟩

/-- The leaves of a group are those of the nodes it lists. -/
theorem leafOf_of_isGroup {node leaf : ι} (h : graph.IsGroup node) :
    graph.LeafOf node leaf ↔ ∃ child,graph.Lists node child ∧ graph.LeafOf child leaf := by
  constructor
  · rintro ⟨hbelow,hleaf⟩
    rcases Relation.ReflTransGen.cases_head hbelow with rfl|⟨child,hm,hrest⟩
    · exact absurd h hleaf
    · exact ⟨child,hm.2,hrest,hleaf⟩
  · rintro ⟨child,hlists,hbelow,hleaf⟩
    exact ⟨Relation.ReflTransGen.head ⟨h,hlists⟩ hbelow,hleaf⟩

/-- What lies below a node, other than the node, lies below another member of it. -/
theorem exists_member_of_below {top node : ι} (h : graph.Below top node) (hne : node≠top) :
    ∃ child,graph.Member top child ∧ child≠top ∧ graph.Below child node := by
  induction h using Relation.ReflTransGen.head_induction_on with
  | refl => exact absurd rfl hne
  | head hm hrest ih =>
    rename_i top child
    by_cases hself : child=top
    · rw [hself] at ih
      exact ih hne
    · exact ⟨child,hm,hself,hrest⟩

/-- Groups that list something and can be opened have a leaf. -/
theorem OpensWithin.exists_leafOf {depth : ℕ} {node : ι} (h : graph.OpensWithin depth node)
    (hne : graph.NonemptyGroups) : ∃ leaf,graph.LeafOf node leaf := by
  induction depth generalizing node with
  | zero => exact ⟨node,(leafOf_of_not_isGroup h).mpr rfl⟩
  | succ depth ih =>
    by_cases hg : graph.IsGroup node
    · obtain ⟨child,hlists⟩ := hne node hg
      obtain ⟨leaf,hleaf⟩ := ih (h hg child hlists)
      exact ⟨leaf,(leafOf_of_isGroup hg).mpr ⟨child,hlists,hleaf⟩⟩
    · exact ⟨node,(leafOf_of_not_isGroup hg).mpr rfl⟩

/-- A set with the members of its groups has everything below its nodes. -/
theorem mem_of_below {s : Set ι} (hs : ∀ node∈s,∀ child,graph.Member node child → child∈s)
    {top node : ι} (ht : top∈s) (h : graph.Below top node) : node∈s := by
  induction h with
  | refl => exact ht
  | tail _ hm ih => exact hs _ ih _ hm

end GroupGraph

/-- What a search has seen, and what of it is still to be opened. -/
structure Frontier (ι : Type u) where
  /-- The nodes reached so far. -/
  seen : Finset ι
  /-- Those of them that are still to be opened. -/
  pending : Finset ι

variable [DecidableEq ι]

/-- Open everything pending: the members that were not seen are next. -/
def Frontier.advance (members : Finset ι → Finset ι) (frontier : Frontier ι) : Frontier ι where
  seen := frontier.seen∪members frontier.pending
  pending := members frontier.pending \ frontier.seen

/-- Everything seen lies below a seed, and what was opened has all its members seen. -/
structure Frontier.Sound (graph : GroupGraph ι) (seeds : Finset ι) (frontier : Frontier ι) :
    Prop where
  /-- The seeds are seen. -/
  seeds_seen : seeds⊆frontier.seen
  /-- What waits is seen. -/
  pending_seen : frontier.pending⊆frontier.seen
  /-- What is seen stands below a seed. -/
  below : ∀ node∈frontier.seen,∃ seed∈seeds,graph.Below seed node
  /-- The members of what no longer waits are seen. -/
  opened : ∀ node∈frontier.seen,node∉frontier.pending →
    ∀ child,graph.Member node child → child∈frontier.seen

namespace Frontier

variable {graph : GroupGraph ι} {seeds : Finset ι} {frontier : Frontier ι}
  {members : Finset ι → Finset ι}

omit [DecidableEq ι] in
/-- A search starts soundly. -/
theorem Sound.start (graph : GroupGraph ι) (seeds : Finset ι) :
    Sound graph seeds ⟨seeds,seeds⟩ where
  seeds_seen := subset_rfl
  pending_seen := subset_rfl
  below node h := ⟨node,h,Relation.ReflTransGen.refl⟩
  opened _ h hnot := absurd h hnot

/-- A round keeps a search sound. -/
theorem Sound.advance (h : Sound graph seeds frontier)
    (hmembers : ∀ child,child∈members frontier.pending ↔
      ∃ node∈frontier.pending,graph.Member node child) :
    Sound graph seeds (frontier.advance members) where
  seeds_seen := h.seeds_seen.trans Finset.subset_union_left
  pending_seen := Finset.sdiff_subset.trans Finset.subset_union_right
  below node hn := by
    rcases Finset.mem_union.mp hn with hn|hn
    · exact h.below node hn
    · obtain ⟨parent,hp,hm⟩ := (hmembers node).mp hn
      obtain ⟨seed,hs,hbelow⟩ := h.below parent (h.pending_seen hp)
      exact ⟨seed,hs,hbelow.tail hm⟩
  opened node hn hnot child hm := by
    by_cases hp : node∈frontier.pending
    · exact Finset.mem_union_right _ ((hmembers child).mpr ⟨node,hp,hm⟩)
    · rcases Finset.mem_union.mp hn with hn|hn
      · exact Finset.mem_union_left _ (h.opened node hn hp child hm)
      · have hseen : node∈frontier.seen := by
          by_contra hunseen
          exact hnot (Finset.mem_sdiff.mpr ⟨hn,hunseen⟩)
        exact Finset.mem_union_left _ (h.opened node hseen hp child hm)

omit [DecidableEq ι] in
/-- A search that has nothing left to open has seen exactly what lies below its seeds. -/
theorem Sound.mem_seen_iff (h : Sound graph seeds frontier) (hdone : frontier.pending=∅)
    (node : ι) : node∈frontier.seen ↔ ∃ seed∈seeds,graph.Below seed node := by
  constructor
  · exact h.below node
  · rintro ⟨seed,hs,hbelow⟩
    have hclosed : ∀ other∈(frontier.seen : Set ι),∀ child,graph.Member other child →
        child∈(frontier.seen : Set ι) := fun other ho child hm =>
      h.opened other ho (by rw [hdone]; exact Finset.notMem_empty other) child hm
    exact GroupGraph.mem_of_below hclosed (h.seeds_seen hs) hbelow

/-- A round that finds something new leaves fewer nodes of a finite set unseen. -/
theorem card_unseen_advance {nodes : Finset ι} (hsub : members frontier.pending⊆nodes)
    (hmore : (frontier.advance members).pending≠∅) :
    (nodes \ (frontier.advance members).seen).card<(nodes \ frontier.seen).card := by
  obtain ⟨node,hn⟩ := Finset.nonempty_iff_ne_empty.mpr hmore
  obtain ⟨hmember,hunseen⟩ := Finset.mem_sdiff.mp hn
  have hsubset : nodes \ (frontier.advance members).seen⊆nodes \ frontier.seen :=
    Finset.sdiff_subset_sdiff subset_rfl Finset.subset_union_left
  apply Finset.card_lt_card
  rw [Finset.ssubset_iff_of_subset hsubset]
  refine ⟨node,Finset.mem_sdiff.mpr ⟨hsub hmember,hunseen⟩,?_⟩
  intro hnew
  exact (Finset.mem_sdiff.mp hnew).2 (Finset.mem_union_right _ hmember)

end Frontier

end NspMigrator.GroupReach
