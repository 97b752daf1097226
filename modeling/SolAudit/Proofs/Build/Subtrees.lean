import SolAudit.Proofs.Ast.Tree
import SolAudit.Proofs.Build.Discovery
import SolAudit.Proofs.Build.WellFormed
import SolAudit.Proofs.Json.Members

/-!
# The raw tree in an arena

Visits go through a raw tree in pre-order, so position by position they are the visits of its subtrees (`subtrees`). In
the arena of a file the edges of a node lead, in order, to the positions of the subtrees that are its children, and have
their slots (`plants_of_buildFile`).
-/

namespace SolAudit.Build

open Ast

namespace RawTree

def slot : RawTree → Option String
  | .node _ slot _ => slot

def children : RawTree → List RawTree
  | .node _ _ children => children

mutual

/-- The tree and the trees inside it, in pre-order. -/
def subtrees : RawTree → List RawTree
  | .node raw slot children => .node raw slot children :: subtreesBelow children

def subtreesBelow : List RawTree → List RawTree
  | [] => []
  | tree :: rest => subtrees tree ++ subtreesBelow rest

end

theorem subtrees_eq (tree : RawTree) : tree.subtrees = tree :: subtreesBelow tree.children := by
  obtain ⟨raw, slot, children⟩ := tree
  rw [subtrees, RawTree.children]

theorem mem_subtreesBelow {tree : RawTree} {trees : List RawTree} :
    tree ∈ subtreesBelow trees ↔ ∃ child ∈ trees, tree ∈ child.subtrees := by
  induction trees with
  | nil => simp [subtreesBelow]
  | cons child rest ih => simp [subtreesBelow, ih]

mutual

/-- Visits are those of the subtrees, one by one. -/
theorem map_raw_visits : ∀ (tree : RawTree) (parent : Option Nat) (next : Nat),
    (tree.visits parent next).map (·.raw) = tree.subtrees.map raw
  | .node raw slot children, parent, next => by
    rw [visits, subtrees, List.map_cons, List.map_cons, map_raw_visitsBelow children]
    rfl

theorem map_raw_visitsBelow : ∀ (trees : List RawTree) (parent next : Nat),
    (visitsBelow parent next trees).map (·.raw) = (subtreesBelow trees).map raw
  | [], _, _ => by rw [visitsBelow, subtreesBelow, List.map_nil, List.map_nil]
  | tree :: rest, parent, next => by
    rw [visitsBelow, subtreesBelow, List.map_append, List.map_append, map_raw_visits tree,
      map_raw_visitsBelow rest]

end

theorem length_visits (tree : RawTree) (parent : Option Nat) (next : Nat) :
    (tree.visits parent next).length = tree.subtrees.length := by
  rw [← List.length_map, map_raw_visits, List.length_map]

/-- The edges to the visits below a position, where the first visit has the position `next`. -/
def edgesFrom (parent : Nat) : Nat → List Visit → List Edge
  | _, [] => []
  | next, visit :: rest =>
    (if visit.parent = some parent then [⟨visit.slot, next⟩] else []) ++ edgesFrom parent (next + 1) rest

theorem edgesFrom_append (parent next : Nat) (first second : List Visit) :
    edgesFrom parent next (first ++ second) =
      edgesFrom parent next first ++ edgesFrom parent (next + first.length) second := by
  induction first generalizing next with
  | nil => rfl
  | cons visit rest ih =>
    rw [List.cons_append, edgesFrom, edgesFrom, ih, List.append_assoc, List.length_cons, Nat.add_right_comm,
      Nat.add_assoc]

theorem edgesFrom_eq_nil {parent : Nat} {visits : List Visit} (h : ∀ visit ∈ visits, visit.parent ≠ some parent)
    (next : Nat) : edgesFrom parent next visits = [] := by
  induction visits generalizing next with
  | nil => rfl
  | cons visit rest ih =>
    rw [List.forall_mem_cons] at h
    rw [edgesFrom, if_neg h.1, ih h.2, List.nil_append]

mutual

/-- Apart from the root, a visit hangs on a visit of the same tree. -/
theorem parent_of_mem_visits : ∀ (tree : RawTree) {parent : Option Nat} {next : Nat} {visit : Visit},
    visit ∈ tree.visits parent next → visit.parent = parent ∨
      ∃ p, visit.parent = some p ∧ next ≤ p ∧ p < next + tree.subtrees.length
  | .node raw slot children, parent, next, visit, h => by
    rw [visits] at h
    rw [subtrees, List.length_cons]
    rcases List.mem_cons.mp h with rfl | h
    · exact .inl rfl
    · right
      rcases parent_of_mem_visitsBelow children h with hroot | ⟨p, hp, hle, hlt⟩
      · exact ⟨next, hroot, by omega, by omega⟩
      · exact ⟨p, hp, by omega, by omega⟩

theorem parent_of_mem_visitsBelow : ∀ (trees : List RawTree) {parent next : Nat} {visit : Visit},
    visit ∈ visitsBelow parent next trees → visit.parent = some parent ∨
      ∃ p, visit.parent = some p ∧ next ≤ p ∧ p < next + (subtreesBelow trees).length
  | [], _, _, _, h => by
    rw [visitsBelow] at h
    cases h
  | tree :: rest, parent, next, visit, h => by
    rw [visitsBelow] at h
    rw [subtreesBelow, List.length_append]
    rcases List.mem_append.mp h with h | h
    · refine (parent_of_mem_visits tree h).imp_right ?_
      rintro ⟨p, hp, hle, hlt⟩
      exact ⟨p, hp, hle, by omega⟩
    · rw [length_visits] at h
      refine (parent_of_mem_visitsBelow rest h).imp_right ?_
      rintro ⟨p, hp, hle, hlt⟩
      exact ⟨p, hp, by omega, by omega⟩

end

/-- No visit of a tree hangs on a position outside it, unless its root does. -/
theorem edgesFrom_visits_outside {tree : RawTree} {parent : Option Nat} {next position : Nat}
    (hparent : parent ≠ some position) (h : position < next ∨ next + tree.subtrees.length ≤ position) :
    edgesFrom position next (tree.visits parent next) = [] := by
  apply edgesFrom_eq_nil
  intro visit hvisit hsame
  rcases parent_of_mem_visits tree hvisit with hroot | ⟨p, hp, hle, hlt⟩
  · exact hparent (hroot.symm.trans hsame)
  · cases hp.symm.trans hsame
    omega

theorem edgesFrom_visitsBelow_outside {trees : List RawTree} {parent next position : Nat} (hparent : parent ≠ position)
    (h : position < next ∨ next + (subtreesBelow trees).length ≤ position) :
    edgesFrom position next (visitsBelow parent next trees) = [] := by
  apply edgesFrom_eq_nil
  intro visit hvisit hsame
  rcases parent_of_mem_visitsBelow trees hvisit with hroot | ⟨p, hp, hle, hlt⟩
  · exact hparent (Option.some.inj (hroot.symm.trans hsame))
  · cases hp.symm.trans hsame
    omega

/-- Of the visits of a tree only that of its root hangs on the node above the tree. -/
theorem edgesFrom_visits_parent (tree : RawTree) {parent next : Nat} (h : parent < next) :
    edgesFrom parent next (tree.visits (some parent) next) = [⟨tree.slot, next⟩] := by
  obtain ⟨raw, slot, children⟩ := tree
  rw [visits, edgesFrom, if_pos rfl, edgesFrom_visitsBelow_outside (Nat.ne_of_gt h) (.inl (Nat.lt_succ_of_lt h))]
  rfl

/-- An edge leads to a tree of a list: it has the slot of the tree, and the position at which the tree stands. -/
def Leads (list : List RawTree) (edge : Edge) (tree : RawTree) : Prop :=
  edge.slot = tree.slot ∧ list[edge.node]? = some tree

mutual

/-- Where the subtrees of a tree stand in a list from the position of its root on, the visits that hang on a subtree
are those of its children. -/
theorem leads_visits {list : List RawTree} : ∀ (tree : RawTree) {parent : Option Nat} {before after : List RawTree},
    list = before ++ (tree.subtrees ++ after) → (∀ p, parent = some p → p < before.length) →
      ∀ k sub, tree.subtrees[k]? = some sub →
        List.Forall₂ (Leads list) (edgesFrom (before.length + k) before.length (tree.visits parent before.length))
          sub.children
  | .node raw slot children, parent, before, after, hlist, hparent, k, sub, hsub => by
    rw [subtrees] at hlist hsub
    have hlist' : list = (before ++ [.node raw slot children]) ++ (subtreesBelow children ++ after) := by
      simpa using hlist
    have hlength : (before ++ [RawTree.node raw slot children]).length = before.length + 1 := by simp
    have hself : before.length < (before ++ [RawTree.node raw slot children]).length := by omega
    have hbelow := leads_visitsBelow children hlist' hself
    rw [hlength] at hbelow
    have hroot (position : Nat) (h : before.length ≤ position) : parent ≠ some position := by
      intro hsame
      have hlt := hparent position hsame
      omega
    rw [visits, edgesFrom, if_neg (hroot _ (Nat.le_add_right _ _)), List.nil_append]
    cases k with
    | zero =>
      cases hsub
      exact hbelow.1
    | succ k =>
      rw [Nat.add_comm k 1, ← Nat.add_assoc]
      exact hbelow.2 k sub hsub

theorem leads_visitsBelow {list : List RawTree} : ∀ (trees : List RawTree) {parent : Nat}
    {before after : List RawTree}, list = before ++ (subtreesBelow trees ++ after) → parent < before.length →
      List.Forall₂ (Leads list) (edgesFrom parent before.length (visitsBelow parent before.length trees)) trees ∧
      ∀ k sub, (subtreesBelow trees)[k]? = some sub →
        List.Forall₂ (Leads list)
          (edgesFrom (before.length + k) before.length (visitsBelow parent before.length trees)) sub.children
  | [], parent, before, after, hlist, hparent => by
    rw [visitsBelow, subtreesBelow]
    exact ⟨.nil, fun k sub hsub ↦ by simp at hsub⟩
  | tree :: rest, parent, before, after, hlist, hparent => by
    rw [subtreesBelow, List.append_assoc] at hlist
    have hparent' : ∀ p, some parent = some p → p < before.length := by
      intro p hp
      cases hp
      exact hparent
    have hfirst := leads_visits tree hlist hparent'
    have hlist' : list = (before ++ tree.subtrees) ++ (subtreesBelow rest ++ after) := by
      rw [hlist, List.append_assoc]
    have hlength : (before ++ tree.subtrees).length = before.length + tree.subtrees.length := List.length_append
    have hrest := leads_visitsBelow rest hlist' (Nat.lt_of_lt_of_le hparent (by omega))
    rw [hlength] at hrest
    rw [visitsBelow]
    simp only [edgesFrom_append, length_visits]
    constructor
    · rw [edgesFrom_visits_parent tree hparent]
      refine .cons ⟨rfl, ?_⟩ hrest.1
      rw [hlist, List.getElem?_append_right (Nat.le_refl _), Nat.sub_self, subtrees_eq]
      rfl
    · intro k sub hsub
      rw [subtreesBelow] at hsub
      by_cases hk : k < tree.subtrees.length
      · -- The trees after it have no visit that hangs on it.
        rw [List.getElem?_append_left hk] at hsub
        rw [edgesFrom_visitsBelow_outside (by omega) (.inl (by omega)), List.append_nil]
        exact hfirst k sub hsub
      · rw [List.getElem?_append_right (by omega)] at hsub
        rw [edgesFrom_visits_outside (by simp; omega) (.inr (by omega)), List.nil_append]
        have hlater := hrest.2 _ sub hsub
        rwa [Nat.add_assoc, Nat.add_sub_cancel' (by omega)] at hlater

end

end RawTree

/-! ## Edges of the arena -/

open RawTree

/-- Steps whose visits hang on nodes that are there give each node the edges to the visits that hang on it. -/
theorem children_steps {file : Path} (visits : List Visit) : ∀ {progress progress' : Progress},
    (∀ k visit p, visits[k]? = some visit → visit.parent = some p → p < progress.arena.size + k) →
      steps file progress visits = (.ok (), progress') → ∀ q,
        progress'.arena.children q = progress.arena.children q ++ edgesFrom q progress.arena.size visits := by
  intro progress progress' hparents h q
  revert hparents
  refine steps_induction ?_ ?_ h
  · intro progress _
    exact (List.append_nil _).symm
  · intro progress visit rest final node hlowers ih hparents
    have hallows : progress.arena.Allows visit.parent := fun p hp ↦ hparents 0 visit p rfl hp
    have hlater : ∀ k later p, rest[k]? = some later → later.parent = some p →
        p < (progress.arena.push visit.parent visit.slot node).size + k := by
      intro k later p hlater hp
      have hlt := hparents (k + 1) later p hlater hp
      rw [Arena.size_push]
      omega
    rw [ih hlater, Arena.children_push hallows hlowers.children, Arena.size_push, edgesFrom, List.append_assoc]

/-- In a file that is built, the edges of a node are those to the visits that hang on it. -/
theorem children_of_buildFile {source : SourceTree} {registry registry' : Registry} {arena : Arena} {tree : RawTree}
    (h : buildFile source registry = (.ok arena, registry')) (htree : RawTree.ofJson? source.ast = some tree)
    (q : Nat) : arena.children q = edgesFrom q 0 tree.preorder := by
  have hbefore := (wellFormed_of_buildFile h).parent_lt
  obtain ⟨tree', progress, htree', -, hsteps, rfl, rfl⟩ := buildFile_eq_ok_iff.mp h
  obtain rfl := Option.some.inj (htree.symm.trans htree')
  refine children_steps _ ?_ hsteps q
  intro k visit p hvisit hp
  have hparent : progress.arena.finish.parent? k = some p := by
    rw [Arena.parent?, ← Array.getElem?_toList, Arena.finish, parents_steps _ hsteps]
    simp [start, hvisit, hp]
  exact (hbefore k p hparent).trans_eq (Nat.zero_add k).symm

/-- An arena holds the subtrees of a raw tree in pre-order: each is the node of its position, and the edges of the node
lead to the children of the subtree. -/
structure Plants (tree : RawTree) (arena : Arena) : Prop where
  length : tree.subtrees.length = arena.size
  node : ∀ i sub, tree.subtrees[i]? = some sub →
    ∃ node registry, arena.node? i = some node ∧ Lowers registry sub.raw node.bare
  edges : ∀ i sub, tree.subtrees[i]? = some sub → List.Forall₂ (Leads tree.subtrees) (arena.children i) sub.children

/-- Steps from the start of a file make the node at a position from the visit at that position. -/
theorem exists_node_of_steps {file : Path} {source : SourceTree} {registry : Registry} {visits : List Visit}
    {progress : Progress} (h : steps file (start source registry) visits = (.ok (), progress)) {i : Nat}
    {visit : Visit} (hvisit : visits[i]? = some visit) :
    ∃ node registry', progress.arena.nodes[i]? = some node ∧ Lowers registry' visit.raw node.bare := by
  obtain ⟨nodes, hnodes, -, hlowers⟩ := exists_nodes_steps _ h
  obtain ⟨hlt, rfl⟩ := List.getElem?_eq_some_iff.mp hvisit
  have hlt' : i < nodes.length := hlowers.length_eq ▸ hlt
  obtain ⟨registry', hnode⟩ := hlowers.get hlt hlt'
  have hbare : (progress.arena.nodes.toList.map Node.bare)[i]? = some nodes[i] := by
    rw [hnodes]
    exact List.getElem?_eq_getElem hlt'
  rw [List.getElem?_map, Array.getElem?_toList] at hbare
  obtain ⟨node, hget, hsame⟩ := Option.map_eq_some_iff.mp hbare
  refine ⟨node, registry', hget, ?_⟩
  rw [hsame]
  exact hnode

theorem plants_of_buildFile {source : SourceTree} {registry registry' : Registry} {arena : Arena}
    (h : buildFile source registry = (.ok arena, registry')) :
    ∃ tree, RawTree.ofJson? source.ast = some tree ∧ Plants tree arena := by
  obtain ⟨tree, progress, htree, -, hsteps, rfl, rfl⟩ := buildFile_eq_ok_iff.mp h
  have hsize : tree.subtrees.length = progress.arena.size := by
    rw [size_steps _ hsteps, RawTree.preorder, length_visits]
    exact (Nat.zero_add _).symm
  refine ⟨tree, htree, hsize, ?_, ?_⟩
  · intro i sub hsub
    have hraw : (tree.preorder.map (·.raw))[i]? = some sub.raw := by
      rw [RawTree.preorder, map_raw_visits, List.getElem?_map, hsub]
      rfl
    rw [List.getElem?_map] at hraw
    obtain ⟨visit, hvisit, hraw⟩ := Option.map_eq_some_iff.mp hraw
    obtain ⟨node, registry'', hnode, hlowers⟩ := exists_node_of_steps hsteps hvisit
    exact ⟨node, registry'', hnode, hraw ▸ hlowers⟩
  · intro i sub hsub
    have hlist : tree.subtrees = [] ++ (tree.subtrees ++ []) := by rw [List.append_nil, List.nil_append]
    have hroot : ∀ p, (none : Option Nat) = some p → p < ([] : List RawTree).length := by simp
    have hleads := leads_visits tree hlist hroot i sub hsub
    rw [List.length_nil, Nat.zero_add] at hleads
    rw [children_of_buildFile h htree]
    exact hleads

/-- A syntax tree grows from a raw tree: its nodes are the raw nodes, each in the slot that it has there. -/
inductive GrowsFrom : Tree → RawTree → Prop where
  | node {registry : Registry} {raw : RawNode} {data : Node} {slot : Option String} {trees : List Tree}
      {raws : List RawTree} (hdata : Lowers registry raw data) (hchildren : List.Forall₂ GrowsFrom trees raws) :
    GrowsFrom (.node data slot trees) (.node raw slot raws)

section

variable {tree : RawTree} {arena : Arena}

mutual

theorem Plants.exists_subtree? (h : Plants tree arena) (hformed : arena.WellFormed) : ∀ (sub : RawTree) {i : Nat},
    tree.subtrees[i]? = some sub → ∃ made, arena.subtree? i sub.slot = some made ∧ GrowsFrom made sub
  | .node raw slot children, i, hsub => by
    obtain ⟨node, registry, hnode, hlowers⟩ := h.node i _ hsub
    have hlater : ∀ edge ∈ arena.children i, i < edge.node := fun edge hedge ↦
      hformed.parent_lt _ _ ((hformed.edge_iff i edge.node).mp (List.mem_map_of_mem hedge))
    have hmade := h.forall₂_subtree? hformed children (h.edges i _ hsub) hlater
    rw [Arena.children, hnode] at hmade
    exact ⟨_, Arena.subtree?_of_node? hnode slot, .node hlowers hmade⟩

theorem Plants.forall₂_subtree? (h : Plants tree arena) (hformed : arena.WellFormed) {i : Nat} :
    ∀ (children : List RawTree) {edges : List Edge}, List.Forall₂ (Leads tree.subtrees) edges children →
      (∀ edge ∈ edges, i < edge.node) → List.Forall₂ GrowsFrom
        (edges.filterMap fun edge ↦ if i < edge.node then arena.subtree? edge.node edge.slot else none) children
  | [], _, .nil, _ => .nil
  | child :: rest, edge :: edges, .cons hleads hrest, hlater => by
    obtain ⟨hedge, hlater⟩ := List.forall_mem_cons.mp hlater
    obtain ⟨made, hmade, hof⟩ := h.exists_subtree? hformed child hleads.2
    rw [List.filterMap_cons_some (by rw [if_pos hedge, hleads.1, hmade])]
    exact .cons hof (h.forall₂_subtree? hformed rest hrest hlater)

end

end

/-- The raw nodes of a source in pre-order. -/
def rawNodes (source : SourceTree) : List RawNode :=
  match RawTree.ofJson? source.ast with
  | some tree => tree.subtrees.map raw
  | none => []

theorem rawNodes_eq {source : SourceTree} {tree : RawTree} (h : RawTree.ofJson? source.ast = some tree) :
    rawNodes source = tree.subtrees.map raw := by
  rw [rawNodes, h]

/-- The raw nodes are those that the builder visits, in its order. -/
theorem rawNodes_eq_preorder {source : SourceTree} {tree : RawTree} (h : RawTree.ofJson? source.ast = some tree) :
    rawNodes source = tree.preorder.map (·.raw) := by
  rw [rawNodes_eq h]
  exact (map_raw_visits tree none 0).symm

/-- Every raw node of a file that is built was accepted. -/
theorem Plants.exists_lowers {source : SourceTree} {tree : RawTree} {arena : Arena} (h : Plants tree arena)
    (htree : RawTree.ofJson? source.ast = some tree) {i : Nat} {raw : RawNode}
    (hraw : (rawNodes source)[i]? = some raw) :
    ∃ node registry, arena.node? i = some node ∧ Lowers registry raw node.bare := by
  rw [rawNodes_eq htree, List.getElem?_map] at hraw
  obtain ⟨sub, hsub, rfl⟩ := Option.map_eq_some_iff.mp hraw
  exact h.node i sub hsub

theorem members_of_ofMembers? {members : Json.Members} {raw : RawNode} (h : RawNode.ofMembers? members = some raw) :
    raw.members = members := by
  rw [RawNode.ofMembers?] at h
  split at h
  · cases h
    rfl
  · obtain ⟨tag, -, h⟩ := Option.bind_eq_some_iff.mp h
    simp only at h
    split at h
    · cases h
      rfl
    · cases h

/-- A tree with the children that its members give. -/
structure Natural (tree : RawTree) : Prop where
  raw : RawNode.ofMembers? tree.raw.members = some tree.raw
  children : tree.children = childrenOf tree.raw (growMembers tree.raw.members)

/-- The tree of a raw node. -/
def treeOf (raw : RawNode) : RawTree := .node raw none (childrenOf raw (growMembers raw.members))

theorem found_of_node {json : Json} {raw : RawNode} (h : RawNode.ofJson? json = some raw) :
    (grow json).found = [treeOf raw] := by
  obtain ⟨members, hmembers, hraw⟩ := Option.bind_eq_some_iff.mp h
  cases json with
  | obj inside =>
    cases hmembers
    rw [grow, hraw, treeOf, members_of_ofMembers? hraw]
  | _ => cases hmembers

theorem ofJson?_eq (json : Json) : RawTree.ofJson? json = (RawNode.ofJson? json).map treeOf := by
  rw [RawTree.ofJson?]
  cases h : RawNode.ofJson? json with
  | none => rfl
  | some raw =>
    rw [found_of_node h]
    rfl

/-- The arena of a file that is built stands for a tree that grows from the raw tree of the file. -/
theorem exists_tree_of_buildFile {source : SourceTree} {registry registry' : Registry} {arena : Arena}
    (h : buildFile source registry = (.ok arena, registry')) :
    ∃ raw made, RawTree.ofJson? source.ast = some raw ∧ arena.tree? = some made ∧ GrowsFrom made raw := by
  have hformed := wellFormed_of_buildFile h
  obtain ⟨raw, hraw, hplants⟩ := plants_of_buildFile h
  have hslot : raw.slot = none := by
    rw [ofJson?_eq] at hraw
    obtain ⟨root, -, rfl⟩ := Option.map_eq_some_iff.mp hraw
    rfl
  obtain ⟨made, hmade, hof⟩ := hplants.exists_subtree? hformed raw (i := 0) (by rw [subtrees_eq]; rfl)
  rw [hslot] at hmade
  refine ⟨raw, made, hraw, ?_, hof⟩
  rw [Arena.tree?, hformed.root?_eq, Option.bind_some, hmade]

/-- The items of a value that are nodes. -/
theorem items_grow (json : Json) : (grow json).items = (json.items?.getD []).filterMap RawTree.ofJson? := by
  cases json with
  | obj members =>
    rw [grow]
    cases RawNode.ofMembers? members <;> rfl
  | arr items =>
    rw [grow]
    change _ = items.filterMap RawTree.ofJson?
    induction items with
    | nil => simp [growItems]
    | cons item rest ih =>
      rw [growItems, List.filterMap_cons, ofJson?_eq, ih]
      cases h : RawNode.ofJson? item with
      | none => rfl
      | some raw => simp [found_of_node h]
  | _ => simp [grow, Json.items?]

theorem items_subset_found (json : Json) : (grow json).items ⊆ (grow json).found := by
  intro tree htree
  rw [items_grow] at htree
  obtain ⟨item, hitem, hfound⟩ := List.mem_filterMap.mp htree
  cases json with
  | arr items =>
    rw [grow, found_growItems]
    rw [ofJson?_eq] at hfound
    obtain ⟨raw, hraw, rfl⟩ := Option.map_eq_some_iff.mp hfound
    refine List.mem_flatMap.mpr ⟨item, hitem, ?_⟩
    rw [found_of_node hraw]
    exact List.mem_singleton_self _
  | _ => cases hitem

theorem slot_of_mem_found {json : Json} {tree : RawTree} (h : tree ∈ (grow json).found) : tree.slot = none := by
  induction json using Json.parts_induction with
  | h json ih =>
    cases hnode : RawNode.ofJson? json with
    | none =>
      rw [found_grow hnode] at h
      obtain ⟨⟨step, part⟩, hpart, h⟩ := List.mem_flatMap.mp h
      exact ih step part hpart h
    | some raw =>
      rw [found_of_node hnode, List.mem_singleton] at h
      rw [h]
      rfl

theorem growths_get? (members : Json.Members) (key : String) :
    Growths.get? (growMembers members) key = (members.get? key).map grow := by
  rw [growMembers_eq, Growths.get?]
  induction members with
  | nil => rfl
  | cons member rest ih =>
    obtain ⟨k, value⟩ := member
    rw [List.map_cons, List.lookup_cons, Json.Members.get?, ih]
    by_cases hkey : k = key
    · simp [hkey]
    · have hne : (key == k) = false := by simpa using Ne.symm hkey
      simp [hne, hkey]

/-- The list of children in the legacy encoding. -/
def RawNode.listed (raw : RawNode) : List Json := ((raw.members.get? "children").bind Json.items?).getD []

theorem childrenOf_legacy {raw : RawNode} (h : raw.legacy = true) :
    childrenOf raw (growMembers raw.members) = raw.listed.filterMap RawTree.ofJson? := by
  rw [childrenOf, if_pos h, growths_get?, RawNode.listed]
  cases raw.members.get? "children" with
  | none => rfl
  | some value => exact items_grow value

/-- A child is found in a member, whatever slot it is put in. -/
theorem exists_found_of_mem_childrenOf {raw : RawNode} {members : Json.Members} {child : RawTree}
    (h : child ∈ childrenOf raw (growMembers members)) : ∃ member ∈ members, ∃ tree ∈ (grow member.2).found,
      unslotted child = unslotted tree := by
  have houtside (pick : String → Bool) (hchild : child ∈ outside (growMembers members) pick) :
      ∃ member ∈ members, ∃ tree ∈ (grow member.2).found, unslotted child = unslotted tree := by
    rw [outside, sortByOffset, List.mem_mergeSort, growMembers_eq] at hchild
    obtain ⟨growth, hgrowth, hchild⟩ := List.mem_flatMap.mp hchild
    obtain ⟨member, hmember, rfl⟩ := List.mem_map.mp (List.mem_filter.mp hgrowth).1
    exact ⟨member, hmember, child, hchild, rfl⟩
  rw [childrenOf] at h
  split at h
  · rw [growths_get?] at h
    cases hmember : members.get? "children" with
    | none => simp [hmember] at h
    | some value =>
      simp only [hmember, Option.map_some] at h
      exact ⟨("children", value), Json.Members.mem_of_get? hmember, child, items_subset_found value h, rfl⟩
  · split at h
    · exact houtside _ h
    · rename_i schema _
      rcases List.mem_append.mp h with h | h
      · obtain ⟨slot, -, h⟩ := List.mem_flatMap.mp h
        rw [inSlot] at h
        obtain ⟨tree, htree, rfl⟩ := List.mem_map.mp h
        have hfound : tree ∈ Growths.found (growMembers members) slot.name := by
          split at htree
          · exact List.mem_mergeSort.mp htree
          · exact htree
        rw [Growths.found, growths_get?] at hfound
        cases hmember : members.get? slot.name with
        | none => simp [hmember] at hfound
        | some value =>
          simp only [hmember, Option.map_some] at hfound
          exact ⟨(slot.name, value), Json.Members.mem_of_get? hmember, tree, hfound, unslotted_within _ _⟩
      · exact houtside _ h

/-- Every tree inside a tree that is found in a value is natural. -/
theorem natural_of_mem_found {json : Json} {tree sub : RawTree} (h : tree ∈ (grow json).found)
    (hsub : sub ∈ tree.subtrees) : Natural sub := by
  induction json using Json.parts_induction generalizing tree sub with
  | h json ih =>
    cases hraw : RawNode.ofJson? json with
    | none =>
      rw [found_grow hraw] at h
      obtain ⟨⟨step, part⟩, hpart, h⟩ := List.mem_flatMap.mp h
      exact ih step part hpart h hsub
    | some raw =>
      rw [found_of_node hraw, List.mem_singleton] at h
      rw [h, subtrees_eq] at hsub
      obtain ⟨members, hmembers, hraw⟩ := Option.bind_eq_some_iff.mp hraw
      cases json with
      | obj inside =>
        cases hmembers
        cases members_of_ofMembers? hraw
        rcases List.mem_cons.mp hsub with rfl | hsub
        · exact ⟨hraw, rfl⟩
        obtain ⟨child, hchild, hsub⟩ := mem_subtreesBelow.mp hsub
        obtain ⟨⟨key, value⟩, hmember, found, hfound, hsame⟩ := exists_found_of_mem_childrenOf hchild
        have hpart : (Json.Step.key key, value) ∈ (Json.obj raw.members).parts :=
          List.mem_map.mpr ⟨(key, value), hmember, rfl⟩
        have hbelow : ∀ sub ∈ found.subtrees, Natural sub := fun _ ↦ ih _ _ hpart hfound
        obtain ⟨raw', slot, children⟩ := child
        obtain ⟨raw'', slot', children'⟩ := found
        cases hsame
        rw [subtrees_eq] at hbelow hsub
        rcases List.mem_cons.mp hsub with rfl | hsub
        · have hself := hbelow _ List.mem_cons_self
          exact ⟨hself.raw, hself.children⟩
        · exact hbelow _ (List.mem_cons_of_mem _ hsub)
      | _ => cases hmembers

theorem natural_of_mem_subtrees {json : Json} {tree sub : RawTree} (h : RawTree.ofJson? json = some tree)
    (hsub : sub ∈ tree.subtrees) : Natural sub := by
  rw [ofJson?_eq] at h
  obtain ⟨raw, hraw, rfl⟩ := Option.map_eq_some_iff.mp h
  exact natural_of_mem_found (found_of_node hraw ▸ List.mem_singleton_self _) hsub

end SolAudit.Build
