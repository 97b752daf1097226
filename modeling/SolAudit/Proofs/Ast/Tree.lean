import Mathlib.Data.List.Forall2
import Mathlib.Data.List.Sort
import SolAudit.Proofs.Build.WellFormed

/-!
# The tree of an arena

An arena stands for a tree: the root is its first node, and the children of a node are where its edges lead. A
place in a tree is a `Focus`, the tree below the place together with the trees around it. In a well-formed arena
positions are places: position by position, the links of an arena lead to where the focus of the position leads
(`Stands.children`, `Stands.descendants`, `Stands.ancestors`).
-/

namespace SolAudit.Ast

/-- A node with what stands below it. The data of the node has no links, and the slot is that of the edge from
the parent. -/
inductive Tree where
  | node (data : Node) (slot : Option String) (children : List Tree)

namespace Tree

def data : Tree → Node
  | .node data _ _ => data

def slot : Tree → Option String
  | .node _ slot _ => slot

def children : Tree → List Tree
  | .node _ _ children => children

end Tree

/-- A tree inside another, with the trees around it, the nearest first. -/
structure Focus where
  here : Tree
  above : List Tree

namespace Focus

def children (focus : Focus) : List Focus :=
  focus.here.children.map fun child ↦ ⟨child, focus.here :: focus.above⟩

mutual

/-- The places strictly below a tree in pre-order. -/
def below (above : List Tree) : Tree → List Focus
  | .node data slot children => belowAll (.node data slot children :: above) children

/-- The places in the trees of a list, each tree before what is below it. -/
def belowAll (above : List Tree) : List Tree → List Focus
  | [] => []
  | tree :: rest => ⟨tree, above⟩ :: (below above tree ++ belowAll above rest)

end

def descendants (focus : Focus) : List Focus := below focus.above focus.here

/-- The places around a tree, the nearest first, each with the slot through which the path down leaves it. -/
def around (here : Tree) : List Tree → List (Focus × Option String)
  | [] => []
  | parent :: above => (⟨parent, above⟩, here.slot) :: around parent above

def ancestors (focus : Focus) : List (Focus × Option String) := around focus.here focus.above

end Focus

/-- All places of a tree in pre-order. -/
def Tree.places (tree : Tree) : List Focus := Focus.belowAll [] [tree]

namespace Arena

/-- The tree below a position, reached through a slot. -/
def subtree? (arena : Arena) (position : Nat) (slot : Option String) : Option Tree :=
  if hlt : position < arena.nodes.size then
    let node := arena.nodes[position]
    some (.node node.bare slot (node.children.toList.filterMap fun edge ↦
      if position < edge.node then arena.subtree? edge.node edge.slot else none))
  else none
termination_by arena.nodes.size - position

/-- The whole tree. -/
def tree? (arena : Arena) : Option Tree := arena.root?.bind fun root ↦ arena.subtree? root none

/-- A tree is what an arena has at a position. -/
def Shows (arena : Arena) (position : Nat) (tree : Tree) : Prop :=
  arena.subtree? position (arena.edgeSlot? position) = some tree

/-- A focus is the place of a position. -/
structure Stands (arena : Arena) (position : Nat) (focus : Focus) : Prop where
  here : arena.Shows position focus.here
  above : List.Forall₂ arena.Shows (arena.ancestors position) focus.above

variable {arena : Arena}

theorem subtree?_of_node? {position : Nat} {node : Node} (h : arena.node? position = some node)
    (slot : Option String) :
    arena.subtree? position slot =
      some (.node node.bare slot (node.children.toList.filterMap fun edge ↦
        if position < edge.node then arena.subtree? edge.node edge.slot else none)) := by
  obtain ⟨hlt, rfl⟩ := Array.getElem?_eq_some_iff.mp h
  rw [subtree?, dif_pos hlt]

theorem exists_node? {position : Nat} (h : position < arena.size) :
    ∃ node, arena.node? position = some node :=
  ⟨_, Array.getElem?_eq_getElem h⟩

theorem exists_shows {position : Nat} (h : position < arena.size) : ∃ tree, arena.Shows position tree := by
  obtain ⟨node, hnode⟩ := exists_node? h
  exact ⟨_, subtree?_of_node? hnode _⟩

/-- What a function gives for every element of a list, it gives in order. -/
theorem forall₂_filterMap {α β : Type} {f : α → Option β} {l : List α} (h : ∀ a ∈ l, ∃ b, f a = some b) :
    List.Forall₂ (fun a b ↦ a ∈ l ∧ f a = some b) l (l.filterMap f) := by
  induction l with
  | nil => exact .nil
  | cons a rest ih =>
    obtain ⟨b, hb⟩ := h a List.mem_cons_self
    rw [List.filterMap_cons_some hb]
    refine .cons ⟨List.mem_cons_self, hb⟩ ?_
    apply (ih fun c hc ↦ h c (List.mem_cons_of_mem _ hc)).imp
    rintro c d ⟨hc, hd⟩
    exact ⟨List.mem_cons_of_mem _ hc, hd⟩

namespace WellFormed

theorem root?_eq (h : arena.WellFormed) : arena.root? = some 0 := by
  have hnonempty : arena.nodes.isEmpty = false := by
    rw [Array.isEmpty_eq_false_iff, Ne, ← Array.size_eq_zero_iff]
    exact Nat.ne_of_gt h.nonempty
  rw [root?, hnonempty]
  rfl

theorem parent?_zero (h : arena.WellFormed) : arena.parent? 0 = none :=
  (h.parent_eq_none_iff 0 h.nonempty).mpr rfl

theorem edgeSlot?_zero (h : arena.WellFormed) : arena.edgeSlot? 0 = none := by
  rw [edgeSlot?, h.parent?_zero]
  rfl

/-- The slot of an edge is found again from the child. -/
theorem edgeSlot?_eq (h : arena.WellFormed) {position : Nat} {edge : Edge}
    (hedge : edge ∈ arena.children position) : arena.edgeSlot? edge.node = edge.slot := by
  have hparent : arena.parent? edge.node = some position :=
    (h.edge_iff position edge.node).mp (List.mem_map_of_mem hedge)
  have hnodup : ((arena.children position).map Edge.node).Nodup :=
    (h.edges_ascending position).imp Nat.ne_of_lt
  have hfind : (arena.children position).find? (·.node == edge.node) = some edge := by
    have hsome : ((arena.children position).find? (·.node == edge.node)).isSome := by
      rw [List.find?_isSome]
      exact ⟨edge, hedge, beq_self_eq_true edge.node⟩
    obtain ⟨other, hother⟩ := Option.isSome_iff_exists.mp hsome
    have hsame : other.node = edge.node := by simpa using List.find?_some hother
    rw [hother, List.inj_on_of_nodup_map hnodup (List.mem_of_find?_eq_some hother) hedge hsame]
  rw [edgeSlot?, hparent]
  simp [hfind]

/-- Below a node stand its children, each followed by what stands below it. -/
theorem descendants_eq (h : arena.WellFormed) (position : Nat) :
    arena.descendants position =
      ((arena.children position).map Edge.node).flatMap fun child ↦ child :: arena.descendants child := by
  have hancestors {child : Nat} (hchild : child ∈ (arena.children position).map Edge.node) :
      arena.ancestors child = position :: arena.ancestors position :=
    ancestors_eq_cons h.parent_lt ((h.edge_iff position child).mp hchild)
  -- Both lists ascend strictly, so it is enough that they have the same members.
  have hleft : (arena.descendants position).Pairwise (· < ·) := List.pairwise_lt_range'
  have hright : (((arena.children position).map Edge.node).flatMap fun child ↦
      child :: arena.descendants child).Pairwise (· < ·) := by
    rw [List.pairwise_flatMap]
    constructor
    · intro child _
      rw [descendants, ← List.range'_succ]
      exact List.pairwise_lt_range'
    · apply (h.edges_ascending position).imp_of_mem
      intro child next hchild hnext hlt a ha b hb
      have hbelow : next ≤ b := by
        rcases List.mem_cons.mp hb with rfl | hb
        · exact Nat.le_refl _
        · exact Nat.le_of_lt (lt_of_mem_ancestors ((h.mem_descendants_iff next b).mp hb))
      have hbefore : a < next := by
        by_contra hnot
        -- The next child would stand between the child and a descendant of the child.
        have hbetween : next ∈ arena.descendants child := by
          rcases List.mem_cons.mp ha with rfl | ha
          · omega
          · rw [descendants, List.mem_range'_1] at ha ⊢
            omega
        have hchild' : child ∈ position :: arena.ancestors position := by
          rw [← hancestors hnext]
          exact (h.mem_descendants_iff child next).mp hbetween
        have hlt' := h.parent_lt child position ((h.edge_iff position child).mp hchild)
        rcases List.mem_cons.mp hchild' with rfl | hchild'
        · exact Nat.lt_irrefl _ hlt'
        · exact Nat.lt_asymm hlt' (lt_of_mem_ancestors hchild')
      omega
  apply hleft.eq_of_mem_iff hright
  intro d
  rw [h.mem_descendants_iff, mem_ancestors_iff_child h.parent_lt, List.mem_flatMap]
  simp only [h.edge_iff, List.mem_cons, h.mem_descendants_iff]

/-- Every node but the first stands below the first. -/
theorem zero_mem_ancestors (h : arena.WellFormed) {position : Nat} (hlt : position < arena.size)
    (hpos : 0 < position) : 0 ∈ arena.ancestors position := by
  induction position using Nat.strong_induction_on with
  | h position ih =>
    have hsome : arena.parent? position ≠ none := by
      rw [Ne, h.parent_eq_none_iff position hlt]
      omega
    obtain ⟨parent, hparent⟩ := Option.ne_none_iff_exists'.mp hsome
    have hbefore := h.parent_lt position parent hparent
    rw [ancestors_eq_cons h.parent_lt hparent, List.mem_cons]
    rcases Nat.eq_zero_or_pos parent with hzero | hpos'
    · exact .inl hzero.symm
    · exact .inr (ih parent hbefore (by omega) hpos')

theorem range_size_eq (h : arena.WellFormed) : List.range arena.size = 0 :: arena.descendants 0 := by
  have hleft : (List.range arena.size).Pairwise (· < ·) := List.pairwise_lt_range
  have hright : (0 :: arena.descendants 0).Pairwise (· < ·) := by
    rw [descendants, ← List.range'_succ]
    exact List.pairwise_lt_range'
  apply hleft.eq_of_mem_iff hright
  intro j
  rw [List.mem_range, List.mem_cons, h.mem_descendants_iff]
  constructor
  · intro hj
    rcases Nat.eq_zero_or_pos j with hzero | hpos
    · exact .inl hzero
    · exact .inr (h.zero_mem_ancestors hj hpos)
  · rintro (rfl | hj)
    · exact h.nonempty
    · obtain ⟨parent, hparent, -⟩ := (mem_ancestors_iff h.parent_lt).mp hj
      exact h.lt_size hparent

end WellFormed

/-! ## Positions as places -/

theorem Shows.inv (h : arena.WellFormed) {position : Nat} {tree : Tree} (htree : arena.Shows position tree) :
    ∃ node, arena.node? position = some node ∧ tree.data = node.bare ∧
      tree.slot = arena.edgeSlot? position ∧
      List.Forall₂ (fun edge child ↦ edge ∈ arena.children position ∧ arena.Shows edge.node child)
        (arena.children position) tree.children := by
  have hlt : position < arena.nodes.size := by
    by_contra hnot
    rw [Shows, subtree?, dif_neg hnot] at htree
    cases htree
  obtain ⟨node, hnode⟩ := exists_node? hlt
  have hchildren : arena.children position = node.children.toList := by
    rw [children, hnode]
  rw [Shows, subtree?_of_node? hnode, ← hchildren] at htree
  cases htree
  refine ⟨node, hnode, rfl, rfl, ?_⟩
  have hedge : ∀ edge ∈ arena.children position,
      (if position < edge.node then arena.subtree? edge.node edge.slot else none) =
        arena.subtree? edge.node (arena.edgeSlot? edge.node) := by
    intro edge hedge
    have hparent := (h.edge_iff position edge.node).mp (List.mem_map_of_mem hedge)
    rw [if_pos (h.parent_lt edge.node position hparent), h.edgeSlot?_eq hedge]
  rw [Tree.children, List.filterMap_congr hedge]
  apply forall₂_filterMap
  intro edge hedge
  exact exists_shows (h.lt_size ((h.edge_iff position edge.node).mp (List.mem_map_of_mem hedge)))

/-- The edges of a node lead to the children of its place. -/
theorem Stands.children (h : arena.WellFormed) {position : Nat} {focus : Focus}
    (hfocus : arena.Stands position focus) :
    List.Forall₂ (fun edge child ↦ arena.Stands edge.node child ∧ child.here.slot = edge.slot)
      (arena.children position) focus.children := by
  obtain ⟨-, -, -, -, hchildren⟩ := hfocus.here.inv h
  rw [Focus.children, List.forall₂_map_right_iff]
  apply hchildren.imp
  rintro edge child ⟨hedge, hchild⟩
  have hparent := (h.edge_iff position edge.node).mp (List.mem_map_of_mem hedge)
  refine ⟨⟨hchild, ?_⟩, ?_⟩
  · rw [ancestors_eq_cons h.parent_lt hparent]
    exact .cons hfocus.here hfocus.above
  · obtain ⟨-, -, -, hslot, -⟩ := hchild.inv h
    exact hslot.trans (h.edgeSlot?_eq hedge)

mutual

/-- The positions below a node are, in order, those of the places below its tree. -/
theorem forall₂_below (h : arena.WellFormed) : ∀ {position : Nat} {above : List Tree} (tree : Tree),
    arena.Shows position tree → List.Forall₂ arena.Shows (arena.ancestors position) above →
      List.Forall₂ arena.Stands (arena.descendants position) (Focus.below above tree)
  | position, above, .node data slot children, htree, habove => by
    rw [h.descendants_eq, Focus.below, List.flatMap_map]
    obtain ⟨-, -, -, -, hchildren⟩ := htree.inv h
    exact forall₂_belowAll h children hchildren (.cons htree habove)

theorem forall₂_belowAll (h : arena.WellFormed) : ∀ {position : Nat} {above : List Tree} {edges : List Edge}
    (trees : List Tree),
    List.Forall₂ (fun edge child ↦ edge ∈ arena.children position ∧ arena.Shows edge.node child) edges trees →
      List.Forall₂ arena.Shows (position :: arena.ancestors position) above →
      List.Forall₂ arena.Stands (edges.flatMap fun edge ↦ edge.node :: arena.descendants edge.node)
        (Focus.belowAll above trees)
  | _, _, _, [], .nil, _ => by
    rw [Focus.belowAll, List.flatMap_nil]
    exact .nil
  | position, above, edge :: edges, tree :: rest, .cons ⟨hedge, htree⟩ hrest, habove => by
    have hparent := (h.edge_iff position edge.node).mp (List.mem_map_of_mem hedge)
    rw [← ancestors_eq_cons h.parent_lt hparent] at habove
    have hbelow := forall₂_below h tree htree habove
    rw [Focus.belowAll, List.flatMap_cons, List.cons_append]
    refine .cons ⟨htree, habove⟩ (List.rel_append hbelow ?_)
    rw [ancestors_eq_cons h.parent_lt hparent] at habove
    exact forall₂_belowAll h rest hrest habove

end

theorem Stands.descendants (h : arena.WellFormed) {position : Nat} {focus : Focus}
    (hfocus : arena.Stands position focus) :
    List.Forall₂ arena.Stands (arena.descendants position) focus.descendants :=
  forall₂_below h focus.here hfocus.here hfocus.above

/-- The ancestors of a node are, in order, the places around its place, and each is left through the slot of the
node or ancestor before it. -/
theorem Stands.ancestors (h : arena.WellFormed) {position : Nat} {focus : Focus}
    (hfocus : arena.Stands position focus) :
    List.Forall₂ (fun (a, lower) (place, slot) ↦ arena.Stands a place ∧ slot = arena.edgeSlot? lower)
      ((arena.ancestors position).zip (position :: arena.ancestors position)) focus.ancestors := by
  obtain ⟨here, above⟩ := focus
  rw [Focus.ancestors]
  induction position using Nat.strong_induction_on generalizing here above with
  | h position ih =>
    obtain ⟨hhere, habove⟩ := hfocus
    cases hparent : arena.parent? position with
    | none =>
      rw [ancestors_eq_nil hparent] at habove ⊢
      cases habove
      exact .nil
    | some parent =>
      rw [ancestors_eq_cons h.parent_lt hparent] at habove ⊢
      cases habove with
      | cons hfirst hrest =>
        obtain ⟨-, -, -, hslot, -⟩ := hhere.inv h
        rw [List.zip_cons_cons, Focus.around]
        refine .cons ⟨⟨hfirst, hrest⟩, hslot⟩ ?_
        exact ih parent (h.parent_lt position parent hparent) _ _ ⟨hfirst, hrest⟩

/-- The positions of an arena are, in order, the places of its tree. -/
theorem WellFormed.exists_tree (h : arena.WellFormed) :
    ∃ tree, arena.tree? = some tree ∧ List.Forall₂ arena.Stands (List.range arena.size) tree.places := by
  obtain ⟨tree, htree⟩ := exists_shows h.nonempty
  refine ⟨tree, ?_, ?_⟩
  · rw [tree?, h.root?_eq, Option.bind_some, ← h.edgeSlot?_zero]
    exact htree
  · have habove : List.Forall₂ arena.Shows (arena.ancestors 0) [] := by
      rw [ancestors_eq_nil h.parent?_zero]
      exact .nil
    rw [h.range_size_eq, Tree.places, Focus.belowAll, Focus.belowAll, List.append_nil]
    exact .cons ⟨htree, habove⟩ (forall₂_below h tree htree habove)

end Arena

end SolAudit.Ast
