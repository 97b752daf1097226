import Mathlib.Data.List.Range
import SolAudit.Proofs.Build.Acceptance

/-!
# Built arenas are well formed

The visits of a raw tree come in pre-order: each node hangs on the path from the root to the node visited just
before. Pushing nodes in this order keeps every table of the arena in step, so the arena of a file that was built
is one tree (`Arena.WellFormed`, `wellFormed_of_buildFile`): edges and parents are one relation, descendants and
ancestors are one relation, and ids lead back to their nodes.
-/

namespace SolAudit.Ast.Arena

/-- The arena is one tree, and its tables say the same about it. -/
structure WellFormed (arena : Arena) : Prop where
  nonempty : 0 < arena.size
  /-- The first node is the only one without parent. -/
  parent_eq_none_iff : ∀ i < arena.size, arena.parent? i = none ↔ i = 0
  parent_lt : arena.ParentsBefore
  lt_size : ∀ {i p}, arena.parent? i = some p → i < arena.size
  /-- The edge lists and the parent table describe the same relation. -/
  edge_iff : ∀ p j, j ∈ (arena.children p).map Edge.node ↔ arena.parent? j = some p
  edges_ascending : ∀ p, ((arena.children p).map Edge.node).Pairwise (· < ·)
  mem_descendants_iff : ∀ i j, j ∈ arena.descendants i ↔ i ∈ arena.ancestors j
  nodup_ids : arena.ids.Nodup
  /-- Every node has an extent. -/
  size_ends : arena.ends.size = arena.size

/-- All edge lists together lead to every node but the first, and to each once. -/
theorem WellFormed.edges_perm {arena : Arena} (h : arena.WellFormed) :
    (((List.range arena.size).flatMap arena.children).map Edge.node).Perm
      (List.range' 1 (arena.size - 1)) := by
  rw [List.map_flatMap, List.perm_ext_iff_of_nodup ?_ List.nodup_range']
  · intro j
    rw [List.mem_flatMap, List.mem_range'_1]
    constructor
    · rintro ⟨p, hp, hj⟩
      rw [h.edge_iff] at hj
      have hlt := h.parent_lt j p hj
      have hsize : j < arena.size := h.lt_size hj
      omega
    · intro hj
      have hsome : arena.parent? j ≠ none := by
        rw [Ne, h.parent_eq_none_iff j (by omega)]
        omega
      obtain ⟨p, hp⟩ := Option.ne_none_iff_exists'.mp hsome
      have hlt := h.parent_lt j p hp
      exact ⟨p, List.mem_range.mpr (by omega), (h.edge_iff p j).mpr hp⟩
  · rw [List.nodup_flatMap]
    constructor
    · intro p _
      exact (h.edges_ascending p).imp Nat.ne_of_lt
    · apply List.nodup_range.imp_of_mem
      intro p q _ _ hne j hp hq
      rw [h.edge_iff] at hp hq
      exact hne (Option.some.inj (hp.symm.trans hq))

/-- What holds of an arena while nodes are pushed in pre-order. -/
structure Grown (arena : Arena) : Prop where
  consistent : arena.Consistent
  linked : arena.Linked
  preorder : arena.size = 0 ∨ arena.InPreorder

namespace Grown

variable {arena : Arena}

theorem empty {arena : Arena} (hnodes : arena.nodes = #[]) (hparents : arena.parents = #[])
    (hends : arena.ends = #[]) : arena.Grown where
  consistent := .empty hnodes hparents hends
  linked := by
    intro p
    simp [children, node?, size, hnodes]
  preorder := .inl (by simp [size, hnodes])

theorem push {parent : Option Nat} {slot : Option String} {node : Node} (h : arena.Grown)
    (hparent : arena.Continues parent) (hnode : node.children = #[]) :
    (arena.push parent slot node).Grown where
  consistent := h.consistent.push hparent.allows
  linked := h.linked.push h.consistent.size_parents hparent.allows hnode
  preorder := .inr (InPreorder.push h.consistent h.preorder hparent)

theorem parent_eq_none_iff (h : arena.Grown) {i : Nat} (hi : i < arena.size) :
    arena.parent? i = none ↔ i = 0 := by
  have horder := h.preorder.resolve_left (by omega)
  constructor
  · intro hnone
    cases i with
    | zero => rfl
    | succ i =>
      obtain ⟨p, hp, -⟩ := horder.2 i hi
      rw [hp] at hnone
      cases hnone
  · rintro rfl
    exact horder.1

theorem lt_size (h : arena.Grown) {i p : Nat} (hp : arena.parent? i = some p) : i < arena.size := by
  have hmem := mem_ancestors_of_parent? h.consistent.parents_before hp
  exact h.consistent.size_parents ▸ lt_size_of_mem_ancestors h.consistent.parents_before hmem

theorem edge_iff (h : arena.Grown) (p j : Nat) :
    j ∈ (arena.children p).map Edge.node ↔ arena.parent? j = some p := by
  rw [h.linked p, List.mem_filter, List.mem_range, decide_eq_true_iff, and_iff_right_iff_imp]
  exact h.lt_size

theorem wellFormed_finish (h : arena.Grown) (hsize : 0 < arena.size) (hids : arena.ids.Nodup) :
    arena.finish.WellFormed where
  nonempty := hsize
  parent_eq_none_iff := fun _ hi ↦ h.parent_eq_none_iff hi
  parent_lt := h.consistent.parents_before
  lt_size := h.lt_size
  edge_iff := h.edge_iff
  edges_ascending := by
    intro p
    have hlinked : (arena.finish.children p).map Edge.node = _ := h.linked p
    rw [hlinked]
    exact List.pairwise_lt_range.filter _
  mem_descendants_iff :=
    Arena.mem_descendants_iff h.consistent ((h.preorder.resolve_left (by omega)).forest h.consistent)
  nodup_ids := hids
  size_ends := (size_endsBefore _ _ _).trans h.consistent.size_ends

end Grown

end SolAudit.Ast.Arena

namespace SolAudit.Build

open Ast

theorem parents_steps {file : Path} (visits : List RawTree.Visit) : ∀ {progress progress' : Progress},
    steps file progress visits = (.ok (), progress') →
      progress'.arena.parents.toList = progress.arena.parents.toList ++ visits.map (·.parent) := by
  intro progress progress' h
  refine steps_induction ?_ ?_ h
  · intro progress
    simp
  · intro progress visit rest final node _ ih
    rw [ih]
    simp [Arena.push]

theorem size_steps {file : Path} (visits : List RawTree.Visit) : ∀ {progress progress' : Progress},
    steps file progress visits = (.ok (), progress') →
      progress'.arena.size = progress.arena.size + visits.length := by
  intro progress progress' h
  refine steps_induction ?_ ?_ h
  · intro progress
    rfl
  · intro progress visit rest final node _ ih
    rw [ih, Arena.size_push, List.length_cons]
    omega

mutual

/-- Pushing a tree below a node on the spine leaves its root on the spine. -/
theorem grown_visits {file : Path} : ∀ (tree : RawTree) {parent : Option Nat} {progress progress' : Progress},
    progress.arena.Grown → progress.arena.Continues parent →
      steps file progress (tree.visits parent progress.arena.size) = (.ok (), progress') →
        progress'.arena.Grown ∧ progress'.arena.OnSpine progress.arena.size
  | .node raw slot children, parent, progress, progress', hgrown, hparent, h => by
    rw [RawTree.visits] at h
    obtain ⟨middle, hstep, hrest⟩ := steps_cons_eq_ok_iff.mp h
    obtain ⟨node, hlowers, hmiddle⟩ := exists_lowers_of_step hstep
    have hpushed : middle.arena.Grown := by
      rw [hmiddle]
      exact hgrown.push hparent hlowers.children
    have hspine : middle.arena.OnSpine progress.arena.size := by
      rw [hmiddle]
      exact Arena.onSpine_push_size
    have hsize : middle.arena.size = progress.arena.size + 1 := by
      rw [hmiddle]
      exact Arena.size_push
    rw [← hsize] at hrest
    exact grown_visitsBelow children hpushed hspine hrest

theorem grown_visitsBelow {file : Path} : ∀ (trees : List RawTree) {parent : Nat}
    {progress progress' : Progress}, progress.arena.Grown → progress.arena.OnSpine parent →
      steps file progress (RawTree.visitsBelow parent progress.arena.size trees) = (.ok (), progress') →
        progress'.arena.Grown ∧ progress'.arena.OnSpine parent
  | [], parent, progress, progress', hgrown, hspine, h => by
    cases h
    exact ⟨hgrown, hspine⟩
  | tree :: rest, parent, progress, progress', hgrown, hspine, h => by
    rw [RawTree.visitsBelow] at h
    obtain ⟨middle, hfirst, hrest⟩ := steps_append_eq_ok_iff.mp h
    obtain ⟨hmiddle, hroot⟩ := grown_visits tree hgrown (.inr ⟨parent, rfl, hspine⟩) hfirst
    rw [← size_steps _ hfirst] at hrest
    -- The root of the first tree is on the spine, and the parent is its parent.
    have hparent : middle.arena.parent? progress.arena.size = some parent := by
      obtain ⟨raw, slot, children⟩ := tree
      rw [Arena.parent?, ← Array.getElem?_toList, parents_steps _ hfirst, RawTree.visits]
      simp [← hgrown.consistent.size_parents]
    have hmem := Arena.mem_ancestors_of_parent? hmiddle.consistent.parents_before hparent
    exact grown_visitsBelow rest hmiddle
      (hroot.of_mem_ancestors hmiddle.consistent.parents_before hmem) hrest

end

/-- The arena of a file that was built, before its extents are computed. -/
theorem grown_preorder {source : SourceTree} {registry : Registry} {progress : Progress} {tree : RawTree}
    (h : steps source.path (start source registry) tree.preorder = (.ok (), progress)) :
    progress.arena.Grown ∧ 0 < progress.arena.size := by
  have hstart : (start source registry).arena.Grown := Arena.Grown.empty rfl rfl rfl
  obtain ⟨hgrown, hspine⟩ := grown_visits tree hstart (.inl ⟨rfl, rfl⟩) h
  exact ⟨hgrown, Nat.zero_lt_of_lt hspine.lt_size⟩

theorem wellFormed_of_buildFile {source : SourceTree} {registry registry' : Registry} {arena : Arena}
    (h : buildFile source registry = (.ok arena, registry')) : arena.WellFormed := by
  have hids := (tracks_of_buildFile h).nodup
  obtain ⟨tree, progress, -, -, hsteps, rfl, rfl⟩ := buildFile_eq_ok_iff.mp h
  obtain ⟨hgrown, hsize⟩ := grown_preorder hsteps
  exact hgrown.wellFormed_finish hsize hids

/-- Whatever the encoding of a source and the ids in use, the tables of the arena of a file that is built agree:
only the first node has no parent, and parents come first; the edge lists and the parent table are one relation,
each node but the first stands in exactly one edge list and there once, and edge lists ascend; descendants and
ancestors are one relation; and the id of every node leads to the node. -/
theorem buildFile_tables_agree {source : SourceTree} {registry registry' : Registry} {arena : Arena}
    (h : buildFile source registry = (.ok arena, registry')) :
    (0 < arena.size ∧ ∀ i < arena.size, arena.parent? i = none ↔ i = 0) ∧
      (∀ i p, arena.parent? i = some p → p < i) ∧
      (∀ p j, j ∈ (arena.children p).map Edge.node ↔ arena.parent? j = some p) ∧
      (((List.range arena.size).flatMap arena.children).map Edge.node).Perm
        (List.range' 1 (arena.size - 1)) ∧
      (∀ p, ((arena.children p).map Edge.node).Pairwise (· < ·)) ∧
      (∀ i j, j ∈ arena.descendants i ↔ i ∈ arena.ancestors j) ∧
      ∀ i node, arena.node? i = some node → arena.find? node.id = some i := by
  have hformed := wellFormed_of_buildFile h
  refine ⟨⟨hformed.nonempty, hformed.parent_eq_none_iff⟩, hformed.parent_lt, hformed.edge_iff,
    hformed.edges_perm, hformed.edges_ascending, hformed.mem_descendants_iff, ?_⟩
  intro i node hnode
  exact Arena.find?_id hformed.nodup_ids hnode

/-- A literal and the block around it, both without id. -/
def yulLiteral : RawNode := ⟨"YulLiteral", [("nodeType", .str "YulLiteral"), ("src", .str "20:1:0")], false, none⟩

def yulBlock : RawNode :=
  ⟨"YulBlock", [("nodeType", .str "YulBlock"), ("statements", .arr [.obj yulLiteral.members])], false, none⟩

def inlineAssembly : RawNode :=
  ⟨"InlineAssembly", [("AST", .obj yulBlock.members), ("id", .int 7), ("nodeType", .str "InlineAssembly"),
    ("src", .str "10:30:0")], false, none⟩

def pragma : RawNode :=
  ⟨"PragmaDirective", [("id", .int 3), ("nodeType", .str "PragmaDirective"), ("src", .str "0:9:0")], false, none⟩

/-- A source unit with a statement of inline assembly and a pragma. -/
def assemblyUnit : RawNode :=
  ⟨"SourceUnit", [("absolutePath", .str "A.sol"), ("id", .int 1), ("nodeType", .str "SourceUnit"),
    ("nodes", .arr [.obj inlineAssembly.members, .obj pragma.members]), ("src", .str "0:50:0")], false, none⟩

def assemblySource : SourceTree := ⟨0, ⟨"/p/A.sol"⟩, .obj assemblyUnit.members⟩

theorem exists_buildFile_assemblySource :
    ∃ arena registry', buildFile assemblySource {} = (.ok arena, registry') := by
  have htree : (RawTree.ofJson? assemblySource.ast).map
      (fun tree ↦ (tree.raw.tag, tree.preorder.map (·.raw))) =
        some ("SourceUnit", [assemblyUnit, inlineAssembly, yulBlock, yulLiteral, pragma]) := by
    with_unfolding_all rfl
  have hnodes : (lowerAll? 0 [assemblyUnit, inlineAssembly, yulBlock, yulLiteral, pragma]).map
      (·.map Node.id) = some [1, 7, -1, -2, 3] := by
    rfl
  exact exists_buildFile_of_ids htree hnodes (by decide)

theorem assemblySource_tables_agree : ∃ arena registry',
    buildFile assemblySource {} = (.ok arena, registry') ∧
      (∀ i j, j ∈ arena.descendants i ↔ i ∈ arena.ancestors j) ∧
      ∀ i node, arena.node? i = some node → arena.find? node.id = some i := by
  obtain ⟨arena, registry', h⟩ := exists_buildFile_assemblySource
  obtain ⟨-, -, -, -, -, hdescendants, hids⟩ := buildFile_tables_agree h
  exact ⟨arena, registry', h, hdescendants, hids⟩

end SolAudit.Build
