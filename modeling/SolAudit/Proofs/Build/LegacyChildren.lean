import SolAudit.Proofs.Build.Subtrees
import SolAudit.Proofs.Build.TypedObjects

/-!
# Children of legacy nodes

The children of a node of the legacy encoding are those items of its list that are nodes, in list order. A name alone
does not make an item a node: without a type, attributes or a list of its own (`Bodied`) it is passed over, and nothing
is made of it. Every other item with a name and an id becomes exactly one node.
-/

namespace SolAudit.Build

open Ast RawTree

/-- Members that make an object with a name a node. -/
def Bodied (members : Json.Members) : Prop :=
  ((members.get? "nodeType").bind Json.string?).isSome = true ∨
    ((members.get? "attributes").bind Json.members?).isSome = true ∨
    ((members.get? "children").bind Json.items?).isSome = true

/-- What a node has from its raw node: its type, its range and the id that the raw node gives. -/
structure MadeOf (raw : RawNode) (node : Node) : Prop where
  tag : node.kind.tag = raw.tag
  src : node.src = raw.src?.getD ""
  id : ∀ id, raw.id? = some id → node.id = id

/-- The raw node at a position is the one of an object. -/
def StandsFor (source : SourceTree) (position : Nat) (members : Json.Members) : Prop :=
  ∃ raw, (rawNodes source)[position]? = some raw ∧ raw.members = members

theorem isSome_ofMembers?_iff {members : Json.Members} {name : String}
    (hname : (members.get? "name").bind Json.string? = some name) :
    (RawNode.ofMembers? members).isSome = true ↔ Bodied members := by
  rw [RawNode.ofMembers?, Bodied]
  cases (members.get? "nodeType").bind Json.string? with
  | some tag => simp
  | none => simp [hname]

theorem Lowers.madeOf {registry : Registry} {raw : RawNode} {node : Node} (h : Lowers registry raw node.bare) :
    MadeOf raw node where
  tag := tag_of_kind h.kind
  src := by
    have hsrc := h.src
    split at hsrc
    · rw [hsrc]
      rfl
    · exact (Option.some.inj hsrc).symm
  id := by
    intro id hid
    have htake := h.id
    rw [takeId, hid] at htake
    exact (Except.ok.inj htake).symm

section Built

variable {source : SourceTree} {registry registry' : Registry} {arena : Arena}

/-- The children of a legacy node are the items of its list that are nodes. -/
theorem children_eq_listed {tree : RawTree} (htree : RawTree.ofJson? source.ast = some tree) (h : Plants tree arena)
    {i : Nat} {raw : RawNode} (hraw : (rawNodes source)[i]? = some raw) (hlegacy : raw.legacy = true) :
    (arena.children i).map (fun edge ↦ (edge.slot, (rawNodes source)[edge.node]?)) =
      (raw.listed.filterMap RawNode.ofJson?).map fun inner ↦ (none, some inner) := by
  rw [rawNodes_eq htree] at hraw ⊢
  rw [List.getElem?_map] at hraw
  obtain ⟨sub, hsub, rfl⟩ := Option.map_eq_some_iff.mp hraw
  have hedges := h.edges i sub hsub
  have hnatural := natural_of_mem_subtrees htree (List.mem_of_getElem? hsub)
  have htrees : sub.children = (sub.raw.listed.filterMap RawNode.ofJson?).map treeOf := by
    rw [hnatural.children, childrenOf_legacy hlegacy, List.map_filterMap]
    exact List.filterMap_congr fun item _ ↦ ofJson?_eq item
  rw [htrees, List.forall₂_map_right_iff] at hedges
  rw [← List.forall₂_eq_eq_eq, List.forall₂_map_left_iff, List.forall₂_map_right_iff]
  apply hedges.imp
  rintro edge inner ⟨hslot, hnode⟩
  rw [List.getElem?_map, hnode, hslot]
  rfl

/-- An item that is a node becomes a child. -/
theorem exists_child_of_listed {tree : RawTree} (htree : RawTree.ofJson? source.ast = some tree)
    (h : Plants tree arena) (hformed : arena.WellFormed) {i : Nat} {raw inner : RawNode} {members : Json.Members}
    (hraw : (rawNodes source)[i]? = some raw) (hlegacy : raw.legacy = true) (hitem : .obj members ∈ raw.listed)
    (hinner : RawNode.ofMembers? members = some inner) :
    ∃ p, arena.parent? p = some i ∧ (rawNodes source)[p]? = some inner := by
  have hmem : (none, some inner) ∈ (raw.listed.filterMap RawNode.ofJson?).map
      fun inner ↦ ((none : Option String), some inner) :=
    List.mem_map_of_mem (List.mem_filterMap.mpr ⟨_, hitem, hinner⟩)
  rw [← children_eq_listed htree h hraw hlegacy] at hmem
  obtain ⟨edge, hedge, hsame⟩ := List.mem_map.mp hmem
  exact ⟨edge.node, (hformed.edge_iff _ _).mp (List.mem_map_of_mem hedge), (Prod.mk.inj hsame).2⟩

theorem ofMembers?_of_rawNodes {tree : RawTree} (htree : RawTree.ofJson? source.ast = some tree) {i : Nat}
    {raw : RawNode} (hraw : (rawNodes source)[i]? = some raw) : RawNode.ofMembers? raw.members = some raw := by
  rw [rawNodes_eq htree, List.getElem?_map] at hraw
  obtain ⟨sub, hsub, rfl⟩ := Option.map_eq_some_iff.mp hraw
  exact (natural_of_mem_subtrees htree (List.mem_of_getElem? hsub)).raw

/-- Of two raw nodes of a file that is built only one has a given id. -/
theorem eq_of_rawNodes {tree : RawTree} (htree : RawTree.ofJson? source.ast = some tree) (h : Plants tree arena)
    (hids : arena.ids.Nodup) {p q : Nat} {raw raw' : RawNode} {id : Int} (hp : (rawNodes source)[p]? = some raw)
    (hq : (rawNodes source)[q]? = some raw') (hid : raw.id? = some id) (hid' : raw'.id? = some id) : q = p := by
  have hfind {i : Nat} {inner : RawNode} (hi : (rawNodes source)[i]? = some inner) (hinner : inner.id? = some id) :
      arena.find? id = some i := by
    obtain ⟨node, registry, hnode, hlowers⟩ := h.exists_lowers htree hi
    rw [← hlowers.madeOf.id id hinner]
    exact Arena.find?_id hids hnode
  exact Option.some.inj ((hfind hq hid').symm.trans (hfind hp hid))

/-- Whatever the source and the ids in use, the nodes of a file that is built are made of its raw nodes, one of each.
The children of a legacy node are the items of its list that are nodes, in list order. An item with a name and an id
becomes exactly one node, which is a child of that node, if it is bodied; nothing is made of any other. -/
theorem legacy_children_are_bodied_items (h : buildFile source registry = (.ok arena, registry')) :
    (rawNodes source).length = arena.size ∧ (rawNodes source).head? = RawNode.ofJson? source.ast ∧
      ∀ i raw, (rawNodes source)[i]? = some raw →
        (∃ node, arena.node? i = some node ∧ MadeOf raw node) ∧
        (raw.legacy = true →
          (arena.children i).map (fun edge ↦ (edge.slot, (rawNodes source)[edge.node]?)) =
            (raw.listed.filterMap RawNode.ofJson?).map (fun inner ↦ (none, some inner)) ∧
          ∀ members name id, .obj members ∈ raw.listed → members.get? "name" = some (.str name) →
            (members.get? "id").bind Json.id? = some id →
            (Bodied members → ∃ p, arena.parent? p = some i ∧
              ∀ q, StandsFor source q members ↔ q = p) ∧
            (¬ Bodied members → ∀ q, ¬ StandsFor source q members)) := by
  have hformed := wellFormed_of_buildFile h
  obtain ⟨tree, htree, hplants⟩ := plants_of_buildFile h
  have hraws := rawNodes_eq htree
  refine ⟨?_, ?_, ?_⟩
  · rw [hraws, List.length_map, hplants.length]
  · rw [ofJson?_eq] at htree
    obtain ⟨raw, hraw, rfl⟩ := Option.map_eq_some_iff.mp htree
    rw [hraws, hraw, subtrees_eq]
    rfl
  · intro i raw hraw
    refine ⟨?_, fun hlegacy ↦ ⟨children_eq_listed htree hplants hraw hlegacy, ?_⟩⟩
    · obtain ⟨node, registry'', hnode, hlowers⟩ := hplants.exists_lowers htree hraw
      exact ⟨node, hnode, hlowers.madeOf⟩
    · intro members name id hitem hname hid
      have hname' : (members.get? "name").bind Json.string? = some name := by
        rw [hname]
        rfl
      constructor
      · intro hbodied
        obtain ⟨inner, hinner⟩ := Option.isSome_iff_exists.mp ((isSome_ofMembers?_iff hname').mpr hbodied)
        obtain ⟨p, hparent, hp⟩ := exists_child_of_listed htree hplants hformed hraw hlegacy hitem hinner
        have hmembers := members_of_ofMembers? hinner
        refine ⟨p, hparent, fun q ↦ ⟨?_, ?_⟩⟩
        · rintro ⟨other, hq, hother⟩
          have hid' (raw : RawNode) (hraw : raw.members = members) : raw.id? = some id := by
            rw [RawNode.id?, hraw, hid]
          exact eq_of_rawNodes htree hplants hformed.nodup_ids hp hq (hid' _ hmembers) (hid' _ hother)
        · rintro rfl
          exact ⟨inner, hp, hmembers⟩
      · rintro hnot q ⟨other, hq, rfl⟩
        apply hnot
        rw [← isSome_ofMembers?_iff hname', ofMembers?_of_rawNodes htree hq]
        rfl

end Built

/-- A statement with a name, an id and a range, and nothing else. -/
def bareBreak : Json.Members := [("id", .int 2), ("name", .str "Break"), ("src", .str "1:2:0")]

/-- The same with an empty list of children. -/
def listedBreak : RawNode :=
  ⟨"Break", [("children", .arr []), ("id", .int 3), ("name", .str "Break"), ("src", .str "4:2:0")], true, none⟩

def breakingUnit : RawNode where
  tag := "SourceUnit"
  members := [("attributes", .obj [("absolutePath", .str "A.sol")]),
    ("children", .arr [.obj bareBreak, .obj listedBreak.members]), ("id", .int 1), ("name", .str "SourceUnit"),
    ("src", .str "0:9:0")]
  legacy := true
  attributes := some [("absolutePath", .str "A.sol")]

def breakingSource : SourceTree := ⟨0, ⟨"/p/A.sol"⟩, .obj breakingUnit.members⟩

/-- Nothing is made of the first statement; the second is the only child. -/
theorem breakingSource_drops_bareBreak : ∃ arena registry', buildFile breakingSource {} = (.ok arena, registry') ∧
    arena.size = 2 ∧ .obj bareBreak ∈ breakingUnit.listed ∧ (∀ q, ¬ StandsFor breakingSource q bareBreak) ∧
    ∃ p, arena.parent? p = some 0 ∧ ∀ q, StandsFor breakingSource q listedBreak.members ↔ q = p := by
  have htree : (RawTree.ofJson? breakingSource.ast).map (fun tree ↦ (tree.raw.tag, tree.preorder.map (·.raw))) =
      some ("SourceUnit", [breakingUnit, listedBreak]) := by
    with_unfolding_all rfl
  have hraws : rawNodes breakingSource = [breakingUnit, listedBreak] := by
    with_unfolding_all rfl
  have hnodes : (lowerAll? 0 [breakingUnit, listedBreak]).map (·.map Node.id) = some [1, 3] := by rfl
  obtain ⟨arena, registry', h⟩ := exists_buildFile_of_ids htree hnodes (by decide)
  obtain ⟨hsize, -, hall⟩ := legacy_children_are_bodied_items h
  rw [hraws] at hsize
  have hitems := ((hall 0 breakingUnit (by rw [hraws]; rfl)).2 rfl).2
  have hbare : .obj bareBreak ∈ breakingUnit.listed := List.mem_cons_self
  refine ⟨arena, registry', h, hsize.symm, hbare, ?_, ?_⟩
  · refine (hitems bareBreak "Break" 2 hbare rfl rfl).2 ?_
    rintro (hbody | hbody | hbody) <;> cases hbody
  · exact (hitems listedBreak.members "Break" 3 (List.mem_cons_of_mem _ List.mem_cons_self) rfl rfl).1 (.inr (.inr rfl))

end SolAudit.Build
