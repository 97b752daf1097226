import SolAudit.Proofs.Ast.ExportedTree
import SolAudit.Proofs.Build.Kinds

/-!
# Exports of built arenas

No schema exports two fields under one name, or one under a general key. So each object in the export of a built arena
tells everything of its node, and the arena's edges, parents and slots can be read off the export
(`buildFile_exports_nodes_in_order`).
-/

namespace SolAudit.Ast

theorem Kind.names_eq (kind : Kind) : kind.names = (kind.fields.map Prod.fst).filterMap Field.exported := by
  rw [Kind.names, List.filterMap_map]
  rfl

theorem Kind.Regular.namesApart {kind : Kind} (h : kind.Regular) : kind.NamesApart := by
  have htable : ∀ entry ∈ Schema.table, (entry.2.fields.filterMap Field.exported).Nodup ∧
      ∀ name ∈ entry.2.fields.filterMap Field.exported, name ∉ generalKeys := by decide
  rw [Kind.Regular] at h
  split at h
  · rename_i schema hschema
    obtain ⟨hnodup, hapart⟩ := htable _ (Build.mem_table_of_find? hschema)
    rw [← h, ← kind.names_eq] at hnodup hapart
    exact ⟨hnodup, hapart⟩
  · have hnames : kind.names = ["rawType"] := by
      rw [h]
      rfl
    constructor
    · rw [hnames]
      exact List.nodup_singleton _
    · rw [hnames]
      decide

end SolAudit.Ast

namespace SolAudit.Build

open Ast

/-- Whatever the encoding of a source and the ids in use: edges lead forward and inside the arena, so the export of a
file that is built comes to an end, and the object of a node has those of its children. The objects of the export,
read in pre-order through the lists of children, are those of the nodes of the arena, position by position and each
once. The object at a position stands below that of the parent, and tells of the node with all its fields, none of
which goes by the name of another or by a general key; it tells of the slot of the edge that leads to the node, where
the edge has one. So all edges of the arena can be read off the export. -/
theorem buildFile_exports_nodes_in_order {source : SourceTree} {registry registry' : Registry} {arena : Arena}
    (h : buildFile source registry = (.ok arena, registry')) :
    (∀ p, ∀ edge ∈ arena.children p,
      p < edge.node ∧ edge.node < arena.size ∧ arena.edgeSlot? edge.node = edge.slot) ∧
      (∀ p node slot, arena.node? p = some node → arena.nodeJson p slot =
        Json.ofMembers (node.members slot
          ((arena.children p).map fun edge ↦ arena.nodeJson edge.node edge.slot))) ∧
      (entries arena.toJson).length = arena.size ∧
      ((entries arena.toJson).map fun entry ↦ entry.object.get? "id").Nodup ∧
      (∀ i node, arena.node? i = some node → node.kind.NamesApart ∧
        ∃ entry, (entries arena.toJson)[i]? = some entry ∧ entry.parent = arena.parent? i ∧
          Exports entry.object node (arena.edgeSlot? i)) ∧
      arena.edgeSlot? 0 = none ∧
      ∀ p, edgesIn (entries arena.toJson) p = arena.children p := by
  have hformed := wellFormed_of_buildFile h
  have hnames : ∀ i node, arena.node? i = some node → node.kind.NamesApart :=
    fun _ _ hnode ↦ (regular_of_buildFile h hnode).namesApart
  have hentries := hformed.entries_toJson hnames
  refine ⟨?_, ?_, ?_, ?_, ?_, hformed.edgeSlot?_zero, hformed.edgesIn_entries hnames⟩
  · intro p edge hedge
    have hparent := (hformed.edge_iff p edge.node).mp (List.mem_map_of_mem hedge)
    exact ⟨hformed.parent_lt edge.node p hparent, hformed.lt_size hparent, hformed.edgeSlot?_eq hedge⟩
  · intro p node slot hnode
    exact hformed.nodeJson_eq hnode slot
  · rw [hentries, List.length_map, List.length_range]
  · rw [hformed.ids_entries hnames]
    exact hformed.nodup_ids.map fun a b hab ↦ Json.int.inj (Option.some.inj hab)
  · intro i node hnode
    refine ⟨hnames i node hnode, arena.entry i, ?_, rfl, hformed.exports_nodeJson hnode (hnames i node hnode)⟩
    have hlt : i < arena.size := (Array.getElem?_eq_some_iff.mp hnode).1
    rw [hentries, List.getElem?_map, List.getElem?_range hlt, Option.map_some]

theorem assemblySource_exports_nodes_in_order : ∃ arena registry',
    buildFile assemblySource {} = (.ok arena, registry') ∧ 0 < arena.size ∧
      (entries arena.toJson).length = arena.size ∧
      ((entries arena.toJson).map fun entry ↦ entry.object.get? "id").Nodup ∧
      ∀ p, edgesIn (entries arena.toJson) p = arena.children p := by
  obtain ⟨arena, registry', h⟩ := exists_buildFile_assemblySource
  obtain ⟨-, -, hlength, hids, -, -, hedges⟩ := buildFile_exports_nodes_in_order h
  exact ⟨arena, registry', h, (wellFormed_of_buildFile h).nonempty, hlength, hids, hedges⟩

end SolAudit.Build
