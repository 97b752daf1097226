import SolAudit.Proofs.Ast.Drawing
import SolAudit.Proofs.Build.Kinds

/-!
# Drawings of built arenas

The names of known types and of slots can stand between quotes as they are, and only nodes of known types have a text
in their labels. So the drawing of a built arena is read back exactly if the texts of its labels have their backslashes
in pairs where it matters, and its unknown types have plain names (`drawing_reads_back_iff`).
-/

namespace SolAudit.Ast

open Dot

/-- The names of known types and of their slots are plain. -/
theorem plain_of_find? {tag : String} {schema : Schema} (h : Schema.find? tag = some schema) :
    Plain tag.toList ∧ ∀ name ∈ schema.slots.map Slot.name, Plain name.toList := by
  -- Bytes and not characters, which are slow to decode for each name of the table.
  have htable : ∀ entry ∈ Schema.table, ∀ name ∈ entry.1 :: entry.2.slots.map Slot.name,
      name.toByteArray.data.toList.all (fun byte ↦ byte != 0x22 && byte != 0x5c) = true := by
    decide +kernel
  have hnames := List.forall_mem_cons.mp (htable _ (Build.mem_table_of_find? h))
  exact ⟨plain_of_bytes hnames.1, fun name hname ↦ plain_of_bytes (hnames.2 name hname)⟩

/-- A node of an unknown type has no text in its label. -/
theorem Kind.Regular.exists_schema {kind : Kind} (h : kind.Regular) {label : String}
    (hlabel : kind.label? = some label) : ∃ schema, Schema.find? kind.tag = some schema := by
  rw [Kind.Regular] at h
  split at h
  · rename_i schema hschema
    exact ⟨schema, hschema⟩
  · rw [h] at hlabel
    cases hlabel

end SolAudit.Ast

namespace SolAudit.Build

open Ast Dot

/-- Whatever the encoding of a source and the ids in use, in the drawing of a file that is built: a label with a text
ends at the quote written after it exactly if an even number of backslashes stands before each quote of the text and at
its end; a label without text exactly if an odd number stands before each quote of the type tag, and an even number at
its end, as for every known type; the slot on an edge always ends at the quote written after it. So the statements that
are read back are the nodes of the arena with their labels, and its edges with their slots, exactly if these numbers
are even for all texts, and unknown types have no quotes in their names and an even number of backslashes at the end. -/
theorem drawing_reads_back_iff {source : SourceTree} {registry registry' : Registry} {arena : Arena}
    (h : buildFile source registry = (.ok arena, registry')) :
    (∀ i node label, arena.node? i = some node → node.kind.label? = some label → ∀ rest,
      closing? ((Arena.dotLabel node.kind).toList ++ '"' :: rest) = some (Arena.dotLabel node.kind).length ↔
        EvenSlashes label.toList) ∧
      (∀ i node, arena.node? i = some node → node.kind.label? = none → ∀ rest,
        closing? ((Arena.dotLabel node.kind).toList ++ '"' :: rest) = some (Arena.dotLabel node.kind).length ↔
          Closes node.kind.tag.toList) ∧
      (∀ i node, arena.node? i = some node → (Schema.find? node.kind.tag).isSome = true →
        Plain node.kind.tag.toList) ∧
      (∀ i edge slot, edge ∈ arena.children i → edge.slot = some slot → ∀ rest,
        closing? (slot.toList ++ '"' :: rest) = some slot.length) ∧
      (graph? arena.toDot = some arena.statements ↔
        ∀ i node, arena.node? i = some node → node.kind.Legible) := by
  have htags : ∀ i node label, arena.node? i = some node → node.kind.label? = some label →
      '"' ∉ node.kind.tag.toList := by
    intro i node label hnode hlabel
    obtain ⟨schema, hschema⟩ := (regular_of_buildFile h hnode).exists_schema hlabel
    exact (plain_of_find? hschema).1.not_mem
  have hslots : ∀ i edge slot, edge ∈ arena.children i → edge.slot = some slot → Plain slot.toList := by
    intro i edge slot hedge hslot
    obtain ⟨node, hnode⟩ : ∃ node, arena.node? i = some node := by
      cases hnode : arena.node? i with
      | none => simp [Arena.children, hnode] at hedge
      | some node => exact ⟨node, rfl⟩
    obtain ⟨schema, hschema, hname⟩ := slot_of_buildFile h hnode hedge hslot
    exact (plain_of_find? hschema).2 slot hname
  refine ⟨?_, ?_, ?_, ?_, (wellFormed_of_buildFile h).graph?_toDot_eq_some_iff htags hslots⟩
  · intro i node label hnode hlabel rest
    rw [← String.length_toList, closing?_append_eq_some_iff, Arena.toList_dotLabel_of_some hlabel]
    exact Arena.closes_escaped_iff (htags i node label hnode hlabel) label.toList
  · intro i node hnode hlabel rest
    rw [← String.length_toList, closing?_append_eq_some_iff, Arena.dotLabel_of_none hlabel]
  · intro i node hnode hknown
    obtain ⟨schema, hschema⟩ := Option.isSome_iff_exists.mp hknown
    exact (plain_of_find? hschema).1
  · intro i edge slot hedge hslot rest
    rw [← String.length_toList, closing?_append_eq_some_iff]
    exact ((plain_iff _).mp (hslots i edge slot hedge hslot)).1

/-- A literal that ends in a backslash. -/
def slashLiteral : RawNode :=
  ⟨"Literal", [("id", .int 2), ("kind", .str "string"), ("nodeType", .str "Literal"), ("src", .str "1:4:0"),
    ("value", .str "a\\")], false, none⟩

/-- A node of a type that is not known, with a quote in its name. -/
def quotedType : RawNode :=
  ⟨"A\"B", [("id", .int 3), ("nodeType", .str "A\"B"), ("src", .str "6:2:0")], false, none⟩

def quotesUnit : RawNode :=
  ⟨"SourceUnit", [("absolutePath", .str "A.sol"), ("id", .int 1), ("nodeType", .str "SourceUnit"),
    ("nodes", .arr [.obj slashLiteral.members, .obj quotedType.members]), ("src", .str "0:9:0")], false, none⟩

def quotesSource : SourceTree := ⟨0, ⟨"/p/A.sol"⟩, .obj quotesUnit.members⟩

theorem exists_buildFile_quotesSource : ∃ arena registry', buildFile quotesSource {} = (.ok arena, registry') ∧
    arena.nodes.toList.map (fun node ↦ (node.kind.tag, node.kind.label?)) =
      [("SourceUnit", none), ("Literal", some "a\\"), ("A\"B", none)] := by
  have htree : (RawTree.ofJson? quotesSource.ast).map (fun tree ↦ (tree.raw.tag, tree.preorder.map (·.raw))) =
      some ("SourceUnit", [quotesUnit, slashLiteral, quotedType]) := by
    with_unfolding_all rfl
  have hnodes : (lowerAll? 0 [quotesUnit, slashLiteral, quotedType]).map
      (·.map fun node ↦ (node.id, node.kind.tag, node.kind.label?)) =
        some [(1, "SourceUnit", none), (2, "Literal", some "a\\"), (3, "A\"B", none)] := by
    rfl
  obtain ⟨nodes, hlower, hnodes⟩ := Option.map_eq_some_iff.mp hnodes
  have hids : nodes.map Node.id = [1, 2, 3] := by
    have hmap := congrArg (List.map Prod.fst) hnodes
    rwa [List.map_map] at hmap
  have hdistinct : (nodes.map Node.id).Nodup := by
    rw [hids]
    decide
  obtain ⟨arena, registry', hbuild, hbare⟩ := exists_buildFile_of_raws htree hlower hdistinct
  refine ⟨arena, registry', hbuild, ?_⟩
  have hmap := congrArg (List.map Prod.snd) hnodes
  rw [← hbare, List.map_map, List.map_map] at hmap
  exact hmap

theorem quotesSource_misread : ∃ arena registry' literal other,
    buildFile quotesSource {} = (.ok arena, registry') ∧
      arena.node? 1 = some literal ∧ Arena.dotLabel literal.kind = "Literal:a\\" ∧
      closing? "Literal:a\\\"];\n".toList ≠ some (Arena.dotLabel literal.kind).length ∧
      arena.node? 2 = some other ∧ Arena.dotLabel other.kind = "A\"B" ∧
      closing? "A\"B\"];\n".toList ≠ some (Arena.dotLabel other.kind).length ∧
      graph? arena.toDot ≠ some arena.statements := by
  obtain ⟨arena, registry', h, hkinds⟩ := exists_buildFile_quotesSource
  have hget (i : Nat) : (arena.node? i).map (fun node ↦ (node.kind.tag, node.kind.label?)) =
      [("SourceUnit", none), ("Literal", some "a\\"), ("A\"B", none)][i]? := by
    rw [← hkinds, List.getElem?_map, Array.getElem?_toList]
    rfl
  obtain ⟨literal, hliteral, hkind⟩ := Option.map_eq_some_iff.mp (hget 1)
  obtain ⟨other, hother, hkind'⟩ := Option.map_eq_some_iff.mp (hget 2)
  obtain ⟨htag, hlabel⟩ := Prod.mk.inj hkind
  obtain ⟨htag', hlabel'⟩ := Prod.mk.inj hkind'
  obtain ⟨htexts, htags, -, -, hread⟩ := drawing_reads_back_iff h
  have hliteralText : Arena.dotLabel literal.kind = "Literal:a\\" := by
    rw [Arena.dotLabel, hlabel, htag]
    rfl
  have hotherText : Arena.dotLabel other.kind = "A\"B" := by
    rw [Arena.dotLabel, hlabel', htag']
  have hslashes : ¬EvenSlashes "a\\".toList := fun heven ↦ absurd heven.after (by decide)
  have hquote : ¬Closes other.kind.tag.toList := by
    rw [htag']
    exact fun hcloses ↦ absurd (hcloses.inside ['A'] ['B'] rfl) (by decide)
  refine ⟨arena, registry', literal, other, h, hliteral, hliteralText, ?_, hother, hotherText, ?_, ?_⟩
  · have hiff := htexts 1 literal "a\\" hliteral hlabel [']', ';', '\n']
    rw [hliteralText] at hiff ⊢
    exact fun hclosing ↦ hslashes (hiff.mp hclosing)
  · have hiff := htags 2 other hother hlabel' [']', ';', '\n']
    rw [hotherText] at hiff ⊢
    exact fun hclosing ↦ hquote (hiff.mp hclosing)
  · intro hgraph
    have hlegible := hread.mp hgraph 1 literal hliteral
    rw [Kind.Legible, hlabel] at hlegible
    exact hslashes hlegible

end SolAudit.Build
