import SolAudit.Ast.Export
import SolAudit.Proofs.Ast.DotText
import SolAudit.Proofs.Ast.Tree

/-!
# Drawings

The drawing of an arena is a graph with a line for each node and each edge (`toList_toDot`). Quotes of a label are
written with a backslash before them, and backslashes as they are. So a label ends too early where a backslash stands
before one of its quotes, and too late where it ends in a backslash, unless these are even in number
(`closes_escaped_iff`). Labels without text are type tags as they are, and may have no quote at all.
-/

namespace SolAudit.Dot

/-- An even number of backslashes stands before each quote of a text, and at its end. -/
structure EvenSlashes (cs : List Char) : Prop where
  inside : ∀ front back, cs = front ++ '"' :: back → slashes front % 2 = 0
  after : slashes cs % 2 = 0

/-- A text that stands between quotes as it is. -/
structure Plain (cs : List Char) : Prop where
  not_mem : '"' ∉ cs
  after : slashes cs % 2 = 0

theorem plain_iff (cs : List Char) : Plain cs ↔ Closes cs ∧ unescape cs = cs := by
  constructor
  · intro h
    refine ⟨⟨?_, h.after⟩, unescape_of_not_mem h.not_mem⟩
    rintro front back rfl
    exact absurd (by simp) h.not_mem
  · rintro ⟨hcloses, hsame⟩
    exact ⟨hcloses.not_mem_of_unescape_eq hsame, hcloses.after⟩

theorem mem_bytes {c : Char} {text : String} (hc : c ∈ text.toList) {byte : UInt8}
    (hbyte : byte ∈ String.utf8EncodeChar c) : byte ∈ text.toByteArray.data.toList := by
  rw [← String.utf8Encode_toList, List.utf8Encode, List.data_toByteArray]
  exact List.mem_flatMap.mpr ⟨c, hc, hbyte⟩

/-- A text is plain if neither the byte of a quote nor that of a backslash is in it. -/
theorem plain_of_bytes {text : String}
    (h : text.toByteArray.data.toList.all (fun byte ↦ byte != 0x22 && byte != 0x5c) = true) : Plain text.toList := by
  have hbytes {c : Char} (hc : c ∈ text.toList) {byte : UInt8} (hbyte : byte ∈ String.utf8EncodeChar c) :
      byte ≠ 0x22 ∧ byte ≠ 0x5c := by
    simpa using List.all_eq_true.mp h byte (mem_bytes hc hbyte)
  refine ⟨fun hmem ↦ (hbytes hmem (List.mem_singleton_self _)).1 rfl, ?_⟩
  rw [slashes_of_not_mem fun hmem ↦ (hbytes hmem (List.mem_singleton_self _)).2 rfl]

end SolAudit.Dot

namespace SolAudit.Ast

open Dot

/-- What the label of a node is to say. -/
def Kind.caption (kind : Kind) : String :=
  match kind.label? with
  | some label => kind.tag ++ ":" ++ label
  | none => kind.tag

/-- The label of a node can be read in the drawing. -/
def Kind.Legible (kind : Kind) : Prop :=
  match kind.label? with
  | some label => EvenSlashes label.toList
  | none => Plain kind.tag.toList

namespace Arena

variable {arena : Arena}

/-- The nodes of an arena, each with the edges to its children. -/
def statements (arena : Arena) : List Statement :=
  arena.nodes.toList.flatMap fun node ↦
    ⟨node.id, none, some node.kind.caption⟩ ::
      node.children.toList.map fun edge ↦ ⟨node.id, (arena.node? edge.node).map Node.id, edge.slot⟩

theorem head?_escaped_ne (cs : List Char) : (cs.flatMap escapeQuote).head? ≠ some '"' := by
  cases cs with
  | nil => simp
  | cons c rest =>
    rw [List.flatMap_cons, escapeQuote]
    split
    · simp
    · rename_i hc
      simpa using hc

theorem unescape_escaped (cs : List Char) : unescape (cs.flatMap escapeQuote) = cs := by
  induction cs with
  | nil => rfl
  | cons c rest ih =>
    rw [List.flatMap_cons, escapeQuote]
    split
    · rename_i hc
      rw [beq_iff_eq.mp hc, List.cons_append, List.singleton_append, unescape, ih]
    · rename_i hc
      have hmem : '"' ∉ [c] := by
        rw [List.mem_singleton]
        rintro rfl
        exact hc rfl
      rw [unescape_append (head?_escaped_ne rest), unescape_of_not_mem hmem, ih, List.singleton_append]

theorem count_escaped (cs : List Char) : (cs.flatMap escapeQuote).count '"' = cs.count '"' := by
  rw [← count_unescape, unescape_escaped]

theorem slashes_escaped (cs : List Char) : slashes (cs.flatMap escapeQuote) = slashes cs := by
  induction cs using List.reverseRecOn with
  | nil => rfl
  | append_singleton cs c ih =>
    rw [List.flatMap_append, List.flatMap_singleton, escapeQuote, slashes_concat]
    split
    · rename_i hc
      rw [beq_iff_eq.mp hc, ← List.singleton_append, ← List.append_assoc, slashes_concat]
      rfl
    · rw [slashes_concat, ih]

/-- Where an escaped text has a quote, the text has one. -/
theorem exists_of_escaped_eq (cs : List Char) : ∀ {front back : List Char},
    cs.flatMap escapeQuote = front ++ '"' :: back →
      ∃ before after, cs = before ++ '"' :: after ∧ front = before.flatMap escapeQuote ++ ['\\'] := by
  induction cs with
  | nil =>
    intro front back h
    simp at h
  | cons c rest ih =>
    intro front back h
    rw [List.flatMap_cons] at h
    by_cases hc : c = '"'
    · have hescape : escapeQuote c = ['\\', '"'] := by rw [hc]; rfl
      rw [hescape, List.cons_append, List.singleton_append] at h
      rcases front with _ | ⟨d, _ | ⟨e, front⟩⟩
      · cases h
      · cases h
        exact ⟨[], rest, by rw [hc]; rfl, rfl⟩
      · simp only [List.cons_append, List.cons.injEq] at h
        obtain ⟨rfl, rfl, h⟩ := h
        obtain ⟨before, after, hrest, hfront⟩ := ih h
        refine ⟨c :: before, after, by rw [hrest]; rfl, ?_⟩
        rw [List.flatMap_cons, hescape, hfront]
        rfl
    · have hescape : escapeQuote c = [c] := by simp [escapeQuote, hc]
      rw [hescape, List.singleton_append] at h
      cases front with
      | nil => exact absurd (List.cons.inj h).1 hc
      | cons d front =>
        rw [List.cons_append, List.cons.injEq] at h
        obtain ⟨before, after, hrest, hfront⟩ := ih h.2
        refine ⟨c :: before, after, by rw [hrest]; rfl, ?_⟩
        rw [List.flatMap_cons, hescape, hfront, h.1]
        rfl

/-- A text after another that has no quote ends at the same quotes. -/
theorem exists_of_append_eq {front cs before after : List Char} (hfront : '"' ∉ front)
    (h : front ++ cs = before ++ '"' :: after) : ∃ later, before = front ++ later ∧ cs = later ++ '"' :: after := by
  rcases List.append_eq_append_iff.mp h with ⟨later, hbefore, hcs⟩ | ⟨later, hfront', hafter⟩
  · exact ⟨later, hbefore, hcs⟩
  · cases later with
    | nil => exact ⟨[], by simpa using hfront'.symm, by simpa using hafter.symm⟩
    | cons d later =>
      cases hafter
      exact absurd (by simp [hfront']) hfront

/-- After a type tag without quotes, an escaped text ends at the quote written after it if its backslashes are even. -/
theorem closes_escaped_iff {front : List Char} (hfront : '"' ∉ front) (cs : List Char) :
    Closes (front ++ ':' :: cs.flatMap escapeQuote) ↔ EvenSlashes cs := by
  have hcolon (later : List Char) : slashes (front ++ ':' :: later) = slashes later :=
    slashes_append_cons (by decide) front later
  have hquote (before : List Char) :
      slashes (front ++ ':' :: (before.flatMap escapeQuote ++ ['\\'])) = slashes before + 1 := by
    rw [hcolon, slashes_concat, if_pos rfl, slashes_escaped]
  constructor
  · intro h
    constructor
    · rintro before after rfl
      have hodd := h.inside (front ++ ':' :: (before.flatMap escapeQuote ++ ['\\'])) (after.flatMap escapeQuote)
        (by simp [escapeQuote])
      rw [hquote] at hodd
      omega
    · rw [← slashes_escaped, ← hcolon]
      exact h.after
  · intro h
    constructor
    · intro before after hsplit
      rw [← List.singleton_append, ← List.append_assoc] at hsplit
      obtain ⟨later, rfl, hlater⟩ := exists_of_append_eq (by simp [hfront]) hsplit
      obtain ⟨before, after, rfl, rfl⟩ := exists_of_escaped_eq cs hlater
      have heven := h.inside before after rfl
      rw [List.append_assoc, List.singleton_append, hquote]
      omega
    · rw [hcolon, slashes_escaped]
      exact h.after

/-! ## Lines -/

def nodeLine (node : Node) : Line := ⟨node.id, none, some (node.kind.caption, (dotLabel node.kind).toList)⟩

def edgeLine (arena : Arena) (node : Node) (edge : Edge) : Line :=
  ⟨node.id, (arena.node? edge.node).map Node.id, edge.slot.map fun slot ↦ (slot, slot.toList)⟩

def lines (arena : Arena) : List Line :=
  arena.nodes.toList.flatMap fun node ↦ nodeLine node :: node.children.toList.map (arena.edgeLine node)

theorem toList_dotLabel_of_some {kind : Kind} {label : String} (h : kind.label? = some label) :
    (dotLabel kind).toList = kind.tag.toList ++ ':' :: label.toList.flatMap escapeQuote := by
  rw [dotLabel, h]
  simp [escapeLabel]

theorem dotLabel_of_none {kind : Kind} (h : kind.label? = none) : dotLabel kind = kind.tag := by
  rw [dotLabel, h]

theorem keepsQuotes_nodeLine (node : Node) : (nodeLine node).KeepsQuotes := by
  intro label written hlabel
  cases hlabel
  cases htext : node.kind.label? with
  | none => rw [dotLabel_of_none htext, Kind.caption, htext]
  | some text =>
    rw [toList_dotLabel_of_some htext, Kind.caption, htext]
    simp [List.count_append, count_escaped]

/-- The line of a node is readable if its label is legible, as long as a type tag before a text has no quotes. -/
theorem readable_nodeLine_iff {node : Node}
    (htag : ∀ label, node.kind.label? = some label → '"' ∉ node.kind.tag.toList) :
    (nodeLine node).Readable ↔ node.kind.Legible := by
  have hreadable : (nodeLine node).Readable ↔
      Closes (dotLabel node.kind).toList ∧ unescape (dotLabel node.kind).toList = node.kind.caption.toList := by
    constructor
    · intro h
      exact h _ _ rfl
    · intro h label written hlabel
      cases hlabel
      exact h
  rw [hreadable]
  cases htext : node.kind.label? with
  | none =>
    simp only [Kind.Legible, Kind.caption, htext, dotLabel_of_none htext]
    exact (plain_iff _).symm
  | some text =>
    have hsays : unescape (node.kind.tag.toList ++ ':' :: text.toList.flatMap escapeQuote) =
        node.kind.tag.toList ++ ':' :: text.toList := by
      rw [unescape_append (by simp), unescape_of_not_mem (htag text htext), unescape_cons (by decide), unescape_escaped]
    simp only [Kind.Legible, Kind.caption, htext, toList_dotLabel_of_some htext, hsays,
      closes_escaped_iff (htag text htext)]
    simp

theorem keepsQuotes_edgeLine (arena : Arena) (node : Node) (edge : Edge) : (arena.edgeLine node edge).KeepsQuotes := by
  intro label written hlabel
  obtain ⟨slot, -, hslot⟩ := Option.map_eq_some_iff.mp hlabel
  cases hslot
  rfl

theorem readable_edgeLine {node : Node} {edge : Edge} (h : ∀ slot, edge.slot = some slot → Plain slot.toList) :
    (arena.edgeLine node edge).Readable := by
  intro label written hlabel
  obtain ⟨slot, hslot, hsame⟩ := Option.map_eq_some_iff.mp hlabel
  obtain ⟨rfl, rfl⟩ := Prod.mk.inj hsame
  exact (plain_iff _).mp (h slot hslot)

theorem map_statement_lines (arena : Arena) : arena.lines.map Line.statement = arena.statements := by
  rw [lines, List.map_flatMap, statements]
  apply List.flatMap_congr
  intro node _
  rw [List.map_cons, List.map_map]
  congr 1
  apply List.map_congr_left
  rintro ⟨slot, child⟩ -
  cases slot <;> rfl

theorem toList_dotEdge {node child : Node} {edge : Edge} (h : arena.node? edge.node = some child) :
    (arena.dotEdge node edge).toList = (arena.edgeLine node edge).body ++ ['\n'] := by
  obtain ⟨slot, position⟩ := edge
  rw [dotEdge, edgeLine, h]
  cases slot <;> simp [Line.body, Line.targetText, Line.labelText]

theorem toList_dotNode {node : Node} (h : ∀ edge ∈ node.children.toList, (arena.node? edge.node).isSome = true) :
    (arena.dotNode node).toList =
      (nodeLine node :: node.children.toList.map (arena.edgeLine node)).flatMap fun line ↦ line.body ++ ['\n'] := by
  have hedges : node.children.toList.flatMap (fun edge ↦ (arena.dotEdge node edge).toList) =
      (node.children.toList.map (arena.edgeLine node)).flatMap fun line ↦ line.body ++ ['\n'] := by
    rw [List.flatMap_map]
    apply List.flatMap_congr
    intro edge hedge
    obtain ⟨child, hchild⟩ := Option.isSome_iff_exists.mp (h edge hedge)
    exact toList_dotEdge hchild
  rw [dotNode, String.toList_append, String.toList_join, List.flatMap_map, hedges, List.flatMap_cons]
  congr 1
  simp [Line.body, Line.targetText, Line.labelText, nodeLine]

/-- Line breaks after the lines are line breaks before them. -/
theorem flatMap_text (lines : List Line) :
    '\n' :: lines.flatMap (fun line ↦ line.body ++ ['\n']) = lines.flatMap Line.text ++ ['\n'] := by
  induction lines with
  | nil => rfl
  | cons line rest ih => simp [Line.text, ← ih]

/-- The drawing has a line for each node, followed by the lines of its edges. -/
theorem WellFormed.toList_toDot (h : arena.WellFormed) :
    arena.toDot.toList = "digraph AST \x7b".toList ++ (arena.lines.flatMap Line.text ++ ['\n', '\x7d']) := by
  have hnodes : arena.nodes.toList.flatMap (fun node ↦ (arena.dotNode node).toList) =
      arena.lines.flatMap fun line ↦ line.body ++ ['\n'] := by
    rw [lines, List.flatMap_assoc]
    apply List.flatMap_congr
    intro node hnode
    apply toList_dotNode
    intro edge hedge
    obtain ⟨position, hposition⟩ := List.mem_iff_getElem?.mp hnode
    rw [Array.getElem?_toList] at hposition
    have hchildren : arena.children position = node.children.toList := by
      rw [children, node?, hposition]
    have hparent := (h.edge_iff position edge.node).mp (List.mem_map_of_mem (hchildren ▸ hedge))
    obtain ⟨child, hchild⟩ := exists_node? (h.lt_size hparent)
    exact Option.isSome_of_eq_some hchild
  have hopen : "digraph AST \x7b\n".toList = "digraph AST \x7b".toList ++ ['\n'] := rfl
  have hclose : "\x7d".toList = ['\x7d'] := rfl
  have hdot : arena.toDot =
      "digraph AST \x7b\n" ++ String.join (arena.nodes.toList.map (dotNode arena)) ++ "\x7d" := rfl
  rw [hdot, String.toList_append, String.toList_append, String.toList_join, List.flatMap_map, hnodes, hopen, hclose,
    List.append_assoc, List.append_assoc, List.singleton_append, ← List.cons_append, flatMap_text, List.append_assoc]
  rfl

/-- Where slots are plain, and type tags before a text have no quotes, the drawing is read back as the nodes and edges
of the arena exactly if the labels of all nodes are legible. -/
theorem WellFormed.graph?_toDot_eq_some_iff (h : arena.WellFormed)
    (htags : ∀ i node label, arena.node? i = some node → node.kind.label? = some label → '"' ∉ node.kind.tag.toList)
    (hslots : ∀ i edge slot, edge ∈ arena.children i → edge.slot = some slot → Plain slot.toList) :
    graph? arena.toDot = some arena.statements ↔ ∀ i node, arena.node? i = some node → node.kind.Legible := by
  have hquotes : ∀ line ∈ arena.lines, line.KeepsQuotes := by
    intro line hline
    obtain ⟨node, -, hline⟩ := List.mem_flatMap.mp hline
    rcases List.mem_cons.mp hline with rfl | hline
    · exact keepsQuotes_nodeLine node
    · obtain ⟨edge, -, rfl⟩ := List.mem_map.mp hline
      exact arena.keepsQuotes_edgeLine node edge
  have hnode {i : Nat} {node : Node} (hnode : arena.node? i = some node) :
      (nodeLine node).Readable ↔ node.kind.Legible := readable_nodeLine_iff fun label ↦ htags i node label hnode
  rw [← map_statement_lines, graph?_eq_some_iff hquotes h.toList_toDot]
  constructor
  · intro hlines i node hi
    have hmem : node ∈ arena.nodes.toList := Array.mem_toList_iff.mpr (Array.mem_of_getElem? hi)
    exact (hnode hi).mp (hlines _ (List.mem_flatMap.mpr ⟨node, hmem, List.mem_cons_self⟩))
  · intro hlegible line hline
    obtain ⟨node, hmem, hline⟩ := List.mem_flatMap.mp hline
    obtain ⟨i, hi⟩ := List.mem_iff_getElem?.mp hmem
    rw [Array.getElem?_toList] at hi
    rcases List.mem_cons.mp hline with rfl | hline
    · exact (hnode hi).mpr (hlegible i node hi)
    · obtain ⟨edge, hedge, rfl⟩ := List.mem_map.mp hline
      apply readable_edgeLine
      intro slot hslot
      refine hslots i edge slot ?_ hslot
      rw [children, node?, hi]
      exact hedge

end Arena

end SolAudit.Ast
