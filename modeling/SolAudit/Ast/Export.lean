import SolAudit.Ast.Arena
import SolAudit.Json.Printer

/-!
# Exported trees

A syntax tree as nested JSON objects and as a drawing in the DOT language.
-/

namespace SolAudit.Ast

/-- The name of a node type among those that are known. -/
def Kind.variant (kind : Kind) : String := if (Schema.find? kind.tag).isSome then kind.tag else "Unknown"

/-- The fields of a node under their exported names, after the name of its type. -/
def Kind.members (kind : Kind) : Json.Members :=
  ("nodeType", .str kind.variant) ::
    kind.fields.filterMap fun (field, value) ↦ field.exported.map fun name ↦ (name, value.toJson)

/-- What is exported of a node that is reached through a slot. The type tag takes the place of the type name. -/
def Node.members (node : Node) (slot : Option String) (children : List Json) : Json.Members :=
  node.kind.members ++ [("nodeType", .str node.kind.tag), ("id", .int node.id), ("src", .str node.src)] ++
    (node.typeString.map fun s ↦ ("typeString", Json.str s)).toList ++
    (slot.map fun s ↦ ("slot", Json.str s)).toList ++ [("children", .arr children)]

namespace Arena

/-- A node with everything below it, reached through a slot. -/
def nodeJson (arena : Arena) (position : Nat) (slot : Option String) : Json :=
  match h : arena.nodes[position]? with
  | none => .null
  | some node =>
    let children := node.children.toList.map fun edge ↦
      if position < edge.node then nodeJson arena edge.node edge.slot else .null
    Json.ofMembers (node.members slot children)
termination_by arena.nodes.size - position
decreasing_by
  have := (Array.getElem?_eq_some_iff.mp h).1
  omega

/-- The whole tree; an arena without nodes is `null`. -/
def toJson (arena : Arena) : Json :=
  match arena.root? with
  | some root => arena.nodeJson root none
  | none => .null

/-- Quotes of a label are written with a backslash before them. -/
def escapeQuote (c : Char) : List Char := if c == '"' then ['\\', '"'] else [c]

def escapeLabel (s : String) : String := String.ofList (s.toList.flatMap escapeQuote)

def dotLabel (kind : Kind) : String :=
  match kind.label? with
  | some label => kind.tag ++ ":" ++ escapeLabel label
  | none => kind.tag

def dotEdge (arena : Arena) (node : Node) (edge : Edge) : String :=
  let child := match arena.node? edge.node with
    | some child => toString child.id
    | none => ""
  let arrow := "    " ++ toString node.id ++ " -> " ++ child
  match edge.slot with
  | some slot => arrow ++ " [label=\"" ++ slot ++ "\"];\n"
  | none => arrow ++ ";\n"

def dotNode (arena : Arena) (node : Node) : String :=
  "    " ++ toString node.id ++ " [label=\"" ++ dotLabel node.kind ++ "\"];\n" ++
    String.join (node.children.toList.map (dotEdge arena node))

/-- The tree as a directed graph: a statement for each node, then one for each of its edges. -/
def toDot (arena : Arena) : String :=
  "digraph AST \x7b\n" ++ String.join (arena.nodes.toList.map (dotNode arena)) ++ "\x7d"

end Arena

end SolAudit.Ast
