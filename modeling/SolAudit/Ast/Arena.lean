import SolAudit.Ast.Schema
import SolAudit.Path
import SolAudit.Source.Range

/-!
# Arenas

The syntax tree of one file as a list of nodes. A node is pushed after its parent; when nodes are pushed in
pre-order, the strict descendants of a node are the nodes after it up to the end of its subtree, which
`Arena.finish` computes from the parents.
-/

namespace SolAudit.Ast

/-- What a node is: its type tag and the values of its fields. -/
structure Kind where
  tag : String
  fields : List (Field × FieldValue)
  deriving DecidableEq, Repr

namespace Kind

/-- The only field of a node of an unknown type. -/
def tagField : Field := { key := "rawType", reading := .tag, asked := false }

def unknown (tag : String) : Kind := ⟨tag, [(tagField, .text tag)]⟩

/-- The value of a field that templates may ask for, or `none` if the type has no such field. -/
def field? (kind : Kind) (key : String) : Option Attr :=
  (kind.fields.find? fun (field, _) ↦ field.asked && field.key == key).map (·.2.attr)

/-- The text that names the node in drawings. -/
def label? (kind : Kind) : Option String :=
  match kind.fields.find? (·.1.labels) with
  | some (_, value) =>
    match value.attr with
    | .text s => some s
    | _ => none
  | none => none

end Kind

/-- A link to a child, with the slot in which the child stands. -/
structure Edge where
  slot : Option String
  node : Nat
  deriving DecidableEq, Repr

structure Node where
  id : Int
  src : String
  kind : Kind
  typeString : Option String
  children : Array Edge := #[]
  deriving DecidableEq, Repr

/-- The offset that orders nodes in source order. -/
def Node.offset (node : Node) : Nat := Source.Range.offsetOf node.src

structure Arena where
  fileIndex : Nat
  path : Path
  nodes : Array Node := #[]
  parents : Array (Option Nat) := #[]
  /-- One past the last node of each subtree, as far as computed. -/
  ends : Array Nat := #[]

namespace Arena

def size (arena : Arena) : Nat := arena.nodes.size

def addEdge (nodes : Array Node) (parent : Option Nat) (edge : Edge) : Array Node :=
  match parent with
  | some p => nodes.modify p fun node ↦ { node with children := node.children.push edge }
  | none => nodes

/-- Appends a node below a parent. Its position is the size before. -/
def push (arena : Arena) (parent : Option Nat) (slot : Option String) (node : Node) : Arena :=
  let position := arena.nodes.size
  { arena with
    nodes := addEdge (arena.nodes.push node) parent ⟨slot, position⟩
    parents := arena.parents.push parent
    ends := arena.ends.push (position + 1) }

/-- Moves an end forward. -/
def raiseEnd (ends : Array Nat) (position stop : Nat) : Array Nat :=
  ends.modify position fun e ↦ max e stop

/-- Takes the nodes before a position from the last to the first, and moves the end of each node's parent
to the node's own end if that is later. -/
def endsBefore (parents : Array (Option Nat)) : Nat → Array Nat → Array Nat
  | 0, ends => ends
  | n + 1, ends =>
    match parents[n]? with
    | some (some p) => endsBefore parents n (raiseEnd ends p (ends.getD n 0))
    | _ => endsBefore parents n ends

/-- Computes the ends of all subtrees. -/
def finish (arena : Arena) : Arena :=
  { arena with ends := endsBefore arena.parents arena.nodes.size arena.ends }

def root? (arena : Arena) : Option Nat := if arena.nodes.isEmpty then none else some 0

def node? (arena : Arena) (position : Nat) : Option Node := arena.nodes[position]?

/-- The position of the node with an id; of several nodes with one id the last counts. -/
def find? (arena : Arena) (id : Int) : Option Nat :=
  (List.range arena.nodes.size).reverse.find? fun position ↦
    (arena.node? position).any (·.id == id)

def parent? (arena : Arena) (position : Nat) : Option Nat := arena.parents[position]?.join

def children (arena : Arena) (position : Nat) : List Edge :=
  match arena.node? position with
  | some node => node.children.toList
  | none => []

/-- The first child in a slot. -/
def slotChild? (arena : Arena) (position : Nat) (slot : String) : Option Nat :=
  ((arena.children position).find? (·.slot == some slot)).map Edge.node

/-- The slot in which a node stands below its parent. -/
def edgeSlot? (arena : Arena) (position : Nat) : Option String := do
  let parent ← arena.parent? position
  let edge ← (arena.children parent).find? (·.node == position)
  edge.slot

/-- The strict ancestors, the nearest first. -/
def ancestors (arena : Arena) (position : Nat) : List Nat :=
  match arena.parent? position with
  | some p => if p < position then p :: ancestors arena p else []
  | none => []
termination_by position

/-- One past the last position of the subtree of a node. -/
def stop (arena : Arena) (position : Nat) : Nat := arena.ends.getD position 0

/-- The positions after a node up to the end of its subtree. -/
def descendants (arena : Arena) (position : Nat) : List Nat :=
  List.range' (position + 1) (arena.stop position - (position + 1))

end Arena

end SolAudit.Ast
