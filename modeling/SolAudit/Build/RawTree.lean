import SolAudit.Build.RawNode

/-!
# Raw trees

The nodes of a JSON document as a tree. In the flattened encoding the children of a node are the outermost
nodes inside its members: slot by slot for a known type and then, in source order, those that stand in no
slot; all in source order for an unknown type. In the legacy encoding they are the items of its list.
-/

namespace SolAudit.Build

open Ast

inductive RawTree where
  | node (raw : RawNode) (slot : Option String) (children : List RawTree)

namespace RawTree

def raw : RawTree → RawNode
  | .node raw _ _ => raw

/-- The same tree, standing in a slot. -/
def within (slot : String) : RawTree → RawTree
  | .node raw _ children => .node raw (some slot) children

/-- In source order; trees at one offset stay in place. -/
def sortByOffset (trees : List RawTree) : List RawTree :=
  trees.mergeSort fun a b ↦ a.raw.offset ≤ b.raw.offset

/-- What a value holds: the outermost nodes inside it, and the nodes among its items. -/
structure Growth where
  found : List RawTree
  items : List RawTree

abbrev Growths := List (String × Growth)

namespace Growths

def get? (growths : Growths) (key : String) : Option Growth := growths.lookup key

def found (growths : Growths) (key : String) : List RawTree :=
  match growths.get? key with
  | some growth => growth.found
  | none => []

end Growths

/-- The children in a slot. -/
def inSlot (growths : Growths) (slot : Slot) : List RawTree :=
  let found := growths.found slot.name
  let found := if slot.arity == .nested then sortByOffset found else found
  found.map (within slot.name)

/-- The nodes in members that a test picks, in source order. -/
def outside (growths : Growths) (pick : String → Bool) : List RawTree :=
  sortByOffset ((growths.filter fun (key, _) ↦ pick key).flatMap fun (_, growth) ↦ growth.found)

/-- The children of a node, from what its members hold. -/
def childrenOf (raw : RawNode) (growths : Growths) : List RawTree :=
  if raw.legacy then
    match growths.get? "children" with
    | some growth => growth.items
    | none => []
  else
    match Schema.find? raw.tag with
    | none => outside growths fun key ↦ key != "nodeType"
    | some schema =>
      schema.slots.flatMap (inSlot growths) ++
        outside growths fun key ↦ key != "nodeType" && !schema.hasSlot key

mutual

def grow : Json → Growth
  | .obj members =>
    let growths := growMembers members
    match RawNode.ofMembers? members with
    | some raw => ⟨[.node raw none (childrenOf raw growths)], []⟩
    | none => ⟨growths.flatMap fun (_, growth) ↦ growth.found, []⟩
  | .arr items => growItems items
  | _ => ⟨[], []⟩

def growItems : List Json → Growth
  | [] => ⟨[], []⟩
  | item :: rest =>
    let head := grow item
    let tail := growItems rest
    let own := if (RawNode.ofJson? item).isSome then head.found else []
    ⟨head.found ++ tail.found, own ++ tail.items⟩

def growMembers : List (String × Json) → List (String × Growth)
  | [] => []
  | (key, value) :: rest => (key, grow value) :: growMembers rest

end

/-- The tree of a value that is a node. -/
def ofJson? (json : Json) : Option RawTree :=
  if (RawNode.ofJson? json).isSome then (grow json).found.head? else none

/-- A node on the way through a tree in pre-order, with the position of its parent. -/
structure Visit where
  raw : RawNode
  parent : Option Nat
  slot : Option String

mutual

/-- The nodes of a tree in pre-order, where the root has the position `next`. -/
def visits (parent : Option Nat) (next : Nat) : RawTree → List Visit
  | .node raw slot children => ⟨raw, parent, slot⟩ :: visitsBelow next (next + 1) children

def visitsBelow (parent : Nat) (next : Nat) : List RawTree → List Visit
  | [] => []
  | tree :: rest =>
    let first := visits (some parent) next tree
    first ++ visitsBelow parent (next + first.length) rest

end

/-- All nodes in pre-order. -/
def preorder (tree : RawTree) : List Visit := tree.visits none 0

end RawTree

end SolAudit.Build
