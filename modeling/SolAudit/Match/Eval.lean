import SolAudit.Ast.Arena
import SolAudit.Template.Predicate

/-!
# Evaluating predicates

Whether a predicate holds at a node of a syntax tree. A predicate cannot be evaluated where the node has no such field,
where the field holds another type, or where slots are asked for and the children have none. Lists and related nodes are
tried in order, and the first error or deciding value ends the evaluation.
-/

namespace SolAudit.Match

open Ast Template

/-- The types of values, as errors name them. -/
inductive ValueType where
  | text
  | flag
  | int
  | nothing
  deriving DecidableEq, Repr

def ValueType.name : ValueType → String
  | .text => "string"
  | .flag => "bool"
  | .int => "integer"
  | .nothing => "nothing"

def attrNoun : Attr → ValueType
  | .text _ => .text
  | .flag _ => .flag
  | .int _ => .int
  | .absent => .nothing

def scalarNoun : Scalar → ValueType
  | .str _ => .text
  | .bool _ => .flag
  | .int _ => .int

inductive MatchError where
  | unknownField (nodeType field : String)
  | typeMismatch (nodeType field : String) (found expected : ValueType)
  | unnamedSlots (nodeType slot : String)
  deriving DecidableEq, Repr

def MatchError.message : MatchError → String
  | .unknownField nodeType field => s!"{nodeType} has no field '{field}'"
  | .typeMismatch nodeType field found expected =>
    s!"field '{field}' of {nodeType} holds {found.name}, cannot compare with {expected.name}"
  | .unnamedSlots nodeType slot => s!"{nodeType} children carry no slot names, cannot test slot '{slot}'"

/-- The value of a field; the type and the id of a node are fields too. -/
def fieldValue (node : Node) (field : String) : Except MatchError Attr :=
  match field with
  | "nodeType" => .ok (.text node.kind.tag)
  | "id" => .ok (.int node.id)
  | _ =>
    match node.kind.field? field with
    | some value => .ok value
    | none => .error (.unknownField node.kind.tag field)

/-- Equality of values of one type. What is absent equals nothing. -/
def compare (value : Attr) (expected : Scalar) : Option Bool :=
  match value, expected with
  | .absent, _ => some false
  | .text a, .str b => some (a == b)
  | .flag a, .bool b => some (a == b)
  | .int a, .int b => some (a == b)
  | _, _ => none

/-- Equality with one of several values; an error only if none of them has the type of the value. -/
def compareAny (value : Attr) (set : List Scalar) : Option Bool :=
  let results := set.map (compare value)
  if results.contains (some true) then some true
  else if set.isEmpty || results.contains (some false) then some false
  else none

def testField (value : Attr) (test : FieldTest) : Except ValueType Bool :=
  match test with
  | .given expected => .ok ((value != .absent) == expected)
  | .equals expected =>
    match compare value expected with
    | some b => .ok b
    | none => .error (scalarNoun expected)
  | .oneOf set =>
    match compareAny value set with
    | some b => .ok b
    | none => .error ((set.head?.map scalarNoun).getD .nothing)
  | .found test =>
    match value with
    | .text s => .ok (test.regex.isFoundIn s)
    | .absent => .ok false
    | _ => .error .text

def evalField (node : Node) (field : String) (test : FieldTest) : Except MatchError Bool := do
  let value ← fieldValue node field
  (testField value test).mapError fun expected ↦
    .typeMismatch node.kind.tag field (attrNoun value) expected

/-- Whether a child stands in a slot, where every child has one. -/
def evalSlot (arena : Arena) (position : Nat) (node : Node) (slot : String) (present : Bool) :
    Except MatchError Bool :=
  if node.children.any fun edge ↦ edge.slot.isNone then .error (.unnamedSlots node.kind.tag slot)
  else .ok ((arena.slotChild? position slot).isSome == present)

/-- The first of some candidates that decides: an error, or one for which the test holds. -/
def firstHolds {α : Type} (test : α → Except MatchError Bool) : List α → Except MatchError Bool
  | [] => .ok false
  | a :: rest =>
    match test a with
    | .ok false => firstHolds test rest
    | decided => decided

/-- A node related to another, with the slot through which it is reached. -/
structure Related where
  position : Nat
  slot : Option String

def relatedChildren (arena : Arena) (position : Nat) : List Related :=
  (arena.children position).map fun edge ↦ ⟨edge.node, edge.slot⟩

def relatedDescendants (arena : Arena) (position : Nat) : List Related :=
  (arena.descendants position).map fun d ↦ ⟨d, arena.edgeSlot? d⟩

/-- The ancestors with the slots that lead back to the start. -/
def relatedAncestors (arena : Arena) (position : Nat) : List Related :=
  let ancestors := arena.ancestors position
  (ancestors.zip (position :: ancestors)).map fun (a, below) ↦ ⟨a, arena.edgeSlot? below⟩

def slotFits (wanted actual : Option String) : Bool := wanted.isNone || wanted == actual

mutual

/-- Whether a predicate holds at a node. -/
def eval (arena : Arena) : Predicate → Nat → Except MatchError Bool
  | .field name test, position =>
    match arena.node? position with
    | some node => evalField node name test
    | none => .ok false
  | .slot name present, position =>
    match arena.node? position with
    | some node => evalSlot arena position node name present
    | none => .ok false
  | .child pattern, position => firstHolds (evalPattern arena pattern) (relatedChildren arena position)
  | .descendant pattern, position => firstHolds (evalPattern arena pattern) (relatedDescendants arena position)
  | .ancestor pattern, position => firstHolds (evalPattern arena pattern) (relatedAncestors arena position)
  | .all list, position => evalAll arena list position
  | .any list, position => evalAny arena list position
  | .not inner, position => (eval arena inner position).map (!·)

/-- Whether a related node is as a pattern says. -/
def evalPattern (arena : Arena) : NodePattern Predicate → Related → Except MatchError Bool
  | ⟨kinds, slot, predicates⟩, related =>
    if !slotFits slot related.slot then .ok false
    else match arena.node? related.position with
      | some node =>
        if kinds.isEmpty || kinds.contains node.kind.tag then evalAll arena predicates related.position
        else .ok false
      | none => .ok false

def evalAll (arena : Arena) : List Predicate → Nat → Except MatchError Bool
  | [], _ => .ok true
  | p :: rest, position =>
    match eval arena p position with
    | .ok true => evalAll arena rest position
    | decided => decided

def evalAny (arena : Arena) : List Predicate → Nat → Except MatchError Bool
  | [], _ => .ok false
  | p :: rest, position =>
    match eval arena p position with
    | .ok false => evalAny arena rest position
    | decided => decided

end

end SolAudit.Match
