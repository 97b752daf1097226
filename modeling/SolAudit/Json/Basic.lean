import SolAudit.Text.Binary64
import SolAudit.Text.Decimal

/-!
# JSON values

Numbers are integers of 64 bits or binary fractions. An object lists its members in the order in which
they are written; `Json.normalize` puts them in ascending key order and keeps the last of repeated keys.
-/

namespace SolAudit

inductive Json where
  | null
  | bool (value : Bool)
  | int (value : Int)
  | float (value : Binary64)
  | str (value : String)
  | arr (items : List Json)
  | obj (members : List (String × Json))
  deriving Repr

namespace Json

abbrev Members := List (String × Json)

def nat (n : Nat) : Json := .int n

/-- `null` stands for a value that is not there. -/
def ofOption {α : Type} (f : α → Json) : Option α → Json
  | some a => f a
  | none => .null

def ofStrings (texts : List String) : Json := .arr (texts.map .str)

/-- The value at a key. -/
def Members.get? (key : String) : Members → Option Json
  | [] => none
  | (k, v) :: rest => if k == key then some v else Members.get? key rest

/-- Puts a value at a key: over the value there, or before the first greater key. -/
def Members.insert (key : String) (value : Json) : Members → Members
  | [] => [(key, value)]
  | (k, v) :: rest =>
    if k == key then (key, value) :: rest
    else if key < k then (key, value) :: (k, v) :: rest
    else (k, v) :: Members.insert key value rest

/-- The members in ascending key order; of two with one key the later counts. -/
def Members.sort (members : Members) : Members :=
  members.foldl (fun sorted member ↦ sorted.insert member.1 member.2) []

/-- An object with its members in ascending key order. -/
def ofMembers (members : Members) : Json := .obj members.sort

mutual

/-- Every object with its members in ascending key order and without repeated keys. -/
def normalize : Json → Json
  | .arr items => .arr (normalizeItems items)
  | .obj members => .obj (Members.sort (normalizeMembers members))
  | value => value

def normalizeItems : List Json → List Json
  | [] => []
  | item :: rest => normalize item :: normalizeItems rest

def normalizeMembers : List (String × Json) → List (String × Json)
  | [] => []
  | (key, value) :: rest => (key, normalize value) :: normalizeMembers rest

end

def isNull : Json → Bool
  | .null => true
  | _ => false

def string? : Json → Option String
  | .str s => some s
  | _ => none

def bool? : Json → Option Bool
  | .bool b => some b
  | _ => none

def items? : Json → Option (List Json)
  | .arr items => some items
  | _ => none

def members? : Json → Option Members
  | .obj members => some members
  | _ => none

/-- An integer that fits an identifier, a signed number of 64 bits. -/
def id? : Json → Option Int
  | .int n => if n < Text.idBound then some n else none
  | _ => none

/-- An integer that fits an index, an unsigned number of 64 bits. -/
def index? : Json → Option Nat
  | .int n => if 0 ≤ n then some n.toNat else none
  | _ => none

/-- The value of a member, for an object that has it. -/
def get? (json : Json) (key : String) : Option Json :=
  json.members?.bind (Members.get? key)

/-- The value at a position, for an array that has it. -/
def at? (json : Json) (position : Nat) : Option Json :=
  json.items?.bind fun items ↦ items[position]?

/-- The value reached through members, one key after the other. -/
def path? (json : Json) : List String → Option Json
  | [] => some json
  | key :: keys => (json.get? key).bind fun inner ↦ inner.path? keys

end Json

end SolAudit
