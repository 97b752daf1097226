import SolAudit.Json.Basic

/-!
# Documents

The tree that a template document holds, whichever notation it is written in. A scalar that comes as a bare text has no
type of its own: what it says depends on what is asked for.
-/

namespace SolAudit

/-- How a scalar is written: as it stands, in quotes or folded, or as a literal block. -/
inductive ScalarStyle where
  | plain
  | quoted
  | literal
  deriving DecidableEq, Repr

/-- A list that is `positional` may stand for a record whose fields it gives in order. -/
inductive Data where
  | null
  | bool (value : Bool)
  | int (value : Int)
  | float
  | str (value : String)
  | scalar (style : ScalarStyle) (tag : Option String) (text : String)
  | list (positional : Bool) (items : List Data)
  | record (members : List (String × Data))
  deriving Repr

namespace Data

mutual

def ofJson : Json → Data
  | .null => .null
  | .bool b => .bool b
  | .int n => .int n
  | .float _ => .float
  | .str s => .str s
  | .arr items => .list true (ofJsonItems items)
  | .obj members => .record (ofJsonMembers members)

def ofJsonItems : List Json → List Data
  | [] => []
  | item :: rest => ofJson item :: ofJsonItems rest

def ofJsonMembers : List (String × Json) → List (String × Data)
  | [] => []
  | (key, value) :: rest => (key, ofJson value) :: ofJsonMembers rest

end

mutual

/-- How many lists and records are nested. -/
def height : Data → Nat
  | .list _ items => heightItems items + 1
  | .record members => heightMembers members + 1
  | _ => 0

def heightItems : List Data → Nat
  | [] => 0
  | item :: rest => max (height item) (heightItems rest)

def heightMembers : List (String × Data) → Nat
  | [] => 0
  | (_, value) :: rest => max (height value) (heightMembers rest)

end

/-- An empty plain scalar stands for an empty list and for an empty record. -/
def isBlank : Data → Bool
  | .scalar .plain _ text => text.isEmpty
  | _ => false

/-- No key occurs twice. -/
def distinctKeys {α : Type} : List (String × α) → Bool
  | [] => true
  | (key, _) :: rest => rest.all (fun (other, _) ↦ other != key) && distinctKeys rest

end Data

end SolAudit
