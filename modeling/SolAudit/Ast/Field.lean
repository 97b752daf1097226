import SolAudit.Ast.Vocabulary
import SolAudit.Json.Basic

/-!
# Fields of syntax nodes

A node type lists the scalar fields of its nodes: the key under which the compiler writes the field, how its
value is read, and where it shows up again. Templates ask for a field by its key; exported trees show it
under a name of their own.
-/

namespace SolAudit.Ast

/-- How a field is read. Where the compiler did not write the field, a rule may give its value. -/
inductive Reading where
  /-- A text that must be there. -/
  | text
  /-- A text that may be missing. -/
  | optionalText
  /-- A text with a value for when it is missing. -/
  | textOr (fallback : String)
  /-- A truth value with a value for when it is missing. -/
  | flag (fallback : Bool)
  /-- A node id that may be missing. -/
  | optionalId
  /-- The texts of a list, which templates see joined. -/
  | texts (separator : String)
  /-- A word that must be there. -/
  | word (vocabulary : Vocabulary)
  /-- A word that may be missing. -/
  | optionalWord (vocabulary : Vocabulary)
  /-- A word with a value for when it is missing. -/
  | wordOr (vocabulary : Vocabulary) (fallback : String)
  /-- The kind of a function, told by its flags and its name before there was a field for it. -/
  | functionKind
  /-- The state mutability of a function, told by its flags before there was a field for it. -/
  | stateMutability
  /-- The kind of a call, told by its flags before there was a field for it. -/
  | callKind
  /-- The mutability of a variable, told by its flag before there was a field for it. -/
  | mutability
  /-- Whether the mutability of a variable is constant. -/
  | isConstant
  /-- The name of the modifier that is invoked. -/
  | modifierName
  /-- The name of a type, its own or that of the path to it. -/
  | typeName
  /-- The exported names of a file with the ids of their declarations. -/
  | symbols
  /-- The type tag of a node of an unknown type. -/
  | tag
  deriving DecidableEq, Repr

structure Field where
  key : String
  reading : Reading
  /-- The name under which exported trees show the field. -/
  exported : Option String := some key
  /-- Templates may ask for the field. -/
  asked : Bool := true
  /-- The field names the node in drawings. -/
  labels : Bool := false
  deriving DecidableEq, Repr

/-- The value of a field. -/
inductive FieldValue where
  | text (value : String)
  | optionalText (value : Option String)
  | flag (value : Bool)
  | optionalId (value : Option Int)
  | texts (values : List String) (separator : String)
  | symbols (table : List (String × List Int))
  deriving DecidableEq, Repr

/-- A field as templates see it. A field that the compiler did not write is absent. -/
inductive Attr where
  | text (value : String)
  | flag (value : Bool)
  | int (value : Int)
  | absent
  deriving DecidableEq, Repr

namespace FieldValue

def attr : FieldValue → Attr
  | .text s => .text s
  | .optionalText (some s) => .text s
  | .optionalText none => .absent
  | .flag b => .flag b
  | .optionalId (some n) => .int n
  | .optionalId none => .absent
  | .texts values separator => .text (separator.intercalate values)
  | .symbols _ => .absent

def toJson : FieldValue → Json
  | .text s => .str s
  | .optionalText s => Json.ofOption .str s
  | .flag b => .bool b
  | .optionalId n => Json.ofOption .int n
  | .texts values _ => Json.ofStrings values
  | .symbols table => .obj (table.map fun (name, ids) ↦ (name, .arr (ids.map .int)))

end FieldValue

namespace Field

def ofText (key : String) : Field := { key, reading := .text }

/-- The text that names a node in drawings. -/
def ofLabel (key : String) : Field := { key, reading := .text, labels := true }

def ofOptionalText (key : String) : Field := { key, reading := .optionalText }

def ofFlag (key : String) (fallback : Bool) : Field := { key, reading := .flag fallback }

def ofOptionalWord (key : String) (vocabulary : Vocabulary) : Field :=
  { key, reading := .optionalWord vocabulary }

def ofOptionalId (key : String) : Field := { key, reading := .optionalId }

/-- The same field, shown under another name. -/
def shownAs (field : Field) (name : String) : Field := { field with exported := some name }

end Field

end SolAudit.Ast
