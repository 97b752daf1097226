import SolAudit.Ast.Arena
import SolAudit.Json.Printer

/-!
# Raw nodes

The JSON object of a syntax node in either of the compiler's two encodings. The flattened one names the type in
`nodeType` and has fields and children as members. The legacy one names the type in `name`, has its fields
under `attributes`, some by older keys, and its children in the list `children`. In both, a field with the
value `null` counts as missing.
-/

namespace SolAudit.Build

open Ast

structure RawNode where
  tag : String
  members : Json.Members
  legacy : Bool
  attributes : Option Json.Members

/-- Why a field of a node could not be read. -/
inductive FieldFault where
  | missing (key : String)
  | invalid (key : String) (value : String)
  deriving DecidableEq, Repr

namespace RawNode

/-- The node of an object with a string `nodeType`, or else with a string `name` and either attributes or a
list of children. -/
def ofMembers? (members : Json.Members) : Option RawNode :=
  match (members.get? "nodeType").bind Json.string? with
  | some tag => some { tag, members, legacy := false, attributes := none }
  | none => do
    let tag ← (members.get? "name").bind Json.string?
    let attributes := (members.get? "attributes").bind Json.members?
    let children := (members.get? "children").bind Json.items?
    if attributes.isSome || children.isSome then
      some { tag, members, legacy := true, attributes }
    else none

def ofJson? (json : Json) : Option RawNode := json.members?.bind ofMembers?

def id? (raw : RawNode) : Option Int := (raw.members.get? "id").bind Json.id?

def src? (raw : RawNode) : Option String := (raw.members.get? "src").bind Json.string?

/-- The offset that orders nodes in source order. -/
def offset (raw : RawNode) : Nat :=
  match raw.src? with
  | some src => Source.Range.offsetOf src
  | none => Text.lastIndex

/-- The key that older compilers used for a field. -/
def olderKey? (tag key : String) : Option String :=
  if tag == "Identifier" && key == "name" then some "value"
  else if tag == "Literal" && key == "kind" then some "token"
  else if key == "memberName" then some "member_name"
  else if key == "hexValue" then some "hexvalue"
  else if key == "typeString" then some "type"
  else none

/-- The value that a node has for a key in its encoding. -/
def lookup (raw : RawNode) (key : String) : Option Json :=
  if raw.legacy then
    match raw.attributes with
    | none => none
    | some attributes =>
      match attributes.get? key with
      | some value => some value
      | none => (olderKey? raw.tag key).bind fun older ↦ attributes.get? older
  else raw.members.get? key

/-- The value of a field that is not missing. -/
def get? (raw : RawNode) (key : String) : Option Json :=
  (raw.lookup key).filter fun value ↦ !value.isNull

def text? (raw : RawNode) (key : String) : Option String := (raw.get? key).bind Json.string?

def flagOr (raw : RawNode) (key : String) (fallback : Bool) : Bool :=
  ((raw.get? key).bind Json.bool?).getD fallback

/-- The type of an expression, as the compiler describes it. -/
def typeString? (raw : RawNode) : Option String :=
  if raw.legacy then raw.text? "typeString"
  else
    ((raw.members.get? "typeDescriptions").bind fun types ↦ types.get? "typeString").bind Json.string?

/-- A word of a vocabulary. A value that is there must be one. -/
def word? (raw : RawNode) (key : String) (vocabulary : Vocabulary) :
    Except FieldFault (Option String) :=
  match raw.get? key with
  | none => .ok none
  | some (.str text) =>
    match vocabulary.parse text with
    | .ok word => .ok (some word)
    | .error _ => .error (.invalid key text)
  | some value => .error (.invalid key value.compress)

/-- A word, or what a rule gives when it is missing. -/
def wordOr (raw : RawNode) (key : String) (vocabulary : Vocabulary)
    (fallback : Except FieldFault String) : Except FieldFault String := do
  match ← raw.word? key vocabulary with
  | some word => .ok word
  | none => fallback

def functionKind (raw : RawNode) : Except FieldFault String :=
  raw.wordOr "kind" .functionKind <| .ok <|
    if raw.flagOr "isConstructor" false then "constructor"
    else if raw.text? "name" == some "" then "fallback"
    else "function"

def stateMutability (raw : RawNode) : Except FieldFault String :=
  raw.wordOr "stateMutability" .stateMutability <|
    if (raw.get? "payable").isNone && (raw.get? "constant").isNone then
      .error (.missing "stateMutability")
    else if raw.flagOr "payable" false then .ok "payable"
    else if raw.flagOr "constant" false then .ok "view"
    else .ok "nonpayable"

def callKind (raw : RawNode) : Except FieldFault String :=
  raw.wordOr "kind" .functionCallKind <| .ok <|
    if raw.flagOr "type_conversion" false then "typeConversion"
    else if raw.flagOr "isStructConstructorCall" false then "structConstructorCall"
    else "functionCall"

def mutability (raw : RawNode) : Except FieldFault String :=
  raw.wordOr "mutability" .mutability <| .ok <|
    if raw.flagOr "constant" false then "constant" else "mutable"

/-- The name in the first child, or in the member for it. -/
def invokedName? (raw : RawNode) : Option String :=
  let named :=
    if raw.legacy then
      ((raw.members.get? "children").bind fun children ↦ children.at? 0).bind fun child ↦
        child.path? ["attributes", "value"]
    else (raw.members.get? "modifierName").bind fun modifier ↦ modifier.get? "name"
  named.bind Json.string?

def typeName? (raw : RawNode) : Option String :=
  match raw.text? "name" with
  | some name => some name
  | none => ((raw.members.get? "pathNode").bind fun path ↦ path.get? "name").bind Json.string?

def texts (raw : RawNode) (key : String) : List String :=
  (((raw.get? key).bind Json.items?).getD []).filterMap Json.string?

def symbols (raw : RawNode) (key : String) : List (String × List Int) :=
  (((raw.get? key).bind Json.members?).getD []).map fun (name, ids) ↦
    (name, (ids.items?.getD []).filterMap Json.id?)

/-- The value of a field. -/
def read (raw : RawNode) (field : Field) : Except FieldFault FieldValue :=
  let key := field.key
  match field.reading with
  | .text =>
    match raw.text? key with
    | some text => .ok (.text text)
    | none => .error (.missing key)
  | .optionalText => .ok (.optionalText (raw.text? key))
  | .textOr fallback => .ok (.text ((raw.text? key).getD fallback))
  | .flag fallback => .ok (.flag (raw.flagOr key fallback))
  | .optionalId => .ok (.optionalId ((raw.get? key).bind Json.id?))
  | .texts separator => .ok (.texts (raw.texts key) separator)
  | .word vocabulary => .text <$> raw.wordOr key vocabulary (.error (.missing key))
  | .optionalWord vocabulary => .optionalText <$> raw.word? key vocabulary
  | .wordOr vocabulary fallback => .text <$> raw.wordOr key vocabulary (.ok fallback)
  | .functionKind => .text <$> raw.functionKind
  | .stateMutability => .text <$> raw.stateMutability
  | .callKind => .text <$> raw.callKind
  | .mutability => .text <$> raw.mutability
  | .isConstant => (fun word ↦ .flag (word == "constant")) <$> raw.mutability
  | .modifierName => .ok (.optionalText raw.invokedName?)
  | .typeName => .ok (.optionalText raw.typeName?)
  | .symbols => .ok (.symbols (raw.symbols key))
  | .tag => .ok (.text raw.tag)

/-- The values of all fields, or the first fault. -/
def readAll (raw : RawNode) : List Field → Except FieldFault (List (Field × FieldValue))
  | [] => .ok []
  | field :: rest => do
    let value ← raw.read field
    let values ← raw.readAll rest
    return (field, value) :: values

/-- The kind of a node by the schema of its type. -/
def kind (raw : RawNode) (schema : Option Schema) : Except FieldFault Kind :=
  match schema with
  | some schema => (fun fields ↦ ⟨raw.tag, fields⟩) <$> raw.readAll schema.fields
  | none => .ok (Kind.unknown raw.tag)

/-- The first required slot that is missing. -/
def missingSlot? (raw : RawNode) (schema : Option Schema) : Option String :=
  if raw.legacy then none
  else
    match schema with
    | none => none
    | some schema =>
      (schema.slots.find? fun slot ↦
        slot.required && ((raw.members.get? slot.name).filter fun v ↦ !v.isNull).isNone).map Slot.name

end RawNode

end SolAudit.Build
