import SolAudit.Ast.Field

/-!
# Node types

The node types that are known, with the slots in which their children stand, in source order, and their
scalar fields. Children may also stand in members that no slot names; the schema only fixes the names and
the order of the slots.
-/

namespace SolAudit.Ast

inductive Arity where
  | one
  | many
  /-- Nodes inside plain objects, put in source order. -/
  | nested
  deriving DecidableEq, Repr

def Arity.name : Arity → String
  | .one => "One"
  | .many => "Many"
  | .nested => "Nested"

structure Slot where
  name : String
  arity : Arity
  required : Bool
  deriving DecidableEq, Repr

namespace Slot

def one (name : String) : Slot := ⟨name, .one, true⟩

def optional (name : String) : Slot := ⟨name, .one, false⟩

def many (name : String) : Slot := ⟨name, .many, false⟩

def list (name : String) : Slot := ⟨name, .many, true⟩

def nested (name : String) : Slot := ⟨name, .nested, false⟩

end Slot

structure Schema where
  slots : List Slot := []
  fields : List Field := []
  deriving DecidableEq, Repr

namespace Schema

open Slot Ast.Field

/-- Declarations: what the source file, its contracts and their members declare. -/
def declarations : List (String × Schema) :=
  [("SourceUnit", {
      slots := [list "nodes"]
      fields := [ofText "absolutePath", ofOptionalText "license",
        { key := "exportedSymbols", reading := .symbols, asked := false }] }),
    ("PragmaDirective", { fields := [{ key := "literals", reading := .texts "" }] }),
    ("ImportDirective", {
      slots := [nested "symbolAliases"]
      fields := [ofText "file", ofOptionalText "absolutePath"] }),
    ("ContractDefinition", {
      slots := [optional "documentation", many "baseContracts", list "nodes"]
      fields := [ofLabel "name",
        { key := "contractKind", reading := .wordOr .contractKind "contract" },
        (ofFlag "abstract" false).shownAs "isAbstract"] }),
    ("InheritanceSpecifier", { slots := [one "baseName", many "arguments"] }),
    ("UsingForDirective", {
      slots := [optional "libraryName", nested "functionList", optional "typeName"] }),
    ("StructDefinition", {
      slots := [optional "documentation", list "members"]
      fields := [ofLabel "name"] }),
    ("EnumDefinition", {
      slots := [optional "documentation", list "members"]
      fields := [ofLabel "name"] }),
    ("EnumValue", { fields := [ofLabel "name"] }),
    ("EventDefinition", {
      slots := [optional "documentation", one "parameters"]
      fields := [ofLabel "name", ofFlag "anonymous" false] }),
    ("ErrorDefinition", {
      slots := [optional "documentation", one "parameters"]
      fields := [ofLabel "name"] }),
    ("ModifierDefinition", {
      slots := [optional "documentation", one "parameters", optional "overrides", optional "body"]
      fields := [ofLabel "name", ofOptionalWord "visibility" .visibility,
        (ofFlag "virtual" false).shownAs "isVirtual"] }),
    ("ModifierInvocation", {
      slots := [one "modifierName", many "arguments"]
      fields := [{ key := "modifierName", reading := .modifierName }] }),
    ("FunctionDefinition", {
      slots := [optional "documentation", one "parameters", optional "overrides", many "modifiers",
        one "returnParameters", optional "body"]
      fields := [ofLabel "name",
        { key := "kind", reading := .functionKind, exported := some "functionKind" },
        { key := "visibility", reading := .word .visibility },
        { key := "stateMutability", reading := .stateMutability },
        (ofFlag "virtual" false).shownAs "isVirtual", ofFlag "implemented" true] }),
    ("ParameterList", { slots := [list "parameters"] }),
    ("VariableDeclaration", {
      slots := [optional "documentation", optional "typeName", optional "overrides", optional "value"]
      fields := [ofLabel "name", ofOptionalWord "visibility" .visibility,
        { key := "mutability", reading := .mutability },
        { key := "constant", reading := .isConstant, exported := none },
        ofFlag "stateVariable" false, ofOptionalWord "storageLocation" .storageLocation] })]

def statements : List (String × Schema) :=
  [("Block", { slots := [list "statements"] }),
    ("UncheckedBlock", { slots := [list "statements"] }),
    ("PlaceholderStatement", {}),
    ("IfStatement", { slots := [one "condition", one "trueBody", optional "falseBody"] }),
    ("ForStatement", {
      slots := [optional "initializationExpression", optional "condition", optional "loopExpression",
        one "body"] }),
    ("WhileStatement", { slots := [one "condition", one "body"] }),
    ("DoWhileStatement", { slots := [one "body", one "condition"] }),
    ("Break", {}),
    ("Continue", {}),
    ("Return", { slots := [optional "expression"] }),
    ("EmitStatement", { slots := [one "eventCall"] }),
    ("RevertStatement", { slots := [one "errorCall"] }),
    ("TryStatement", { slots := [one "externalCall", list "clauses"] }),
    ("TryCatchClause", {
      slots := [optional "parameters", one "block"]
      fields := [{ key := "errorName", reading := .textOr "" }] }),
    ("VariableDeclarationStatement", { slots := [list "declarations", optional "initialValue"] }),
    ("ExpressionStatement", { slots := [one "expression"] }),
    ("InlineAssembly", { slots := [optional "AST"] })]

def expressions : List (String × Schema) :=
  [("Assignment", {
      slots := [one "leftHandSide", one "rightHandSide"]
      fields := [ofLabel "operator"] }),
    ("BinaryOperation", {
      slots := [one "leftExpression", one "rightExpression"]
      fields := [ofLabel "operator"] }),
    ("UnaryOperation", {
      slots := [one "subExpression"]
      fields := [ofLabel "operator", ofFlag "prefix" false] }),
    ("Conditional", { slots := [one "condition", one "trueExpression", one "falseExpression"] }),
    ("FunctionCall", {
      slots := [one "expression", many "arguments"]
      fields := [{ key := "kind", reading := .callKind, exported := some "callKind" },
        ofFlag "tryCall" false] }),
    ("FunctionCallOptions", {
      slots := [one "expression", many "options"]
      fields := [{ key := "names", reading := .texts "," }] }),
    ("MemberAccess", { slots := [one "expression"], fields := [ofLabel "memberName"] }),
    ("IndexAccess", { slots := [one "baseExpression", optional "indexExpression"] }),
    ("IndexRangeAccess", {
      slots := [one "baseExpression", optional "startExpression", optional "endExpression"] }),
    ("Identifier", { fields := [ofLabel "name", ofOptionalId "referencedDeclaration"] }),
    ("IdentifierPath", { fields := [ofLabel "name", ofOptionalId "referencedDeclaration"] }),
    ("Literal", {
      fields := [
        { key := "kind", reading := .word .literalKind, exported := some "literalKind" },
        { key := "value", reading := .optionalText, labels := true }, ofOptionalText "hexValue"] }),
    ("TupleExpression", {
      slots := [many "components"]
      fields := [ofFlag "isInlineArray" false] }),
    ("NewExpression", { slots := [one "typeName"] }),
    ("ElementaryTypeNameExpression", { slots := [optional "typeName"] })]

def typeNames : List (String × Schema) :=
  [("ElementaryTypeName", {
      fields := [ofLabel "name", ofOptionalWord "stateMutability" .stateMutability] }),
    ("UserDefinedTypeName", {
      slots := [optional "pathNode"]
      fields := [{ key := "name", reading := .typeName }, ofOptionalId "referencedDeclaration"] }),
    ("Mapping", { slots := [one "keyType", one "valueType"] }),
    ("ArrayTypeName", { slots := [one "baseType", optional "length"] })]

/-- Every known node type. -/
def table : List (String × Schema) := declarations ++ statements ++ expressions ++ typeNames

/-- The schema of a known node type. -/
def find? (tag : String) : Option Schema := table.lookup tag

def hasSlot (schema : Schema) (name : String) : Bool := schema.slots.any (·.name == name)

end Schema

end SolAudit.Ast
