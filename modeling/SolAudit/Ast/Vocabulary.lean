/-!
# Vocabularies

Fields of syntax nodes whose value is one of a few words.
-/

namespace SolAudit.Ast

inductive Vocabulary where
  | contractKind
  | functionKind
  | visibility
  | stateMutability
  | mutability
  | storageLocation
  | literalKind
  | functionCallKind
  deriving DecidableEq, Repr

/-- A text that is no word of a vocabulary. -/
structure UnknownWord where
  vocabulary : String
  text : String
  deriving DecidableEq, Repr

def UnknownWord.message (e : UnknownWord) : String := s!"unknown {e.vocabulary} '{e.text}'"

namespace Vocabulary

def all : List Vocabulary :=
  [.contractKind, .functionKind, .visibility, .stateMutability, .mutability, .storageLocation,
    .literalKind, .functionCallKind]

def name : Vocabulary → String
  | .contractKind => "ContractKind"
  | .functionKind => "FunctionKind"
  | .visibility => "Visibility"
  | .stateMutability => "StateMutability"
  | .mutability => "Mutability"
  | .storageLocation => "StorageLocation"
  | .literalKind => "LiteralKind"
  | .functionCallKind => "FunctionCallKind"

def words : Vocabulary → List String
  | .contractKind => ["contract", "interface", "library"]
  | .functionKind => ["function", "constructor", "fallback", "receive", "freeFunction"]
  | .visibility => ["public", "private", "internal", "external"]
  | .stateMutability => ["pure", "view", "nonpayable", "payable"]
  | .mutability => ["mutable", "immutable", "constant"]
  | .storageLocation => ["default", "storage", "memory", "calldata", "transient"]
  | .literalKind => ["number", "bool", "string", "hexString", "unicodeString"]
  | .functionCallKind => ["functionCall", "typeConversion", "structConstructorCall"]

/-- The text itself, if it is one of the words. -/
def parse (v : Vocabulary) (text : String) : Except UnknownWord String :=
  if text ∈ v.words then .ok text else .error ⟨v.name, text⟩

end Vocabulary

end SolAudit.Ast
