import SolAudit.Text.Blank
import SolAudit.Text.Decimal

/-!
# Source ranges

The compiler names a piece of source code by a triple `offset:length:fileIndex`. The file index -1 marks
generated code, which stands in no file.
-/

namespace SolAudit.Source

structure Range where
  offset : Nat
  length : Nat
  fileIndex : Option Nat
  deriving DecidableEq, Repr

/-- A text that is no source range. -/
inductive RangeError where
  | malformed (text : String)
  deriving DecidableEq, Repr

def RangeError.message : RangeError → String
  | .malformed text => s!"malformed source range '{text}'"

namespace Range

/-- One past the last byte; it stops at the largest index. -/
def stop (range : Range) : Nat := min (range.offset + range.length) Text.lastIndex

/-- The file index: a number of 63 bits, or -1 for generated code. -/
def fileIndex? (cs : List Char) : Option (Option Nat) :=
  match Text.signed? Text.idBound cs with
  | some (.ofNat n) => some (some n)
  | some (.negSucc 0) => some none
  | _ => none

/-- The range of three parts between colons, each with blanks around it. -/
def ofChars? (cs : List Char) : Option Range :=
  match Text.splitChars ':' cs with
  | [offset, length, index] => do
    let offset ← Text.unsigned? Text.indexBound (Text.trimChars offset)
    let length ← Text.unsigned? Text.indexBound (Text.trimChars length)
    let fileIndex ← fileIndex? (Text.trimChars index)
    return { offset, length, fileIndex }
  | _ => none

def parse (text : String) : Except RangeError Range :=
  match ofChars? text.toList with
  | some range => .ok range
  | none => .error (.malformed text)

def render (range : Range) : String :=
  let index := match range.fileIndex with
    | some n => toString n
    | none => "-1"
  toString range.offset ++ ":" ++ toString range.length ++ ":" ++ index

/-- The offset that orders code by its range; a malformed range counts as one that starts at the last index. -/
def offsetOf (text : String) : Nat :=
  match ofChars? text.toList with
  | some range => range.offset
  | none => Text.lastIndex

end Range

end SolAudit.Source
