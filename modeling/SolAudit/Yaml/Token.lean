import SolAudit.Document.Data

/-!
# YAML tokens

The marks and scalars that a YAML text is made of. Indentation shows as tokens that open and close block collections.
-/

namespace SolAudit.Yaml

inductive Token where
  | version (major minor : Nat)
  | tagHandle (handle expansion : String)
  | documentStart
  | documentEnd
  | blockListStart
  | blockRecordStart
  | blockEnd
  | flowListStart
  | flowListEnd
  | flowRecordStart
  | flowRecordEnd
  | blockEntry
  | flowEntry
  | key
  | value
  | alias (name : String)
  | anchor (name : String)
  | tag (handle suffix : String)
  | scalar (style : ScalarStyle) (text : String)
  deriving DecidableEq, Repr

def isBreak (c : Char) : Bool :=
  c == '\n' || c == '\r' || c == '\u0085' || c == '\u2028' || c == '\u2029'

def isBlank (c : Char) : Bool := c == ' ' || c == '\t'

/-- A blank, a break or the end. -/
def endsWord (c : Option Char) : Bool := c.all fun c ↦ isBlank c || isBreak c

/-- A break or the end. -/
def endsLine (c : Option Char) : Bool := c.all isBreak

/-- The characters of names. -/
def isNameChar (c : Char) : Bool := c.isAlphanum || c == '_' || c == '-'

/-- The characters that a text may hold at all. -/
def isAllowed (c : Char) : Bool :=
  let n := c.toNat
  n == 0x09 || n == 0x0A || n == 0x0D || (0x20 ≤ n && n ≤ 0x7E) || n == 0x85 || (0xA0 ≤ n && n ≤ 0xFFFD) ||
    0x10000 ≤ n

/-- A place where an implicit key may have started; `token` is the number of tokens before it. -/
structure KeyStart where
  required : Bool
  token : Nat
  index : Nat
  line : Nat
  column : Nat
  deriving Repr

/-- What has been read of a text and what is left of it. `keys` has one place for each level of flow collections, the
innermost first, and one for the block level. -/
structure ScanState where
  rest : List Char
  index : Nat := 0
  line : Nat := 0
  column : Nat := 0
  tokens : Array Token := #[]
  keys : List (Option KeyStart) := [none]
  keyAllowed : Bool := true
  indent : Int := -1
  indents : List Int := []

abbrev Scan := StateT ScanState Option

namespace Scan

def peek? : Scan (Option Char) := return (← get).rest.head?

/-- Moves on to a later place on the same line. -/
def moveTo (rest : List Char) : Scan Unit :=
  modify fun s ↦
    let count := s.rest.length - rest.length
    { s with rest, index := s.index + count, column := s.column + count }

def skip (count : Nat) : Scan Unit := do moveTo ((← get).rest.drop count)

def takeWhile (test : Char → Bool) : Scan (List Char) := do
  let taken := (← get).rest.takeWhile test
  skip taken.length
  return taken

def skipWhile (test : Char → Bool) : Scan Unit := do let _ ← takeWhile test

/-- Reads a line break. All become line feeds, but for the separators of lines and paragraphs. -/
def readBreak : Scan (List Char) := do
  let s ← get
  let nextLine (count : Nat) : Scan Unit :=
    set { s with rest := s.rest.drop count, index := s.index + count, line := s.line + 1, column := 0 }
  match s.rest with
  | '\r' :: '\n' :: _ => nextLine 2; return ['\n']
  | c :: _ =>
    if c == '\u2028' || c == '\u2029' then nextLine 1; return [c]
    else if isBreak c then nextLine 1; return ['\n']
    else return []
  | [] => return []

def emit (token : Token) : Scan Unit := modify fun s ↦ { s with tokens := s.tokens.push token }

def inFlow : Scan Bool := return (← get).keys.length > 1

def allowKey (keyAllowed : Bool) : Scan Unit := modify fun s ↦ { s with keyAllowed }

/-- The place is the start of a line that begins a document or ends one. -/
def atDocumentMark : Scan Bool := do
  let s ← get
  if s.column != 0 then return false
  match s.rest with
  | '-' :: '-' :: '-' :: rest => return endsWord rest.head?
  | '.' :: '.' :: '.' :: rest => return endsWord rest.head?
  | _ => return false

end Scan

end SolAudit.Yaml
