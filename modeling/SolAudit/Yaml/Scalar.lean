import SolAudit.Json.Reader
import SolAudit.Yaml.Token

/-!
# YAML scalars

Plain and quoted scalars run over lines that are folded: one break becomes a space, further ones are kept. In a block
scalar the lines stand as they are or are folded, without their indentation.
-/

namespace SolAudit.Yaml

/-- The blanks and breaks between two parts of a scalar. After the first break blanks do not count. -/
structure Gap where
  blanks : List Char := []
  first : Option (List Char) := none
  more : List Char := []

namespace Gap

/-- What the gap leaves in the text. -/
def text (gap : Gap) : List Char :=
  match gap.first with
  | none => gap.blanks
  | some first =>
    if first == ['\n'] then (if gap.more.isEmpty then [' '] else gap.more)
    else first ++ gap.more

end Gap

namespace Scan

/-- Reads blanks and breaks. A tab after a break is refused left of `margin`. -/
def readGap (margin : Int) : Nat → Gap → Scan Gap
  | 0, gap => return gap
  | fuel + 1, gap => do
    let s ← get
    match s.rest.head? with
    | none => return gap
    | some c =>
      if isBlank c then
        if gap.first.isSome && c == '\t' && (s.column : Int) < margin then failure
        skip 1
        readGap margin fuel (if gap.first.isSome then gap else { gap with blanks := gap.blanks ++ [c] })
      else if isBreak c then
        let line ← readBreak
        readGap margin fuel (match gap.first with
          | none => { gap with blanks := [], first := some line }
          | some _ => { gap with more := gap.more ++ line })
      else return gap

/-- The characters up to a blank or a mark that ends a plain scalar. -/
def plainRun (inFlow : Bool) : List Char → Option (List Char)
  | [] => some []
  | c :: rest =>
    if isBlank c || isBreak c then some []
    else if inFlow && c == ':' && rest.head?.any [',', '?', '[', ']', '{', '}'].contains then none
    else if c == ':' && endsWord rest.head? then some []
    else if inFlow && [',', '[', ']', '{', '}'].contains c then some []
    else (plainRun inFlow rest).map (c :: ·)

/-- The rest of a plain scalar, and whether a line break comes after it. -/
def plainParts (margin : Int) : Nat → List Char → Gap → Scan (List Char × Bool)
  | 0, text, gap => return (text, gap.first.isSome)
  | fuel + 1, text, gap => do
    if (← atDocumentMark) || (← peek?) == some '#' then return (text, gap.first.isSome)
    let inFlow ← inFlow
    let run ← plainRun inFlow (← get).rest
    skip run.length
    let (text, gap) := if run.isEmpty then (text, gap) else (text ++ gap.text ++ run, {})
    if !((← peek?).any fun c ↦ isBlank c || isBreak c) then return (text, gap.first.isSome)
    let gap ← readGap margin (← get).rest.length gap
    if !inFlow && ((← get).column : Int) < margin then return (text, gap.first.isSome)
    plainParts margin fuel text gap

def plainScalar : Scan Unit := do
  let s ← get
  let (text, broken) ← plainParts (s.indent + 1) (s.rest.length + 1) [] {}
  if broken then allowKey true
  emit (.scalar .plain (String.ofList text))

def simpleEscape? : Char → Option Char
  | '0' => some '\x00'
  | 'a' => some '\x07'
  | 'b' => some '\x08'
  | 't' => some '\t'
  | '\t' => some '\t'
  | 'n' => some '\n'
  | 'v' => some '\x0b'
  | 'f' => some '\x0c'
  | 'r' => some '\r'
  | 'e' => some '\x1b'
  | ' ' => some ' '
  | '"' => some '"'
  | '/' => some '/'
  | '\\' => some '\\'
  | 'N' => some '\u0085'
  | '_' => some '\u00a0'
  | 'L' => some '\u2028'
  | 'P' => some '\u2029'
  | _ => none

def codeLength? : Char → Option Nat
  | 'x' => some 2
  | 'u' => some 4
  | 'U' => some 8
  | _ => none

/-- A character by the hexadecimal digits of its code. -/
def charOfDigits? (count : Nat) (digits : List Char) : Option Char := do
  if digits.length < count then failure
  let code ← digits.foldlM (fun n c ↦ (Json.hexDigit? c).map fun d ↦ n * 16 + d) 0
  if code.isValidChar then some (Char.ofNat code) else none

/-- The characters up to a blank, a closing quote or an escaped break, and what follows. -/
def quotedRun (single : Bool) : Nat → List Char → Option (List Char × List Char)
  | 0, rest => some ([], rest)
  | _ + 1, [] => some ([], [])
  | fuel + 1, c :: rest =>
    let add (char : Char) (after : List Char) : Option (List Char × List Char) :=
      (quotedRun single fuel after).map fun (text, rest) ↦ (char :: text, rest)
    if isBlank c || isBreak c then some ([], c :: rest)
    else if single then
      match c, rest with
      | '\'', '\'' :: after => add '\'' after
      | '\'', _ => some ([], c :: rest)
      | _, _ => add c rest
    else
      match c, rest with
      | '"', _ => some ([], c :: rest)
      | '\\', e :: after =>
        if isBreak e then some ([], c :: rest)
        else match codeLength? e with
          | some count => do add (← charOfDigits? count (after.take count)) (after.drop count)
          | none => do add (← simpleEscape? e) after
      | '\\', [] => none
      | _, _ => add c rest

def quotedParts (single : Bool) : Nat → List Char → Scan (List Char)
  | 0, _ => failure
  | fuel + 1, text => do
    if ← atDocumentMark then failure
    let s ← get
    if s.rest.isEmpty then failure
    let (run, rest) ← quotedRun single (s.rest.length + 1) s.rest
    moveTo rest
    let text := text ++ run
    let escaped := !single && rest.head? == some '\\'
    if escaped then
      skip 1
      let _ ← readBreak
    if (← peek?) == some (if single then '\'' else '"') then
      skip 1
      return text
    let gap ← readGap 0 (← get).rest.length { first := if escaped then some [] else none }
    quotedParts single fuel (text ++ gap.text)

def quotedScalar (single : Bool) : Scan Unit := do
  skip 1
  let text ← quotedParts single ((← get).rest.length + 1) []
  emit (.scalar .quoted (String.ofList text))

/-- What is done with the breaks at the end. -/
inductive Chomping where
  | strip
  | clip
  | keep
  deriving DecidableEq

def chomping? : Option Char → Option Chomping
  | some '+' => some .keep
  | some '-' => some .strip
  | _ => none

/-- The signs after the mark of a block scalar, in either order: what is done at the end, and how far the text is
indented. -/
def blockHeader : Scan (Chomping × Nat) := do
  let chomping : Scan (Option Chomping) := do
    let c := chomping? (← peek?)
    if c.isSome then skip 1
    return c
  let first ← chomping
  let increment ← do
    match ← peek? with
    | some c =>
      if c.isDigit then
        if c == '0' then failure
        skip 1
        pure (c.toNat - 48)
      else pure 0
    | none => pure 0
  let last ← if first.isNone && increment > 0 then chomping else pure none
  return ((first <|> last).getD .clip, increment)

/-- Reads the empty lines before a line of text. An indentation of zero is found out from them. -/
def blockBreaks : Nat → Nat → Nat → List Char → Scan (Nat × List Char)
  | 0, indent, _, breaks => return (indent, breaks)
  | fuel + 1, indent, widest, breaks => do
    let s ← get
    let room := if indent == 0 then s.rest.length else indent - s.column
    skip ((s.rest.take room).takeWhile (· == ' ')).length
    let s ← get
    let widest := max widest s.column
    if (indent == 0 || s.column < indent) && s.rest.head? == some '\t' then failure
    if s.rest.head?.any isBreak then
      let line ← readBreak
      blockBreaks fuel indent widest (breaks ++ line)
    else
      let found := max (max widest (s.indent + 1).toNat) 1
      return (if indent == 0 then found else indent, breaks)

/-- Reads the lines of a block scalar, given the text so far, the break before the next line, the breaks after that,
and whether the last line started with a blank. -/
def blockLines (isLiteral : Bool) (indent : Nat) : Nat → List Char → List Char → List Char → Bool →
    Scan (List Char × List Char × List Char)
  | 0, text, leading, trailing, _ => return (text, leading, trailing)
  | fuel + 1, text, leading, trailing, wasBlank => do
    let s ← get
    if s.column != indent || s.rest.isEmpty then return (text, leading, trailing)
    let isBlankLine := s.rest.head?.any isBlank
    let folds := !isLiteral && leading == ['\n'] && !wasBlank && !isBlankLine
    let joint := if folds then (if trailing.isEmpty then [' '] else []) else leading
    let line ← takeWhile fun c ↦ !isBreak c
    let next ← readBreak
    let (_, breaks) ← blockBreaks ((← get).rest.length + 1) indent 0 []
    blockLines isLiteral indent fuel (text ++ joint ++ trailing ++ line) next breaks isBlankLine

def blockScalar (isLiteral : Bool) : Scan Unit := do
  skip 1
  let (chomping, increment) ← blockHeader
  skipWhile isBlank
  if (← peek?) == some '#' then skipWhile fun c ↦ !isBreak c
  if !endsLine (← peek?) then failure
  let _ ← readBreak
  let s ← get
  let given := if increment == 0 then 0 else if s.indent ≥ 0 then s.indent.toNat + increment else increment
  let (indent, breaks) ← blockBreaks (s.rest.length + 1) given 0 []
  let (text, leading, trailing) ← blockLines isLiteral indent (s.rest.length + 1) [] [] breaks false
  let tail := match chomping with
    | .strip => []
    | .clip => leading
    | .keep => leading ++ trailing
  emit (.scalar (if isLiteral then .literal else .quoted) (String.ofList (text ++ tail)))

end Scan

end SolAudit.Yaml
