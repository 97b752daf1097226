import SolAudit.Json.Reader
import SolAudit.Regex.Pattern
import SolAudit.Text.Blank

/-!
# Reading patterns

Recursive descent over the characters of a pattern. Blanks and comments between items are skipped in verbose mode,
which the pattern itself switches on and off; a group restores the mode at its end.
-/

namespace SolAudit.Regex

open Text

/-- The characters still to read, the mode, and the names of the groups so far. -/
structure Cursor where
  rest : List Char
  verbose : Bool := false
  names : List (List Char) := []

abbrev Reader := StateT Cursor Option

namespace Reader

def peek? : Reader (Option Char) := return (← get).rest.head?

/-- Reads the next character. -/
def next : Reader Char := do
  match (← get).rest with
  | c :: rest =>
    modify fun cursor ↦ { cursor with rest }
    return c
  | [] => failure

/-- Drops blanks, and comments from a number sign to the end of the line. -/
def dropSpace (inComment : Bool) : List Char → List Char
  | [] => []
  | c :: rest =>
    if inComment then dropSpace (c != '\n') rest
    else if c == '#' then dropSpace true rest
    else if isBlank c then dropSpace false rest
    else c :: rest

def space : Reader Unit :=
  modify fun cursor ↦
    if cursor.verbose then { cursor with rest := dropSpace false cursor.rest } else cursor

/-- Reads a fixed text if it comes next. -/
def accept (text : String) : Reader Bool := do
  let cursor ← get
  if text.toList.isPrefixOf cursor.rest then
    set { cursor with rest := cursor.rest.drop text.length }
    return true
  return false

/-- Reads characters with a property, and space after each in verbose mode. -/
def many (test : Char → Bool) : Nat → Reader (List Char)
  | 0 => return []
  | fuel + 1 => do
    match ← peek? with
    | some c =>
      if test c then
        let _ ← next
        space
        return c :: (← many test fuel)
      return []
    | none => return []

/-- The characters up to a closing brace, without the space of verbose mode, and what follows. -/
def braced (verbose inComment : Bool) : List Char → Option (List Char × List Char)
  | [] => none
  | c :: rest =>
    if inComment then braced verbose (c != '\n') rest
    else if c == '}' then some ([], rest)
    else if verbose && c == '#' then braced verbose true rest
    else if verbose && isBlank c then braced verbose false rest
    else (braced verbose false rest).map fun (inner, after) ↦ (c :: inner, after)

def bracedText : Reader (List Char) := do
  let cursor ← get
  let (inner, rest) ← braced cursor.verbose false cursor.rest
  set { cursor with rest }
  return inner

def hexValue? (cs : List Char) : Option Nat :=
  cs.foldlM (fun n c ↦ (Json.hexDigit? c).map fun d ↦ n * 16 + d) 0

def charOfCode? (code : Nat) : Option Char :=
  if code.isValidChar then some (Char.ofNat code) else none

def hexDigits : Nat → Reader (List Char)
  | 0 => return []
  | n + 1 => do
    let c ← next
    space
    return c :: (← hexDigits n)

/-- A character by its code: so many hexadecimal digits, or any number in braces. -/
def hexLiteral (digits : Nat) : Reader Literal := do
  space
  if ← accept "\x7b" then
    let inner ← bracedText
    space
    if inner.isEmpty then failure
    return ⟨← (hexValue? inner).bind charOfCode?, false⟩
  let inner ← hexDigits digits
  return ⟨← (hexValue? inner).bind charOfCode?, digits == 2⟩

/-- The name of a property: one character, or any text in braces. -/
def propertyName : Reader String := do
  space
  if ← accept "\x7b" then
    return String.ofList (← bracedText)
  let c ← next
  if c == '\\' then failure
  return String.singleton c

/-- Punctuation can be escaped, letters and digits cannot. -/
def isEscapable (c : Char) : Bool :=
  c.toNat < 0x80 && !c.isAlphanum && c != '<' && c != '>'

def isBoundaryChar (c : Char) : Bool := c.isAlpha || c == '-'

/-- What follows the letter of a word boundary: a name in braces for one of its special forms. -/
def boundary : Reader Anchor := do
  let start ← get
  if ← accept "\x7b" then
    space
    match ← peek? with
    | none => failure
    | some c =>
      if isBoundaryChar c then
        let name ← many isBoundaryChar start.rest.length
        if (← next) != '}' then failure
        match String.ofList name with
        | "start" => return .wordStart
        | "end" => return .wordEnd
        | "start-half" => return .wordStartHalf
        | "end-half" => return .wordEndHalf
        | _ => failure
      set start
  return .wordBoundary

def commonClass? : Char → Option ClassItem
  | 'd' => some (.common .digit false)
  | 's' => some (.common .space false)
  | 'w' => some (.common .word false)
  | 'D' => some (.common .digit true)
  | 'S' => some (.common .space true)
  | 'W' => some (.common .word true)
  | _ => none

def plainEscape? : Char → Option Pattern
  | 'a' => some (.literal ⟨'\x07', false⟩)
  | 'f' => some (.literal ⟨'\x0c', false⟩)
  | 't' => some (.literal ⟨'\t', false⟩)
  | 'n' => some (.literal ⟨'\n', false⟩)
  | 'r' => some (.literal ⟨'\r', false⟩)
  | 'v' => some (.literal ⟨'\x0b', false⟩)
  | 'A' => some (.anchor .textStart)
  | 'z' => some (.anchor .textEnd)
  | 'B' => some (.anchor .notWordBoundary)
  | '<' => some (.anchor .wordStart)
  | '>' => some (.anchor .wordEnd)
  | c =>
    if isEscapable c then some (.literal ⟨c, false⟩)
    else (commonClass? c).map .chars

/-- What follows a backslash. -/
def escape : Reader Pattern := do
  match ← next with
  | 'x' => return .literal (← hexLiteral 2)
  | 'u' => return .literal (← hexLiteral 4)
  | 'U' => return .literal (← hexLiteral 8)
  | 'p' => return .chars (.property (← propertyName) false)
  | 'P' => return .chars (.property (← propertyName) true)
  | 'b' => return .anchor (← boundary)
  | c => plainEscape? c

/-- A named class such as `[:alpha:]`, with the characters after it. -/
def posix? : List Char → Option (ClassItem × List Char)
  | '[' :: ':' :: rest =>
    let (negated, rest) := match rest with
      | '^' :: rest => (true, rest)
      | _ => (false, rest)
    let name := rest.takeWhile (· != ':')
    match rest.drop name.length with
    | ':' :: ']' :: after =>
      let known := ["alnum", "alpha", "ascii", "blank", "cntrl", "digit", "graph", "lower", "print", "punct",
        "space", "upper", "word", "xdigit"]
      if known.contains (String.ofList name) then
        some (.posix (String.ofList name) negated, after)
      else none
    | _ => none
  | _ => none

/-- The character after the next one. In verbose mode blanks are passed over, and one number sign. -/
def second? (cursor : Cursor) : Option Char :=
  let after := cursor.rest.drop 1
  if !cursor.verbose then after.head?
  else
    let past := after.dropWhile isBlank
    let past := match past with
      | '#' :: rest => rest.dropWhile isBlank
      | _ => past
    if past.isEmpty then after.head? else past.head?

def classPrimitive : Reader Pattern := do
  match ← next with
  | '\\' => escape
  | c => return .literal ⟨c, false⟩

/-- One character, one class, or a range of characters. -/
def classRange : Reader ClassItem := do
  let first ← classPrimitive
  space
  let cursor ← get
  let dash := cursor.rest.head? == some '-'
  if dash && second? cursor != some ']' && second? cursor != some '-' then
    let _ ← next
    space
    match first, ← classPrimitive with
    | .literal a, .literal b =>
      if a.char ≤ b.char then return .range a b
      failure
    | _, _ => failure
  match first with
  | .literal l => return .literal l
  | .chars item => return item
  | _ => failure

/-- Dashes at the start of a class stand for themselves. -/
def leadingDashes : Nat → Reader (List ClassItem)
  | 0 => return []
  | fuel + 1 => do
    if ← accept "-" then
      space
      return .literal ⟨'-', false⟩ :: (← leadingDashes fuel)
    return []

/-- The items after the opening bracket that a closing bracket or dashes can be. -/
def classStart : Reader (Bool × List ClassItem) := do
  space
  let negated ← accept "^"
  space
  let dashes ← leadingDashes (← get).rest.length
  if dashes.isEmpty then
    if ← accept "]" then
      space
      return (negated, [.literal ⟨']', false⟩])
  return (negated, dashes)

def applyOp (pending : Option (SetOp × ClassItem)) (right : ClassItem) : ClassItem :=
  match pending with
  | some (kind, left) => .op kind left right
  | none => right

/-- The operator between two sets that comes next, if any. -/
def setOp? : Reader (Option SetOp) := do
  if ← accept "&&" then return some .inter
  if ← accept "--" then return some .diff
  if ← accept "~~" then return some .symmDiff
  return none

/-- The inside of a class up to its closing bracket, given the items so far in reverse and the operation that
waits for its right side. -/
def classBody : Nat → Option (SetOp × ClassItem) → List ClassItem → Reader ClassItem
  | 0, _, _ => failure
  | fuel + 1, pending, items => do
    space
    let cursor ← get
    match cursor.rest.head? with
    | none => failure
    | some '[' =>
      match posix? cursor.rest with
      | some (item, rest) =>
        set { cursor with rest }
        classBody fuel pending (item :: items)
      | none =>
        let _ ← next
        let (negated, first) ← classStart
        let inner ← classBody fuel none first
        classBody fuel pending (.bracket negated inner :: items)
    | some ']' =>
      let _ ← next
      return applyOp pending (ClassItem.unionOf items.reverse)
    | some _ =>
      match ← setOp? with
      | some kind => classBody fuel (some (kind, applyOp pending (ClassItem.unionOf items.reverse))) []
      | none => classBody fuel pending ((← classRange) :: items)

/-- The flags of a group up to a colon or a closing parenthesis, which is read too. A flag stands only once. -/
def flagItems : Nat → Option (List Flag) → List Flag → Reader (FlagChange × Char)
  | 0, _, _ => failure
  | fuel + 1, on, current => do
    match ← next with
    | '-' =>
      match on with
      | none => flagItems fuel (some current) []
      | some _ => failure
    | c =>
      if c == ':' || c == ')' then
        match on with
        | none => return (⟨current, []⟩, c)
        | some on => if current.isEmpty then failure else return (⟨on, current⟩, c)
      let flag ← Flag.ofChar? c
      if current.contains flag || (on.getD []).contains flag then failure
      flagItems fuel on (flag :: current)

def isNameChar (isFirst : Bool) (c : Char) : Bool :=
  c == '_' || alphabetic.contains c ||
    (!isFirst && (c == '.' || c == '[' || c == ']' || numeric.contains c))

/-- The name of a group up to the closing angle bracket. No two groups share one. -/
def groupName : Reader Unit := do
  let cursor ← get
  let name := cursor.rest.takeWhile (· != '>')
  if cursor.rest.length == name.length then failure
  let good := match name with
    | [] => false
    | c :: rest => isNameChar true c && rest.all (isNameChar false)
  if !good || cursor.names.contains name then failure
  set { cursor with rest := cursor.rest.drop (name.length + 1), names := name :: cursor.names }

/-- What an opening parenthesis starts. -/
inductive Opening where
  | flags (change : FlagChange)
  | group (captured : Bool) (change : FlagChange)

def opening : Reader Opening := do
  space
  for look in ["?=", "?!", "?<=", "?<!"] do
    if ← accept look then failure
  if ← (accept "?P<" <||> accept "?<") then
    groupName
    return .group true {}
  if ← accept "?" then
    let (change, stop) ← flagItems ((← get).rest.length + 1) none []
    if stop == ':' then return .group false change
    if change.on.isEmpty && change.off.isEmpty then failure
    return .flags change
  return .group true {}

def setVerbose (verbose : Bool) : Reader Unit := modify fun cursor ↦ { cursor with verbose }

/-- A count of repetitions, blanks around it allowed. -/
def count : Reader (Option Nat) := do
  modify fun cursor ↦ { cursor with rest := cursor.rest.dropWhile isBlank }
  let fuel := (← get).rest.length
  let digits ← many Char.isDigit fuel
  let _ ← many isBlank fuel
  if digits.isEmpty then return none
  let n ← natValue? digits
  if n < Nat.pow 2 32 then return some n
  failure

/-- The bounds of a counted repetition after its opening brace. -/
def bounds : Reader (Nat × Option Nat) := do
  space
  let least ← count
  if ← accept "," then
    space
    if ← accept "\x7d" then return (← least, none)
    let most ← count
    if (← next) != '}' then failure
    let least ← least
    let most ← most
    if least ≤ most then return (least, some most)
    failure
  if (← next) != '}' then failure
  return (← least, (← least))

/-- Puts a repetition around the item before it. -/
def repeatLast (least : Nat) (most : Option Nat) : List Pattern → Option (List Pattern)
  | [] => none
  | .flags _ :: _ => none
  | item :: before => some (.repeated least most item :: before)

/-- Alternatives up to a closing parenthesis or the end, given the finished branches and the items of the
current one, both in reverse. -/
def body : Nat → List Pattern → List Pattern → Reader Pattern
  | 0, _, _ => failure
  | fuel + 1, branches, items => do
    space
    match ← peek? with
    | none | some ')' =>
      return Pattern.altOf (Pattern.seqOf items.reverse :: branches).reverse
    | some c =>
      let _ ← next
      match c with
      | '|' => body fuel (Pattern.seqOf items.reverse :: branches) []
      | '(' =>
        match ← opening with
        | .flags change =>
          setVerbose ((change.state? .verbose).getD (← get).verbose)
          body fuel branches (.flags change :: items)
        | .group captured change =>
          let outer := (← get).verbose
          setVerbose ((change.state? .verbose).getD outer)
          let inner ← body fuel [] []
          if (← next) != ')' then failure
          setVerbose outer
          body fuel branches (.group captured change inner :: items)
      | '[' =>
        let (negated, first) ← classStart
        let inner ← classBody fuel none first
        body fuel branches (.chars (.bracket negated inner) :: items)
      | '{' =>
        let (least, most) ← bounds
        space
        let _ ← accept "?"
        body fuel branches (← repeatLast least most items)
      | '?' =>
        let _ ← accept "?"
        body fuel branches (← repeatLast 0 (some 1) items)
      | '*' =>
        let _ ← accept "?"
        body fuel branches (← repeatLast 0 none items)
      | '+' =>
        let _ ← accept "?"
        body fuel branches (← repeatLast 1 none items)
      | '\\' => body fuel branches ((← escape) :: items)
      | '.' => body fuel branches (.dot :: items)
      | '^' => body fuel branches (.anchor .lineStart :: items)
      | '$' => body fuel branches (.anchor .lineEnd :: items)
      | c => body fuel branches (.literal ⟨c, false⟩ :: items)

end Reader

/-- The greatest depth of a pattern. -/
def depthLimit : Nat := 250

namespace Pattern

/-- Reads a whole pattern. -/
def parse? (text : String) : Option Pattern := do
  let chars := text.toList
  let (pattern, cursor) ← (Reader.body (2 * chars.length + 2) [] []).run { rest := chars }
  if cursor.rest.isEmpty && pattern.depth ≤ depthLimit then some pattern else none

end Pattern

end SolAudit.Regex
