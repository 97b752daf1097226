import SolAudit.Json.Reader
import SolAudit.Text.Decimal
import SolAudit.Toml.Table

/-!
# Reading TOML

Lines of keys and values under headers.
-/

namespace SolAudit.Toml

abbrev Reader := StateT (List Char) Option

namespace Reader

def peek? : Reader (Option Char) := return (← get).head?

def next : Reader Char := do
  match ← get with
  | c :: rest =>
    set rest
    return c
  | [] => failure

/-- Reads a fixed text if it comes next. -/
def accept (text : String) : Reader Bool := do
  let rest ← get
  if text.toList.isPrefixOf rest then
    set (rest.drop text.length)
    return true
  return false

def expect (text : String) : Reader Unit := do if !(← accept text) then failure

def takeWhile (test : Char → Bool) : Reader (List Char) := do
  let taken := (← get).takeWhile test
  modify fun rest ↦ rest.drop taken.length
  return taken

def blanks : Reader Unit := do let _ ← takeWhile fun c ↦ c == ' ' || c == '\t'

/-- Characters that may stand in comments and strings. -/
def isText (c : Char) : Bool := c == '\t' || (c.toNat ≥ 0x20 && c.toNat != 0x7F)

def comment : Reader Unit := do
  if ← accept "#" then
    let _ ← takeWhile isText

def newline : Reader Bool := do
  if ← accept "\n" then return true
  accept "\r\n"

/-- Blanks, comments and line breaks. -/
def space : Nat → Reader Unit
  | 0 => pure ()
  | fuel + 1 => do
    blanks
    comment
    if ← newline then space fuel

/-- The end of a line or of the text, a comment before it allowed. -/
def lineEnd : Reader Unit := do
  blanks
  comment
  if !(← newline) && (← peek?).isSome then failure

def simpleEscape? : Char → Option Char
  | 'b' => some '\x08'
  | 't' => some '\t'
  | 'n' => some '\n'
  | 'f' => some '\x0c'
  | 'r' => some '\r'
  | '"' => some '"'
  | '\\' => some '\\'
  | _ => none

def charOfDigits? (count : Nat) (digits : List Char) : Option Char := do
  if digits.length < count then failure
  let code ← digits.foldlM (fun n c ↦ (Json.hexDigit? c).map fun d ↦ n * 16 + d) 0
  if code.isValidChar then some (Char.ofNat code) else none

/-- What follows a backslash. -/
def escape : Reader Char := do
  match ← next with
  | 'u' => coded 4
  | 'U' => coded 8
  | c => simpleEscape? c
where
  coded (count : Nat) : Reader Char := do
    let digits := (← get).take count
    modify fun rest ↦ rest.drop count
    charOfDigits? count digits

/-- The rest of a string on one line. -/
def lineString (isBasic : Bool) : Nat → Reader (List Char)
  | 0 => failure
  | fuel + 1 => do
    match ← next with
    | '"' => if isBasic then return [] else return '"' :: (← lineString isBasic fuel)
    | '\'' => if isBasic then return '\'' :: (← lineString isBasic fuel) else return []
    | c =>
      if c == '\\' && isBasic then
        let c ← escape
        return c :: (← lineString isBasic fuel)
      else if isText c then return c :: (← lineString isBasic fuel)
      else failure

/-- The quotes at a place: three end a string, and up to two more before them belong to it. -/
def closingQuotes (quote : Char) (rest : List Char) : Option (List Char × List Char) :=
  let quotes := rest.takeWhile (· == quote)
  if quotes.length < 3 then none
  else
    let extra := min (quotes.length - 3) 2
    some (quotes.take extra, rest.drop (extra + 3))

/-- After a backslash at the end of a line all blanks and breaks are left out. -/
def lineContinues (rest : List Char) : Bool :=
  match rest.dropWhile fun c ↦ c == ' ' || c == '\t' with
  | '\n' :: _ => true
  | '\r' :: '\n' :: _ => true
  | _ => false

def skipBreaks : Nat → Reader Unit
  | 0 => pure ()
  | fuel + 1 => do
    blanks
    if ← newline then skipBreaks fuel

/-- The rest of a string over several lines. -/
def blockString (isBasic : Bool) : Nat → Reader (List Char)
  | 0 => failure
  | fuel + 1 => do
    let quote := if isBasic then '"' else '\''
    if let some (extra, rest) := closingQuotes quote (← get) then
      set rest
      return extra
    if ← newline then return '\n' :: (← blockString isBasic fuel)
    let c ← next
    if c == '\\' && isBasic then
      if lineContinues (← get) then
        skipBreaks (← get).length
        blockString isBasic fuel
      else
        let c ← escape
        return c :: (← blockString isBasic fuel)
    else if isText c then return c :: (← blockString isBasic fuel)
    else failure

/-- A string on one line. -/
def lineText (fuel : Nat) : Reader String := do
  if ← accept "\"" then return String.ofList (← lineString true fuel)
  expect "'"
  return String.ofList (← lineString false fuel)

def string : Reader String := do
  let fuel := (← get).length + 1
  if ← accept "\"\"\"" then
    let _ ← newline
    return String.ofList (← blockString true fuel)
  if ← accept "'''" then
    let _ ← newline
    return String.ofList (← blockString false fuel)
  lineText fuel

def isKeyChar (c : Char) : Bool := c.isAlphanum || c == '_' || c == '-'

def keyPart : Reader String := do
  let fuel := (← get).length + 1
  if ← accept "\"" then return String.ofList (← lineString true fuel)
  if ← accept "'" then return String.ofList (← lineString false fuel)
  let chars ← takeWhile isKeyChar
  if chars.isEmpty then failure
  return String.ofList chars

/-- A key of parts between dots, blanks allowed around them. -/
def key : Nat → Reader (List String)
  | 0 => failure
  | fuel + 1 => do
    blanks
    let part ← keyPart
    blanks
    if ← accept "." then return part :: (← key fuel)
    return [part]

/-! ## Values -/

/-- Digits of a base, with single underscores between them. -/
def digitsIn? (base : Nat) (cs : List Char) : Option Nat := do
  let groups := Text.splitChars '_' cs
  if groups.any List.isEmpty then failure
  groups.flatten.foldlM (fun n c ↦ do
    let d ← Json.hexDigit? c
    if d < base then some (n * base + d) else none) 0

def integer? (cs : List Char) : Option Int :=
  let decimal (digits : List Char) : Option Nat :=
    if digits.length > 1 && digits.head? == some '0' then none else digitsIn? 10 digits
  let value : Option Int := match cs with
    | '0' :: 'x' :: rest => (digitsIn? 16 rest).map fun (n : Nat) ↦ (n : Int)
    | '0' :: 'o' :: rest => (digitsIn? 8 rest).map fun (n : Nat) ↦ (n : Int)
    | '0' :: 'b' :: rest => (digitsIn? 2 rest).map fun (n : Nat) ↦ (n : Int)
    | '-' :: rest => (decimal rest).map fun (n : Nat) ↦ -(n : Int)
    | '+' :: rest => (decimal rest).map fun (n : Nat) ↦ (n : Int)
    | _ => (decimal cs).map fun (n : Nat) ↦ (n : Int)
  value.filter fun n ↦ -(Text.idBound : Int) ≤ n && n < Text.idBound

/-- A truth value or an integer. -/
def word : Reader Value := do
  let chars ← takeWhile fun c ↦ c.isAlphanum || c == '_' || c == '+' || c == '-' || c == '.' || c == ':'
  match String.ofList chars with
  | "true" => return .bool true
  | "false" => return .bool false
  | _ => return .int (← integer? chars)

mutual

def value : Nat → Reader Value
  | 0 => failure
  | fuel + 1 => do
    match ← peek? with
    | some '"' | some '\'' => return .str (← string)
    | some '[' =>
      let _ ← next
      return .arr (← items fuel)
    | some '{' =>
      let _ ← next
      blanks
      if ← accept "\x7d" then return .table .inline []
      return .table .inline (← members fuel [])
    | _ => word

/-- The items of an array up to its end; a comma may stand after the last. -/
def items : Nat → Reader (List Value)
  | 0 => failure
  | fuel + 1 => do
    space (← get).length
    if ← accept "]" then return []
    let item ← value fuel
    space (← get).length
    if ← accept "," then return item :: (← items fuel)
    expect "]"
    return [item]

/-- The members of a table in braces. -/
def members : Nat → Members → Reader Members
  | 0, _ => failure
  | fuel + 1, table => do
    let key ← key (← get).length
    expect "="
    blanks
    let table ← table.put? (← value fuel) key
    blanks
    if ← accept "," then members fuel table
    else
      expect "\x7d"
      return table

end

/-- Reads the lines that are left into the table, below the current header. -/
def body : Nat → List String → Members → Reader Members
  | 0, _, _ => failure
  | fuel + 1, header, table => do
    space (← get).length
    match ← peek? with
    | none => return table
    | some '[' =>
      let _ ← next
      let header ← key (← get).length
      expect "]"
      lineEnd
      body fuel header (← table.atHeader? true some header)
    | some _ =>
      let key ← key (← get).length
      expect "="
      blanks
      let value ← value ((← get).length + 1)
      lineEnd
      body fuel header (← table.atHeader? false (fun inner ↦ inner.put? value key) header)

end Reader

/-- Reads a text. A byte order mark at its start is left out. -/
def parse? (text : String) : Option Members :=
  let chars := match text.toList with
    | '\ufeff' :: rest => rest
    | chars => chars
  ((Reader.body (chars.length + 1) [] []).run chars).map (·.1)

end SolAudit.Toml
