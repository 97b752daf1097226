import SolAudit.Json.Basic

/-!
# Writing JSON text

Members are written in the order in which they stand. Compact text has no blanks; pretty text puts every
item and member on a line of its own, two blanks deeper than its bracket.
-/

namespace SolAudit.Json

def hexChar (n : Nat) : Char :=
  if n < 10 then Char.ofNat (48 + n) else Char.ofNat (87 + n)

/-- Only quotes, backslashes and control characters are escaped. -/
def escapeChar (c : Char) : List Char :=
  match c with
  | '"' => ['\\', '"']
  | '\\' => ['\\', '\\']
  | '\n' => ['\\', 'n']
  | '\r' => ['\\', 'r']
  | '\t' => ['\\', 't']
  | '\x08' => ['\\', 'b']
  | '\x0c' => ['\\', 'f']
  | c =>
    if c.toNat < 0x20 then
      ['\\', 'u', '0', '0', hexChar (c.toNat / 16), hexChar (c.toNat % 16)]
    else [c]

def quoteChars (cs : List Char) : List Char := '"' :: cs.flatMap escapeChar ++ ['"']

def quote (s : String) : String := String.ofList (quoteChars s.toList)

mutual

def compress : Json → String
  | .null => "null"
  | .bool true => "true"
  | .bool false => "false"
  | .int n => toString n
  | .float x => x.render
  | .str s => quote s
  | .arr items => "[" ++ ",".intercalate (compressItems items) ++ "]"
  | .obj members => "\x7b" ++ ",".intercalate (compressMembers members) ++ "\x7d"

def compressItems : List Json → List String
  | [] => []
  | item :: rest => compress item :: compressItems rest

def compressMembers : List (String × Json) → List String
  | [] => []
  | (key, value) :: rest => (quote key ++ ":" ++ compress value) :: compressMembers rest

end

/-- A line break and the blanks of a level. -/
def lineBreak (level : Nat) : String := "\n" ++ String.ofList (List.replicate (2 * level) ' ')

/-- The lines of a bracket's content, each with its line break before it. -/
def block (opening closing : String) (level : Nat) (lines : List String) : String :=
  if lines.isEmpty then opening ++ closing
  else
    let inner := lines.map (lineBreak (level + 1) ++ ·)
    opening ++ ",".intercalate inner ++ lineBreak level ++ closing

mutual

def prettyAt (level : Nat) : Json → String
  | .arr items => block "[" "]" level (prettyItems (level + 1) items)
  | .obj members => block "\x7b" "\x7d" level (prettyMembers (level + 1) members)
  | value => compress value

def prettyItems (level : Nat) : List Json → List String
  | [] => []
  | item :: rest => prettyAt level item :: prettyItems level rest

def prettyMembers (level : Nat) : List (String × Json) → List String
  | [] => []
  | (key, value) :: rest =>
    (quote key ++ ": " ++ prettyAt level value) :: prettyMembers level rest

end

def pretty (json : Json) : String := prettyAt 0 json

end SolAudit.Json
