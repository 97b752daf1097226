import SolAudit.Regex.Parser
import SolAudit.Text.Folding
import SolAudit.Text.Script

/-!
# The meaning of patterns

Gives a pattern its regular expression under the flags in force. A pattern that could read part of a character, or
asks for a property that there is not, has no meaning.
-/

namespace SolAudit.Regex

open Text

/-- The flags in force. -/
structure Modes where
  ignoreCase : Bool := false
  multiLine : Bool := false
  dotNewline : Bool := false
  unicode : Bool := true
  crlf : Bool := false
  deriving Repr

namespace Modes

def change (modes : Modes) (c : FlagChange) : Modes where
  ignoreCase := (c.state? .ignoreCase).getD modes.ignoreCase
  multiLine := (c.state? .multiLine).getD modes.multiLine
  dotNewline := (c.state? .dotNewline).getD modes.dotNewline
  unicode := (c.state? .unicode).getD modes.unicode
  crlf := (c.state? .crlf).getD modes.crlf

end Modes

def asciiChars : CharSet := CharSet.ofRange 0 0x7F

def posixChars (name : String) : CharSet :=
  match name with
  | "alnum" => CharSet.ofTable ["30-39 41-5a 61-7a"]
  | "alpha" => CharSet.ofTable ["41-5a 61-7a"]
  | "ascii" => asciiChars
  | "blank" => CharSet.ofTable ["9 20"]
  | "cntrl" => CharSet.ofTable ["0-1f 7f"]
  | "digit" => CharSet.ofTable ["30-39"]
  | "graph" => CharSet.ofTable ["21-7e"]
  | "lower" => CharSet.ofTable ["61-7a"]
  | "print" => CharSet.ofTable ["20-7e"]
  | "punct" => CharSet.ofTable ["21-2f 3a-40 5b-60 7b-7e"]
  | "space" => CharSet.ofTable ["9-d 20"]
  | "upper" => CharSet.ofTable ["41-5a"]
  | "word" => CharSet.ofTable ["30-39 41-5a 5f 61-7a"]
  | "xdigit" => CharSet.ofTable ["30-39 41-46 61-66"]
  | _ => CharSet.empty

def commonChars (unicode : Bool) : CommonClass → CharSet
  | .digit => if unicode then categories ["nd"] else posixChars "digit"
  | .space => if unicode then property "whitespace" else posixChars "space"
  | .word => if unicode then wordChars else posixChars "word"

/-- Names of properties are compared without regard to case, blanks and joining signs, and a leading `is`. -/
def looseName (name : String) : String :=
  let chars := name.toList
  let stripped := match chars.map Char.toLower with
    | 'i' :: 's' :: _ => chars.drop 2
    | _ => chars
  let kept := stripped.filter fun c ↦ c.toNat < 0x80 && c != ' ' && c != '_' && c != '-'
  let loose := String.ofList (kept.map Char.toLower)
  if stripped.length < chars.length && loose == "c" then "isc" else loose

/-- The set of a bare name: a property, a category or a script, in this order. Three short names that would be
properties stand for categories. -/
def namedChars? (name : String) : Option CharSet :=
  let loose := looseName name
  let reserved := ["cf", "sc", "lc"].contains loose
  (if reserved then none else property? loose)
    <|> generalCategory? loose
    <|> (script? loose).map Script.chars

/-- The set of a name and a value. -/
def valuedChars? (name value : String) : Option CharSet :=
  let value := looseName value
  match looseName name with
  | "gc" | "generalcategory" => generalCategory? value
  | "sc" | "script" => (script? value).map Script.chars
  | "scx" | "scriptextensions" => (script? value).map Script.extended
  | _ => none

/-- Splits a text at the first place where another stands. -/
def splitAtText (mark : List Char) : List Char → Option (List Char × List Char)
  | [] => none
  | c :: rest =>
    if mark.isPrefixOf (c :: rest) then some ([], (c :: rest).drop mark.length)
    else (splitAtText mark rest).map fun (a, b) ↦ (c :: a, b)

/-- The set of a property as written, with or without a value. -/
def propertyChars? (text : String) : Option CharSet :=
  let chars := text.toList
  match splitAtText ['!', '='] chars <|> splitAtText [':'] chars <|> splitAtText ['='] chars with
  | some (name, value) => valuedChars? (String.ofList name) (String.ofList value)
  | none => namedChars? text

/-- All characters that differ in case alone, where case does not count. -/
def foldIn (modes : Modes) (set : CharSet) : CharSet :=
  if !modes.ignoreCase then set
  else if modes.unicode then set.foldCase
  else set.foldCase.inter asciiChars

/-- The complement is a set of whole characters only if the pattern reads characters and not bytes. -/
def negateIn? (modes : Modes) (negated : Bool) (set : CharSet) : Option CharSet :=
  if !negated then some set
  else if modes.unicode then some set.complement
  else none

/-- A character that can stand in a class. -/
def classChar? (modes : Modes) (l : Literal) : Option Nat :=
  if modes.unicode || l.char.toNat < 0x80 then some l.char.toNat else none

namespace ClassItem

mutual

/-- The characters of a class. -/
def meaning? (modes : Modes) : ClassItem → Option CharSet
  | .literal l => (classChar? modes l).map fun c ↦ CharSet.ofRange c c
  | .range first last => do
    let first ← classChar? modes first
    let last ← classChar? modes last
    return CharSet.ofRange first last
  | .posix name negated => negateIn? modes negated (foldIn modes (posixChars name))
  | .common kind negated => negateIn? modes negated (commonChars modes.unicode kind)
  | .property name negated => do
    if !modes.unicode then failure
    negateIn? modes negated (foldIn modes (← propertyChars? name))
  | .bracket negated set => do negateIn? modes negated (foldIn modes (← meaning? modes set))
  | .union items => do return CharSet.unionAll (← meanings? modes items)
  | .op kind left right => do
    let left := foldIn modes (← meaning? modes left)
    let right := foldIn modes (← meaning? modes right)
    return match kind with
      | .inter => left.inter right
      | .diff => left.diff right
      | .symmDiff => left.symmDiff right

def meanings? (modes : Modes) : List ClassItem → Option (List CharSet)
  | [] => some []
  | item :: rest => do return (← meaning? modes item) :: (← meanings? modes rest)

end

end ClassItem

/-- A character that is not ASCII can be written only as a whole where bytes are read. -/
def literalMeaning? (modes : Modes) (l : Literal) : Option Regex :=
  if modes.unicode then some (.chars (foldIn modes (CharSet.single l.char)))
  else if l.char.toNat < 0x80 then some (.chars (foldIn modes (CharSet.single l.char)))
  else if l.byte then none
  else some (.chars (CharSet.single l.char))

/-- Any character, and a line break only if asked for. -/
def dotMeaning? (modes : Modes) : Option Regex :=
  if !modes.unicode then none
  else if modes.dotNewline then some (.chars CharSet.all)
  else if modes.crlf then some (.chars (CharSet.ofTable ["a d"]).complement)
  else some (.chars (CharSet.ofTable ["a"]).complement)

def anchorMeaning (modes : Modes) (a : Anchor) : Look :=
  let words := commonChars modes.unicode .word
  match a with
  | .lineStart => if modes.multiLine then .lineStart modes.crlf else .textStart
  | .lineEnd => if modes.multiLine then .lineEnd modes.crlf else .textEnd
  | .textStart => .textStart
  | .textEnd => .textEnd
  | .wordBoundary => .wordBoundary words
  | .notWordBoundary => .notWordBoundary words
  | .wordStart => .wordStart words
  | .wordEnd => .wordEnd words
  | .wordStartHalf => .wordStartHalf words
  | .wordEndHalf => .wordEndHalf words

namespace Pattern

mutual

/-- The regular expression of a pattern, and the flags in force after it. -/
def meaning? (modes : Modes) : Pattern → Option (Regex × Modes)
  | .empty => some (.empty, modes)
  | .literal l => do return (← literalMeaning? modes l, modes)
  | .dot => do return (← dotMeaning? modes, modes)
  | .anchor a => some (.look (anchorMeaning modes a), modes)
  | .chars item => do return (.chars (← item.meaning? modes), modes)
  | .flags c => some (.empty, modes.change c)
  | .group captured c inner => do
    let (regex, _) ← meaning? (modes.change c) inner
    return (if captured then .group regex else regex, modes)
  | .repeated least most inner => do
    let (regex, modes) ← meaning? modes inner
    return (.repeated least most regex, modes)
  | .seq items => seqMeaning? modes items
  | .alt branches => altMeaning? modes branches

def seqMeaning? (modes : Modes) : List Pattern → Option (Regex × Modes)
  | [] => some (.empty, modes)
  | [item] => meaning? modes item
  | item :: rest => do
    let (first, modes) ← meaning? modes item
    let (second, modes) ← seqMeaning? modes rest
    return (.seq first second, modes)

def altMeaning? (modes : Modes) : List Pattern → Option (Regex × Modes)
  | [] => some (.empty, modes)
  | [branch] => meaning? modes branch
  | branch :: rest => do
    let (first, modes) ← meaning? modes branch
    let (second, modes) ← altMeaning? modes rest
    return (.alt first second, modes)

end

end Pattern

end SolAudit.Regex
