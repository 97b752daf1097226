import SolAudit.Regex.Basic

/-!
# Patterns as written

The syntax tree of a regular expression: what its text says before the flags in force give it a meaning.
-/

namespace SolAudit.Regex

inductive Flag where
  | ignoreCase
  | multiLine
  | dotNewline
  | swapGreed
  | unicode
  | crlf
  | verbose
  deriving DecidableEq, Repr

namespace Flag

def ofChar? : Char → Option Flag
  | 'i' => some .ignoreCase
  | 'm' => some .multiLine
  | 's' => some .dotNewline
  | 'U' => some .swapGreed
  | 'u' => some .unicode
  | 'R' => some .crlf
  | 'x' => some .verbose
  | _ => none

end Flag

/-- Flags that are switched on and off. -/
structure FlagChange where
  on : List Flag := []
  off : List Flag := []
  deriving Repr

namespace FlagChange

/-- The new state of a flag, if it changes. -/
def state? (change : FlagChange) (flag : Flag) : Option Bool :=
  if change.on.contains flag then some true
  else if change.off.contains flag then some false
  else none

end FlagChange

/-- A character of the pattern; `byte` tells that it is written as a code of two hexadecimal digits. -/
structure Literal where
  char : Char
  byte : Bool := false
  deriving Repr

inductive Anchor where
  | lineStart
  | lineEnd
  | textStart
  | textEnd
  | wordBoundary
  | notWordBoundary
  | wordStart
  | wordEnd
  | wordStartHalf
  | wordEndHalf
  deriving DecidableEq, Repr

inductive CommonClass where
  | digit
  | space
  | word
  deriving DecidableEq, Repr

inductive SetOp where
  | inter
  | diff
  | symmDiff
  deriving DecidableEq, Repr

/-- A set of characters as written, outside brackets or inside. -/
inductive ClassItem where
  | literal (l : Literal)
  | range (first last : Literal)
  | posix (name : String) (negated : Bool)
  | common (kind : CommonClass) (negated : Bool)
  | property (name : String) (negated : Bool)
  | bracket (negated : Bool) (set : ClassItem)
  | union (items : List ClassItem)
  | op (kind : SetOp) (left right : ClassItem)
  deriving Repr

inductive Pattern where
  | empty
  | literal (l : Literal)
  | dot
  | anchor (a : Anchor)
  | chars (item : ClassItem)
  | flags (change : FlagChange)
  | group (captured : Bool) (change : FlagChange) (inner : Pattern)
  | repeated (least : Nat) (most : Option Nat) (inner : Pattern)
  | seq (items : List Pattern)
  | alt (branches : List Pattern)
  deriving Repr

namespace ClassItem

def unionOf : List ClassItem → ClassItem
  | [item] => item
  | items => .union items

mutual

/-- How deeply brackets, unions and operations are nested. -/
def depth : ClassItem → Nat
  | .bracket _ set => depth set + 1
  | .union [] => 0
  | .union items => depthMax items + 1
  | .op _ left right => max (depth left) (depth right) + 1
  | _ => 0

def depthMax : List ClassItem → Nat
  | [] => 0
  | item :: rest => max (depth item) (depthMax rest)

end

end ClassItem

namespace Pattern

def seqOf : List Pattern → Pattern
  | [] => .empty
  | [item] => item
  | items => .seq items

def altOf : List Pattern → Pattern
  | [] => .empty
  | [branch] => branch
  | branches => .alt branches

mutual

/-- How deeply groups, repetitions, sequences and alternatives are nested. -/
def depth : Pattern → Nat
  | .chars item => item.depth
  | .group _ _ inner => depth inner + 1
  | .repeated _ _ inner => depth inner + 1
  | .seq items => depthMax items + 1
  | .alt branches => depthMax branches + 1
  | _ => 0

def depthMax : List Pattern → Nat
  | [] => 0
  | item :: rest => max (depth item) (depthMax rest)

end

end Pattern

end SolAudit.Regex
