import SolAudit.Text.Property

/-!
# Regular expressions

A regular expression reads characters of a text from a position on. Its meaning is the set of positions where a
reading can end; whether it is found in a text is whether any reading from any position ends at all.
-/

namespace SolAudit

open Text

/-- Conditions on a position that read nothing. `words` are the characters that make up words. -/
inductive Look where
  | textStart
  | textEnd
  | lineStart (crlf : Bool)
  | lineEnd (crlf : Bool)
  | wordBoundary (words : CharSet)
  | notWordBoundary (words : CharSet)
  | wordStart (words : CharSet)
  | wordEnd (words : CharSet)
  | wordStartHalf (words : CharSet)
  | wordEndHalf (words : CharSet)
  deriving Repr

inductive Regex where
  | empty
  | chars (set : CharSet)
  | look (condition : Look)
  | seq (first second : Regex)
  | alt (first second : Regex)
  | repeated (least : Nat) (most : Option Nat) (inner : Regex)
  | group (inner : Regex)
  deriving Repr

namespace Look

/-- The condition between the character before a position and the one after it. -/
def holds (condition : Look) (before after : Option Char) : Bool :=
  let isWord (words : CharSet) (c : Option Char) : Bool := c.any words.contains
  match condition with
  | .textStart => before.isNone
  | .textEnd => after.isNone
  | .lineStart false => before.all (· == '\n')
  | .lineEnd false => after.all (· == '\n')
  | .lineStart true => before.all (· == '\n') || (before == some '\r' && after != some '\n')
  | .lineEnd true => after.all (· == '\r') || (after == some '\n' && before != some '\r')
  | .wordBoundary words => isWord words before != isWord words after
  | .notWordBoundary words => isWord words before == isWord words after
  | .wordStart words => !isWord words before && isWord words after
  | .wordEnd words => isWord words before && !isWord words after
  | .wordStartHalf words => !isWord words before
  | .wordEndHalf words => !isWord words after

/-- The condition at a position of a text. -/
def holdsAt (condition : Look) (text : Array Char) (position : Nat) : Bool :=
  condition.holds (if position == 0 then none else text[position - 1]?) text[position]?

end Look

/-- Adds a position to an ascending list of positions. -/
def insertPosition (p : Nat) : List Nat → List Nat
  | [] => [p]
  | q :: rest => if p < q then p :: q :: rest else if p == q then q :: rest else q :: insertPosition p rest

def joinPositions (a b : List Nat) : List Nat := b.foldl (fun set p ↦ insertPosition p set) a

/-- Applies a step a number of times, and stops early where it leads nowhere or back. -/
def iterateSteps (step : List Nat → List Nat) : Nat → List Nat → List Nat
  | 0, set => set
  | n + 1, set =>
    let next := step set
    if next == set then set else iterateSteps step n next

/-- All positions reached by at most a number of steps. -/
def reachSteps (step : List Nat → List Nat) : Nat → List Nat → List Nat
  | 0, set => set
  | n + 1, set =>
    let grown := joinPositions set (step set)
    if grown.length == set.length then set else reachSteps step n grown

namespace Regex

/-- Where readings that start at one of the positions can end. -/
def ends (text : Array Char) : Regex → List Nat → List Nat
  | .empty, starts => starts
  | .chars set, starts =>
    (starts.filter fun p ↦ (text[p]?).any set.contains).map (· + 1)
  | .look condition, starts => starts.filter (condition.holdsAt text)
  | .seq first second, starts => second.ends text (first.ends text starts)
  | .alt first second, starts => joinPositions (first.ends text starts) (second.ends text starts)
  | .repeated least most inner, starts =>
    let base := iterateSteps (inner.ends text) least starts
    -- A set of positions can only grow as often as there are positions.
    let rounds := match most with
      | some most => min (most - least) (text.size + 1)
      | none => text.size + 1
    reachSteps (inner.ends text) rounds base
  | .group inner, starts => inner.ends text starts

/-- The text holds a part that the expression reads. -/
def isFoundIn (regex : Regex) (text : String) : Bool :=
  let chars := text.toList.toArray
  !(regex.ends chars (List.range (chars.size + 1))).isEmpty

end Regex

end SolAudit
