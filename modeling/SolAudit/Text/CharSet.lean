import SolAudit.Text.Decimal

/-!
# Sets of characters

A set of code points as ascending ranges that neither overlap nor touch. Tables of characters are written as
ranges of hexadecimal numbers between blanks.
-/

namespace SolAudit.Text

/-- Inclusive ranges of code points. -/
structure CharSet where
  ranges : List (Nat × Nat)
  deriving DecidableEq, Repr, Inhabited

namespace CharSet

/-- The greatest code point. -/
def lastChar : Nat := 0x10FFFF

def empty : CharSet := ⟨[]⟩

def all : CharSet := ⟨[(0, lastChar)]⟩

def single (c : Char) : CharSet := ⟨[(c.toNat, c.toNat)]⟩

def ofRange (first last : Nat) : CharSet := if first ≤ last then ⟨[(first, last)]⟩ else empty

def contains (set : CharSet) (c : Char) : Bool :=
  set.ranges.any fun (first, last) ↦ first ≤ c.toNat && c.toNat ≤ last

def isEmpty (set : CharSet) : Bool := set.ranges.isEmpty

/-- Joins ranges in ascending order that overlap or touch. -/
def joinRanges (first last : Nat) : List (Nat × Nat) → List (Nat × Nat)
  | [] => [(first, last)]
  | (a, b) :: rest =>
    if a ≤ last + 1 then joinRanges first (max last b) rest
    else (first, last) :: joinRanges a b rest

def ofRanges (ranges : List (Nat × Nat)) : CharSet :=
  match ranges.mergeSort fun a b ↦ a.1 ≤ b.1 with
  | [] => empty
  | (a, b) :: rest => ⟨joinRanges a b rest⟩

def union (a b : CharSet) : CharSet := ofRanges (a.ranges ++ b.ranges)

/-- The gaps from a code point on. -/
def gaps (start : Nat) : List (Nat × Nat) → List (Nat × Nat)
  | [] => if start ≤ lastChar then [(start, lastChar)] else []
  | (a, b) :: rest =>
    if start < a then (start, a - 1) :: gaps (b + 1) rest else gaps (b + 1) rest

def complement (set : CharSet) : CharSet := ⟨gaps 0 set.ranges⟩

/-- The common part of ascending ranges. -/
def meetRanges (a b : List (Nat × Nat)) : List (Nat × Nat) :=
  match a, b with
  | [], _ => []
  | _, [] => []
  | (a₁, a₂) :: as, (b₁, b₂) :: bs =>
    let first := max a₁ b₁
    let last := min a₂ b₂
    let rest := if a₂ < b₂ then meetRanges as ((b₁, b₂) :: bs) else meetRanges ((a₁, a₂) :: as) bs
    if first ≤ last then (first, last) :: rest else rest
termination_by a.length + b.length

def inter (a b : CharSet) : CharSet := ⟨meetRanges a.ranges b.ranges⟩

def diff (a b : CharSet) : CharSet := a.inter b.complement

def symmDiff (a b : CharSet) : CharSet := (a.diff b).union (b.diff a)

def unionAll (sets : List CharSet) : CharSet := ofRanges (sets.flatMap ranges)

def hexValue (cs : List Char) : Nat :=
  cs.foldl (fun n c ↦ n * 16 + (if c.isDigit then c.toNat - 48 else c.toNat - 87)) 0

/-- The words between blanks. -/
def words (text : String) : List (List Char) :=
  (Text.splitChars ' ' text.toList).filter fun word ↦ !word.isEmpty

/-- A range `first-last`, or a code point alone. -/
def rangeOfWord (word : List Char) : Nat × Nat :=
  let first := word.takeWhile (· != '-')
  match word.drop first.length with
  | [] => (hexValue first, hexValue first)
  | _ :: last => (hexValue first, hexValue last)

def ofTable (lines : List String) : CharSet := ⟨(lines.flatMap words).map rangeOfWord⟩

end CharSet

/-- Every `step`-th character of a range, together with the one at a fixed distance from it. -/
structure CharShift where
  first : Nat
  last : Nat
  step : Nat
  distance : Int
  deriving DecidableEq, Repr

namespace CharShift

def applies (shift : CharShift) (n : Nat) : Bool :=
  shift.first ≤ n && n ≤ shift.last && (n - shift.first) % shift.step == 0

def apply (shift : CharShift) (n : Nat) : Nat := (n + shift.distance).toNat

/-- A shift is written `first-last/step` and then its distance after a plus sign or a tilde for minus. -/
def ofWord (word : List Char) : CharShift :=
  let isMark (c : Char) : Bool := c == '+' || c == '~'
  let front := word.takeWhile fun c ↦ !isMark c
  let back := word.drop front.length
  let size : Int := CharSet.hexValue (back.drop 1)
  let distance := if back.head? == some '~' then -size else size
  let range := front.takeWhile (· != '/')
  let (first, last) := CharSet.rangeOfWord range
  { first, last, step := if range.length < front.length then 2 else 1, distance }

def ofTable (lines : List String) : List CharShift := (lines.flatMap CharSet.words).map ofWord

end CharShift

end SolAudit.Text
