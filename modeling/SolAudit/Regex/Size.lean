import SolAudit.Regex.Meaning

/-!
# The size of expressions

An expression is laid out as states of 32 bytes that read one byte of UTF-8 each. Expressions that need more room than
the limit are refused.
-/

namespace SolAudit.Regex

open Text

/-- The room for one state. -/
def stateSize : Nat := 32

def sizeLimit : Nat := 10 * Nat.pow 2 20

/-- The byte ranges, one list for each way through, that spell the numbers between two bounds with so many bytes of
six bits after the first. -/
def bytePaths : Nat → Nat → Nat → List (List (Nat × Nat))
  | 0, first, last => [[(first, last)]]
  | k + 1, first, last =>
    let block := Nat.pow 64 (k + 1)
    let a := first / block
    let b := last / block
    if a == b then (bytePaths k (first % block) (last % block)).map ((a, a) :: ·)
    else
      let startsFull := first % block == 0
      let endsFull := last % block == block - 1
      let head := if startsFull then [] else (bytePaths k (first % block) (block - 1)).map ((a, a) :: ·)
      let tail := if endsFull then [] else (bytePaths k 0 (last % block)).map ((b, b) :: ·)
      let low := if startsFull then a else a + 1
      let high := if endsFull then b else b - 1
      let middle := if low ≤ high then [(low, high) :: List.replicate (k + 1) (0, 63)] else []
      head ++ middle ++ tail

/-- The code points that take so many bytes after the first. -/
def byteLengths : List (Nat × Nat × Nat) :=
  [(0, 0, 0x7F), (1, 0x80, 0x7FF), (2, 0x800, 0xD7FF), (2, 0xE000, 0xFFFF), (3, 0x10000, 0x10FFFF)]

def rangePaths (range : Nat × Nat) : List (List (Nat × Nat)) :=
  byteLengths.flatMap fun (k, low, high) ↦
    let first := max range.1 low
    let last := min range.2 high
    if first ≤ last then bytePaths k first last else []

/-- The length of the common start of two lists. -/
def commonLength : List (Nat × Nat) → List (Nat × Nat) → Nat
  | a :: as, b :: bs => if a == b then commonLength as bs + 1 else 0
  | _, _ => 0

/-- Paths that start alike share their states. -/
def pathStates (previous : List (Nat × Nat)) : List (List (Nat × Nat)) → Nat
  | [] => 0
  | path :: rest => path.length - commonLength previous path + pathStates path rest

def charsSize (set : CharSet) : Nat :=
  match set.ranges with
  | [] => stateSize
  | ranges =>
    if ranges.all fun (_, last) ↦ last < 0x80 then
      if ranges.length == 1 then stateSize else stateSize + 8 * ranges.length
    else
      let paths := ranges.flatMap rangePaths
      let states := stateSize * pathStates [] paths
      if paths.length == 1 then states else states + 4 * paths.length + 2 * stateSize

/-- An expression that reads nothing wherever it succeeds. -/
def readsNothing : Regex → Bool
  | .empty => true
  | .chars _ => false
  | .look _ => true
  | .seq first second => readsNothing first && readsNothing second
  | .alt first second => readsNothing first && readsNothing second
  | .repeated _ most inner => most == some 0 || readsNothing inner
  | .group inner => readsNothing inner

/-- The room that an expression needs. To repeat what reads nothing more than once is of no use. -/
def size : Regex → Nat
  | .empty => stateSize
  | .chars set => charsSize set
  | .look _ => stateSize
  | .seq first second => size first + size second
  | .alt first second => size first + size second + 2 * stateSize + 8
  | .repeated least most inner =>
    let once := size inner
    let choice := once + stateSize + 8
    if readsNothing inner then once + choice
    else match most with
      | some most => least * once + (most - least) * choice + stateSize
      | none => least * once + choice
  | .group inner => size inner + 2 * stateSize

/-- Reads a regular expression. -/
def parse? (text : String) : Option Regex := do
  let (regex, _) ← (← Pattern.parse? text).meaning? {}
  if regex.size ≤ sizeLimit then some regex else none

end SolAudit.Regex
