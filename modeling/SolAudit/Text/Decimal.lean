/-!
# Decimal numbers

Bounded integers in decimal notation, with an optional sign and any number of leading zeros.
-/

namespace SolAudit.Text

/-- The value of a digit string, read from the left after the value `acc` of the digits before. -/
def digitsValue (acc : Nat) : List Char → Option Nat
  | [] => some acc
  | c :: rest => if c.isDigit then digitsValue (acc * 10 + (c.toNat - 48)) rest else none

/-- The value of a digit string that is not empty. -/
def natValue? : List Char → Option Nat
  | [] => none
  | c :: rest => digitsValue 0 (c :: rest)

/-- A natural number below `bound`, with an optional plus sign. -/
def unsigned? (bound : Nat) (cs : List Char) : Option Nat :=
  let digits := match cs with
    | '+' :: rest => rest
    | _ => cs
  (natValue? digits).filter (· < bound)

/-- An integer from `-bound` up to `bound - 1`, with an optional sign. -/
def signed? (bound : Nat) (cs : List Char) : Option Int :=
  match cs with
  | '-' :: rest => ((natValue? rest).filter (· ≤ bound)).map fun n ↦ -(n : Int)
  | _ => (unsigned? bound cs).map fun n ↦ (n : Int)

/-- One more than the largest index: indexes are unsigned numbers of 64 bits. -/
def indexBound : Nat := Nat.pow 2 64

/-- Identifiers are signed numbers of 64 bits, from `-idBound` up to `idBound - 1`. -/
def idBound : Nat := Nat.pow 2 63

/-- The largest index, which also stands for "after every position". -/
def lastIndex : Nat := indexBound - 1

/-- Parts between the separators, at least one. -/
def splitChars (sep : Char) : List Char → List (List Char)
  | [] => [[]]
  | c :: rest =>
    if c == sep then [] :: splitChars sep rest
    else match splitChars sep rest with
      | [] => [[c]]
      | part :: parts => (c :: part) :: parts

end SolAudit.Text
