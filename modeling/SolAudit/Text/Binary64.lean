/-!
# Binary fractions of 64 bits

Finite double-precision numbers as a sign, a mantissa and a power of two, in exact arithmetic:
rounding a quotient to the nearest (ties to the even mantissa), and the shortest decimal that rounds
back.
-/

namespace SolAudit

/-- The number `± mantissa · 2 ^ exponent` with a mantissa below `2 ^ 53` and an exponent from -1074
up to 971; the mantissa is at least `2 ^ 52` unless the exponent is -1074. -/
structure Binary64 where
  negative : Bool
  mantissa : Nat
  exponent : Int
  deriving DecidableEq, Repr

namespace Binary64

def zero : Binary64 := ⟨false, 0, -1074⟩

def neg (x : Binary64) : Binary64 := { x with negative := !x.negative }

/-- A quotient rounded to the nearest natural number, a half to the even neighbour. -/
def roundDiv (num den : Nat) : Nat :=
  let q := num / den
  let r := num % den
  if 2 * r < den then q
  else if 2 * r > den then q + 1
  else if q % 2 == 0 then q else q + 1

/-- `num / (den · 2 ^ e)` as a numerator and a denominator. -/
def scaled (num den : Nat) (e : Int) : Nat × Nat :=
  match e with
  | .ofNat n => (num, den * Nat.pow 2 n)
  | .negSucc n => (num * Nat.pow 2 (n + 1), den)

/-- The positive quotient `num / den` rounded to the nearest number, or `none` beyond the largest. -/
def ofRatio (num den : Nat) : Option Binary64 :=
  if num == 0 then some zero
  else
    let guess : Int := max ((num.log2 : Int) - (den.log2 : Int) - 53) (-1074)
    let first := scaled num den guess
    let e := if first.1 / first.2 < Nat.pow 2 53 then guess else guess + 1
    let (n, d) := scaled num den e
    let m := roundDiv n d
    let (m, e) := if m == Nat.pow 2 53 then (Nat.pow 2 52, e + 1) else (m, e)
    if e > 971 then none else some ⟨false, m, e⟩

/-- The exact value of the magnitude as a numerator and a denominator. -/
def ratio (x : Binary64) : Nat × Nat :=
  scaled x.mantissa 1 (-x.exponent)

def mul (x y : Binary64) : Option Binary64 :=
  let (a, b) := x.ratio
  let (c, d) := y.ratio
  ofRatio (a * c) (b * d)

def div (x y : Binary64) : Option Binary64 :=
  let (a, b) := x.ratio
  let (c, d) := y.ratio
  ofRatio (a * d) (b * c)

/-- `10 ^ n` rounded to the nearest number. -/
def powTen (n : Nat) : Binary64 := (ofRatio (Nat.pow 10 n) 1).getD zero

/-- `significand · 10 ^ exponent` by one multiplication or division with a rounded power of ten.
Exponents below -308 are reached in steps of `10 ^ 308`; `none` stands for a number too large. -/
def scaleSteps : Nat → Binary64 → Int → Option Binary64
  | 0, _, _ => some zero
  | fuel + 1, x, exponent =>
    if exponent.natAbs ≤ 308 then
      if exponent ≥ 0 then x.mul (powTen exponent.natAbs) else x.div (powTen exponent.natAbs)
    else if x.mantissa == 0 then some x
    else if exponent ≥ 0 then none
    else match x.div (powTen 308) with
      | some y => scaleSteps fuel y (exponent + 308)
      | none => none

/-- Three steps take every significand of 64 bits down to zero. -/
def ofScientific (significand : Nat) (exponent : Int) : Option Binary64 :=
  match ofRatio significand 1 with
  | some x => scaleSteps 4 x exponent
  | none => none

/-- The decimal `digits · 10 ^ exponent`. -/
structure Decimal where
  digits : Nat
  exponent : Int
  deriving DecidableEq, Repr

/-- `num / (den · 10 ^ k)` as a numerator and a denominator. -/
def overPowTen (num den : Nat) (k : Int) : Nat × Nat :=
  match k with
  | .ofNat n => (num, den * Nat.pow 10 n)
  | .negSucc n => (num * Nat.pow 10 (n + 1), den)

def digitCount (n : Nat) : Nat := (Nat.toDigits 10 n).length

/-- The exponent of the leading decimal digit of `num / den`. -/
def leadingExponent (num den : Nat) : Int :=
  if num ≥ den then ((digitCount (num / den) : Nat) : Int) - 1
  else
    match (List.range 400).find? fun j ↦ num * Nat.pow 10 j ≥ den with
    | some j => -(j : Int)
    | none => -400

/-- The decimal on the grid of `10 ^ k` nearest to the number, if one of the number's two neighbours on
that grid rounds to it. -/
def onGrid (x : Binary64) (k : Int) : Option Nat :=
  let m := x.mantissa
  let below := if m == Nat.pow 2 52 && x.exponent > -1074 then 1 else 2
  let part (quarters : Nat) : Nat × Nat :=
    let (n, d) := scaled quarters 4 (-x.exponent)
    overPowTen n d k
  let (v, d) := part (4 * m)
  let (lo, _) := part (4 * m - below)
  let (hi, _) := part (4 * m + 2)
  let hit (c : Nat) : Bool :=
    if m % 2 == 0 then lo ≤ c * d && c * d ≤ hi else lo < c * d && c * d < hi
  let down := v / d
  let up := down + 1
  match hit down, hit up with
  | true, false => some down
  | false, true => some up
  | true, true =>
    let toDown := v - down * d
    let toUp := up * d - v
    if toDown < toUp then some down
    else if toUp < toDown then some up
    else if down % 2 == 0 then some down else some up
  | false, false => none

/-- Drops the zeros at the end of the digits. -/
def Decimal.trimZeros (fuel : Nat) (x : Decimal) : Decimal :=
  match fuel with
  | 0 => x
  | fuel + 1 =>
    if x.digits != 0 && x.digits % 10 == 0 then
      Decimal.trimZeros fuel ⟨x.digits / 10, x.exponent + 1⟩
    else x

/-- The decimal with the fewest digits that rounds back to the number; at most seventeen are needed. -/
def shortest (x : Binary64) : Decimal :=
  let (num, den) := x.ratio
  let top := leadingExponent num den
  let found := (List.range 17).findSome? fun (n : Nat) ↦
    let k := top - (n : Int)
    (x.onGrid k).map fun digits ↦ Decimal.mk digits k
  (found.getD ⟨0, 0⟩).trimZeros 20

/-- Which powers of ten are written without an exponent. -/
structure FractionFormat where
  least : Int
  most : Int

/-- Numbers from `10 ^ -5` up to, not including, `10 ^ 16` are written in full. -/
def plainRange : FractionFormat := ⟨-5, 15⟩

/-- The shortest decimal as text: in full inside the plain range, otherwise with a signed exponent. -/
def render (x : Binary64) : String :=
  let sign := if x.negative then "-" else ""
  if x.mantissa == 0 then sign ++ "0.0"
  else
    let short := x.shortest
    let digits := Nat.toDigits 10 short.digits
    let top := short.exponent + (digits.length : Int) - 1
    let body :=
      if plainRange.least ≤ top && top ≤ plainRange.most then
        if short.exponent ≥ 0 then
          String.ofList (digits ++ List.replicate short.exponent.toNat '0') ++ ".0"
        else if top ≥ 0 then
          let whole := (top + 1).toNat
          String.ofList (digits.take whole) ++ "." ++ String.ofList (digits.drop whole)
        else "0." ++ String.ofList (List.replicate (-top - 1).toNat '0' ++ digits)
      else
        let head := String.ofList (digits.take 1)
        let tail := digits.drop 1
        let mantissa := if tail.isEmpty then head else head ++ "." ++ String.ofList tail
        let mark := if top ≥ 0 then "+" else "-"
        mantissa ++ "e" ++ mark ++ toString top.natAbs
    sign ++ body

end Binary64

end SolAudit
