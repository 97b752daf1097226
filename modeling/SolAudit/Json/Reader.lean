import SolAudit.Json.Basic
import SolAudit.Text.Decimal

/-!
# Reading JSON text

A reader for the grammar of RFC 8259 over code points. Members keep the order of the text. The text
must be one value with nothing but blanks around it, and at most `depth` brackets may be open at once.
-/

namespace SolAudit.Json

/-- Brackets that may be open at once in a document. -/
def depthLimit : Nat := 127

/-- Significands are unsigned numbers of 64 bits. -/
def significandBound : Nat := Nat.pow 2 64

def isSpace (c : Char) : Bool := c == ' ' || c == '\n' || c == '\t' || c == '\r'

def skipSpace (cs : List Char) : List Char := cs.dropWhile isSpace

def hexDigit? (c : Char) : Option Nat :=
  let n := c.toNat
  if 48 ≤ n && n ≤ 57 then some (n - 48)
  else if 65 ≤ n && n ≤ 70 then some (n - 55)
  else if 97 ≤ n && n ≤ 102 then some (n - 87)
  else none

def hexUnit? (a b c d : Char) : Option Nat := do
  let a ← hexDigit? a
  let b ← hexDigit? b
  let c ← hexDigit? c
  let d ← hexDigit? d
  return ((a * 16 + b) * 16 + c) * 16 + d

def simpleEscape? (c : Char) : Option Char :=
  match c with
  | '"' => some '"'
  | '\\' => some '\\'
  | '/' => some '/'
  | 'b' => some '\x08'
  | 'f' => some '\x0c'
  | 'n' => some '\n'
  | 'r' => some '\r'
  | 't' => some '\t'
  | _ => none

/-- The rest of a string after its opening quote. A unit of a surrogate pair counts only together with
its partner. -/
def readString (seen : List Char) : List Char → Option (String × List Char)
  | [] => none
  | '"' :: rest => some (String.ofList seen.reverse, rest)
  | '\\' :: 'u' :: a :: b :: c :: d :: rest =>
    match hexUnit? a b c d with
    | none => none
    | some unit =>
      if 0xDC00 ≤ unit && unit ≤ 0xDFFF then none
      else if 0xD800 ≤ unit && unit ≤ 0xDBFF then
        match rest with
        | '\\' :: 'u' :: e :: f :: g :: h :: rest =>
          match hexUnit? e f g h with
          | none => none
          | some low =>
            if 0xDC00 ≤ low && low ≤ 0xDFFF then
              readString (Char.ofNat (0x10000 + (unit - 0xD800) * 0x400 + (low - 0xDC00)) :: seen) rest
            else none
        | _ => none
      else readString (Char.ofNat unit :: seen) rest
  | '\\' :: c :: rest =>
    match simpleEscape? c with
    | some c => readString (c :: seen) rest
    | none => none
  | c :: rest => if c.toNat < 0x20 then none else readString (c :: seen) rest

/-- A significand and a power of ten, while digits are read. Digits that no longer fit are dropped. -/
structure Scientific where
  significand : Nat
  exponent : Int

/-- Takes the digits of the whole part. From the first that does not fit on, each counts as a power of
ten; `full` tells whether that happened. -/
def wholeDigits (x : Scientific) (full : Bool) : List Char → Scientific × Bool
  | [] => (x, full)
  | c :: rest =>
    let next := x.significand * 10 + (c.toNat - 48)
    if full || next ≥ significandBound then
      wholeDigits { x with exponent := x.exponent + 1 } true rest
    else wholeDigits { x with significand := next } false rest

/-- Takes the digits of the fraction, up to the first that does not fit. -/
def fractionDigits (x : Scientific) : List Char → Scientific
  | [] => x
  | c :: rest =>
    let next := x.significand * 10 + (c.toNat - 48)
    if next ≥ significandBound then x
    else fractionDigits ⟨next, x.exponent - 1⟩ rest

/-- Exponents are signed numbers of 32 bits and stop at their limits. -/
def clampExponent (n : Int) : Int := max (-2147483648) (min n 2147483647)

def span (p : Char → Bool) (cs : List Char) : List Char × List Char :=
  (cs.takeWhile p, cs.dropWhile p)

/-- The exponent of a number, if there is one: its sign and its digits. -/
def readExponent (cs : List Char) : Option (Option (Bool × List Char) × List Char) :=
  match cs with
  | c :: rest =>
    if c == 'e' || c == 'E' then
      let (positive, rest) := match rest with
        | '+' :: rest => (true, rest)
        | '-' :: rest => (false, rest)
        | _ => (true, rest)
      let (digits, rest) := span Char.isDigit rest
      if digits.isEmpty then none else some (some (positive, digits), rest)
    else some (none, cs)
  | [] => some (none, cs)

/-- The binary fraction of a significand with its powers of ten, or `none` if it is too large. -/
def fractionValue (x : Scientific) (exponent : Option (Bool × List Char)) : Option Binary64 :=
  match exponent with
  | none => Binary64.ofScientific x.significand x.exponent
  | some (positive, digits) =>
    let size := (Text.natValue? digits).getD 0
    if size ≥ Nat.pow 2 31 then
      if positive && x.significand != 0 then none else some Binary64.zero
    else
      let shift : Int := if positive then size else -size
      Binary64.ofScientific x.significand (clampExponent (x.exponent + shift))

/-- The whole part: a zero alone, or digits that do not start with a zero. -/
def readWhole (cs : List Char) : Option (List Char × List Char) :=
  match cs with
  | '0' :: rest =>
    match rest with
    | c :: _ => if c.isDigit then none else some (['0'], rest)
    | [] => some (['0'], rest)
  | _ =>
    let (digits, rest) := span Char.isDigit cs
    if digits.isEmpty then none else some (digits, rest)

/-- The fraction of a number, if there is one. -/
def readFraction (cs : List Char) : Option (Option (List Char) × List Char) :=
  match cs with
  | '.' :: rest =>
    let (digits, rest) := span Char.isDigit rest
    if digits.isEmpty then none else some (some digits, rest)
  | _ => some (none, cs)

/-- A number without fraction and exponent that fits 64 bits is an integer; minus zero does not. -/
def integer? (negative : Bool) (x : Scientific) (full : Bool) : Option Int :=
  if full then none
  else if negative then
    if x.significand == 0 || x.significand > Nat.pow 2 63 then none else some (-(x.significand : Int))
  else some x.significand

def readNumber (negative : Bool) (cs : List Char) : Option (Json × List Char) := do
  let (whole, rest) ← readWhole cs
  let (fraction, rest) ← readFraction rest
  let (exponent, rest) ← readExponent rest
  let (x, full) := wholeDigits ⟨0, 0⟩ false whole
  let float (x : Scientific) : Option (Json × List Char) := do
    let value ← fractionValue x exponent
    return (.float (if negative then value.neg else value), rest)
  match fraction, exponent with
  | none, none =>
    match integer? negative x full with
    | some n => return (.int n, rest)
    | none => float x
  | some digits, _ => float (fractionDigits x digits)
  | none, some _ => float x

mutual

def readValue : Nat → Nat → List Char → Option (Json × List Char)
  | 0, _, _ => none
  | fuel + 1, depth, cs =>
    match skipSpace cs with
    | 'n' :: 'u' :: 'l' :: 'l' :: rest => some (.null, rest)
    | 't' :: 'r' :: 'u' :: 'e' :: rest => some (.bool true, rest)
    | 'f' :: 'a' :: 'l' :: 's' :: 'e' :: rest => some (.bool false, rest)
    | '"' :: rest =>
      match readString [] rest with
      | some (s, rest) => some (.str s, rest)
      | none => none
    | '[' :: rest =>
      match depth with
      | 0 => none
      | depth + 1 =>
        match skipSpace rest with
        | ']' :: rest => some (.arr [], rest)
        | rest => readItems fuel depth [] rest
    | '\x7b' :: rest =>
      match depth with
      | 0 => none
      | depth + 1 =>
        match skipSpace rest with
        | '\x7d' :: rest => some (.obj [], rest)
        | rest => readMembers fuel depth [] rest
    | '-' :: rest => readNumber true rest
    | rest => readNumber false rest

/-- The items of an array from one of them up to the closing bracket. -/
def readItems : Nat → Nat → List Json → List Char → Option (Json × List Char)
  | 0, _, _, _ => none
  | fuel + 1, depth, seen, cs =>
    match readValue fuel depth cs with
    | none => none
    | some (item, rest) =>
      match skipSpace rest with
      | ',' :: rest => readItems fuel depth (item :: seen) rest
      | ']' :: rest => some (.arr (item :: seen).reverse, rest)
      | _ => none

/-- The members of an object from one of them up to the closing bracket. -/
def readMembers : Nat → Nat → List (String × Json) → List Char → Option (Json × List Char)
  | 0, _, _, _ => none
  | fuel + 1, depth, seen, cs =>
    match skipSpace cs with
    | '"' :: rest =>
      match readString [] rest with
      | none => none
      | some (key, rest) =>
        match skipSpace rest with
        | ':' :: rest =>
          match readValue fuel depth rest with
          | none => none
          | some (value, rest) =>
            match skipSpace rest with
            | ',' :: rest => readMembers fuel depth ((key, value) :: seen) rest
            | '\x7d' :: rest => some (.obj ((key, value) :: seen).reverse, rest)
            | _ => none
        | _ => none
    | _ => none

end

/-- The value a text denotes, with members as written. -/
def parseWithin (depth : Nat) (text : String) : Option Json :=
  let cs := text.toList
  match readValue (2 * cs.length + 2) depth cs with
  | some (value, rest) => if (skipSpace rest).isEmpty then some value else none
  | none => none

/-- The value a text denotes, with members as written. -/
def parseRaw (text : String) : Option Json := parseWithin depthLimit text

/-- The value a text denotes, with members in key order and the last of repeated keys. -/
def parse (text : String) : Option Json := (parseRaw text).map normalize

end SolAudit.Json
