import SolAudit.Document.Data
import SolAudit.Text.Decimal

/-!
# Scalars

What a scalar says when a text, a truth value, an optional value or a literal of any of the three scalar types is
asked for. A plain scalar is a literal of the first type whose notation it fits.
-/

namespace SolAudit

/-- A literal that a field of a node is compared with. -/
inductive Scalar where
  | bool (value : Bool)
  | int (value : Int)
  | str (value : String)
  deriving DecidableEq, Repr

namespace Scalar

def toJson : Scalar → Json
  | .bool b => .bool b
  | .int n => .int n
  | .str s => .str s

end Scalar

namespace ScalarText

def isNull (text : String) : Bool := ["null", "Null", "NULL", "~"].contains text

def bool? (text : String) : Option Bool :=
  if ["true", "True", "TRUE"].contains text then some true
  else if ["false", "False", "FALSE"].contains text then some false
  else none

def digitIn? (base : Nat) (c : Char) : Option Nat :=
  let value :=
    if '0' ≤ c && c ≤ '9' then c.toNat - 48
    else if 'a' ≤ c && c ≤ 'f' then c.toNat - 87
    else if 'A' ≤ c && c ≤ 'F' then c.toNat - 55
    else base
  if value < base then some value else none

def natIn? (base : Nat) (digits : List Char) : Option Nat :=
  if digits.isEmpty then none
  else digits.foldlM (fun n c ↦ (digitIn? base c).map fun d ↦ n * base + d) 0

/-- Digits behind a zero that could be an octal number in some dialects are no number. -/
def isZeroPadded (cs : List Char) : Bool :=
  let digits := match cs with
    | '-' :: rest => rest
    | '+' :: rest => rest
    | _ => cs
  digits.length > 1 && digits.head? == some '0' && digits.all Char.isDigit

/-- The size of an integer without its sign: decimal, or after `0x`, `0o` or `0b` in that base. -/
def magnitude? (digits : List Char) : Option Nat :=
  match digits with
  | '0' :: 'x' :: rest => natIn? 16 rest
  | '0' :: 'o' :: rest => natIn? 8 rest
  | '0' :: 'b' :: rest => natIn? 2 rest
  | _ => natIn? 10 digits

/-- An integer of up to 128 bits. -/
def int? (text : String) : Option Int :=
  let cs := text.toList
  let unsigned (digits : List Char) : Option Int :=
    ((magnitude? digits).filter (· < Nat.pow 2 128)).map fun (n : Nat) ↦ (n : Int)
  if isZeroPadded cs then none
  else match cs with
    | '+' :: rest => unsigned rest
    | '-' :: rest => ((magnitude? rest).filter (· ≤ Nat.pow 2 127)).map fun (n : Nat) ↦ -(n : Int)
    | _ => unsigned cs

/-- The digits of a decimal number, the exponent that goes with them, and nothing else. -/
def decimal? (cs : List Char) : Option (List Char × Int) :=
  let whole := cs.takeWhile Char.isDigit
  let afterWhole := cs.drop whole.length
  let (fraction, afterFraction) := match afterWhole with
    | '.' :: rest => (rest.takeWhile Char.isDigit, rest.dropWhile Char.isDigit)
    | _ => ([], afterWhole)
  if whole.isEmpty && fraction.isEmpty then none
  else
    let exponent? : Option Int := match afterFraction with
      | [] => some 0
      | mark :: rest =>
        if mark != 'e' && mark != 'E' then none
        else match rest with
          | '+' :: digits => (Text.natValue? digits).map fun (n : Nat) ↦ (n : Int)
          | '-' :: digits => (Text.natValue? digits).map fun (n : Nat) ↦ -(n : Int)
          | digits => (Text.natValue? digits).map fun (n : Nat) ↦ (n : Int)
    exponent?.map fun e ↦ (whole ++ fraction, e - (fraction.length : Int))

/-- The decimal rounds to a number of 64 bits that is not infinite. -/
def isFinite (digits : List Char) (exponent : Int) : Bool :=
  let digits := digits.dropWhile (· == '0')
  let top := (digits.length : Int) + exponent
  if digits.isEmpty || top < -400 then true
  else if top > 400 then false
  else
    let n := (Text.natValue? digits).getD 0
    let (num, den) := if exponent ≥ 0 then (n * Nat.pow 10 exponent.toNat, 1) else (n, Nat.pow 10 exponent.natAbs)
    (Binary64.ofRatio num den).isSome

/-- A fraction, or one of the words for infinity and for no number. -/
def isFloat (text : String) : Bool :=
  let cs := text.toList
  let unsigned := match cs with
    | '+' :: rest => rest
    | _ => cs
  if ["+", "-"].any (fun sign ↦ sign.toList.isPrefixOf unsigned) && unsigned.length < cs.length then false
  else if [".inf", ".Inf", ".INF"].contains (String.ofList unsigned) then true
  else if ["-.inf", "-.Inf", "-.INF", ".nan", ".NaN", ".NAN"].contains text then true
  else
    let digits := match unsigned with
      | '-' :: rest => rest
      | _ => unsigned
    match decimal? digits with
    | some (digits, exponent) => isFinite digits exponent
    | none => false

/-- An integer that a literal can hold. -/
def intLiteral? (n : Int) : Option Scalar :=
  if -(Text.idBound : Int) ≤ n && n < Text.idBound then some (.int n) else none

/-- The literal that a plain scalar stands for; null and fractions are no literals. -/
def literal? (text : String) : Option Scalar :=
  if text.isEmpty || isNull text then none
  else match bool? text with
    | some b => some (.bool b)
    | none =>
      match int? text with
      | some n => intLiteral? n
      | none => if !isZeroPadded text.toList && isFloat text then none else some (.str text)

def coreTag (name : String) : String := "tag:yaml.org,2002:" ++ name

/-- The literal that a scalar with a tag stands for. A tag of the document's own is refused. -/
def tagged? (tag text : String) : Option Scalar :=
  if tag == coreTag "bool" then (bool? text).map .bool
  else if tag == coreTag "int" then (int? text).bind intLiteral?
  else if tag == coreTag "float" || tag == coreTag "null" then none
  else if tag.startsWith "!" then none
  else some (.str text)

end ScalarText

namespace Data

/-- A text; every scalar of a text notation is one. -/
def text? : Data → Option String
  | .str s => some s
  | .scalar _ _ text => some text
  | _ => none

def flag? : Data → Option Bool
  | .bool b => some b
  | .scalar .plain _ text => ScalarText.bool? text
  | .scalar .literal (some tag) text =>
    if tag == ScalarText.coreTag "bool" then ScalarText.bool? text else none
  | _ => none

def literal? : Data → Option Scalar
  | .bool b => some (.bool b)
  | .int n => ScalarText.intLiteral? n
  | .str s => some (.str s)
  | .scalar _ (some tag) text => ScalarText.tagged? tag text
  | .scalar .plain none text => ScalarText.literal? text
  | .scalar _ none text => some (.str text)
  | _ => none

/-- Whether an optional value is left out; nothing for a scalar that is tagged as null and is not. -/
def unset? : Data → Option Bool
  | .null => some true
  | .scalar .plain (some tag) text =>
    if tag == ScalarText.coreTag "null" then
      if ScalarText.isNull text then some true else none
    else some false
  | .scalar .plain none text => some (text.isEmpty || ScalarText.isNull text)
  | _ => some false

/-- An optional value, read only where it is not left out. -/
def optional? {α : Type} (data : Data) (read : Unit → Option α) : Option (Option α) :=
  match data.unset? with
  | some true => some none
  | some false => (read ()).map some
  | none => none

/-- The items of a list. -/
def items? : Data → Option (List Data)
  | .list _ items => some items
  | data => if data.isBlank then some [] else none

def texts? (data : Data) : Option (List String) := data.items?.bind fun items ↦ items.mapM text?

def literals? (data : Data) : Option (List Scalar) := data.items?.bind fun items ↦ items.mapM literal?

end Data

end SolAudit
