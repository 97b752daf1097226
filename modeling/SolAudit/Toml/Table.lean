import SolAudit.Document.Data

/-!
# TOML tables

The values of a TOML text, as far as settings need them: fractions and dates are left out. A table remembers how it came
about, because that decides what may be added to it later.
-/

namespace SolAudit.Toml

/-- How a table came about: by a header of its own, on the way to another header, through dotted keys, or as a value in
braces. -/
inductive TableKind where
  | header
  | implied
  | dotted
  | inline
  deriving DecidableEq, Repr

inductive Value where
  | bool (value : Bool)
  | int (value : Int)
  | str (value : String)
  | arr (items : List Value)
  | table (kind : TableKind) (members : List (String × Value))
  deriving Repr

abbrev Members := List (String × Value)

namespace Value

mutual

def toData : Value → Data
  | .bool b => .bool b
  | .int n => .int n
  | .str s => .str s
  | .arr items => .list true (itemsToData items)
  | .table _ members => .record (membersToData members)

def itemsToData : List Value → List Data
  | [] => []
  | item :: rest => toData item :: itemsToData rest

def membersToData : List (String × Value) → List (String × Data)
  | [] => []
  | (key, value) :: rest => (key, toData value) :: membersToData rest

end

end Value

namespace Members

def get? (members : Members) (key : String) : Option Value :=
  (members.find? fun (k, _) ↦ k == key).map (·.2)

def set (members : Members) (key : String) (value : Value) : Members :=
  match members with
  | [] => [(key, value)]
  | (k, v) :: rest => if k == key then (key, value) :: rest else (k, v) :: set rest key value

/-- Puts a value at a dotted key. Tables on the way are made, or were made by dotted keys before; the key itself must be
new. -/
def put? (members : Members) (value : Value) : List String → Option Members
  | [] => none
  | [key] => if (members.get? key).isSome then none else some (members.set key value)
  | key :: rest =>
    match members.get? key with
    | none => do return members.set key (.table .dotted (← put? [] value rest))
    | some (.table .dotted inner) => do return members.set key (.table .dotted (← put? inner value rest))
    | some (.table .implied inner) => do return members.set key (.table .implied (← put? inner value rest))
    | some _ => none

/-- Changes the table of a header. With `opening` it is made, and then must not have been made before except on the way
to another. -/
def atHeader? (opening : Bool) (change : Members → Option Members) (members : Members) :
    List String → Option Members
  | [] => change members
  | [key] =>
    match members.get? key with
    | none => if opening then do return members.set key (.table .header (← change [])) else none
    | some (.table kind inner) =>
      if opening then
        if kind == .implied then do return members.set key (.table .header (← change inner)) else none
      else do return members.set key (.table kind (← change inner))
    | some _ => none
  | key :: rest =>
    match members.get? key with
    | none => do return members.set key (.table .implied (← atHeader? opening change [] rest))
    | some (.table kind inner) =>
      if kind == .inline then none
      else do return members.set key (.table kind (← atHeader? opening change inner rest))
    | some _ => none

end Members

end SolAudit.Toml
