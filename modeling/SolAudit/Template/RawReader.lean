import SolAudit.Template.Raw

/-!
# Reading raw predicates

A record is read key by key: every key has to be one of the type's own and may occur once. A positional list gives the
fields in the order of the type. Keys that are missing keep their default.
-/

namespace SolAudit.Template

/-- The three ways in which a value is read as predicates, to be asked for when needed. -/
structure Readings where
  pattern : Unit → Option RawPattern
  predicate : Unit → Option RawPredicate
  list : Unit → Option (List RawPredicate)

namespace RawPredicate

def keys : List String :=
  ["field", "equals", "in", "matches", "exists", "slot", "present", "child", "descendant", "ancestor", "all",
    "any", "not"]

/-- Sets the field with a key. -/
def set? (key : String) (value : Data) (readings : Readings) (p : RawPredicate) : Option RawPredicate :=
  match key with
  | "field" => do return { p with field := ← value.optional? fun _ ↦ value.text? }
  | "equals" => do return { p with equals := ← value.optional? fun _ ↦ value.literal? }
  | "in" => do return { p with oneOf := ← value.optional? fun _ ↦ value.literals? }
  | "matches" => do return { p with found := ← value.optional? fun _ ↦ value.text? }
  | "exists" => do return { p with given := ← value.optional? fun _ ↦ value.flag? }
  | "slot" => do return { p with slot := ← value.optional? fun _ ↦ value.text? }
  | "present" => do return { p with present := ← value.optional? fun _ ↦ value.flag? }
  | "child" => do return { p with child := ← value.optional? readings.pattern }
  | "descendant" => do return { p with descendant := ← value.optional? readings.pattern }
  | "ancestor" => do return { p with ancestor := ← value.optional? readings.pattern }
  | "all" => do return { p with all := ← value.optional? readings.list }
  | "any" => do return { p with any := ← value.optional? readings.list }
  | "not" => do return { p with negated := ← value.optional? readings.predicate }
  | _ => none

end RawPredicate

namespace RawPattern

def keys : List String := ["kinds", "slot", "where"]

def set? (key : String) (value : Data) (readings : Readings) (p : RawPattern) : Option RawPattern :=
  match key with
  | "kinds" => do return { p with kinds := ← value.texts? }
  | "slot" => do return { p with slot := ← value.optional? fun _ ↦ value.text? }
  | "where" => do return { p with predicates := ← readings.list () }
  | _ => none

end RawPattern

mutual

def readPredicate : Data → Option RawPredicate
  | .record members => if Data.distinctKeys members then predicateOfMembers members else none
  | .list true items => predicateOfItems RawPredicate.keys items
  | .scalar .plain _ "" => some {}
  | _ => none

def predicateOfMembers : List (String × Data) → Option RawPredicate
  | [] => some {}
  | (key, value) :: rest => do
    let p ← predicateOfMembers rest
    p.set? key value
      { pattern := fun _ ↦ readPattern value
        predicate := fun _ ↦ readPredicate value
        list := fun _ ↦ readPredicates value }

/-- Fields in order, for the keys that are left. -/
def predicateOfItems (keys : List String) : List Data → Option RawPredicate
  | [] => some {}
  | value :: rest =>
    match keys with
    | [] => none
    | key :: keys => do
      let p ← predicateOfItems keys rest
      p.set? key value
        { pattern := fun _ ↦ readPattern value
          predicate := fun _ ↦ readPredicate value
          list := fun _ ↦ readPredicates value }

def readPattern : Data → Option RawPattern
  | .record members => if Data.distinctKeys members then patternOfMembers members else none
  | .list true items => patternOfItems RawPattern.keys items
  | .scalar .plain _ "" => some {}
  | _ => none

def patternOfMembers : List (String × Data) → Option RawPattern
  | [] => some {}
  | (key, value) :: rest => do
    let p ← patternOfMembers rest
    RawPattern.set? key value
      { pattern := fun _ ↦ readPattern value
        predicate := fun _ ↦ readPredicate value
        list := fun _ ↦ readPredicates value } p

def patternOfItems (keys : List String) : List Data → Option RawPattern
  | [] => some {}
  | value :: rest =>
    match keys with
    | [] => none
    | key :: keys => do
      let p ← patternOfItems keys rest
      RawPattern.set? key value
        { pattern := fun _ ↦ readPattern value
          predicate := fun _ ↦ readPredicate value
          list := fun _ ↦ readPredicates value } p

def readPredicates : Data → Option (List RawPredicate)
  | .list _ items => predicatesOfItems items
  | .scalar .plain _ "" => some []
  | _ => none

def predicatesOfItems : List Data → Option (List RawPredicate)
  | [] => some []
  | item :: rest => do return (← readPredicate item) :: (← predicatesOfItems rest)

end

/-- The values of a record with the given keys, each key at most once. -/
def fieldsOf (keys : List String) : Data → Option (List (String × Data))
  | .record members =>
    if Data.distinctKeys members && members.all (fun (key, _) ↦ keys.contains key) then some members else none
  | .list true items => if items.length ≤ keys.length then some (keys.zip items) else none
  | data => if data.isBlank then some [] else none

def fieldAt? (key : String) : List (String × Data) → Option Data
  | [] => none
  | (k, value) :: rest => if k == key then some value else fieldAt? key rest

/-- The value of a key, or a default where the key is missing. -/
def fieldOr {α : Type} (fields : List (String × Data)) (key : String) (fallback : α) (read : Data → Option α) :
    Option α :=
  match fieldAt? key fields with
  | some value => read value
  | none => some fallback

def optionalText? (data : Data) : Option (Option String) := data.optional? fun _ ↦ data.text?

def readMatch (data : Data) : Option RawMatch := do
  let fields ← fieldsOf ["kinds", "where"] data
  return {
    kinds := ← fieldOr fields "kinds" [] Data.texts?
    predicates := ← fieldOr fields "where" [] readPredicates }

namespace RawTemplate

def keys : List String := ["name", "description", "severity", "references", "action_items", "match"]

/-- Reads a template. A positional list has to give all fields. -/
def read? (data : Data) : Option RawTemplate := do
  let fields ← fieldsOf keys data
  if let .list .. := data then
    if fields.length < keys.length then failure
  return {
    name := ← fieldOr fields "name" none optionalText?
    description := ← fieldOr fields "description" none optionalText?
    severity := ← fieldOr fields "severity" none optionalText?
    references := ← fieldOr fields "references" [] Data.texts?
    actionItems := ← fieldOr fields "action_items" [] Data.texts?
    spec := ← fieldOr fields "match" none fun value ↦ value.optional? fun _ ↦ readMatch value }

/-- Reads the templates of a document, its only and required key. -/
def readAll? (data : Data) : Option (List RawTemplate) := do
  let fields ← fieldsOf ["templates"] data
  let list ← fieldAt? "templates" fields
  (← list.items?).mapM read?

end RawTemplate

end SolAudit.Template
