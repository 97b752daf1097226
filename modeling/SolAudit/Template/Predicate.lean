import SolAudit.Regex.Size
import SolAudit.Template.Raw

/-!
# Predicates

A compiled predicate has exactly one form, and the regular expressions in it have been read. `compile` accepts the raw
predicates that set the keys of one form, and `toRaw` writes a predicate with those keys again.
-/

namespace SolAudit.Template

/-- A regular expression together with the text that it was read from. -/
structure TextTest where
  source : String
  regex : Regex
  parsed : Regex.parse? source = some regex

namespace TextTest

def ofSource? (source : String) : Option TextTest :=
  match h : Regex.parse? source with
  | some regex => some ⟨source, regex, h⟩
  | none => none

end TextTest

/-- What is asked of the value of a field. -/
inductive FieldTest where
  | equals (value : Scalar)
  | oneOf (values : List Scalar)
  | found (test : TextTest)
  | given (expected : Bool)

inductive Predicate where
  | field (name : String) (test : FieldTest)
  | slot (name : String) (present : Bool)
  | child (pattern : NodePattern Predicate)
  | descendant (pattern : NodePattern Predicate)
  | ancestor (pattern : NodePattern Predicate)
  | all (list : List Predicate)
  | any (list : List Predicate)
  | not (inner : Predicate)

/-- The forms of a predicate, in the order in which they are listed. -/
inductive Form where
  | field
  | slot
  | child
  | descendant
  | ancestor
  | all
  | any
  | not
  deriving DecidableEq, Repr

def Form.name : Form → String
  | .field => "field"
  | .slot => "slot"
  | .child => "child"
  | .descendant => "descendant"
  | .ancestor => "ancestor"
  | .all => "all"
  | .any => "any"
  | .not => "not"

inductive CompileError where
  | empty
  | mixed (forms : List Form)
  | fieldTest (field : String)
  | orphan (key : String) (form : Form)
  | emptyList (form : Form)
  | regex (pattern : String)
  | noKinds
  deriving DecidableEq, Repr

namespace CompileError

def message : CompileError → String
  | .empty => "predicate has no recognised form"
  | .mixed forms => "predicate mixes forms: " ++ ", ".intercalate (forms.map Form.name)
  | .fieldTest field => s!"field '{field}' needs exactly one of equals, in, matches, exists"
  | .orphan key form => s!"'{key}' is only valid together with '{form.name}'"
  | .emptyList form => s!"'{form.name}' needs at least one predicate"
  | .regex pattern => s!"invalid regex '{pattern}'"
  | .noKinds => "match needs at least one target kind"

end CompileError

namespace NodePattern

/-- A kind that the pattern allows. -/
def accepts {P : Type} (pattern : NodePattern P) (kind : String) : Bool :=
  pattern.kinds.isEmpty || pattern.kinds.contains kind

end NodePattern

namespace RawPredicate

def hasFieldTest (p : RawPredicate) : Bool :=
  p.equals.isSome || p.oneOf.isSome || p.found.isSome || p.given.isSome

/-- The forms of which some key is set. -/
def forms (p : RawPredicate) : List Form :=
  [(p.field.isSome || p.hasFieldTest, Form.field), (p.slot.isSome || p.present.isSome, .slot),
    (p.child.isSome, .child), (p.descendant.isSome, .descendant), (p.ancestor.isSome, .ancestor),
    (p.all.isSome, .all), (p.any.isSome, .any), (p.negated.isSome, .not)].filterMap
      fun (isSet, form) ↦ if isSet then some form else none

/-- The test of a field, of which exactly one key has to be set. -/
def compileField (p : RawPredicate) : Except CompileError Predicate :=
  match p.field with
  | none =>
    let key :=
      if p.equals.isSome then "equals"
      else if p.oneOf.isSome then "in"
      else if p.found.isSome then "matches"
      else "exists"
    .error (.orphan key .field)
  | some field =>
    match p.equals, p.oneOf, p.found, p.given with
    | some value, none, none, none => .ok (.field field (.equals value))
    | none, some values, none, none => .ok (.field field (.oneOf values))
    | none, none, some source, none =>
      match TextTest.ofSource? source with
      | some test => .ok (.field field (.found test))
      | none => .error (.regex source)
    | none, none, none, some expected => .ok (.field field (.given expected))
    | _, _, _, _ => .error (.fieldTest field)

/-- The presence of a slot, which is expected unless the predicate says otherwise. -/
def compileSlot (p : RawPredicate) : Except CompileError Predicate :=
  match p.slot with
  | some slot => .ok (.slot slot (p.present.getD true))
  | none => .error (.orphan "present" .slot)

mutual

def compile : RawPredicate → Except CompileError Predicate
  | ⟨field, equals, oneOf, found, given, slot, present, child, descendant, ancestor, all, any, negated⟩ =>
    let p : RawPredicate :=
      ⟨field, equals, oneOf, found, given, slot, present, child, descendant, ancestor, all, any, negated⟩
    match p.forms with
    | [] => .error .empty
    | [.field] => p.compileField
    | [.slot] => p.compileSlot
    | [.child] => compileOption .child child
    | [.descendant] => compileOption .descendant descendant
    | [.ancestor] => compileOption .ancestor ancestor
    | [.all] => compileList .all .all all
    | [.any] => compileList .any .any any
    | [.not] => compileNegated negated
    | forms => .error (.mixed forms)

/-- The predicate that a pattern makes, if there is one. -/
def compileOption (make : NodePattern Predicate → Predicate) : Option RawPattern → Except CompileError Predicate
  | some pattern => (compilePattern pattern).map make
  | none => .error .empty

/-- The predicate that a list makes, which must not be empty. -/
def compileList (form : Form) (make : List Predicate → Predicate) :
    Option (List RawPredicate) → Except CompileError Predicate
  | some [] => .error (.emptyList form)
  | some (p :: rest) => do return make ((← compile p) :: (← compileAll rest))
  | none => .error .empty

def compileNegated : Option RawPredicate → Except CompileError Predicate
  | some inner => (compile inner).map .not
  | none => .error .empty

def compilePattern : RawPattern → Except CompileError (NodePattern Predicate)
  | ⟨kinds, slot, predicates⟩ => (compileAll predicates).map fun compiled ↦ ⟨kinds, slot, compiled⟩

def compileAll : List RawPredicate → Except CompileError (List Predicate)
  | [] => .ok []
  | p :: rest => do return (← compile p) :: (← compileAll rest)

end

end RawPredicate

def RawMatch.compile (spec : RawMatch) : Except CompileError (MatchSpec Predicate) :=
  if spec.kinds.isEmpty then .error .noKinds
  else (RawPredicate.compileAll spec.predicates).map fun compiled ↦ ⟨spec.kinds, compiled⟩

/-! ## Writing predicates back -/

namespace FieldTest

def toRaw (field : String) : FieldTest → RawPredicate
  | .equals value => { field := some field, equals := some value }
  | .oneOf values => { field := some field, oneOf := some values }
  | .found test => { field := some field, found := some test.source }
  | .given expected => { field := some field, given := some expected }

end FieldTest

namespace Predicate

mutual

def toRaw : Predicate → RawPredicate
  | .field name test => test.toRaw name
  | .slot name present => { slot := some name, present := some present }
  | .child pattern => { child := some (patternToRaw pattern) }
  | .descendant pattern => { descendant := some (patternToRaw pattern) }
  | .ancestor pattern => { ancestor := some (patternToRaw pattern) }
  | .all list => { all := some (listToRaw list) }
  | .any list => { any := some (listToRaw list) }
  | .not inner => { negated := some (toRaw inner) }

def patternToRaw : NodePattern Predicate → RawPattern
  | ⟨kinds, place, predicates⟩ => ⟨kinds, place, listToRaw predicates⟩

def listToRaw : List Predicate → List RawPredicate
  | [] => []
  | p :: rest => toRaw p :: listToRaw rest

end

end Predicate

end SolAudit.Template
