import SolAudit.Document.Scalar

/-!
# Templates as written

Predicates, patterns and templates before they are checked: a record of keys that may be set or not. Written as JSON, a
predicate shows the keys that are set, a pattern and a match show all of theirs.
-/

namespace SolAudit.Template

/-- What a related node looks like: one of `kinds` (any if there are none), reached through `slot` if that is given,
and with every predicate true of it. -/
structure NodePattern (P : Type) where
  kinds : List String := []
  slot : Option String := none
  predicates : List P := []
  deriving Repr

/-- The kinds of node that a template is about, and the predicates that have to hold. -/
structure MatchSpec (P : Type) where
  kinds : List String := []
  predicates : List P := []
  deriving Repr

/-- A predicate as written; a proper one sets the keys of exactly one form. -/
structure RawPredicate where
  field : Option String := none
  equals : Option Scalar := none
  oneOf : Option (List Scalar) := none
  found : Option String := none
  given : Option Bool := none
  slot : Option String := none
  present : Option Bool := none
  child : Option (NodePattern RawPredicate) := none
  descendant : Option (NodePattern RawPredicate) := none
  ancestor : Option (NodePattern RawPredicate) := none
  all : Option (List RawPredicate) := none
  any : Option (List RawPredicate) := none
  negated : Option RawPredicate := none
  deriving Repr

abbrev RawPattern := NodePattern RawPredicate

abbrev RawMatch := MatchSpec RawPredicate

structure RawTemplate where
  name : Option String := none
  description : Option String := none
  severity : Option String := none
  references : List String := []
  actionItems : List String := []
  spec : Option RawMatch := none
  deriving Repr

end SolAudit.Template
