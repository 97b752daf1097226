import SolAudit.Template.Raw

/-!
# Writing raw predicates

The JSON form of predicates, patterns and matches as written.
-/

namespace SolAudit.Template

/-- A key that is shown only if it is set. -/
def shown {α : Type} (key : String) (write : α → Json) : Option α → Json.Members
  | some value => [(key, write value)]
  | none => []

namespace RawPredicate

mutual

def toJson : RawPredicate → Json
  | ⟨field, equals, oneOf, found, given, slot, present, child, descendant, ancestor, all, any, negated⟩ =>
    Json.ofMembers (
      shown "field" .str field ++ shown "equals" Scalar.toJson equals ++
      shown "in" (fun set ↦ .arr (set.map Scalar.toJson)) oneOf ++ shown "matches" .str found ++
      shown "exists" .bool given ++ shown "slot" .str slot ++ shown "present" .bool present ++
      patternMember "child" child ++ patternMember "descendant" descendant ++ patternMember "ancestor" ancestor ++
      listMember "all" all ++ listMember "any" any ++ negatedMember negated)

def patternMember (key : String) : Option RawPattern → Json.Members
  | some pattern => [(key, patternJson pattern)]
  | none => []

def listMember (key : String) : Option (List RawPredicate) → Json.Members
  | some list => [(key, .arr (listJson list))]
  | none => []

def negatedMember : Option RawPredicate → Json.Members
  | some inner => [("not", toJson inner)]
  | none => []

def patternJson : RawPattern → Json
  | ⟨kinds, slot, predicates⟩ =>
    .obj [("kinds", Json.ofStrings kinds), ("slot", Json.ofOption .str slot), ("where", .arr (listJson predicates))]

def listJson : List RawPredicate → List Json
  | [] => []
  | p :: rest => toJson p :: listJson rest

end

end RawPredicate

def RawPattern.toJson (pattern : RawPattern) : Json := RawPredicate.patternJson pattern

def RawMatch.toJson (spec : RawMatch) : Json :=
  .obj [("kinds", Json.ofStrings spec.kinds), ("where", .arr (RawPredicate.listJson spec.predicates))]

end SolAudit.Template
