import SolAudit.Proofs.Match.Placement

/-!
# The order inside a template

The predicates of a template are tried in order, and the first that does not hold ends the evaluation, so their order
decides whether the evaluation of all of them says no or fails. Both count as no (`evalAll_eq_ok_true_iff`). The kinds of
a template are entered in a table, in which only their order could show how often each is repeated. So neither order
shows in what is found (`fileMatches_of_reorders`).
-/

namespace SolAudit.Match

open Ast Build Template

/-- Templates that differ at most in the order of their predicates and in the order and repetition of their kinds. -/
structure Reorders (template template' : Template) : Prop where
  rest : { template' with spec := template.spec } = template
  predicates : template.spec.predicates.Perm template'.spec.predicates
  kinds : ∀ kind, kind ∈ template.spec.kinds ↔ kind ∈ template'.spec.kinds

theorem evalAll_eq_ok_true_iff {arena : Arena} {position : Nat} {predicates : List Predicate} :
    evalAll arena predicates position = .ok true ↔ ∀ p ∈ predicates, eval arena p position = .ok true := by
  induction predicates with
  | nil => simp [evalAll]
  | cons p rest ih =>
    rw [evalAll, List.forall_mem_cons, ← ih]
    split
    · rename_i h
      simp [h]
    · rename_i hno
      constructor
      · intro h
        exact absurd h hno
      · rintro ⟨h, -⟩
        exact absurd h hno

theorem holdsAt_iff {arena : Arena} {template : Template} {position : Nat} :
    holdsAt arena template position = true ↔
      ∀ p ∈ template.spec.predicates, eval arena p position = .ok true := by
  rw [holdsAt_eq_true_iff, evalAll_eq_ok_true_iff]

namespace Reorders

variable {template template' : Template}

theorem name (h : Reorders template template') : template'.name = template.name := by
  rw [← h.rest]

theorem holdsAt (h : Reorders template template') (arena : Arena) (position : Nat) :
    holdsAt arena template' position = Match.holdsAt arena template position := by
  rw [Bool.eq_iff_iff, holdsAt_iff, holdsAt_iff]
  simp only [h.predicates.mem_iff]

theorem findingAt (h : Reorders template template') (arena : Arena) (resolver : Source.Resolver) (node : Node) :
    findingAt arena resolver template' node = Match.findingAt arena resolver template node := by
  rw [Match.findingAt, Match.findingAt, h.name]

end Reorders

section

variable {templates templates' : List Template}

/-- At each position both sets have a template, or neither has. -/
theorem rel_getElem? (h : List.Forall₂ Reorders templates templates') (t : Nat) :
    Option.Rel Reorders templates[t]? templates'[t]? := by
  induction h generalizing t with
  | nil => exact .none
  | cons hfirst _ ih =>
    cases t with
    | zero => exact .some hfirst
    | succ t => exact ih t

theorem positionsFor_of_reorders (h : List.Forall₂ Reorders templates templates') (kind : String) :
    (TemplateSet.ofTemplates templates).positionsFor kind = (TemplateSet.ofTemplates templates').positionsFor kind := by
  apply List.Pairwise.eq_of_mem_iff (TemplateSet.pairwise_positionsFor templates kind)
    (TemplateSet.pairwise_positionsFor templates' kind)
  intro t
  rw [TemplateSet.mem_positionsFor, TemplateSet.mem_positionsFor]
  have hrel := rel_getElem? h t
  generalize templates[t]? = template? at hrel ⊢
  generalize templates'[t]? = template'? at hrel ⊢
  cases hrel with
  | none => simp
  | some hrel => simp [hrel.kinds]

theorem matchNode_of_reorders (h : List.Forall₂ Reorders templates templates') (arena : Arena)
    (resolver : Source.Resolver) (position : Nat) (node : Node) :
    matchNode arena (.ofTemplates templates) resolver position node =
      matchNode arena (.ofTemplates templates') resolver position node := by
  rw [matchNode, matchNode, positionsFor_of_reorders h]
  apply List.filterMap_congr
  intro t _
  have hrel : Option.Rel Reorders ((TemplateSet.ofTemplates templates).get? t)
      ((TemplateSet.ofTemplates templates').get? t) := rel_getElem? h t
  generalize (TemplateSet.ofTemplates templates).get? t = template? at hrel ⊢
  generalize (TemplateSet.ofTemplates templates').get? t = template'? at hrel ⊢
  cases hrel with
  | none => rfl
  | some hrel => simp only [hrel.holdsAt, hrel.findingAt]

/-- The matches of a file do not change with the order of the predicates of a template, nor with that of its kinds and
how often each is repeated. -/
theorem fileMatches_of_reorders (h : List.Forall₂ Reorders templates templates') (arena : Arena)
    (resolver : Source.Resolver) :
    fileMatches arena (.ofTemplates templates) resolver = fileMatches arena (.ofTemplates templates') resolver := by
  simp only [fileMatches, matchNode_of_reorders h]

end

def namedTemplate (kinds : List String) (predicates : List Predicate) : Template where
  name := "named"
  description := "names"
  severity := .low
  references := ["r"]
  actionItems := ["a"]
  spec := ⟨kinds, predicates⟩
  sourceFile := "t.yaml"

def otherName : Predicate := .field "name" (.equals (.str "x"))

/-- A name is a text, and cannot be compared with a number. -/
def numericName : Predicate := .field "name" (.equals (.int 1))

theorem reorders_namedTemplate :
    Reorders (namedTemplate ["Identifier", "Block", "Identifier"] [otherName, numericName])
      (namedTemplate ["Identifier", "Identifier", "Block"] [numericName, otherName]) where
  rest := rfl
  predicates := .swap _ _ _
  kinds := by grind [namedTemplate]

/-- In one order, the predicates say no at a node; in the other, they cannot be evaluated. The matches are the same. -/
theorem reordered_namedTemplate_matches_alike : ∃ arena registry',
    buildFile tiedSource {} = (.ok arena, registry') ∧
    evalAll arena [otherName, numericName] 1 = .ok false ∧
    evalAll arena [numericName, otherName] 1 = .error (.typeMismatch "Identifier" "name" .text .int) ∧
    List.Forall₂ Reorders [namedTemplate ["Identifier", "Block", "Identifier"] [otherName, numericName]]
      [namedTemplate ["Identifier", "Identifier", "Block"] [numericName, otherName]] ∧
    fileMatches arena (.ofTemplates [namedTemplate ["Identifier", "Block", "Identifier"] [otherName, numericName]])
      (.ofTable .empty) =
    fileMatches arena (.ofTemplates [namedTemplate ["Identifier", "Identifier", "Block"] [numericName, otherName]])
      (.ofTable .empty) := by
  obtain ⟨arena, registry', hbuild, hviews⟩ := exists_buildFile_tiedAt tiedSource.path
  obtain ⟨node, hnode, hview⟩ : ∃ node, arena.node? 1 = some node ∧
      identifierView node = ("Identifier", some (.text "selfdestruct"), 2, "abc") := by
    have hget : (arena.nodes.toList.map identifierView)[1]? = (arena.node? 1).map identifierView := by
      rw [List.getElem?_map, Array.getElem?_toList]
      rfl
    rw [hviews] at hget
    exact Option.map_eq_some_iff.mp hget.symm
  obtain ⟨htag, hname, -⟩ : node.kind.tag = "Identifier" ∧ node.kind.field? "name" = some (.text "selfdestruct") ∧
      node.id = 2 ∧ node.src = "abc" := by
    simpa [identifierView] using hview
  have hno : eval arena otherName 1 = .ok false := by
    simp [otherName, eval, hnode, evalField, fieldValue, hname, testField, compare, bind, Except.bind, Except.mapError]
  have hfault : eval arena numericName 1 = .error (.typeMismatch "Identifier" "name" .text .int) := by
    simp [numericName, eval, hnode, evalField, fieldValue, hname, testField, compare, bind, Except.bind,
      Except.mapError, htag, attrNoun, scalarNoun]
  have hreorders : List.Forall₂ Reorders _ _ := .cons reorders_namedTemplate .nil
  refine ⟨arena, registry', hbuild, ?_, ?_, hreorders, fileMatches_of_reorders hreorders arena (.ofTable .empty)⟩
  · rw [evalAll, hno]
  · rw [evalAll, hfault]

end SolAudit.Match
