import SolAudit.Match.Eval
import SolAudit.Proofs.Build.Subtrees
import SolAudit.Proofs.Build.TypedObjects

/-!
# Evaluating predicates on trees

`treeEval` evaluates a predicate at a place of a tree, with no positions in it: children are tried from left to
right, what is below a place in pre-order, and what is around it from the nearest to the root. A pattern is tried with
the slot by which a candidate hangs on its parent, or by which the path from the candidate down to the place leaves it.
At the place of a position `treeEval` agrees with the evaluation on the arena, down to the error (`eval_eq_treeEval`).
`checkedEval` is the evaluation on the arena with every look-up of a node or an extent checked; in a well-formed arena
none fails.
-/

namespace SolAudit.Match

open Ast Template

/-- A scalar as a value that a node may have. -/
def valueOf : Scalar → Attr
  | .str s => .text s
  | .bool b => .flag b
  | .int n => .int n

def typeOf : Attr → ValueType
  | .text _ => .text
  | .flag _ => .flag
  | .int _ => .int
  | .absent => .nothing

/-- Whether a value is one of several scalars, or the type of the first if the value is there and none has its type. -/
def isAmong (value : Attr) : List Scalar → Except ValueType Bool
  | [] => .ok false
  | first :: rest =>
    let values := (first :: rest).map valueOf
    if value ∈ values then .ok true
    else if value = .absent ∨ typeOf value ∈ values.map typeOf then .ok false
    else .error (typeOf (valueOf first))

/-- Whether a value passes a test, or the type that it should have. -/
def treeTest (value : Attr) : FieldTest → Except ValueType Bool
  | .given expected => .ok (decide (value ≠ .absent) == expected)
  | .equals scalar => isAmong value [scalar]
  | .oneOf scalars => isAmong value scalars
  | .found test =>
    match value with
    | .text s => .ok (test.regex.isFoundIn s)
    | .absent => .ok false
    | _ => .error .text

/-- The value of a field, where a node has it. The type and the id of a node are fields of every node. -/
def valueIn? (node : Node) (name : String) : Option Attr :=
  if name = "nodeType" then some (.text node.kind.tag)
  else if name = "id" then some (.int node.id)
  else (node.kind.fields.find? fun (field, _) ↦ field.asked && field.key == name).map fun (_, value) ↦ value.attr

/-- Whether the field of a node passes a test. -/
def treeField (node : Node) (name : String) (test : FieldTest) : Except MatchError Bool :=
  match valueIn? node name with
  | none => .error (.unknownField node.kind.tag name)
  | some value =>
    match treeTest value test with
    | .ok holds => .ok holds
    | .error expected => .error (.typeMismatch node.kind.tag name (typeOf value) expected)

/-- The first result that is an error or a yes. -/
def firstDecided (results : List (Except MatchError Bool)) : Except MatchError Bool :=
  (results.find? (· ≠ .ok false)).getD (.ok false)

mutual

/-- Whether a predicate holds at a place of a tree. -/
def treeEval : Predicate → Focus → Except MatchError Bool
  | .field name test, place => treeField place.here.data name test
  | .slot name present, place =>
    if place.children.any fun child ↦ child.here.slot.isNone then
      .error (.unnamedSlots place.here.data.kind.tag name)
    else .ok ((place.children.any fun child ↦ child.here.slot == some name) == present)
  | .child pattern, place => firstDecided (place.children.map fun child ↦ treePattern pattern child child.here.slot)
  | .descendant pattern, place =>
    firstDecided (place.descendants.map fun lower ↦ treePattern pattern lower lower.here.slot)
  | .ancestor pattern, place => firstDecided (place.ancestors.map fun (upper, slot) ↦ treePattern pattern upper slot)
  | .all list, place => treeAll list place
  | .any list, place => treeAny list place
  | .not inner, place => (treeEval inner place).map (!·)

/-- Whether a place that is reached through a slot is as a pattern says. -/
def treePattern : NodePattern Predicate → Focus → Option String → Except MatchError Bool
  | ⟨kinds, wanted, predicates⟩, place, slot =>
    if (wanted = none ∨ slot = wanted) ∧ (kinds = [] ∨ place.here.data.kind.tag ∈ kinds) then treeAll predicates place
    else .ok false

def treeAll : List Predicate → Focus → Except MatchError Bool
  | [], _ => .ok true
  | p :: rest, place =>
    match treeEval p place with
    | .ok true => treeAll rest place
    | decided => decided

def treeAny : List Predicate → Focus → Except MatchError Bool
  | [], _ => .ok false
  | p :: rest, place =>
    match treeEval p place with
    | .ok false => treeAny rest place
    | decided => decided

end

theorem firstHolds_map {α β : Type} (test : β → Except MatchError Bool) (f : α → β) (l : List α) :
    firstHolds test (l.map f) = firstHolds (fun a ↦ test (f a)) l := by
  induction l with
  | nil => rfl
  | cons a rest ih => rw [List.map_cons, firstHolds, firstHolds, ih]

theorem firstHolds_eq {α : Type} (test : α → Except MatchError Bool) (l : List α) :
    firstHolds test l = firstDecided (l.map test) := by
  induction l with
  | nil => rfl
  | cons a rest ih =>
    rw [firstHolds, ih, firstDecided, firstDecided, List.map_cons, List.find?_cons]
    rcases test a with e | (_ | _) <;> rfl

/-- Candidates that correspond one by one, with tests that agree on them, are decided alike. -/
theorem firstHolds_eq_of_forall₂ {α β : Type} {R : α → β → Prop} {f : α → Except MatchError Bool}
    {g : β → Except MatchError Bool} (hagree : ∀ a b, R a b → f a = g b) {l : List α} {l' : List β}
    (h : List.Forall₂ R l l') : firstHolds f l = firstDecided (l'.map g) := by
  have hresults : l.map f = l'.map g := by
    induction h with
    | nil => rfl
    | cons hab _ ih => rw [List.map_cons, List.map_cons, hagree _ _ hab, ih]
  rw [firstHolds_eq, hresults]

theorem any_eq_of_forall₂ {α β : Type} {R : α → β → Prop} {f : α → Bool} {g : β → Bool}
    (hagree : ∀ a b, R a b → f a = g b) {l : List α} {l' : List β} (h : List.Forall₂ R l l') :
    l.any f = l'.any g := by
  induction h with
  | nil => rfl
  | cons hab _ ih => rw [List.any_cons, List.any_cons, hagree _ _ hab, ih]

theorem attrNoun_eq (value : Attr) : attrNoun value = typeOf value := by
  cases value <;> rfl

theorem scalarNoun_eq (scalar : Scalar) : scalarNoun scalar = typeOf (valueOf scalar) := by
  cases scalar <;> rfl

theorem compare_eq_true_iff {value : Attr} {scalar : Scalar} :
    compare value scalar = some true ↔ value = valueOf scalar := by
  cases value <;> cases scalar <;> simp [compare, valueOf]

theorem compare_eq_false_iff {value : Attr} {scalar : Scalar} :
    compare value scalar = some false ↔
      value ≠ valueOf scalar ∧ (value = .absent ∨ typeOf value = typeOf (valueOf scalar)) := by
  cases value <;> cases scalar <;> simp [compare, valueOf, typeOf]

theorem compareAny_singleton (value : Attr) (scalar : Scalar) : compareAny value [scalar] = compare value scalar := by
  rw [compareAny, List.map_singleton]
  rcases compare value scalar with _ | _ | _ <;> rfl

theorem contains_true_iff {value : Attr} {scalars : List Scalar} :
    (scalars.map (compare value)).contains (some true) = true ↔ value ∈ scalars.map valueOf := by
  rw [List.contains_iff_mem, List.mem_map, List.mem_map]
  exact exists_congr fun scalar ↦ and_congr_right' (compare_eq_true_iff.trans eq_comm)

/-- A value that is none of some scalars compares with one of them if it is absent or has the type of one. -/
theorem contains_false_iff {value : Attr} {first : Scalar} {rest : List Scalar}
    (hnot : value ∉ (first :: rest).map valueOf) :
    ((first :: rest).map (compare value)).contains (some false) = true ↔
      value = .absent ∨ typeOf value ∈ ((first :: rest).map valueOf).map typeOf := by
  have hne : ∀ scalar ∈ first :: rest, value ≠ valueOf scalar := fun scalar hscalar heq ↦
    hnot (heq ▸ List.mem_map_of_mem hscalar)
  rw [List.contains_iff_mem, List.map_map, List.mem_map, List.mem_map]
  constructor
  · rintro ⟨scalar, hscalar, hcompare⟩
    rcases (compare_eq_false_iff.mp hcompare).2 with habsent | htype
    · exact .inl habsent
    · exact .inr ⟨scalar, hscalar, htype.symm⟩
  · rintro (habsent | ⟨scalar, hscalar, htype⟩)
    · exact ⟨first, List.mem_cons_self, compare_eq_false_iff.mpr ⟨hne _ List.mem_cons_self, .inl habsent⟩⟩
    · exact ⟨scalar, hscalar, compare_eq_false_iff.mpr ⟨hne _ hscalar, .inr htype.symm⟩⟩

theorem testField_oneOf (value : Attr) (scalars : List Scalar) :
    testField value (.oneOf scalars) = isAmong value scalars := by
  cases scalars with
  | nil => rfl
  | cons first rest =>
    rw [testField, compareAny, isAmong]
    by_cases hmem : value ∈ (first :: rest).map valueOf
    · simp only [contains_true_iff, hmem, if_true]
    · simp only [contains_true_iff, hmem, contains_false_iff hmem, List.isEmpty_cons, Bool.false_or, if_false]
      by_cases htype : value = .absent ∨ typeOf value ∈ ((first :: rest).map valueOf).map typeOf
      · simp only [htype, if_true]
      · simp only [htype, if_false, List.head?_cons, Option.map_some, Option.getD_some, scalarNoun_eq]

theorem testField_eq (value : Attr) (test : FieldTest) : testField value test = treeTest value test := by
  cases test with
  | equals scalar =>
    rw [treeTest, ← testField_oneOf, testField, testField, compareAny_singleton]
    rfl
  | oneOf scalars => exact testField_oneOf value scalars
  | found test => cases value <;> rfl
  | given expected => cases value <;> cases expected <;> rfl

theorem evalField_eq (node : Node) (name : String) (test : FieldTest) :
    evalField node name test = treeField node name test := by
  have hvalue : fieldValue node name =
      (valueIn? node name).elim (.error (.unknownField node.kind.tag name)) .ok := by
    unfold fieldValue valueIn?
    split
    · rfl
    · rfl
    · rename_i htype hid
      rw [if_neg htype, if_neg hid]
      change _ = (node.kind.field? name).elim _ _
      cases node.kind.field? name <;> rfl
  rw [evalField, hvalue, treeField]
  cases valueIn? node name with
  | none => rfl
  | some value =>
    simp only [Option.elim_some, bind, Except.bind, testField_eq, attrNoun_eq]
    cases treeTest value test <;> rfl

theorem slotFits_iff {wanted slot : Option String} : slotFits wanted slot = true ↔ wanted = none ∨ slot = wanted := by
  rw [slotFits, Bool.or_eq_true, Option.isNone_iff_eq_none, beq_iff_eq, eq_comm (a := wanted) (b := slot)]

variable {arena : Arena}

/-- A slot test looks at the edges of the node alone. -/
theorem evalSlot_eq_of_node? {position : Nat} {node : Node} (hnode : arena.node? position = some node) (name : String)
    (present : Bool) :
    evalSlot arena position node name present =
      if node.children.any fun edge ↦ edge.slot.isNone then .error (.unnamedSlots node.kind.tag name)
      else .ok ((node.children.any fun edge ↦ edge.slot == some name) == present) := by
  rw [evalSlot, Arena.slotChild?, Option.isSome_map, List.isSome_find?, Arena.children, hnode, Array.any_toList]

theorem evalSlot_eq (h : arena.WellFormed) {position : Nat} {place : Focus}
    (hplace : arena.Stands position place) {node : Node}
    (hnode : arena.node? position = some node) (hdata : place.here.data = node.bare)
    (name : String) (present : Bool) :
    evalSlot arena position node name present = treeEval (.slot name present) place := by
  have hany (test : Option String → Bool) :
      (node.children.any fun edge ↦ test edge.slot) = place.children.any fun child ↦ test child.here.slot := by
    have hchildren : arena.children position = node.children.toList := by
      rw [Arena.children, hnode]
    rw [← Array.any_toList, ← hchildren]
    refine any_eq_of_forall₂ ?_ (hplace.children h)
    rintro edge child ⟨-, hslot⟩
    rw [hslot]
  rw [evalSlot_eq_of_node? hnode, treeEval, hany Option.isNone, hany (· == some name), hdata, Node.bare_kind]

theorem forall₂_relatedChildren (h : arena.WellFormed) {position : Nat} {place : Focus}
    (hplace : arena.Stands position place) :
    List.Forall₂ (fun related child ↦ arena.Stands related.position child ∧ related.slot = child.here.slot)
      (relatedChildren arena position) place.children := by
  rw [relatedChildren, List.forall₂_map_left_iff]
  apply (hplace.children h).imp
  rintro edge child ⟨hchild, hslot⟩
  exact ⟨hchild, hslot.symm⟩

theorem forall₂_relatedDescendants (h : arena.WellFormed) {position : Nat} {place : Focus}
    (hplace : arena.Stands position place) :
    List.Forall₂ (fun related lower ↦ arena.Stands related.position lower ∧ related.slot = lower.here.slot)
      (relatedDescendants arena position) place.descendants := by
  rw [relatedDescendants, List.forall₂_map_left_iff]
  apply (hplace.descendants h).imp
  intro d lower hlower
  obtain ⟨-, -, -, hslot, -⟩ := hlower.here.inv h
  exact ⟨hlower, hslot.symm⟩

theorem forall₂_relatedAncestors (h : arena.WellFormed) {position : Nat} {place : Focus}
    (hplace : arena.Stands position place) :
    List.Forall₂ (fun related (upper, slot) ↦ arena.Stands related.position upper ∧ related.slot = slot)
      (relatedAncestors arena position) place.ancestors := by
  rw [relatedAncestors, List.forall₂_map_left_iff]
  apply (hplace.ancestors h).imp
  rintro ⟨a, lower⟩ ⟨upper, slot⟩ ⟨hupper, hslot⟩
  exact ⟨hupper, hslot.symm⟩

mutual

/-- At the place of a position a predicate has the value, or the error, that it has at the position. -/
theorem eval_eq_treeEval (h : arena.WellFormed) : ∀ (p : Predicate) {position : Nat} {place : Focus},
    arena.Stands position place → eval arena p position = treeEval p place
  | .field name test, position, place, hplace => by
    obtain ⟨node, hnode, hdata, -⟩ := hplace.here.inv h
    rw [eval, treeEval, hnode, hdata]
    exact evalField_eq node name test
  | .slot name present, position, place, hplace => by
    obtain ⟨node, hnode, hdata, -⟩ := hplace.here.inv h
    rw [eval, hnode]
    exact evalSlot_eq h hplace hnode hdata name present
  | .child pattern, position, place, hplace => by
    rw [eval, treeEval]
    refine firstHolds_eq_of_forall₂ ?_ (forall₂_relatedChildren h hplace)
    rintro ⟨i, slot⟩ child ⟨hchild, rfl⟩
    exact evalPattern_eq_treePattern h pattern _ hchild
  | .descendant pattern, position, place, hplace => by
    rw [eval, treeEval]
    refine firstHolds_eq_of_forall₂ ?_ (forall₂_relatedDescendants h hplace)
    rintro ⟨i, slot⟩ lower ⟨hlower, rfl⟩
    exact evalPattern_eq_treePattern h pattern _ hlower
  | .ancestor pattern, position, place, hplace => by
    rw [eval, treeEval]
    refine firstHolds_eq_of_forall₂ ?_ (forall₂_relatedAncestors h hplace)
    rintro ⟨i, slot⟩ ⟨upper, _⟩ ⟨hupper, rfl⟩
    exact evalPattern_eq_treePattern h pattern _ hupper
  | .all list, position, place, hplace => by
    rw [eval, treeEval]
    exact evalAll_eq_treeAll h list hplace
  | .any list, position, place, hplace => by
    rw [eval, treeEval]
    exact evalAny_eq_treeAny h list hplace
  | .not inner, position, place, hplace => by
    rw [eval, treeEval, eval_eq_treeEval h inner hplace]

theorem evalPattern_eq_treePattern (h : arena.WellFormed) : ∀ (pattern : NodePattern Predicate)
    {position : Nat} {place : Focus} (slot : Option String), arena.Stands position place →
      evalPattern arena pattern ⟨position, slot⟩ = treePattern pattern place slot
  | ⟨kinds, wanted, predicates⟩, position, place, slot, hplace => by
    obtain ⟨node, hnode, hdata, -⟩ := hplace.here.inv h
    rw [evalPattern, treePattern, hnode, hdata, evalAll_eq_treeAll h predicates hplace]
    simp only [← slotFits_iff]
    cases slotFits wanted slot <;> simp

theorem evalAll_eq_treeAll (h : arena.WellFormed) : ∀ (list : List Predicate) {position : Nat} {place : Focus},
    arena.Stands position place → evalAll arena list position = treeAll list place
  | [], _, _, _ => by rw [evalAll, treeAll]
  | p :: rest, position, place, hplace => by
    rw [evalAll, treeAll, eval_eq_treeEval h p hplace]
    cases treeEval p place with
    | error e => rfl
    | ok holds =>
      cases holds with
      | true => exact evalAll_eq_treeAll h rest hplace
      | false => rfl

theorem evalAny_eq_treeAny (h : arena.WellFormed) : ∀ (list : List Predicate) {position : Nat} {place : Focus},
    arena.Stands position place → evalAny arena list position = treeAny list place
  | [], _, _, _ => by rw [evalAny, treeAny]
  | p :: rest, position, place, hplace => by
    rw [evalAny, treeAny, eval_eq_treeEval h p hplace]
    cases treeEval p place with
    | error e => rfl
    | ok holds =>
      cases holds with
      | false => exact evalAny_eq_treeAny h rest hplace
      | true => rfl

end

/-! ## Look-ups -/

/-- The first candidate that decides, as long as every look-up of the candidates before it succeeds. -/
def firstChecked {α : Type} (test : α → Option (Except MatchError Bool)) :
    List α → Option (Except MatchError Bool)
  | [] => some (.ok false)
  | a :: rest => (test a).bind fun result ↦
    match result with
    | .ok false => firstChecked test rest
    | decided => some decided

/-- The slot of a node, for which the node of its parent is looked up. -/
def checkedSlot (arena : Arena) (position : Nat) : Option (Option String) :=
  match arena.parent? position with
  | none => some none
  | some parent => (arena.node? parent).map fun node ↦
    (node.children.toList.find? (·.node == position)).bind Edge.slot

mutual

/-- Evaluation in which looking up a node or an extent that is not there is a failure of its own. -/
def checkedEval (arena : Arena) : Predicate → Nat → Option (Except MatchError Bool)
  | .field name test, position => (arena.node? position).map fun node ↦ treeField node name test
  | .slot name present, position => (arena.node? position).map fun node ↦
    if node.children.any fun edge ↦ edge.slot.isNone then .error (.unnamedSlots node.kind.tag name)
    else .ok ((node.children.any fun edge ↦ edge.slot == some name) == present)
  | .child pattern, position => (arena.node? position).bind fun node ↦
    firstChecked (fun edge ↦ checkedPattern arena pattern edge.node edge.slot) node.children.toList
  | .descendant pattern, position => arena.ends[position]?.bind fun stop ↦
    firstChecked (fun d ↦ (checkedSlot arena d).bind (checkedPattern arena pattern d))
      (List.range' (position + 1) (stop - (position + 1)))
  | .ancestor pattern, position =>
    firstChecked (fun (a, lower) ↦ (checkedSlot arena lower).bind (checkedPattern arena pattern a))
      ((arena.ancestors position).zip (position :: arena.ancestors position))
  | .all list, position => checkedAll arena list position
  | .any list, position => checkedAny arena list position
  | .not inner, position => (checkedEval arena inner position).map fun result ↦ result.map (!·)

def checkedPattern (arena : Arena) : NodePattern Predicate → Nat → Option String →
    Option (Except MatchError Bool)
  | ⟨kinds, wanted, predicates⟩, position, slot =>
    if wanted = none ∨ slot = wanted then
      (arena.node? position).bind fun node ↦
        if kinds = [] ∨ node.kind.tag ∈ kinds then checkedAll arena predicates position else some (.ok false)
    else some (.ok false)

def checkedAll (arena : Arena) : List Predicate → Nat → Option (Except MatchError Bool)
  | [], _ => some (.ok true)
  | p :: rest, position => (checkedEval arena p position).bind fun result ↦
    match result with
    | .ok true => checkedAll arena rest position
    | decided => some decided

def checkedAny (arena : Arena) : List Predicate → Nat → Option (Except MatchError Bool)
  | [], _ => some (.ok false)
  | p :: rest, position => (checkedEval arena p position).bind fun result ↦
    match result with
    | .ok false => checkedAny arena rest position
    | decided => some decided

end

theorem firstChecked_eq {α : Type} {test : α → Option (Except MatchError Bool)}
    {f : α → Except MatchError Bool} {l : List α} (h : ∀ a ∈ l, test a = some (f a)) :
    firstChecked test l = some (firstHolds f l) := by
  induction l with
  | nil => rfl
  | cons a rest ih =>
    rw [firstChecked, firstHolds, h a List.mem_cons_self, Option.bind_some,
      ih fun b hb ↦ h b (List.mem_cons_of_mem _ hb)]
    cases f a with
    | error e => rfl
    | ok holds => cases holds <;> rfl

theorem checkedSlot_eq (h : arena.WellFormed) (position : Nat) :
    checkedSlot arena position = some (arena.edgeSlot? position) := by
  rw [checkedSlot, Arena.edgeSlot?]
  cases hparent : arena.parent? position with
  | none => rfl
  | some parent =>
    have hlt : parent < arena.size :=
      Nat.lt_trans (h.parent_lt position parent hparent) (h.lt_size hparent)
    obtain ⟨node, hnode⟩ := Arena.exists_node? hlt
    simp [Arena.children, hnode, bind]

mutual

/-- From a position of the arena, no look-up fails. -/
theorem checkedEval_eq (h : arena.WellFormed) : ∀ (p : Predicate) {position : Nat}, position < arena.size →
    checkedEval arena p position = some (eval arena p position)
  | .field name test, position, hlt => by
    obtain ⟨node, hnode⟩ := Arena.exists_node? hlt
    rw [checkedEval, eval, hnode]
    exact congrArg some (evalField_eq node name test).symm
  | .slot name present, position, hlt => by
    obtain ⟨node, hnode⟩ := Arena.exists_node? hlt
    rw [checkedEval, eval, hnode]
    exact congrArg some (evalSlot_eq_of_node? hnode name present).symm
  | .child pattern, position, hlt => by
    obtain ⟨node, hnode⟩ := Arena.exists_node? hlt
    have hchildren : arena.children position = node.children.toList := by
      rw [Arena.children, hnode]
    rw [checkedEval, eval, relatedChildren, hnode, Option.bind_some, ← hchildren, firstHolds_map]
    apply firstChecked_eq
    intro edge hedge
    have hparent := (h.edge_iff position edge.node).mp (List.mem_map_of_mem hedge)
    exact checkedPattern_eq h pattern edge.slot (h.lt_size hparent)
  | .descendant pattern, position, hlt => by
    have hstop : arena.ends[position]? = some (arena.stop position) := by
      have hend : position < arena.ends.size := h.size_ends ▸ hlt
      rw [Arena.stop_eq_getElem hend, Array.getElem?_eq_getElem hend]
    rw [checkedEval, eval, relatedDescendants, hstop, Option.bind_some, firstHolds_map]
    apply firstChecked_eq
    intro d hd
    obtain ⟨parent, hparent, -⟩ :=
      (Arena.mem_ancestors_iff h.parent_lt).mp ((h.mem_descendants_iff position d).mp hd)
    rw [checkedSlot_eq h, Option.bind_some]
    exact checkedPattern_eq h pattern _ (h.lt_size hparent)
  | .ancestor pattern, position, hlt => by
    rw [checkedEval, eval, relatedAncestors, firstHolds_map]
    apply firstChecked_eq
    rintro ⟨a, lower⟩ ha
    have hbefore := Arena.lt_of_mem_ancestors (List.of_mem_zip ha).1
    simp only [checkedSlot_eq h, Option.bind_some]
    exact checkedPattern_eq h pattern _ (Nat.lt_trans hbefore hlt)
  | .all list, position, hlt => by
    rw [checkedEval, eval]
    exact checkedAll_eq h list hlt
  | .any list, position, hlt => by
    rw [checkedEval, eval]
    exact checkedAny_eq h list hlt
  | .not inner, position, hlt => by
    rw [checkedEval, eval, checkedEval_eq h inner hlt]
    rfl

theorem checkedPattern_eq (h : arena.WellFormed) : ∀ (pattern : NodePattern Predicate) {position : Nat}
    (slot : Option String), position < arena.size →
      checkedPattern arena pattern position slot = some (evalPattern arena pattern ⟨position, slot⟩)
  | ⟨kinds, wanted, predicates⟩, position, slot, hlt => by
    obtain ⟨node, hnode⟩ := Arena.exists_node? hlt
    rw [checkedPattern, evalPattern, hnode, Option.bind_some, checkedAll_eq h predicates hlt]
    simp only [← slotFits_iff]
    cases slotFits wanted slot <;> simp [apply_ite some]

theorem checkedAll_eq (h : arena.WellFormed) : ∀ (list : List Predicate) {position : Nat},
    position < arena.size → checkedAll arena list position = some (evalAll arena list position)
  | [], _, _ => by rw [checkedAll, evalAll]
  | p :: rest, position, hlt => by
    rw [checkedAll, evalAll, checkedEval_eq h p hlt, Option.bind_some, checkedAll_eq h rest hlt]
    cases eval arena p position with
    | error e => rfl
    | ok holds => cases holds <;> rfl

theorem checkedAny_eq (h : arena.WellFormed) : ∀ (list : List Predicate) {position : Nat},
    position < arena.size → checkedAny arena list position = some (evalAny arena list position)
  | [], _, _ => by rw [checkedAny, evalAny]
  | p :: rest, position, hlt => by
    rw [checkedAny, evalAny, checkedEval_eq h p hlt, Option.bind_some, checkedAny_eq h rest hlt]
    cases eval arena p position with
    | error e => rfl
    | ok holds => cases holds <;> rfl

end

/-- The arena of a file that is built stands for a tree whose places in pre-order are its positions. At every
position every predicate, and every list of predicates, has the value or the error that it has at the place in
the tree; on the way no look-up fails, and the chain of parents is followed to its end. -/
theorem eval_buildFile_eq_treeEval {source : Build.SourceTree} {registry registry' : Build.Registry}
    {arena : Arena} (h : Build.buildFile source registry = (.ok arena, registry')) :
    ∃ tree, arena.tree? = some tree ∧ tree.places.length = arena.size ∧
      (∀ position, arena.ancestors position =
        match arena.parent? position with
        | some parent => parent :: arena.ancestors parent
        | none => []) ∧
      ∀ position place, tree.places[position]? = some place →
        (∃ node, arena.node? position = some node ∧ place.here.data = node.bare) ∧
        (∀ p, eval arena p position = treeEval p place ∧
          checkedEval arena p position = some (eval arena p position)) ∧
        ∀ list, evalAll arena list position = treeAll list place ∧
          checkedAll arena list position = some (evalAll arena list position) := by
  have hformed := Build.wellFormed_of_buildFile h
  obtain ⟨tree, htree, hplaces⟩ := hformed.exists_tree
  have hlength : tree.places.length = arena.size := by
    rw [← hplaces.length_eq, List.length_range]
  refine ⟨tree, htree, hlength, ?_, ?_⟩
  · intro position
    cases hparent : arena.parent? position with
    | none => exact Arena.ancestors_eq_nil hparent
    | some parent => exact Arena.ancestors_eq_cons hformed.parent_lt hparent
  · intro position place hplace
    obtain ⟨hlt, rfl⟩ := List.getElem?_eq_some_iff.mp hplace
    have hstands : arena.Stands position tree.places[position] := by
      have hget := hplaces.get (List.length_range ▸ hlength ▸ hlt) hlt
      simpa using hget
    have hsize : position < arena.size := hlength ▸ hlt
    obtain ⟨node, hnode, hdata, -⟩ := hstands.here.inv hformed
    refine ⟨⟨node, hnode, hdata⟩, ?_, ?_⟩
    · intro p
      exact ⟨eval_eq_treeEval hformed p hstands, checkedEval_eq hformed p hsize⟩
    · intro list
      exact ⟨evalAll_eq_treeAll hformed list hstands, checkedAll_eq hformed list hsize⟩

/-- The tree of a source unit with a statement of inline assembly and a pragma. -/
theorem exists_tree_assemblySource {arena : Arena} {registry' : Build.Registry}
    (h : Build.buildFile Build.assemblySource {} = (.ok arena, registry')) :
    ∃ unit assembly block literal pragma, arena.tree? = some (.node unit none
        [.node assembly (some "nodes") [.node block (some "AST") [.node literal none []]],
          .node pragma (some "nodes") []]) ∧
      unit.kind.tag = "SourceUnit" ∧ assembly.kind.tag = "InlineAssembly" ∧ block.kind.tag = "YulBlock" ∧
      literal.kind.tag = "YulLiteral" ∧ pragma.kind.tag = "PragmaDirective" := by
  obtain ⟨raw, made, hraw, hmade, hof⟩ := Build.exists_tree_of_buildFile h
  have hshape : Build.RawTree.ofJson? Build.assemblySource.ast = some (.node Build.assemblyUnit none
      [.node Build.inlineAssembly (some "nodes") [.node Build.yulBlock (some "AST") [.node Build.yulLiteral none []]],
        .node Build.pragma (some "nodes") []]) := by
    with_unfolding_all rfl
  obtain rfl := Option.some.inj (hraw.symm.trans hshape)
  obtain ⟨hunit, _ | ⟨⟨hassembly, _ | ⟨⟨hblock, _ | ⟨⟨hliteral, ⟨⟩⟩, ⟨⟩⟩⟩, ⟨⟩⟩⟩, _ | ⟨⟨hpragma, ⟨⟩⟩, ⟨⟩⟩⟩⟩ := hof
  exact ⟨_, _, _, _, _, hmade, Build.tag_of_kind hunit.kind, Build.tag_of_kind hassembly.kind,
    Build.tag_of_kind hblock.kind, Build.tag_of_kind hliteral.kind, Build.tag_of_kind hpragma.kind⟩

/-- A pattern is tried with the slot of a child or a descendant, and with the slot through which the path to the start
leaves an ancestor. The block of the assembly has a child that no slot names. -/
theorem eval_slot_patterns : ∃ arena registry',
    Build.buildFile Build.assemblySource {} = (.ok arena, registry') ∧
      eval arena (.child ⟨["PragmaDirective"], some "nodes", []⟩) 0 = .ok true ∧
      eval arena (.child ⟨["PragmaDirective"], some "AST", []⟩) 0 = .ok false ∧
      eval arena (.descendant ⟨["YulBlock"], some "AST", []⟩) 0 = .ok true ∧
      eval arena (.descendant ⟨["YulBlock"], some "nodes", []⟩) 0 = .ok false ∧
      eval arena (.ancestor ⟨["SourceUnit"], some "nodes", []⟩) 3 = .ok true ∧
      eval arena (.ancestor ⟨["SourceUnit"], some "AST", []⟩) 3 = .ok false ∧
      eval arena (.descendant ⟨[], some "AST", [.slot "statements" true]⟩) 0 =
        .error (.unnamedSlots "YulBlock" "statements") := by
  obtain ⟨arena, registry', h⟩ := Build.exists_buildFile_assemblySource
  obtain ⟨tree, htree, -, -, heval⟩ := eval_buildFile_eq_treeEval h
  obtain ⟨unit, assembly, block, literal, pragma, hshape, hunit, hassembly, hblock, hliteral, hpragma⟩ :=
    exists_tree_assemblySource h
  obtain rfl := Option.some.inj (htree.symm.trans hshape)
  have hroot (p : Predicate) := ((heval 0 _ rfl).2.1 p).1
  have hdeep (p : Predicate) := ((heval 3 _ rfl).2.1 p).1
  refine ⟨arena, registry', h, ?_⟩
  simp [hroot, hdeep, treeEval, treePattern, treeAll, firstDecided, Focus.children, Focus.descendants, Focus.below,
    Focus.belowAll, Focus.ancestors, Focus.around, Tree.children, Tree.slot, Tree.data, hunit, hassembly, hblock,
    hliteral, hpragma]

end SolAudit.Match
