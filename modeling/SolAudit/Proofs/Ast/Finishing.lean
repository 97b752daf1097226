import Mathlib.Logic.Relation
import SolAudit.Proofs.Ast.Links

/-!
# Finishing an arena at any time

An arena grows by pushes, and `Arena.finish` may be called between any two of them. The parents given to the
pushes say by themselves which node is below which (`Below`), in whatever order the nodes come. After a last call of
`finish` the descendants of a node reach to the last node of its subtree. They are the nodes below it and no others
exactly if the nodes were pushed in pre-order, and the calls of `finish` in between leave no trace
(`descendants_after_changes`).
-/

namespace SolAudit.Ast

/-- The node `c` hangs from the node `p`, by the list of the parents of all nodes. -/
def HangsFrom (parents : List (Option Nat)) (p c : Nat) : Prop := parents[c]? = some (some p)

/-- A chain of parents leads from the node `j` up to the node `i`. -/
def Below (parents : List (Option Nat)) (i j : Nat) : Prop := Relation.TransGen (HangsFrom parents) i j

/-- Every parent stands before its children. -/
def ParentsFirst (parents : List (Option Nat)) : Prop := ∀ p c, HangsFrom parents p c → p < c

/-- A depth-first walk comes to the nodes in their order: a node with a parent hangs from the node before it or from
a node that this one is below. -/
def Preordered (parents : List (Option Nat)) : Prop :=
  ∀ i p, HangsFrom parents p (i + 1) → p = i ∨ Below parents p i

theorem parentsFirst_iff {parents : List (Option Nat)} :
    ParentsFirst parents ↔ ∀ c < parents.length, ∀ p ∈ parents[c]?.join, p < c := by
  simp only [ParentsFirst, HangsFrom, Option.mem_def, Option.join_eq_some_iff]
  constructor
  · intro h c _ p hp
    exact h p c hp
  · intro h p c hp
    exact h c (List.getElem?_eq_some_iff.mp hp).1 p hp

instance (parents : List (Option Nat)) : Decidable (ParentsFirst parents) :=
  decidable_of_iff _ parentsFirst_iff.symm

/-- A call that changes an arena. -/
inductive Change where
  | push (parent : Option Nat) (slot : Option String) (node : Node)
  | finish

namespace Change

def isPush : Change → Bool
  | .push .. => true
  | .finish => false

/-- The parents given to the pushes of a list of changes, in their order. -/
def parents : List Change → List (Option Nat)
  | [] => []
  | .push parent _ _ :: rest => parent :: parents rest
  | .finish :: rest => parents rest

theorem parents_filter_isPush (changes : List Change) : parents (changes.filter isPush) = parents changes := by
  induction changes with
  | nil => rfl
  | cons change rest ih =>
    cases change with
    | push parent slot node => exact congrArg (parent :: ·) ih
    | finish => exact ih

end Change

namespace Arena

/-- The arena of a file before any push. -/
def start (fileIndex : Nat) (path : Path) : Arena := { fileIndex, path }

def change (arena : Arena) : Change → Arena
  | .push parent slot node => arena.push parent slot node
  | .finish => arena.finish

def after (arena : Arena) (changes : List Change) : Arena := changes.foldl change arena

/-- An arena without the ends computed so far. -/
def withoutEnds (arena : Arena) : Arena := { arena with ends := #[] }

@[simp]
theorem withoutEnds_finish (arena : Arena) : arena.finish.withoutEnds = arena.withoutEnds := rfl

/-- A push does not read the ends. -/
theorem withoutEnds_push_congr {arena other : Arena} (h : arena.withoutEnds = other.withoutEnds)
    (parent : Option Nat) (slot : Option String) (node : Node) :
    (arena.push parent slot node).withoutEnds = (other.push parent slot node).withoutEnds :=
  congrArg (fun a ↦ (a.push parent slot node).withoutEnds) h

section

variable {arena : Arena} {parents : List (Option Nat)} (hparents : arena.parents.toList = parents)

include hparents

theorem parent?_eq_some_iff {p c : Nat} : arena.parent? c = some p ↔ HangsFrom parents p c := by
  rw [parent?, Option.join_eq_some_iff, ← Array.getElem?_toList, hparents, HangsFrom]

/-- The chain of ancestors is the one that the list of parents describes. -/
theorem mem_ancestors_iff_below (hbefore : arena.ParentsBefore) {i j : Nat} :
    i ∈ arena.ancestors j ↔ Below parents i j := by
  constructor
  · intro h
    induction j using Nat.strong_induction_on with
    | h j ih =>
      obtain ⟨p, hp, hi⟩ := (mem_ancestors_iff hbefore).mp h
      have hlink := (parent?_eq_some_iff hparents).mp hp
      rcases hi with rfl | hi
      · exact .single hlink
      · exact .tail (ih p (hbefore j p hp) hi) hlink
  · intro h
    induction h with
    | single hlink => exact mem_ancestors_of_parent? hbefore ((parent?_eq_some_iff hparents).mpr hlink)
    | tail _ hlink ih =>
      have hp := (parent?_eq_some_iff hparents).mpr hlink
      exact (mem_ancestors_iff hbefore).mpr ⟨_, hp, .inr ih⟩

theorem forestInPreorder_iff_preordered (hbefore : arena.ParentsBefore) :
    arena.ForestInPreorder ↔ Preordered parents := by
  simp only [ForestInPreorder, Preordered, parent?_eq_some_iff hparents,
    mem_ancestors_iff_below hparents hbefore]

end

/-! ## What changes keep -/

theorem parents_after (arena : Arena) (changes : List Change) :
    (arena.after changes).parents.toList = arena.parents.toList ++ Change.parents changes := by
  induction changes generalizing arena with
  | nil => exact (List.append_nil _).symm
  | cons change rest ih =>
    cases change with
    | push parent slot node =>
      rw [after, List.foldl_cons, ← after, ih, Arena.change, push, Array.toList_push, List.append_assoc]
      rfl
    | finish => exact ih arena.finish

/-- The tables fit together after every change, whenever ends are computed. -/
theorem Consistent.after {arena : Arena} (h : arena.Consistent) (changes : List Change)
    (hfirst : ParentsFirst (arena.parents.toList ++ Change.parents changes)) :
    (arena.after changes).Consistent := by
  induction changes generalizing arena with
  | nil => exact h
  | cons change rest ih =>
    cases change with
    | push parent slot node =>
      -- In the list the parent stands at the position of its node, so it has been pushed.
      have hallows : arena.Allows parent := by
        intro p hp
        refine hfirst p arena.size ?_
        have hlength : arena.parents.toList.length = arena.size := h.size_parents
        rw [HangsFrom, List.getElem?_append_right hlength.le, hlength, Nat.sub_self, ← hp]
        rfl
      apply ih (h.push hallows)
      rw [Arena.push, Array.toList_push, List.append_assoc]
      exact hfirst
    | finish => exact ih h.finish hfirst

/-- Ends apart, pushes do what they do without the calls of `finish` between them. -/
theorem withoutEnds_after {arena other : Arena} (h : arena.withoutEnds = other.withoutEnds)
    (changes : List Change) :
    (arena.after changes).withoutEnds = (other.after (changes.filter Change.isPush)).withoutEnds := by
  induction changes generalizing arena other with
  | nil => exact h
  | cons change rest ih =>
    cases change with
    | push parent slot node => exact ih (withoutEnds_push_congr h parent slot node)
    | finish => exact ih ((withoutEnds_finish arena).trans h)

/-- What `finish` computes depends on the nodes and their parents, and not on the ends that were there. -/
theorem finish_eq_of_withoutEnds {arena other : Arena} (h : arena.Consistent) (hother : other.Consistent)
    (heq : arena.withoutEnds = other.withoutEnds) : arena.finish = other.finish := by
  have hsize : arena.withoutEnds.size = other.withoutEnds.size := congrArg size heq
  have hancestors (j : Nat) : arena.ancestors j = other.ancestors j :=
    ancestors_congr fun k _ ↦ congrArg (fun a ↦ a.parent? k) heq
  have hends : arena.finish.ends = other.finish.ends := by
    apply Array.ext
    · rw [h.finish.size_ends, hother.finish.size_ends]
      exact hsize
    · -- Both ends are one past the greatest node of the same subtree.
      intro i hi hi'
      obtain ⟨last, hlast, hstop⟩ := stop_finish h (h.finish.size_ends ▸ hi)
      obtain ⟨last', hlast', hstop'⟩ := stop_finish hother (hother.finish.size_ends ▸ hi')
      simp only [hancestors] at hlast
      rw [← stop_eq_getElem, ← stop_eq_getElem, hstop, hstop', hlast.unique hlast']
  have hfinish : arena.finish.withoutEnds = other.finish.withoutEnds := heq
  calc
    arena.finish = { arena.finish.withoutEnds with ends := arena.finish.ends } := rfl
    _ = { other.finish.withoutEnds with ends := other.finish.ends } := by rw [hfinish, hends]
    _ = other.finish := rfl

section

variable {fileIndex : Nat} {path : Path} {changes : List Change}

theorem consistent_after_start (h : ParentsFirst (Change.parents changes)) :
    ((start fileIndex path).after changes).Consistent :=
  (Consistent.empty rfl rfl rfl).after changes h

theorem parents_after_start :
    ((start fileIndex path).after changes).parents.toList = Change.parents changes :=
  parents_after (start fileIndex path) changes

/-- The calls of `finish` before the last leave no trace. -/
theorem finish_after_filter (h : ParentsFirst (Change.parents changes)) :
    ((start fileIndex path).after changes).finish =
      ((start fileIndex path).after (changes.filter Change.isPush)).finish := by
  refine finish_eq_of_withoutEnds (consistent_after_start h) (consistent_after_start ?_) ?_
  · rw [Change.parents_filter_isPush]
    exact h
  · exact withoutEnds_after rfl changes

/-- Whatever nodes are pushed, each without parent or below a node pushed before, and wherever ends are computed in
between: once they are computed at the end, the descendants of a node are the positions after it up to the last of
its subtree, and so there are none exactly if it has no children. All nodes below it are among them. No others are,
whatever the node, exactly if the nodes were pushed in pre-order. Whoever pushes the same nodes and computes ends
at other times gets the same arena. -/
theorem descendants_after_changes (fileIndex : Nat) (path : Path) {changes : List Change}
    (h : ParentsFirst (Change.parents changes)) :
    let arena := ((start fileIndex path).after changes).finish
    let parents := Change.parents changes
    (∀ i < parents.length,
      (∃ last, IsGreatest {j | j = i ∨ Below parents i j} last ∧
        arena.descendants i = List.range' (i + 1) (last - i)) ∧
      (arena.descendants i = [] ↔ ∀ c, ¬ HangsFrom parents i c)) ∧
    (∀ i j, Below parents i j → j ∈ arena.descendants i) ∧
    ((∀ i j, j ∈ arena.descendants i → Below parents i j) ↔ Preordered parents) ∧
    ∀ others : List Change, others.filter Change.isPush = changes.filter Change.isPush →
      ((start fileIndex path).after others).finish = arena := by
  intro arena parents
  have hconsistent : ((start fileIndex path).after changes).Consistent := consistent_after_start h
  have hparents : ((start fileIndex path).after changes).parents.toList = parents := parents_after_start
  have hbelow {i j : Nat} : i ∈ ((start fileIndex path).after changes).ancestors j ↔ Below parents i j :=
    mem_ancestors_iff_below hparents hconsistent.parents_before
  refine ⟨?_, ?_, ?_, ?_⟩
  · intro i hi
    have hsize : i < ((start fileIndex path).after changes).size := by
      rwa [← hconsistent.size_parents, ← Array.length_toList, hparents]
    have hextent := descendants_finish hconsistent hsize
    have hleaf := descendants_finish_eq_nil_iff hconsistent hsize
    simp only [hbelow] at hextent
    simp only [Ne, parent?_eq_some_iff hparents] at hleaf
    exact ⟨hextent, hleaf⟩
  · intro i j hij
    exact mem_descendants_of_mem_ancestors hconsistent (hbelow.mpr hij)
  · rw [← forestInPreorder_iff_preordered hparents hconsistent.parents_before,
      forestInPreorder_iff_descendants hconsistent]
    simp only [hbelow, arena]
  · intro others hothers
    have hfirst : ParentsFirst (Change.parents others) := by
      rw [← Change.parents_filter_isPush, hothers, Change.parents_filter_isPush]
      exact h
    calc
      ((start fileIndex path).after others).finish =
          ((start fileIndex path).after (others.filter Change.isPush)).finish := finish_after_filter hfirst
      _ = ((start fileIndex path).after (changes.filter Change.isPush)).finish := by rw [hothers]
      _ = arena := (finish_after_filter h).symm

end

def markNode (id : Int) : Node := { id, src := "0:1:0", kind := .unknown "Mark", typeString := none }

/-- Two trees. Ends are computed twice on the way, and the last node of the first tree hangs from a node that is
neither the one before it nor above that one. -/
def lateChild : List Change :=
  [.push none none (markNode 1), .push (some 0) none (markNode 2), .finish, .push (some 0) none (markNode 3),
    .finish, .push (some 1) (some "body") (markNode 4), .push none none (markNode 5)]

theorem lateChild_descendants :
    ParentsFirst (Change.parents lateChild) ∧
      ((start 0 ⟨"A.sol"⟩).after lateChild).finish.descendants 1 = [2, 3] ∧
      ¬ Below (Change.parents lateChild) 1 2 ∧ ¬ Preordered (Change.parents lateChild) ∧
      ((start 0 ⟨"A.sol"⟩).after (lateChild.filter Change.isPush)).finish =
        ((start 0 ⟨"A.sol"⟩).after lateChild).finish := by
  have hfirst : ParentsFirst (Change.parents lateChild) := by decide
  obtain ⟨-, -, hexact, hothers⟩ := descendants_after_changes 0 ⟨"A.sol"⟩ hfirst
  have hdescendants : ((start 0 ⟨"A.sol"⟩).after lateChild).finish.descendants 1 = [2, 3] := by decide
  have hbeside : ¬ Below (Change.parents lateChild) 1 2 := by
    intro h
    obtain ⟨p, h, hp⟩ := Relation.TransGen.tail'_iff.mp h
    cases hp
    rcases Relation.ReflTransGen.cases_tail h with h | ⟨q, -, hq⟩
    · cases h
    · cases hq
  refine ⟨hfirst, hdescendants, hbeside, ?_, hothers _ ?_⟩
  · intro horder
    refine hbeside (hexact.mpr horder 1 2 ?_)
    rw [hdescendants]
    decide
  · rw [List.filter_filter]
    simp only [Bool.and_self]

end Arena

end SolAudit.Ast
