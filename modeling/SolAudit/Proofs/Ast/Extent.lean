import Mathlib.Order.Bounds.Basic
import Mathlib.Order.MinMax
import SolAudit.Proofs.Ast.Ancestry

/-!
# The extent of subtrees

`Arena.finish` passes over the nodes once, from the last to the first. `stop_finish` says what it computes for
any arena in which parents stand before their children: one past the last node of each subtree. When the nodes
stand in pre-order, and only then, nothing else lies between a node and that end, so the positions up to it are
exactly the nodes below (`mem_descendants_iff`, `forestInPreorder_iff_descendants`).
-/

namespace SolAudit.Ast.Arena

theorem getElem?_raiseEnd (ends : Array Nat) (position stop i : Nat) :
    (raiseEnd ends position stop)[i]? =
      ends[i]?.map fun e ↦ if position = i then max e stop else e := by
  rw [raiseEnd, Array.getElem?_modify]
  by_cases h : position = i <;> simp [h]

theorem size_raiseEnd (ends : Array Nat) (position stop : Nat) :
    (raiseEnd ends position stop).size = ends.size := by
  rw [raiseEnd, Array.size_modify]

theorem size_endsBefore (parents : Array (Option Nat)) (n : Nat) (ends : Array Nat) :
    (endsBefore parents n ends).size = ends.size := by
  induction n generalizing ends with
  | zero => rfl
  | succ n ih =>
    rw [endsBefore]
    split
    · rw [ih, size_raiseEnd]
    · rw [ih]

/-- Every end is one past some node of its subtree. -/
def Attained (arena : Arena) (ends : Array Nat) : Prop :=
  ∀ i e, ends[i]? = some e → ∃ last, e = last + 1 ∧ (last = i ∨ i ∈ arena.ancestors last)

/-- Every end is past its own node and past the subtrees of those children that stand at `n` or later. -/
def CoversFrom (arena : Arena) (n : Nat) (ends : Array Nat) : Prop :=
  ∀ i e, ends[i]? = some e → i < e ∧
    ∀ c, n ≤ c → arena.parent? c = some i → ∀ j, j = c ∨ c ∈ arena.ancestors j → j < e

section

variable {arena : Arena}

theorem parent?_eq_join {n : Nat} {entry : Option (Option Nat)} (h : arena.parents[n]? = entry) :
    arena.parent? n = entry.join := by
  rw [parent?, h]

/-- Moving the end of a parent to the end of a child stays inside the subtree. -/
theorem Attained.raiseEnd (hbefore : arena.ParentsBefore) {ends : Array Nat} (h : arena.Attained ends)
    {n p : Nat} (hp : arena.parent? n = some p) : arena.Attained (raiseEnd ends p (ends.getD n 0)) := by
  intro i e he
  rw [getElem?_raiseEnd, Option.map_eq_some_iff] at he
  obtain ⟨e, hold, rfl⟩ := he
  by_cases hi : p = i
  · subst hi
    rw [if_pos rfl]
    rcases Nat.le_total (ends.getD n 0) e with hle | hle
    · rw [Nat.max_eq_left hle]
      exact h p e hold
    · rw [Nat.max_eq_right hle]
      cases hn : ends[n]? with
      | none =>
        have hzero : ends.getD n 0 = 0 := by simp [Array.getD_eq_getD_getElem?, hn]
        rw [hzero, Nat.le_zero] at hle
        rw [hzero, ← hle]
        exact h p e hold
      | some en =>
        have hget : ends.getD n 0 = en := by simp [Array.getD_eq_getD_getElem?, hn]
        obtain ⟨last, rfl, hlast⟩ := h n en hn
        refine ⟨last, hget, .inr ?_⟩
        exact (mem_ancestors_iff_child hbefore).mpr ⟨n, hp, hlast⟩
  · rw [if_neg hi]
    exact h i e hold

/-- After a node's end has reached its parent, the subtrees from this node on are covered. -/
theorem CoversFrom.raiseEnd (hbefore : arena.ParentsBefore) {ends : Array Nat} {n p : Nat}
    (h : arena.CoversFrom (n + 1) ends) (hp : arena.parent? n = some p) (hn : n < ends.size) :
    arena.CoversFrom n (raiseEnd ends p (ends.getD n 0)) := by
  have hnth : ends[n]? = some (ends.getD n 0) := by
    rw [Array.getD_eq_getD_getElem?, Array.getElem?_eq_getElem hn, Option.getD_some]
  -- The children of `n` stand after it, so the whole subtree of `n` is covered already.
  have hsubtree : ∀ j, j = n ∨ n ∈ arena.ancestors j → j < ends.getD n 0 := by
    intro j hj
    obtain ⟨hself, hchildren⟩ := h n _ hnth
    rcases hj with rfl | hj
    · exact hself
    · obtain ⟨c, hc, hjc⟩ := (mem_ancestors_iff_child hbefore).mp hj
      exact hchildren c (hbefore c n hc) hc j hjc
  intro i e he
  rw [getElem?_raiseEnd, Option.map_eq_some_iff] at he
  obtain ⟨e, hold, rfl⟩ := he
  obtain ⟨hself, hchildren⟩ := h i e hold
  by_cases hi : p = i
  · subst hi
    rw [if_pos rfl]
    refine ⟨lt_max_of_lt_left hself, ?_⟩
    intro c hnc hc j hj
    rcases Nat.eq_or_lt_of_le hnc with rfl | hlt
    · exact lt_max_of_lt_right (hsubtree j hj)
    · exact lt_max_of_lt_left (hchildren c hlt hc j hj)
  · rw [if_neg hi]
    refine ⟨hself, ?_⟩
    intro c hnc hc j hj
    rcases Nat.eq_or_lt_of_le hnc with rfl | hlt
    · rw [hp, Option.some.injEq] at hc
      exact absurd hc hi
    · exact hchildren c hlt hc j hj

/-- The backward pass keeps ends inside their subtrees and, at its end, covers them all. -/
theorem endsBefore_spec (hbefore : arena.ParentsBefore) (n : Nat) (ends : Array Nat)
    (hn : n ≤ ends.size) (hattained : arena.Attained ends) (hcovers : arena.CoversFrom n ends) :
    arena.Attained (endsBefore arena.parents n ends) ∧
      arena.CoversFrom 0 (endsBefore arena.parents n ends) := by
  induction n generalizing ends with
  | zero => exact ⟨hattained, hcovers⟩
  | succ n ih =>
    rw [endsBefore]
    split
    · rename_i p hentry
      have hp : arena.parent? n = some p := parent?_eq_join hentry
      exact ih _ (by rw [size_raiseEnd]; omega) (hattained.raiseEnd hbefore hp)
        (hcovers.raiseEnd hbefore hp hn)
    · rename_i hentry
      apply ih ends (by omega) hattained
      intro i e he
      obtain ⟨hself, hchildren⟩ := hcovers i e he
      refine ⟨hself, ?_⟩
      intro c hnc hc j hj
      rcases Nat.eq_or_lt_of_le hnc with rfl | hlt
      · rw [parent?, Option.join_eq_some_iff] at hc
        exact absurd hc (hentry i)
      · exact hchildren c hlt hc j hj

@[simp]
theorem ancestors_finish (i : Nat) : arena.finish.ancestors i = arena.ancestors i :=
  ancestors_congr fun _ _ ↦ rfl

/-- The tables of an arena fit together: parents stand before their children, and every end lies between its
node and the end of its subtree. Ends need not be up to date. -/
structure Consistent (arena : Arena) : Prop where
  size_parents : arena.parents.size = arena.size
  size_ends : arena.ends.size = arena.size
  parents_before : arena.ParentsBefore
  attained : arena.Attained arena.ends
  past_self : ∀ i e : Nat, arena.ends[i]? = some e → i < e

/-- The backward pass covers all subtrees when it starts on tables that fit together. -/
theorem endsBefore_of_consistent (h : arena.Consistent) :
    arena.Attained (endsBefore arena.parents arena.size arena.ends) ∧
      arena.CoversFrom 0 (endsBefore arena.parents arena.size arena.ends) := by
  -- At the start no child is asked for: there is none at the size or later.
  have hcovers : arena.CoversFrom arena.size arena.ends := by
    intro i e he
    refine ⟨h.past_self i e he, ?_⟩
    intro c hc hparent
    rw [parent?, Array.getElem?_eq_none (h.size_parents ▸ hc)] at hparent
    cases hparent
  exact endsBefore_spec h.parents_before arena.size arena.ends h.size_ends.ge h.attained hcovers

/-- Ends that have been computed are as good to start from as those of new nodes. -/
theorem Consistent.finish (h : arena.Consistent) : arena.finish.Consistent where
  size_parents := h.size_parents
  size_ends := (size_endsBefore _ _ _).trans h.size_ends
  parents_before := h.parents_before
  attained := by
    intro i e he
    obtain ⟨last, hlast, hmem⟩ := (endsBefore_of_consistent h).1 i e he
    exact ⟨last, hlast, by rwa [ancestors_finish]⟩
  past_self := fun i e he ↦ ((endsBefore_of_consistent h).2 i e he).1

theorem stop_eq_getElem {i : Nat} (hi : i < arena.ends.size) : arena.stop i = arena.ends[i] := by
  rw [stop, Array.getD_eq_getD_getElem?, Array.getElem?_eq_getElem hi, Option.getD_some]

/-- The end of a node is one past the last node of its subtree. -/
theorem stop_finish (h : arena.Consistent) {i : Nat} (hi : i < arena.size) :
    ∃ last, IsGreatest {j | j = i ∨ i ∈ arena.ancestors j} last ∧ arena.finish.stop i = last + 1 := by
  obtain ⟨hattained, hcovers⟩ := endsBefore_of_consistent h
  have hlt : i < arena.finish.ends.size := h.finish.size_ends ▸ hi
  obtain ⟨hself, hchildren⟩ := hcovers i _ (Array.getElem?_eq_getElem hlt)
  obtain ⟨last, hlast, hmem⟩ := hattained i _ (Array.getElem?_eq_getElem hlt)
  refine ⟨last, ⟨hmem, ?_⟩, (stop_eq_getElem hlt).trans hlast⟩
  rintro j (rfl | hj)
  · omega
  · obtain ⟨c, hc, hjc⟩ := (mem_ancestors_iff_child h.parents_before).mp hj
    have hjlast := hchildren c (Nat.zero_le c) hc j hjc
    omega

theorem stop_finish_of_ge (h : arena.Consistent) {i : Nat} (hi : arena.size ≤ i) :
    arena.finish.stop i = 0 := by
  rw [stop, Array.getD_eq_getD_getElem?, Array.getElem?_eq_none, Option.getD_none]
  rw [h.finish.size_ends]
  exact hi

/-- The descendants of a node are the positions after it up to the last node of its subtree. -/
theorem descendants_finish (h : arena.Consistent) {i : Nat} (hi : i < arena.size) :
    ∃ last, IsGreatest {j | j = i ∨ i ∈ arena.ancestors j} last ∧
      arena.finish.descendants i = List.range' (i + 1) (last - i) := by
  obtain ⟨last, hlast, hstop⟩ := stop_finish h hi
  refine ⟨last, hlast, ?_⟩
  rw [descendants, hstop, Nat.add_sub_add_right]

/-- Whatever the order of the nodes, the descendants of a node hold all nodes below it. -/
theorem mem_descendants_of_mem_ancestors (h : arena.Consistent) {i j : Nat} (hij : i ∈ arena.ancestors j) :
    j ∈ arena.finish.descendants i := by
  have hlt := lt_of_mem_ancestors hij
  have hj := lt_size_of_mem_ancestors h.parents_before hij
  rw [h.size_parents] at hj
  obtain ⟨last, hlast, hrange⟩ := descendants_finish h (hlt.trans hj)
  have hle : j ≤ last := hlast.2 (.inr hij)
  rw [hrange, List.mem_range'_1]
  omega

theorem descendants_finish_eq_nil_iff (h : arena.Consistent) {i : Nat} (hi : i < arena.size) :
    arena.finish.descendants i = [] ↔ ∀ c, arena.parent? c ≠ some i := by
  constructor
  · intro hnone c hc
    have hmem := mem_ancestors_of_parent? h.parents_before hc
    have hdescendant := mem_descendants_of_mem_ancestors h hmem
    rw [hnone] at hdescendant
    cases hdescendant
  · intro hleaf
    obtain ⟨last, hlast, hrange⟩ := descendants_finish h hi
    rcases hlast.1 with rfl | hmem
    · rw [hrange, Nat.sub_self, List.range'_zero]
    · obtain ⟨c, hc, -⟩ := (mem_ancestors_iff_child h.parents_before).mp hmem
      exact absurd hc (hleaf c)

/-! ## Pre-order -/

/-- Every node with a parent hangs below the node before it or below an ancestor of that one. -/
def ForestInPreorder (arena : Arena) : Prop :=
  ∀ i p, arena.parent? (i + 1) = some p → p = i ∨ p ∈ arena.ancestors i

/-- Every node but the first hangs below the node before it or below an ancestor of that one. -/
def InPreorder (arena : Arena) : Prop :=
  arena.parent? 0 = none ∧
    ∀ i, i + 1 < arena.size → ∃ p, arena.parent? (i + 1) = some p ∧ (p = i ∨ p ∈ arena.ancestors i)

theorem InPreorder.forest (h : arena.Consistent) (horder : arena.InPreorder) : arena.ForestInPreorder := by
  intro i p hp
  have hmem := mem_ancestors_of_parent? h.parents_before hp
  obtain ⟨p', hp', hspine⟩ := horder.2 i (h.size_parents ▸ lt_size_of_mem_ancestors h.parents_before hmem)
  rw [hp, Option.some.injEq] at hp'
  exact hp' ▸ hspine

/-- In pre-order, whatever stands between a node and a node below it is below it too. -/
theorem mem_ancestors_of_between (hbefore : arena.ParentsBefore) (horder : arena.ForestInPreorder) {i k : Nat}
    (hk : i ∈ arena.ancestors k) : ∀ j, i < j → j ≤ k → i ∈ arena.ancestors j := by
  induction k with
  | zero => exact absurd (lt_of_mem_ancestors hk) (Nat.not_lt_zero i)
  | succ k ih =>
    intro j hij hjk
    rcases Nat.eq_or_lt_of_le hjk with rfl | hlt
    · exact hk
    · -- The node `k` is below the parent of `k + 1`, and that parent is `i` or below `i`.
      obtain ⟨p, hp, hip⟩ := (mem_ancestors_iff hbefore).mp hk
      have hspine := horder k p hp
      have hik : i ∈ arena.ancestors k := by
        rcases hip with rfl | hip <;> rcases hspine with rfl | hpk
        · omega
        · exact hpk
        · exact hip
        · exact mem_ancestors_trans hbefore hip hpk
      exact ih hik j hij (by omega)

/-- In a finished arena in pre-order, descendants and ancestors are the same relation read in two directions. -/
theorem mem_descendants_iff (h : arena.Consistent) (horder : arena.ForestInPreorder) (i j : Nat) :
    j ∈ arena.finish.descendants i ↔ i ∈ arena.finish.ancestors j := by
  rw [ancestors_finish]
  refine ⟨?_, mem_descendants_of_mem_ancestors h⟩
  intro hj
  by_cases hi : i < arena.size
  · obtain ⟨last, hlast, hrange⟩ := descendants_finish h hi
    rw [hrange, List.mem_range'_1] at hj
    rcases hlast.1 with rfl | hmem
    · omega
    · exact mem_ancestors_of_between h.parents_before horder hmem j (by omega) (by omega)
  · rw [descendants, stop_finish_of_ge h (by omega), List.mem_range'_1] at hj
    omega

/-- No other order will do: a node out of order stands among the descendants of a node it is not below. -/
theorem forestInPreorder_iff_descendants (h : arena.Consistent) :
    arena.ForestInPreorder ↔ ∀ i j, j ∈ arena.finish.descendants i → i ∈ arena.ancestors j := by
  constructor
  · intro horder i j hj
    have hij := (mem_descendants_iff h horder i j).mp hj
    rwa [ancestors_finish] at hij
  · intro hexact i p hp
    have hmem := mem_ancestors_of_parent? h.parents_before hp
    rcases Nat.eq_or_lt_of_le (Nat.le_of_lt_succ (h.parents_before (i + 1) p hp)) with rfl | hlt
    · exact .inl rfl
    · -- The extent of `p` reaches `i + 1`, so it passes over `i`.
      have hbelow := mem_descendants_of_mem_ancestors h hmem
      refine .inr (hexact p i ?_)
      rw [descendants, List.mem_range'_1] at hbelow ⊢
      omega

end

end SolAudit.Ast.Arena
