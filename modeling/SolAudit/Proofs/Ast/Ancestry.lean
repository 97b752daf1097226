import Mathlib.Data.List.Nodup
import Mathlib.Data.Nat.Init
import SolAudit.Ast.Arena

/-!
# Ancestry in arenas

Facts about the parent table alone: the chain of ancestors of a node, for arenas in which parents stand before
their children. The relation is transitive, and the nodes below a node are its children and what lies below
those.
-/

namespace SolAudit.Ast.Arena

/-- Every parent has a smaller position than its child. -/
def ParentsBefore (arena : Arena) : Prop := ∀ i p, arena.parent? i = some p → p < i

/-- The ancestors depend on the parent table only. -/
theorem ancestors_congr {arena other : Arena} {i : Nat}
    (h : ∀ k ≤ i, arena.parent? k = other.parent? k) : arena.ancestors i = other.ancestors i := by
  induction i using Nat.strong_induction_on with
  | h i ih =>
    rw [ancestors, ancestors, h i (Nat.le_refl i)]
    cases hp : other.parent? i with
    | none => rfl
    | some p =>
      by_cases hlt : p < i
      · simp only [hlt, if_true]
        rw [ih p hlt (fun k hk ↦ h k (by omega))]
      · simp only [hlt, if_false]

theorem lt_of_mem_ancestors {arena : Arena} {a i : Nat} (h : a ∈ arena.ancestors i) : a < i := by
  induction i using Nat.strong_induction_on with
  | h i ih =>
    rw [ancestors] at h
    split at h
    · rename_i p hp
      by_cases hlt : p < i
      · rw [if_pos hlt, List.mem_cons] at h
        rcases h with rfl | h
        · exact hlt
        · exact Nat.lt_trans (ih p hlt h) hlt
      · simp [hlt] at h
    · simp at h

theorem ancestors_eq_nil {arena : Arena} {i : Nat} (h : arena.parent? i = none) :
    arena.ancestors i = [] := by
  rw [ancestors, h]

section

variable {arena : Arena} (hbefore : arena.ParentsBefore)

include hbefore

theorem ancestors_eq_cons {i p : Nat} (h : arena.parent? i = some p) :
    arena.ancestors i = p :: arena.ancestors p := by
  rw [ancestors, h]
  exact if_pos (hbefore i p h)

theorem mem_ancestors_iff {a i : Nat} :
    a ∈ arena.ancestors i ↔ ∃ p, arena.parent? i = some p ∧ (a = p ∨ a ∈ arena.ancestors p) := by
  cases h : arena.parent? i with
  | none => simp [ancestors_eq_nil h]
  | some p => simp [ancestors_eq_cons hbefore h]

theorem mem_ancestors_of_parent? {i p : Nat} (h : arena.parent? i = some p) : p ∈ arena.ancestors i :=
  (mem_ancestors_iff hbefore).mpr ⟨p, h, .inl rfl⟩

theorem mem_ancestors_trans {a b c : Nat} (hab : a ∈ arena.ancestors b) (hbc : b ∈ arena.ancestors c) :
    a ∈ arena.ancestors c := by
  induction c using Nat.strong_induction_on with
  | h c ih =>
    obtain ⟨p, hp, hb⟩ := (mem_ancestors_iff hbefore).mp hbc
    refine (mem_ancestors_iff hbefore).mpr ⟨p, hp, .inr ?_⟩
    rcases hb with rfl | hb
    · exact hab
    · exact ih p (hbefore c p hp) hb

/-- What lies below a node is one of its children or lies below one. -/
theorem mem_ancestors_iff_child {a j : Nat} :
    a ∈ arena.ancestors j ↔ ∃ c, arena.parent? c = some a ∧ (j = c ∨ c ∈ arena.ancestors j) := by
  constructor
  · intro h
    induction j using Nat.strong_induction_on with
    | h j ih =>
      obtain ⟨p, hp, ha⟩ := (mem_ancestors_iff hbefore).mp h
      rcases ha with rfl | ha
      · exact ⟨j, hp, .inl rfl⟩
      · obtain ⟨c, hc, hj⟩ := ih p (hbefore j p hp) ha
        refine ⟨c, hc, .inr ((mem_ancestors_iff hbefore).mpr ⟨p, hp, ?_⟩)⟩
        exact hj.imp_left Eq.symm
  · rintro ⟨c, hc, hj⟩
    have ha := mem_ancestors_of_parent? hbefore hc
    rcases hj with rfl | hj
    · exact ha
    · exact mem_ancestors_trans hbefore ha hj

/-- A node has an ancestor only if it has a parent, so it is in the parent table. -/
theorem lt_size_of_mem_ancestors {a j : Nat} (h : a ∈ arena.ancestors j) : j < arena.parents.size := by
  obtain ⟨p, hp, -⟩ := (mem_ancestors_iff hbefore).mp h
  by_contra hge
  rw [parent?, Array.getElem?_eq_none (by omega)] at hp
  cases hp

end

end SolAudit.Ast.Arena
