import SolAudit.Proofs.Ast.Extent

/-!
# Pushing nodes

What one push does to each table of an arena, and what it keeps: the tables fit together, the edge lists and the
parent table describe one relation, and nodes stay in pre-order as long as each hangs on the path from the root
to the node before it.
-/

namespace SolAudit.Ast

/-- The data of a node, without its links. -/
def Node.bare (node : Node) : Node := { node with children := #[] }

@[simp] theorem Node.bare_kind (node : Node) : node.bare.kind = node.kind := rfl

namespace Arena

/-- A parent that has been pushed already. -/
def Allows (arena : Arena) (parent : Option Nat) : Prop := ∀ p, parent = some p → p < arena.size

section

variable {arena : Arena} {parent : Option Nat} {slot : Option String} {node : Node}

theorem size_push : (arena.push parent slot node).size = arena.size + 1 := by
  cases parent <;> simp [push, size, addEdge]

/-- A push appends a node; of the nodes before it, it changes no more than the links. -/
theorem map_nodes_push {α : Type} (f : Node → α) (hf : ∀ n edges, f { n with children := edges } = f n) :
    (arena.push parent slot node).nodes.toList.map f = arena.nodes.toList.map f ++ [f node] := by
  have hlinks (nodes : Array Node) (edge : Edge) :
      (addEdge nodes parent edge).toList.map f = nodes.toList.map f := by
    cases parent with
    | none => rfl
    | some p =>
      apply List.ext_getElem?
      intro i
      rw [addEdge, List.getElem?_map, List.getElem?_map, Array.getElem?_toList, Array.getElem?_toList,
        Array.getElem?_modify]
      by_cases h : p = i <;> simp [h, Function.comp_def, hf]
  rw [push, hlinks]
  simp

theorem node?_push (hparent : arena.Allows parent) (i : Nat) :
    (arena.push parent slot node).node? i =
      if i = arena.size then some node
      else (arena.node? i).map fun n ↦
        if parent = some i then { n with children := n.children.push ⟨slot, arena.size⟩ } else n := by
  cases parent with
  | none => simp [push, node?, addEdge, Array.getElem?_push, size]
  | some p =>
    have hp : p < arena.nodes.size := hparent p rfl
    simp only [push, node?, addEdge, Array.getElem?_modify, Array.getElem?_push, size]
    by_cases hi : i = arena.nodes.size
    · simp [hi, Nat.ne_of_lt hp]
    · by_cases hpi : p = i <;> simp [hi, hpi]

theorem parent?_push (hsize : arena.parents.size = arena.size) (i : Nat) :
    (arena.push parent slot node).parent? i = if i = arena.size then parent else arena.parent? i := by
  rw [parent?, push, Array.getElem?_push, hsize]
  by_cases hi : i = arena.size <;> simp [hi, parent?]

theorem children_push (hparent : arena.Allows parent) (hnode : node.children = #[]) (q : Nat) :
    (arena.push parent slot node).children q =
      arena.children q ++ if parent = some q then [⟨slot, arena.size⟩] else [] := by
  rw [children, children, node?_push hparent]
  by_cases hq : q = arena.size
  · have hne : parent ≠ some q := fun h ↦ absurd (hparent q h) (by omega)
    have hnone : arena.node? q = none := by
      rw [node?, Array.getElem?_eq_none]
      exact hq.ge
    simp [hq, hnode, hq ▸ hne, hq ▸ hnone]
  · cases hget : arena.node? q with
    | none =>
      have hne : parent ≠ some q := by
        intro h
        have hlt : q < arena.nodes.size := hparent q h
        rw [node?, Array.getElem?_eq_getElem hlt] at hget
        cases hget
      simp [hq, hne]
    | some n => by_cases hp : parent = some q <;> simp [hq, hp]

theorem ancestors_push (hsize : arena.parents.size = arena.size) {i : Nat} (hi : i < arena.size) :
    (arena.push parent slot node).ancestors i = arena.ancestors i := by
  apply ancestors_congr
  intro k hk
  rw [parent?_push hsize, if_neg (by omega)]

theorem Consistent.empty {arena : Arena} (hnodes : arena.nodes = #[]) (hparents : arena.parents = #[])
    (hends : arena.ends = #[]) : arena.Consistent where
  size_parents := by simp [size, hnodes, hparents]
  size_ends := by simp [size, hnodes, hends]
  parents_before := by
    intro i p hp
    simp [parent?, hparents] at hp
  attained := by
    intro i e he
    simp [hends] at he
  past_self := by
    intro i e he
    simp [hends] at he

/-- A push below a node that is there already keeps the tables together. -/
theorem Consistent.push (h : arena.Consistent) (hparent : arena.Allows parent) :
    (arena.push parent slot node).Consistent where
  size_parents := by
    rw [size_push, Arena.push, Array.size_push, h.size_parents]
  size_ends := by
    rw [size_push, Arena.push, Array.size_push, h.size_ends]
  parents_before := by
    intro i p hp
    rw [parent?_push h.size_parents] at hp
    by_cases hi : i = arena.size
    · rw [if_pos hi] at hp
      exact hi ▸ hparent p hp
    · rw [if_neg hi] at hp
      exact h.parents_before i p hp
  attained := by
    intro i e he
    rw [Arena.push, Array.getElem?_push, h.size_ends] at he
    by_cases hi : i = arena.size
    · rw [if_pos hi, Option.some.injEq] at he
      exact ⟨i, by rw [hi]; exact he.symm, .inl rfl⟩
    · rw [if_neg hi] at he
      obtain ⟨last, hlast, hmem⟩ := h.attained i e he
      refine ⟨last, hlast, hmem.imp_right fun hmem ↦ ?_⟩
      have hlt := lt_size_of_mem_ancestors h.parents_before hmem
      rw [ancestors_push h.size_parents (h.size_parents ▸ hlt)]
      exact hmem
  past_self := by
    intro i e he
    rw [Arena.push, Array.getElem?_push, h.size_ends] at he
    by_cases hi : i = arena.size
    · rw [if_pos hi, Option.some.injEq, ← size, ← hi] at he
      omega
    · rw [if_neg hi] at he
      exact h.past_self i e he

/-- The edge list of each node leads to the nodes with this parent, each once and in ascending order. -/
def Linked (arena : Arena) : Prop :=
  ∀ p, (arena.children p).map Edge.node =
    (List.range arena.size).filter fun j ↦ decide (arena.parent? j = some p)

theorem Linked.push (h : arena.Linked) (hsize : arena.parents.size = arena.size)
    (hparent : arena.Allows parent) (hnode : node.children = #[]) :
    (arena.push parent slot node).Linked := by
  intro q
  have hold : (List.range arena.size).filter
        (fun j ↦ decide ((arena.push parent slot node).parent? j = some q)) =
      (List.range arena.size).filter fun j ↦ decide (arena.parent? j = some q) := by
    apply List.filter_congr
    intro j hj
    rw [parent?_push hsize, if_neg (Nat.ne_of_lt (List.mem_range.mp hj))]
  rw [children_push hparent hnode, List.map_append, h q, size_push, List.range_succ, List.filter_append,
    hold]
  by_cases hq : parent = some q <;> simp [hq, parent?_push hsize]

/-- The last node pushed, or one of its ancestors. -/
def OnSpine (arena : Arena) (p : Nat) : Prop :=
  ∃ last, last + 1 = arena.size ∧ (p = last ∨ p ∈ arena.ancestors last)

theorem OnSpine.lt_size {p : Nat} (h : arena.OnSpine p) : p < arena.size := by
  obtain ⟨last, hlast, hp⟩ := h
  rcases hp with rfl | hp
  · omega
  · have := lt_of_mem_ancestors hp
    omega

theorem OnSpine.of_mem_ancestors (hbefore : arena.ParentsBefore) {p q : Nat} (h : arena.OnSpine q)
    (hp : p ∈ arena.ancestors q) : arena.OnSpine p := by
  obtain ⟨last, hlast, hq⟩ := h
  refine ⟨last, hlast, .inr ?_⟩
  rcases hq with rfl | hq
  · exact hp
  · exact mem_ancestors_trans hbefore hp hq

theorem onSpine_push_size : (arena.push parent slot node).OnSpine arena.size :=
  ⟨arena.size, size_push.symm, .inl rfl⟩

/-- Where a node can be pushed in pre-order: at the start without parent, later below the last node or one of
its ancestors. -/
def Continues (arena : Arena) (parent : Option Nat) : Prop :=
  (arena.size = 0 ∧ parent = none) ∨ ∃ p, parent = some p ∧ arena.OnSpine p

theorem Continues.allows (h : arena.Continues parent) : arena.Allows parent := by
  intro p hp
  rcases h with ⟨-, hnone⟩ | ⟨q, hq, hspine⟩
  · rw [hnone] at hp
    cases hp
  · rw [hq, Option.some.injEq] at hp
    exact hp ▸ hspine.lt_size

theorem InPreorder.push (h : arena.Consistent) (horder : arena.size = 0 ∨ arena.InPreorder)
    (hcontinues : arena.Continues parent) : (arena.push parent slot node).InPreorder := by
  rcases hcontinues with ⟨hempty, hnone⟩ | ⟨p, hp, last, hlast, hspine⟩
  · constructor
    · rw [parent?_push h.size_parents, if_pos hempty.symm, hnone]
    · intro i hi
      rw [size_push, hempty] at hi
      omega
  · have horder : arena.InPreorder := horder.resolve_left (by omega)
    constructor
    · rw [parent?_push h.size_parents, if_neg (by omega)]
      exact horder.1
    · intro i hi
      rw [size_push] at hi
      rw [parent?_push h.size_parents, ancestors_push h.size_parents (by omega)]
      by_cases hend : i + 1 = arena.size
      · have hil : i = last := by omega
        rw [if_pos hend]
        exact ⟨p, hp, hil ▸ hspine⟩
      · rw [if_neg hend]
        exact horder.2 i (by omega)

end

end Arena

end SolAudit.Ast
