import Mathlib.Data.List.Nodup
import SolAudit.Proofs.Build.Step

/-!
# Node ids

A node is pushed only under an id that is not in use, and its id is in use from then on. So the ids of a file
are distinct and new to the registry with which the file started, and all ids of the files of a run are distinct.
-/

namespace SolAudit.Ast.Arena

/-- The ids of all nodes, in the order of the nodes. -/
def ids (arena : Arena) : List Int := arena.nodes.toList.map Node.id

@[simp]
theorem ids_push (arena : Arena) (parent : Option Nat) (slot : Option String) (node : Node) :
    (arena.push parent slot node).ids = arena.ids ++ [node.id] := by
  exact map_nodes_push Node.id fun _ _ ↦ rfl

@[simp]
theorem ids_finish (arena : Arena) : arena.finish.ids = arena.ids := rfl

theorem getElem?_ids (arena : Arena) (i : Nat) : arena.ids[i]? = (arena.node? i).map Node.id := by
  rw [ids, List.getElem?_map, Array.getElem?_toList, node?]

/-- With distinct ids, looking for the id of a node leads to the node. -/
theorem find?_id {arena : Arena} (hnodup : arena.ids.Nodup) {i : Nat} {node : Node}
    (hi : arena.node? i = some node) : arena.find? node.id = some i := by
  have hlt : i < arena.nodes.size := (Array.getElem?_eq_some_iff.mp hi).1
  have hfound : (arena.find? node.id).isSome := by
    rw [find?, List.find?_isSome]
    exact ⟨i, by simpa using hlt, by simp [hi]⟩
  obtain ⟨j, hj⟩ := Option.isSome_iff_exists.mp hfound
  obtain ⟨other, hother, hid⟩ : ∃ other, arena.node? j = some other ∧ other.id = node.id := by
    have hany := List.find?_some hj
    cases hnode : arena.node? j with
    | none => simp [hnode] at hany
    | some other => exact ⟨other, rfl, by simpa [hnode] using hany⟩
  have hlt' : j < arena.ids.length := by
    rw [ids, List.length_map]
    exact (Array.getElem?_eq_some_iff.mp hother).1
  have hsame : arena.ids[j]? = arena.ids[i]? := by
    rw [getElem?_ids, getElem?_ids, hother, hi, Option.map_some, Option.map_some, hid]
  rw [hj, (List.getElem?_inj hlt' hnodup).mp hsame]

end SolAudit.Ast.Arena

namespace SolAudit.Build

open Ast

theorem Registry.contains_after (registry : Registry) (raw : RawNode) (node : Node) (id : Int) :
    (registry.after raw node).contains id = true ↔ registry.contains id = true ∨ id = node.id := by
  rw [Registry.contains, Registry.after, Std.HashSet.contains_insert, Bool.or_eq_true, beq_iff_eq, or_comm,
    eq_comm (a := node.id), Registry.contains]

/-- The ids in use are those of a registry and, apart from them, those of the arena, each once. -/
structure Tracks (before : Registry) (progress : Progress) : Prop where
  nodup : progress.arena.ids.Nodup
  fresh : ∀ id ∈ progress.arena.ids, before.contains id = false
  contains_iff : ∀ id, progress.registry.contains id = true ↔
    before.contains id = true ∨ id ∈ progress.arena.ids

theorem Tracks.step {before : Registry} {progress progress' : Progress} {file : Path}
    {visit : RawTree.Visit} (h : Tracks before progress)
    (hstep : step file progress visit = (.ok (), progress')) : Tracks before progress' := by
  obtain ⟨node, hlowers, rfl⟩ := exists_lowers_of_step hstep
  have hnew : ¬(before.contains node.id = true ∨ node.id ∈ progress.arena.ids) := by
    rw [← h.contains_iff, hlowers.fresh]
    exact Bool.false_ne_true
  constructor
  · rw [Arena.ids_push, ← List.concat_eq_append]
    exact h.nodup.concat fun hmem ↦ hnew (.inr hmem)
  · intro id hid
    rw [Arena.ids_push, List.mem_append, List.mem_singleton] at hid
    rcases hid with hid | rfl
    · exact h.fresh id hid
    · exact Bool.eq_false_iff.mpr fun hmem ↦ hnew (.inl hmem)
  · intro id
    rw [Registry.contains_after, h.contains_iff, Arena.ids_push, List.mem_append, List.mem_singleton,
      or_assoc]

theorem Tracks.steps {before : Registry} {file : Path} (visits : List RawTree.Visit) :
    ∀ {progress progress' : Progress}, Tracks before progress →
      steps file progress visits = (.ok (), progress') → Tracks before progress' := by
  intro progress progress' h hsteps
  revert h
  refine steps_induction ?_ ?_ hsteps
  · intro progress h
    exact h
  · intro progress visit rest final node hlowers ih h
    have hstep : Build.step file progress visit = _ := step_of_lowers hlowers
    exact ih (h.step hstep)

theorem tracks_start (source : SourceTree) (registry : Registry) : Tracks registry (start source registry) where
  nodup := List.nodup_nil
  fresh := fun _ hid ↦ absurd hid List.not_mem_nil
  contains_iff := by simp [start, Arena.ids]

/-- The ids of a file are distinct and new, and are in use together with those before. -/
theorem tracks_of_buildFile {source : SourceTree} {registry registry' : Registry} {arena : Arena}
    (h : buildFile source registry = (.ok arena, registry')) : Tracks registry ⟨arena, registry'⟩ := by
  obtain ⟨tree, progress, -, -, hsteps, rfl, rfl⟩ := buildFile_eq_ok_iff.mp h
  have hend := (tracks_start source registry).steps tree.preorder hsteps
  exact ⟨hend.nodup, hend.fresh, hend.contains_iff⟩

/-- A file that fails leaves the ids in use as they are. -/
theorem contains_of_buildFile_error {source : SourceTree} {registry registry' : Registry} {e : BuildError}
    (h : buildFile source registry = (.error e, registry')) (id : Int) :
    registry'.contains id = registry.contains id := by
  rcases buildFile_eq_error h with ⟨-, rfl⟩ | ⟨tree, progress, -, -, rfl⟩
  · rfl
  · rfl

/-- All ids of the files built in one run are distinct, and none was in use before. -/
theorem nodup_ids_buildFrom (sources : List SourceTree) : ∀ registry : Registry,
    ((buildFrom registry sources).roots.flatMap Arena.ids).Nodup ∧
      ∀ id ∈ (buildFrom registry sources).roots.flatMap Arena.ids, registry.contains id = false := by
  induction sources with
  | nil => intro registry; simp [buildFrom]
  | cons source rest ih =>
    intro registry
    rw [buildFrom]
    split
    · rename_i arena registry' hbuild
      obtain ⟨hnodup, hfresh, hcontains⟩ := tracks_of_buildFile hbuild
      obtain ⟨hrest, hnew⟩ := ih registry'
      simp only [List.flatMap_cons]
      constructor
      · apply hnodup.append hrest
        intro id hid hlater
        have hused := (hcontains id).mpr (.inr hid)
        rw [hnew id hlater] at hused
        exact Bool.false_ne_true hused
      · intro id hid
        rcases List.mem_append.mp hid with hid | hid
        · exact hfresh id hid
        · refine Bool.eq_false_iff.mpr fun hused ↦ ?_
          have hused := (hcontains id).mpr (.inl hused)
          rw [hnew id hid] at hused
          exact Bool.false_ne_true hused
    · rename_i e registry' hbuild
      obtain ⟨hrest, hnew⟩ := ih registry'
      refine ⟨hrest, ?_⟩
      intro id hid
      rw [← contains_of_buildFile_error hbuild id]
      exact hnew id hid

theorem nodup_ids_build (sources : List SourceTree) :
    ((build sources).roots.flatMap Arena.ids).Nodup :=
  (nodup_ids_buildFrom sources {}).1

end SolAudit.Build
