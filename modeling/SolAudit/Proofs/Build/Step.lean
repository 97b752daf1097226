import SolAudit.Build.Arena
import SolAudit.Proofs.Ast.Links

/-!
# Steps of the builder

A step that succeeds pushes one node, which `Lowers` describes: everything that the step checked, and where each
part of the node comes from. A list of steps succeeds if every step does, one after the other; what such a list does
is told node by node (`steps_induction`).
-/

namespace SolAudit.Build

open Ast

/-- A node that the builder accepts for a raw node, given the ids in use. -/
structure Lowers (registry : Registry) (raw : RawNode) (node : Node) : Prop where
  kind : raw.kind (Schema.find? raw.tag) = .ok node.kind
  id : (takeId registry raw (Schema.find? raw.tag).isSome).1 = .ok node.id
  fresh : registry.contains node.id = false
  src : (if (Schema.find? raw.tag).isSome then raw.src? else some (raw.src?.getD "")) = some node.src
  slots : raw.missingSlot? (Schema.find? raw.tag) = none
  typeString : node.typeString = raw.typeString?
  children : node.children = #[]

/-- The registry after a node: its id is in use, and its number is counted if it was given one. -/
def Registry.after (registry : Registry) (raw : RawNode) (node : Node) : Registry where
  seen := registry.seen.insert node.id
  lastSynthetic := (takeId registry raw (Schema.find? raw.tag).isSome).2.lastSynthetic

theorem seen_takeId (registry : Registry) (raw : RawNode) (known : Bool) :
    (takeId registry raw known).2.seen = registry.seen := by
  rw [takeId]
  split
  · rfl
  · cases known <;> rfl

section

variable {file : Path} {progress progress' : Progress} {visit : RawTree.Visit}

theorem exists_lowers_of_step (h : step file progress visit = (.ok (), progress')) :
    ∃ node, Lowers progress.registry visit.raw node ∧
      progress' = ⟨progress.arena.push visit.parent visit.slot node, progress.registry.after visit.raw node⟩ := by
  have hseen := seen_takeId progress.registry visit.raw (Schema.find? visit.raw.tag).isSome
  rw [step] at h
  split at h
  · simp at h
  rename_i kind hkind
  split at h
  · simp at h
  rename_i id registry htake
  rw [htake] at hseen
  split at h
  · simp at h
  rename_i hfresh
  -- The range is chosen before it is looked at.
  generalize hsrc : (if (Schema.find? visit.raw.tag).isSome = true then visit.raw.src?
    else some (visit.raw.src?.getD "")) = src? at h
  cases src? with
  | none => simp at h
  | some src =>
    simp only at h
    split at h
    · simp at h
    rename_i hslots
    have hprogress := (Prod.mk.inj h).2
    refine ⟨{ id, src, kind, typeString := visit.raw.typeString? }, ?_, ?_⟩
    · exact {
        kind := hkind
        id := by rw [htake]
        fresh := by simpa [Registry.contains, ← hseen] using hfresh
        src := hsrc
        slots := hslots
        typeString := rfl
        children := rfl }
    · rw [← hprogress, Registry.after, htake, ← hseen]

theorem step_of_lowers {node : Node} (h : Lowers progress.registry visit.raw node) :
    step file progress visit =
      (.ok (), ⟨progress.arena.push visit.parent visit.slot node, progress.registry.after visit.raw node⟩) := by
  have hseen := seen_takeId progress.registry visit.raw (Schema.find? visit.raw.tag).isSome
  obtain ⟨id, src, kind, typeString, children⟩ := node
  obtain ⟨hkind, hid, hfresh, hsrc, hslots, htype, hchildren⟩ := h
  simp only at hkind hid hfresh hsrc htype hchildren
  subst htype hchildren
  rw [step, hkind]
  cases htake : takeId progress.registry visit.raw (Schema.find? visit.raw.tag).isSome with
  | mk result registry =>
    rw [htake] at hid hseen
    simp only at hid hseen
    have hfresh' : registry.contains id = false := by
      rw [Registry.contains, hseen]
      exact hfresh
    simp [hid, hfresh', hsrc, hslots, Registry.after, htake, hseen]

theorem step_eq_ok_iff : step file progress visit = (.ok (), progress') ↔
    ∃ node, Lowers progress.registry visit.raw node ∧
      progress' = ⟨progress.arena.push visit.parent visit.slot node, progress.registry.after visit.raw node⟩ := by
  refine ⟨exists_lowers_of_step, ?_⟩
  rintro ⟨node, hlowers, rfl⟩
  exact step_of_lowers hlowers

end

theorem steps_cons_eq_ok_iff {file : Path} {progress progress' : Progress} {visit : RawTree.Visit}
    {rest : List RawTree.Visit} :
    steps file progress (visit :: rest) = (.ok (), progress') ↔
      ∃ middle, step file progress visit = (.ok (), middle) ∧
        steps file middle rest = (.ok (), progress') := by
  rw [steps]
  split
  · rename_i e middle h
    simp [h]
  · rename_i middle h
    simp [h]

/-- What holds of no steps, and of a node pushed and the steps after it if it holds of these, holds of all steps that
succeed. -/
@[elab_as_elim]
theorem steps_induction {file : Path} {P : Progress → List RawTree.Visit → Progress → Prop}
    (hnil : ∀ progress, P progress [] progress)
    (hcons : ∀ progress visit rest final node, Lowers progress.registry visit.raw node →
      P ⟨progress.arena.push visit.parent visit.slot node, progress.registry.after visit.raw node⟩ rest final →
        P progress (visit :: rest) final)
    {progress final : Progress} {visits : List RawTree.Visit} (h : steps file progress visits = (.ok (), final)) :
    P progress visits final := by
  induction visits generalizing progress with
  | nil =>
    cases h
    exact hnil _
  | cons visit rest ih =>
    obtain ⟨middle, hstep, hrest⟩ := steps_cons_eq_ok_iff.mp h
    obtain ⟨node, hlowers, rfl⟩ := exists_lowers_of_step hstep
    exact hcons progress visit rest final node hlowers (ih hrest)

theorem steps_append_eq_ok_iff {file : Path} {progress progress' : Progress}
    {first second : List RawTree.Visit} :
    steps file progress (first ++ second) = (.ok (), progress') ↔
      ∃ middle, steps file progress first = (.ok (), middle) ∧
        steps file middle second = (.ok (), progress') := by
  induction first generalizing progress with
  | nil => simp [steps]
  | cons visit rest ih =>
    rw [List.cons_append, steps_cons_eq_ok_iff]
    constructor
    · rintro ⟨middle, hstep, h⟩
      obtain ⟨later, hrest, hsecond⟩ := ih.mp h
      exact ⟨later, steps_cons_eq_ok_iff.mpr ⟨middle, hstep, hrest⟩, hsecond⟩
    · rintro ⟨later, hfirst, hsecond⟩
      obtain ⟨middle, hstep, hrest⟩ := steps_cons_eq_ok_iff.mp hfirst
      exact ⟨middle, hstep, ih.mpr ⟨later, hrest, hsecond⟩⟩

/-- The arena and the registry with which a file starts. -/
def start (source : SourceTree) (registry : Registry) : Progress :=
  ⟨{ fileIndex := source.index, path := source.path }, registry⟩

/-- A file is built if its root is a source unit and every step through its tree succeeds. -/
theorem buildFile_eq_ok_iff {source : SourceTree} {registry registry' : Registry} {arena : Arena} :
    buildFile source registry = (.ok arena, registry') ↔
      ∃ tree progress, RawTree.ofJson? source.ast = some tree ∧ tree.raw.tag = "SourceUnit" ∧
        steps source.path (start source registry) tree.preorder = (.ok (), progress) ∧
        arena = progress.arena.finish ∧ registry' = progress.registry := by
  rw [buildFile]
  cases htree : RawTree.ofJson? source.ast with
  | none => simp
  | some tree =>
    by_cases htag : tree.raw.tag = "SourceUnit"
    · simp only [Option.filter_some, htag, beq_self_eq_true, if_true]
      rw [← start]
      split
      · rename_i progress hsteps
        constructor
        · intro h
          cases h
          exact ⟨tree, progress, rfl, htag, hsteps, rfl, rfl⟩
        · rintro ⟨tree', progress', htree', -, hsteps', rfl, rfl⟩
          cases htree'
          rw [hsteps] at hsteps'
          cases hsteps'
          rfl
      · rename_i e progress hsteps
        constructor
        · intro h
          cases h
        · rintro ⟨tree', progress', htree', -, hsteps', -⟩
          cases htree'
          rw [hsteps] at hsteps'
          cases hsteps'
    · simp [Option.filter_some, htag]

/-- A file fails at its root, or at a step through its tree, and leaves no more than the numbers that it was given. -/
theorem buildFile_eq_error {source : SourceTree} {registry registry' : Registry} {e : BuildError}
    (h : buildFile source registry = (.error e, registry')) :
    (e = .invalidRoot source.path (rootName source.ast) ∧ registry' = registry) ∨
      ∃ tree progress, RawTree.ofJson? source.ast = some tree ∧
        steps source.path (start source registry) tree.preorder = (.error e, progress) ∧
        registry' = { registry with lastSynthetic := progress.registry.lastSynthetic } := by
  rw [buildFile] at h
  split at h
  · cases h
    exact .inl ⟨rfl, rfl⟩
  · rename_i tree htree
    simp only at h
    split at h
    · cases h
    · rename_i e' progress hsteps
      cases h
      exact .inr ⟨tree, progress, (Option.filter_eq_some_iff.mp htree).1, hsteps, rfl⟩

end SolAudit.Build
