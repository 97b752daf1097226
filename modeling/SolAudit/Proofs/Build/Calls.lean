import SolAudit.Proofs.Build.Ids

/-!
# Runs of the builder

A run builds sources one after the other with one registry. `calls` lists what every call was given and what it
gave. The roots and the failures of a run are the arenas and the errors of its calls (`roots_buildFrom`,
`failures_buildFrom`), and after a run the ids in use are those of the arenas that it gave and those in use before
(`contains_registryAfter_iff`).
-/

namespace SolAudit.Build

open Ast

/-- A call of the builder in a run: the source and the registry it was given, what it gave, and the registry it
left. -/
structure Call where
  source : SourceTree
  before : Registry
  result : Except BuildError Arena
  after : Registry

namespace Call

def arena? (call : Call) : Option Arena :=
  match call.result with
  | .ok arena => some arena
  | .error _ => none

def error? (call : Call) : Option BuildError :=
  match call.result with
  | .ok _ => none
  | .error e => some e

theorem arena?_eq_some_iff {call : Call} {arena : Arena} : call.arena? = some arena ↔ call.result = .ok arena := by
  unfold arena?
  cases call.result <;> simp

end Call

/-- The calls of a run, where each is given the registry that the one before it left. -/
def calls (registry : Registry) : List SourceTree → List Call
  | [] => []
  | source :: rest =>
    let answer := buildFile source registry
    ⟨source, registry, answer.1, answer.2⟩ :: calls answer.2 rest

/-- The registry that a run leaves. -/
def registryAfter (registry : Registry) (sources : List SourceTree) : Registry :=
  sources.foldl (fun registry source ↦ (buildFile source registry).2) registry

theorem map_source_calls (sources : List SourceTree) :
    ∀ registry, (calls registry sources).map Call.source = sources := by
  induction sources with
  | nil =>
    intro registry
    rfl
  | cons source rest ih =>
    intro registry
    rw [calls, List.map_cons, ih]

/-- Every call of a run is one of the builder. -/
theorem buildFile_of_mem_calls {sources : List SourceTree} {call : Call} :
    ∀ {registry}, call ∈ calls registry sources → buildFile call.source call.before = (call.result, call.after) := by
  induction sources with
  | nil =>
    intro registry h
    cases h
  | cons source rest ih =>
    intro registry h
    rcases List.mem_cons.mp h with rfl | h
    · rfl
    · exact ih h

/-- What a run gives, call by call. -/
theorem buildFrom_eq (sources : List SourceTree) : ∀ registry,
    buildFrom registry sources =
      ⟨(calls registry sources).filterMap Call.arena?, (calls registry sources).filterMap Call.error?⟩ := by
  induction sources with
  | nil =>
    intro registry
    rfl
  | cons source rest ih =>
    intro registry
    rw [buildFrom, calls]
    split
    · rename_i arena registry' h
      rw [h, ih]
      rfl
    · rename_i e registry' h
      rw [h, ih]
      rfl

theorem roots_buildFrom (registry : Registry) (sources : List SourceTree) :
    (buildFrom registry sources).roots = (calls registry sources).filterMap Call.arena? := by
  rw [buildFrom_eq]

theorem failures_buildFrom (registry : Registry) (sources : List SourceTree) :
    (buildFrom registry sources).failures = (calls registry sources).filterMap Call.error? := by
  rw [buildFrom_eq]

/-- Pushing nodes leaves the file of an arena as it is. -/
theorem file_steps {file : Path} (visits : List RawTree.Visit) : ∀ {progress progress' : Progress},
    steps file progress visits = (.ok (), progress') →
      progress'.arena.fileIndex = progress.arena.fileIndex ∧ progress'.arena.path = progress.arena.path := by
  intro progress progress' h
  refine steps_induction ?_ ?_ h
  · intro progress
    exact ⟨rfl, rfl⟩
  · intro progress visit rest final node _ ih
    exact ih

/-- An arena names the file of its source. -/
theorem file_of_buildFile {source : SourceTree} {registry registry' : Registry} {arena : Arena}
    (h : buildFile source registry = (.ok arena, registry')) :
    arena.fileIndex = source.index ∧ arena.path = source.path := by
  obtain ⟨tree, progress, -, -, hsteps, rfl, -⟩ := buildFile_eq_ok_iff.mp h
  have hkept := file_steps tree.preorder hsteps
  exact hkept

theorem file_ofFault (file : Path) (raw : RawNode) (fault : FieldFault) :
    (BuildError.ofFault file raw fault).file = file := by
  cases fault <;> rfl

/-- A step that fails names the file that is being built. -/
theorem file_of_step {file : Path} {progress : Progress} {visit : RawTree.Visit} {e : BuildError}
    (h : (step file progress visit).1 = .error e) : e.file = file := by
  unfold step at h
  simp only at h
  split at h
  · cases h
    exact file_ofFault _ _ _
  · split at h
    · cases h
      exact file_ofFault _ _ _
    · split at h
      · cases h
        rfl
      · split at h
        · cases h
          exact file_ofFault _ _ _
        · split at h
          · cases h
            exact file_ofFault _ _ _
          · cases h

theorem file_of_steps {file : Path} {e : BuildError} (visits : List RawTree.Visit) : ∀ {progress : Progress},
    (steps file progress visits).1 = .error e → e.file = file := by
  induction visits with
  | nil =>
    intro progress h
    cases h
  | cons visit rest ih =>
    intro progress h
    rw [steps] at h
    split at h
    · rename_i e' middle hstep
      cases h
      have hfails : (step file progress visit).1 = .error e := by rw [hstep]
      exact file_of_step hfails
    · exact ih h

/-- An error names the file of its source. -/
theorem file_of_buildFile_error {source : SourceTree} {registry registry' : Registry} {e : BuildError}
    (h : buildFile source registry = (.error e, registry')) : e.file = source.path := by
  rcases buildFile_eq_error h with ⟨rfl, -⟩ | ⟨tree, progress, -, hsteps, -⟩
  · rfl
  · apply file_of_steps tree.preorder
    rw [hsteps]

/-- After a run an id is in use if it was in use before or an arena of the run has it. -/
theorem contains_registryAfter_iff (sources : List SourceTree) (id : Int) : ∀ registry,
    (registryAfter registry sources).contains id = true ↔
      registry.contains id = true ∨
        ∃ call ∈ calls registry sources, ∃ arena, call.result = .ok arena ∧ id ∈ arena.ids := by
  induction sources with
  | nil =>
    intro registry
    simp [registryAfter, calls]
  | cons source rest ih =>
    intro registry
    have hrest := ih (buildFile source registry).2
    rw [registryAfter, List.foldl_cons, ← registryAfter, hrest, calls, List.exists_mem_cons_iff]
    cases hbuild : buildFile source registry with
    | mk result registry' =>
      cases result with
      | error e =>
        rw [contains_of_buildFile_error hbuild id]
        simp
      | ok arena =>
        rw [(tracks_of_buildFile hbuild).contains_iff id]
        simp [or_assoc]

end SolAudit.Build
