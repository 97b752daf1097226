import SolAudit.Proofs.Build.Acceptance
import SolAudit.Proofs.Build.Calls

/-!
# Numbers handed out

A node of an unknown type without id is given the next number of the registry. A file that fails gives its ids back,
but not its numbers, so a later file may get other numbers than it would have got without it. Files without nodes that
lack ids are built in the same way whatever the last number is (`buildFile_renumbered`); the others give the same arena
for the same last number only (`buildFile_renumbered_eq_iff`).
-/

namespace SolAudit.Build

open Ast

/-- A raw node that is given a number: its type is unknown and it has no id. -/
def RawNode.lacksId (raw : RawNode) : Bool := raw.id?.isNone && (Schema.find? raw.tag).isNone

/-- Some node of a source is given a number. -/
def lacksIds (source : SourceTree) : Bool :=
  (RawTree.ofJson? source.ast).any fun tree ↦ tree.preorder.any fun visit ↦ visit.raw.lacksId

/-- The same ids in use, with another last number. -/
def Registry.renumbered (registry : Registry) (last : Int) : Registry := { registry with lastSynthetic := last }

def Progress.renumbered (progress : Progress) (last : Int) : Progress :=
  { progress with registry := progress.registry.renumbered last }

@[simp]
theorem Registry.contains_renumbered (registry : Registry) (last id : Int) :
    (registry.renumbered last).contains id = registry.contains id := rfl

@[simp]
theorem Registry.lastSynthetic_renumbered (registry : Registry) (last : Int) :
    (registry.renumbered last).lastSynthetic = last := rfl

theorem Registry.renumbered_self (registry : Registry) : registry.renumbered registry.lastSynthetic = registry := rfl

section

variable {file : Path} {raw : RawNode} {visit : RawTree.Visit}

theorem takeId_renumbered (h : raw.lacksId = false) (registry : Registry) (last : Int) :
    takeId (registry.renumbered last) raw (Schema.find? raw.tag).isSome =
      ((takeId registry raw (Schema.find? raw.tag).isSome).1,
        (takeId registry raw (Schema.find? raw.tag).isSome).2.renumbered last) := by
  unfold takeId
  unfold RawNode.lacksId at h
  cases hid : raw.id? with
  | some id => rfl
  | none =>
    cases hschema : Schema.find? raw.tag with
    | some schema => rfl
    | none => simp [hid, hschema] at h

/-- A step that gives no number does the same whatever the last number is. -/
theorem step_renumbered (h : visit.raw.lacksId = false) (progress : Progress) (last : Int) :
    step file (progress.renumbered last) visit =
      ((step file progress visit).1, (step file progress visit).2.renumbered last) := by
  have htake := takeId_renumbered h progress.registry last
  simp only [step, Progress.renumbered]
  cases visit.raw.kind (Schema.find? visit.raw.tag) with
  | error fault => rfl
  | ok kind =>
    rw [htake]
    cases takeId progress.registry visit.raw (Schema.find? visit.raw.tag).isSome with
    | mk result registry =>
      cases result with
      | error fault => rfl
      | ok id =>
        have hsame := registry.contains_renumbered last id
        generalize (if (Schema.find? visit.raw.tag).isSome = true then visit.raw.src?
          else some (visit.raw.src?.getD "")) = src?
        simp only
        by_cases hused : registry.contains id = true
        · rw [if_pos hused, if_pos (hsame.trans hused)]
        · rw [if_neg hused, if_neg (hsame ▸ hused)]
          cases src? with
          | none => rfl
          | some src => cases visit.raw.missingSlot? (Schema.find? visit.raw.tag) <;> rfl

theorem steps_renumbered (file : Path) (visits : List RawTree.Visit) (h : ∀ visit ∈ visits, visit.raw.lacksId = false)
    (last : Int) : ∀ progress : Progress,
    steps file (progress.renumbered last) visits =
      ((steps file progress visits).1, (steps file progress visits).2.renumbered last) := by
  induction visits with
  | nil =>
    intro progress
    rfl
  | cons visit rest ih =>
    intro progress
    have hrest := ih fun other hother ↦ h other (List.mem_cons_of_mem _ hother)
    rw [steps, steps, step_renumbered (h visit List.mem_cons_self)]
    cases step file progress visit with
    | mk result middle =>
      cases result with
      | error e => rfl
      | ok _ => exact hrest middle

end

theorem lacksIds_eq_false_iff {source : SourceTree} :
    lacksIds source = false ↔
      ∀ tree, RawTree.ofJson? source.ast = some tree → ∀ visit ∈ tree.preorder, visit.raw.lacksId = false := by
  unfold lacksIds
  cases RawTree.ofJson? source.ast with
  | none => simp
  | some tree => simp

/-- A source without nodes that lack ids is built in the same way whatever the last number is. -/
theorem buildFile_renumbered {source : SourceTree} (h : lacksIds source = false) (registry : Registry) (last : Int) :
    buildFile source (registry.renumbered last) =
      ((buildFile source registry).1, (buildFile source registry).2.renumbered last) := by
  unfold buildFile
  cases htree : RawTree.ofJson? source.ast with
  | none => rfl
  | some tree =>
    have hsteps := steps_renumbered source.path tree.preorder (lacksIds_eq_false_iff.mp h tree htree) last
      (start source registry)
    rw [Option.filter_some]
    cases tree.raw.tag == "SourceUnit" with
    | false => rfl
    | true =>
      simp only [if_true]
      rw [← start, ← start]
      change steps source.path (start source (registry.renumbered last)) tree.preorder = _ at hsteps
      rw [hsteps]
      cases steps source.path (start source registry) tree.preorder with
      | mk result progress => cases result <;> rfl

theorem lastSynthetic_takeId_le (registry : Registry) (raw : RawNode) (known : Bool) :
    (takeId registry raw known).2.lastSynthetic ≤ registry.lastSynthetic := by
  unfold takeId
  split
  · exact le_refl _
  · cases known with
    | true => exact le_refl _
    | false => exact Int.sub_le_self _ (by decide)

theorem lastSynthetic_step_le (file : Path) (progress : Progress) (visit : RawTree.Visit) :
    (step file progress visit).2.registry.lastSynthetic ≤ progress.registry.lastSynthetic := by
  have htake := lastSynthetic_takeId_le progress.registry visit.raw (Schema.find? visit.raw.tag).isSome
  unfold step
  simp only
  split
  · exact le_refl _
  · split
    · rename_i hid
      rwa [hid] at htake
    · rename_i hid
      rw [hid] at htake
      split
      · exact htake
      · split
        · exact htake
        · split <;> exact htake

theorem lastSynthetic_steps_le (file : Path) (visits : List RawTree.Visit) : ∀ progress : Progress,
    (steps file progress visits).2.registry.lastSynthetic ≤ progress.registry.lastSynthetic := by
  induction visits with
  | nil =>
    intro progress
    exact le_refl _
  | cons visit rest ih =>
    intro progress
    have hstep := lastSynthetic_step_le file progress visit
    rw [steps]
    split
    · rename_i e middle heq
      rwa [heq] at hstep
    · rename_i middle heq
      rw [heq] at hstep
      exact le_trans (ih middle) hstep

/-- Numbers only go down. -/
theorem lastSynthetic_buildFile_le (source : SourceTree) (registry : Registry) :
    (buildFile source registry).2.lastSynthetic ≤ registry.lastSynthetic := by
  unfold buildFile
  split
  · exact le_refl _
  · rename_i tree _
    have hsteps := lastSynthetic_steps_le source.path tree.preorder (start source registry)
    rw [start] at hsteps
    simp only
    split
    · rename_i progress heq
      rwa [heq] at hsteps
    · rename_i e progress heq
      rwa [heq] at hsteps

/-- A file that fails leaves nothing in the registry but the numbers that it was given. -/
theorem eq_renumbered_of_buildFile_error {source : SourceTree} {registry registry' : Registry} {e : BuildError}
    (h : buildFile source registry = (.error e, registry')) :
    registry' = registry.renumbered registry'.lastSynthetic := by
  rcases buildFile_eq_error h with ⟨-, rfl⟩ | ⟨tree, progress, -, -, rfl⟩
  · rfl
  · rfl

theorem lastSynthetic_of_steps {file : Path} (visits : List RawTree.Visit) : ∀ {progress progress' : Progress},
    steps file progress visits = (.ok (), progress') →
      progress'.registry.lastSynthetic =
        (visits.map (·.raw)).foldl numberAfter progress.registry.lastSynthetic := by
  intro progress progress' h
  refine steps_induction ?_ ?_ h
  · intro progress
    rfl
  · intro progress visit rest final node _ ih
    rw [ih, lastSynthetic_after]
    rfl

theorem steps_append_of_ok {file : Path} {second : List RawTree.Visit} (first : List RawTree.Visit) :
    ∀ {progress middle : Progress}, steps file progress first = (.ok (), middle) →
      steps file progress (first ++ second) = steps file middle second := by
  induction first with
  | nil =>
    intro progress middle h
    cases h
    rfl
  | cons visit rest ih =>
    intro progress middle h
    obtain ⟨next, hstep, hrest⟩ := steps_cons_eq_ok_iff.mp h
    rw [List.cons_append, steps, hstep]
    exact ih hrest

/-- A node that fails fails its file, and the numbers given so far stay used. -/
theorem buildFile_eq_error_of_step {source : SourceTree} {registry : Registry} {tree : RawTree}
    {progress progress' : Progress} {before after : List RawTree.Visit} {visit : RawTree.Visit} {e : BuildError}
    (htree : RawTree.ofJson? source.ast = some tree) (htag : tree.raw.tag = "SourceUnit")
    (hvisits : tree.preorder = before ++ visit :: after)
    (hsteps : steps source.path (start source registry) before = (.ok (), progress))
    (hstep : step source.path progress visit = (.error e, progress')) :
    buildFile source registry = (.error e, registry.renumbered progress'.registry.lastSynthetic) := by
  have hfails : steps source.path (start source registry) tree.preorder = (.error e, progress') := by
    rw [hvisits, steps_append_of_ok before hsteps, steps, hstep]
  have hroot : (tree.raw.tag == "SourceUnit") = true := beq_iff_eq.mpr htag
  rw [buildFile, htree, Option.filter_some, if_pos hroot]
  simp only
  rw [← start, hfails]
  rfl

theorem id_of_lower? {last : Int} {raw : RawNode} {node : Node} (h : lower? last raw = some node) :
    node.id = raw.id?.getD (last - 1) := by
  rw [lower?] at h
  split at h
  · rename_i kind id src hkind hid hsrc hslots
    cases h
    split at hid
    · rw [hid, Option.getD_some]
    · exact (Option.some.inj hid).symm
  · cases h

theorem numberAfter_of_lacksId {raw : RawNode} (h : raw.lacksId = false) (last : Int) :
    numberAfter last raw = last := by
  unfold RawNode.lacksId at h
  unfold numberAfter
  cases hid : raw.id? with
  | some id => rfl
  | none =>
    cases hschema : Schema.find? raw.tag with
    | some schema => rfl
    | none => simp [hid, hschema] at h

/-- Where a node lacks an id, the ids of the nodes tell the number before the first. -/
theorem last_eq_of_lowerAll? {raws : List RawNode} (hlacks : ∃ raw ∈ raws, raw.lacksId = true) :
    ∀ {last last' : Int} {nodes : List Node}, lowerAll? last raws = some nodes →
      lowerAll? last' raws = some nodes → last = last' := by
  induction raws with
  | nil =>
    obtain ⟨raw, hraw, -⟩ := hlacks
    cases hraw
  | cons raw rest ih =>
    intro last last' nodes h h'
    obtain ⟨node, later, hnode, hlater, rfl⟩ := lowerAll?_cons_eq_some_iff.mp h
    obtain ⟨node', later', hnode', hlater', heq⟩ := lowerAll?_cons_eq_some_iff.mp h'
    cases heq
    cases hfirst : raw.lacksId with
    | true =>
      have hnone : raw.id? = none := by
        rw [RawNode.lacksId, Bool.and_eq_true, Option.isNone_iff_eq_none] at hfirst
        exact hfirst.1
      have hid := id_of_lower? hnode
      rw [id_of_lower? hnode', hnone, Option.getD_none, Option.getD_none] at hid
      omega
    | false =>
      rw [numberAfter_of_lacksId hfirst] at hlater hlater'
      refine ih ?_ hlater hlater'
      obtain ⟨other, hother, hlack⟩ := hlacks
      rcases List.mem_cons.mp hother with rfl | hother
      · rw [hfirst] at hlack
        cases hlack
      · exact ⟨other, hother, hlack⟩

/-- A source that is built from one of two registries with the same ids in use is built alike from the other exactly
if the last numbers are the same or it has no node to be given a number. -/
theorem buildFile_renumbered_eq_iff {source : SourceTree} {registry : Registry} {arena : Arena}
    (h : (buildFile source registry).1 = .ok arena) (last : Int) :
    (buildFile source (registry.renumbered last)).1 = .ok arena ↔
      last = registry.lastSynthetic ∨ lacksIds source = false := by
  constructor
  · intro h'
    by_contra hnot
    rw [not_or, Bool.not_eq_false] at hnot
    obtain ⟨hlast, hlacks⟩ := hnot
    have hnodes := lowerAll?_of_buildFile (Prod.ext h rfl)
    have hnodes' := lowerAll?_of_buildFile (Prod.ext h' rfl)
    cases htree : RawTree.ofJson? source.ast with
    | none =>
      rw [htree] at hnodes
      cases hnodes
    | some tree =>
      rw [htree, Option.bind_some] at hnodes hnodes'
      apply hlast
      refine last_eq_of_lowerAll? ?_ hnodes' hnodes
      rw [lacksIds, htree, Option.any_some, List.any_eq_true] at hlacks
      obtain ⟨visit, hvisit, hlack⟩ := hlacks
      exact ⟨visit.raw, List.mem_map_of_mem hvisit, hlack⟩
  · rintro (rfl | hlacks)
    · rw [registry.renumbered_self, h]
    · rw [buildFile_renumbered hlacks, h]

/-! ## Runs without the files that fail -/

/-- The sources of a run that are built. -/
def survivors (registry : Registry) (sources : List SourceTree) : List SourceTree :=
  ((calls registry sources).filter fun call ↦ call.arena?.isSome).map Call.source

/-- A call that fails and was given a number, before a call that builds a source with a node to be given a number. -/
structure Disturbs (earlier later : Call) : Prop where
  fails : earlier.arena? = none
  draws : earlier.after.lastSynthetic ≠ earlier.before.lastSynthetic
  built : later.arena?.isSome = true
  lacks : lacksIds later.source = true

theorem length_roots_buildFrom_le (registry : Registry) (sources : List SourceTree) :
    (buildFrom registry sources).roots.length ≤ sources.length := by
  calc
    _ = ((calls registry sources).filterMap Call.arena?).length := by rw [roots_buildFrom]
    _ ≤ (calls registry sources).length := List.length_filterMap_le _ _
    _ = sources.length := by rw [← List.length_map Call.source, map_source_calls]

theorem length_survivors (registry : Registry) (sources : List SourceTree) :
    (survivors registry sources).length = (buildFrom registry sources).roots.length := by
  rw [survivors, List.length_map, roots_buildFrom, List.length_filterMap_eq_countP, List.countP_eq_length_filter]

section Cons

variable {source : SourceTree} {rest : List SourceTree} {registry registry' : Registry} {arena : Arena} {e : BuildError}

theorem calls_cons {result : Except BuildError Arena} (h : buildFile source registry = (result, registry')) :
    calls registry (source :: rest) = ⟨source, registry, result, registry'⟩ :: calls registry' rest := by
  rw [calls, h]

theorem roots_cons_of_ok (h : buildFile source registry = (.ok arena, registry')) :
    (buildFrom registry (source :: rest)).roots = arena :: (buildFrom registry' rest).roots := by
  rw [buildFrom, h]

theorem roots_cons_of_error (h : buildFile source registry = (.error e, registry')) :
    (buildFrom registry (source :: rest)).roots = (buildFrom registry' rest).roots := by
  rw [buildFrom, h]

theorem survivors_cons_of_ok (h : buildFile source registry = (.ok arena, registry')) :
    survivors registry (source :: rest) = source :: survivors registry' rest := by
  rw [survivors, calls_cons h]
  rfl

theorem survivors_cons_of_error (h : buildFile source registry = (.error e, registry')) :
    survivors registry (source :: rest) = survivors registry' rest := by
  rw [survivors, calls_cons h]
  rfl

/-- With another last number, a source that has a node to be given one does not give the same roots. -/
theorem roots_renumbered_ne {last : Int} (h : buildFile source registry = (.ok arena, registry'))
    (hlast : last ≠ registry.lastSynthetic) (hlacks : lacksIds source = true) {others : List SourceTree}
    {roots : List Arena} (hlength : others.length = roots.length) :
    (buildFrom (registry.renumbered last) (source :: others)).roots ≠ arena :: roots := by
  intro heq
  cases hother : buildFile source (registry.renumbered last) with
  | mk result registry'' =>
    cases result with
    | error e =>
      -- One source fewer is built, so one root is missing.
      have hle := length_roots_buildFrom_le registry'' others
      rw [roots_cons_of_error hother] at heq
      rw [heq, List.length_cons] at hle
      omega
    | ok arena' =>
      rw [roots_cons_of_ok hother] at heq
      have hsame : (buildFile source (registry.renumbered last)).1 = .ok arena := by
        rw [hother, (List.cons.inj heq).1]
      have hfirst : (buildFile source registry).1 = .ok arena := by rw [h]
      rcases (buildFile_renumbered_eq_iff hfirst last).mp hsame with hlast' | hlacks'
      · exact hlast hlast'
      · rw [hlacks] at hlacks'
        cases hlacks'

/-- With the same last number, or for a source without nodes to be given one, a call gives the same arena, and the
last numbers agree afterwards if they did before. -/
theorem exists_buildFile_renumbered {last : Int} (h : buildFile source registry = (.ok arena, registry'))
    (hsame : last = registry.lastSynthetic ∨ lacksIds source = false) (hle : registry.lastSynthetic ≤ last) :
    ∃ last', buildFile source (registry.renumbered last) = (.ok arena, registry'.renumbered last') ∧
      registry'.lastSynthetic ≤ last' ∧ (last' = registry'.lastSynthetic ↔ last = registry.lastSynthetic) := by
  by_cases hlast : last = registry.lastSynthetic
  · refine ⟨registry'.lastSynthetic, ?_, le_refl _, ?_⟩
    · rw [hlast, registry.renumbered_self, h, registry'.renumbered_self]
    · simp [hlast]
  · have hlacks := hsame.resolve_left hlast
    -- Giving the registry its own last number shows that the call leaves it.
    have hown := buildFile_renumbered hlacks registry registry.lastSynthetic
    rw [registry.renumbered_self, h] at hown
    have hkept : registry'.lastSynthetic = registry.lastSynthetic :=
      congrArg (fun answer ↦ answer.2.lastSynthetic) hown
    refine ⟨last, ?_, hkept ▸ hle, by rw [hkept]⟩
    rw [buildFile_renumbered hlacks, h]

/-- A call that fails disturbs none of the calls after it exactly if it was given no number or they need none. -/
theorem forall_not_disturbs_iff {later : List Call} :
    (∀ call ∈ later, ¬Disturbs ⟨source, registry, .error e, registry'⟩ call) ↔
      registry'.lastSynthetic = registry.lastSynthetic ∨
        ∀ call ∈ later, call.arena?.isSome = true → lacksIds call.source = false := by
  constructor
  · intro hall
    by_cases hdraws : registry'.lastSynthetic = registry.lastSynthetic
    · exact .inl hdraws
    · refine .inr fun call hcall hbuilt ↦ ?_
      by_contra hlacks
      exact hall call hcall ⟨rfl, hdraws, hbuilt, Bool.not_eq_false _ ▸ hlacks⟩
  · intro hor call hcall hdisturbs
    rcases hor with hkept | hnone
    · exact hdisturbs.draws hkept
    · have hlacks := hnone call hcall hdisturbs.built
      rw [hdisturbs.lacks] at hlacks
      cases hlacks

end Cons

/-- Where the ids in use are the same and the last number is not below that of the run, the sources that a run builds
give the same roots alone exactly if the last numbers agree or no number is given, and no call disturbs a later one. -/
theorem roots_survivors_eq_iff (sources : List SourceTree) : ∀ (registry : Registry) (last : Int),
    registry.lastSynthetic ≤ last →
      ((buildFrom (registry.renumbered last) (survivors registry sources)).roots = (buildFrom registry sources).roots ↔
        (last = registry.lastSynthetic ∨
          ∀ call ∈ calls registry sources, call.arena?.isSome = true → lacksIds call.source = false) ∧
        (calls registry sources).Pairwise fun earlier later ↦ ¬Disturbs earlier later) := by
  induction sources with
  | nil =>
    intro registry last _
    simp [survivors, calls, buildFrom]
  | cons source rest ih =>
    intro registry last hle
    cases hbuild : buildFile source registry with
    | mk result registry' =>
      rw [calls_cons hbuild, List.pairwise_cons, List.forall_mem_cons]
      cases result with
      | error e =>
        have hdown : registry'.lastSynthetic ≤ registry.lastSynthetic := by
          have hdown := lastSynthetic_buildFile_le source registry
          rwa [hbuild] at hdown
        have hregistry : registry.renumbered last = registry'.renumbered last := by
          rw [eq_renumbered_of_buildFile_error hbuild]
          rfl
        have hhead : ¬(Call.arena? ⟨source, registry, .error e, registry'⟩).isSome = true := Bool.false_ne_true
        have hnumbers : last = registry'.lastSynthetic ↔
            last = registry.lastSynthetic ∧ registry'.lastSynthetic = registry.lastSynthetic := by
          omega
        rw [survivors_cons_of_error hbuild, roots_cons_of_error hbuild, hregistry, ih registry' last (by omega),
          forall_not_disturbs_iff, hnumbers]
        tauto
      | ok arena =>
        have hhead : ∀ later ∈ calls registry' rest, ¬Disturbs ⟨source, registry, .ok arena, registry'⟩ later := by
          intro later _ hdisturbs
          cases hdisturbs.fails
        have hbuilt : (Call.arena? ⟨source, registry, .ok arena, registry'⟩).isSome = true := rfl
        rw [survivors_cons_of_ok hbuild, roots_cons_of_ok hbuild]
        by_cases hsame : last = registry.lastSynthetic ∨ lacksIds source = false
        · obtain ⟨last', hother, hle', hlast'⟩ := exists_buildFile_renumbered hbuild hsame hle
          rw [roots_cons_of_ok hother, List.cons.injEq, ih registry' last' hle', hlast']
          tauto
        · have hne := roots_renumbered_ne hbuild (fun hlast ↦ hsame (.inl hlast))
            (Bool.not_eq_false _ ▸ fun hlacks ↦ hsame (.inr hlacks)) (length_survivors registry' rest)
          tauto

/-- A call that fails leaves the ids in use as they are, but not the numbers. A later call gives what it would have
given without it if no number was given or the later source has no node to be given one; for a source that is built,
with or without the call that fails, only then. So a run without the sources that fail has the same roots exactly if
no call disturbs a later one. -/
theorem failing_calls_keep_only_numbers (registry : Registry) :
    (∀ failing e registry', buildFile failing registry = (.error e, registry') →
      registry'.seen = registry.seen ∧ ∀ source,
        (registry'.lastSynthetic = registry.lastSynthetic ∨ lacksIds source = false →
          (buildFile source registry').1 = (buildFile source registry).1) ∧
        ∀ arena, (buildFile source registry).1 = .ok arena ∨ (buildFile source registry').1 = .ok arena →
          ((buildFile source registry').1 = (buildFile source registry).1 ↔
            registry'.lastSynthetic = registry.lastSynthetic ∨ lacksIds source = false)) ∧
    ∀ sources, (buildFrom registry (survivors registry sources)).roots = (buildFrom registry sources).roots ↔
      (calls registry sources).Pairwise fun earlier later ↦ ¬Disturbs earlier later := by
  constructor
  · intro failing e registry' hfails
    have hregistry := eq_renumbered_of_buildFile_error hfails
    generalize registry'.lastSynthetic = last at hregistry
    subst hregistry
    refine ⟨rfl, fun source ↦ ⟨?_, ?_⟩⟩
    · rintro (hlast | hlacks)
      · rw [hlast, registry.renumbered_self]
      · rw [buildFile_renumbered hlacks]
    · rintro arena (hbuilt | hbuilt)
      · rw [hbuilt]
        exact buildFile_renumbered_eq_iff hbuilt last
      · -- Seen from the registry after the call that fails, the one before it is the renumbered one.
        have hiff := buildFile_renumbered_eq_iff hbuilt registry.lastSynthetic
        rw [hbuilt, eq_comm, eq_comm (a := last)]
        exact hiff
  · intro sources
    have hiff := roots_survivors_eq_iff sources registry registry.lastSynthetic (le_refl _)
    rw [registry.renumbered_self] at hiff
    simpa using hiff

/-- A block of an unknown type, without id. -/
def numberedBlock : RawNode := ⟨"YulBlock", [("nodeType", .str "YulBlock"), ("src", .str "1:2:0")], false, none⟩

/-- An identifier without name. -/
def namelessIdentifier : RawNode :=
  ⟨"Identifier", [("id", .int 3), ("nodeType", .str "Identifier"), ("src", .str "4:1:0")], false, none⟩

def brokenUnit : RawNode :=
  ⟨"SourceUnit", [("absolutePath", .str "A.sol"), ("id", .int 1), ("nodeType", .str "SourceUnit"),
    ("nodes", .arr [.obj numberedBlock.members, .obj namelessIdentifier.members]), ("src", .str "0:9:0")], false, none⟩

def brokenSource : SourceTree := ⟨0, ⟨"/p/A.sol"⟩, .obj brokenUnit.members⟩

def followingUnit : RawNode :=
  ⟨"SourceUnit", [("absolutePath", .str "B.sol"), ("id", .int 2), ("nodeType", .str "SourceUnit"),
    ("nodes", .arr [.obj numberedBlock.members]), ("src", .str "0:9:0")], false, none⟩

def followingSource : SourceTree := ⟨1, ⟨"/p/B.sol"⟩, .obj followingUnit.members⟩

/-- The block has been given its number when the identifier fails. -/
theorem exists_buildFile_brokenSource : ∃ e registry', buildFile brokenSource {} = (.error e, registry') ∧
    registry'.lastSynthetic = -1 := by
  have htree : RawTree.ofJson? brokenSource.ast = some (.node brokenUnit none
      [.node numberedBlock (some "nodes") [], .node namelessIdentifier (some "nodes") []]) := by
    with_unfolding_all rfl
  let before : List RawTree.Visit := [⟨brokenUnit, none, none⟩, ⟨numberedBlock, some 0, some "nodes"⟩]
  have hnodes : (lowerAll? 0 (before.map (·.raw))).map (·.map Node.id) = some [1, -1] := by rfl
  obtain ⟨progress, hsteps, -⟩ : ∃ progress, steps brokenSource.path (start brokenSource {}) before =
      (.ok (), progress) ∧ progress.arena.ids = [1, -1] := exists_steps_of_ids hnodes (by decide)
  have hstep : step brokenSource.path progress ⟨namelessIdentifier, some 0, some "nodes"⟩ =
      (.error (.missingField brokenSource.path (some 3) "Identifier" "name"), progress) := rfl
  have hfails := buildFile_eq_error_of_step htree rfl rfl hsteps hstep
  refine ⟨_, _, hfails, ?_⟩
  rw [Registry.lastSynthetic_renumbered, lastSynthetic_of_steps _ hsteps]
  rfl

theorem exists_buildFile_followingSource (last : Int) (hlast : last = 0 ∨ last = -1) :
    ∃ arena registry', buildFile followingSource (Registry.renumbered {} last) = (.ok arena, registry') ∧
      arena.ids = [2, last - 1] := by
  have htree : RawTree.ofJson? followingSource.ast =
      some (.node followingUnit none [.node numberedBlock (some "nodes") []]) := by
    with_unfolding_all rfl
  have hnodes : (lowerAll? last [followingUnit, numberedBlock]).map (·.map Node.id) = some [2, last - 1] := by rfl
  obtain ⟨nodes, hnodes, hids⟩ := Option.map_eq_some_iff.mp hnodes
  have hdistinct : (nodes.map Node.id).Nodup := by
    rw [hids]
    rcases hlast with rfl | rfl <;> decide
  obtain ⟨arena, registry', hbuild⟩ : ∃ arena registry',
      buildFile followingSource (Registry.renumbered {} last) = (.ok arena, registry') :=
    exists_buildFile_eq_ok_iff.mpr ⟨_, nodes, htree, rfl, hnodes, hdistinct, fun _ _ ↦ Std.HashSet.contains_empty⟩
  refine ⟨arena, registry', hbuild, ?_⟩
  have hlower := lowerAll?_of_buildFile hbuild
  rw [htree, Option.bind_some] at hlower
  have hbare : arena.nodes.toList.map Node.bare = nodes := Option.some.inj (hlower.symm.trans hnodes)
  rw [← hids, ← hbare, List.map_map]
  rfl

/-- Alone the second file gives its block the number -1, after the file that fails -2. -/
theorem brokenSource_disturbs_followingSource :
    survivors {} [brokenSource, followingSource] = [followingSource] ∧
      (build [followingSource]).roots.map Arena.ids = [[2, -1]] ∧
      (build [brokenSource, followingSource]).roots.map Arena.ids = [[2, -2]] ∧
      (build (survivors {} [brokenSource, followingSource])).roots ≠ (build [brokenSource, followingSource]).roots := by
  obtain ⟨e, registry', hbroken, hlast⟩ := exists_buildFile_brokenSource
  obtain ⟨alone, aloneAfter, halone, haloneIds⟩ := exists_buildFile_followingSource 0 (.inl rfl)
  obtain ⟨arena, after, hfollowing, hids⟩ := exists_buildFile_followingSource (-1) (.inr rfl)
  rw [← hlast, ← eq_renumbered_of_buildFile_error hbroken] at hfollowing
  refine ⟨?_, ?_, ?_, ?_⟩
  · rw [survivors_cons_of_error hbroken, survivors_cons_of_ok hfollowing]
    rfl
  · have hroots : (build [followingSource]).roots = alone :: (buildFrom aloneAfter []).roots := roots_cons_of_ok halone
    rw [hroots, List.map_cons, haloneIds]
    rfl
  · rw [build, roots_cons_of_error hbroken, roots_cons_of_ok hfollowing, List.map_cons, hids]
    rfl
  · intro hsame
    have hnone := ((failing_calls_keep_only_numbers {}).2 [brokenSource, followingSource]).mp hsame
    rw [calls_cons hbroken, calls_cons hfollowing, List.pairwise_cons] at hnone
    apply hnone.1 _ List.mem_cons_self
    refine ⟨rfl, ?_, rfl, ?_⟩
    · simp only [hlast]
      decide
    · with_unfolding_all rfl

end SolAudit.Build
