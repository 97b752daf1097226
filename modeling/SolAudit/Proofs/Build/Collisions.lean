import SolAudit.Proofs.Build.Numbering
import SolAudit.Proofs.Build.Subtrees

/-!
# Ids that collide

Numbers are handed out downwards from -1, and nothing keeps them away from the ids that nodes have. After any part of a
run the ids in use are ids that the nodes so far have, or numbers down to the last one (`Accounts`). So where no two nodes
have one id, a file fails for an id in use only if a node has an id that is also one of the numbers for the nodes
without id. If all nodes pass their other checks, it then does fail.
-/

namespace SolAudit.Build

open Ast

/-- The ids that raw nodes have. -/
def explicitIds (raws : List RawNode) : List Int := raws.filterMap RawNode.id?

/-- How many of some raw nodes are to be given a number. -/
def countLacking (raws : List RawNode) : Nat := raws.countP RawNode.lacksId

/-- An id that a node has and that is one of the numbers for the nodes without id. -/
structure Clash (raws : List RawNode) (id : Int) : Prop where
  explicit : id ∈ explicitIds raws
  given : -(countLacking raws : Int) ≤ id
  negative : id < 0

/-- The call fails because an id is in use. -/
def Call.Collides (call : Call) : Prop := ∃ file id tag, call.result = .error (.duplicateId file id tag)

@[simp]
theorem explicitIds_append (raws more : List RawNode) :
    explicitIds (raws ++ more) = explicitIds raws ++ explicitIds more :=
  List.filterMap_append

@[simp]
theorem countLacking_append (raws more : List RawNode) :
    countLacking (raws ++ more) = countLacking raws + countLacking more :=
  List.countP_append

theorem Clash.append {raws : List RawNode} {id : Int} (h : Clash raws id) (more : List RawNode) :
    Clash (raws ++ more) id where
  explicit := by simp [h.explicit]
  given := by
    have hgiven := h.given
    rw [countLacking_append]
    omega
  negative := h.negative

/-- The ids in use are ids that some raw nodes have, or numbers given to them. -/
structure Accounts (raws : List RawNode) (registry : Registry) : Prop where
  last_le : registry.lastSynthetic ≤ 0
  le_last : -(countLacking raws : Int) ≤ registry.lastSynthetic
  used : ∀ id, registry.contains id = true → id ∈ explicitIds raws ∨ (registry.lastSynthetic ≤ id ∧ id < 0)

theorem accounts_nil : Accounts [] {} where
  last_le := le_refl _
  le_last := le_refl _
  used := by simp [Registry.contains]

section

variable {file : Path} {raws : List RawNode} {raw : RawNode} {registry : Registry} {progress progress' : Progress}
  {visit : RawTree.Visit} {e : BuildError}

theorem snd_takeId (h : raw.lacksId = false) :
    (takeId registry raw (Schema.find? raw.tag).isSome).2 = registry := by
  unfold takeId
  unfold RawNode.lacksId at h
  cases hid : raw.id? with
  | some id => rfl
  | none =>
    cases hschema : Schema.find? raw.tag with
    | some schema => rfl
    | none => simp [hid, hschema] at h

theorem takeId_of_lacksId (h : raw.lacksId = true) :
    takeId registry raw (Schema.find? raw.tag).isSome =
      (.ok (registry.lastSynthetic - 1), registry.renumbered (registry.lastSynthetic - 1)) := by
  rw [RawNode.lacksId, Bool.and_eq_true, Option.isNone_iff_eq_none, Option.isNone_iff_eq_none] at h
  rw [takeId, h.1, h.2]
  rfl

/-- A node has its own id, or is given the next number. -/
theorem id_of_takeId {id : Int} (h : (takeId registry raw (Schema.find? raw.tag).isSome).1 = .ok id) :
    raw.id? = some id ∨ raw.lacksId = true ∧ id = registry.lastSynthetic - 1 := by
  rw [takeId_eq_ok_iff] at h
  unfold RawNode.lacksId
  cases hid : raw.id? with
  | some own =>
    rw [hid, Option.getD_some, ite_self] at h
    exact .inl h
  | none =>
    rw [hid] at h
    cases hschema : Schema.find? raw.tag with
    | some schema =>
      rw [hschema] at h
      cases h
    | none =>
      rw [hschema] at h
      exact .inr ⟨rfl, (Option.some.inj h).symm⟩

/-- What a step that fails leaves of the registry, and why an id was refused. -/
theorem step_eq_error (h : step file progress visit = (.error e, progress')) :
    (progress'.registry = progress.registry ∨
      progress'.registry = (takeId progress.registry visit.raw (Schema.find? visit.raw.tag).isSome).2) ∧
    ∀ file' id tag, e = .duplicateId file' id tag →
      (takeId progress.registry visit.raw (Schema.find? visit.raw.tag).isSome).1 = .ok id ∧
        progress.registry.contains id = true := by
  have hseen := seen_takeId progress.registry visit.raw (Schema.find? visit.raw.tag).isSome
  have hfault (fault : FieldFault) (file' : Path) (id : Int) (tag : String) :
      BuildError.ofFault file visit.raw fault ≠ .duplicateId file' id tag := by
    cases fault <;> exact nofun
  unfold step at h
  simp only at h
  split at h
  · cases h
    exact ⟨.inl rfl, fun _ _ _ hdup ↦ absurd hdup (hfault _ _ _ _)⟩
  · split at h
    · rename_i fault registry htake
      cases h
      exact ⟨.inr (by rw [htake]), fun _ _ _ hdup ↦ absurd hdup (hfault _ _ _ _)⟩
    · rename_i id registry htake
      rw [htake] at hseen ⊢
      split at h
      · rename_i hused
        cases h
        refine ⟨.inr rfl, ?_⟩
        rintro file' id' tag hdup
        cases hdup
        rw [Registry.contains, hseen] at hused
        exact ⟨rfl, hused⟩
      · split at h
        · cases h
          exact ⟨.inr rfl, fun _ _ _ hdup ↦ absurd hdup (hfault _ _ _ _)⟩
        · split at h
          · cases h
            exact ⟨.inr rfl, fun _ _ _ hdup ↦ absurd hdup (hfault _ _ _ _)⟩
          · cases h

/-- A node whose fields can be read is refused if its id is in use. -/
theorem step_of_used {kind : Kind} {id : Int} (hkind : visit.raw.kind (Schema.find? visit.raw.tag) = .ok kind)
    (hid : visit.raw.id? = some id) (hused : progress.registry.contains id = true) :
    step file progress visit = (.error (.duplicateId file id visit.raw.tag), progress) := by
  have htake : takeId progress.registry visit.raw (Schema.find? visit.raw.tag).isSome =
      (.ok id, progress.registry) := by
    rw [takeId, hid]
  rw [step, hkind, htake]
  simp only [hused, if_true]

namespace Accounts

theorem append (h : Accounts raws registry) (more : List RawNode) : Accounts (raws ++ more) registry where
  last_le := h.last_le
  le_last := by
    have hle := h.le_last
    rw [countLacking_append]
    omega
  used := by
    intro id hid
    rw [explicitIds_append, List.mem_append]
    exact (h.used id hid).imp_left .inl

/-- Giving a number counts one more node that lacks an id. -/
theorem takeId (h : Accounts raws registry) :
    Accounts (raws ++ [raw]) (takeId registry raw (Schema.find? raw.tag).isSome).2 := by
  cases hlacks : raw.lacksId with
  | false =>
    rw [snd_takeId hlacks]
    exact h.append [raw]
  | true =>
    have hlast := h.last_le
    have hle := h.le_last
    have hcount : countLacking [raw] = 1 := by simp [countLacking, hlacks]
    rw [takeId_of_lacksId hlacks]
    constructor
    · rw [Registry.lastSynthetic_renumbered]
      omega
    · rw [Registry.lastSynthetic_renumbered, countLacking_append, hcount]
      omega
    · intro id hid
      rw [Registry.contains_renumbered] at hid
      rw [Registry.lastSynthetic_renumbered, explicitIds_append, List.mem_append]
      rcases h.used id hid with hid | hid
      · exact .inl (.inl hid)
      · exact .inr (by omega)

/-- A step keeps the account, also one that fails. -/
theorem step {result : Except BuildError Unit} (h : Accounts raws progress.registry)
    (hstep : step file progress visit = (result, progress')) : Accounts (raws ++ [visit.raw]) progress'.registry := by
  cases result with
  | error e =>
    rcases (step_eq_error hstep).1 with hregistry | hregistry
    · rw [hregistry]
      exact h.append [visit.raw]
    · rw [hregistry]
      exact h.takeId
  | ok _ =>
    obtain ⟨node, hlowers, rfl⟩ := exists_lowers_of_step hstep
    have htaken : Accounts (raws ++ [visit.raw])
        (Build.takeId progress.registry visit.raw (Schema.find? visit.raw.tag).isSome).2 := h.takeId
    refine ⟨htaken.last_le, htaken.le_last, ?_⟩
    intro id hid
    rcases (Registry.contains_after _ _ _ _).mp hid with hid | rfl
    · apply htaken.used
      rwa [Registry.contains, seen_takeId]
    · rcases id_of_takeId hlowers.id with hown | ⟨hlacks, hnumber⟩
      · left
        simp [explicitIds, hown]
      · right
        have hlast := h.last_le
        change (Build.takeId progress.registry visit.raw _).2.lastSynthetic ≤ node.id ∧ node.id < 0
        rw [takeId_of_lacksId hlacks, Registry.lastSynthetic_renumbered]
        omega

theorem steps (visits : List RawTree.Visit) : ∀ {raws : List RawNode} {progress progress' : Progress}
    {result : Except BuildError Unit}, Accounts raws progress.registry →
      steps file progress visits = (result, progress') → Accounts (raws ++ visits.map (·.raw)) progress'.registry := by
  induction visits with
  | nil =>
    intro raws progress progress' result h hsteps
    cases hsteps
    exact h.append []
  | cons visit rest ih =>
    intro raws progress progress' result h hsteps
    rw [List.map_cons, ← List.singleton_append, ← List.append_assoc]
    rw [Build.steps] at hsteps
    split at hsteps
    · rename_i e middle hstep
      cases hsteps
      exact (h.step hstep).append _
    · rename_i middle hstep
      exact ih (h.step hstep) hsteps

/-- Fewer numbers left to give, and no other ids in use. -/
theorem renumbered {last : Int} (h : Accounts raws registry) (hlast : last ≤ registry.lastSynthetic)
    (hle : -(countLacking raws : Int) ≤ last) : Accounts raws (registry.renumbered last) where
  last_le := le_trans hlast h.last_le
  le_last := hle
  used := by
    intro id hid
    rw [Registry.contains_renumbered] at hid
    refine (h.used id hid).imp_right fun hnumber ↦ ⟨?_, hnumber.2⟩
    exact le_trans hlast hnumber.1

theorem buildFile {source : SourceTree} {result : Except BuildError Arena} {registry' : Registry}
    (h : Accounts raws registry) (hbuild : buildFile source registry = (result, registry')) :
    Accounts (raws ++ rawNodes source) registry' := by
  have hstart : Accounts raws (start source registry).registry := h
  cases result with
  | ok arena =>
    obtain ⟨tree, progress, htree, -, hsteps, -, rfl⟩ := buildFile_eq_ok_iff.mp hbuild
    have hend := hstart.steps tree.preorder hsteps
    rw [rawNodes_eq_preorder htree]
    exact hend
  | error e =>
    rcases buildFile_eq_error hbuild with ⟨-, rfl⟩ | ⟨tree, progress, htree, hsteps, rfl⟩
    · exact h.append (rawNodes source)
    · have hend := hstart.steps tree.preorder hsteps
      have hlast := lastSynthetic_buildFile_le source registry
      rw [hbuild] at hlast
      rw [rawNodes_eq_preorder htree]
      exact (h.append _).renumbered hlast hend.le_last

end Accounts

/-- An id that is refused at a step is the id of one node and the number of another. -/
theorem clash_of_step {file' : Path} {id : Int} {tag : String} (h : Accounts raws progress.registry)
    (hdistinct : (explicitIds (raws ++ [visit.raw])).Nodup)
    (hstep : step file progress visit = (.error (.duplicateId file' id tag), progress')) :
    Clash (raws ++ [visit.raw]) id := by
  obtain ⟨hid, hused⟩ := (step_eq_error hstep).2 file' id tag rfl
  have hlast := h.last_le
  have hle := h.le_last
  rw [explicitIds_append, List.nodup_append] at hdistinct
  rcases id_of_takeId hid with hown | ⟨hlacks, rfl⟩
  · -- No other node has the id, so it is a number.
    have hmem : id ∈ explicitIds [visit.raw] := by simp [explicitIds, hown]
    have hnumber := (h.used id hused).resolve_left fun hother ↦ hdistinct.2.2 id hother id hmem rfl
    constructor
    · simp [hmem]
    · rw [countLacking_append]
      omega
    · exact hnumber.2
  · -- The next number is below all that were given, so a node has it as its id.
    have hother := (h.used _ hused).resolve_right fun hnumber ↦ by omega
    have hcount : countLacking [visit.raw] = 1 := by simp [countLacking, hlacks]
    constructor
    · simp [hother]
    · rw [countLacking_append, hcount]
      omega
    · omega

theorem clash_of_steps {file' : Path} {id : Int} {tag : String} (visits : List RawTree.Visit) :
    ∀ {raws : List RawNode} {progress progress' : Progress}, Accounts raws progress.registry →
      (explicitIds (raws ++ visits.map (·.raw))).Nodup →
      steps file progress visits = (.error (.duplicateId file' id tag), progress') →
      Clash (raws ++ visits.map (·.raw)) id := by
  induction visits with
  | nil =>
    intro raws progress progress' _ _ hsteps
    cases hsteps
  | cons visit rest ih =>
    intro raws progress progress' h hdistinct hsteps
    rw [List.map_cons, ← List.singleton_append, ← List.append_assoc] at hdistinct ⊢
    rw [steps] at hsteps
    split at hsteps
    · rename_i e middle hstep
      cases hsteps
      have hfirst : (explicitIds (raws ++ [visit.raw])).Nodup := by
        rw [explicitIds_append] at hdistinct
        exact hdistinct.of_append_left
      exact (clash_of_step h hfirst hstep).append _
    · rename_i middle hstep
      exact ih (h.step hstep) hdistinct hsteps

theorem clash_of_buildFile {source : SourceTree} {registry' : Registry} {file' : Path} {id : Int} {tag : String}
    (h : Accounts raws registry) (hdistinct : (explicitIds (raws ++ rawNodes source)).Nodup)
    (hbuild : buildFile source registry = (.error (.duplicateId file' id tag), registry')) :
    Clash (raws ++ rawNodes source) id := by
  rcases buildFile_eq_error hbuild with ⟨hroot, -⟩ | ⟨tree, progress, htree, hsteps, -⟩
  · cases hroot
  · have hstart : Accounts raws (start source registry).registry := h
    rw [rawNodes_eq_preorder htree] at hdistinct ⊢
    exact clash_of_steps tree.preorder hstart hdistinct hsteps

end

/-- Where no two nodes of a run have one id, an id that is refused in a call is a clash. -/
theorem clash_of_mem_calls (sources : List SourceTree) : ∀ {raws : List RawNode} {registry : Registry},
    Accounts raws registry → (explicitIds (raws ++ sources.flatMap rawNodes)).Nodup →
      ∀ call ∈ calls registry sources, ∀ file id tag, call.result = .error (.duplicateId file id tag) →
        Clash (raws ++ sources.flatMap rawNodes) id := by
  induction sources with
  | nil =>
    intro raws registry _ _ call hcall
    cases hcall
  | cons source rest ih =>
    intro raws registry h hdistinct call hcall file id tag hresult
    rw [List.flatMap_cons, ← List.append_assoc] at hdistinct ⊢
    cases hbuild : buildFile source registry with
    | mk result registry' =>
      rw [calls_cons hbuild] at hcall
      rcases List.mem_cons.mp hcall with rfl | hcall
      · have hfirst : (explicitIds (raws ++ rawNodes source)).Nodup := by
          rw [explicitIds_append] at hdistinct
          exact hdistinct.of_append_left
        simp only at hresult
        exact (clash_of_buildFile h hfirst (hresult ▸ hbuild)).append _
      · exact ih (h.buildFile hbuild) hdistinct call hcall file id tag hresult

/-! ## Runs in which every file is built -/

/-- The numbers that are given after a last one. -/
def numbersAfter (last : Int) (count : Nat) : List Int := (List.range count).map fun k : Nat ↦ last - 1 - k

theorem numbersAfter_add (last : Int) (first second : Nat) :
    numbersAfter last (first + second) = numbersAfter last first ++ numbersAfter (last - first) second := by
  unfold numbersAfter
  rw [List.range_add, List.map_append, List.map_map]
  congr 2
  funext k
  simp only [Function.comp_apply]
  omega

theorem mem_numbersAfter_zero {count : Nat} {id : Int} : id ∈ numbersAfter 0 count ↔ -(count : Int) ≤ id ∧ id < 0 := by
  unfold numbersAfter
  rw [List.mem_map]
  constructor
  · rintro ⟨k, hk, rfl⟩
    have hlt := List.mem_range.mp hk
    omega
  · rintro ⟨hle, hlt⟩
    refine ⟨(-1 - id).toNat, List.mem_range.mpr ?_, ?_⟩
    · omega
    · omega

/-- Ids before numbers, whichever node they belong to. -/
theorem append_interchange_perm {α : Type} (a b c d : List α) : ((a ++ b) ++ (c ++ d)).Perm ((a ++ c) ++ (b ++ d)) := by
  rw [List.append_assoc, List.append_assoc]
  exact (List.perm_append_comm_assoc b c d).append_left a

theorem numberAfter_eq (last : Int) (raw : RawNode) : numberAfter last raw = last - countLacking [raw] := by
  unfold numberAfter countLacking RawNode.lacksId
  cases hid : raw.id? with
  | some id => simp [hid]
  | none => cases hschema : Schema.find? raw.tag <;> simp [hid, hschema]

theorem foldl_numberAfter (raws : List RawNode) (last : Int) :
    raws.foldl numberAfter last = last - countLacking raws := by
  induction raws generalizing last with
  | nil => simp [countLacking]
  | cons raw rest ih =>
    have hcount : countLacking (raw :: rest) = countLacking [raw] + countLacking rest := countLacking_append [raw] rest
    rw [List.foldl_cons, ih, numberAfter_eq, hcount]
    omega

theorem ids_eq_of_lower? {last : Int} {raw : RawNode} {node : Node} (h : lower? last raw = some node) :
    [node.id] = explicitIds [raw] ++ numbersAfter last (countLacking [raw]) := by
  rcases id_of_takeId (lowers_of_lower? h).id with hown | ⟨hlacks, hnumber⟩
  · have hnot : raw.lacksId = false := by simp [RawNode.lacksId, hown]
    simp [explicitIds, hown, countLacking, hnot, numbersAfter]
  · have hnone : raw.id? = none := by
      rw [RawNode.lacksId, Bool.and_eq_true, Option.isNone_iff_eq_none] at hlacks
      exact hlacks.1
    simp [explicitIds, hnone, countLacking, hlacks, numbersAfter, hnumber]

/-- The ids of nodes are those that the raw nodes have, and the next numbers for the others. -/
theorem ids_perm_of_lowerAll? {raws : List RawNode} : ∀ {last : Int} {nodes : List Node},
    lowerAll? last raws = some nodes →
      (nodes.map Node.id).Perm (explicitIds raws ++ numbersAfter last (countLacking raws)) := by
  induction raws with
  | nil =>
    intro last nodes h
    cases h
    exact .refl _
  | cons raw rest ih =>
    intro last nodes h
    obtain ⟨node, later, hnode, hlater, rfl⟩ := lowerAll?_cons_eq_some_iff.mp h
    have hrest := ih hlater
    have hids : explicitIds (raw :: rest) = explicitIds [raw] ++ explicitIds rest := explicitIds_append [raw] rest
    have hcount : countLacking (raw :: rest) = countLacking [raw] + countLacking rest := countLacking_append [raw] rest
    rw [numberAfter_eq] at hrest
    rw [List.map_cons, hids, hcount, numbersAfter_add, ← List.singleton_append, ids_eq_of_lower? hnode]
    exact (hrest.append_left _).trans (append_interchange_perm _ _ _ _)

theorem ids_perm_of_buildFile {source : SourceTree} {registry registry' : Registry} {arena : Arena}
    (h : buildFile source registry = (.ok arena, registry')) :
    arena.ids.Perm (explicitIds (rawNodes source) ++
      numbersAfter registry.lastSynthetic (countLacking (rawNodes source))) ∧
    registry'.lastSynthetic = registry.lastSynthetic - countLacking (rawNodes source) := by
  have hlower := lowerAll?_of_buildFile h
  obtain ⟨tree, progress, htree, -, hsteps, -, rfl⟩ := buildFile_eq_ok_iff.mp h
  have hraws := rawNodes_eq_preorder htree
  rw [htree, Option.bind_some, ← hraws] at hlower
  constructor
  · have hids := ids_perm_of_lowerAll? hlower
    rwa [List.map_map] at hids
  · rw [lastSynthetic_of_steps _ hsteps, foldl_numberAfter, hraws]
    rfl

/-- If every file of a run is built, all ids together are those that the nodes have, and the numbers for the others. -/
theorem ids_perm_of_built (sources : List SourceTree) : ∀ registry : Registry,
    (∀ call ∈ calls registry sources, call.arena?.isSome = true) →
      ((buildFrom registry sources).roots.flatMap Arena.ids).Perm
        (explicitIds (sources.flatMap rawNodes) ++
          numbersAfter registry.lastSynthetic (countLacking (sources.flatMap rawNodes))) := by
  induction sources with
  | nil =>
    intro registry _
    exact .refl _
  | cons source rest ih =>
    intro registry hbuilt
    cases hbuild : buildFile source registry with
    | mk result registry' =>
      rw [calls_cons hbuild, List.forall_mem_cons] at hbuilt
      cases result with
      | error e => cases hbuilt.1
      | ok arena =>
        obtain ⟨hfirst, hlast⟩ := ids_perm_of_buildFile hbuild
        have hrest := ih registry' hbuilt.2
        rw [hlast] at hrest
        rw [roots_cons_of_ok hbuild, List.flatMap_cons, List.flatMap_cons, explicitIds_append, countLacking_append,
          numbersAfter_add]
        exact (hfirst.append hrest).trans (append_interchange_perm _ _ _ _)

/-- Where no two nodes of a run have one id, an id is refused only if it is the id of a node and one of the numbers -1,
-2 and so on for the nodes without id; so none is refused where no node has such an id. In a run in which no file fails
for another reason, an id is refused exactly if a node has such an id. -/
theorem ids_collide_with_numbers (sources : List SourceTree)
    (hdistinct : (explicitIds (sources.flatMap rawNodes)).Nodup) :
    (∀ call ∈ calls {} sources, ∀ file id tag, call.result = .error (.duplicateId file id tag) →
      id ∈ explicitIds (sources.flatMap rawNodes) ∧ -(countLacking (sources.flatMap rawNodes) : Int) ≤ id ∧ id < 0) ∧
    ((∀ call ∈ calls {} sources, call.arena?.isSome = true ∨ call.Collides) →
      ((∃ call ∈ calls {} sources, call.Collides) ↔ ∃ id ∈ explicitIds (sources.flatMap rawNodes),
        -(countLacking (sources.flatMap rawNodes) : Int) ≤ id ∧ id < 0)) := by
  have hclash : ∀ call ∈ calls {} sources, ∀ file id tag, call.result = .error (.duplicateId file id tag) →
      Clash (sources.flatMap rawNodes) id := by
    have hall := clash_of_mem_calls sources accounts_nil
    rw [List.nil_append] at hall
    exact hall hdistinct
  refine ⟨?_, fun hothers ↦ ⟨?_, ?_⟩⟩
  · intro call hcall file id tag hresult
    have hid := hclash call hcall file id tag hresult
    exact ⟨hid.explicit, hid.given, hid.negative⟩
  · rintro ⟨call, hcall, file, id, tag, hresult⟩
    have hid := hclash call hcall file id tag hresult
    exact ⟨id, hid.explicit, hid.given, hid.negative⟩
  · rintro ⟨id, hexplicit, hnumber⟩
    by_contra hnone
    have hbuilt : ∀ call ∈ calls {} sources, call.arena?.isSome = true := by
      intro call hcall
      exact (hothers call hcall).resolve_right fun hcollides ↦ hnone ⟨call, hcall, hcollides⟩
    have hnodup := (ids_perm_of_built sources {} hbuilt).nodup_iff.mp (nodup_ids_build sources)
    rw [List.nodup_append] at hnodup
    exact hnodup.2.2 id hexplicit id (mem_numbersAfter_zero.mpr hnumber) rfl

/-- A literal that has the first number as its id. -/
def negativeLiteral : RawNode :=
  ⟨"YulLiteral", [("id", .int (-1)), ("nodeType", .str "YulLiteral"), ("src", .str "4:1:0")], false, none⟩

def collidingUnit : RawNode :=
  ⟨"SourceUnit", [("absolutePath", .str "A.sol"), ("id", .int 1), ("nodeType", .str "SourceUnit"),
    ("nodes", .arr [.obj numberedBlock.members, .obj negativeLiteral.members]), ("src", .str "0:9:0")], false, none⟩

def collidingSource : SourceTree := ⟨0, ⟨"/p/A.sol"⟩, .obj collidingUnit.members⟩

/-- The block is given the number -1, and then the literal is refused. -/
theorem exists_buildFile_collidingSource : ∃ registry',
    buildFile collidingSource {} = (.error (.duplicateId ⟨"/p/A.sol"⟩ (-1) "YulLiteral"), registry') := by
  have htree : RawTree.ofJson? collidingSource.ast = some (.node collidingUnit none
      [.node numberedBlock (some "nodes") [], .node negativeLiteral (some "nodes") []]) := by
    with_unfolding_all rfl
  let before : List RawTree.Visit := [⟨collidingUnit, none, none⟩, ⟨numberedBlock, some 0, some "nodes"⟩]
  have hnodes : (lowerAll? 0 (before.map (·.raw))).map (·.map Node.id) = some [1, -1] := by rfl
  obtain ⟨progress, hsteps, hids⟩ : ∃ progress, steps collidingSource.path (start collidingSource {}) before =
      (.ok (), progress) ∧ progress.arena.ids = [1, -1] := exists_steps_of_ids hnodes (by decide)
  have hused : progress.registry.contains (-1) = true := by
    rw [((tracks_start collidingSource {}).steps before hsteps).contains_iff, hids]
    exact .inr (by decide)
  have hstep : step collidingSource.path progress ⟨negativeLiteral, some 0, some "nodes"⟩ =
      (.error (.duplicateId ⟨"/p/A.sol"⟩ (-1) "YulLiteral"), progress) := step_of_used rfl rfl hused
  exact ⟨_, buildFile_eq_error_of_step htree rfl rfl hsteps hstep⟩

theorem collidingSource_collides :
    (explicitIds ([collidingSource].flatMap rawNodes)).Nodup ∧
      (∃ call ∈ calls {} [collidingSource], call.result = .error (.duplicateId ⟨"/p/A.sol"⟩ (-1) "YulLiteral")) ∧
      -1 ∈ explicitIds ([collidingSource].flatMap rawNodes) ∧
      -(countLacking ([collidingSource].flatMap rawNodes) : Int) ≤ -1 := by
  have hids : explicitIds ([collidingSource].flatMap rawNodes) = [1, -1] := by
    with_unfolding_all rfl
  have hdistinct : (explicitIds ([collidingSource].flatMap rawNodes)).Nodup := by
    rw [hids]
    decide
  obtain ⟨registry', hbuild⟩ := exists_buildFile_collidingSource
  have hcall : calls {} [collidingSource] = _ := calls_cons hbuild
  obtain ⟨hexplicit, hgiven, -⟩ := (ids_collide_with_numbers [collidingSource] hdistinct).1 _
    (hcall ▸ List.mem_cons_self) _ _ _ rfl
  exact ⟨hdistinct, ⟨_, hcall ▸ List.mem_cons_self, rfl⟩, hexplicit, hgiven⟩

end SolAudit.Build
