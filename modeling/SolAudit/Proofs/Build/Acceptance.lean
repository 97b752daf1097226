import SolAudit.Proofs.Build.Ids

/-!
# When a file is built

Apart from ids that are in use, a node passes or fails its checks by itself: `lower?` gives the node of a raw
node, `lowerAll?` those of a list, with the numbers handed out on the way. A file is built exactly if its root is
a source unit, every node passes, and the ids are distinct and not in use (`exists_buildFile_eq_ok_iff`).
-/

namespace SolAudit.Build

open Ast

/-- The last number given to a node without id, after one more node. -/
def numberAfter (last : Int) (raw : RawNode) : Int :=
  match raw.id?, Schema.find? raw.tag with
  | none, none => last - 1
  | _, _ => last

/-- The node of a raw node, whatever ids are in use. -/
def lower? (last : Int) (raw : RawNode) : Option Node :=
  let schema := Schema.find? raw.tag
  match raw.kind schema, if schema.isSome then raw.id? else some (raw.id?.getD (last - 1)),
      if schema.isSome then raw.src? else some (raw.src?.getD ""), raw.missingSlot? schema with
  | .ok kind, some id, some src, none => some { id, src, kind, typeString := raw.typeString? }
  | _, _, _, _ => none

def lowerAll? (last : Int) : List RawNode → Option (List Node)
  | [] => some []
  | raw :: rest =>
    match lower? last raw, lowerAll? (numberAfter last raw) rest with
    | some node, some nodes => some (node :: nodes)
    | _, _ => none

theorem takeId_eq_ok_iff {registry : Registry} {raw : RawNode} {known : Bool} {id : Int} :
    (takeId registry raw known).1 = .ok id ↔
      (if known then raw.id? else some (raw.id?.getD (registry.lastSynthetic - 1))) = some id := by
  rw [takeId]
  cases raw.id? with
  | none => cases known <;> simp
  | some own => cases known <;> simp

theorem lastSynthetic_after {registry : Registry} {raw : RawNode} {node : Node} :
    (registry.after raw node).lastSynthetic = numberAfter registry.lastSynthetic raw := by
  rw [Registry.after, numberAfter, takeId]
  cases raw.id? with
  | none => cases Schema.find? raw.tag <;> rfl
  | some own => rfl

theorem lowers_iff {registry : Registry} {raw : RawNode} {node : Node} :
    Lowers registry raw node ↔
      lower? registry.lastSynthetic raw = some node ∧ registry.contains node.id = false := by
  constructor
  · intro h
    obtain ⟨hkind, hid, hfresh, hsrc, hslots, htype, hchildren⟩ := h
    refine ⟨?_, hfresh⟩
    rw [takeId_eq_ok_iff] at hid
    rw [lower?, hkind, hid, hsrc, hslots]
    simp only [← htype, ← hchildren]
  · rintro ⟨hlower, hfresh⟩
    rw [lower?] at hlower
    split at hlower
    · rename_i kind id src hkind hid hsrc hslots
      cases hlower
      exact ⟨hkind, takeId_eq_ok_iff.mpr hid, hfresh, hsrc, hslots, rfl, rfl⟩
    · cases hlower

/-- With no ids in use, a node that passes its own checks is accepted. -/
theorem lowers_of_lower? {last : Int} {raw : RawNode} {node : Node} (h : lower? last raw = some node) :
    Lowers { lastSynthetic := last } raw node :=
  lowers_iff.mpr ⟨h, Std.HashSet.contains_empty⟩

theorem lowerAll?_cons_eq_some_iff {last : Int} {raw : RawNode} {rest : List RawNode} {nodes : List Node} :
    lowerAll? last (raw :: rest) = some nodes ↔
      ∃ node later, lower? last raw = some node ∧ lowerAll? (numberAfter last raw) rest = some later ∧
        nodes = node :: later := by
  rw [lowerAll?]
  split
  · rename_i node later hnode hlater
    simp [hnode, hlater, eq_comm]
  · rename_i hnone
    constructor
    · intro h
      cases h
    · rintro ⟨node, later, hnode, hlater, -⟩
      exact absurd hlater (hnone node later hnode)

/-- The nodes of a list of steps, one for each visit. -/
theorem exists_nodes_steps {file : Path} (visits : List RawTree.Visit) : ∀ {progress progress' : Progress},
    steps file progress visits = (.ok (), progress') →
      ∃ nodes, progress'.arena.nodes.toList.map Node.bare = progress.arena.nodes.toList.map Node.bare ++ nodes ∧
        lowerAll? progress.registry.lastSynthetic (visits.map (·.raw)) = some nodes ∧
        List.Forall₂ (fun visit node ↦ ∃ registry, Lowers registry visit.raw node) visits nodes := by
  intro progress progress' h
  refine steps_induction ?_ ?_ h
  · intro progress
    exact ⟨[], (List.append_nil _).symm, rfl, .nil⟩
  · intro progress visit rest final node hlowers ih
    obtain ⟨nodes, hnodes, hlower, hall⟩ := ih
    have hbare : node.bare = node := by
      rw [Node.bare, ← hlowers.children]
    refine ⟨node :: nodes, ?_, ?_, .cons ⟨progress.registry, hlowers⟩ hall⟩
    · rw [hnodes, Arena.map_nodes_push Node.bare fun _ _ ↦ rfl, hbare, List.append_assoc]
      rfl
    · rw [lastSynthetic_after] at hlower
      exact lowerAll?_cons_eq_some_iff.mpr ⟨node, nodes, (lowers_iff.mp hlowers).1, hlower, rfl⟩

/-- Apart from their edges, the nodes of a file that is built are those of its raw tree in pre-order. -/
theorem lowerAll?_of_buildFile {source : SourceTree} {registry registry' : Registry} {arena : Arena}
    (h : buildFile source registry = (.ok arena, registry')) :
    ((RawTree.ofJson? source.ast).bind fun tree ↦
      lowerAll? registry.lastSynthetic (tree.preorder.map (·.raw))) = some (arena.nodes.toList.map Node.bare) := by
  obtain ⟨tree, progress, htree, -, hsteps, rfl, rfl⟩ := buildFile_eq_ok_iff.mp h
  obtain ⟨nodes, hnodes, hlower, -⟩ := exists_nodes_steps _ hsteps
  have hfinish : progress.arena.finish.nodes.toList.map Node.bare = nodes := hnodes
  rw [htree, Option.bind_some, hfinish]
  exact hlower

/-- Ids are distinct and new if the first is new, and the others are once the first is in use. -/
theorem nodup_ids_cons_iff {registry : Registry} (raw : RawNode) {node : Node} {nodes : List Node} :
    (((node :: nodes).map Node.id).Nodup ∧ ∀ n ∈ node :: nodes, registry.contains n.id = false) ↔
      registry.contains node.id = false ∧ (nodes.map Node.id).Nodup ∧
        ∀ n ∈ nodes, (registry.after raw node).contains n.id = false := by
  have hafter (n : Node) : (registry.after raw node).contains n.id = false ↔
      registry.contains n.id = false ∧ n.id ≠ node.id := by
    rw [← Bool.not_eq_true, Registry.contains_after, not_or, Bool.not_eq_true]
  simp only [List.map_cons, List.nodup_cons, List.mem_map, List.forall_mem_cons, hafter]
  constructor
  · rintro ⟨⟨hnew, hnodup⟩, hfresh, hrest⟩
    exact ⟨hfresh, hnodup, fun n hn ↦ ⟨hrest n hn, fun hid ↦ hnew ⟨n, hn, hid⟩⟩⟩
  · rintro ⟨hfresh, hnodup, hrest⟩
    refine ⟨⟨?_, hnodup⟩, hfresh, fun n hn ↦ (hrest n hn).1⟩
    rintro ⟨n, hn, hid⟩
    exact (hrest n hn).2 hid

/-- A list of steps succeeds exactly if every node passes its own checks and the ids are distinct and new. -/
theorem exists_steps_eq_ok_iff {file : Path} (visits : List RawTree.Visit) : ∀ {progress : Progress},
    (∃ progress', steps file progress visits = (.ok (), progress')) ↔
      ∃ nodes, lowerAll? progress.registry.lastSynthetic (visits.map (·.raw)) = some nodes ∧
        (nodes.map Node.id).Nodup ∧ ∀ node ∈ nodes, progress.registry.contains node.id = false := by
  induction visits with
  | nil =>
    intro progress
    simp [steps, lowerAll?]
  | cons visit rest ih =>
    intro progress
    rw [List.map_cons]
    constructor
    · rintro ⟨progress', h⟩
      obtain ⟨middle, hstep, hrest⟩ := steps_cons_eq_ok_iff.mp h
      obtain ⟨node, hlowers, rfl⟩ := exists_lowers_of_step hstep
      obtain ⟨hlower, hfresh⟩ := lowers_iff.mp hlowers
      obtain ⟨nodes, hnodes, hnew⟩ := ih.mp ⟨progress', hrest⟩
      rw [lastSynthetic_after] at hnodes
      exact ⟨node :: nodes, lowerAll?_cons_eq_some_iff.mpr ⟨node, nodes, hlower, hnodes, rfl⟩,
        (nodup_ids_cons_iff visit.raw).mpr ⟨hfresh, hnew⟩⟩
    · rintro ⟨all, hall, hnew⟩
      obtain ⟨node, nodes, hlower, hnodes, rfl⟩ := lowerAll?_cons_eq_some_iff.mp hall
      obtain ⟨hfresh, hlater⟩ := (nodup_ids_cons_iff visit.raw).mp hnew
      have hlowers := lowers_iff.mpr ⟨hlower, hfresh⟩
      obtain ⟨progress', hrest⟩ : ∃ progress', steps file
          ⟨progress.arena.push visit.parent visit.slot node, progress.registry.after visit.raw node⟩ rest =
            (.ok (), progress') := by
        refine ih.mpr ⟨nodes, ?_, hlater⟩
        rw [lastSynthetic_after]
        exact hnodes
      exact ⟨progress', steps_cons_eq_ok_iff.mpr ⟨_, step_of_lowers hlowers, hrest⟩⟩

/-- With no ids in use, steps whose nodes have distinct ids succeed, and these are the ids of the arena. -/
theorem exists_steps_of_ids {file : Path} {source : SourceTree} {visits : List RawTree.Visit} {ids : List Int}
    (hnodes : (lowerAll? 0 (visits.map (·.raw))).map (·.map Node.id) = some ids) (hids : ids.Nodup) :
    ∃ progress, steps file (start source {}) visits = (.ok (), progress) ∧ progress.arena.ids = ids := by
  obtain ⟨nodes, hlower, rfl⟩ := Option.map_eq_some_iff.mp hnodes
  obtain ⟨progress, hsteps⟩ : ∃ progress, steps file (start source {}) visits = (.ok (), progress) :=
    (exists_steps_eq_ok_iff visits).mpr ⟨nodes, hlower, hids, fun _ _ ↦ Std.HashSet.contains_empty⟩
  refine ⟨progress, hsteps, ?_⟩
  obtain ⟨nodes', harena, hlower', -⟩ := exists_nodes_steps visits hsteps
  have hpushed : progress.arena.nodes.toList.map Node.bare = nodes' := harena
  rw [← Option.some.inj (hlower'.symm.trans hlower), ← hpushed, List.map_map]
  rfl

theorem exists_buildFile_eq_ok_iff {source : SourceTree} {registry : Registry} :
    (∃ arena registry', buildFile source registry = (.ok arena, registry')) ↔
      ∃ tree nodes, RawTree.ofJson? source.ast = some tree ∧ tree.raw.tag = "SourceUnit" ∧
        lowerAll? registry.lastSynthetic (tree.preorder.map (·.raw)) = some nodes ∧
        (nodes.map Node.id).Nodup ∧ ∀ node ∈ nodes, registry.contains node.id = false := by
  constructor
  · rintro ⟨arena, registry', h⟩
    obtain ⟨tree, progress, htree, htag, hsteps, -, -⟩ := buildFile_eq_ok_iff.mp h
    obtain ⟨nodes, hnodes, hnodup, hnew⟩ := (exists_steps_eq_ok_iff tree.preorder).mp ⟨progress, hsteps⟩
    exact ⟨tree, nodes, htree, htag, hnodes, hnodup, hnew⟩
  · rintro ⟨tree, nodes, htree, htag, hnodes, hnodup, hnew⟩
    obtain ⟨progress, hsteps⟩ : ∃ progress,
        steps source.path (start source registry) tree.preorder = (.ok (), progress) :=
      (exists_steps_eq_ok_iff tree.preorder).mpr ⟨nodes, hnodes, hnodup, hnew⟩
    exact ⟨_, _, buildFile_eq_ok_iff.mpr ⟨tree, progress, htree, htag, hsteps, rfl, rfl⟩⟩

/-- A source unit is built of raw nodes that pass and have distinct ids that are not in use. -/
theorem exists_buildFile_of_new_raws {source : SourceTree} {registry : Registry} {raws : List RawNode}
    {nodes : List Node}
    (htree : ((RawTree.ofJson? source.ast).map fun tree ↦ (tree.raw.tag, tree.preorder.map (·.raw))) =
      some ("SourceUnit", raws))
    (hnodes : lowerAll? registry.lastSynthetic raws = some nodes) (hids : (nodes.map Node.id).Nodup)
    (hnew : ∀ node ∈ nodes, registry.contains node.id = false) :
    ∃ arena registry', buildFile source registry = (.ok arena, registry') ∧
      arena.nodes.toList.map Node.bare = nodes := by
  obtain ⟨tree, hjson, hraws⟩ := Option.map_eq_some_iff.mp htree
  obtain ⟨htag, rfl⟩ := Prod.mk.inj hraws
  obtain ⟨arena, registry', h⟩ : ∃ arena registry', buildFile source registry = (.ok arena, registry') :=
    exists_buildFile_eq_ok_iff.mpr ⟨tree, nodes, hjson, htag, hnodes, hids, hnew⟩
  refine ⟨arena, registry', h, ?_⟩
  have hlower := lowerAll?_of_buildFile h
  rw [hjson, Option.bind_some] at hlower
  exact Option.some.inj (hlower.symm.trans hnodes)

/-- With no ids in use, distinct ids are enough. -/
theorem exists_buildFile_of_raws {source : SourceTree} {raws : List RawNode} {nodes : List Node}
    (htree : ((RawTree.ofJson? source.ast).map fun tree ↦ (tree.raw.tag, tree.preorder.map (·.raw))) =
      some ("SourceUnit", raws))
    (hnodes : lowerAll? 0 raws = some nodes) (hids : (nodes.map Node.id).Nodup) :
    ∃ arena registry', buildFile source {} = (.ok arena, registry') ∧
      arena.nodes.toList.map Node.bare = nodes :=
  exists_buildFile_of_new_raws htree hnodes hids fun _ _ ↦ Std.HashSet.contains_empty

/-- It is enough to know the ids of the nodes. -/
theorem exists_buildFile_of_ids {source : SourceTree} {raws : List RawNode} {ids : List Int}
    (htree : ((RawTree.ofJson? source.ast).map fun tree ↦ (tree.raw.tag, tree.preorder.map (·.raw))) =
      some ("SourceUnit", raws))
    (hnodes : (lowerAll? 0 raws).map (·.map Node.id) = some ids) (hids : ids.Nodup) :
    ∃ arena registry', buildFile source {} = (.ok arena, registry') := by
  obtain ⟨nodes, hlower, rfl⟩ := Option.map_eq_some_iff.mp hnodes
  obtain ⟨arena, registry', h, -⟩ := exists_buildFile_of_raws htree hlower hids
  exact ⟨arena, registry', h⟩

end SolAudit.Build
