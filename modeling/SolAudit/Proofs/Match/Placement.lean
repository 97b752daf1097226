import SolAudit.Proofs.Build.Acceptance
import SolAudit.Proofs.Match.Naive
import SolAudit.Proofs.Template.Bundled
import SolAudit.Proofs.Template.Loading

/-!
# Malformed ranges last

What a template finds in a file is meant to come by offset and node, with malformed ranges last: `placedFindings`
says this without an offset for malformed ranges. A run orders findings by a number instead, and counts a malformed
range as the last offset of all. A range may start there too, and then the node decides, so the two orders differ
exactly where a malformed range meets a range at the last offset whose node comes later (`Misplaced`).
-/

namespace SolAudit.Match

open Ast Build Template

def Finding.range? (finding : Finding) : Option Source.Range := Source.Range.ofChars? finding.src.toList

/-- By offset and node, with malformed ranges last. -/
def placeNotAfter (a b : Finding) : Bool :=
  match a.range?, b.range? with
  | some r, some s => r.offset < s.offset || (r.offset == s.offset && a.nodeId ≤ b.nodeId)
  | some _, none => true
  | none, some _ => false
  | none, none => a.nodeId ≤ b.nodeId

/-- The findings of a template in a file, by place. -/
def placedFindings (arena : Arena) (resolver : Source.Resolver) (template : Template) : List Finding :=
  (arena.nodes.toList.zipIdx.filterMap fun (node, position) ↦
    if qualifies template arena node position then some (findingAt arena resolver template node)
    else none).mergeSort placeNotAfter

/-- A finding at a malformed range counts as one at the last offset, and comes before a finding that really is
there if its node does. -/
def Displaces (a b : Finding) : Prop :=
  a.range? = none ∧ b.range?.map Source.Range.offset = some Text.lastIndex ∧ a.nodeId < b.nodeId

def Misplaced (findings : List Finding) : Prop := ∃ a ∈ findings, ∃ b ∈ findings, Displaces a b

theorem placeNotAfter_trans (a b c : Finding) (hab : placeNotAfter a b) (hbc : placeNotAfter b c) :
    placeNotAfter a c := by
  revert hab hbc
  unfold placeNotAfter
  cases a.range? <;> cases b.range? <;> cases c.range? <;> simp <;> omega

theorem placeNotAfter_total (a b : Finding) : placeNotAfter a b || placeNotAfter b a := by
  unfold placeNotAfter
  cases a.range? <;> cases b.range? <;> simp <;> omega

theorem nodeId_eq_of_placeNotAfter {a b : Finding} (hab : placeNotAfter a b) (hba : placeNotAfter b a) :
    a.nodeId = b.nodeId := by
  revert hab hba
  unfold placeNotAfter
  cases a.range? <;> cases b.range? <;> simp <;> omega

/-- Of two findings in the order of a run, only those that are displaced are out of place. -/
theorem placeNotAfter_iff_of_before {a b : Finding} (ha : a.offset = Source.Range.offsetOf a.src)
    (hb : b.offset = Source.Range.offsetOf b.src)
    (hbefore : a.offset < b.offset ∨ a.offset = b.offset ∧ a.nodeId < b.nodeId) :
    placeNotAfter a b = true ↔ ¬ Displaces a b := by
  have hlast : b.offset ≤ Text.lastIndex := hb ▸ Source.Range.offsetOf_le_lastIndex b.src
  cases hra : a.range? with
  | none =>
    have haoffset := ha.trans (Source.Range.offsetOf_of_malformed hra)
    cases hrb : b.range? with
    | none =>
      have hboffset := hb.trans (Source.Range.offsetOf_of_malformed hrb)
      simp only [placeNotAfter, Displaces, hra, hrb, decide_eq_true_eq, Option.map_none, reduceCtorEq, false_and,
        and_false, not_false_eq_true, iff_true]
      omega
    | some s =>
      have hboffset := hb.trans (Source.Range.offsetOf_of_range hrb)
      simp only [placeNotAfter, Displaces, hra, hrb, Bool.false_eq_true, Option.map_some, Option.some.injEq,
        true_and, false_iff, not_not]
      omega
  | some r =>
    have haoffset := ha.trans (Source.Range.offsetOf_of_range hra)
    cases hrb : b.range? with
    | none => simp [placeNotAfter, Displaces, hra, hrb]
    | some s =>
      have hboffset := hb.trans (Source.Range.offsetOf_of_range hrb)
      simp only [placeNotAfter, Displaces, hra, hrb, Bool.or_eq_true, decide_eq_true_eq, Bool.and_eq_true,
        beq_iff_eq, reduceCtorEq, false_and, not_false_eq_true, iff_true]
      omega

/-- A finding is not displaced by one that comes after it. -/
theorem not_displaces_of_before {a b : Finding} (ha : a.offset = Source.Range.offsetOf a.src)
    (hb : b.offset = Source.Range.offsetOf b.src)
    (hbefore : a.offset < b.offset ∨ a.offset = b.offset ∧ a.nodeId < b.nodeId) : ¬ Displaces b a := by
  rintro ⟨hrb, hra, hid⟩
  obtain ⟨range, hrange, hlast⟩ := Option.map_eq_some_iff.mp hra
  have haoffset := ha.trans (Source.Range.offsetOf_of_range hrange)
  have hboffset := hb.trans (Source.Range.offsetOf_of_malformed hrb)
  omega

theorem mem_placedFindings {arena : Arena} {position : Nat} {node : Node}
    (hnode : arena.node? position = some node) (resolver : Source.Resolver) {template : Template}
    (hqualifies : qualifies template arena node position = true) :
    findingAt arena resolver template node ∈ placedFindings arena resolver template := by
  rw [placedFindings, List.mem_mergeSort, List.mem_filterMap]
  refine ⟨(node, position), ?_, if_pos hqualifies⟩
  rw [List.mem_zipIdx_iff_getElem?, Array.getElem?_toList]
  exact hnode

theorem placedFindings_perm (arena : Arena) (resolver : Source.Resolver) (template : Template) :
    (placedFindings arena resolver template).Perm (naiveFindings arena resolver template) :=
  (List.mergeSort_perm _ _).trans (List.mergeSort_perm _ _).symm

/-- In a file with unique ids, the findings are in place exactly if none is displaced. -/
theorem naiveFindings_eq_placedFindings_iff {arena : Arena} (hids : arena.ids.Nodup)
    (resolver : Source.Resolver) (template : Template) :
    naiveFindings arena resolver template = placedFindings arena resolver template ↔
      ¬ Misplaced (placedFindings arena resolver template) := by
  have hbefore := pairwise_naiveFindings hids resolver template
  have hperm := placedFindings_perm arena resolver template
  have hplaced : (placedFindings arena resolver template).Pairwise (placeNotAfter · · = true) :=
    List.pairwise_mergeSort placeNotAfter_trans placeNotAfter_total _
  constructor
  · intro heq
    rw [← heq] at hplaced ⊢
    have hforward : (naiveFindings arena resolver template).Pairwise (¬ Displaces · ·) := by
      apply (hbefore.and hplaced).imp_of_mem
      rintro a b ha hb ⟨hab, hinplace⟩
      rwa [placeNotAfter_iff_of_before (offset_of_mem_naiveFindings ha) (offset_of_mem_naiveFindings hb) hab]
        at hinplace
    have hbackward : (naiveFindings arena resolver template).Pairwise (flip (¬ Displaces · ·)) := by
      apply hbefore.imp_of_mem
      intro a b ha hb hab
      exact not_displaces_of_before (offset_of_mem_naiveFindings ha) (offset_of_mem_naiveFindings hb) hab
    rintro ⟨a, ha, b, hb, hdisplaces⟩
    exact hforward.forall_of_forall_of_flip (fun _ _ h ↦ lt_irrefl _ h.2.2) hbackward ha hb hdisplaces
  · intro hnone
    have hinplace : (naiveFindings arena resolver template).Pairwise (placeNotAfter · · = true) := by
      apply hbefore.imp_of_mem
      intro a b ha hb hab
      rw [placeNotAfter_iff_of_before (offset_of_mem_naiveFindings ha) (offset_of_mem_naiveFindings hb) hab]
      intro hdisplaces
      exact hnone ⟨a, hperm.mem_iff.mpr ha, b, hperm.mem_iff.mpr hb, hdisplaces⟩
    refine List.Perm.eq_of_pairwise ?_ hinplace hplaced hperm.symm
    intro a b ha hb hab hba
    have hdistinct := nodup_nodeIds_naiveFindings hids resolver template
    exact List.inj_on_of_nodup_map hdistinct ha (hperm.mem_iff.mp hb) (nodeId_eq_of_placeNotAfter hab hba)

/-- What every template finds in every file, by place. -/
def placedInsights (arenas : List Arena) (templates : List Template) (resolver : Source.Resolver) : List Insight :=
  insightsOf (fun template ↦ arenas.flatMap fun arena ↦ placedFindings arena resolver template) templates

theorem insightsOf_eq_iff {templates : List Template} (hnames : (templates.map Template.name).Nodup)
    {f g : Template → List Finding} :
    insightsOf f templates = insightsOf g templates ↔ ∀ template ∈ templates, f template = g template := by
  constructor
  · intro h template hmem
    rw [← results_insightsOf hnames hmem f, h, results_insightsOf hnames hmem g]
  · intro h
    rw [insightsOf, insightsOf]
    apply List.filterMap_congr
    intro template hmem
    simp only [h template hmem]

theorem flatMap_eq_flatMap_iff {α β : Type} {f g : α → List β} (hlength : ∀ a, (f a).length = (g a).length)
    (l : List α) : l.flatMap f = l.flatMap g ↔ ∀ a ∈ l, f a = g a := by
  induction l with
  | nil => simp
  | cons a rest ih =>
    rw [List.flatMap_cons, List.flatMap_cons, List.forall_mem_cons, ← ih]
    constructor
    · intro h
      exact List.append_inj h (hlength a)
    · rintro ⟨hfirst, hrest⟩
      rw [hfirst, hrest]

/-- Matching built files against loaded templates gives what every template finds in every file by place, exactly
if no finding is displaced. It always gives what they find without tables, by offset and node with malformed
ranges at the last offset; every pair of a template and a node is reported once or not at all and by itself, and
the statistics count the findings. -/
theorem run_eq_placedInsights_iff {disk : Disk} {templateSources : List Template.Source} {set : TemplateSet}
    (hload : load disk templateSources = .ok set) (trees : List SourceTree) (resolver : Source.Resolver) :
    let arenas := (build trees).roots
    let insights := (run arenas set resolver).1
    (insights = placedInsights arenas set.templates resolver ↔
      ∀ template ∈ set.templates, ∀ arena ∈ arenas, ¬ Misplaced (placedFindings arena resolver template)) ∧
    insights = naiveInsights arenas set.templates resolver ∧
    (run arenas set resolver).2.results = (insights.flatMap Insight.results).length ∧
    ∀ template ∈ set.templates, ∀ arena ∈ arenas,
      (naiveFindings arena resolver template).Pairwise (fun a b ↦
        a.offset < b.offset ∨ a.offset = b.offset ∧ a.nodeId < b.nodeId) ∧
      (∀ finding ∈ naiveFindings arena resolver template,
        finding.offset = (finding.range?.map Source.Range.offset).getD Text.lastIndex) ∧
      ∀ position node, arena.node? position = some node →
        timesReported insights template.name node.id =
          if node.kind.tag ∈ template.spec.kinds ∧ evalAll arena template.spec.predicates position = .ok true
          then 1 else 0 := by
  intro arenas insights
  have hnames := nodup_names_of_load hload
  have hids : (arenas.flatMap Arena.ids).Nodup := nodup_ids_build trees
  have hdistinct : ∀ arena ∈ arenas, arena.ids.Nodup := (List.nodup_flatMap.mp hids).1
  have hnaive : insights = naiveInsights arenas set.templates resolver := by
    have hset := load_eq_ofTemplates hload
    generalize set.templates = templates at hset ⊢
    subst hset
    exact run_ofTemplates arenas templates resolver
  refine ⟨?_, hnaive, totalResults_eq insights, ?_⟩
  · rw [hnaive, naiveInsights_eq, placedInsights, insightsOf_eq_iff hnames]
    refine forall₂_congr fun template _ ↦ ?_
    rw [flatMap_eq_flatMap_iff fun arena ↦ (placedFindings_perm arena resolver template).length_eq.symm]
    exact forall₂_congr fun arena harena ↦
      naiveFindings_eq_placedFindings_iff (hdistinct arena harena) resolver template
  · intro template htemplate arena harena
    refine ⟨pairwise_naiveFindings (hdistinct arena harena) resolver template, ?_, ?_⟩
    · intro finding hfinding
      have hoffset := offset_of_mem_naiveFindings hfinding
      cases hrange : finding.range? with
      | none => exact hoffset.trans (Source.Range.offsetOf_of_malformed hrange)
      | some range => exact hoffset.trans (Source.Range.offsetOf_of_range hrange)
    · intro position node hnode
      rw [hnaive, timesReported_naiveInsights hnames htemplate hids harena hnode]
      simp only [qualifies_iff]

/-- An identifier under which a contract destroys itself. -/
def selfdestruct (id : Int) (src : String) : RawNode :=
  ⟨"Identifier", [("id", .int id), ("name", .str "selfdestruct"), ("nodeType", .str "Identifier"),
    ("src", .str src)], false, none⟩

/-- A source unit with two such identifiers: the first has a malformed range, the second starts at the last offset. -/
def tiedUnit : RawNode :=
  ⟨"SourceUnit", [("absolutePath", .str "A.sol"), ("id", .int 1), ("nodeType", .str "SourceUnit"),
    ("nodes", .arr [.obj (selfdestruct 2 "abc").members,
      .obj (selfdestruct 3 "18446744073709551615:0:0").members]), ("src", .str "0:9:0")], false, none⟩

def tiedSource : SourceTree := ⟨0, ⟨"/p/A.sol"⟩, .obj tiedUnit.members⟩

/-- The type, name, id and range of an identifier. -/
def identifierView (node : Node) : String × Option Attr × Int × String :=
  (node.kind.tag, node.kind.field? "name", node.id, node.src)

/-- A source unit is built of raw nodes that show such views with distinct ids that are not in use. -/
theorem exists_buildFile_of_views {source : SourceTree} {registry : Registry} {raws : List RawNode}
    {views : List (String × Option Attr × Int × String)}
    (htree : ((RawTree.ofJson? source.ast).map fun tree ↦ (tree.raw.tag, tree.preorder.map (·.raw))) =
      some ("SourceUnit", raws))
    (hviews : (lowerAll? registry.lastSynthetic raws).map (·.map identifierView) = some views)
    (hids : (views.map (·.2.2.1)).Nodup) (hnew : ∀ view ∈ views, registry.contains view.2.2.1 = false) :
    ∃ arena registry', buildFile source registry = (.ok arena, registry') ∧
      arena.nodes.toList.map identifierView = views := by
  obtain ⟨nodes, hnodes, rfl⟩ := Option.map_eq_some_iff.mp hviews
  rw [List.map_map] at hids
  obtain ⟨arena, registry', h, hbare⟩ := exists_buildFile_of_new_raws htree hnodes hids fun node hnode ↦
    hnew _ (List.mem_map_of_mem hnode)
  refine ⟨arena, registry', h, ?_⟩
  rw [← hbare, List.map_map]
  rfl

/-- The path of the file plays no part in this. -/
theorem exists_buildFile_tiedAt (path : Path) :
    ∃ arena registry', buildFile { tiedSource with path } {} = (.ok arena, registry') ∧
    arena.nodes.toList.map identifierView = [("SourceUnit", none, 1, "0:9:0"),
      ("Identifier", some (.text "selfdestruct"), 2, "abc"),
      ("Identifier", some (.text "selfdestruct"), 3, "18446744073709551615:0:0")] := by
  have htree : ((RawTree.ofJson? tiedSource.ast).map fun tree ↦ (tree.raw.tag, tree.preorder.map (·.raw))) =
      some ("SourceUnit", [tiedUnit, selfdestruct 2 "abc", selfdestruct 3 "18446744073709551615:0:0"]) := by
    with_unfolding_all rfl
  exact exists_buildFile_of_views htree rfl (by decide) fun _ _ ↦ Std.HashSet.contains_empty

/-- The bundled template about destroying a contract holds at the identifiers of that name. -/
theorem qualifies_selfdestruct {template : Template} (htemplate : ChecksTo Bundled.selfdestructUsage template)
    {arena : Arena} {position : Nat} {node : Node} (hnode : arena.node? position = some node)
    (htag : node.kind.tag = "Identifier") (hname : node.kind.field? "name" = some (.text "selfdestruct")) :
    qualifies template arena node position = true := by
  obtain ⟨raw, hraw, hcompile⟩ := htemplate.spec
  cases hraw
  have hspec : template.spec =
      ⟨["Identifier"], [.field "name" (.oneOf [.str "selfdestruct", .str "suicide"])]⟩ :=
    (Except.ok.inj hcompile).symm
  rw [qualifies_iff, hspec, htag]
  refine ⟨List.mem_singleton_self _, ?_⟩
  simp [evalAll, eval, hnode, evalField, fieldValue, hname, testField, compareAny, compare, bind, Except.bind]

/-- A malformed range comes before one at the last offset. -/
theorem run_tiedSource_ne_placedInsights :
    ∃ set, load ⟨.emptyDir, []⟩ [.bundled] = .ok set ∧
      (run (build [tiedSource]).roots set (.ofTable .empty)).1 ≠
        placedInsights (build [tiedSource]).roots set.templates (.ofTable .empty) ∧
      (run (build [tiedSource]).roots set (.ofTable .empty)).1 =
        naiveInsights (build [tiedSource]).roots set.templates (.ofTable .empty) := by
  obtain ⟨set, hload, hchecks⟩ := exists_load_bundled ⟨.emptyDir, []⟩
  obtain ⟨hplaced, hnaive, -⟩ := run_eq_placedInsights_iff hload [tiedSource] (.ofTable .empty)
  obtain ⟨arena, registry', hbuild, hviews⟩ := exists_buildFile_tiedAt tiedSource.path
  have hroots : (build [tiedSource]).roots = [arena] := by
    rw [build, buildFrom, hbuild]
    rfl
  have hget (i : Nat) : (arena.node? i).map identifierView = (arena.nodes.toList.map identifierView)[i]? := by
    rw [List.getElem?_map, Array.getElem?_toList]
    rfl
  rw [hviews] at hget
  obtain ⟨malformed, hmalformed, hview⟩ := Option.map_eq_some_iff.mp (hget 1)
  obtain ⟨last, hlast, hview'⟩ := Option.map_eq_some_iff.mp (hget 2)
  obtain ⟨htag, hname, hid, hsrc⟩ : malformed.kind.tag = "Identifier" ∧
      malformed.kind.field? "name" = some (.text "selfdestruct") ∧ malformed.id = 2 ∧ malformed.src = "abc" := by
    simpa [identifierView] using hview
  obtain ⟨htag', hname', hid', hsrc'⟩ : last.kind.tag = "Identifier" ∧
      last.kind.field? "name" = some (.text "selfdestruct") ∧ last.id = 3 ∧
        last.src = "18446744073709551615:0:0" := by
    simpa [identifierView] using hview'
  have hrange : Source.Range.ofChars? malformed.src.toList = none := by
    rw [hsrc]
    decide +kernel
  have hrange' : (Source.Range.ofChars? last.src.toList).map Source.Range.offset = some Text.lastIndex := by
    rw [hsrc']
    decide +kernel
  have hlt : malformed.id < last.id := by
    rw [hid, hid']
    decide
  have hraw : Bundled.selfdestructUsage ∈ Bundled.documents.flatMap Prod.snd := by
    simp [Bundled.documents]
  obtain ⟨template, htemplate, hspec⟩ := exists_checksTo_of_mem hchecks hraw
  refine ⟨set, hload, ?_, hnaive⟩
  rw [ne_eq, hplaced, hroots]
  intro hnone
  apply hnone template htemplate arena (List.mem_singleton_self _)
  exact ⟨_, mem_placedFindings hmalformed _ (qualifies_selfdestruct hspec hmalformed htag hname),
    _, mem_placedFindings hlast _ (qualifies_selfdestruct hspec hlast htag' hname'), hrange, hrange', hlt⟩

end SolAudit.Match
