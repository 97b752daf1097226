import Mathlib.Data.List.Pairwise
import SolAudit.Proofs.Match.Identity
import SolAudit.Proofs.Match.Reordering
import SolAudit.Proofs.Source.ReadingOrder

/-!
# Results in reading order

The results of a template are sorted file by file, by the offsets at which their nodes start. These offsets are read
from the ranges of the nodes alone; the lines and columns that are shown come from a resolver. Both orders agree on
ranges that lie in one file, so the results of one syntax tree come as they are read (`results_in_reading_order`). Trees
are put one after the other whatever their paths. Two of them may share a path, and then what is shown for that path
starts over with the second tree (`sharedPath_starts_over`).
-/

namespace SolAudit.Match

open Ast Build Template Source

/-- The matches of the template at a position, as one file contributes them. -/
def contribution (arena : Arena) (set : TemplateSet) (resolver : Resolver) (t : Nat) : List Finding :=
  (fileMatches arena set resolver).filterMap fun (u, finding) ↦ if u == t then some finding else none

/-- Two findings are at nodes of one syntax tree. -/
def FromOneTree (arenas : List Arena) (a b : Finding) : Prop :=
  ∃ arena ∈ arenas, a.nodeId ∈ arena.ids ∧ b.nodeId ∈ arena.ids

/-- A finding is at a node of the syntax tree with an index. -/
def InTree (arenas : List Arena) (i : Nat) (finding : Finding) : Prop :=
  ∃ arena, arenas[i]? = some arena ∧ finding.nodeId ∈ arena.ids

/-- At most one syntax tree has a path. -/
def OneTreeAt (arenas : List Arena) (path : Path) : Prop :=
  ∀ arena ∈ arenas, ∀ arena' ∈ arenas, arena.path = path → arena'.path = path → arena = arena'

section

variable {arena : Arena} {set : TemplateSet} {resolver : Resolver} {t : Nat} {finding : Finding}

theorem exists_findingAt_of_mem (h : finding ∈ contribution arena set resolver t) :
    ∃ template, ∃ node ∈ arena.nodes.toList, finding = findingAt arena resolver template node := by
  obtain ⟨⟨u, found⟩, hmatch, hpick⟩ := List.mem_filterMap.mp h
  obtain ⟨⟨node, position⟩, hplace, hmatch⟩ := List.mem_flatMap.mp (List.mem_mergeSort.mp hmatch)
  obtain ⟨v, -, hmatch⟩ := List.mem_filterMap.mp hmatch
  simp only [Option.ite_none_right_eq_some, Option.some.injEq] at hpick
  obtain ⟨-, rfl⟩ := hpick
  split at hmatch
  · rename_i template _
    split at hmatch
    · cases hmatch
      exact ⟨template, node, List.fst_mem_of_mem_zipIdx hplace, rfl⟩
    · cases hmatch
  · cases hmatch

theorem nodeId_mem_ids (h : finding ∈ contribution arena set resolver t) : finding.nodeId ∈ arena.ids := by
  obtain ⟨template, node, hnode, rfl⟩ := exists_findingAt_of_mem h
  exact List.mem_map_of_mem hnode

theorem pairwise_contribution (arena : Arena) (set : TemplateSet) (resolver : Resolver) (t : Nat) :
    (contribution arena set resolver t).Pairwise fun a b ↦ a.offset ≤ b.offset := by
  unfold contribution fileMatches
  rw [filterMap_mergeSort_notAfter]
  apply (List.pairwise_mergeSort findingNotAfter_trans findingNotAfter_total _).imp
  intro a b h
  rcases findingNotAfter_iff.mp h with hlt | ⟨heq, -⟩
  · exact hlt.le
  · exact heq.le

end

section

variable {arenas : List Arena} {set : TemplateSet} {resolver : Resolver} {insight : Insight}

/-- An insight of a run holds what the files contribute to one template, file by file. -/
theorem exists_results_eq (h : insight ∈ (run arenas set resolver).1) :
    ∃ t, insight.results = arenas.flatMap fun arena ↦ contribution arena set resolver t := by
  obtain ⟨⟨template, t⟩, -, h⟩ := List.mem_filterMap.mp h
  have hbucket : bucket (arenas.map fun arena ↦ fileMatches arena set resolver) t =
      arenas.flatMap fun arena ↦ contribution arena set resolver t := List.flatMap_map ..
  refine ⟨t, ?_⟩
  rw [← hbucket]
  simp only at h
  split at h
  · cases h
  · cases h
    rfl

theorem exists_findingAt_of_mem_results (h : insight ∈ (run arenas set resolver).1) {finding : Finding}
    (hfinding : finding ∈ insight.results) :
    ∃ arena ∈ arenas, ∃ template, ∃ node ∈ arena.nodes.toList, finding = findingAt arena resolver template node := by
  obtain ⟨t, hresults⟩ := exists_results_eq h
  rw [hresults] at hfinding
  obtain ⟨arena, harena, hfinding⟩ := List.mem_flatMap.mp hfinding
  exact ⟨arena, harena, exists_findingAt_of_mem hfinding⟩

theorem exists_inTree_of_mem_results (h : insight ∈ (run arenas set resolver).1) {finding : Finding}
    (hfinding : finding ∈ insight.results) : ∃ i, InTree arenas i finding := by
  obtain ⟨arena, harena, template, node, hnode, rfl⟩ := exists_findingAt_of_mem_results h hfinding
  obtain ⟨i, hi⟩ := List.mem_iff_getElem?.mp harena
  exact ⟨i, arena, hi, List.mem_map_of_mem hnode⟩

/-- Where ids are unique, the id of a node tells its tree. -/
theorem index_eq_of_mem_ids (hids : (arenas.flatMap Arena.ids).Nodup) {i j : Nat} {arena arena' : Arena}
    (hi : arenas[i]? = some arena) (hj : arenas[j]? = some arena') {id : Int} (hid : id ∈ arena.ids)
    (hid' : id ∈ arena'.ids) : i = j := by
  have hdisjoint := List.pairwise_iff_getElem.mp (List.nodup_flatMap.mp hids).2
  obtain ⟨hlti, rfl⟩ := List.getElem?_eq_some_iff.mp hi
  obtain ⟨hltj, rfl⟩ := List.getElem?_eq_some_iff.mp hj
  rcases Nat.lt_trichotomy i j with hlt | heq | hgt
  · exact absurd hid' (hdisjoint i j hlti hltj hlt hid)
  · exact heq
  · exact absurd hid (hdisjoint j i hltj hlti hgt hid')

theorem arena_eq_of_mem_ids (hids : (arenas.flatMap Arena.ids).Nodup) {arena arena' : Arena} (h : arena ∈ arenas)
    (h' : arena' ∈ arenas) {id : Int} (hid : id ∈ arena.ids) (hid' : id ∈ arena'.ids) : arena = arena' := by
  obtain ⟨i, hi⟩ := List.mem_iff_getElem?.mp h
  obtain ⟨j, hj⟩ := List.mem_iff_getElem?.mp h'
  obtain rfl := index_eq_of_mem_ids hids hi hj hid hid'
  exact Option.some.inj (hi.symm.trans hj)

/-- Where ids are unique, the results of one tree come by offset. -/
theorem pairwise_offset_results (hids : (arenas.flatMap Arena.ids).Nodup)
    (h : insight ∈ (run arenas set resolver).1) :
    insight.results.Pairwise fun a b ↦ FromOneTree arenas a b → a.offset ≤ b.offset := by
  obtain ⟨t, hresults⟩ := exists_results_eq h
  rw [hresults, List.pairwise_flatMap]
  constructor
  · intro arena _
    apply (pairwise_contribution arena set resolver t).imp
    intro a b hle _
    exact hle
  · -- Findings of different arenas are from different trees, as no two arenas share an id.
    apply (List.nodup_flatMap.mp hids).2.imp_of_mem
    rintro arena arena' harena harena' hdisjoint a ha b hb ⟨tree, htree, hida, hidb⟩
    obtain rfl := arena_eq_of_mem_ids hids harena htree (nodeId_mem_ids ha) hida
    exact absurd (nodeId_mem_ids hb) (hdisjoint hidb)

/-- Where ids are unique, the results of a tree come before those of every later one. -/
theorem pairwise_inTree_results (hids : (arenas.flatMap Arena.ids).Nodup) (h : insight ∈ (run arenas set resolver).1) :
    insight.results.Pairwise fun a b ↦ ∀ i j, InTree arenas i a → InTree arenas j b → i ≤ j := by
  obtain ⟨t, hresults⟩ := exists_results_eq h
  -- What a file contributes is at nodes of its own tree, and so in no other.
  have hindex {p i : Nat} {arena : Arena} {finding : Finding} (hp : arenas[p]? = some arena)
      (hfinding : finding ∈ contribution arena set resolver t) (hin : InTree arenas i finding) : i = p := by
    obtain ⟨tree, hi, hid⟩ := hin
    exact index_eq_of_mem_ids hids hi hp hid (nodeId_mem_ids hfinding)
  rw [hresults, List.pairwise_flatMap]
  constructor
  · intro arena harena
    obtain ⟨p, hp⟩ := List.mem_iff_getElem?.mp harena
    apply List.pairwise_of_forall_mem_list
    intro a ha b hb i j hi hj
    exact ((hindex hp ha hi).trans (hindex hp hb hj).symm).le
  · rw [List.pairwise_iff_getElem]
    intro p q hp hq hlt a ha b hb i j hi hj
    rw [hindex (List.getElem?_eq_getElem hp) ha hi, hindex (List.getElem?_eq_getElem hq) hb hj]
    exact hlt.le

/-- Findings at one path are from one tree if no other tree has the path. -/
theorem fromOneTree_of_file_eq (h : insight ∈ (run arenas set resolver).1) {a b : Finding} (ha : a ∈ insight.results)
    (hb : b ∈ insight.results) (hfile : a.file = b.file) (hone : OneTreeAt arenas a.file) :
    FromOneTree arenas a b := by
  obtain ⟨arena, harena, template, node, hnode, rfl⟩ := exists_findingAt_of_mem_results h ha
  obtain ⟨arena', harena', template', node', hnode', rfl⟩ := exists_findingAt_of_mem_results h hb
  obtain rfl := hone arena harena arena' harena' rfl hfile.symm
  exact ⟨arena, harena, List.mem_map_of_mem hnode, List.mem_map_of_mem hnode'⟩

/-- Results with one file index that both have a place stand in the order of their offsets. -/
theorem start_le_iff_of_mem_results (htexts : resolver.OfTexts) (h : insight ∈ (run arenas set resolver).1)
    {a b : Finding} (ha : a ∈ insight.results) (hb : b ∈ insight.results) {index : Nat} {span span' : Span}
    (hin : inFile index a.src = true) (hin' : inFile index b.src = true) (hspan : a.location = some span)
    (hspan' : b.location = some span') : span.start ≤ span'.start ↔ a.offset ≤ b.offset := by
  obtain ⟨arena, -, template, node, -, rfl⟩ := exists_findingAt_of_mem_results h ha
  obtain ⟨arena', -, template', node', -, rfl⟩ := exists_findingAt_of_mem_results h hb
  exact htexts.start_le_iff hin hin' hspan hspan'

end

/-- In a text, offsets come in the order of their lines and columns, and the line and column of a place tell its offset.
So results of a run over built trees come in reading order where they are from one tree, have one file index and are
both resolved, and results at one path are from one tree unless two of the trees have that path. Every result is from a
tree, and results from different trees come in the order of the trees. -/
theorem results_in_reading_order {resolver : Resolver} (htexts : resolver.OfTexts) :
    (∀ disk text src src' range range', ReadsIn resolver disk text src range →
      ReadsIn resolver disk text src' range' →
        ∃ span span', (resolver.resolve disk src).1 = .ok span ∧ (resolver.resolve disk src').1 = .ok span' ∧
          (range.offset < range'.offset ↔ span.start < span'.start) ∧
          (range.offset = range'.offset ↔ span.start = span'.start)) ∧
    ∀ trees set, let arenas := (build trees).roots
      ∀ insight ∈ (run arenas set resolver).1,
        (∀ finding ∈ insight.results, ∃ i, InTree arenas i finding) ∧
        insight.results.Pairwise fun a b ↦
          (∀ index span span', inFile index a.src = true → inFile index b.src = true →
            a.location = some span → b.location = some span' →
              (FromOneTree arenas a b → span.start ≤ span'.start) ∧
              (span.start ≤ span'.start ↔ a.offset ≤ b.offset)) ∧
          (a.file = b.file → OneTreeAt arenas a.file → FromOneTree arenas a b) ∧
          ∀ i j, InTree arenas i a → InTree arenas j b → i ≤ j := by
  constructor
  · intro disk text src src' range range' hreads hreads'
    obtain ⟨span, hspan, hstart⟩ := hreads.exists_resolve_eq_ok
    obtain ⟨span', hspan', hstart'⟩ := hreads'.exists_resolve_eq_ok
    have hmono : StrictMono (LineTable.ofText text).placeOf := LineTable.strictMono_placeOf _
    refine ⟨span, span', hspan, hspan', ?_, ?_⟩
    · rw [hstart, hstart', hmono.lt_iff_lt]
    · rw [hstart, hstart', hmono.injective.eq_iff]
  · intro trees set arenas insight hinsight
    have hids : (arenas.flatMap Arena.ids).Nodup := nodup_ids_build trees
    refine ⟨fun finding hfinding ↦ exists_inTree_of_mem_results hinsight hfinding, ?_⟩
    apply ((pairwise_offset_results hids hinsight).and (pairwise_inTree_results hids hinsight)).imp_of_mem
    rintro a b ha hb ⟨hoffset, htrees⟩
    refine ⟨?_, fromOneTree_of_file_eq hinsight ha hb, htrees⟩
    intro index span span' hin hin' hspan hspan'
    have hiff := start_le_iff_of_mem_results htexts hinsight ha hb hin hin' hspan hspan'
    exact ⟨fun htree ↦ hiff.mpr (hoffset htree), hiff⟩

/-! ## Two trees at one path -/

/-- A source unit with identifiers at some ranges. -/
def unitWith (id : Int) (identifiers : List RawNode) : RawNode :=
  ⟨"SourceUnit", [("absolutePath", .str "A.sol"), ("id", .int id), ("nodeType", .str "SourceUnit"),
    ("nodes", .arr (identifiers.map fun identifier ↦ .obj identifier.members)), ("src", .str "0:14:0")], false, none⟩

/-- A file is compiled under two keys. The later of the two identifiers in the first tree stands first, and the second
tree has an identifier between them. -/
def upperTree : SourceTree :=
  ⟨0, ⟨"/p/A.sol"⟩, .obj (unitWith 1 [selfdestruct 2 "9:1:0", selfdestruct 3 "0:8:0"]).members⟩

def lowerTree : SourceTree := ⟨1, ⟨"/p/A.sol"⟩, .obj (unitWith 4 [selfdestruct 5 "4:1:0"]).members⟩

def contractTable : Table := ⟨[(0, ⟨⟨"/p/A.sol"⟩, some "contract A \x7b\x7d\n"⟩)]⟩

def upperViews : List (String × Option Attr × Int × String) :=
  [("SourceUnit", none, 1, "0:14:0"), ("Identifier", some (.text "selfdestruct"), 2, "9:1:0"),
    ("Identifier", some (.text "selfdestruct"), 3, "0:8:0")]

def lowerViews : List (String × Option Attr × Int × String) :=
  [("SourceUnit", none, 4, "0:14:0"), ("Identifier", some (.text "selfdestruct"), 5, "4:1:0")]

theorem ids_eq_map_identifierView (arena : Arena) :
    arena.ids = (arena.nodes.toList.map identifierView).map (·.2.2.1) := by
  rw [List.map_map]
  rfl

theorem exists_roots_sharedPath : ∃ upper lower, (build [upperTree, lowerTree]).roots = [upper, lower] ∧
    upper.path = ⟨"/p/A.sol"⟩ ∧ lower.path = ⟨"/p/A.sol"⟩ ∧
    upper.nodes.toList.map identifierView = upperViews ∧ lower.nodes.toList.map identifierView = lowerViews := by
  have hupperTree : ((RawTree.ofJson? upperTree.ast).map fun tree ↦ (tree.raw.tag, tree.preorder.map (·.raw))) =
      some ("SourceUnit", [unitWith 1 [selfdestruct 2 "9:1:0", selfdestruct 3 "0:8:0"], selfdestruct 2 "9:1:0",
        selfdestruct 3 "0:8:0"]) := by
    with_unfolding_all rfl
  have hlowerTree : ((RawTree.ofJson? lowerTree.ast).map fun tree ↦ (tree.raw.tag, tree.preorder.map (·.raw))) =
      some ("SourceUnit", [unitWith 4 [selfdestruct 5 "4:1:0"], selfdestruct 5 "4:1:0"]) := by
    with_unfolding_all rfl
  obtain ⟨upper, registry, hupper, hviews⟩ : ∃ arena registry, buildFile upperTree {} = (.ok arena, registry) ∧
      arena.nodes.toList.map identifierView = upperViews :=
    exists_buildFile_of_views hupperTree rfl (by decide) fun _ _ ↦ Std.HashSet.contains_empty
  have hunused : ∀ view ∈ lowerViews, registry.contains view.2.2.1 = false := by
    intro view hview
    rw [Bool.eq_false_iff, ne_eq, (tracks_of_buildFile hupper).contains_iff, not_or, Bool.not_eq_true,
      ids_eq_map_identifierView, hviews]
    refine ⟨Std.HashSet.contains_empty, ?_⟩
    revert view
    decide
  obtain ⟨lower, registry', hlower, hviews'⟩ := exists_buildFile_of_views hlowerTree rfl (by decide) hunused
  refine ⟨upper, lower, ?_, (file_of_buildFile hupper).2, (file_of_buildFile hlower).2, hviews, hviews'⟩
  simp only [build, buildFrom, hupper, hlower]

/-- What is found at an identifier. -/
def foundAt (resolver : Resolver) (id : Int) (src : String) : Finding where
  id := findingId "named" ⟨"/p/A.sol"⟩ id
  nodeId := id
  nodeType := "Identifier"
  file := ⟨"/p/A.sol"⟩
  src := src
  location := resolver.locate? src
  offset := Range.offsetOf src

theorem naiveFindings_perm_foundAt {arena : Arena} (hpath : arena.path = ⟨"/p/A.sol"⟩) (resolver : Resolver) :
    (naiveFindings arena resolver (namedTemplate ["Identifier"] [])).Perm
      (((arena.nodes.toList.map identifierView).filter fun view ↦ view.1 == "Identifier").map fun view ↦
        foundAt resolver view.2.2.1 view.2.2.2) := by
  refine (naiveFindings_perm_of_kind rfl rfl arena resolver).trans (.of_eq ?_)
  rw [List.filter_map, List.map_map]
  apply List.map_congr_left
  intro node hnode
  have htag : node.kind.tag = "Identifier" := beq_iff_eq.mp (List.mem_filter.mp hnode).2
  rw [findingAt, htag, hpath]
  rfl

/-- The first tree is shown in order, and the second after it. -/
theorem exists_results_sharedPath (resolver : Resolver) :
    ∃ insight ∈ (run (build [upperTree, lowerTree]).roots (.ofTemplates [namedTemplate ["Identifier"] []]) resolver).1,
      insight.results = [foundAt resolver 3 "0:8:0", foundAt resolver 2 "9:1:0", foundAt resolver 5 "4:1:0"] := by
  obtain ⟨upper, lower, hroots, hpath, hpath', hviews, hviews'⟩ := exists_roots_sharedPath
  have hids := (List.nodup_flatMap.mp (hroots ▸ nodup_ids_build [upperTree, lowerTree])).1
  have hoffset : Range.offsetOf "0:8:0" < Range.offsetOf "9:1:0" := by decide
  have hupper : naiveFindings upper resolver (namedTemplate ["Identifier"] []) =
      [foundAt resolver 3 "0:8:0", foundAt resolver 2 "9:1:0"] := by
    apply naiveFindings_eq_of_perm (hids upper (by simp))
    · refine (naiveFindings_perm_foundAt hpath resolver).trans ?_
      rw [hviews]
      exact .swap _ _ _
    · exact List.pairwise_pair.mpr (.inl hoffset)
  have hlower : naiveFindings lower resolver (namedTemplate ["Identifier"] []) = [foundAt resolver 5 "4:1:0"] := by
    apply List.perm_singleton.mp
    refine (naiveFindings_perm_foundAt hpath' resolver).trans ?_
    rw [hviews']
    exact .refl _
  refine ⟨insightOf (namedTemplate ["Identifier"] [])
    [foundAt resolver 3 "0:8:0", foundAt resolver 2 "9:1:0", foundAt resolver 5 "4:1:0"], ?_, rfl⟩
  rw [run_ofTemplates, naiveInsights_eq, hroots]
  simp [insightsOf, hupper, hlower]

theorem locate?_contractTable :
    (Resolver.ofDisk contractTable Disk.empty).locate? "0:8:0" = some ⟨⟨"/p/A.sol"⟩, 1, 1, 9⟩ ∧
    (Resolver.ofDisk contractTable Disk.empty).locate? "9:1:0" = some ⟨⟨"/p/A.sol"⟩, 1, 10, 11⟩ ∧
    (Resolver.ofDisk contractTable Disk.empty).locate? "4:1:0" = some ⟨⟨"/p/A.sol"⟩, 1, 5, 6⟩ := by
  refine ⟨?_, ?_, ?_⟩ <;> with_unfolding_all rfl

theorem inFile_contractTable : inFile 0 "0:8:0" = true ∧ inFile 0 "9:1:0" = true ∧ inFile 0 "4:1:0" = true := by
  decide

/-- The first tree has its identifiers in the other order, and is shown in reading order before the second. -/
theorem upperTree_in_reading_order :
    let resolver := Resolver.ofDisk contractTable Disk.empty
    let arenas := (build [upperTree, lowerTree]).roots
    resolver.OfTexts ∧
    ∃ insight ∈ (run arenas (.ofTemplates [namedTemplate ["Identifier"] []]) resolver).1, ∃ a b c span span',
      insight.results = [a, b, c] ∧ a.nodeId = 3 ∧ b.nodeId = 2 ∧ FromOneTree arenas a b ∧
      a.location = some span ∧ b.location = some span' ∧ span.start ≤ span'.start ∧
      InTree arenas 0 b ∧ InTree arenas 1 c ∧ ∀ i j, InTree arenas i b → InTree arenas j c → i ≤ j := by
  intro resolver arenas
  have htexts : resolver.OfTexts := Resolver.ofTexts_ofDisk contractTable Disk.empty
  obtain ⟨upper, lower, hroots, -, -, hviews, hviews'⟩ := exists_roots_sharedPath
  obtain ⟨insight, hinsight, hresults⟩ := exists_results_sharedPath resolver
  have hupper : upper.ids = [1, 2, 3] := by
    rw [ids_eq_map_identifierView, hviews]
    rfl
  have hlower : lower.ids = [4, 5] := by
    rw [ids_eq_map_identifierView, hviews']
    rfl
  have hfirst : arenas[0]? = some upper := by
    rw [show arenas = [upper, lower] from hroots]
    rfl
  have hsecond : arenas[1]? = some lower := by
    rw [show arenas = [upper, lower] from hroots]
    rfl
  have htree : FromOneTree arenas (foundAt resolver 3 "0:8:0") (foundAt resolver 2 "9:1:0") :=
    ⟨upper, List.mem_of_getElem? hfirst, by simp [hupper, foundAt], by simp [hupper, foundAt]⟩
  have hpairwise := ((results_in_reading_order htexts).2 [upperTree, lowerTree] _ insight hinsight).2
  rw [hresults, List.pairwise_cons, List.pairwise_pair] at hpairwise
  obtain ⟨hplaces, -⟩ := hpairwise.1 (foundAt resolver 2 "9:1:0") List.mem_cons_self
  obtain ⟨-, -, htrees⟩ := hpairwise.2
  obtain ⟨hspan, hspan', -⟩ := locate?_contractTable
  obtain ⟨hin, hin', -⟩ := inFile_contractTable
  exact ⟨htexts, insight, hinsight, _, _, _, _, _, hresults, rfl, rfl, htree, hspan, hspan',
    (hplaces 0 _ _ hin hin' hspan hspan').1 htree, ⟨upper, hfirst, by simp [hupper, foundAt]⟩,
    ⟨lower, hsecond, by simp [hlower, foundAt]⟩, htrees⟩

/-- The second tree has the same path, and its identifier is shown after one that it stands before. -/
theorem sharedPath_starts_over :
    ∃ insight ∈ (run (build [upperTree, lowerTree]).roots (.ofTemplates [namedTemplate ["Identifier"] []])
      (.ofDisk contractTable Disk.empty)).1, ∃ a b index span span',
        [a, b].Sublist insight.results ∧ a.file = b.file ∧ inFile index a.src = true ∧ inFile index b.src = true ∧
        a.location = some span ∧ b.location = some span' ∧ ¬span.start ≤ span'.start := by
  obtain ⟨insight, hinsight, hresults⟩ := exists_results_sharedPath (.ofDisk contractTable Disk.empty)
  obtain ⟨-, hspan, hspan'⟩ := locate?_contractTable
  obtain ⟨-, hin, hin'⟩ := inFile_contractTable
  refine ⟨insight, hinsight, foundAt _ 2 "9:1:0", foundAt _ 5 "4:1:0", 0, _, _, ?_, rfl, hin, hin', hspan, hspan', ?_⟩
  · rw [hresults]
    exact List.sublist_cons_self _ _
  · simp [Span.start, Prod.Lex.toLex_le_toLex]

end SolAudit.Match
