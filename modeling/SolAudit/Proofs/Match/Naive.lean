import Mathlib.Data.List.Nodup
import SolAudit.Proofs.Build.Ids
import SolAudit.Proofs.Match.Order
import SolAudit.Proofs.Template.Dispatch

/-!
# Matching without tables

A run goes file by file and node by node, looks templates up in the dispatch table, sorts the matches of a file
and puts them into one bucket for each template. `run_ofTemplates` says that this gives `naiveInsights`, which
goes template by template, and in each file takes all nodes that qualify. For arenas that were built together and
templates that were loaded, ids of nodes and names of templates are unique, so a report can be read pair by pair: every
template reports every node once if it is about the kind of the node and holds there, and not at all otherwise.
-/

namespace SolAudit.Match

open Ast Build Template

/-- The findings of a template in a file. -/
def naiveFindings (arena : Arena) (resolver : Source.Resolver) (template : Template) : List Finding :=
  (arena.nodes.toList.zipIdx.filterMap fun (node, position) ↦
    if template.spec.kinds.contains node.kind.tag && holdsAt arena template position then
      some {
        id := Blake3.hash s!"{template.name}:{arena.path.text}:{node.id}"
        nodeId := node.id
        nodeType := node.kind.tag
        file := arena.path
        src := node.src
        location := resolver.locate? node.src
        offset := node.offset }
    else none).mergeSort findingNotAfter

def naiveInsights (arenas : List Arena) (templates : List Template) (resolver : Source.Resolver) : List Insight :=
  templates.filterMap fun template ↦
    match arenas.flatMap fun arena ↦ naiveFindings arena resolver template with
    | [] => none
    | results =>
      some {
        template := template.name
        description := template.description
        severity := template.severity
        references := template.references
        actionItems := template.actionItems
        results }

/-- In a list without repetition only one element can be picked by a function that is about one element. -/
theorem filterMap_of_nodup {α β : Type} [DecidableEq α] {f : α → Option β} {a : α} {l : List α}
    (hnodup : l.Nodup) (hother : ∀ b, b ≠ a → f b = none) :
    l.filterMap f = if a ∈ l then (f a).toList else [] := by
  induction l with
  | nil => simp
  | cons b rest ih =>
    obtain ⟨hb, hrest⟩ := List.nodup_cons.mp hnodup
    rw [List.filterMap_cons]
    by_cases hba : b = a
    · subst hba
      rw [ih hrest, if_neg hb]
      cases f b <;> simp
    · rw [hother b hba, ih hrest]
      simp [Ne.symm hba]

/-- What one template finds at a node. -/
theorem filterMap_matchNode {templates : List Template} {t : Nat} {template : Template}
    (ht : templates[t]? = some template) (arena : Arena) (resolver : Source.Resolver) (position : Nat)
    (node : Node) :
    ((matchNode arena (.ofTemplates templates) resolver position node).filterMap
        fun (u, finding) ↦ if u == t then some finding else none) =
      (if template.spec.kinds.contains node.kind.tag && holdsAt arena template position
        then some (findingAt arena resolver template node) else none).toList := by
  have hget (u : Nat) : (TemplateSet.ofTemplates templates).get? u = templates[u]? := rfl
  have hmem : t ∈ (TemplateSet.ofTemplates templates).positionsFor node.kind.tag ↔
      node.kind.tag ∈ template.spec.kinds := by
    rw [TemplateSet.mem_positionsFor, ht]
    simp
  rw [matchNode, List.filterMap_filterMap,
    filterMap_of_nodup (a := t) (TemplateSet.nodup_positionsFor templates node.kind.tag)]
  · rw [hget, ht]
    by_cases hkind : node.kind.tag ∈ template.spec.kinds <;>
      by_cases hholds : holdsAt arena template position <;> simp [hmem, hkind, hholds]
  · intro u hu
    rw [hget]
    cases templates[u]? with
    | none => rfl
    | some other => by_cases hholds : holdsAt arena other position <;> simp [hholds, hu]

theorem filterMap_fileMatches {templates : List Template} {t : Nat} {template : Template}
    (ht : templates[t]? = some template) (arena : Arena) (resolver : Source.Resolver) :
    ((fileMatches arena (.ofTemplates templates) resolver).filterMap
        fun (u, finding) ↦ if u == t then some finding else none) =
      naiveFindings arena resolver template := by
  rw [fileMatches, filterMap_mergeSort_notAfter, naiveFindings, List.filterMap_flatMap,
    List.filterMap_eq_flatMap_toList]
  congr 2
  funext ⟨node, position⟩
  exact filterMap_matchNode ht arena resolver position node

theorem bucket_map_fileMatches {templates : List Template} {t : Nat} {template : Template}
    (ht : templates[t]? = some template) (arenas : List Arena) (resolver : Source.Resolver) :
    bucket (arenas.map fun arena ↦ fileMatches arena (.ofTemplates templates) resolver) t =
      arenas.flatMap fun arena ↦ naiveFindings arena resolver template := by
  rw [bucket, List.flatMap_map]
  congr 1
  funext arena
  exact filterMap_fileMatches ht arena resolver

/-- The insights of templates, given what each of them finds. -/
def insightsOf (found : Template → List Finding) (templates : List Template) : List Insight :=
  templates.filterMap fun template ↦
    if (found template).isEmpty then none else some (insightOf template (found template))

theorem naiveInsights_eq (arenas : List Arena) (templates : List Template) (resolver : Source.Resolver) :
    naiveInsights arenas templates resolver =
      insightsOf (fun template ↦ arenas.flatMap fun arena ↦ naiveFindings arena resolver template) templates := by
  rw [naiveInsights, insightsOf]
  congr 1
  funext template
  cases arenas.flatMap fun arena ↦ naiveFindings arena resolver template with
  | nil => rfl
  | cons finding rest => rfl

/-- The insights of a run are what each template finds in each file, in the order of the templates. -/
theorem run_ofTemplates (arenas : List Arena) (templates : List Template) (resolver : Source.Resolver) :
    (run arenas (.ofTemplates templates) resolver).1 = naiveInsights arenas templates resolver := by
  rw [naiveInsights_eq, insightsOf]
  conv_rhs => rw [← List.zipIdx_map_fst 0 templates, List.filterMap_map]
  apply List.filterMap_congr
  rintro ⟨template, t⟩ hmem
  have ht : templates[t]? = some template := List.mem_zipIdx_iff_getElem?.mp hmem
  rw [Function.comp_apply, ← bucket_map_fileMatches ht arenas resolver]
  cases hbucket : bucket (arenas.map fun arena ↦ fileMatches arena (.ofTemplates templates) resolver) t with
  | nil => simp [hbucket]
  | cons finding rest => simp [hbucket]

theorem totalResults_eq (insights : List Insight) :
    totalResults insights = (insights.flatMap Insight.results).length := by
  induction insights with
  | nil => rfl
  | cons insight rest ih => rw [totalResults, ih, List.flatMap_cons, List.length_append]

/-! ## Pairs of a template and a node -/

/-- How often insights of a template name a node. -/
def timesReported (insights : List Insight) (template : String) (nodeId : Int) : Nat :=
  ((insights.filter (·.template == template)).flatMap Insight.results).countP (·.nodeId == nodeId)

/-- Where keys are unique, an element is found by its key. -/
theorem filter_eq_singleton {α β : Type} [DecidableEq β] {key : α → β} {l : List α}
    (hnodup : (l.map key).Nodup) {a : α} (ha : a ∈ l) : l.filter (key · == key a) = [a] := by
  induction l with
  | nil => cases ha
  | cons b rest ih =>
    obtain ⟨hb, hrest⟩ := List.nodup_cons.mp hnodup
    rcases List.mem_cons.mp ha with rfl | ha
    · have hnil : rest.filter (key · == key a) = [] := by
        rw [List.filter_eq_nil_iff]
        intro c hc hkey
        exact hb (beq_iff_eq.mp hkey ▸ List.mem_map_of_mem hc)
      rw [List.filter_cons_of_pos (by simp), hnil]
    · have hkey : key b ≠ key a := fun hkey ↦ hb (hkey ▸ List.mem_map_of_mem ha)
      rw [List.filter_cons_of_neg (by simpa using hkey), ih hrest ha]

/-- Where names are unique, the insights of a name hold what the template of the name finds. -/
theorem results_insightsOf {templates : List Template} (hnames : (templates.map Template.name).Nodup)
    {template : Template} (hmem : template ∈ templates) (found : Template → List Finding) :
    ((insightsOf found templates).filter (·.template == template.name)).flatMap Insight.results =
      found template := by
  have hone (other : Template) :
      ((if (found other).isEmpty then none else some (insightOf other (found other))).toList.filter
        (Insight.template · == template.name)).flatMap Insight.results =
          if other.name == template.name then found other else [] := by
    cases found other with
    | nil => simp
    | cons finding rest => by_cases hname : other.name = template.name <;> simp [insightOf, hname]
  have hfilter (l : List Template) :
      (l.flatMap fun other ↦ if other.name == template.name then found other else []) =
        (l.filter fun other ↦ other.name == template.name).flatMap found := by
    induction l with
    | nil => rfl
    | cons other rest ih =>
      rw [List.flatMap_cons, ih]
      by_cases hname : other.name = template.name <;> simp [hname]
  calc
    _ = templates.flatMap fun other ↦ if other.name == template.name then found other else [] := by
      rw [insightsOf, List.filterMap_eq_flatMap_toList, List.filter_flatMap, List.flatMap_assoc]
      congr 1
      funext other
      exact hone other
    _ = found template := by
      rw [hfilter, filter_eq_singleton hnames hmem, List.flatMap_singleton]

theorem holdsAt_eq_true_iff {arena : Arena} {template : Template} {position : Nat} :
    holdsAt arena template position = true ↔ evalAll arena template.spec.predicates position = .ok true := by
  rw [holdsAt]
  split <;> simp_all

/-- Whether a template reports a node: it is about the kind of the node, and holds there. -/
def qualifies (template : Template) (arena : Arena) (node : Node) (position : Nat) : Bool :=
  template.spec.kinds.contains node.kind.tag && holdsAt arena template position

theorem qualifies_iff {template : Template} {arena : Arena} {node : Node} {position : Nat} :
    qualifies template arena node position = true ↔
      node.kind.tag ∈ template.spec.kinds ∧ evalAll arena template.spec.predicates position = .ok true := by
  rw [qualifies, Bool.and_eq_true, holdsAt_eq_true_iff, List.contains_iff_mem]

/-- Before sorting, the findings in a file come from its nodes in order. -/
theorem naiveFindings_perm (arena : Arena) (resolver : Source.Resolver) (template : Template) :
    (naiveFindings arena resolver template).Perm
      ((arena.nodes.toList.zipIdx.filter fun (node, position) ↦ qualifies template arena node position).map
        fun (node, _) ↦ findingAt arena resolver template node) := by
  rw [naiveFindings, ← List.filterMap_eq_map, List.filterMap_filter]
  exact List.mergeSort_perm _ _

/-- A template without predicates finds all nodes of its kind. -/
theorem naiveFindings_perm_of_kind {template : Template} {kind : String} (hkinds : template.spec.kinds = [kind])
    (hpredicates : template.spec.predicates = []) (arena : Arena) (resolver : Source.Resolver) :
    (naiveFindings arena resolver template).Perm
      ((arena.nodes.toList.filter (·.kind.tag == kind)).map (findingAt arena resolver template)) := by
  have hqualifies (place : Node × Nat) :
      qualifies template arena place.1 place.2 = (place.1.kind.tag == kind) := by
    rw [qualifies, holdsAt, hkinds, hpredicates, evalAll, List.contains_eq_any_beq, List.any_cons, List.any_nil,
      Bool.or_false, Bool.and_true, Bool.beq_comm]
  refine (naiveFindings_perm arena resolver template).trans (.of_eq ?_)
  conv_rhs => rw [← List.zipIdx_map_fst 0 arena.nodes.toList]
  simp only [List.filter_map, List.map_map, Function.comp_def, hqualifies]

/-- The nodes of all files with their places. -/
def sites (arenas : List Arena) : List (Arena × Node × Nat) :=
  arenas.flatMap fun arena ↦ arena.nodes.toList.zipIdx.map fun place ↦ (arena, place)

theorem map_id_sites (arenas : List Arena) :
    (sites arenas).map (fun (_, node, _) ↦ node.id) = arenas.flatMap Arena.ids := by
  rw [sites, List.map_flatMap]
  congr 1
  funext arena
  rw [List.map_map, Arena.ids]
  conv_rhs => rw [← List.zipIdx_map_fst 0 arena.nodes.toList, List.map_map]
  rfl

theorem countP_naiveFindings (arenas : List Arena) (resolver : Source.Resolver) (template : Template)
    (nodeId : Int) :
    (arenas.flatMap fun arena ↦ naiveFindings arena resolver template).countP (·.nodeId == nodeId) =
      ((sites arenas).filter fun (_, node, _) ↦ node.id == nodeId).countP
        fun (arena, node, position) ↦ qualifies template arena node position := by
  rw [List.countP_filter, sites, List.countP_flatMap, List.countP_flatMap]
  congr 2
  funext arena
  rw [Function.comp_apply, Function.comp_apply, (naiveFindings_perm arena resolver template).countP_eq,
    List.countP_map, List.countP_filter, List.countP_map]
  congr 1
  funext ⟨node, position⟩
  exact Bool.and_comm _ _

/-- Where names and ids are unique, a template reports each node that qualifies once, and no other. -/
theorem timesReported_naiveInsights {templates : List Template}
    (hnames : (templates.map Template.name).Nodup) {template : Template} (htemplate : template ∈ templates)
    {arenas : List Arena} (hids : (arenas.flatMap Arena.ids).Nodup) {arena : Arena} (harena : arena ∈ arenas)
    {position : Nat} {node : Node} (hnode : arena.node? position = some node) (resolver : Source.Resolver) :
    timesReported (naiveInsights arenas templates resolver) template.name node.id =
      if qualifies template arena node position then 1 else 0 := by
  have hsite : (arena, node, position) ∈ sites arenas := by
    refine List.mem_flatMap.mpr ⟨arena, harena, List.mem_map_of_mem ?_⟩
    rw [List.mem_zipIdx_iff_getElem?, Array.getElem?_toList]
    exact hnode
  rw [← map_id_sites] at hids
  rw [timesReported, naiveInsights_eq, results_insightsOf hnames htemplate, countP_naiveFindings,
    filter_eq_singleton hids hsite, List.countP_singleton]

theorem nodup_nodeIds_naiveFindings {arena : Arena} (hids : arena.ids.Nodup) (resolver : Source.Resolver)
    (template : Template) : ((naiveFindings arena resolver template).map Finding.nodeId).Nodup := by
  rw [((naiveFindings_perm arena resolver template).map Finding.nodeId).nodup_iff, List.map_map]
  have hzip : (arena.nodes.toList.zipIdx.map fun (node, _) ↦ node.id).Nodup := by
    rw [Arena.ids, ← List.zipIdx_map_fst 0 arena.nodes.toList, List.map_map] at hids
    exact hids
  exact hzip.sublist (List.filter_sublist.map _)

/-- In a file with unique ids, the findings of a template are strictly ordered by offset and node. -/
theorem pairwise_naiveFindings {arena : Arena} (hids : arena.ids.Nodup) (resolver : Source.Resolver)
    (template : Template) :
    (naiveFindings arena resolver template).Pairwise fun a b ↦
      a.offset < b.offset ∨ a.offset = b.offset ∧ a.nodeId < b.nodeId := by
  have hsorted : (naiveFindings arena resolver template).Pairwise (findingNotAfter · · = true) :=
    List.pairwise_mergeSort findingNotAfter_trans findingNotAfter_total _
  have hdistinct := List.pairwise_map.mp (nodup_nodeIds_naiveFindings hids resolver template)
  apply (hsorted.and hdistinct).imp
  rintro a b ⟨hle, hne⟩
  rw [findingNotAfter_iff] at hle
  omega

/-- So they are known from what they are in any order. -/
theorem naiveFindings_eq_of_perm {arena : Arena} (hids : arena.ids.Nodup) {resolver : Source.Resolver}
    {template : Template} {found : List Finding} (hperm : (naiveFindings arena resolver template).Perm found)
    (hsorted : found.Pairwise fun a b ↦ a.offset < b.offset ∨ a.offset = b.offset ∧ a.nodeId < b.nodeId) :
    naiveFindings arena resolver template = found := by
  refine List.Perm.eq_of_pairwise ?_ (pairwise_naiveFindings hids resolver template) hsorted hperm
  intro a b _ _ hab hba
  omega

theorem offset_of_mem_naiveFindings {arena : Arena} {resolver : Source.Resolver} {template : Template}
    {finding : Finding} (hmem : finding ∈ naiveFindings arena resolver template) :
    finding.offset = Source.Range.offsetOf finding.src := by
  obtain ⟨⟨node, position⟩, -, rfl⟩ :=
    List.mem_map.mp ((naiveFindings_perm arena resolver template).mem_iff.mp hmem)
  rfl

end SolAudit.Match
