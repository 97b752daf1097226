import SolAudit.Proofs.Build.Calls
import SolAudit.Proofs.Match.Placement
import SolAudit.Proofs.Template.Checking
import SolAudit.Proofs.Text.Decimal

/-!
# The identity of findings

A finding is known by the hash of a text: the name of its template, its file and the id of its node, with colons between
them. Names and paths may contain colons too, so the text cannot be taken apart from the left. It can from the right,
since the id holds no colon (`identityText_inj`); in one run the id tells the node and with it the file, and what is left
is the name. So no two findings of a run have one text.
-/

namespace SolAudit.Match

open Ast Build Template

/-- Texts whose last separators stand before the same parts have the same parts before them too. -/
theorem eq_of_last_separator {α : Type} {sep : α} {a b a' b' : List α} (hb : sep ∉ b) (hb' : sep ∉ b')
    (h : a ++ sep :: b = a' ++ sep :: b') : a = a' ∧ b = b' := by
  rcases List.append_eq_append_iff.mp h with ⟨middle, ha, hmiddle⟩ | ⟨middle, ha, hmiddle⟩
  · cases middle with
    | nil => simp_all
    | cons first rest =>
      obtain ⟨-, rfl⟩ := List.cons.inj hmiddle
      exact absurd (List.mem_append_right rest List.mem_cons_self) hb
  · cases middle with
    | nil => simp_all
    | cons first rest =>
      obtain ⟨-, rfl⟩ := List.cons.inj hmiddle
      exact absurd (List.mem_append_right rest List.mem_cons_self) hb'

/-- The text that is hashed. -/
def identityText (template : String) (finding : Finding) : String :=
  s!"{template}:{finding.file.text}:{finding.nodeId}"

theorem toList_identityText (template : String) (finding : Finding) :
    (identityText template finding).toList =
      (template.toList ++ ':' :: finding.file.text.toList) ++ ':' :: (toString finding.nodeId).toList := by
  have happend : identityText template finding =
      template ++ ":" ++ finding.file.text ++ ":" ++ toString finding.nodeId := rfl
  have hcolon : (":" : String).toList = [':'] := rfl
  rw [happend]
  simp only [String.toList_append, hcolon, List.append_assoc, List.cons_append, List.nil_append]

/-- The text tells the node, and apart from the file also the template. -/
theorem identityText_inj {template template' : String} {finding finding' : Finding}
    (h : identityText template finding = identityText template' finding') :
    finding.nodeId = finding'.nodeId ∧ (finding.file = finding'.file → template = template') := by
  have hchars := congrArg String.toList h
  rw [toList_identityText, toList_identityText] at hchars
  have hcolon (i : Int) : ':' ∉ (toString i).toList := Text.not_mem_toString rfl (by decide) i
  obtain ⟨hfront, hid⟩ := eq_of_last_separator (hcolon _) (hcolon _) hchars
  refine ⟨Text.toString_inj hid, ?_⟩
  intro hfile
  rw [hfile] at hfront
  exact String.toList_inj.mp (List.append_cancel_right hfront)

/-- All that a template finds in some files. -/
def findingsIn (arenas : List Arena) (resolver : Source.Resolver) (template : Template) : List Finding :=
  arenas.flatMap fun arena ↦ naiveFindings arena resolver template

theorem exists_site_of_mem {arenas : List Arena} {resolver : Source.Resolver} {template : Template} {finding : Finding}
    (h : finding ∈ findingsIn arenas resolver template) :
    ∃ site ∈ sites arenas, finding = findingAt site.1 resolver template site.2.1 := by
  obtain ⟨arena, harena, h⟩ := List.mem_flatMap.mp h
  rw [(naiveFindings_perm arena resolver template).mem_iff] at h
  obtain ⟨place, hplace, rfl⟩ := List.mem_map.mp h
  refine ⟨(arena, place), ?_, rfl⟩
  apply List.mem_flatMap.mpr
  exact ⟨arena, harena, List.mem_map_of_mem (List.mem_filter.mp hplace).1⟩

section

variable {arenas : List Arena} (hids : (arenas.flatMap Arena.ids).Nodup) (resolver : Source.Resolver)

include hids

theorem nodup_nodeIds_findingsIn (template : Template) :
    ((findingsIn arenas resolver template).map Finding.nodeId).Nodup := by
  have hmem {arena : Arena} {id : Int} (h : id ∈ (naiveFindings arena resolver template).map Finding.nodeId) :
      id ∈ arena.ids := by
    have hperm := (naiveFindings_perm arena resolver template).map Finding.nodeId
    rw [hperm.mem_iff, List.map_map] at h
    obtain ⟨place, hplace, rfl⟩ := List.mem_map.mp h
    exact List.mem_map_of_mem (List.fst_mem_of_mem_zipIdx (List.mem_filter.mp hplace).1)
  obtain ⟨hnodup, hdisjoint⟩ := List.nodup_flatMap.mp hids
  unfold findingsIn
  rw [List.map_flatMap, List.nodup_flatMap]
  constructor
  · intro arena harena
    exact nodup_nodeIds_naiveFindings (hnodup arena harena) resolver template
  · apply hdisjoint.imp
    intro arena arena' h id hid hid'
    exact h (hmem hid) (hmem hid')

/-- The id of its node tells the file of a finding. -/
theorem file_eq_of_nodeId_eq {template template' : Template} {finding finding' : Finding}
    (h : finding ∈ findingsIn arenas resolver template) (h' : finding' ∈ findingsIn arenas resolver template')
    (hid : finding.nodeId = finding'.nodeId) : finding.file = finding'.file := by
  obtain ⟨site, hsite, rfl⟩ := exists_site_of_mem h
  obtain ⟨site', hsite', rfl⟩ := exists_site_of_mem h'
  rw [← map_id_sites] at hids
  rw [List.inj_on_of_nodup_map hids hsite hsite' hid]
  rfl

/-- Where the names of templates and the ids of nodes are unique, so are the texts of all findings. -/
theorem nodup_identityTexts {templates : List Template} (hnames : (templates.map Template.name).Nodup) :
    (templates.flatMap fun template ↦
      (findingsIn arenas resolver template).map (identityText template.name)).Nodup := by
  rw [List.nodup_flatMap]
  constructor
  · intro template _
    have hnodes := nodup_nodeIds_findingsIn hids resolver template
    apply List.Nodup.map_on ?_ (List.Nodup.of_map _ hnodes)
    intro finding hfinding finding' hfinding' htext
    exact List.inj_on_of_nodup_map hnodes hfinding hfinding' (identityText_inj htext).1
  · apply (List.pairwise_map.mp hnames).imp
    intro template template' hname text hmem hmem'
    obtain ⟨finding, hfinding, rfl⟩ := List.mem_map.mp hmem
    obtain ⟨finding', hfinding', htext⟩ := List.mem_map.mp hmem'
    obtain ⟨hid, htemplate⟩ := identityText_inj htext
    exact hname (htemplate (file_eq_of_nodeId_eq hids resolver hfinding' hfinding hid)).symm

end

/-- What the insights of templates hold, template by template. -/
theorem flatMap_insightsOf {β : Type} (found : Template → List Finding) (templates : List Template)
    (f : String → Finding → β) :
    ((insightsOf found templates).flatMap fun insight ↦ insight.results.map (f insight.template)) =
      templates.flatMap fun template ↦ (found template).map (f template.name) := by
  induction templates with
  | nil => rfl
  | cons template rest ih =>
    rw [List.flatMap_cons, ← ih]
    unfold insightsOf
    rw [List.filterMap_cons]
    cases hfound : found template with
    | nil => simp
    | cons finding more => simp [insightOf]

/-- The texts of all findings of some insights, insight by insight. -/
def identityTexts (insights : List Insight) : List String :=
  insights.flatMap fun insight ↦ insight.results.map (identityText insight.template)

theorem run_of_load {disk : Disk} {sources : List Template.Source} {set : TemplateSet}
    (hload : load disk sources = .ok set) (arenas : List Arena) (resolver : Source.Resolver) :
    (run arenas set resolver).1 = insightsOf (findingsIn arenas resolver) set.templates := by
  calc
    _ = (run arenas (.ofTemplates set.templates) resolver).1 := by rw [← load_eq_ofTemplates hload]
    _ = naiveInsights arenas set.templates resolver := run_ofTemplates ..
    _ = _ := naiveInsights_eq ..

/-- In a run over files that are built together and templates that are loaded, no two findings have the same text, and
each is known by the hash of its text. So all are known apart if no two of these texts have the same hash. -/
theorem findings_known_apart {disk : Disk} {sources : List Template.Source} {set : TemplateSet}
    (hload : load disk sources = .ok set) (trees : List SourceTree) (resolver : Source.Resolver) :
    let insights := (run (build trees).roots set resolver).1
    (identityTexts insights).Nodup ∧
    (insights.flatMap Insight.results).map Finding.id = (identityTexts insights).map Blake3.hash ∧
    (Set.InjOn Blake3.hash { text | text ∈ identityTexts insights } →
      ((insights.flatMap Insight.results).map Finding.id).Nodup) := by
  intro insights
  have hrun : insights = insightsOf (findingsIn (build trees).roots resolver) set.templates :=
    run_of_load hload _ resolver
  have htexts := flatMap_insightsOf (findingsIn (build trees).roots resolver) set.templates identityText
  have hnodup : (identityTexts insights).Nodup := by
    unfold identityTexts
    rw [hrun, htexts]
    exact nodup_identityTexts (nodup_ids_build trees) resolver (nodup_names_of_load hload)
  have hhashes : (insights.flatMap Insight.results).map Finding.id = (identityTexts insights).map Blake3.hash := by
    unfold identityTexts
    rw [hrun, htexts, List.map_flatMap, List.map_flatMap,
      flatMap_insightsOf (findingsIn (build trees).roots resolver) set.templates fun _ ↦ Finding.id]
    congr 1
    funext template
    rw [List.map_map]
    apply List.map_congr_left
    intro finding hfinding
    obtain ⟨site, -, rfl⟩ := exists_site_of_mem hfinding
    rfl
  refine ⟨hnodup, hhashes, ?_⟩
  intro hinj
  rw [hhashes]
  apply List.Nodup.map_on ?_ hnodup
  intro text htext text' htext' hhash
  exact hinj htext htext' hhash

/-! ## Names and paths with colons -/

/-- A document with a template about identifiers, with a colon in its name. -/
def colonDocument : String :=
  "\x7b\"templates\": [\x7b\"name\": \"a:b\", \"description\": \"d\", \"severity\": \"Low\",
    \"references\": [\"r\"], \"action_items\": [\"a\"], \"match\": \x7b\"kinds\": [\"Identifier\"]\x7d\x7d]\x7d"

set_option maxRecDepth 4000 in
theorem exists_load_colonDocument : ∃ set, load (templateDisk colonDocument) [.dir ⟨"/t"⟩] = .ok set ∧
    ∃ template, set.templates = [template] ∧ template.name = "a:b" ∧ template.spec.kinds = ["Identifier"] ∧
      template.spec.predicates = [] := by
  obtain ⟨set, hload, template, htemplates, hname, -, spec, htest, hcompile⟩ :=
    exists_load_of_holdsFile (holdsFile_templateDisk colonDocument) "a:b"
      (fun spec ↦ spec.kinds == ["Identifier"] && spec.predicates.isEmpty) (by
      have hchars : colonDocument.toList = _ := String.toList_ofList
      rw [readDocument, Text.isBlankText, FileFormat.read?, Json.parseRaw, Json.parseWithin, hchars]
      decide)
  rw [Bool.and_eq_true, beq_iff_eq, List.isEmpty_iff] at htest
  obtain ⟨-, hkinds, hpredicates⟩ := RawMatch.compile_eq_ok_iff.mp hcompile
  rw [htest.2, RawPredicate.compileAll] at hpredicates
  exact ⟨set, hload, template, htemplates, hname, hkinds.trans htest.1, (Except.ok.inj hpredicates).symm⟩

/-- A file with a colon in its path, and two identifiers in it. -/
def colonSource : SourceTree := { tiedSource with path := ⟨"C:/A.sol"⟩ }

/-- The template finds the two identifiers. -/
theorem identityTexts_colonSource {arena : Arena} (hpath : arena.path = ⟨"C:/A.sol"⟩)
    (hviews : arena.nodes.toList.map identifierView = [("SourceUnit", none, 1, "0:9:0"),
      ("Identifier", some (.text "selfdestruct"), 2, "abc"),
      ("Identifier", some (.text "selfdestruct"), 3, "18446744073709551615:0:0")])
    {template : Template} (hname : template.name = "a:b") (hkinds : template.spec.kinds = ["Identifier"])
    (hpredicates : template.spec.predicates = []) (resolver : Source.Resolver) :
    ((findingsIn [arena] resolver template).map (identityText template.name)).Perm
      ["a:b:C:/A.sol:2", "a:b:C:/A.sol:3"] := by
  have htext (node : Node) : identityText template.name (findingAt arena resolver template node) =
      "a:b" ++ ":" ++ "C:/A.sol" ++ ":" ++ toString (identifierView node).2.2.1 := by
    rw [hname, ← show arena.path.text = "C:/A.sol" by rw [hpath]]
    rfl
  have hfound := (naiveFindings_perm_of_kind hkinds hpredicates arena resolver).map (identityText template.name)
  have hlist : ["a:b:C:/A.sol:2", "a:b:C:/A.sol:3"] =
      ((arena.nodes.toList.map identifierView).filter fun view ↦ view.1 == "Identifier").map fun view ↦
        "a:b" ++ ":" ++ "C:/A.sol" ++ ":" ++ toString view.2.2.1 := by
    rw [hviews]
    rfl
  unfold findingsIn
  rw [List.flatMap_singleton, hlist]
  refine hfound.trans (.of_eq ?_)
  simp only [List.map_map, List.filter_map, Function.comp_def, htext, identifierView]

theorem colonSource_findings_known_apart :
    ∃ set, load (templateDisk colonDocument) [.dir ⟨"/t"⟩] = .ok set ∧
      let insights := (run (build [colonSource]).roots set (.ofTable .empty)).1
      (identityTexts insights).Perm ["a:b:C:/A.sol:2", "a:b:C:/A.sol:3"] ∧
      ((insights.flatMap Insight.results).map Finding.id).Nodup := by
  obtain ⟨set, hload, template, htemplates, hname, hkinds, hpredicates⟩ := exists_load_colonDocument
  obtain ⟨arena, registry', hbuild, hviews⟩ := exists_buildFile_tiedAt ⟨"C:/A.sol"⟩
  have hroots : (build [colonSource]).roots = [arena] := by
    rw [build, buildFrom, colonSource, hbuild]
    rfl
  have htexts : (identityTexts (run (build [colonSource]).roots set (.ofTable .empty)).1).Perm
      ["a:b:C:/A.sol:2", "a:b:C:/A.sol:3"] := by
    unfold identityTexts
    rw [run_of_load hload, flatMap_insightsOf _ _ identityText, htemplates, List.flatMap_singleton, hroots]
    exact identityTexts_colonSource (file_of_buildFile hbuild).2 hviews hname hkinds hpredicates _
  refine ⟨set, hload, htexts, (findings_known_apart hload [colonSource] (.ofTable .empty)).2.2 ?_⟩
  have hhash : Blake3.hash "a:b:C:/A.sol:2" ≠ Blake3.hash "a:b:C:/A.sol:3" := by decide +kernel
  intro text htext text' htext' h
  have hmem := htexts.mem_iff.mp htext
  have hmem' := htexts.mem_iff.mp htext'
  simp only [List.mem_cons, List.not_mem_nil, or_false] at hmem hmem'
  rcases hmem with rfl | rfl <;> rcases hmem' with rfl | rfl
  · rfl
  · exact absurd h hhash
  · exact absurd h.symm hhash
  · rfl

end SolAudit.Match
