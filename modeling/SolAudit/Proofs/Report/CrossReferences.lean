import Mathlib.Data.List.Induction
import Mathlib.Data.List.Nodup
import SolAudit.Proofs.CompilerOutput.Collecting
import SolAudit.Proofs.Path
import SolAudit.Report.Sarif

/-!
# Cross-references in SARIF documents

A result names its rule and its file by indexes. Files are numbered as they appear: after any findings the numbers are
the positions in the list of those paths that no path before them equals (`ofFiles_perm`), so looking a file up gives
the position of an equal path (`number?_ofFiles`) and sorting by number gives the list (`files_ofFiles`). With this
every index of a document points at what it stands for (`document_refers_consistently`).
-/

namespace SolAudit

namespace Path

/-- The paths of a list that no path before them equals. -/
def firsts (paths : List Path) : List Path :=
  paths.zipIdx.filterMap fun (path, i) ↦ if (paths.take i).any (·.key == path.key) then none else some path

theorem firsts_concat (paths : List Path) (path : Path) :
    firsts (paths ++ [path]) = firsts paths ++ if paths.any (·.key == path.key) then [] else [path] := by
  have hbefore : paths.zipIdx.filterMap (fun (other, i) ↦
      if ((paths ++ [path]).take i).any (·.key == other.key) then none else some other) = firsts paths := by
    apply List.filterMap_congr
    rintro ⟨other, i⟩ hmem
    have hlt := List.snd_lt_of_mem_zipIdx hmem
    simp only
    rw [List.take_append_of_le_length (by omega)]
  have hlast : (paths ++ [path]).take paths.length = paths := List.take_left
  rw [firsts, List.zipIdx_append, List.filterMap_append, hbefore]
  simp only [List.zipIdx_cons, List.zipIdx_nil, Nat.zero_add, List.filterMap_cons, List.filterMap_nil, hlast]
  cases paths.any (·.key == path.key) <;> rfl

theorem mem_firsts {paths : List Path} {path : Path} (h : path ∈ firsts paths) : path ∈ paths := by
  obtain ⟨⟨other, i⟩, hmem, hsome⟩ := List.mem_filterMap.mp h
  simp only [Option.ite_none_left_eq_some, Option.some.injEq] at hsome
  exact hsome.2 ▸ List.fst_mem_of_mem_zipIdx hmem

/-- Every path of a list equals one of the firsts. -/
theorem exists_mem_firsts {paths : List Path} {path : Path} (h : path ∈ paths) :
    ∃ first ∈ firsts paths, first.key = path.key := by
  induction paths using List.reverseRecOn generalizing path with
  | nil => cases h
  | append_singleton paths last ih =>
    have hold {other : Path} (hmem : other ∈ paths) : ∃ first ∈ firsts (paths ++ [last]), first.key = other.key := by
      obtain ⟨first, hfirst, hkey⟩ := ih hmem
      rw [firsts_concat]
      exact ⟨first, List.mem_append_left _ hfirst, hkey⟩
    rcases List.mem_append.mp h with hmem | hmem
    · exact hold hmem
    · obtain rfl := List.mem_singleton.mp hmem
      cases hany : paths.any (·.key == path.key) with
      | false =>
        refine ⟨path, ?_, rfl⟩
        rw [firsts_concat, hany]
        exact List.mem_append_right _ (List.mem_singleton.mpr rfl)
      | true =>
        obtain ⟨other, hother, hkey⟩ := List.any_eq_true.mp hany
        obtain ⟨first, hfirst, hfirstKey⟩ := hold hother
        exact ⟨first, hfirst, hfirstKey.trans (beq_iff_eq.mp hkey)⟩

theorem exists_mem_firsts_iff (paths : List Path) (path : Path) :
    (∃ first ∈ firsts paths, first.key = path.key) ↔ ∃ other ∈ paths, other.key = path.key := by
  constructor
  · rintro ⟨first, hfirst, hkey⟩
    exact ⟨first, mem_firsts hfirst, hkey⟩
  · rintro ⟨other, hother, hkey⟩
    obtain ⟨first, hfirst, hfirstKey⟩ := exists_mem_firsts hother
    exact ⟨first, hfirst, hfirstKey.trans hkey⟩

theorem pairwise_firsts (paths : List Path) : (firsts paths).Pairwise fun a b ↦ a.key ≠ b.key := by
  induction paths using List.reverseRecOn with
  | nil => exact .nil
  | append_singleton paths last ih =>
    rw [firsts_concat, List.pairwise_append]
    refine ⟨ih, ?_, ?_⟩
    · split <;> simp
    · intro first hfirst other hother
      split at hother
      · cases hother
      · rename_i hany
        obtain rfl := List.mem_singleton.mp hother
        rw [Bool.not_eq_true, List.any_eq_false] at hany
        simpa using hany first (mem_firsts hfirst)

/-- Whether a path equals one of a list is told by the firsts. -/
theorem any_firsts (paths : List Path) (path : Path) :
    (firsts paths).any (·.key == path.key) = paths.any (·.key == path.key) := by
  rw [Bool.eq_iff_iff, List.any_eq_true, List.any_eq_true]
  simp only [beq_iff_eq]
  exact exists_mem_firsts_iff paths path

end Path

namespace Report.Sarif

open Match

namespace Numbering

theorem insert_perm (entry : Path × Nat) (numbering : Numbering) :
    (Numbering.insert entry numbering).Perm (entry :: numbering) := by
  induction numbering with
  | nil => exact .refl _
  | cons other rest ih =>
    rw [Numbering.insert]
    split
    · exact .refl _
    · exact (ih.cons other).trans (.swap _ _ _)

section

variable {numbering : Numbering} {paths : List Path}

theorem mem_iff_getElem? (h : numbering.Perm paths.zipIdx) {path : Path} {n : Nat} :
    (path, n) ∈ numbering ↔ paths[n]? = some path := by
  rw [h.mem_iff, List.mem_zipIdx_iff_getElem?]

/-- A file has a number if its path equals one that is numbered. -/
theorem isSome_number? (h : numbering.Perm paths.zipIdx) (file : Path) :
    (numbering.number? file).isSome = paths.any (·.key == file.key) := by
  rw [Bool.eq_iff_iff, number?, Option.isSome_map, List.find?_isSome, List.any_eq_true]
  simp only [Path.same_eq]
  constructor
  · rintro ⟨⟨path, n⟩, hmem, hsame⟩
    exact ⟨path, List.mem_of_getElem? ((mem_iff_getElem? h).mp hmem), hsame⟩
  · rintro ⟨path, hmem, hsame⟩
    obtain ⟨n, hn⟩ := List.mem_iff_getElem?.mp hmem
    exact ⟨(path, n), (mem_iff_getElem? h).mpr hn, hsame⟩

/-- The number of a file is the position of a path that equals its own. -/
theorem exists_of_number? (h : numbering.Perm paths.zipIdx) {file : Path} {n : Nat}
    (hn : numbering.number? file = some n) : ∃ path, paths[n]? = some path ∧ path.key = file.key := by
  obtain ⟨⟨path, m⟩, hfind, rfl⟩ := Option.map_eq_some_iff.mp hn
  have hsame := List.find?_some hfind
  simp only [Path.same_eq, beq_iff_eq] at hsame
  exact ⟨path, (mem_iff_getElem? h).mp (List.mem_of_find?_eq_some hfind), hsame⟩

end

/-- Numbers are handed out without gaps, in the order of first appearance. -/
theorem ofFiles_perm (files : List Path) : (ofFiles files).Perm (Path.firsts files).zipIdx := by
  induction files using List.reverseRecOn with
  | nil => exact .refl _
  | append_singleton files file ih =>
    have hlength : (ofFiles files).length = (Path.firsts files).length := by
      rw [ih.length_eq, List.length_zipIdx]
    rw [ofFiles, List.foldl_concat, ← ofFiles, add, isSome_number? ih, Path.any_firsts, Path.firsts_concat]
    split
    · rw [List.append_nil]
      exact ih
    · have hmore : ((Path.firsts files) ++ [file]).zipIdx.Perm ((file, (ofFiles files).length) :: ofFiles files) := by
        rw [List.zipIdx_append, hlength]
        simp only [List.zipIdx_cons, List.zipIdx_nil, Nat.zero_add]
        exact List.perm_append_comm.trans (ih.symm.cons _)
      exact (insert_perm _ _).trans hmore.symm

theorem files_ofFiles (files : List Path) : (ofFiles files).files = Path.firsts files := by
  have hnumbers : ((Path.firsts files).zipIdx.map Prod.snd).Nodup := by
    rw [List.zipIdx_map_snd]
    exact List.nodup_range'
  have hsorted : (Path.firsts files).zipIdx.mergeSort (fun a b ↦ a.2 ≤ b.2) = (Path.firsts files).zipIdx := by
    apply List.mergeSort_of_pairwise
    simp only [decide_eq_true_eq]
    rw [← List.pairwise_map (f := Prod.snd) (R := (· ≤ ·)), List.zipIdx_map_snd]
    exact List.pairwise_le_range'
  rw [Numbering.files, mergeSort_eq_of_perm (ofFiles_perm files) hnumbers, hsorted, List.zipIdx_map_fst]

/-- A file among those that were numbered has the position of the first path that equals its own. -/
theorem number?_ofFiles {files : List Path} {file : Path} (h : file ∈ files) : ∃ n path,
    (ofFiles files).number? file = some n ∧ (ofFiles files).files[n]? = some path ∧ path.key = file.key := by
  have hsome : ((ofFiles files).number? file).isSome = true := by
    rw [isSome_number? (ofFiles_perm files), Path.any_firsts, List.any_eq_true]
    exact ⟨file, h, beq_iff_eq.mpr rfl⟩
  obtain ⟨n, hn⟩ := Option.isSome_iff_exists.mp hsome
  obtain ⟨path, hpath, hkey⟩ := exists_of_number? (ofFiles_perm files) hn
  exact ⟨n, path, hn, files_ofFiles files ▸ hpath, hkey⟩

end Numbering

/-! ## Documents -/

/-- What a rule says of an insight. -/
structure RuleOf (rule : Json) (insight : Insight) : Prop where
  id : rule.get? "id" = some (.str insight.template)
  name : rule.get? "name" = some (.str insight.template)
  shortDescription : rule.path? ["shortDescription", "text"] = some (.str insight.description)
  fullDescription : rule.path? ["fullDescription", "text"] = some (.str ("\n".intercalate insight.actionItems))
  helpUri : rule.get? "helpUri" = insight.references.head?.map .str

/-- A number of 64 bits that is read as a signed one. -/
def wrapped (n : Nat) : Json := .int (if n < Nat.pow 2 63 then n else n - Nat.pow 2 64)

theorem signed_eq_wrapped (n : Nat) : signed n = wrapped n := by
  rw [wrapped, apply_ite Json.int]
  rfl

/-- What a place in a file says of a finding, among the artifacts of its document. -/
structure PlaceOf (artifacts : List Json) (place : Json) (finding : Finding) : Prop where
  uri : place.path? ["artifactLocation", "uri"] = some (.str finding.file.text)
  artifact : ∃ n artifact path, place.path? ["artifactLocation", "index"] = some (.nat n) ∧
    artifacts[n]? = some artifact ∧ artifact.path? ["location", "uri"] = some (.str path) ∧
    (Path.mk path).key = finding.file.key
  startLine : place.path? ["region", "startLine"] = finding.location.map fun span ↦ wrapped span.line
  startColumn : place.path? ["region", "startColumn"] = finding.location.map fun span ↦ wrapped span.startColumn
  endColumn : place.path? ["region", "endColumn"] = finding.location.map fun span ↦ wrapped span.endColumn

/-- What a result says of a finding of the insight at a position, among the rules and artifacts of its document. -/
structure ResultOf (rules artifacts : List Json) (result : Json) (position : Nat) (insight : Insight)
    (finding : Finding) : Prop where
  ruleIndex : result.get? "ruleIndex" = some (.nat position)
  ruleId : result.get? "ruleId" = some (.str insight.template)
  rule : ∃ rule, rules[position]? = some rule ∧ rule.get? "id" = result.get? "ruleId"
  level : result.get? "level" = some (.str (match insight.severity with
    | .low => "note"
    | .medium => "warning"
    | .high => "error"))
  message : result.path? ["message", "text"] = some (.str insight.description)
  place : ∃ location place, result.get? "locations" = some (.arr [location]) ∧
    location.get? "physicalLocation" = some place ∧ PlaceOf artifacts place finding

theorem ruleOf_rule (insight : Insight) : RuleOf (rule insight) insight := by
  obtain ⟨template, description, severity, references, actionItems, results⟩ := insight
  cases references <;> constructor <;> rfl

/-- The files of all findings, in order. -/
def filesOf (insights : List Insight) : List Path := (insights.flatMap Insight.results).map Finding.file

/-- The findings of all insights, in order, each with its insight and the position of that. -/
def attributed (insights : List Insight) : List (Nat × Insight × Finding) :=
  insights.zipIdx.flatMap fun (insight, position) ↦ insight.results.map fun finding ↦ (position, insight, finding)

theorem mem_attributed_iff {insights : List Insight} {position : Nat} {insight : Insight} {finding : Finding} :
    (position, insight, finding) ∈ attributed insights ↔
      insights[position]? = some insight ∧ finding ∈ insight.results := by
  rw [attributed, List.mem_flatMap]
  constructor
  · rintro ⟨⟨other, i⟩, hmem, hfinding⟩
    obtain ⟨_, hfinding, heq⟩ := List.mem_map.mp hfinding
    cases heq
    exact ⟨List.mk_mem_zipIdx_iff_getElem?.mp hmem, hfinding⟩
  · rintro ⟨hinsight, hfinding⟩
    exact ⟨(insight, position), List.mk_mem_zipIdx_iff_getElem?.mpr hinsight, List.mem_map_of_mem hfinding⟩

theorem file_mem_filesOf {insights : List Insight} {position : Nat} {insight : Insight} {finding : Finding}
    (h : (position, insight, finding) ∈ attributed insights) : finding.file ∈ filesOf insights := by
  obtain ⟨hinsight, hfinding⟩ := mem_attributed_iff.mp h
  exact List.mem_map_of_mem (List.mem_flatMap.mpr ⟨insight, List.mem_of_getElem? hinsight, hfinding⟩)

section

variable {files : List Path} {finding : Finding}

theorem resultOf_result {rules : List Json} {position : Nat} {insight : Insight} (hfile : finding.file ∈ files)
    (hrule : rules[position]? = some (rule insight)) :
    ResultOf rules ((Numbering.ofFiles files).files.map artifact)
      (result (Numbering.ofFiles files) position insight finding) position insight finding := by
  obtain ⟨n, path, hnumber, hpath, hkey⟩ := Numbering.number?_ofFiles hfile
  constructor
  · rfl
  · rfl
  · exact ⟨rule insight, hrule, (ruleOf_rule insight).id⟩
  · rfl
  · rfl
  · refine ⟨_, _, rfl, rfl, ?_⟩
    constructor
    · rfl
    · refine ⟨n, artifact path, path.text, ?_, ?_, rfl, hkey⟩
      · rw [hnumber]
        rfl
      · rw [List.getElem?_map, hpath]
        rfl
    all_goals simp only [← signed_eq_wrapped]
    all_goals cases finding.location <;> rfl

end

/-- The indexes of a document point at what they stand for, whatever the insights. Rules correspond to the insights
and results to the findings of all insights, one to one and in order; a result names the rule of its insight by index
and by id, has the level of the insight's severity, names by its index an artifact whose path equals the file of the
finding, and has a start line exactly if the finding has a place. The artifacts are the paths of the findings that no
path before them equals, so no two of them are equal, and every file of a finding equals one. Paths are equal if they
have one key, however they are spelled. -/
theorem document_refers_consistently (insights : List Insight) : ∃ run rules results artifacts,
    (document insights).get? "runs" = some (.arr [run]) ∧
      run.path? ["tool", "driver", "rules"] = some (.arr rules) ∧
      run.get? "results" = some (.arr results) ∧ run.get? "artifacts" = some (.arr artifacts) ∧
      List.Forall₂ RuleOf rules insights ∧
      List.Forall₂ (fun result (position, insight, finding) ↦ ResultOf rules artifacts result position insight finding)
        results (attributed insights) ∧
      List.Forall₂ (fun artifact path ↦ artifact.path? ["location", "uri"] = some (.str path.text))
        artifacts (Path.firsts (filesOf insights)) ∧
      (Path.firsts (filesOf insights)).Pairwise (fun a b ↦ a.key ≠ b.key) ∧
      ∀ path : Path, (∃ first ∈ Path.firsts (filesOf insights), first.key = path.key) ↔
        ∃ file ∈ filesOf insights, file.key = path.key := by
  have hresults : (insights.zipIdx.flatMap fun (insight, i) ↦
        insight.results.map (result (Numbering.ofFiles (filesOf insights)) i insight)) =
      (attributed insights).map fun (position, insight, finding) ↦
        result (Numbering.ofFiles (filesOf insights)) position insight finding := by
    rw [attributed, List.map_flatMap]
    simp only [List.map_map]
    rfl
  refine ⟨_, _, _, _, rfl, rfl, rfl, rfl, ?_, ?_, ?_, Path.pairwise_firsts _, Path.exists_mem_firsts_iff _⟩
  · rw [List.forall₂_map_left_iff]
    exact List.forall₂_same.mpr fun insight _ ↦ ruleOf_rule insight
  · rw [← filesOf, hresults, List.forall₂_map_left_iff, List.forall₂_same]
    rintro ⟨position, insight, finding⟩ hmem
    apply resultOf_result (file_mem_filesOf hmem)
    rw [List.getElem?_map, (mem_attributed_iff.mp hmem).1]
    rfl
  · rw [← filesOf, Numbering.files_ofFiles, List.forall₂_map_left_iff]
    exact List.forall₂_same.mpr fun path _ ↦ rfl

end Report.Sarif

end SolAudit
