import SolAudit.Proofs.Json.Members
import SolAudit.Proofs.Json.RoundTrip
import SolAudit.Proofs.Match.Naive
import SolAudit.Proofs.Outcome
import SolAudit.Report.Document

/-!
# Reading reports back

The JSON report of insights whose numbers have 64 bits is read again as what was written (`json_report_reads_back`): it
counts the findings, and its insights are those that were reported, apart from the offsets, which are not written. What
is read of an object does not depend on the order of its members, which the reader of documents changes.
-/

namespace SolAudit

open Match

namespace Json

/-- Fields are found by their keys, wherever the members stand. -/
theorem fields?_normalize {members : Members} (hnodup : (members.map Prod.fst).Nodup) (keys : List String) :
    (normalize (.obj members)).fields? keys =
      some (keys.map fun key ↦ (Members.get? key members).map normalize) := by
  have hkeys : ((normalizeMembers members).map Prod.fst).Nodup := by
    rw [normalizeMembers_eq, List.map_map]
    exact hnodup
  rw [normalize, fields?]
  congr 1
  apply List.map_congr_left
  intro key _
  rw [Members.get?_sort hkeys, normalizeMembers_eq]
  exact Members.get?_mapValues (fun _ ↦ normalize) members key

/-- What is read of each item is read of the list. -/
theorem mapM_normalize {α β : Type} (write : α → Json) (read : Json → Option β) {f : α → β} {items : List α}
    (h : ∀ item ∈ items, read (write item).normalize = some (f item)) :
    ((normalize (.arr (items.map write))).items?.bind fun items ↦ items.mapM read) = some (items.map f) := by
  rw [normalize, items?, normalizeItems_eq, Option.bind_some, List.map_map, List.mapM_map]
  exact Outcome.mapM_eq_pure h

theorem strings?_normalize (texts : List String) : (ofStrings texts).normalize.strings? = some texts := by
  have h : (ofStrings texts).normalize.strings? = some (texts.map id) := mapM_normalize .str string? fun _ _ ↦ rfl
  rwa [List.map_id] at h

theorem printable_ofStrings (depth : Nat) (texts : List String) : Printable (depth + 1) (ofStrings texts) := by
  refine .arr fun item hitem ↦ ?_
  obtain ⟨text, -, rfl⟩ := List.mem_map.mp hitem
  exact .str text

theorem integral_nat {n : Nat} (h : n < Text.indexBound) : Integral n :=
  ⟨by rw [Text.idBound]; omega, Int.ofNat_lt.mpr h⟩

end Json

namespace Source.Span

/-- Lines and columns are unsigned numbers of 64 bits. -/
structure Fits (span : Span) : Prop where
  line : span.line < Text.indexBound
  startColumn : span.startColumn < Text.indexBound
  endColumn : span.endColumn < Text.indexBound

theorem ofJson?_normalize (span : Span) : ofJson? span.toJson.normalize = some span := by
  rw [toJson, ofJson?, Json.fields?_normalize (by simp)]
  simp [Json.Members.get?, Json.normalize, Json.nat, Json.string?, Json.index?]

theorem Fits.printable {span : Span} (h : span.Fits) (depth : Nat) : Json.Printable (depth + 1) span.toJson := by
  refine .obj ?_
  simp only [List.forall_mem_cons]
  exact ⟨.str _, .int (Json.integral_nat h.line), .int (Json.integral_nat h.startColumn),
    .int (Json.integral_nat h.endColumn), by simp⟩

end Source.Span

theorem Severity.ofJson?_normalize (severity : Severity) :
    ofJson? (Json.str severity.name).normalize = some severity := by
  cases severity <;> decide

namespace Match.Finding

/-- The node id is a signed number of 64 bits, and so are lines and columns without a sign. -/
structure Fits (finding : Finding) : Prop where
  nodeId : -(Text.idBound : Int) ≤ finding.nodeId ∧ finding.nodeId < Text.idBound
  location : ∀ span, finding.location = some span → span.Fits

/-- What is written of a finding. -/
def withoutOffset (finding : Finding) : Finding := { finding with offset := 0 }

theorem location?_normalize (location : Option Source.Span) :
    location? (some (Json.ofOption Source.Span.toJson location).normalize) = some location := by
  cases location with
  | none => rfl
  | some span =>
    have hspan := span.ofJson?_normalize
    rw [Json.ofOption, Source.Span.toJson, Json.normalize, location?]
    · rw [Source.Span.toJson, Json.normalize] at hspan
      rw [hspan]
      rfl
    · exact Json.noConfusion

theorem ofJson?_normalize {finding : Finding} (h : finding.nodeId < Text.idBound) :
    ofJson? finding.toJson.normalize = some finding.withoutOffset := by
  have hlocation := location?_normalize finding.location
  have htext (text : String) : (Json.str text).normalize.string? = some text := rfl
  have hid : (Json.int finding.nodeId).normalize.id? = some finding.nodeId := if_pos h
  rw [toJson, ofJson?, Json.fields?_normalize (by simp)]
  simp [Json.Members.get?, hlocation, htext, hid, withoutOffset]

theorem Fits.printable {finding : Finding} (h : finding.Fits) (depth : Nat) :
    Json.Printable (depth + 2) finding.toJson := by
  have hid : Json.Integral finding.nodeId := ⟨h.nodeId.1, Int.lt_trans h.nodeId.2 (by decide)⟩
  have hlocation : Json.Printable (depth + 1) (Json.ofOption Source.Span.toJson finding.location) := by
    cases hspan : finding.location with
    | none => exact .null
    | some span => exact (h.location span hspan).printable depth
  refine .obj ?_
  simp only [List.forall_mem_cons]
  exact ⟨.str _, .int hid, .str _, .str _, .str _, hlocation, by simp⟩

end Match.Finding

namespace Match.Insight

/-- What is written of an insight. -/
def withoutOffsets (insight : Insight) : Insight :=
  { insight with results := insight.results.map Finding.withoutOffset }

theorem ofJson?_normalize {insight : Insight} (h : ∀ finding ∈ insight.results, finding.Fits) :
    ofJson? insight.toJson.normalize = some insight.withoutOffsets := by
  have hresults := Json.mapM_normalize Finding.toJson Finding.ofJson?
    fun finding hfinding ↦ Finding.ofJson?_normalize (h finding hfinding).nodeId.2
  have hseverity := insight.severity.ofJson?_normalize
  rw [toJson, ofJson?, Json.fields?_normalize (by simp)]
  have htext (text : String) : (Json.str text).normalize.string? = some text := rfl
  obtain ⟨items, hitems, hread⟩ := Option.bind_eq_some_iff.mp hresults
  simp [Json.Members.get?, hseverity, Json.strings?_normalize, htext, hitems, hread, withoutOffsets]

theorem printable_toJson {insight : Insight} (h : ∀ finding ∈ insight.results, finding.Fits) (depth : Nat) :
    Json.Printable (depth + 4) insight.toJson := by
  have hresults : Json.Printable (depth + 3) (.arr (insight.results.map Finding.toJson)) := by
    refine .arr fun item hitem ↦ ?_
    obtain ⟨finding, hfinding, rfl⟩ := List.mem_map.mp hitem
    exact (h finding hfinding).printable depth
  refine .obj ?_
  simp only [List.forall_mem_cons]
  exact ⟨.str _, .str _, .str _, Json.printable_ofStrings _ _, Json.printable_ofStrings _ _, hresults, by simp⟩

end Match.Insight

namespace Report

/-- A list of insights as a program can hold it: the numbers of its findings have 64 bits, and so has their count. -/
structure Fits (insights : List Insight) : Prop where
  findings : ∀ insight ∈ insights, ∀ finding ∈ insight.results, finding.Fits
  count : (insights.flatMap Insight.results).length < Text.indexBound

theorem Fits.printable {insights : List Insight} (h : Fits insights) (depth : Nat) :
    Json.Printable (depth + 6) (jsonDocument insights) := by
  have hinsights : Json.Printable (depth + 5) (.arr (insights.map Insight.toJson)) := by
    refine .arr fun item hitem ↦ ?_
    obtain ⟨insight, hinsight, rfl⟩ := List.mem_map.mp hitem
    exact Insight.printable_toJson (h.findings insight hinsight) depth
  refine .obj ?_
  simp only [List.forall_mem_cons, totalResults_eq]
  exact ⟨hinsights, .int (Json.integral_nat h.count), by simp⟩

/-- The JSON report of insights, whatever texts are in them, is a JSON document of two members: the insights, which are
read as those that were reported with zero for the offsets that are not written, and the number of all findings. -/
theorem json_report_reads_back {insights : List Insight} (h : Fits insights) (info : Option ScanInfo) :
    ∃ items, Json.parse (render insights .json info) =
        some (.obj [("insights", .arr items),
          ("total_results", .nat (insights.flatMap Insight.results).length)]) ∧
      Insight.listOfJson? (.arr items) = some (insights.map Insight.withoutOffsets) := by
  have hraw : Json.parseRaw (render insights .json info) = some (jsonDocument insights) :=
    Json.parseWithin_pretty (h.printable 121) (Json.blank_singleton rfl)
  refine ⟨Json.normalizeItems (insights.map Insight.toJson), ?_, ?_⟩
  · have horder : ¬ "total_results" < "insights" := by decide
    rw [Json.parse, hraw, Option.map_some, jsonDocument, totalResults_eq]
    simp [Json.normalize, Json.normalizeMembers, Json.Members.sort, Json.Members.insert, Json.nat, horder]
  · exact Json.mapM_normalize Insight.toJson Insight.ofJson?
      fun insight hinsight ↦ Insight.ofJson?_normalize (h.findings insight hinsight)

/-- A finding with the least node id at the last place that can be named, and one without a place. -/
def extremeFindings : List Finding :=
  [{ id := "\x00\x1f\x7f", nodeId := -9223372036854775808, nodeType := "Odd\"Type\\", file := ⟨"/p/ü\n.sol"⟩,
      src := "0:1:0",
      location := some ⟨⟨"/p/𝕊.sol"⟩, 18446744073709551615, 18446744073709551615, 18446744073709551615⟩, offset := 7 },
    { id := "", nodeId := 9223372036854775807, nodeType := "\t\r/", file := ⟨""⟩, src := "abc", location := none,
      offset := 18446744073709551615 }]

def extremeInsights : List Insight :=
  [⟨"\\\"", "line\nline", .medium, ["\x08\x0c", ""], [], extremeFindings⟩, ⟨"", "", .high, [], ["→"], []⟩]

theorem extremeInsights_read_back : Fits extremeInsights ∧ ∃ items,
    Json.parse (render extremeInsights .json none) =
        some (.obj [("insights", .arr items), ("total_results", .nat 2)]) ∧
      Insight.listOfJson? (.arr items) = some (extremeInsights.map Insight.withoutOffsets) := by
  have hfits : Fits extremeInsights := by
    refine ⟨?_, by decide⟩
    simp only [extremeInsights, extremeFindings, List.forall_mem_cons]
    refine ⟨⟨⟨by decide, ?_⟩, ⟨by decide, ?_⟩, by simp⟩, by simp, by simp⟩
    · rintro span ⟨⟩
      exact ⟨by decide, by decide, by decide⟩
    · rintro span ⟨⟩
  exact ⟨hfits, json_report_reads_back hfits none⟩

end Report

end SolAudit
