import SolAudit.Match.Run

/-!
# Insights as JSON

The JSON form of insights, and reading it back. Members that are not known are passed over. A positional list gives the
members in the order in which they are written, all of them.
-/

namespace SolAudit

open Match

namespace Json

/-- The values of members in a given order: of an object by their keys, of an array by their positions. -/
def fields? (keys : List String) : Json → Option (List (Option Json))
  | .obj members => some (keys.map fun key ↦ Members.get? key members)
  | .arr items => if items.length == keys.length then some (items.map some) else none
  | _ => none

def strings? (json : Json) : Option (List String) := json.items?.bind fun items ↦ items.mapM string?

end Json

namespace Source.Span

def toJson (span : Span) : Json :=
  .obj [("path", .str span.path.text), ("line", .nat span.line), ("start_column", .nat span.startColumn),
    ("end_column", .nat span.endColumn)]

def ofJson? (json : Json) : Option Span := do
  match ← json.fields? ["path", "line", "start_column", "end_column"] with
  | [some path, some line, some startColumn, some endColumn] =>
    return {
      path := ⟨← path.string?⟩
      line := ← line.index?
      startColumn := ← startColumn.index?
      endColumn := ← endColumn.index? }
  | _ => none

end Source.Span

namespace Severity

/-- A severity by its exact name, as a text or as the key of an empty value. -/
def ofJson? (json : Json) : Option Severity :=
  let named (text : String) : Option Severity := all.find? fun severity ↦ severity.name == text
  match json with
  | .str text => named text
  | .obj [(key, .null)] => named key
  | _ => none

end Severity

namespace Match.Finding

def toJson (finding : Finding) : Json :=
  .obj [("id", .str finding.id), ("node_id", .int finding.nodeId), ("node_type", .str finding.nodeType),
    ("file", .str finding.file.text), ("src", .str finding.src),
    ("location", Json.ofOption Source.Span.toJson finding.location)]

/-- A place that is not known, or a span. -/
def location? : Option Json → Option (Option Source.Span)
  | none => some none
  | some .null => some none
  | some json => (Source.Span.ofJson? json).map some

/-- Reads a finding. Its offset is not written, so it is zero. -/
def ofJson? (json : Json) : Option Finding := do
  match ← json.fields? ["id", "node_id", "node_type", "file", "src", "location"] with
  | [some id, some nodeId, some nodeType, some file, some src, location] =>
    return {
      id := ← id.string?
      nodeId := ← nodeId.id?
      nodeType := ← nodeType.string?
      file := ⟨← file.string?⟩
      src := ← src.string?
      location := ← location? location
      offset := 0 }
  | _ => none

end Match.Finding

namespace Match.Insight

def toJson (insight : Insight) : Json :=
  .obj [("template", .str insight.template), ("description", .str insight.description),
    ("severity", .str insight.severity.name), ("references", Json.ofStrings insight.references),
    ("action_items", Json.ofStrings insight.actionItems), ("results", .arr (insight.results.map Finding.toJson))]

def ofJson? (json : Json) : Option Insight := do
  match ← json.fields? ["template", "description", "severity", "references", "action_items", "results"] with
  | [some template, some description, some severity, some references, some actionItems, some results] =>
    return {
      template := ← template.string?
      description := ← description.string?
      severity := ← Severity.ofJson? severity
      references := ← references.strings?
      actionItems := ← actionItems.strings?
      results := ← (← results.items?).mapM Finding.ofJson? }
  | _ => none

def listOfJson? (json : Json) : Option (List Insight) := do (← json.items?).mapM ofJson?

end Match.Insight

namespace Report

/-- The insights with the number of their findings. -/
def jsonDocument (insights : List Insight) : Json :=
  .obj [("insights", .arr (insights.map Insight.toJson)), ("total_results", .nat (totalResults insights))]

end Report

end SolAudit
