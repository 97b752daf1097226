import SolAudit.Match.Run

/-!
# SARIF reports

One rule for each insight, one result for each finding, and one artifact for each file. A file gets its number at its
first appearance, and the artifacts stand in the order of the numbers. Files are told apart by the components of their
paths.
-/

namespace SolAudit.Report.Sarif

open Match

def schema : String := "https://schemastore.azurewebsites.net/schemas/json/sarif-2.1.0.json"

def toolName : String := "solinsight"

def toolVersion : String := "1.0.0"

def level : Severity → String
  | .low => "note"
  | .medium => "warning"
  | .high => "error"

/-- Files with their numbers, in the order of the paths. -/
abbrev Numbering := List (Path × Nat)

namespace Numbering

/-- The number of a file, however its path is spelled. -/
def number? (numbering : Numbering) (file : Path) : Option Nat :=
  (numbering.find? fun (path, _) ↦ path.same file).map (·.2)

/-- Puts a file before the first with a greater path. -/
def insert (entry : Path × Nat) : Numbering → Numbering
  | [] => [entry]
  | other :: rest => if entry.1.less other.1 then entry :: other :: rest else other :: insert entry rest

/-- Gives the next number to a file that has none. -/
def add (numbering : Numbering) (file : Path) : Numbering :=
  if (numbering.number? file).isSome then numbering else insert (file, numbering.length) numbering

def ofFiles (files : List Path) : Numbering := files.foldl add []

/-- The files in the order of their numbers. -/
def files (numbering : Numbering) : List Path := (numbering.mergeSort fun a b ↦ a.2 ≤ b.2).map (·.1)

end Numbering

/-- A number of 64 bits as a signed one. -/
def signed (n : Nat) : Json := if n < Text.idBound then .int n else .int ((n : Int) - Text.indexBound)

def message (text : String) : Json := .obj [("text", .str text)]

def region : Option Source.Span → Json
  | some span => .obj [("endColumn", signed span.endColumn), ("startColumn", signed span.startColumn),
      ("startLine", signed span.line)]
  | none => .obj []

def result (numbering : Numbering) (ruleIndex : Nat) (insight : Insight) (finding : Finding) : Json :=
  let index := (numbering.number? finding.file).getD 0
  .obj [
    ("level", .str (level insight.severity)),
    ("locations", .arr [.obj [("physicalLocation", .obj [
      ("artifactLocation", .obj [("index", .nat index), ("uri", .str finding.file.text)]),
      ("region", region finding.location)])]]),
    ("message", message insight.description),
    ("ruleId", .str insight.template),
    ("ruleIndex", .nat ruleIndex)]

/-- A rule; the first reference, if there is one, is where help is found. -/
def rule (insight : Insight) : Json :=
  let help : Json.Members := match insight.references with
    | first :: _ => [("helpUri", .str first)]
    | [] => []
  .obj ([("fullDescription", message ("\n".intercalate insight.actionItems))] ++ help ++
    [("id", .str insight.template), ("name", .str insight.template), ("shortDescription", message insight.description)])

def artifact (path : Path) : Json := .obj [("location", .obj [("uri", .str path.text)])]

def document (insights : List Insight) : Json :=
  let numbering := Numbering.ofFiles ((insights.flatMap Insight.results).map Finding.file)
  .obj [
    ("$schema", .str schema),
    ("runs", .arr [.obj [
      ("artifacts", .arr (numbering.files.map artifact)),
      ("results", .arr (insights.zipIdx.flatMap fun (insight, i) ↦ insight.results.map (result numbering i insight))),
      ("tool", .obj [("driver", .obj [
        ("name", .str toolName),
        ("rules", .arr (insights.map rule)),
        ("version", .str toolVersion)])])]]),
    ("version", .str "2.1.0")]

end SolAudit.Report.Sarif
