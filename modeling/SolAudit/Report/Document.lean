import SolAudit.Json.Printer
import SolAudit.Report.Format
import SolAudit.Report.Insights
import SolAudit.Report.Sarif

/-!
# Reports

The text of a report in each of its formats.
-/

namespace SolAudit.Report

open Match

/-- What is said about a scan next to its results. -/
structure ScanInfo where
  templatesLoaded : Nat := 0
  filesAnalyzed : Nat := 0
  /-- The measured time in milliseconds, as it is shown. -/
  duration : String := "0"
  failedFiles : Nat := 0
  /-- What kind of compiler output was read. -/
  inputShape : Option String := none
  deriving Repr

def lines (texts : List String) : String := String.join (texts.map (· ++ "\n"))

/-- Where a finding is, or its source range if the place is not known. -/
def placeText (finding : Finding) : String :=
  match finding.location with
  | some span => s!"{span.path.text}:{span.line}:{span.startColumn}"
  | none => s!"{finding.file.text} (unknown location, src {finding.src})"

def box (title : String) : List String :=
  let bar := String.ofList (List.replicate (title.length + 2) '─')
  ["╭" ++ bar ++ "╮", s!"│ {title} │", "╰" ++ bar ++ "╯"]

/-- The severity in capitals and in its colour. -/
def severityMark : Severity → String
  | .low => "\x1b[32mLOW\x1b[0m"
  | .medium => "\x1b[33mMEDIUM\x1b[0m"
  | .high => "\x1b[31mHIGH\x1b[0m"

/-- A percentage with one decimal place, computed and rounded as numbers of 64 bits are. -/
def percentage (part whole : Nat) : String :=
  let value := do
    let ratio ← (← Binary64.ofRatio part 1).div (← Binary64.ofRatio whole 1)
    ratio.mul (← Binary64.ofRatio 100 1)
  let (num, den) := (value.getD Binary64.zero).ratio
  let tenths := Binary64.roundDiv (num * 10) den
  s!"{tenths / 10}.{tenths % 10}%"

def successRate (info : ScanInfo) : String :=
  if info.filesAnalyzed == 0 then "0.0%"
  else percentage (info.filesAnalyzed - info.failedFiles) info.filesAnalyzed

def summaryLines (info : ScanInfo) : List String :=
  let shape := match info.inputShape with
    | some shape => [s!"    Compiler output           {shape}"]
    | none => []
  box "Analysis Status" ++ ["",
    s!"    Matched {info.filesAnalyzed} files against {info.templatesLoaded} templates:", "",
    "    Metric                    Value",
    "    " ++ String.ofList (List.replicate 78 '─')] ++ shape ++
    [s!"    Duration                  {info.duration}ms",
      s!"    Failed files              {info.failedFiles}",
      s!"    Success rate              {successRate info}", ""]

def insightLines (insight : Insight) : List String :=
  [s!"{severityMark insight.severity} {insight.template} ({insight.results.length})",
    s!"    {insight.description}"] ++
    insight.results.map (fun finding ↦ s!"    ↳  {placeText finding}") ++
    insight.actionItems.map (fun item ↦ s!"    • Remediation: {item}") ++ [""]

def textReport (insights : List Insight) (info : Option ScanInfo) : String :=
  let total := totalResults insights
  let results :=
    if total == 0 then ["✔ No issues found."]
    else [s!"⚠ Found {total} issue(s) across {insights.length} template(s):", ""] ++
      insights.flatMap insightLines ++ [s!"Total: {total}"]
  lines ((info.map summaryLines).getD [] ++ box "Results" ++ [""] ++ results)

def insightSection (insight : Insight) : List String :=
  ["", s!"## {insight.template} ({insight.severity.name})", "", insight.description, "", "### Locations", ""] ++
    insight.results.map (fun finding ↦ "- `" ++ placeText finding ++ "`") ++
    ["", "### Action items", ""] ++ insight.actionItems.map (fun item ↦ s!"- {item}") ++
    ["", "### References", ""] ++ insight.references.map (fun r ↦ s!"- <{r}>")

def markdownReport (insights : List Insight) (info : Option ScanInfo) : String :=
  let summary := match info with
    | some info => [s!"Matched {info.filesAnalyzed} files against {info.templatesLoaded} templates in " ++
        s!"{info.duration}ms ({info.failedFiles} failed).", ""]
    | none => []
  let body :=
    if insights.isEmpty then ["No issues found."]
    else ["| Template | Severity | Results |", "|---|---|---|"] ++
      insights.map (fun i ↦ s!"| {i.template} | {i.severity.name} | {i.results.length} |") ++
      ["", s!"Total: {totalResults insights}"] ++ insights.flatMap insightSection
  lines (["# solinsight report", ""] ++ summary ++ body)

/-- The text of a report. -/
def render (insights : List Insight) (format : Format) (info : Option ScanInfo) : String :=
  match format with
  | .text => textReport insights info
  | .json => (jsonDocument insights).pretty ++ "\n"
  | .sarif => (Sarif.document insights).pretty ++ "\n"
  | .markdown => markdownReport insights info

/-- Some insight is at least as serious as a threshold. -/
def anyReaches (insights : List Insight) (threshold : Severity) : Bool :=
  insights.any fun insight ↦ insight.severity.reaches threshold

end SolAudit.Report
