import SolAudit.Ast.Export
import SolAudit.Cli.Environment
import SolAudit.Cli.Invocation
import SolAudit.CompilerOutput.Canonical
import SolAudit.Match.Run
import SolAudit.Report.Document
import SolAudit.Settings

/-!
# Running

What the program prints and writes for its arguments, given the disk and the environment.
-/

namespace SolAudit.Cli

structure Outcome where
  exit : Nat := 0
  stdout : String := ""
  stderr : String := ""
  /-- A file to write, with its text. -/
  written : Option (Path × String) := none
  deriving DecidableEq, Repr

/-- The disk after a file was written. -/
def Outcome.disk (outcome : Outcome) (before : Disk) : Disk :=
  match outcome.written with
  | some (path, text) => (before.write path text.toUTF8).toOption.getD before
  | none => before

/-- What was being done, and why it failed, the nearest cause first. -/
structure Failure where
  context : String
  causes : List String
  deriving DecidableEq, Repr

namespace Failure

/-- A text with its later lines indented. -/
def indent (margin : String) (text : String) : String :=
  String.join (text.toList.map fun c ↦ if c == '\n' then "\n" ++ margin else c.toString)

/-- Several causes are numbered. -/
def causeLines (causes : List String) : List String :=
  match causes with
  | [cause] => ["    " ++ indent "    " cause]
  | _ => causes.zipIdx.map fun (cause, n) ↦ Text.padLeft 5 (toString n) ++ ": " ++ indent "       " cause

def text (failure : Failure) : String :=
  let causes := if failure.causes.isEmpty then [] else ["", "Caused by:"] ++ causeLines failure.causes
  Report.lines (("Error: " ++ failure.context) :: causes)

def ofSettings (e : SettingsError) : Failure := ⟨"failed to load configuration", [e.message]⟩

/-- A match that does not compile is a cause of its own. -/
def loadCauses (e : Template.LoadError) : List String :=
  match e with
  | .refused _ _ (.spec cause) => [e.message, cause.message]
  | _ => [e.message]

def ofTemplates (e : Template.LoadError) : Failure := ⟨"failed to load templates", loadCauses e⟩

def ofDirectory (dir : Path) (e : Template.LoadError) : Failure :=
  ⟨s!"invalid templates in {dir.text}", loadCauses e⟩

def ofInput (file : Path) (e : CompilerOutput.InputError) : Failure :=
  ⟨s!"failed to read compiler output {file.text}", [e.message]⟩

def ofOutput (file : Path) : Failure := ⟨s!"failed to create {file.text}", []⟩

end Failure

/-- The outcome of a failure after something was printed. -/
def Outcome.failed (failure : Failure) (stdout stderr : String) : Outcome :=
  { exit := 1, stdout, stderr := stderr ++ failure.text }

def rootOf (disk : Disk) (input : Input) : Path :=
  input.root.getD ⟨"/" ++ "/".intercalate disk.workingDir⟩

def readInput (disk : Disk) (input : Input) : Except Failure CompilerOutput.Canonical :=
  (CompilerOutput.canonicalOfFile disk input.file (rootOf disk input)).mapError (Failure.ofInput input.file)

def loadTemplates (disk : Disk) (settings : Settings) (choice : TemplateChoice) : Except Failure TemplateSet :=
  (Template.load disk (settings.sourcesWith choice.noBundled choice.dirs)).mapError Failure.ofTemplates

def versionText : String := "1.0.0"

def banner : String := Report.lines [
  "",
  "    ╭──────────────────────────────────────╮",
  "    │                                      │",
  "    │        S O L I N S I G H T           │",
  "    │                                      │",
  "    │     Template-driven analysis of      │",
  "    │     Solidity compiler output         │",
  "    │     Version: " ++ Text.padRight 24 versionText ++ "│",
  "    │                                      │",
  "    ╰──────────────────────────────────────╯",
  ""]

/-- What a scan found. -/
structure Scan where
  insights : List Match.Insight
  info : Report.ScanInfo

def Scan.ofInput (disk : Disk) (set : TemplateSet) (input : CompilerOutput.Canonical) : Scan :=
  let built := Build.build input.sources
  let (insights, stats) := Match.run built.roots set (Source.Resolver.ofDisk input.table disk)
  { insights
    info := {
      templatesLoaded := set.size
      filesAnalyzed := built.roots.length + built.failures.length
      failedFiles := built.failures.length + stats.filesFailed
      inputShape := some input.shape.label } }

/-- A scan that was carried out, and what is left to do with it. -/
structure Scanned where
  request : ScanRequest
  format : Report.Format
  /-- What was printed before the scan. -/
  notice : String
  scan : Except Failure Scan

/-- Carries out a scan. -/
def scan (disk : Disk) (env : Environment) (quiet : Bool) (request : ScanRequest) : Except Failure Scanned := do
  let settings ← (Settings.load disk env.settingsPath).mapError Failure.ofSettings
  let format := (request.format <|> settings.format).getD .text
  let scan := do
    let set ← loadTemplates disk settings request.templates
    let input ← readInput disk request.input
    return Scan.ofInput disk set input
  return { request, format, scan, notice := if format == .text && !quiet then banner else "" }

def Scan.exit (scan : Scan) (failOn : Option Severity) : Nat :=
  if failOn.any (Report.anyReaches scan.insights) then 1 else 0

/-- Reports on a scan that took some time. -/
def Scanned.outcome (scanned : Scanned) (disk : Disk) (duration : String) : Outcome :=
  match scanned.scan with
  | .error failure => .failed failure "" scanned.notice
  | .ok scan =>
    let report := Report.render scan.insights scanned.format (some { scan.info with duration })
    let exit := scan.exit scanned.request.failOn
    match scanned.request.output with
    | none => { exit, stdout := report, stderr := scanned.notice }
    | some file =>
      match disk.write file report.toUTF8 with
      | .ok _ => { exit, stderr := scanned.notice, written := some (file, report) }
      | .error _ => .failed (Failure.ofOutput file) "" scanned.notice

def severityColour : Severity → String
  | .high => "91"
  | .medium => "93"
  | .low => "92"

def templateLine (env : Environment) (template : Template) : String :=
  let severity := env.paint (severityColour template.severity) (Text.padRight 6 template.severity.name)
  s!"  {severity} " ++ Text.padRight 36 template.name ++ " " ++ ", ".intercalate template.spec.kinds

def listTemplates (disk : Disk) (env : Environment) (choice : TemplateChoice) : Outcome :=
  let set := do
    let settings ← (Settings.load disk env.settingsPath).mapError Failure.ofSettings
    loadTemplates disk settings choice
  match set with
  | .error failure => .failed failure "" ""
  | .ok set => { stdout := Report.lines (set.templates.map (templateLine env) ++ [s!"{set.size} template(s)"]) }

def verifyTemplates (disk : Disk) (env : Environment) (dir : Path) : Outcome :=
  let opening := [env.paint "1;94" "Verifying templates...", s!"Directory: {dir.text}"]
  match Template.load disk [.dir dir] with
  | .error e => .failed (Failure.ofDirectory dir e) (Report.lines opening) ""
  | .ok set =>
    let closing := env.paint "1;92" s!"{set.size} template(s) valid"
    { stdout := Report.lines (opening ++ set.templates.map (templateLine env) ++ [closing]) }

def treeJson (arena : Ast.Arena) : Json :=
  Json.ofMembers [("path", .str arena.path.text), ("fileIndex", .nat arena.fileIndex), ("ast", arena.toJson)]

def treesText (arenas : List Ast.Arena) : TreeFormat → String
  | .json => (Json.arr (arenas.map treeJson)).pretty ++ "\n"
  | .dot => Report.lines (arenas.flatMap fun arena ↦ [s!"// {arena.path.text}", arena.toDot])

def showTrees (disk : Disk) (input : Input) (format : TreeFormat) : Outcome :=
  match readInput disk input with
  | .error failure => .failed failure "" ""
  | .ok canonical => { stdout := treesText (Build.build canonical.sources).roots format }

def Stop.outcome : Stop → Outcome
  | .usage => { exit := 2, stderr := program.page }
  | .help command => { stdout := command.page }
  | .version => { stdout := s!"solinsight {versionText}\n" }

/-- An outcome, or a scan that waits for its duration. -/
inductive Progress where
  | done (outcome : Outcome)
  | scanned (scan : Scanned)

/-- Does what an invocation asks for. -/
def perform (disk : Disk) (env : Environment) (invocation : Invocation) : Progress :=
  match invocation.task with
  | .scan request =>
    match scan disk env invocation.quiet request with
    | .error failure => .done (.failed failure "" "")
    | .ok scanned => .scanned scanned
  | .listTemplates choice => .done (listTemplates disk env choice)
  | .verifyTemplates dir => .done (verifyTemplates disk env dir)
  | .showTrees input format => .done (showTrees disk input format)

def Progress.outcome (progress : Progress) (disk : Disk) (duration : String) : Outcome :=
  match progress with
  | .done outcome => outcome
  | .scanned scan => scan.outcome disk duration

/-- Runs the program. The time that a scan takes is shown as `duration`. -/
def run (disk : Disk) (env : Environment) (arguments : List String) (duration : String) : Outcome :=
  match Invocation.read arguments with
  | .error stop => stop.outcome
  | .ok invocation => (perform disk env invocation).outcome disk duration

/-- The paths that a run looks at, as far as they are known from the files on a disk: the settings and the input, then
the directories that the settings name and the source files that the input names. -/
def wanted (disk : Disk) (env : Environment) (task : Task) : List Path :=
  let settings := (Settings.load disk env.settingsPath).toOption.getD {}
  let sources (input : Input) : List Path :=
    match readInput disk input with
    | .ok canonical => canonical.table.files.map fun (_, file) ↦ file.path
    | .error _ => []
  match task with
  | .scan request => [env.settingsPath, request.input.file] ++ settings.templateDirs ++ request.templates.dirs ++
      sources request.input
  | .listTemplates choice => env.settingsPath :: (settings.templateDirs ++ choice.dirs)
  | .verifyTemplates dir => [dir]
  | .showTrees input _ => [input.file]

/-- The file that a run writes. -/
def outputFile? : Task → Option Path
  | .scan request => request.output
  | _ => none

end SolAudit.Cli
