import SolAudit.Cli.Command
import SolAudit.Path
import SolAudit.Report.Format
import SolAudit.Severity
import SolAudit.Text.Decimal

/-!
# Invocations

The commands of the program, and what the arguments ask it to do.
-/

namespace SolAudit.Cli

/-- Which templates to load besides those of the settings. -/
structure TemplateChoice where
  dirs : List Path
  noBundled : Bool
  deriving DecidableEq, Repr

/-- A file of compiler output and the directory that its relative paths start at. -/
structure Input where
  file : Path
  root : Option Path
  deriving DecidableEq, Repr

structure ScanRequest where
  input : Input
  templates : TemplateChoice
  format : Option Report.Format
  output : Option Path
  threads : Option Nat
  failOn : Option Severity
  deriving DecidableEq, Repr

inductive TreeFormat where
  | json
  | dot
  deriving DecidableEq, Repr

inductive Task where
  | scan (request : ScanRequest)
  | listTemplates (choice : TemplateChoice)
  | verifyTemplates (dir : Path)
  | showTrees (input : Input) (format : TreeFormat)
  deriving DecidableEq, Repr

structure Invocation where
  quiet : Bool
  task : Task
  deriving DecidableEq, Repr

def threads? (text : String) : Option Nat := (Text.unsigned? Text.indexBound text.toList).filter (0 < ·)

def TreeFormat.ofName? (name : String) : Option TreeFormat :=
  if name == "json" then some .json else if name == "dot" then some .dot else none

def severity? (text : String) : Option Severity := (Severity.parse text).toOption

def pathOption (name label about : String) (repeatable : Bool) : OptionSpec where
  name := name
  effect := .value label (· != "") repeatable
  about := about

def valueOption {α : Type} (name label about : String) (read? : String → Option α) : OptionSpec where
  name := name
  effect := .value label (fun text ↦ (read? text).isSome) false
  about := about

/-- Options that every command has. -/
def sharedOptions : List OptionSpec := [
  { name := "quiet", effect := .flag, about := "Suppress log output" },
  { name := "debug", effect := .flag, about := "Enable debug output", excludes := ["quiet"] },
  { name := "help", letter := some 'h', effect := .help, about := "Print help" }]

def templateOptions : List OptionSpec := [
  pathOption "templates" "DIR" "Additional template directory (repeatable)" true,
  { name := "no-builtin", effect := .flag, about := "Do not load the bundled templates" }]

def inputOperand : Operand where
  label := "INPUT"
  about := "solc combined-json, Hardhat build-info or Foundry build-info file"

def rootOption : OptionSpec :=
  pathOption "root" "ROOT" "Project root that relative source paths are resolved against" false

def scanCommand : Command where
  name := "scan"
  about := "Match templates against compiler output and report the insights"
  operand := inputOperand
  options := [rootOption] ++ templateOptions ++ [
    valueOption "format" "FORMAT" "Output format for scan results" Report.Format.ofName?,
    { pathOption "output" "OUTPUT" "Write the report to this file instead of stdout" false with
      letter := some 'o' },
    valueOption "threads" "THREADS" "Number of parallel threads to use for matching" threads?,
    valueOption "fail-on" "FAIL_ON" "Exit with error code if insights of this severity or higher are found"
      severity?] ++ sharedOptions

def listCommand : Command where
  name := "list"
  about := "List the loaded templates in load order"
  options := templateOptions ++ sharedOptions

def verifyCommand : Command where
  name := "verify"
  about := "Validate every template in a directory"
  operand := some { label := "PATH", about := "Template directory" }
  options := sharedOptions

def templatesCommand : Command where
  name := "templates"
  otherName := "template"
  about := "Inspect and validate vulnerability templates"
  options := sharedOptions
  commands := [listCommand, verifyCommand]

def treesCommand : Command where
  name := "ast"
  about := "Dump the syntax trees built from compiler output"
  operand := inputOperand
  options := [rootOption, valueOption "format" "FORMAT" "json (the default) or dot" TreeFormat.ofName?] ++
    sharedOptions

def program : Command where
  name := "solinsight"
  about := "Template-driven static analysis for Solidity compiler output"
  options := sharedOptions ++ [
    { name := "version", letter := some 'V', effect := .version, about := "Print version" }]
  commands := [scanCommand, templatesCommand, treesCommand]

namespace Given

def path? (given : Given) (option : String) : Option Path := (given.value? option).map Path.mk

def templateChoice (given : Given) : TemplateChoice where
  dirs := (given.allValues "templates").map Path.mk
  noBundled := given.has "no-builtin"

def input? (given : Given) : Option Input :=
  given.operand.map fun file ↦ { file := ⟨file⟩, root := given.path? "root" }

def scanRequest? (given : Given) : Option ScanRequest :=
  given.input?.map fun input ↦ {
    input
    templates := given.templateChoice
    format := (given.value? "format").bind Report.Format.ofName?
    output := given.path? "output"
    threads := (given.value? "threads").bind threads?
    failOn := (given.value? "fail-on").bind severity? }

def treeFormat (given : Given) : TreeFormat := ((given.value? "format").bind TreeFormat.ofName?).getD .json

end Given

/-- What the innermost command asks for. -/
def Task.ofLevel? (name : String) (given : Given) : Option Task :=
  if name == scanCommand.name then given.scanRequest?.map Task.scan
  else if name == listCommand.name then some (.listTemplates given.templateChoice)
  else if name == verifyCommand.name then given.operand.map fun dir ↦ .verifyTemplates ⟨dir⟩
  else if name == treesCommand.name then given.input?.map fun input ↦ .showTrees input given.treeFormat
  else none

/-- A flag that every command has counts wherever it is given. -/
def Invocation.ofReading? (reading : Reading) : Option Invocation := do
  let (name, given) ← reading.getLast?
  let task ← Task.ofLevel? name given
  return { quiet := reading.any fun (_, given) ↦ given.has "quiet", task }

/-- What the arguments ask for. -/
def Invocation.read (arguments : List String) : Except Stop Invocation := do
  match Invocation.ofReading? (← program.read arguments) with
  | some invocation => .ok invocation
  | none => .error .usage

end SolAudit.Cli
