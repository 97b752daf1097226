import SolAudit.Json.Reader
import SolAudit.Template.Bundled
import SolAudit.Template.Check
import SolAudit.Template.RawReader
import SolAudit.Walk
import SolAudit.Yaml.Reader

/-!
# Loading templates

Templates come from sources, one after the other: the bundled documents, or the template files below a directory in the
order of their paths. The first error ends the load.
-/

namespace SolAudit.Template

inductive Source where
  | bundled
  | dir (path : Path)
  deriving DecidableEq, Repr

inductive LoadError where
  | unreadable (path : Path) (cause : DiskError)
  | walk (cause : DiskError)
  | missingDir (dir : Path)
  | parse (file : String)
  | duplicateName (name file : String)
  | refused (file label : String) (fault : Fault)

namespace LoadError

def message : LoadError → String
  | .unreadable path _ => s!"failed to read {path.text}"
  | .walk _ => "failed to walk template directory"
  | .missingDir dir => s!"template directory {dir.text} does not exist"
  | .parse file => s!"failed to parse {file}"
  | .duplicateName name file => s!"duplicate template name '{name}' in {file}"
  | .refused file label fault => s!"{file}: template '{label}'{fault.message}"

end LoadError

/-- The notations of template files. -/
inductive FileFormat where
  | yaml
  | json
  deriving DecidableEq, Repr

namespace FileFormat

/-- The notation of a file, by its extension. -/
def ofPath? (path : Path) : Option FileFormat :=
  match path.extension? with
  | some "yaml" | some "yml" => some .yaml
  | some "json" => some .json
  | _ => none

def read? (format : FileFormat) (content : String) : Option Data :=
  match format with
  | .yaml => Yaml.parse? content
  | .json => (Json.parseRaw content).map Data.ofJson

end FileFormat

/-- Adds the templates of a document to those before. Names must be new. -/
def addTemplates (file : String) (loaded : List Template) :
    Nat → List RawTemplate → Except LoadError (List Template)
  | _, [] => .ok loaded
  | position, raw :: rest => do
    let template ← (raw.check file).mapError fun fault ↦ .refused file (raw.label position) fault
    if loaded.any fun t ↦ t.name == template.name then .error (.duplicateName template.name file)
    addTemplates file (loaded ++ [template]) (position + 1) rest

/-- The templates of a document, none for a blank one. -/
def readDocument (format : FileFormat) (file content : String) : Except LoadError (List RawTemplate) :=
  if Text.isBlankText content then .ok []
  else match (format.read? content).bind RawTemplate.readAll? with
    | some raws => .ok raws
    | none => .error (.parse file)

/-- Version control data is no place for templates. -/
def isVersionControl (path : Path) : Bool := path.fileName? == some ".git"

/-- The template files below a directory in the order of their paths; version control data is left out. -/
def templateFiles (disk : Disk) (dir : Path) : Except LoadError (List (Path × FileFormat)) := do
  if !disk.isDir dir then .error (.missingDir dir)
  let files ← (Walk.filesBelow disk dir isVersionControl).mapError LoadError.walk
  let known := files.filterMap fun path ↦ (FileFormat.ofPath? path).map fun format ↦ (path, format)
  return known.mergeSort fun a b ↦ a.1.notAfter b.1

def addFile (disk : Disk) (dir : Path) (loaded : List Template) (file : Path × FileFormat) :
    Except LoadError (List Template) := do
  let (path, format) := file
  let content ← (disk.readText path).mapError (LoadError.unreadable path)
  let label := path.below dir
  addTemplates label loaded 0 (← readDocument format label content)

def addSource (disk : Disk) (loaded : List Template) : Source → Except LoadError (List Template)
  | .bundled => Bundled.documents.foldlM (fun loaded (label, raws) ↦ addTemplates label loaded 0 raws) loaded
  | .dir dir => do (← templateFiles disk dir).foldlM (addFile disk dir) loaded

/-- The set of the templates of all sources. -/
def load (disk : Disk) (sources : List Source) : Except LoadError TemplateSet := do
  return TemplateSet.ofTemplates (← sources.foldlM (addSource disk) [])

end SolAudit.Template
