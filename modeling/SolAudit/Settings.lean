import SolAudit.Report.Format
import SolAudit.Template.Load
import SolAudit.Toml.Reader

/-!
# Settings

What the configuration file says about templates and scans. Every key is optional and none but the known ones is
allowed; a missing file means the defaults.
-/

namespace SolAudit

structure Settings where
  /-- More template directories, loaded after the bundled templates. -/
  templateDirs : List Path := []
  bundled : Bool := true
  threads : Option Nat := none
  format : Option Report.Format := none
  deriving DecidableEq, Repr

inductive SettingsError where
  | unreadable (path : Path) (cause : DiskError)
  | malformed (path : Path)
  deriving Repr

def SettingsError.message : SettingsError → String
  | .unreadable path _ => s!"failed to read {path.text}"
  | .malformed path => s!"failed to parse config {path.text}"

namespace Settings

/-- The values of a section. A list gives them by position, and what it has beyond them is passed over. -/
def section? (keys : List String) : Data → Option (List (String × Data))
  | .list _ items => some (keys.zip items)
  | data => Template.fieldsOf keys data

def dirs? (data : Data) : Option (List Path) := data.texts?.map fun texts ↦ texts.map Path.mk

def count? : Data → Option Nat
  | .int n => if 0 ≤ n then some n.toNat else none
  | _ => none

/-- A format by its name, as a text or as the only key of a table with an empty value. -/
def format? : Data → Option Report.Format
  | .str name => Report.Format.ofName? name
  | .record [(name, .record [])] => Report.Format.ofName? name
  | .record [(name, .list _ [])] => Report.Format.ofName? name
  | _ => none

def readTemplates (settings : Settings) (data : Data) : Option Settings := do
  let fields ← section? ["dirs", "builtin"] data
  return { settings with
    templateDirs := ← Template.fieldOr fields "dirs" [] dirs?
    bundled := ← Template.fieldOr fields "builtin" true Data.flag? }

/-- The section on scans. By position both values have to be there. -/
def readScan (settings : Settings) (data : Data) : Option Settings := do
  let fields ← section? ["threads", "format"] data
  if let .list .. := data then
    if fields.length < 2 then failure
  return { settings with
    threads := ← Template.fieldOr fields "threads" none fun value ↦ (count? value).map some
    format := ← Template.fieldOr fields "format" none fun value ↦ (format? value).map some }

def ofData? (data : Data) : Option Settings := do
  let fields ← Template.fieldsOf ["templates", "scan"] data
  let settings ← Template.fieldOr fields "templates" {} (readTemplates {})
  Template.fieldOr fields "scan" settings (readScan settings)

def parse? (text : String) : Option Settings := do
  ofData? (Toml.Value.toData (.table .header (← Toml.parse? text)))

/-- The settings of a file. -/
def load (disk : Disk) (path : Path) : Except SettingsError Settings := do
  if !disk.hasEntry path then return {}
  let text ← (disk.readText path).mapError (SettingsError.unreadable path)
  match parse? text with
  | some settings => return settings
  | none => .error (.malformed path)

/-- Where templates come from: the bundled ones, the directories of the settings, then those asked for. -/
def sourcesWith (settings : Settings) (noBundled : Bool) (dirs : List Path) : List Template.Source :=
  (if settings.bundled && !noBundled then [.bundled] else []) ++ (settings.templateDirs ++ dirs).map .dir

end Settings

end SolAudit
