import SolAudit.Template.Set
import SolAudit.Text.Blank

/-!
# Checking templates

A template needs a name, a description, a severity, at least one reference and action item that are not blank, and a
match that compiles. The first that is missing or wrong, in this order, is reported.
-/

namespace SolAudit.Template

/-- What can be missing. -/
inductive Part where
  | name
  | description
  | severity
  | references
  | actionItems
  | spec
  deriving DecidableEq, Repr

def Part.label : Part → String
  | .name => "name"
  | .description => "description"
  | .severity => "severity"
  | .references => "references"
  | .actionItems => "action_items"
  | .spec => "match"

/-- Why a template is refused. -/
inductive Fault where
  | missing (part : Part)
  | severity (text : String)
  | spec (cause : CompileError)
  deriving DecidableEq, Repr

def Fault.message : Fault → String
  | .missing part => s!" is missing {part.label}"
  | .severity text => s!": unknown severity '{text}'"
  | .spec cause => s!": {cause.message}"

def notBlank? (text : Option String) : Option String := text.filter fun s ↦ !Text.isBlankText s

def allBlank (texts : List String) : Bool := texts.all Text.isBlankText

/-- What a template is called in an error: by its name, or by its number in the file. -/
def RawTemplate.label (raw : RawTemplate) (position : Nat) : String :=
  (notBlank? raw.name).getD s!"#{position + 1}"

def RawTemplate.check (raw : RawTemplate) (sourceFile : String) : Except Fault Template := do
  let some name := notBlank? raw.name | .error (.missing .name)
  let some description := notBlank? raw.description | .error (.missing .description)
  let some severityText := raw.severity | .error (.missing .severity)
  let severity ← (Severity.parse severityText).mapError fun _ ↦ Fault.severity severityText
  if allBlank raw.references then .error (.missing .references)
  if allBlank raw.actionItems then .error (.missing .actionItems)
  let some rawSpec := raw.spec | .error (.missing .spec)
  let spec ← (RawMatch.compile rawSpec).mapError Fault.spec
  return {
    name, description, severity, spec, sourceFile
    references := raw.references
    actionItems := raw.actionItems }

end SolAudit.Template
