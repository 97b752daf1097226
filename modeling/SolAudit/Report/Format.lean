import SolAudit.Text.LowerCase

/-!
# Report formats
-/

namespace SolAudit.Report

inductive Format where
  | text
  | json
  | sarif
  | markdown
  deriving DecidableEq, Repr

namespace Format

def all : List Format := [.text, .json, .sarif, .markdown]

def name : Format → String
  | .text => "text"
  | .json => "json"
  | .sarif => "sarif"
  | .markdown => "markdown"

/-- The format with exactly this name. -/
def ofName? (name : String) : Option Format := all.find? fun format ↦ format.name == name

/-- The format with a name in upper or lower case; Markdown has a short name too. -/
def parse? (text : String) : Option Format :=
  let lower := Text.toLower text
  if lower == "md" then some .markdown else ofName? lower

/-- What is said of a text that names no format. -/
def unknown : String := "invalid format"

end Format

end SolAudit.Report
