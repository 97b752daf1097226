import SolAudit.Text.LowerCase

/-!
# Severities
-/

namespace SolAudit

/-- How serious a finding is. -/
inductive Severity where
  | low
  | medium
  | high
  deriving DecidableEq, Repr

/-- A text that names no severity, in lower case. -/
structure UnknownSeverity where
  text : String
  deriving DecidableEq, Repr

def UnknownSeverity.message (e : UnknownSeverity) : String := s!"unknown severity '{e.text}'"

namespace Severity

def all : List Severity := [.low, .medium, .high]

def name : Severity → String
  | .low => "Low"
  | .medium => "Medium"
  | .high => "High"

def rank : Severity → Nat
  | .low => 0
  | .medium => 1
  | .high => 2

/-- Reads a name in upper or lower case. -/
def parse (text : String) : Except UnknownSeverity Severity :=
  let lower := Text.toLower text
  if lower == "low" then .ok .low
  else if lower == "medium" then .ok .medium
  else if lower == "high" then .ok .high
  else .error ⟨lower⟩

/-- At least as serious as a threshold. -/
def reaches (severity threshold : Severity) : Bool := threshold.rank ≤ severity.rank

def sort (severities : List Severity) : List Severity :=
  severities.mergeSort fun a b ↦ a.rank ≤ b.rank

end Severity

end SolAudit
