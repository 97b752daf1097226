import SolAudit.Severity
import SolAudit.Template.Predicate

/-!
# Template sets

Checked templates in the order in which they were loaded, with a table that leads from a kind of node to the templates
that are about it.
-/

namespace SolAudit

structure Template where
  name : String
  description : String
  severity : Severity
  references : List String
  actionItems : List String
  spec : Template.MatchSpec Template.Predicate
  /-- The file that the template comes from. -/
  sourceFile : String

namespace Template

/-- For every kind, positions in a list of templates in ascending order. -/
abbrev Dispatch := List (String × List Nat)

namespace Dispatch

def find (dispatch : Dispatch) (kind : String) : List Nat :=
  match dispatch with
  | [] => []
  | (k, positions) :: rest => if k == kind then positions else find rest kind

/-- Adds a position at the end for a kind, unless it is there already. -/
def add (position : Nat) (dispatch : Dispatch) (kind : String) : Dispatch :=
  match dispatch with
  | [] => [(kind, [position])]
  | (k, positions) :: rest =>
    if k == kind then
      (k, if positions.getLast? == some position then positions else positions ++ [position]) :: rest
    else (k, positions) :: add position rest kind

/-- The table of templates that start at a position. -/
def addAll (dispatch : Dispatch) : Nat → List Template → Dispatch
  | _, [] => dispatch
  | position, template :: rest =>
    addAll (template.spec.kinds.foldl (Dispatch.add position) dispatch) (position + 1) rest

end Dispatch

end Template

structure TemplateSet where
  templates : List Template
  dispatch : Template.Dispatch

namespace TemplateSet

def ofTemplates (templates : List Template) : TemplateSet :=
  ⟨templates, Template.Dispatch.addAll [] 0 templates⟩

def size (set : TemplateSet) : Nat := set.templates.length

def get? (set : TemplateSet) (position : Nat) : Option Template := set.templates[position]?

/-- The positions of the templates about a kind of node. -/
def positionsFor (set : TemplateSet) (kind : String) : List Nat := set.dispatch.find kind

end TemplateSet

end SolAudit
