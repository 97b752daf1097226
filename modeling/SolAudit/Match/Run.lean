import SolAudit.Blake3
import SolAudit.Match.Eval
import SolAudit.Source.Location
import SolAudit.Template.Set

/-!
# Matching

Runs templates over syntax trees. The matches of one file are found node by node, through the table of the template set,
and put in the order of templates and places; the insights of a run gather, template by template, what all files
contribute.
-/

namespace SolAudit.Match

open Ast Template

/-- One match of a template at a node. -/
structure Finding where
  id : String
  nodeId : Int
  nodeType : String
  file : Path
  src : String
  location : Option Source.Span
  /-- Where the node starts, for ordering. -/
  offset : Nat
  deriving DecidableEq, Repr

/-- Everything that a template found. -/
structure Insight where
  template : String
  description : String
  severity : Severity
  references : List String
  actionItems : List String
  results : List Finding
  deriving DecidableEq, Repr

/-- The identity of a finding: what was found, in which file, at which node. -/
def findingId (template : String) (file : Path) (nodeId : Int) : String :=
  Blake3.hash s!"{template}:{file.text}:{nodeId}"

def findingAt (arena : Arena) (resolver : Source.Resolver) (template : Template) (node : Node) : Finding where
  id := findingId template.name arena.path node.id
  nodeId := node.id
  nodeType := node.kind.tag
  file := arena.path
  src := node.src
  location := resolver.locate? node.src
  offset := node.offset

/-- A template holds at a node if all its predicates do; an error counts as no. -/
def holdsAt (arena : Arena) (template : Template) (position : Nat) : Bool :=
  match evalAll arena template.spec.predicates position with
  | .ok b => b
  | .error _ => false

/-- A finding with the position of its template in the set. -/
abbrev FileMatch := Nat × Finding

/-- By template, then by offset, then by node. -/
def notAfter (a b : FileMatch) : Bool :=
  a.1 < b.1 || (a.1 == b.1 && (a.2.offset < b.2.offset || (a.2.offset == b.2.offset && a.2.nodeId ≤ b.2.nodeId)))

/-- The matches at one node. -/
def matchNode (arena : Arena) (set : TemplateSet) (resolver : Source.Resolver) (position : Nat) (node : Node) :
    List FileMatch :=
  (set.positionsFor node.kind.tag).filterMap fun t ↦
    match set.get? t with
    | some template =>
      if holdsAt arena template position then some (t, findingAt arena resolver template node) else none
    | none => none

/-- The matches of one file. -/
def fileMatches (arena : Arena) (set : TemplateSet) (resolver : Source.Resolver) : List FileMatch :=
  (arena.nodes.toList.zipIdx.flatMap fun (node, position) ↦ matchNode arena set resolver position node).mergeSort
    notAfter

/-- The insight of a template with its findings. -/
def insightOf (template : Template) (results : List Finding) : Insight where
  template := template.name
  description := template.description
  severity := template.severity
  references := template.references
  actionItems := template.actionItems
  results := results

/-- The findings that files contribute to the template at a position. -/
def bucket (partials : List (List FileMatch)) (t : Nat) : List Finding :=
  partials.flatMap fun matched ↦ matched.filterMap fun (u, finding) ↦ if u == t then some finding else none

/-- Insights in the order of the templates; one without findings is left out. -/
def gather (set : TemplateSet) (partials : List (List FileMatch)) : List Insight :=
  set.templates.zipIdx.filterMap fun (template, t) ↦
    match bucket partials t with
    | [] => none
    | results => some (insightOf template results)

structure Stats where
  filesMatched : Nat := 0
  filesFailed : Nat := 0
  results : Nat := 0
  failedFiles : List Path := []
  deriving DecidableEq, Repr

def totalResults : List Insight → Nat
  | [] => 0
  | insight :: rest => insight.results.length + totalResults rest

/-- Matches every file against every template. -/
def run (arenas : List Arena) (set : TemplateSet) (resolver : Source.Resolver) : List Insight × Stats :=
  let insights := gather set (arenas.map fun arena ↦ fileMatches arena set resolver)
  (insights, { filesMatched := arenas.length, results := totalResults insights })

end SolAudit.Match
