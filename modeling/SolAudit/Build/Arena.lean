import Std.Data.HashSet
import SolAudit.Build.RawTree

/-!
# Building arenas

The nodes of a raw tree are checked and pushed in pre-order, and the first that fails a check fails its file.
Node ids are unique in a run: a registry holds the ids of the files that were built. A node of an unknown type
may lack an id, and then gets the next negative number.
-/

namespace SolAudit.Build

open Ast

/-- A file's syntax tree in canonical form. -/
structure SourceTree where
  index : Nat
  path : Path
  ast : Json

inductive BuildError where
  | missingField (file : Path) (id : Option Int) (tag : String) (field : String)
  | invalidField (file : Path) (id : Option Int) (tag : String) (field : String) (value : String)
  | duplicateId (file : Path) (id : Int) (tag : String)
  | invalidRoot (file : Path) (found : String)
  deriving DecidableEq, Repr

namespace BuildError

def file : BuildError → Path
  | .missingField file .. => file
  | .invalidField file .. => file
  | .duplicateId file .. => file
  | .invalidRoot file .. => file

def idText : Option Int → String
  | some id => s!"#{id}"
  | none => "without id"

def message : BuildError → String
  | .missingField file id tag field =>
    s!"{file.text}: {tag} node {idText id} is missing required field '{field}'"
  | .invalidField file id tag field value =>
    s!"{file.text}: {tag} node {idText id} has invalid '{field}': {value}"
  | .duplicateId file id tag => s!"{file.text}: node id {id} ({tag}) is already used"
  | .invalidRoot file found => s!"{file.text}: tree root is {found}, expected SourceUnit"

def ofFault (file : Path) (raw : RawNode) : FieldFault → BuildError
  | .missing key => .missingField file raw.id? raw.tag key
  | .invalid key value => .invalidField file raw.id? raw.tag key value

end BuildError

/-- The ids in use, and the last number given to a node without id. -/
structure Registry where
  seen : Std.HashSet Int := ∅
  lastSynthetic : Int := 0

namespace Registry

def contains (registry : Registry) (id : Int) : Bool := registry.seen.contains id

end Registry

/-- An arena on its way, with the ids in use so far. -/
structure Progress where
  arena : Arena
  registry : Registry

/-- The id of a node, and the registry that knows the numbers given. -/
def takeId (registry : Registry) (raw : RawNode) (known : Bool) : Except FieldFault Int × Registry :=
  match raw.id? with
  | some id => (.ok id, registry)
  | none =>
    if known then (.error (.missing "id"), registry)
    else
      let id := registry.lastSynthetic - 1
      (.ok id, { registry with lastSynthetic := id })

/-- Checks a node and pushes it: its fields, its id, its range and its required slots, in this order. On
failure only the numbers given to nodes without id remain of it. -/
def step (file : Path) (progress : Progress) (visit : RawTree.Visit) :
    Except BuildError Unit × Progress :=
  let raw := visit.raw
  let schema := Schema.find? raw.tag
  let fault (registry : Registry) (e : FieldFault) : Except BuildError Unit × Progress :=
    (.error (.ofFault file raw e), { progress with registry })
  match raw.kind schema with
  | .error e => fault progress.registry e
  | .ok kind =>
    match takeId progress.registry raw schema.isSome with
    | (.error e, registry) => fault registry e
    | (.ok id, registry) =>
      if registry.contains id then
        (.error (.duplicateId file id raw.tag), { progress with registry })
      else
        let src? := if schema.isSome then raw.src? else some (raw.src?.getD "")
        match src? with
        | none => fault registry (.missing "src")
        | some src =>
          match raw.missingSlot? schema with
          | some slot => fault registry (.missing slot)
          | none =>
            let node : Node := { id, src, kind, typeString := raw.typeString? }
            (.ok (), {
              arena := progress.arena.push visit.parent visit.slot node
              registry := { registry with seen := registry.seen.insert id } })

/-- Takes the steps of a list up to the first that fails. -/
def steps (file : Path) (progress : Progress) : List RawTree.Visit → Except BuildError Unit × Progress
  | [] => (.ok (), progress)
  | visit :: rest =>
    match step file progress visit with
    | (.error e, progress) => (.error e, progress)
    | (.ok (), progress) => steps file progress rest

/-- What stands at the root of a tree. -/
def rootName (json : Json) : String :=
  match RawNode.ofJson? json with
  | some raw => raw.tag
  | none => "a non-node value"

/-- Builds one file. The ids of a file that fails are not in use afterwards. -/
def buildFile (source : SourceTree) (registry : Registry) : Except BuildError Arena × Registry :=
  match (RawTree.ofJson? source.ast).filter fun tree ↦ tree.raw.tag == "SourceUnit" with
  | none => (.error (.invalidRoot source.path (rootName source.ast)), registry)
  | some tree =>
    let start : Arena := { fileIndex := source.index, path := source.path }
    match steps source.path ⟨start, registry⟩ tree.preorder with
    | (.ok (), progress) => (.ok progress.arena.finish, progress.registry)
    | (.error e, progress) =>
      (.error e, { registry with lastSynthetic := progress.registry.lastSynthetic })

/-- The files that were built and the errors of the others, each in source order. -/
structure Output where
  roots : List Arena
  failures : List BuildError

/-- Builds files one after the other with one registry. -/
def buildFrom (registry : Registry) : List SourceTree → Output
  | [] => ⟨[], []⟩
  | source :: rest =>
    match buildFile source registry with
    | (.ok arena, registry) =>
      let output := buildFrom registry rest
      { output with roots := arena :: output.roots }
    | (.error e, registry) =>
      let output := buildFrom registry rest
      { output with failures := e :: output.failures }

def build (sources : List SourceTree) : Output := buildFrom {} sources

end SolAudit.Build
