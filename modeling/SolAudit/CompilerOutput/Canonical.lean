import SolAudit.Build.Arena
import SolAudit.CompilerOutput.Shape
import SolAudit.Disk
import SolAudit.Json.Reader
import SolAudit.Source.Table

/-!
# Canonical compiler output

A document of any shape gives a list of claims, each of an index for a file and possibly with a syntax tree. Taken
one after the other they fill the source table and list the trees; an index stands for one file only.
-/

namespace SolAudit.CompilerOutput

open Build (SourceTree)

/-- Why a document is not compiler output. -/
inductive Malformed where
  | notJson
  | noShape
  | notObject (pointer : String)
  | noFileId (key : String)
  | nonNumericId (id : String)
  | noPath (id : String)
  | sharedIndex (index : Nat) (first second : String)
  deriving DecidableEq, Repr

def Malformed.reason : Malformed → String
  | .notJson => "not a JSON document"
  | .noShape => "no recognizable compiler output shape"
  | .notObject pointer => s!"'{pointer}' is not an object"
  | .noFileId key => s!"source '{key}' has no file id"
  | .nonNumericId id => s!"non-numeric source id '{id}'"
  | .noPath id => s!"source id {id} has no path"
  | .sharedIndex index first second =>
    s!"file index {index} assigned to both '{first}' and '{second}'"

inductive InputError where
  | malformed (cause : Malformed)
  | unreadable (path : Path) (cause : DiskError)
  deriving DecidableEq, Repr

def InputError.message : InputError → String
  | .malformed cause => s!"malformed input: {cause.reason}"
  | .unreadable path _ => s!"failed to read {path.text}"

/-- A file and the index it is given, with what stands where its tree should. -/
structure Claim where
  index : Nat
  key : String
  tree : Option Json

/-- Claims in the order in which they are made. A fault counts when the claims before it hold. -/
abbrev Claims := List (Except Malformed Claim)

def entryIndex? (entry : Json) : Option Nat := (entry.get? "id").bind Json.index?

def sourceList (doc : Json) : List String :=
  (((doc.get? "sourceList").bind Json.items?).getD []).filterMap Json.string?

/-- An entry's own index, else its place in the source list, else its place among the entries. -/
def combinedClaim (list : List String) (place : Nat) (key : String) (entry : Json) : Claim :=
  let index := match entryIndex? entry with
    | some index => index
    | none => (list.idxOf? key).getD place
  { index, key, tree := combinedTree? entry }

/-- Listed files without an entry come first. -/
def combinedClaims (doc : Json) : Claims :=
  match (doc.get? "sources").bind Json.members? with
  | none => [.error (.notObject "/sources")]
  | some sources =>
    let list := sourceList doc
    let listed := list.zipIdx.filter fun (key, _) ↦ (sources.get? key).isNone
    (listed.map fun (key, index) ↦ .ok { index, key, tree := none }) ++
      sources.zipIdx.map fun ((key, entry), place) ↦ .ok (combinedClaim list place key entry)

def hardhatClaims (doc : Json) : Claims :=
  match outputSources? doc with
  | none => [.error (.notObject "/output/sources")]
  | some sources =>
    sources.map fun (key, entry) ↦
      match entryIndex? entry with
      | some index => .ok { index, key, tree := entry.get? "ast" }
      | none => .error (.noFileId key)

/-- An entry of the map from indexes to files. -/
def numberedFile (id : String) (file : Json) : Except Malformed (Nat × String) :=
  match Text.unsigned? Text.indexBound id.toList with
  | none => .error (.nonNumericId id)
  | some index =>
    match file.string? with
    | none => .error (.noPath id)
    | some key => .ok (index, key)

/-- In ascending order of indexes and, at one index, of keys. -/
def sortNumbered (files : List (Nat × String)) : List (Nat × String) :=
  files.mergeSort fun a b ↦ a.1 < b.1 || (a.1 == b.1 && !(b.2 < a.2))

/-- The files of the map from indexes to files, in index order. -/
def numberedFiles (doc : Json) : Except Malformed (List (Nat × String)) :=
  match (doc.get? "source_id_to_path").bind Json.members? with
  | none => .ok []
  | some entries => sortNumbered <$> entries.mapM fun (id, file) ↦ numberedFile id file

/-- The greatest index that a file has in the map. -/
def numberOf? (files : List (Nat × String)) (key : String) : Option Nat :=
  (files.reverse.find? fun file ↦ file.2 == key).map Prod.fst

/-- The claim of an entry, unless it is a list without a file in it. -/
def foundryClaim? (numbered : List (Nat × String)) (key : String) (entry : Json) :
    Option (Except Malformed Claim) :=
  let file? := match entry with
    | .arr _ => versionedFile? entry
    | other => some other
  file?.map fun file ↦
    let index? := match numberOf? numbered key with
      | some index => some index
      | none => entryIndex? file
    match index? with
    | some index => .ok { index, key, tree := file.get? "ast" }
    | none => .error (.noFileId key)

def foundryClaims (doc : Json) : Claims :=
  match numberedFiles doc with
  | .error fault => [.error fault]
  | .ok numbered =>
    let entries := (outputSources? doc).getD []
    (numbered.map fun (index, key) ↦ .ok { index, key, tree := none }) ++
      entries.filterMap fun (key, entry) ↦ foundryClaim? numbered key entry

def claims (doc : Json) : Shape → Claims
  | .combinedJson => combinedClaims doc
  | .hardhatBuildInfo => hardhatClaims doc
  | .foundryBuildInfo => foundryClaims doc

/-- What the claims so far have given. -/
structure Collection where
  claimed : List (Nat × String) := []
  sources : List SourceTree := []
  table : Source.Table := .empty

/-- The text of a file that the document holds. -/
def contentOf? (doc : Json) (key : String) : Option String :=
  (doc.path? ["input", "sources", key, "content"]).bind Json.string?

/-- Lists the tree of a claim, if it has one. -/
def Collection.addTree (out : Collection) (claim : Claim) (path : Path) : Collection :=
  match claim.tree with
  | some (.obj members) =>
    { out with sources := { index := claim.index, path, ast := .obj members } :: out.sources }
  | _ => out

/-- Takes a claim. The same claim may be made twice. -/
def Collection.add (out : Collection) (doc : Json) (root : Path) (claim : Claim) :
    Except Malformed Collection :=
  let path := root.join ⟨claim.key⟩
  match out.claimed.lookup claim.index with
  | some key =>
    if key == claim.key then .ok (out.addTree claim path)
    else .error (.sharedIndex claim.index key claim.key)
  | none =>
    let file : Source.File := { path, content := contentOf? doc claim.key }
    let out := { out with
      claimed := (claim.index, claim.key) :: out.claimed
      table := out.table.insert claim.index file }
    .ok (out.addTree claim path)

def collect (doc : Json) (root : Path) (out : Collection) : Claims → Except Malformed Collection
  | [] => .ok out
  | .error fault :: _ => .error fault
  | .ok claim :: rest => do
    let out ← out.add doc root claim
    collect doc root out rest

/-- The trees of a document in index order, and the table of all its files. -/
structure Canonical where
  shape : Shape
  sources : List SourceTree
  table : Source.Table

/-- Reads a document; relative paths are taken from `root`. -/
def canonicalOf (doc : Json) (root : Path) : Except Malformed Canonical :=
  match detect? doc with
  | none => .error .noShape
  | some shape => do
    let out ← collect doc root {} (claims doc shape)
    let sources := out.sources.reverse.mergeSort fun a b ↦ a.index ≤ b.index
    return { shape, sources, table := out.table }

def canonicalOfText (text : String) (root : Path) : Except Malformed Canonical :=
  match Json.parse text with
  | some doc => canonicalOf doc root
  | none => .error .notJson

def canonicalOfFile (disk : Disk) (path root : Path) : Except InputError Canonical :=
  match disk.readText path with
  | .error e => .error (.unreadable path e)
  | .ok text => (canonicalOfText text root).mapError .malformed

end SolAudit.CompilerOutput
