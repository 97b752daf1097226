import SolAudit.Path

/-!
# Files on disk

A disk is a tree of directories, files and symbolic links, with a working directory. A path names an entry
by the usual steps: a link is followed at every step but possibly the last, and a trailing slash asks for a
directory.
-/

namespace SolAudit

/-- What a directory holds under a name. -/
inductive Entry where
  | file (content : ByteArray)
  | link (target : String)
  | dir (entries : List (String × Entry))

inductive DiskError where
  | notFound
  | notDirectory
  | isDirectory
  | tooManyLinks
  | notText
  deriving DecidableEq, Repr

structure Disk where
  root : Entry
  workingDir : List String

namespace Entry

def emptyDir : Entry := .dir []

def child? (name : String) : List (String × Entry) → Option Entry
  | [] => none
  | (n, e) :: rest => if n == name then some e else child? name rest

/-- The entry at the end of a list of names, without following links. -/
def at? : Entry → List String → Option Entry
  | entry, [] => some entry
  | .dir entries, name :: names => (child? name entries).bind fun entry ↦ entry.at? names
  | _, _ :: _ => none

def setChild (name : String) (entry : Entry) : List (String × Entry) → List (String × Entry)
  | [] => [(name, entry)]
  | (n, e) :: rest => if n == name then (n, entry) :: rest else (n, e) :: setChild name entry rest

/-- Replaces the entry at the end of a list of names below existing directories. -/
def put (entry : Entry) : List String → Entry → Entry
  | [], _ => entry
  | name :: names, .dir entries =>
    .dir (setChild name (entry.put names ((child? name entries).getD emptyDir)) entries)
  | _ :: _, other => other

/-- Removes the entry at the end of a list of names. -/
def remove : List String → Entry → Entry
  | [], entry => entry
  | [name], .dir entries => .dir (entries.filter (·.1 != name))
  | name :: names, .dir entries =>
    match child? name entries with
    | some inner => .dir (setChild name (remove names inner) entries)
    | none => .dir entries
  | _ :: _, other => other

end Entry

namespace Disk

def empty : Disk := ⟨.dir [("work", Entry.emptyDir)], ["work"]⟩

/-- Links that may be followed on the way to one entry. -/
def linkLimit : Nat := 40

/-- The steps of a path: names, dots, and a last dot for a trailing slash. -/
def steps (text : String) : List String :=
  let parts := (Path.mk text).parts
  let names := parts.filter (· != "")
  if text.endsWith "/" then names ++ ["."] else names

/-- The names, from the root, of the entry reached by taking the steps at a place. -/
def follow (root : Entry) (followLast : Bool) (links : Nat) (place : List String) (todo : List String) :
    Except DiskError (List String) :=
  match todo with
  | [] => .ok place
  | step :: rest =>
    match root.at? place with
    | some (.dir entries) =>
      if step == "." then follow root followLast links place rest
      else if step == ".." then follow root followLast links place.dropLast rest
      else
        match Entry.child? step entries with
        | none => .error .notFound
        | some (.link target) =>
          if rest.isEmpty && !followLast then .ok (place ++ [step])
          else
            match links with
            | 0 => .error .tooManyLinks
            | links + 1 =>
              let start := if target.startsWith "/" then [] else place
              follow root followLast links start (steps target ++ rest)
        | some _ => follow root followLast links (place ++ [step]) rest
    | some _ => .error .notDirectory
    | none => .error .notFound
termination_by (links, todo.length)

/-- The names, from the root, of the entry that a path stands for. -/
def locate (disk : Disk) (followLast : Bool) (path : Path) : Except DiskError (List String) :=
  if path.text == "" then .error .notFound
  else
    let start := if path.isAbsolute then [] else disk.workingDir
    follow disk.root followLast linkLimit start (steps path.text)

def entryAt (disk : Disk) (followLast : Bool) (path : Path) : Except DiskError Entry := do
  let place ← disk.locate followLast path
  match disk.root.at? place with
  | some entry => .ok entry
  | none => .error .notFound

/-- The entry a path stands for, a link at its end not followed. -/
def linkEntry (disk : Disk) (path : Path) : Except DiskError Entry := disk.entryAt false path

/-- The entry a path stands for, links followed. -/
def entry (disk : Disk) (path : Path) : Except DiskError Entry := disk.entryAt true path

def isDir (disk : Disk) (path : Path) : Bool :=
  match disk.entry path with
  | .ok (.dir _) => true
  | _ => false

def hasEntry (disk : Disk) (path : Path) : Bool :=
  match disk.entry path with
  | .ok _ => true
  | .error _ => false

def readBytes (disk : Disk) (path : Path) : Except DiskError ByteArray :=
  match disk.entry path with
  | .ok (.file content) => .ok content
  | .ok _ => .error .isDirectory
  | .error e => .error e

/-- The text of a file in UTF-8. -/
def readText (disk : Disk) (path : Path) : Except DiskError String := do
  let content ← disk.readBytes path
  match String.fromUTF8? content with
  | some text => .ok text
  | none => .error .notText

/-- The disk with an entry at a place below existing directories. -/
def putAt (disk : Disk) (place : List String) (entry : Entry) : Disk :=
  { disk with root := Entry.put entry place disk.root }

/-- Takes the steps from a place, making the directories that are missing. -/
def makeDirs (disk : Disk) (place : List String) : List String → Disk × List String
  | [] => (disk, place)
  | step :: rest =>
    match follow disk.root true linkLimit place [step] with
    | .ok inner => disk.makeDirs inner rest
    | .error _ => (disk.putAt (place ++ [step]) Entry.emptyDir).makeDirs (place ++ [step]) rest

/-- The disk with a directory at a path, made where it is missing. -/
def storeDir (disk : Disk) (path : Path) : Disk :=
  let start := if path.isAbsolute then [] else disk.workingDir
  (disk.makeDirs start (steps path.text)).1

/-- The disk with an entry at a path, in directories made where they are missing. -/
def store (disk : Disk) (path : Path) (entry : Entry) : Disk :=
  let names := steps path.text
  let start := if path.isAbsolute then [] else disk.workingDir
  let (disk, parent) := disk.makeDirs start names.dropLast
  match names.getLast? with
  | some name => disk.putAt (parent ++ [name]) entry
  | none => disk

/-- Writes a file, over the file there if there is one. Its directory must exist. -/
def write (disk : Disk) (path : Path) (content : ByteArray) : Except DiskError Disk :=
  match disk.locate true path with
  | .ok place =>
    match disk.root.at? place with
    | some (.dir _) => .error .isDirectory
    | _ => .ok (disk.putAt place (.file content))
  | .error .notFound => do
    let names := steps path.text
    let start := if path.isAbsolute then [] else disk.workingDir
    let parent ← follow disk.root true linkLimit start names.dropLast
    match disk.root.at? parent, names.getLast? with
    | some (.dir _), some name =>
      if name == "." || name == ".." then .error .isDirectory
      else .ok (disk.putAt (parent ++ [name]) (.file content))
    | some (.dir _), none => .error .notFound
    | _, _ => .error .notDirectory
  | .error e => .error e

/-- Removes the entry at a path, if there is one. -/
def delete (disk : Disk) (path : Path) : Disk :=
  match disk.locate false path with
  | .ok place => { disk with root := Entry.remove place disk.root }
  | .error _ => disk

end Disk

end SolAudit
