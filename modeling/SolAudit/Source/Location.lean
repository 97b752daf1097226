import SolAudit.Disk
import SolAudit.Source.Range
import SolAudit.Source.Table

/-!
# Locations in source files

A source range becomes a span of one line: lines and columns count from one and columns count bytes. A
range that goes on to later lines ends at the end of its first line.
-/

namespace SolAudit.Source

structure Span where
  path : Path
  line : Nat
  startColumn : Nat
  endColumn : Nat
  deriving DecidableEq, Repr

/-- Why a well-formed range has no place. -/
inductive OutOfRange where
  | generatedCode
  | noFile (index : Nat)
  | unreadable (path : Path)
  | tooShort (path : Path) (bytes : Nat)
  deriving DecidableEq, Repr

def OutOfRange.reason : OutOfRange → String
  | .generatedCode => "range points at generated code"
  | .noFile index => s!"no file with index {index}"
  | .unreadable path => s!"cannot read {path.text}"
  | .tooShort path bytes => s!"{path.text} has only {bytes} bytes"

inductive LocationError where
  | malformed (src : String)
  | outOfRange (src : String) (cause : OutOfRange)
  deriving DecidableEq, Repr

def LocationError.message : LocationError → String
  | .malformed src => (RangeError.malformed src).message
  | .outOfRange src cause => s!"source range '{src}' is out of range: {cause.reason}"

/-- Where the lines of a text start, and its size in bytes. -/
structure LineTable where
  starts : List Nat
  size : Nat
  deriving DecidableEq, Repr

/-- The positions just after the line feeds of a text that starts at a position. -/
def lineStarts (position : Nat) : List UInt8 → List Nat
  | [] => []
  | byte :: rest =>
    if byte == 10 then (position + 1) :: lineStarts (position + 1) rest
    else lineStarts (position + 1) rest

namespace LineTable

def ofBytes (bytes : List UInt8) : LineTable := ⟨0 :: lineStarts 0 bytes, bytes.length⟩

def ofText (text : String) : LineTable := ofBytes text.toUTF8.toList

/-- The number of the line that holds a byte. -/
def lineOf (table : LineTable) (offset : Nat) : Nat := table.starts.countP (· ≤ offset)

/-- The span of a range inside the text. -/
def spanOf (table : LineTable) (path : Path) (offset stop : Nat) : Span :=
  let line := table.lineOf offset
  let start := table.starts.getD (line - 1) 0
  let startColumn := offset - start + 1
  let endColumn :=
    if table.lineOf stop == line then stop - start + 1
    else table.starts.getD line 0 - start
  { path, line, startColumn, endColumn := max endColumn startColumn }

end LineTable

/-- The lines of a file: of the text the compiler output holds, or else of the text on disk. -/
def File.lines? (file : File) (disk : Disk) : Option LineTable :=
  match file.content with
  | some text => some (LineTable.ofText text)
  | none =>
    match disk.readText file.path with
    | .ok text => some (LineTable.ofText text)
    | .error _ => none

/-- The file that a range lies in. -/
def fileOf (table : Table) (src : String) : Except LocationError (Range × Nat × File) :=
  match Range.ofChars? src.toList with
  | none => .error (.malformed src)
  | some range =>
    match range.fileIndex with
    | none => .error (.outOfRange src .generatedCode)
    | some index =>
      match table.get? index with
      | none => .error (.outOfRange src (.noFile index))
      | some file => .ok (range, index, file)

/-- The span of a range, given the lines of each file. -/
def locateIn (table : Table) (lines : Nat → Option LineTable) (src : String) :
    Except LocationError Span := do
  let (range, index, file) ← fileOf table src
  match lines index with
  | none => .error (.outOfRange src (.unreadable file.path))
  | some lines =>
    if range.stop > lines.size then .error (.outOfRange src (.tooShort file.path lines.size))
    else .ok (lines.spanOf file.path range.offset range.stop)

/-- A table together with what is known of its files: each is read when a range in it is first looked up,
and what was found then, or that it could not be read, stays. -/
structure Resolver where
  table : Table
  known : List (Nat × Option LineTable)

namespace Resolver

def ofTable (table : Table) : Resolver := ⟨table, []⟩

def lines (resolver : Resolver) (index : Nat) : Option LineTable :=
  (resolver.known.lookup index).getD none

/-- Reads a file that is not known yet. -/
def learn (resolver : Resolver) (disk : Disk) (index : Nat) (file : File) : Resolver :=
  if (resolver.known.lookup index).isSome then resolver
  else { resolver with known := (index, file.lines? disk) :: resolver.known }

/-- The span of a range, and the resolver that knows its file. -/
def resolve (resolver : Resolver) (disk : Disk) (src : String) :
    Except LocationError Span × Resolver :=
  match fileOf resolver.table src with
  | .error e => (.error e, resolver)
  | .ok (_, index, file) =>
    let resolver := resolver.learn disk index file
    (locateIn resolver.table resolver.lines src, resolver)

/-- A resolver that knows every file of its table as it is on disk. -/
def ofDisk (table : Table) (disk : Disk) : Resolver :=
  ⟨table, table.files.map fun (index, file) ↦ (index, file.lines? disk)⟩

/-- The span of a range in the files that are known. -/
def locate? (resolver : Resolver) (src : String) : Option Span :=
  (locateIn resolver.table resolver.lines src).toOption

end Resolver

end SolAudit.Source
