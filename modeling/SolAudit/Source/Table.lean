import SolAudit.Path

/-!
# Source tables

The files of a compiler run by the index that the compiler gave them. Indexes may be sparse. The first file
at an index stays.
-/

namespace SolAudit.Source

/-- A source file: its path and, where the compiler output holds it, its text. -/
structure File where
  path : Path
  content : Option String
  deriving DecidableEq, Repr

/-- Files in ascending order of their indexes. -/
structure Table where
  files : List (Nat × File)
  deriving DecidableEq, Repr

namespace Table

def empty : Table := ⟨[]⟩

def get? (table : Table) (index : Nat) : Option File := table.files.lookup index

def path? (table : Table) (index : Nat) : Option Path := (table.get? index).map File.path

def size (table : Table) : Nat := table.files.length

/-- Puts an entry before the first with a greater index. -/
def place (index : Nat) (file : File) : List (Nat × File) → List (Nat × File)
  | [] => [(index, file)]
  | (i, f) :: rest =>
    if index < i then (index, file) :: (i, f) :: rest else (i, f) :: place index file rest

/-- Adds a file at an index, or returns `none` if there is one. -/
def insert? (table : Table) (index : Nat) (file : File) : Option Table :=
  if (table.get? index).isSome then none else some ⟨place index file table.files⟩

/-- Adds a file at an index unless there is one. -/
def insert (table : Table) (index : Nat) (file : File) : Table :=
  (table.insert? index file).getD table

end Table

end SolAudit.Source
