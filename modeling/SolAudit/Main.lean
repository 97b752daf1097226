import SolAudit.Cli.Run

/-!
# The program

Copies the files that a run needs into a disk, runs on it, and carries out what comes of it.
-/

namespace SolAudit.Cli

/-- Variables that a run looks at. -/
def variableNames : List String :=
  ["HOME", "NO_COLOR", "CLICOLOR", "CLICOLOR_FORCE", "TERM", "CI", "CONTINUOUS_INTEGRATION"]

def readEnvironment : IO Environment := do
  let vars ← variableNames.filterMapM fun name ↦ do
    return (← IO.getEnv name).map fun value ↦ (name, value)
  return { vars, terminal := ← (← IO.getStdout).isTty }

/-- Copies what is at a path, and what is below it. A link below it is copied without what it leads to. -/
partial def copyEntry (disk : Disk) (path : String) (followLink : Bool) : IO Disk := do
  let place := (← IO.currentDir) / path
  let kind ← try pure (some (← place.symlinkMetadata).type) catch _ => pure none
  match kind with
  | none => return disk
  | some .symlink =>
    let target := toString (← IO.FS.realPath place)
    let disk := disk.store ⟨path⟩ (.link target)
    if followLink then copyEntry disk target false else return disk
  | some .dir =>
    let mut disk := disk.storeDir ⟨path⟩
    for entry in ← place.readDir do
      disk ← copyEntry disk (Path.join ⟨path⟩ ⟨entry.fileName⟩).text false
    return disk
  | some _ => return disk.store ⟨path⟩ (.file (← IO.FS.readBinFile place))

/-- Copies what is at paths. One that cannot be read is left out. -/
def copyAll (disk : Disk) (paths : List Path) : IO Disk :=
  paths.foldlM (fun disk path ↦ do try copyEntry disk path.text true catch _ => return disk) disk

/-- Copies the directory that a file is to be written in, without what is in it. -/
def copyOutputDir (disk : Disk) (file : Path) : IO Disk := do
  let place := (← IO.currentDir) / file.text
  if ← place.isDir then return disk.storeDir file
  match place.parent with
  | some parent => if ← parent.isDir then return disk.storeDir ⟨toString parent⟩ else return disk
  | none => return disk

/-- Some of the paths that a run needs are only known from files that it needs. -/
def copyNeeded (disk : Disk) (env : Environment) (task : Task) : IO Disk := do
  let disk ← copyAll disk (wanted disk env task)
  let disk ← copyAll disk (wanted disk env task)
  (outputFile? task).elim (pure disk) (copyOutputDir disk)

def workingDisk : IO Disk := do
  let place : Path := ⟨toString (← IO.currentDir)⟩
  let names := Disk.steps place.text
  return { root := (Disk.storeDir ⟨Entry.emptyDir, []⟩ place).root, workingDir := names }

def conclude (outcome : Outcome) : IO UInt32 := do
  IO.eprint outcome.stderr
  if let some (path, text) := outcome.written then IO.FS.writeFile path.text text
  IO.print outcome.stdout
  return outcome.exit.toUInt32

end SolAudit.Cli

open SolAudit.Cli in
def main (arguments : List String) : IO UInt32 := do
  match Invocation.read arguments with
  | .error stop => conclude stop.outcome
  | .ok invocation =>
    let start ← IO.monoMsNow
    let env ← readEnvironment
    let disk ← copyNeeded (← workingDisk) env invocation.task
    let progress ← IO.lazyPure fun _ ↦ perform disk env invocation
    conclude (progress.outcome disk (toString ((← IO.monoMsNow) - start)))
