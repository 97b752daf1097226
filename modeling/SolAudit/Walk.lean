import SolAudit.Disk

/-!
# Walking a directory

A walk calls back for the regular files below a path in level order: files nearer to the start first, and the entries of
one directory in ascending order. Links are not followed and excluded entries are not entered.
-/

namespace SolAudit.Walk

/-- An entry together with the path that leads to it. -/
abbrev Found := Path × Entry

/-- The entries of a directory in ascending order of their names. -/
def byName (entries : List (String × Entry)) : List (String × Entry) := entries.mergeSort fun a b ↦ !(b.1 < a.1)

/-- What is found in a directory, in ascending order. -/
def children (path : Path) (entries : List (String × Entry)) : List Found :=
  (byName entries).map fun (name, entry) ↦ (path.join ⟨name⟩, entry)

mutual

def entrySize : Entry → Nat
  | .dir entries => entriesSize entries + 1
  | _ => 1

def entriesSize : List (String × Entry) → Nat
  | [] => 0
  | (_, entry) :: rest => entrySize entry + entriesSize rest

end

def queueSize : List Found → Nat
  | [] => 0
  | found :: queue => entrySize found.2 + queueSize queue

theorem entrySize_pos (entry : Entry) : 0 < entrySize entry := by
  cases entry <;> simp [entrySize]

theorem queueSize_append (a b : List Found) : queueSize (a ++ b) = queueSize a + queueSize b := by
  induction a with
  | nil => simp [queueSize]
  | cons found a ih => simp only [List.cons_append, queueSize, ih]; omega

theorem queueSize_perm {a b : List Found} (h : a.Perm b) : queueSize a = queueSize b := by
  induction h with
  | nil => rfl
  | cons found _ ih => simp only [queueSize, ih]
  | swap a b queue => simp only [queueSize]; omega
  | trans _ _ ih₁ ih₂ => exact ih₁.trans ih₂

theorem queueSize_map (path : Path) (entries : List (String × Entry)) :
    queueSize (entries.map fun (name, entry) ↦ (path.join ⟨name⟩, entry)) = entriesSize entries := by
  induction entries with
  | nil => simp [queueSize, entriesSize]
  | cons e rest ih => simp only [List.map_cons, queueSize, entriesSize, ih]

theorem queueSize_children (path : Path) (entries : List (String × Entry)) :
    queueSize (children path entries) = entriesSize entries := by
  rw [← queueSize_map path entries, children]
  exact queueSize_perm ((List.mergeSort_perm entries _).map _)

/-- Takes the first entry of the queue: a file is called back for, the entries of a directory join the queue. -/
def visitQueue {m : Type → Type} [Monad m] (excluded : Path → Bool) (callback : Path → m Unit) (visited : List Path)
    (queue : List Found) : m Unit :=
  match queue with
  | [] => pure ()
  | (path, entry) :: rest =>
    if visited.any path.same then visitQueue excluded callback visited rest
    else if excluded path then visitQueue excluded callback (path :: visited) rest
    else
      match entry with
      | .file _ => do
        callback path
        visitQueue excluded callback (path :: visited) rest
      | .link _ => visitQueue excluded callback (path :: visited) rest
      | .dir entries => visitQueue excluded callback (path :: visited) (rest ++ children path entries)
termination_by queueSize queue
decreasing_by
  · have := entrySize_pos entry
    simp only [queueSize]
    omega
  · have := entrySize_pos entry
    simp only [queueSize]
    omega
  · simp [queueSize, entrySize]
  · simp [queueSize, entrySize]
  · simp only [queueSize_append, queueSize_children, queueSize, entrySize]
    omega

/-- Walks from a path, with `failed` for the reason why there is nothing at it. An excluded path is not looked at. -/
def visit {m : Type → Type} [Monad m] (disk : Disk) (start : Path) (excluded : Path → Bool)
    (failed : DiskError → m Unit) (callback : Path → m Unit) : m Unit :=
  if excluded start then pure ()
  else
    match disk.linkEntry start with
    | .ok entry => visitQueue excluded callback [] [(start, entry)]
    | .error cause => failed cause

/-- The files that a walk calls back for, or why there is nothing at the start. -/
def filesBelow (disk : Disk) (start : Path) (excluded : Path → Bool) : Except DiskError (List Path) :=
  let walk : StateT (List Path) (Except DiskError) Unit :=
    visit disk start excluded (fun cause ↦ throw cause) fun path ↦ modify (· ++ [path])
  return (← walk.run []).2

/-- The paths up to and including the first that stops the walk, and whether one did. -/
def takeThrough (stops : Path → Bool) : List Path → List Path × Bool
  | [] => ([], false)
  | path :: rest =>
    if stops path then ([path], true)
    else
      let (taken, stopped) := takeThrough stops rest
      (path :: taken, stopped)

end SolAudit.Walk
