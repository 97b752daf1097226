import Mathlib.Data.List.Sort
import SolAudit.Walk
import SolAudit.Proofs.Disk

/-!
# Walks in level order

What waits in the queue of a walk ascends in level order, comes after all that was taken and before whatever can still
join it (`Levelled`). So nothing is visited twice, and what is found ascends too (`exists_walksOver`). The files are those
that a path leads to through directories (`Reaches`), which says nothing of the order in which a directory lists its
entries.
-/

namespace SolAudit.Walk

/-- Fewer names come first, and as many names in their own order, name by name. -/
def Precedes (a b : List String) : Prop := a.length < b.length ∨ a.length = b.length ∧ a < b

theorem lt_append_of_lt {a b : List String} (hlength : a.length = b.length) (h : a < b) (more other : List String) :
    a ++ more < b ++ other := by
  induction a generalizing b with
  | nil =>
    cases b with
    | nil => exact absurd h (List.lt_irrefl _)
    | cons => cases hlength
  | cons name a ih =>
    cases b with
    | nil => cases hlength
    | cons name' b =>
      rw [List.cons_append, List.cons_append, List.cons_lt_cons_iff]
      rcases List.cons_lt_cons_iff.mp h with hname | ⟨rfl, hrest⟩
      · exact .inl hname
      · exact .inr ⟨rfl, ih (Nat.succ.inj hlength) hrest⟩

theorem lt_append_of_name_lt (a : List String) {name other : String} (h : name < other) :
    a ++ [name] < a ++ [other] := by
  induction a with
  | nil => exact List.cons_lt_cons_iff.mpr (.inl h)
  | cons first a ih => exact List.cons_lt_cons_iff.mpr (.inr ⟨rfl, ih⟩)

namespace Precedes

variable {a b c : List String}

theorem irrefl (a : List String) : ¬ Precedes a a := by
  rintro (h | ⟨-, h⟩)
  · exact absurd h (Nat.lt_irrefl _)
  · exact absurd h (List.lt_irrefl _)

theorem trans (hab : Precedes a b) (hbc : Precedes b c) : Precedes a c := by
  rcases hab with hab | ⟨hab, hlt⟩
  · rcases hbc with hbc | ⟨hbc, -⟩
    · exact .inl (by omega)
    · exact .inl (by omega)
  · rcases hbc with hbc | ⟨hbc, hlt'⟩
    · exact .inl (by omega)
    · exact .inr ⟨by omega, List.lt_trans hlt hlt'⟩

theorem concat (a : List String) (name : String) : Precedes a (a ++ [name]) := .inl (by simp)

/-- What is in an earlier directory comes before what is in a later one. -/
theorem concat_concat (h : Precedes a b) (name other : String) : Precedes (a ++ [name]) (b ++ [other]) := by
  rcases h with h | ⟨hlength, h⟩
  · exact .inl (by simpa using h)
  · exact .inr ⟨by simpa using hlength, lt_append_of_lt hlength h _ _⟩

theorem concat_of_lt (a : List String) {name other : String} (h : name < other) :
    Precedes (a ++ [name]) (a ++ [other]) :=
  .inr ⟨by simp, lt_append_of_name_lt a h⟩

end Precedes

/-- Names lead from a path to a file, through directories only and past nothing that is excluded. -/
inductive Reaches (disk : Disk) (excluded : Path → Bool) : Path → List String → Prop
  | file {path : Path} {content : ByteArray} (hpath : excluded path = false)
      (hfile : disk.linkEntry path = .ok (.file content)) : Reaches disk excluded path []
  | dir {path : Path} {entries : List (String × Entry)} {name : String} {names : List String}
      (hpath : excluded path = false) (hdir : disk.linkEntry path = .ok (.dir entries))
      (hname : name ∈ entries.map Prod.fst) (h : Reaches disk excluded (path.join ⟨name⟩) names) :
      Reaches disk excluded path (name :: names)

section

variable {disk : Disk} {excluded : Path → Bool} {path : Path} {names : List String}

theorem not_reaches_of_excluded (h : excluded path = true) : ¬ Reaches disk excluded path names := by
  rintro (⟨hpath, -⟩ | ⟨hpath, -, -, -⟩)
  · exact absurd (h.symm.trans hpath) (by decide)
  · exact absurd (h.symm.trans hpath) (by decide)

theorem not_reaches_of_link {target : String} (h : disk.linkEntry path = .ok (.link target)) :
    ¬ Reaches disk excluded path names := by
  rintro (⟨-, hfile⟩ | ⟨-, hdir, -, -⟩)
  · cases h.symm.trans hfile
  · cases h.symm.trans hdir

theorem reaches_file_iff (hpath : excluded path = false) {content : ByteArray}
    (h : disk.linkEntry path = .ok (.file content)) : Reaches disk excluded path names ↔ names = [] := by
  constructor
  · rintro (_ | ⟨-, hdir, -, -⟩)
    · rfl
    · cases h.symm.trans hdir
  · rintro rfl
    exact .file hpath h

theorem reaches_dir_iff (hpath : excluded path = false) {entries : List (String × Entry)}
    (h : disk.linkEntry path = .ok (.dir entries)) :
    Reaches disk excluded path names ↔
      ∃ name ∈ entries.map Prod.fst, ∃ rest, names = name :: rest ∧ Reaches disk excluded (path.join ⟨name⟩) rest := by
  constructor
  · rintro (⟨-, hfile⟩ | ⟨-, hdir, hname, hrest⟩)
    · cases h.symm.trans hfile
    · cases h.symm.trans hdir
      exact ⟨_, hname, _, rfl, hrest⟩
  · rintro ⟨name, hname, rest, rfl, hrest⟩
    exact .dir hpath h hname hrest

/-- The names of a file that is reached lead down the tree to it. -/
theorem Reaches.locate (hroot : disk.root.WellFormed) {place : List String}
    (hplace : disk.locate false path = .ok place) (h : Reaches disk excluded path names) :
    disk.locate false (path.descend names) = .ok (place ++ names) ∧
      ∃ content, disk.root.at? (place ++ names) = some (.file content) := by
  induction h generalizing place with
  | file _ hfile =>
    obtain ⟨_, hlocate, hat⟩ := Disk.entryAt_eq_ok_iff.mp hfile
    cases hplace.symm.trans hlocate
    rw [List.append_nil]
    exact ⟨hplace, _, hat⟩
  | dir _ hdir hname _ ih =>
    obtain ⟨_, hlocate, hat⟩ := Disk.entryAt_eq_ok_iff.mp hdir
    cases hplace.symm.trans hlocate
    obtain ⟨⟨name, entry⟩, hmem, rfl⟩ := List.mem_map.mp hname
    have hchild := (hroot.at? hat).child?_of_mem hmem
    rw [List.append_cons]
    exact ih (Disk.locate_join hplace hat ((hroot.at? hat).isName hchild) hchild)

theorem Reaches.not_excluded (h : Reaches disk excluded path names) :
    excluded path = false := by
  cases h with
  | file hpath _ => exact hpath
  | dir hpath _ _ _ => exact hpath

/-- What is reached does not depend on how the way to a directory is spelled, if what is excluded there does not. -/
theorem Reaches.of_place (hroot : disk.root.WellFormed)
    (hexcluded : ∀ (a b : Path) (name : String), Path.IsName name →
      excluded (a.join ⟨name⟩) = excluded (b.join ⟨name⟩)) {other : Path} {place : List String}
    (hpath : disk.locate false path = .ok place) (hother : disk.locate false other = .ok place)
    (hentered : excluded other = false) (h : Reaches disk excluded path names) : Reaches disk excluded other names := by
  have hsame : disk.linkEntry path = disk.linkEntry other := by simp only [Disk.linkEntry, Disk.entryAt, hpath, hother]
  induction h generalizing other place with
  | file _ hfile => exact .file hentered (hsame ▸ hfile)
  | @dir path entries name names _ hdir hname h ih =>
    obtain ⟨_, hlocate, hat⟩ := Disk.entryAt_eq_ok_iff.mp hdir
    cases hpath.symm.trans hlocate
    obtain ⟨⟨name, entry⟩, hmem, rfl⟩ := List.mem_map.mp hname
    have hchild := (hroot.at? hat).child?_of_mem hmem
    have hisName := (hroot.at? hat).isName hchild
    have hjoin := Disk.locate_join hpath hat hisName hchild
    have hjoin' := Disk.locate_join hother hat hisName hchild
    refine .dir hentered (hsame ▸ hdir) hname (ih hjoin hjoin' ?_ ?_)
    · rw [hexcluded other path name hisName]
      exact h.not_excluded
    · simp only [Disk.linkEntry, Disk.entryAt, hjoin, hjoin']

theorem Reaches.sameTree {other : Disk} (hsame : disk.SameTree other) (h : Reaches disk excluded path names) :
    Reaches other excluded path names := by
  induction h with
  | file hpath hfile =>
    obtain ⟨entry, hentry, htree⟩ := hsame.linkEntry hfile
    cases htree.eq_file
    exact .file hpath hentry
  | dir hpath hdir hname _ ih =>
    obtain ⟨entry, hentry, htree⟩ := hsame.linkEntry hdir
    obtain ⟨others, rfl⟩ := htree.exists_dir
    exact .dir hpath hentry ((htree.mem_names_iff _).mp hname) ih

end

/-- Names that are taken and names that wait: the waiting ones ascend, after all that are taken, and before whatever can
still join them. -/
structure Levelled (taken waiting : List (List String)) : Prop where
  ascending : waiting.Pairwise Precedes
  after_taken : ∀ a ∈ taken, ∀ b ∈ waiting, Precedes a b
  before_inner : ∀ a ∈ waiting, ∀ b ∈ waiting, ∀ name, Precedes a (b ++ [name])

namespace Levelled

variable {taken waiting : List (List String)} {names : List String}

theorem single (names : List String) : Levelled [] [names] where
  ascending := List.pairwise_singleton _ _
  after_taken := by simp
  before_inner := by
    intro a ha b hb name
    rw [List.mem_singleton] at ha hb
    rw [ha, hb]
    exact .concat names name

theorem take (h : Levelled taken (names :: waiting)) : Levelled (names :: taken) waiting where
  ascending := (List.pairwise_cons.mp h.ascending).2
  after_taken := by
    intro a ha b hb
    rcases List.mem_cons.mp ha with rfl | ha
    · exact (List.pairwise_cons.mp h.ascending).1 b hb
    · exact h.after_taken a ha b (List.mem_cons_of_mem _ hb)
  before_inner := by
    intro a ha b hb
    exact h.before_inner a (List.mem_cons_of_mem _ ha) b (List.mem_cons_of_mem _ hb)

/-- What is in the directory that is taken may join the end of the queue. -/
theorem enter (h : Levelled taken (names :: waiting)) {inner : List String} (hinner : inner.Pairwise (· < ·)) :
    Levelled (names :: taken) (waiting ++ inner.map fun name ↦ names ++ [name]) where
  ascending := by
    rw [List.pairwise_append]
    refine ⟨h.take.ascending, ?_, ?_⟩
    · rw [List.pairwise_map]
      exact hinner.imp (Precedes.concat_of_lt names)
    · intro a ha b hb
      obtain ⟨name, -, rfl⟩ := List.mem_map.mp hb
      exact h.before_inner a (List.mem_cons_of_mem _ ha) names List.mem_cons_self name
  after_taken := by
    intro a ha b hb
    rcases List.mem_append.mp hb with hb | hb
    · exact h.take.after_taken a ha b hb
    · obtain ⟨name, -, rfl⟩ := List.mem_map.mp hb
      rcases List.mem_cons.mp ha with rfl | ha
      · exact .concat a name
      · exact (h.after_taken a ha names List.mem_cons_self).trans (.concat names name)
  before_inner := by
    intro a ha b hb name
    rcases List.mem_append.mp ha with ha | ha
    · rcases List.mem_append.mp hb with hb | hb
      · exact h.take.before_inner a ha b hb name
      · obtain ⟨other, -, rfl⟩ := List.mem_map.mp hb
        exact (h.before_inner a (List.mem_cons_of_mem _ ha) names List.mem_cons_self other).trans (.concat _ name)
    · obtain ⟨first, -, rfl⟩ := List.mem_map.mp ha
      rcases List.mem_append.mp hb with hb | hb
      · exact ((List.pairwise_cons.mp h.ascending).1 b hb).concat_concat first name
      · obtain ⟨other, -, rfl⟩ := List.mem_map.mp hb
        exact .inl (by simp)

end Levelled

/-- The names of the files that are reached from what waits. -/
structure Finds (disk : Disk) (excluded : Path → Bool) (start : Path) (taken waiting found : List (List String)) :
    Prop where
  mem_iff : ∀ names, names ∈ found ↔
    ∃ front ∈ waiting, ∃ rest, names = front ++ rest ∧ Reaches disk excluded (start.descend front) rest
  ascending : found.Pairwise Precedes
  after_taken : ∀ a ∈ taken, ∀ b ∈ found, Precedes a b

namespace Finds

variable {disk : Disk} {excluded : Path → Bool} {start : Path} {taken waiting found : List (List String)}
  {names : List String}

theorem nil (taken : List (List String)) : Finds disk excluded start taken [] [] := ⟨by simp, .nil, by simp⟩

theorem skip (h : Finds disk excluded start (names :: taken) waiting found)
    (hnone : ∀ rest, ¬ Reaches disk excluded (start.descend names) rest) :
    Finds disk excluded start taken (names :: waiting) found where
  mem_iff := by
    intro other
    simp [h.mem_iff, or_and_right, exists_or, hnone]
  ascending := h.ascending
  after_taken a ha := h.after_taken a (List.mem_cons_of_mem _ ha)

theorem file (h : Finds disk excluded start (names :: taken) waiting found)
    (hfile : ∀ rest, Reaches disk excluded (start.descend names) rest ↔ rest = [])
    (hafter : ∀ a ∈ taken, Precedes a names) :
    Finds disk excluded start taken (names :: waiting) (names :: found) where
  mem_iff := by
    intro other
    simp [h.mem_iff, or_and_right, exists_or, hfile]
  ascending := List.pairwise_cons.mpr ⟨h.after_taken names List.mem_cons_self, h.ascending⟩
  after_taken := by
    intro a ha b hb
    rcases List.mem_cons.mp hb with rfl | hb
    · exact hafter a ha
    · exact h.after_taken a (List.mem_cons_of_mem _ ha) b hb

theorem dir {inner : List String}
    (h : Finds disk excluded start (names :: taken) (waiting ++ inner.map fun name ↦ names ++ [name]) found)
    (hdir : ∀ rest, Reaches disk excluded (start.descend names) rest ↔ ∃ name ∈ inner, ∃ more, rest = name :: more ∧
      Reaches disk excluded (start.descend (names ++ [name])) more) :
    Finds disk excluded start taken (names :: waiting) found where
  mem_iff := by
    intro other
    simp only [h.mem_iff, List.mem_append, List.mem_map, List.mem_cons, or_and_right, exists_or, exists_eq_left, hdir]
    rw [or_comm]
    apply or_congr_left
    constructor
    · rintro ⟨_, ⟨name, hname, rfl⟩, more, rfl, hmore⟩
      exact ⟨name :: more, by simp, name, hname, more, rfl, hmore⟩
    · rintro ⟨_, rfl, name, hname, more, rfl, hmore⟩
      exact ⟨names ++ [name], ⟨name, hname, rfl⟩, more, by simp, hmore⟩
  ascending := h.ascending
  after_taken a ha := h.after_taken a (List.mem_cons_of_mem _ ha)

end Finds

/-! ## The walk -/

theorem mem_byName {entries : List (String × Entry)} {e : String × Entry} : e ∈ byName entries ↔ e ∈ entries :=
  List.mem_mergeSort

theorem pairwise_byName {entries : List (String × Entry)} (h : (entries.map Prod.fst).Nodup) :
    ((byName entries).map Prod.fst).Pairwise (· < ·) := by
  have hnodup : ((byName entries).map Prod.fst).Nodup :=
    ((List.mergeSort_perm entries _).map Prod.fst).nodup_iff.mpr h
  have hsorted := @List.pairwise_mergeSort (String × Entry) (fun a b ↦ !(b.1 < a.1))
    (fun a b c hab hbc ↦ by
      simp only [Bool.not_eq_true', decide_eq_false_iff_not, String.not_lt] at *
      exact String.le_trans hab hbc)
    (fun a b ↦ by
      simp only [Bool.or_eq_true, Bool.not_eq_true', decide_eq_false_iff_not, String.not_lt]
      exact String.le_total _ _) entries
  rw [List.Nodup, List.pairwise_map] at hnodup
  rw [List.pairwise_map]
  refine (hsorted.and hnodup).imp ?_
  rintro a b ⟨hle, hne⟩
  simp only [Bool.not_eq_true', decide_eq_false_iff_not, String.not_lt] at hle
  exact Std.lt_of_le_of_ne hle hne

section

variable {m : Type → Type} [Monad m] {excluded : Path → Bool} {visited : List Path} {path : Path}
  (hvisited : visited.any path.same = false) (callback : Path → m Unit) (rest : List Found)
include hvisited

theorem visitQueue_excluded (hpath : excluded path = true) (entry : Entry) :
    visitQueue excluded callback visited ((path, entry) :: rest) =
      visitQueue excluded callback (path :: visited) rest := by
  rw [visitQueue.eq_def]
  simp [hvisited, hpath]

variable (hpath : excluded path = false)
include hpath

theorem visitQueue_file (content : ByteArray) :
    visitQueue excluded callback visited ((path, .file content) :: rest) =
      callback path >>= fun _ ↦ visitQueue excluded callback (path :: visited) rest := by
  rw [visitQueue, if_neg (by simp [hvisited]), if_neg (by simp [hpath])]

theorem visitQueue_link (target : String) :
    visitQueue excluded callback visited ((path, .link target) :: rest) =
      visitQueue excluded callback (path :: visited) rest := by
  rw [visitQueue, if_neg (by simp [hvisited]), if_neg (by simp [hpath])]

theorem visitQueue_dir (entries : List (String × Entry)) :
    visitQueue excluded callback visited ((path, .dir entries) :: rest) =
      visitQueue excluded callback (path :: visited) (rest ++ children path entries) := by
  rw [visitQueue, if_neg (by simp [hvisited]), if_neg (by simp [hpath])]

end

/-- The entries below a path, known by their names. -/
def below (start : Path) (waiting : List (List String × Entry)) : List Found :=
  waiting.map fun (names, entry) ↦ (start.descend names, entry)

/-- The entries of a directory, known by its names and their own. -/
def inside (names : List String) (entries : List (String × Entry)) : List (List String × Entry) :=
  (byName entries).map fun (name, entry) ↦ (names ++ [name], entry)

theorem below_append_inside (start : Path) (waiting : List (List String × Entry)) (names : List String)
    (entries : List (String × Entry)) :
    below start (waiting ++ inside names entries) = below start waiting ++ children (start.descend names) entries := by
  simp [below, inside, children, Function.comp_def]

theorem map_fst_inside (names : List String) (entries : List (String × Entry)) :
    (inside names entries).map Prod.fst = ((byName entries).map Prod.fst).map fun name ↦ names ++ [name] := by
  simp [inside, Function.comp_def]

/-- What is taken and what waits stands below one entry. -/
structure Queue (top : Entry) (taken : List (List String)) (waiting : List (List String × Entry)) : Prop where
  levelled : Levelled taken (waiting.map Prod.fst)
  taken_at : ∀ names ∈ taken, ∃ entry, top.at? names = some entry
  waiting_at : ∀ next ∈ waiting, top.at? next.1 = some next.2

namespace Queue

variable {top entry : Entry} {taken : List (List String)} {waiting : List (List String × Entry)} {names : List String}
  {entries : List (String × Entry)}

theorem start (top : Entry) : Queue top [] [([], top)] where
  levelled := .single []
  taken_at := by simp
  waiting_at := by simp [Entry.at?_nil]

theorem at? (h : Queue top taken ((names, entry) :: waiting)) : top.at? names = some entry :=
  h.waiting_at (names, entry) List.mem_cons_self

theorem taken_at_cons (h : Queue top taken ((names, entry) :: waiting)) :
    ∀ other ∈ names :: taken, ∃ entry, top.at? other = some entry :=
  List.forall_mem_cons.mpr ⟨⟨entry, h.at?⟩, h.taken_at⟩

theorem take (h : Queue top taken ((names, entry) :: waiting)) : Queue top (names :: taken) waiting where
  levelled := h.levelled.take
  taken_at := h.taken_at_cons
  waiting_at next hnext := h.waiting_at next (List.mem_cons_of_mem _ hnext)

theorem enter (htop : top.WellFormed) (h : Queue top taken ((names, .dir entries) :: waiting)) :
    Queue top (names :: taken) (waiting ++ inside names entries) := by
  have hdir := htop.at? h.at?
  refine ⟨?_, h.taken_at_cons, ?_⟩
  · rw [List.map_append, map_fst_inside]
    exact h.levelled.enter (pairwise_byName hdir.nodup)
  · rw [List.forall_mem_append]
    refine ⟨h.take.waiting_at, ?_⟩
    intro next hnext
    obtain ⟨⟨name, inner⟩, hmem, rfl⟩ := List.mem_map.mp hnext
    rw [Entry.at?_concat h.at?]
    exact hdir.child?_of_mem (mem_byName.mp hmem)

/-- What waits has not been visited. -/
theorem not_visited (htop : top.WellFormed) (h : Queue top taken ((names, entry) :: waiting)) (start : Path) :
    (taken.map start.descend).any (start.descend names).same = false := by
  rw [List.any_map, List.any_eq_false]
  intro other hother
  obtain ⟨inner, hinner⟩ := h.taken_at other hother
  rw [Function.comp_apply, Path.same_descend_iff start (htop.isName_of_at? h.at?) (htop.isName_of_at? hinner)]
  rintro rfl
  exact Precedes.irrefl names (h.levelled.after_taken names hother names List.mem_cons_self)

end Queue

/-- The walk from a queue calls back for the files that are reached from it, one after the other. -/
structure WalksOver (disk : Disk) (excluded : Path → Bool) (start : Path) (taken : List (List String))
    (waiting : List (List String × Entry)) (found : List (List String)) : Prop where
  finds : Finds disk excluded start taken (waiting.map Prod.fst) found
  visits (m : Type → Type) [Monad m] (callback : Path → m Unit) :
    visitQueue excluded callback (taken.map start.descend) (below start waiting) =
      (found.map start.descend).forM callback

namespace WalksOver

variable {disk : Disk} {excluded : Path → Bool} {start : Path} {taken found : List (List String)}
  {waiting : List (List String × Entry)} {names : List String}

theorem nil (taken : List (List String)) : WalksOver disk excluded start taken [] [] where
  finds := .nil taken
  visits m _ callback := by
    rw [below, List.map_nil, visitQueue]
    rfl

variable (hvisited : (taken.map start.descend).any (start.descend names).same = false)
include hvisited

theorem skip (h : WalksOver disk excluded start (names :: taken) waiting found)
    (hpath : excluded (start.descend names) = true) (entry : Entry) :
    WalksOver disk excluded start taken ((names, entry) :: waiting) found where
  finds := h.finds.skip fun _ ↦ not_reaches_of_excluded hpath
  visits m _ callback := (visitQueue_excluded hvisited callback _ hpath entry).trans (h.visits m callback)

variable (hpath : excluded (start.descend names) = false)
include hpath

theorem file (h : WalksOver disk excluded start (names :: taken) waiting found) {content : ByteArray}
    (hentry : disk.linkEntry (start.descend names) = .ok (.file content)) (hafter : ∀ a ∈ taken, Precedes a names) :
    WalksOver disk excluded start taken ((names, .file content) :: waiting) (names :: found) where
  finds := h.finds.file (fun _ ↦ reaches_file_iff hpath hentry) hafter
  visits m _ callback := by
    rw [below, List.map_cons, visitQueue_file hvisited callback _ hpath]
    exact congrArg (callback (start.descend names) >>= fun _ ↦ ·) (h.visits m callback)

theorem link (h : WalksOver disk excluded start (names :: taken) waiting found) {target : String}
    (hentry : disk.linkEntry (start.descend names) = .ok (.link target)) :
    WalksOver disk excluded start taken ((names, .link target) :: waiting) found where
  finds := h.finds.skip fun _ ↦ not_reaches_of_link hentry
  visits m _ callback := (visitQueue_link hvisited callback _ hpath target).trans (h.visits m callback)

theorem dir {entries : List (String × Entry)}
    (h : WalksOver disk excluded start (names :: taken) (waiting ++ inside names entries) found)
    (hentry : disk.linkEntry (start.descend names) = .ok (.dir entries)) :
    WalksOver disk excluded start taken ((names, .dir entries) :: waiting) found where
  finds := by
    have hfinds := h.finds
    rw [List.map_append, map_fst_inside] at hfinds
    refine hfinds.dir ?_
    intro rest
    rw [reaches_dir_iff hpath hentry]
    simp [mem_byName]
  visits m _ callback := by
    rw [← h.visits m callback, below_append_inside]
    exact visitQueue_dir hvisited callback _ hpath entries

end WalksOver

section

variable {disk : Disk} {start : Path} {top : Entry}

theorem exists_walksOver (hroot : disk.root.WellFormed) (hstart : disk.linkEntry start = .ok top)
    (excluded : Path → Bool) {taken : List (List String)} {waiting : List (List String × Entry)}
    (h : Queue top taken waiting) : ∃ found, WalksOver disk excluded start taken waiting found := by
  have htop : top.WellFormed := by
    obtain ⟨place, -, hat⟩ := Disk.entryAt_eq_ok_iff.mp hstart
    exact hroot.at? hat
  -- As the walk itself, by the size of what waits.
  induction hsize : queueSize (below start waiting) using Nat.strong_induction_on generalizing taken waiting with
  | h size ih =>
    subst hsize
    cases waiting with
    | nil => exact ⟨[], .nil taken⟩
    | cons next waiting =>
      obtain ⟨names, entry⟩ := next
      have hentry := Disk.linkEntry_descend hroot hstart h.at?
      have hvisited := h.not_visited htop start
      have hsize : queueSize (below start ((names, entry) :: waiting)) =
          entrySize entry + queueSize (below start waiting) := rfl
      have hpos := entrySize_pos entry
      cases hpath : excluded (start.descend names) with
      | true =>
        obtain ⟨found, hfound⟩ := ih _ (by omega) h.take rfl
        exact ⟨found, hfound.skip hvisited hpath entry⟩
      | false =>
        cases entry with
        | file content =>
          obtain ⟨found, hfound⟩ := ih _ (by omega) h.take rfl
          have hafter : ∀ a ∈ taken, Precedes a names := fun a ha ↦
            h.levelled.after_taken a ha names List.mem_cons_self
          exact ⟨names :: found, hfound.file hvisited hpath hentry hafter⟩
        | link target =>
          obtain ⟨found, hfound⟩ := ih _ (by omega) h.take rfl
          exact ⟨found, hfound.link hvisited hpath hentry⟩
        | dir entries =>
          have hsmaller : queueSize (below start (waiting ++ inside names entries)) <
              queueSize (below start ((names, .dir entries) :: waiting)) := by
            rw [below_append_inside, queueSize_append, queueSize_children, hsize, entrySize]
            omega
          obtain ⟨found, hfound⟩ := ih _ hsmaller (h.enter htop) rfl
          exact ⟨found, hfound.dir hvisited hpath hentry⟩

/-- The names of exactly the files that are reached from a path, in level order. -/
structure LevelOrder (disk : Disk) (excluded : Path → Bool) (start : Path) (found : List (List String)) : Prop where
  mem_iff : ∀ names, names ∈ found ↔ Reaches disk excluded start names
  ascending : found.Pairwise Precedes

/-- The files that are reached determine their order. -/
theorem LevelOrder.eq_of_reaches_iff {disk' : Disk} {excluded excluded' : Path → Bool} {start' : Path}
    {found found' : List (List String)} (h : LevelOrder disk excluded start found)
    (h' : LevelOrder disk' excluded' start' found')
    (hreaches : ∀ names, Reaches disk excluded start names ↔ Reaches disk' excluded' start' names) :
    found = found' := by
  have : Std.Irrefl Precedes := ⟨Precedes.irrefl⟩
  have : Std.Asymm Precedes := ⟨fun a b hab hba ↦ Precedes.irrefl a (hab.trans hba)⟩
  apply h.ascending.eq_of_mem_iff h'.ascending
  intro names
  rw [h.mem_iff, hreaches, ← h'.mem_iff]

/-- A walk calls back for these files, one after the other, and does nothing else. -/
def CallsBack (disk : Disk) (excluded : Path → Bool) (start : Path) (files : List Path) : Prop :=
  ∀ (m : Type → Type) [Monad m] (failed : DiskError → m Unit) (callback : Path → m Unit),
    visit disk start excluded failed callback = files.forM callback

theorem exists_levelOrder (hroot : disk.root.WellFormed) (hstart : disk.linkEntry start = .ok top)
    (excluded : Path → Bool) : ∃ found, LevelOrder disk excluded start found ∧
      CallsBack disk excluded start (found.map start.descend) := by
  by_cases hexcluded : excluded start = true
  · have hnone : ∀ names, ¬ Reaches disk excluded start names := fun _ ↦ not_reaches_of_excluded hexcluded
    refine ⟨[], ⟨by simp [hnone], .nil⟩, ?_⟩
    intro m _ failed callback
    rw [visit, if_pos hexcluded]
    rfl
  · obtain ⟨found, hfound⟩ := exists_walksOver hroot hstart excluded (.start top)
    refine ⟨found, ⟨?_, hfound.finds.ascending⟩, ?_⟩
    · intro names
      rw [hfound.finds.mem_iff]
      simp
    · intro m _ failed callback
      rw [visit, if_neg hexcluded, hstart]
      exact hfound.visits m callback

/-- A walk lists the files that it calls back for. -/
theorem CallsBack.filesBelow_eq {excluded : Path → Bool} {files : List Path}
    (h : CallsBack disk excluded start files) : filesBelow disk start excluded = .ok files := by
  have hnoted : ∀ (more before : List Path),
      (more.forM (m := StateT (List Path) (Except DiskError)) fun path ↦ modify (· ++ [path])).run before =
        .ok ((), before ++ more) := by
    intro more
    induction more with
    | nil =>
      intro before
      rw [List.append_nil]
      rfl
    | cons path more ih =>
      intro before
      rw [List.append_cons, ← ih]
      rfl
  rw [filesBelow, h, hnoted, List.nil_append]
  rfl

theorem run_bind_of_ok {ε σ : Type} {x : ExceptT ε (StateM σ) Unit} {state next : σ} (h : x.run state = (.ok (), next))
    (f : Unit → ExceptT ε (StateM σ) Unit) : (x >>= f).run state = (f ()).run next := by
  rw [ExceptT.run_bind]
  simp only [bind, StateT.bind, h]

theorem run_bind_of_error {ε σ : Type} {x : ExceptT ε (StateM σ) Unit} {state next : σ} {fault : ε}
    (h : x.run state = (.error fault, next)) (f : Unit → ExceptT ε (StateM σ) Unit) :
    (x >>= f).run state = (.error fault, next) := by
  rw [ExceptT.run_bind]
  simp only [bind, StateT.bind, h]
  rfl

/-- A callback that fails ends the walk with its error, in the state that it leaves. -/
theorem run_forM_of_error {ε σ : Type} {callback : Path → ExceptT ε (StateM σ) Unit} {before : List Path} {path : Path}
    {state reached final : σ} {fault : ε} (hbefore : (before.forM callback).run state = (.ok (), reached))
    (hpath : (callback path).run reached = (.error fault, final)) (after : List Path) :
    ((before ++ path :: after).forM callback).run state = (.error fault, final) := by
  induction before generalizing state with
  | nil =>
    cases hbefore
    exact run_bind_of_error hpath _
  | cons first before ih =>
    cases hfirst : (callback first).run state with
    | mk outcome next =>
      cases outcome with
      | error e =>
        have hfails := run_bind_of_error hfirst fun _ ↦ before.forM callback
        cases hfails.symm.trans hbefore
      | ok u =>
        have hrest := run_bind_of_ok hfirst fun _ ↦ before.forM callback
        exact (run_bind_of_ok hfirst _).trans (ih (hrest.symm.trans hbefore))

/-- A callback that notes the path and stops the walk at some of them. -/
def noteUntil (stops : Path → Bool) (path : Path) : ExceptT Unit (StateM (List Path)) Unit := do
  modify (· ++ [path])
  if stops path then throw ()

theorem run_noteUntil (stops : Path → Bool) (path : Path) (noted : List Path) :
    (noteUntil stops path).run noted = (if stops path then .error () else .ok (), noted ++ [path]) := by
  rw [noteUntil]
  cases stops path <;> rfl

/-- What a walk has noted where it stops. -/
theorem run_forM_noteUntil (stops : Path → Bool) (files noted : List Path) :
    (files.forM (noteUntil stops)).run noted =
      (if (takeThrough stops files).2 then .error () else .ok (), noted ++ (takeThrough stops files).1) := by
  induction files generalizing noted with
  | nil =>
    rw [takeThrough, List.append_nil]
    rfl
  | cons path files ih =>
    have hpath := run_noteUntil stops path noted
    rw [takeThrough]
    by_cases hstops : stops path = true
    · rw [hstops] at hpath ⊢
      exact run_bind_of_error hpath _
    · rw [Bool.not_eq_true] at hstops
      rw [hstops] at hpath ⊢
      refine (run_bind_of_ok hpath _).trans ?_
      rw [ih, List.append_assoc]
      rfl

/-- On a disk with distinct names in every directory, and from a path at which there is an entry, a walk calls back for
exactly the files that are reached from there, each of them once and in level order, in whatever order the directories
list their entries. A callback that fails is the last one, and its error is that of the walk. -/
theorem visit_calls_back_in_level_order (hroot : disk.root.WellFormed) (hstart : disk.linkEntry start = .ok top)
    (excluded : Path → Bool) : ∃ found, LevelOrder disk excluded start found ∧
      (found.map fun names ↦ disk.locate false (start.descend names)).Nodup ∧
      ∀ listed : Disk, listed.root.WellFormed → disk.SameTree listed →
        CallsBack listed excluded start (found.map start.descend) ∧
        ∀ {ε σ : Type} (failed : DiskError → ExceptT ε (StateM σ) Unit) (callback : Path → ExceptT ε (StateM σ) Unit)
          {before after : List (List String)} {names : List String} {state reached final : σ} {fault : ε},
          found = before ++ names :: after →
          ((before.map start.descend).forM callback).run state = (.ok (), reached) →
          (callback (start.descend names)).run reached = (.error fault, final) →
          (visit listed start excluded failed callback).run state = (.error fault, final) := by
  obtain ⟨found, hfound, -⟩ := exists_levelOrder hroot hstart excluded
  have hcalls : ∀ listed : Disk, listed.root.WellFormed → disk.SameTree listed →
      CallsBack listed excluded start (found.map start.descend) := by
    intro listed hlisted hsame
    obtain ⟨other, hother, -⟩ := hsame.linkEntry hstart
    obtain ⟨found', hfound', hcalls⟩ := exists_levelOrder hlisted hother excluded
    have hreaches : ∀ names, Reaches disk excluded start names ↔ Reaches listed excluded start names := fun _ ↦
      ⟨fun h ↦ h.sameTree hsame, fun h ↦ h.sameTree hsame.symm⟩
    rwa [hfound.eq_of_reaches_iff hfound' hreaches]
  refine ⟨found, hfound, ?_, ?_⟩
  · obtain ⟨place, hplace, -⟩ := Disk.entryAt_eq_ok_iff.mp hstart
    rw [List.Nodup, List.pairwise_map]
    refine hfound.ascending.imp_of_mem ?_
    intro a b ha hb hab
    rw [(((hfound.mem_iff a).mp ha).locate hroot hplace).1, (((hfound.mem_iff b).mp hb).locate hroot hplace).1]
    intro heq
    have hnames : a = b := List.append_cancel_left (Except.ok.inj heq)
    exact Precedes.irrefl a (hnames ▸ hab)
  · intro listed hlisted hsame
    refine ⟨hcalls listed hlisted hsame, ?_⟩
    intro ε σ failed callback before after names state reached final fault hsplit hbefore hfault
    rw [hcalls listed hlisted hsame, hsplit, List.map_append, List.map_cons]
    exact run_forM_of_error hbefore hfault _

end

/-! ## A disk with a loop -/

/-- Two files below a directory, with a link back to it and version control data beside them. -/
def loopDisk (listed : List (String × Entry)) : Disk := ⟨.dir [("base", .dir listed)], []⟩

def loopEntries : List (String × Entry) :=
  [("z.yaml", .file .empty), ("b", .dir [("m.json", .file .empty), ("loop", .link "/base")]),
    (".git", .dir [("config", .file .empty)])]

def isGit (path : Path) : Bool := path.fileName? == some ".git"

theorem wellFormed_loopEntries : (Entry.dir loopEntries).WellFormed := by
  have hinner : (Entry.dir [("m.json", .file .empty), ("loop", .link "/base")]).WellFormed :=
    .dir (by decide) (by decide) (by simp [Entry.WellFormed.file, Entry.WellFormed.link])
  have hgit : (Entry.dir [("config", .file .empty)]).WellFormed :=
    .dir (by decide) (by decide) (by simp [Entry.WellFormed.file])
  exact .dir (by decide) (by decide) (by simp [loopEntries, Entry.WellFormed.file, hinner, hgit])

theorem wellFormed_loopDisk {listed : List (String × Entry)} (h : (Entry.dir listed).WellFormed) :
    (loopDisk listed).root.WellFormed :=
  .dir (List.nodup_singleton "base") (by simpa using (by decide : Path.IsName "base")) (by simpa using h)

theorem linkEntry_loopDisk : (loopDisk loopEntries).linkEntry ⟨"/base"⟩ = .ok (.dir loopEntries) := by
  have hbase : (loopDisk loopEntries).Holds ⟨"/base"⟩ ["base"] (.dir loopEntries) :=
    ⟨by with_unfolding_all rfl, by with_unfolding_all rfl, by decide, rfl, fun _ ↦ Entry.noConfusion⟩
  exact hbase.entryAt false

theorem levelOrder_loopDisk :
    LevelOrder (loopDisk loopEntries) isGit ⟨"/base"⟩ [["z.yaml"], ["b", "m.json"]] := by
  have hentry : ∀ names entry, (Entry.dir loopEntries).at? names = some entry →
      (loopDisk loopEntries).linkEntry ((Path.mk "/base").descend names) = .ok entry := fun _ _ ↦
    Disk.linkEntry_descend (wellFormed_loopDisk wellFormed_loopEntries) linkEntry_loopDisk
  have hfile : ∀ rest, Reaches (loopDisk loopEntries) isGit ((Path.mk "/base").join ⟨"z.yaml"⟩) rest ↔ rest = [] :=
    fun _ ↦ reaches_file_iff (by with_unfolding_all rfl) (hentry ["z.yaml"] _ rfl)
  have hgit : ∀ rest, ¬ Reaches (loopDisk loopEntries) isGit ((Path.mk "/base").join ⟨".git"⟩) rest :=
    fun _ ↦ not_reaches_of_excluded (by with_unfolding_all rfl)
  have hinner : ∀ rest,
      Reaches (loopDisk loopEntries) isGit (((Path.mk "/base").join ⟨"b"⟩).join ⟨"m.json"⟩) rest ↔ rest = [] :=
    fun _ ↦ reaches_file_iff (by with_unfolding_all rfl) (hentry ["b", "m.json"] _ rfl)
  have hloop : ∀ rest, ¬ Reaches (loopDisk loopEntries) isGit (((Path.mk "/base").join ⟨"b"⟩).join ⟨"loop"⟩) rest :=
    fun _ ↦ not_reaches_of_link (hentry ["b", "loop"] _ rfl)
  have hdir : ∀ rest,
      Reaches (loopDisk loopEntries) isGit ((Path.mk "/base").join ⟨"b"⟩) rest ↔ rest = ["m.json"] := by
    intro rest
    have hb : (loopDisk loopEntries).linkEntry ((Path.mk "/base").join ⟨"b"⟩) =
        .ok (.dir [("m.json", .file .empty), ("loop", .link "/base")]) := hentry ["b"] _ rfl
    rw [reaches_dir_iff (by with_unfolding_all rfl) hb]
    simp [hinner, hloop]
  have hlisted : loopEntries.map Prod.fst = ["z.yaml", "b", ".git"] := rfl
  refine ⟨?_, by simp [Precedes]⟩
  intro names
  rw [reaches_dir_iff (by with_unfolding_all rfl) linkEntry_loopDisk, hlisted]
  simp [hfile, hgit, hdir]

def isJson (path : Path) : Bool := path.extension? == some "json"

/-- The files are the same where the directory lists its entries the other way round, and a walk that is to stop at a
JSON file has noted the file before. -/
theorem loopDisk_visited :
    CallsBack (loopDisk loopEntries.reverse) isGit ⟨"/base"⟩ [⟨"/base/z.yaml"⟩, ⟨"/base/b/m.json"⟩] ∧
    (visit (loopDisk loopEntries.reverse) ⟨"/base"⟩ isGit (fun _ ↦ pure ()) (noteUntil isJson)).run [] =
      (.error (), [⟨"/base/z.yaml"⟩, ⟨"/base/b/m.json"⟩]) := by
  obtain ⟨found, hfound, -, hlisted⟩ :=
    visit_calls_back_in_level_order (wellFormed_loopDisk wellFormed_loopEntries) linkEntry_loopDisk isGit
  obtain rfl := hfound.eq_of_reaches_iff levelOrder_loopDisk fun _ ↦ Iff.rfl
  have hreversed : loopEntries.Perm loopEntries.reverse := (List.reverse_perm loopEntries).symm
  have hsame : (loopDisk loopEntries).SameTree (loopDisk loopEntries.reverse) :=
    ⟨rfl, .cons "base" (.of_perm hreversed wellFormed_loopEntries.nodup) (.refl _)⟩
  obtain ⟨hcalls, hfails⟩ := hlisted _ (wellFormed_loopDisk (wellFormed_loopEntries.of_perm hreversed)) hsame
  have hz : (Path.mk "/base").descend ["z.yaml"] = ⟨"/base/z.yaml"⟩ := by decide +kernel
  have hm : (Path.mk "/base").descend ["b", "m.json"] = ⟨"/base/b/m.json"⟩ := by decide +kernel
  rw [List.map_cons, List.map_cons, List.map_nil, hz, hm] at hcalls
  have hnotes : (([["z.yaml"]].map (Path.mk "/base").descend).forM (noteUntil isJson)).run [] =
      (.ok (), [⟨"/base/z.yaml"⟩]) := by
    have hother : isJson ⟨"/base/z.yaml"⟩ = false := by decide +kernel
    rw [List.map_cons, List.map_nil, hz, run_forM_noteUntil, takeThrough, takeThrough, hother]
    rfl
  have hstops : (noteUntil isJson ((Path.mk "/base").descend ["b", "m.json"])).run [⟨"/base/z.yaml"⟩] =
      (.error (), [⟨"/base/z.yaml"⟩, ⟨"/base/b/m.json"⟩]) := by
    have hjson : isJson ⟨"/base/b/m.json"⟩ = true := by decide +kernel
    rw [hm, run_noteUntil, hjson]
    rfl
  exact ⟨hcalls, hfails (fun _ ↦ pure ()) (noteUntil isJson) List.singleton_append.symm hnotes hstops⟩

end SolAudit.Walk
