import SolAudit.Disk
import SolAudit.Proofs.Path

/-!
# What a disk holds

A path is followed step by step, with dots and links on the way. Where it is written from the root and its names lead
down the tree to an entry that is no link, it stands for that entry (`Disk.Holds.entryAt`), and what a text is written
as in a file there reads as that text again. However a path to a directory is spelled, joining a name to it leads to the
entry of that name (`Disk.locate_join`), and the order in which directories list their entries does not count
(`Disk.SameTree.linkEntry`).
-/

namespace SolAudit

namespace Entry

theorem at?_append (names more : List String) :
    ∀ entry : Entry, entry.at? (names ++ more) = (entry.at? names).bind fun inner ↦ inner.at? more := by
  induction names with
  | nil =>
    intro entry
    cases entry <;> rfl
  | cons name rest ih =>
    intro entry
    cases entry with
    | dir entries =>
      rw [List.cons_append, at?, at?, Option.bind_assoc]
      simp only [ih]
    | file content => rfl
    | link target => rfl

theorem at?_nil (entry : Entry) : entry.at? [] = some entry := by cases entry <;> rfl

theorem at?_single (name : String) (entries : List (String × Entry)) :
    (Entry.dir entries).at? [name] = child? name entries := by
  rw [at?]
  cases child? name entries with
  | none => rfl
  | some entry => exact at?_nil entry

theorem at?_concat {root : Entry} {place : List String} {entries : List (String × Entry)}
    (h : root.at? place = some (.dir entries)) (name : String) :
    root.at? (place ++ [name]) = child? name entries := by
  rw [at?_append, h, Option.bind_some, at?_single]

theorem mem_of_child? {entries : List (String × Entry)} {name : String} {entry : Entry}
    (h : child? name entries = some entry) : (name, entry) ∈ entries := by
  induction entries with
  | nil => cases h
  | cons first rest ih =>
    rw [child?] at h
    split at h
    · rename_i hname
      cases h
      rw [beq_iff_eq] at hname
      exact hname ▸ List.mem_cons_self
    · exact List.mem_cons_of_mem _ (ih h)

theorem exists_child?_iff {name : String} {entries : List (String × Entry)} :
    (∃ entry, child? name entries = some entry) ↔ name ∈ entries.map Prod.fst := by
  induction entries with
  | nil => simp [child?]
  | cons first rest ih =>
    rw [child?, List.map_cons, List.mem_cons, ← ih]
    split
    · rename_i hname
      simp [beq_iff_eq.mp hname]
    · rename_i hname
      rw [beq_iff_eq] at hname
      simp [Ne.symm hname]

theorem child?_of_mem {entries : List (String × Entry)} (hnodup : (entries.map Prod.fst).Nodup) {name : String}
    {entry : Entry} (h : (name, entry) ∈ entries) : child? name entries = some entry := by
  induction entries with
  | nil => cases h
  | cons first rest ih =>
    obtain ⟨hnew, hnodup⟩ := List.nodup_cons.mp hnodup
    rcases List.mem_cons.mp h with rfl | h
    · simp [child?]
    · have hne : (first.1 == name) = false := by
        rw [beq_eq_false_iff_ne]
        rintro rfl
        exact hnew (List.mem_map.mpr ⟨_, h, rfl⟩)
      rw [child?, hne]
      exact ih hnodup h

/-- Every directory holds distinct names, and such as can stand in a path. -/
inductive WellFormed : Entry → Prop
  | file (content : ByteArray) : WellFormed (.file content)
  | link (target : String) : WellFormed (.link target)
  | dir {entries : List (String × Entry)} (nodup : (entries.map Prod.fst).Nodup)
      (names : ∀ name ∈ entries.map Prod.fst, Path.IsName name) (inner : ∀ e ∈ entries, WellFormed e.2) :
      WellFormed (.dir entries)

theorem WellFormed.at? {root entry : Entry} (h : root.WellFormed) {place : List String}
    (hat : root.at? place = some entry) : entry.WellFormed := by
  induction place generalizing root with
  | nil =>
    rw [at?_nil] at hat
    exact Option.some.inj hat ▸ h
  | cons name rest ih =>
    cases h with
    | file | link => cases hat
    | dir _ _ inner =>
      rw [Entry.at?, Option.bind_eq_some_iff] at hat
      obtain ⟨child, hchild, hat⟩ := hat
      exact ih (inner _ (mem_of_child? hchild)) hat

theorem WellFormed.nodup {entries : List (String × Entry)} (h : (Entry.dir entries).WellFormed) :
    (entries.map Prod.fst).Nodup := by
  cases h with
  | dir nodup _ _ => exact nodup

theorem WellFormed.isName {entries : List (String × Entry)} (h : (Entry.dir entries).WellFormed) {name : String}
    {entry : Entry} (hchild : child? name entries = some entry) : Path.IsName name := by
  cases h with
  | dir _ names _ => exact names name (List.mem_map.mpr ⟨_, mem_of_child? hchild, rfl⟩)

theorem WellFormed.of_perm {entries others : List (String × Entry)} (h : (Entry.dir entries).WellFormed)
    (hperm : entries.Perm others) : (Entry.dir others).WellFormed := by
  have hnames := hperm.map Prod.fst
  cases h with
  | dir nodup names inner =>
    refine .dir (hnames.nodup_iff.mp nodup) ?_ ?_
    · exact fun name hname ↦ names name (hnames.mem_iff.mpr hname)
    · exact fun e he ↦ inner e (hperm.mem_iff.mpr he)

theorem WellFormed.child?_of_mem {entries : List (String × Entry)} (h : (Entry.dir entries).WellFormed) {name : String}
    {entry : Entry} (hmem : (name, entry) ∈ entries) : Entry.child? name entries = some entry :=
  Entry.child?_of_mem h.nodup hmem

theorem WellFormed.isName_of_at? {root entry : Entry} (h : root.WellFormed) {place : List String}
    (hat : root.at? place = some entry) : ∀ name ∈ place, Path.IsName name := by
  induction place generalizing root with
  | nil => simp
  | cons name rest ih =>
    cases root with
    | file | link => cases hat
    | dir entries =>
      rw [Entry.at?, Option.bind_eq_some_iff] at hat
      obtain ⟨child, hchild, hat⟩ := hat
      have hinner : child.WellFormed := h.at? ((at?_single name entries).trans hchild)
      exact List.forall_mem_cons.mpr ⟨h.isName hchild, ih hinner hat⟩

/-- An entry without what is below it. -/
def head : Entry → Entry
  | .dir _ => .dir []
  | entry => entry

/-- The same entries are found under the same names, in whatever order they are listed. -/
def SameTree (a b : Entry) : Prop := ∀ names, (a.at? names).map head = (b.at? names).map head

namespace SameTree

variable {a b : Entry}

theorem symm (h : a.SameTree b) : b.SameTree a := fun names ↦ (h names).symm

theorem refl (a : Entry) : a.SameTree a := fun _ ↦ rfl

theorem at? (h : a.SameTree b) {names : List String} {inner : Entry} (hat : a.at? names = some inner) :
    ∃ other, b.at? names = some other ∧ inner.SameTree other := by
  have hhead := h names
  rw [hat, Option.map_some, eq_comm, Option.map_eq_some_iff] at hhead
  obtain ⟨other, hother, -⟩ := hhead
  refine ⟨other, hother, ?_⟩
  intro more
  have hmore := h (names ++ more)
  rwa [at?_append, at?_append, hat, hother] at hmore

theorem head_eq (h : a.SameTree b) : a.head = b.head := by
  have hhead := h []
  rw [at?_nil, at?_nil] at hhead
  exact Option.some.inj hhead

theorem eq_file {content : ByteArray} (h : SameTree (.file content) b) : b = .file content := by
  have hhead := h.head_eq
  cases b with
  | file | link => exact hhead.symm
  | dir => cases hhead

theorem eq_link {target : String} (h : a.SameTree (.link target)) : a = .link target := by
  have hhead := h.head_eq
  cases a with
  | file | link => exact hhead
  | dir => cases hhead

theorem exists_dir {entries : List (String × Entry)} (h : SameTree (.dir entries) b) : ∃ others, b = .dir others := by
  have hhead := h.head_eq
  cases b with
  | file | link => cases hhead
  | dir others => exact ⟨others, rfl⟩

theorem at?_dir (h : a.SameTree b) {names : List String} {entries : List (String × Entry)}
    (hat : a.at? names = some (.dir entries)) :
    ∃ others, b.at? names = some (.dir others) ∧ SameTree (.dir entries) (.dir others) := by
  obtain ⟨other, hother, hsame⟩ := h.at? hat
  obtain ⟨others, rfl⟩ := hsame.exists_dir
  exact ⟨others, hother, hsame⟩

variable {entries others : List (String × Entry)}

theorem child? (h : SameTree (.dir entries) (.dir others)) {name : String} {inner : Entry}
    (hchild : Entry.child? name entries = some inner) :
    ∃ other, Entry.child? name others = some other ∧ inner.SameTree other := by
  obtain ⟨other, hother, hsame⟩ := h.at? ((at?_single name entries).trans hchild)
  exact ⟨other, (at?_single name others).symm.trans hother, hsame⟩

/-- A directory may list its entries in another order. -/
theorem of_perm (hperm : entries.Perm others) (hnodup : (entries.map Prod.fst).Nodup) :
    SameTree (.dir entries) (.dir others) := by
  have hnodup' : (others.map Prod.fst).Nodup := (hperm.map Prod.fst).nodup_iff.mp hnodup
  have hchild : ∀ name, Entry.child? name entries = Entry.child? name others := by
    intro name
    apply Option.ext
    intro entry
    constructor
    · intro h
      exact child?_of_mem hnodup' (hperm.mem_iff.mp (mem_of_child? h))
    · intro h
      exact child?_of_mem hnodup (hperm.mem_iff.mpr (mem_of_child? h))
  intro names
  cases names with
  | nil => rfl
  | cons name rest => rw [Entry.at?, Entry.at?, hchild]

theorem cons (name : String) (hentry : a.SameTree b) (h : SameTree (.dir entries) (.dir others)) :
    SameTree (.dir ((name, a) :: entries)) (.dir ((name, b) :: others)) := by
  intro names
  cases names with
  | nil => rfl
  | cons first rest =>
    rw [Entry.at?, Entry.at?, Entry.child?, Entry.child?]
    split
    · exact hentry rest
    · exact h (first :: rest)

theorem mem_names_iff (h : SameTree (.dir entries) (.dir others)) (name : String) :
    name ∈ entries.map Prod.fst ↔ name ∈ others.map Prod.fst := by
  rw [← exists_child?_iff, ← exists_child?_iff]
  constructor
  · rintro ⟨inner, hinner⟩
    obtain ⟨other, hother, -⟩ := h.child? hinner
    exact ⟨other, hother⟩
  · rintro ⟨other, hother⟩
    obtain ⟨inner, hinner, -⟩ := h.symm.child? hother
    exact ⟨inner, hinner⟩

theorem child?_link (h : SameTree (.dir entries) (.dir others)) {name target : String}
    (hchild : Entry.child? name entries = some (.link target)) : Entry.child? name others = some (.link target) := by
  obtain ⟨other, hother, hsame⟩ := h.child? hchild
  rw [hother, hsame.symm.eq_link]

end SameTree

end Entry

namespace Disk

/-- A path is written from the root, and its names lead to an entry that is no link. -/
structure Holds (disk : Disk) (path : Path) (names : List String) (entry : Entry) : Prop where
  absolute : path.isAbsolute = true
  steps : steps path.text = names
  plain : ∀ name ∈ names, name ≠ "." ∧ name ≠ ".."
  at? : disk.root.at? names = some entry
  noLink : ∀ target, entry ≠ .link target

/-- Names lead down the tree, if there is an entry at the end of them that is no link. -/
theorem follow_of_at? {root entry : Entry} (followLast : Bool) (links : Nat) (hlink : ∀ target, entry ≠ .link target)
    (names : List String) : ∀ place, (∀ name ∈ names, name ≠ "." ∧ name ≠ "..") →
      root.at? (place ++ names) = some entry →
        follow root followLast links place names = .ok (place ++ names) := by
  induction names with
  | nil =>
    intro place _ _
    rw [follow, List.append_nil]
  | cons name rest ih =>
    intro place hplain hat
    obtain ⟨⟨hdot, hdots⟩, hplain⟩ := List.forall_mem_cons.mp hplain
    have hrest := ih (place ++ [name]) hplain (by rwa [← List.append_cons])
    rw [Entry.at?_append, Option.bind_eq_some_iff] at hat
    obtain ⟨parent, hparent, hat⟩ := hat
    cases parent with
    | file content => cases hat
    | link target => cases hat
    | dir entries =>
      rw [Entry.at?, Option.bind_eq_some_iff] at hat
      obtain ⟨inner, hinner, hat⟩ := hat
      -- The next entry is the last one, or something stands below it, and nothing stands below a link.
      have hinnerLink : ∀ target, inner ≠ .link target := by
        rintro target rfl
        cases rest with
        | nil => exact hlink target (Option.some.inj hat).symm
        | cons _ _ => cases hat
      rw [follow, hparent]
      simp only [hinner, beq_iff_eq, hdot, hdots, if_false]
      cases inner with
      | link target => exact absurd rfl (hinnerLink target)
      | file content => rw [hrest, ← List.append_cons]
      | dir entries => rw [hrest, ← List.append_cons]

namespace Holds

variable {disk : Disk} {path : Path} {names : List String} {entry : Entry}

theorem locate (h : Holds disk path names entry) (followLast : Bool) : disk.locate followLast path = .ok names := by
  have hne : path.text ≠ "" := by
    intro hempty
    have habsolute := h.absolute
    rw [Path.isAbsolute, hempty] at habsolute
    exact absurd habsolute (by decide)
  rw [Disk.locate, if_neg (by simpa using hne), h.steps, h.absolute]
  exact follow_of_at? followLast linkLimit h.noLink names [] h.plain h.at?

theorem entryAt (h : Holds disk path names entry) (followLast : Bool) : disk.entryAt followLast path = .ok entry := by
  simp only [Disk.entryAt, h.locate, h.at?, bind, Except.bind]

theorem readText {text : String} (h : Holds disk path names (.file text.toUTF8)) : disk.readText path = .ok text := by
  have htext : String.fromUTF8? text.toUTF8 = some text := by
    simp only [String.fromUTF8?, Option.dite_none_right_eq_some]
    exact ⟨text.isValidUTF8, rfl⟩
  simp only [Disk.readText, readBytes, Disk.entry, h.entryAt, htext, bind, Except.bind]

end Holds

/-! ## Steps and links -/

/-- How steps lead from a place to another, with a number of links that may be followed. -/
inductive Leads (root : Entry) (followLast : Bool) : Nat → List String → List String → List String → Prop
  | done (links : Nat) (place : List String) : Leads root followLast links place [] place
  | here {links : Nat} {place rest last : List String} {entries : List (String × Entry)}
      (hdir : root.at? place = some (.dir entries)) (h : Leads root followLast links place rest last) :
      Leads root followLast links place ("." :: rest) last
  | up {links : Nat} {place rest last : List String} {entries : List (String × Entry)}
      (hdir : root.at? place = some (.dir entries)) (h : Leads root followLast links place.dropLast rest last) :
      Leads root followLast links place (".." :: rest) last
  | lastLink {links : Nat} {place : List String} {step target : String} {entries : List (String × Entry)}
      (hdir : root.at? place = some (.dir entries)) (hhere : step ≠ ".") (hup : step ≠ "..")
      (hlink : Entry.child? step entries = some (.link target)) (hfollow : followLast = false) :
      Leads root followLast links place [step] (place ++ [step])
  | link {links : Nat} {place rest last : List String} {step target : String} {entries : List (String × Entry)}
      (hdir : root.at? place = some (.dir entries)) (hhere : step ≠ ".") (hup : step ≠ "..")
      (hlink : Entry.child? step entries = some (.link target)) (hfollow : (rest.isEmpty && !followLast) = false)
      (h : Leads root followLast links (if target.startsWith "/" then [] else place) (steps target ++ rest) last) :
      Leads root followLast (links + 1) place (step :: rest) last
  | entry {links : Nat} {place rest last : List String} {step : String} {entries : List (String × Entry)}
      {entry : Entry} (hdir : root.at? place = some (.dir entries)) (hhere : step ≠ ".") (hup : step ≠ "..")
      (hentry : Entry.child? step entries = some entry) (hlink : ∀ target, entry ≠ .link target)
      (h : Leads root followLast links (place ++ [step]) rest last) :
      Leads root followLast links place (step :: rest) last

theorem follow_eq_ok_iff {root : Entry} {followLast : Bool} {links : Nat} {place todo last : List String} :
    follow root followLast links place todo = .ok last ↔ Leads root followLast links place todo last := by
  constructor
  · intro h
    fun_induction follow root followLast links place todo with
    | case1 links place =>
      cases h
      exact .done _ _
    | case2 links place step rest entries hdir hstep ih =>
      rw [beq_iff_eq] at hstep
      exact hstep ▸ .here hdir (ih h)
    | case3 links place step rest entries hdir _ hstep ih =>
      rw [beq_iff_eq] at hstep
      exact hstep ▸ .up hdir (ih h)
    | case5 links place step rest entries hdir hhere hup target hlink hlast =>
      cases h
      rw [Bool.and_eq_true, List.isEmpty_iff, Bool.not_eq_true'] at hlast
      obtain ⟨rfl, hfollow⟩ := hlast
      exact .lastLink hdir (by simpa using hhere) (by simpa using hup) hlink hfollow
    | case7 place step rest entries hdir hhere hup target hlink hlast links start ih =>
      exact .link hdir (by simpa using hhere) (by simpa using hup) hlink (by simpa using hlast) (ih h)
    | case8 links place step rest entries hdir hhere hup entry hentry hchild ih =>
      exact .entry hdir (by simpa using hhere) (by simpa using hup) hchild hentry (ih h)
    | case4 | case6 | case9 | case10 => cases h
  · intro h
    induction h with
    | done links place => rw [follow]
    | here hdir _ ih => rw [follow, hdir]; simpa using ih
    | up hdir _ ih => rw [follow, hdir]; simpa using ih
    | lastLink hdir hhere hup hlink hfollow => rw [follow, hdir]; simp [hhere, hup, hlink, hfollow]
    | link hdir hhere hup hlink hfollow _ ih =>
      rw [follow, hdir]
      simp only [beq_iff_eq, hhere, hup, if_false, hlink, hfollow]
      simpa using ih
    | entry hdir hhere hup hentry hlink _ ih =>
      rw [follow, hdir]
      simp only [beq_iff_eq, hhere, hup, if_false, hentry]
      exact ih

namespace Leads

variable {root : Entry} {followLast : Bool} {links : Nat} {place todo last : List String}

/-- A dot may follow what leads to a directory. -/
theorem append_here (h : Leads root followLast links place todo last) {entries : List (String × Entry)}
    (hlast : root.at? last = some (.dir entries)) : Leads root followLast links place (todo ++ ["."]) last := by
  induction h with
  | done links place => exact .here hlast (.done links place)
  | here hdir _ ih => exact .here hdir (ih hlast)
  | up hdir _ ih => exact .up hdir (ih hlast)
  | lastLink hdir _ _ hlink _ =>
    rw [Entry.at?_concat hdir, hlink] at hlast
    cases hlast
  | link hdir hhere hup hlink _ _ ih =>
    rw [List.cons_append]
    refine .link hdir hhere hup hlink (by simp) ?_
    rw [← List.append_assoc]
    exact ih hlast
  | entry hdir hhere hup hentry hlink _ ih => exact .entry hdir hhere hup hentry hlink (ih hlast)

/-- A dot at the end may be replaced by the name of an entry. -/
theorem replace_here {steps : List String} (h : Leads root followLast links place steps last)
    (hsteps : steps = todo ++ ["."]) {name : String} {final : List String}
    (hname : ∀ links, Leads root followLast links last [name] final) :
    Leads root followLast links place (todo ++ [name]) final := by
  induction h generalizing todo with
  | done => simp at hsteps
  | here hdir h ih =>
    cases todo with
    | nil =>
      cases hsteps
      cases h
      exact hname _
    | cons step todo =>
      cases hsteps
      exact .here hdir (ih rfl hname)
  | up hdir h ih =>
    cases todo with
    | nil => simp at hsteps
    | cons step todo =>
      cases hsteps
      exact .up hdir (ih rfl hname)
  | lastLink hdir hhere hup hlink hfollow =>
    cases todo with
    | nil =>
      cases hsteps
      exact absurd rfl hhere
    | cons step todo => simp at hsteps
  | link hdir hhere hup hlink hfollow h ih =>
    cases todo with
    | nil =>
      cases hsteps
      exact absurd rfl hhere
    | cons step todo =>
      obtain ⟨rfl, rfl⟩ := List.cons.inj hsteps
      rw [List.cons_append]
      refine .link hdir hhere hup hlink (by simp) ?_
      rw [← List.append_assoc]
      exact ih (List.append_assoc _ _ _).symm hname
  | entry hdir hhere hup hentry hlink h ih =>
    cases todo with
    | nil =>
      cases hsteps
      exact absurd rfl hhere
    | cons step todo =>
      cases hsteps
      exact .entry hdir hhere hup hentry hlink (ih rfl hname)

/-- Following a link at the end makes no difference where there is none. -/
theorem followLast_true (h : Leads root followLast links place todo last) {entry : Entry}
    (hlast : root.at? last = some entry) (hlink : ∀ target, entry ≠ .link target) :
    Leads root true links place todo last := by
  induction h with
  | done links place => exact .done links place
  | here hdir _ ih => exact .here hdir (ih hlast)
  | up hdir _ ih => exact .up hdir (ih hlast)
  | lastLink hdir _ _ hchild _ =>
    rw [Entry.at?_concat hdir, hchild] at hlast
    exact absurd (Option.some.inj hlast).symm (hlink _)
  | link hdir hhere hup hchild _ _ ih => exact .link hdir hhere hup hchild (by simp) (ih hlast)
  | entry hdir hhere hup hentry hchild _ ih => exact .entry hdir hhere hup hentry hchild (ih hlast)

/-- Where a link at the end is not followed, the steps lead to the same place or to a link. -/
theorem followLast_false (h : Leads root true links place todo last) :
    ∃ reached, Leads root false links place todo reached ∧
      (reached = last ∨ ∃ target, root.at? reached = some (.link target)) := by
  induction h with
  | done links place => exact ⟨place, .done links place, .inl rfl⟩
  | here hdir _ ih =>
    obtain ⟨reached, hreached, hlast⟩ := ih
    exact ⟨reached, .here hdir hreached, hlast⟩
  | up hdir _ ih =>
    obtain ⟨reached, hreached, hlast⟩ := ih
    exact ⟨reached, .up hdir hreached, hlast⟩
  | lastLink _ _ _ _ hfollow => cases hfollow
  | @link links place rest last step target entries hdir hhere hup hlink _ _ ih =>
    cases rest with
    | nil =>
      refine ⟨place ++ [step], .lastLink hdir hhere hup hlink rfl, .inr ⟨target, ?_⟩⟩
      rw [Entry.at?_concat hdir, hlink]
    | cons next rest =>
      obtain ⟨reached, hreached, hlast⟩ := ih
      exact ⟨reached, .link hdir hhere hup hlink rfl hreached, hlast⟩
  | entry hdir hhere hup hentry hlink _ ih =>
    obtain ⟨reached, hreached, hlast⟩ := ih
    exact ⟨reached, .entry hdir hhere hup hentry hlink hreached, hlast⟩

end Leads

theorem exists_steps {path : Path} (h : path.text ≠ "") : ∃ names,
    (steps path.text = names ∨ steps path.text = names ++ ["."]) ∧
    ∀ name, Path.IsName name → steps (path.join ⟨name⟩).text = names ++ [name] := by
  obtain ⟨front, hfront⟩ := Path.exists_hasFront h
  refine ⟨(Path.frontParts front).filter (· != ""), ?_, ?_⟩
  · rcases hfront.parts_eq with ⟨hparts, hslash⟩ | ⟨hparts, hslash⟩
    · left
      simp only [steps, hparts, hslash, Bool.false_eq_true, if_false]
    · right
      simp [steps, hparts, hslash]
  · intro name hname
    simp [steps, hfront.parts_join hname, hfront.endsWith_slash_join hname, hname.ne_empty]

variable {disk : Disk} {path : Path} {place : List String} {entries : List (String × Entry)}

theorem text_ne_empty_of_locate {followLast : Bool} (h : disk.locate followLast path = .ok place) : path.text ≠ "" := by
  intro hempty
  rw [locate, if_pos (by simpa using hempty)] at h
  cases h

theorem locate_eq_ok_iff {followLast : Bool} (htext : path.text ≠ "") :
    disk.locate followLast path = .ok place ↔
      Leads disk.root followLast linkLimit (if path.isAbsolute then [] else disk.workingDir) (steps path.text)
        place := by
  rw [locate, if_neg (by simpa using htext)]
  exact follow_eq_ok_iff

theorem entryAt_eq_ok_iff {followLast : Bool} {entry : Entry} : disk.entryAt followLast path = .ok entry ↔
    ∃ place, disk.locate followLast path = .ok place ∧ disk.root.at? place = some entry := by
  rw [entryAt]
  cases hlocate : disk.locate followLast path with
  | error e => simp [bind, Except.bind]
  | ok place =>
    cases hat : disk.root.at? place <;> simp [bind, Except.bind, hat]

/-- However a path to a directory is spelled, a name joined to it leads to the entry of that name. -/
theorem locate_join (h : disk.locate false path = .ok place) (hdir : disk.root.at? place = some (.dir entries))
    {name : String} (hname : Path.IsName name) {entry : Entry} (hentry : Entry.child? name entries = some entry) :
    disk.locate false (path.join ⟨name⟩) = .ok (place ++ [name]) := by
  have htext := text_ne_empty_of_locate h
  obtain ⟨front, hfront⟩ := Path.exists_hasFront htext
  obtain ⟨names, hsteps, hjoin⟩ := exists_steps htext
  have hlast : ∀ links, Leads disk.root false links place [name] (place ++ [name]) := by
    intro links
    cases entry with
    | link target => exact .lastLink hdir hname.ne_here hname.ne_up hentry rfl
    | file | dir => exact .entry hdir hname.ne_here hname.ne_up hentry (fun _ ↦ Entry.noConfusion) (.done _ _)
  rw [locate_eq_ok_iff htext] at h
  rw [locate_eq_ok_iff (hfront.join_ne_empty hname), hfront.isAbsolute_join htext hname, hjoin name hname]
  rcases hsteps with hsteps | hsteps
  · rw [hsteps] at h
    exact (h.append_here hdir).replace_here rfl hlast
  · exact h.replace_here hsteps hlast

/-- Names lead down the tree below a path, however the path is spelled. -/
theorem locate_descend {names : List String} {entry : Entry} (hroot : disk.root.WellFormed)
    (h : disk.locate false path = .ok place) (hat : disk.root.at? (place ++ names) = some entry) :
    disk.locate false (path.descend names) = .ok (place ++ names) := by
  induction names generalizing path place with
  | nil => rwa [List.append_nil]
  | cons name rest ih =>
    have hparent := hat
    rw [Entry.at?_append, Option.bind_eq_some_iff] at hparent
    obtain ⟨parent, hparent, hinner⟩ := hparent
    cases parent with
    | file | link => cases hinner
    | dir entries =>
      rw [Entry.at?, Option.bind_eq_some_iff] at hinner
      obtain ⟨child, hchild, -⟩ := hinner
      have hjoin := locate_join h hparent ((hroot.at? hparent).isName hchild) hchild
      rw [List.append_cons] at hat ⊢
      exact ih hjoin hat

theorem linkEntry_descend {names : List String} {top entry : Entry} (hroot : disk.root.WellFormed)
    (h : disk.linkEntry path = .ok top) (hat : top.at? names = some entry) :
    disk.linkEntry (path.descend names) = .ok entry := by
  obtain ⟨place, hplace, htop⟩ := entryAt_eq_ok_iff.mp h
  have hentry : disk.root.at? (place ++ names) = some entry := by
    rw [Entry.at?_append, htop, Option.bind_some, hat]
  exact entryAt_eq_ok_iff.mpr ⟨_, locate_descend hroot hplace hentry, hentry⟩

theorem locate_true_of_false (h : disk.locate false path = .ok place) {entry : Entry}
    (hat : disk.root.at? place = some entry) (hlink : ∀ target, entry ≠ .link target) :
    disk.locate true path = .ok place := by
  have htext := text_ne_empty_of_locate h
  rw [locate_eq_ok_iff htext] at h ⊢
  exact h.followLast_true hat hlink

/-- A path stands for the place that it leads to, or for a link. -/
theorem locate_false_of_true (h : disk.locate true path = .ok place) :
    disk.locate false path = .ok place ∨ ∃ target, disk.linkEntry path = .ok (.link target) := by
  have htext := text_ne_empty_of_locate h
  obtain ⟨reached, hreached, hlast⟩ := ((locate_eq_ok_iff htext).mp h).followLast_false
  have hlocate := (locate_eq_ok_iff htext).mpr hreached
  rcases hlast with rfl | ⟨target, htarget⟩
  · exact .inl hlocate
  · exact .inr ⟨target, entryAt_eq_ok_iff.mpr ⟨reached, hlocate, htarget⟩⟩

theorem isDir_iff : disk.isDir path = true ↔
    ∃ place entries, disk.locate true path = .ok place ∧ disk.root.at? place = some (.dir entries) := by
  have hentry : disk.isDir path = true ↔ ∃ entries, disk.entry path = .ok (.dir entries) := by
    rw [isDir]
    split
    · rename_i entries h
      simp [h]
    · rename_i h
      simpa using h
  rw [hentry]
  simp only [entry, entryAt_eq_ok_iff]
  exact exists_comm

/-- Disks that differ at most in the order in which directories list their entries. -/
structure SameTree (a b : Disk) : Prop where
  workingDir : a.workingDir = b.workingDir
  root : a.root.SameTree b.root

namespace SameTree

variable {a b : Disk}

theorem symm (h : a.SameTree b) : b.SameTree a := ⟨h.workingDir.symm, h.root.symm⟩

theorem leads (h : a.root.SameTree b.root) {followLast : Bool} {links : Nat} {place todo last : List String}
    (hleads : Leads a.root followLast links place todo last) : Leads b.root followLast links place todo last := by
  induction hleads with
  | done links place => exact .done links place
  | here hdir _ ih =>
    obtain ⟨_, hdir, -⟩ := h.at?_dir hdir
    exact .here hdir ih
  | up hdir _ ih =>
    obtain ⟨_, hdir, -⟩ := h.at?_dir hdir
    exact .up hdir ih
  | lastLink hdir hhere hup hlink hfollow =>
    obtain ⟨_, hdir, hsame⟩ := h.at?_dir hdir
    exact .lastLink hdir hhere hup (hsame.child?_link hlink) hfollow
  | link hdir hhere hup hlink hfollow _ ih =>
    obtain ⟨_, hdir, hsame⟩ := h.at?_dir hdir
    exact .link hdir hhere hup (hsame.child?_link hlink) hfollow ih
  | entry hdir hhere hup hentry hlink _ ih =>
    obtain ⟨_, hdir, hsame⟩ := h.at?_dir hdir
    obtain ⟨inner, hinner, hsame⟩ := hsame.child? hentry
    refine .entry hdir hhere hup hinner ?_ ih
    rintro target rfl
    exact hlink target hsame.eq_link

theorem locate (h : a.SameTree b) {followLast : Bool} {path : Path} {place : List String}
    (hplace : a.locate followLast path = .ok place) : b.locate followLast path = .ok place := by
  have htext := text_ne_empty_of_locate hplace
  rw [locate_eq_ok_iff htext] at hplace ⊢
  rw [← h.workingDir]
  exact leads h.root hplace

theorem linkEntry (h : a.SameTree b) {path : Path} {entry : Entry} (hentry : a.linkEntry path = .ok entry) :
    ∃ other, b.linkEntry path = .ok other ∧ entry.SameTree other := by
  obtain ⟨place, hplace, hat⟩ := entryAt_eq_ok_iff.mp hentry
  obtain ⟨other, hother, hsame⟩ := h.root.at? hat
  exact ⟨other, entryAt_eq_ok_iff.mpr ⟨place, h.locate hplace, hother⟩, hsame⟩

end SameTree

end Disk

end SolAudit
