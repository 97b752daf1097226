import SolAudit.Proofs.Disk
import SolAudit.Source.Location

/-!
# A resolver while files change

Many tasks share one resolver, and files on disk come and go while they use it. All that a call shares with other
calls is what the resolver knows of the file that it is about, and it touches that at one moment: it takes what is
known, or reads the file if nothing is. Calls are therefore taken in the order of these moments, whatever tasks they
belong to, with any changes of the disk between them.

What is known of a file is how it was on disk at the first call about it (`lookup_known_after`), also if it could not be
read then. So every later call gets the answer of a resolver that is new and finds the file as it was at that call.
-/

namespace SolAudit.Source

/-- What happens while a resolver is in use: a call of some task, or a change of the disk. -/
inductive Event where
  | resolve (src : String)
  | change (effect : Disk → Disk)

namespace Event

/-- A file is written, if that is possible. -/
def write (path : Path) (content : ByteArray) : Event :=
  .change fun disk ↦ (disk.write path content).toOption.getD disk

def remove (path : Path) : Event := .change fun disk ↦ disk.delete path

def diskAfter (disk : Disk) : Event → Disk
  | .resolve _ => disk
  | .change effect => effect disk

end Event

def diskAfter (disk : Disk) (events : List Event) : Disk := events.foldl Event.diskAfter disk

/-- A resolver together with the disk that it reads from. -/
structure Session where
  resolver : Resolver
  disk : Disk

namespace Session

/-- A resolver that knows no file yet. -/
def start (table : Table) (disk : Disk) : Session := ⟨.ofTable table, disk⟩

/-- What a call returns. -/
def answer (session : Session) (src : String) : Except LocationError Span :=
  (session.resolver.resolve session.disk src).1

def next (session : Session) : Event → Session
  | .resolve src => { session with resolver := (session.resolver.resolve session.disk src).2 }
  | .change effect => { session with disk := effect session.disk }

def after (session : Session) (events : List Event) : Session := events.foldl next session

end Session

/-- Whether a range lies in the file at an index. -/
def inFile (index : Nat) (src : String) : Bool :=
  (Range.ofChars? src.toList).bind Range.fileIndex == some index

/-- The disk at the first call about the file at an index. -/
def diskAtFirst? (index : Nat) (disk : Disk) : List Event → Option Disk
  | [] => none
  | .resolve src :: rest => if inFile index src then some disk else diskAtFirst? index disk rest
  | .change effect :: rest => diskAtFirst? index (effect disk) rest

/-- The text at a path, unless there is none or it cannot be read. -/
def textAt? (disk : Disk) (path : Path) : Option String := (disk.readText path).toOption

/-- Whatever happens, the files of the table stay as they are. -/
def KeepsFiles (table : Table) (disk : Disk) (events : List Event) : Prop :=
  ∀ before, before <+: events → ∀ entry ∈ table.files,
    textAt? (diskAfter disk before) entry.2.path = textAt? disk entry.2.path

theorem fileOf_eq_ok_iff {table : Table} {src : String} {range : Range} {index : Nat} {file : File} :
    fileOf table src = .ok (range, index, file) ↔
      Range.ofChars? src.toList = some range ∧ range.fileIndex = some index ∧ table.get? index = some file := by
  unfold fileOf
  cases Range.ofChars? src.toList with
  | none => simp
  | some parsed =>
    cases hindex : parsed.fileIndex with
    | none => grind
    | some i => cases hfile : table.get? i <;> grind

theorem inFile_iff {index : Nat} {src : String} :
    inFile index src = true ↔ ∃ range, Range.ofChars? src.toList = some range ∧ range.fileIndex = some index := by
  rw [inFile, beq_iff_eq, Option.bind_eq_some_iff]

/-- A span depends only on the lines of the file that the range lies in. -/
theorem locateIn_congr {table : Table} {src : String} {range : Range} {index : Nat} {file : File}
    (hfile : fileOf table src = .ok (range, index, file)) {lines lines' : Nat → Option LineTable}
    (hlines : lines index = lines' index) : locateIn table lines src = locateIn table lines' src := by
  simp only [locateIn, hfile, bind, Except.bind, hlines]

/-- The lines are those of the text that comes with the file, or else of the text on disk. -/
theorem lines?_eq (file : File) (disk : Disk) :
    file.lines? disk = (file.content.or (textAt? disk file.path)).map LineTable.ofText := by
  rw [File.lines?, textAt?]
  cases file.content with
  | some text => rfl
  | none => cases disk.readText file.path <;> rfl

theorem lines?_congr {file : File} {disk other : Disk}
    (h : textAt? disk file.path = textAt? other file.path ∨ file.content.isSome) :
    file.lines? disk = file.lines? other := by
  rw [lines?_eq, lines?_eq]
  rcases h with htext | hcontent
  · rw [htext]
  · obtain ⟨text, htext⟩ := Option.isSome_iff_exists.mp hcontent
    rw [htext, Option.some_or, Option.some_or]

namespace Resolver

theorem lookup_learn (resolver : Resolver) (disk : Disk) (index asked : Nat) (file : File) :
    (resolver.learn disk index file).known.lookup asked =
      (resolver.known.lookup asked).or (if asked = index then some (file.lines? disk) else none) := by
  unfold learn
  by_cases hasked : asked = index
  · subst hasked
    cases hknown : resolver.known.lookup asked <;> simp [hknown]
  · have hother : (asked == index) = false := beq_false_of_ne hasked
    cases hknown : resolver.known.lookup index <;> simp [hasked, List.lookup_cons, hother]

theorem table_learn (resolver : Resolver) (disk : Disk) (index : Nat) (file : File) :
    (resolver.learn disk index file).table = resolver.table := by
  unfold learn
  split <;> rfl

theorem lookup_ofDisk (files : List (Nat × File)) (disk : Disk) (index : Nat) :
    (files.map fun (i, file) ↦ (i, file.lines? disk)).lookup index = (files.lookup index).map (·.lines? disk) := by
  induction files with
  | nil => rfl
  | cons entry rest ih =>
    obtain ⟨i, file⟩ := entry
    cases hi : index == i <;> simp [List.lookup_cons, hi, ih]

end Resolver

namespace Session

theorem table_next (session : Session) (event : Event) :
    (session.next event).resolver.table = session.resolver.table := by
  cases event with
  | change effect => rfl
  | resolve src =>
    rw [next, Resolver.resolve]
    split
    · rfl
    · exact Resolver.table_learn ..

/-- A call gets to know its own file, unless it is known, and no other. -/
theorem lookup_next (session : Session) (src : String) {index : Nat} {file : File}
    (hfile : session.resolver.table.get? index = some file) :
    (session.next (.resolve src)).resolver.known.lookup index =
      (session.resolver.known.lookup index).or
        (if inFile index src then some (file.lines? session.disk) else none) := by
  rw [next, Resolver.resolve]
  cases hof : fileOf session.resolver.table src with
  | error e =>
    have hout : inFile index src = false := by
      rw [Bool.eq_false_iff, ne_eq, inFile_iff]
      rintro ⟨range, hrange, hindex⟩
      rw [fileOf_eq_ok_iff.mpr ⟨hrange, hindex, hfile⟩] at hof
      cases hof
    simp [hout]
  | ok found =>
    obtain ⟨range, i, f⟩ := found
    obtain ⟨hrange, hindex, hf⟩ := fileOf_eq_ok_iff.mp hof
    have hin : inFile index src = true ↔ index = i := by
      rw [inFile, hrange, Option.bind_some, hindex, beq_iff_eq, Option.some_inj, eq_comm]
    simp only [Resolver.lookup_learn, hin]
    by_cases hi : index = i
    · subst hi
      rw [Option.some.inj (hfile.symm.trans hf)]
    · simp [hi]

/-- What a call returns, by what is known of its file. -/
theorem answer_eq {session : Session} {src : String} {range : Range} {index : Nat} {file : File}
    (hof : fileOf session.resolver.table src = .ok (range, index, file)) :
    session.answer src = locateIn session.resolver.table
      (fun _ ↦ (session.resolver.known.lookup index).getD (file.lines? session.disk)) src := by
  rw [answer, Resolver.resolve, hof]
  simp only [Resolver.table_learn]
  apply locateIn_congr hof
  rw [Resolver.lines, Resolver.lookup_learn, if_pos rfl]
  cases session.resolver.known.lookup index <;> rfl

theorem answer_of_error {session : Session} {src : String} {e : LocationError}
    (hof : fileOf session.resolver.table src = .error e) : session.answer src = .error e := by
  rw [answer, Resolver.resolve, hof]

/-! ## Any number of events -/

theorem table_after (session : Session) (events : List Event) :
    (session.after events).resolver.table = session.resolver.table := by
  induction events generalizing session with
  | nil => rfl
  | cons event rest ih => exact (ih (session.next event)).trans (session.table_next event)

theorem disk_after (session : Session) (events : List Event) :
    (session.after events).disk = diskAfter session.disk events := by
  induction events generalizing session with
  | nil => rfl
  | cons event rest ih =>
    have hnext : (session.next event).disk = event.diskAfter session.disk := by
      cases event <;> rfl
    exact (ih (session.next event)).trans (congrArg (diskAfter · rest) hnext)

/-- What is known of a file after some events was known before, or else is how the file was at the first call. -/
theorem lookup_known_after (events : List Event) {index : Nat} {file : File} :
    ∀ session : Session, session.resolver.table.get? index = some file →
      (session.after events).resolver.known.lookup index =
        (session.resolver.known.lookup index).or
          ((diskAtFirst? index session.disk events).map file.lines?) := by
  -- The induction goes through the events from the first on; once the file is known, later calls change nothing.
  induction events with
  | nil => simp [after, diskAtFirst?]
  | cons event rest ih =>
    intro session hfile
    have hrest := ih (session.next event) (by rwa [session.table_next event])
    rw [after, List.foldl_cons, ← after, hrest]
    cases event with
    | change effect => rfl
    | resolve src =>
      rw [lookup_next session src hfile, Option.or_assoc, diskAtFirst?]
      cases inFile index src <;> rfl

end Session

/-- A call at the end is the first about a file if there was none before it. -/
theorem diskAtFirst?_concat (index : Nat) (disk : Disk) (events : List Event) (src : String) :
    diskAtFirst? index disk (events ++ [.resolve src]) =
      (diskAtFirst? index disk events).or (if inFile index src then some (diskAfter disk events) else none) := by
  induction events generalizing disk with
  | nil => rfl
  | cons event rest ih =>
    cases event with
    | change effect => exact ih (effect disk)
    | resolve earlier =>
      rw [List.cons_append, diskAtFirst?, diskAtFirst?]
      cases inFile index earlier with
      | true => rfl
      | false => exact ih disk

theorem exists_of_diskAtFirst? {index : Nat} {first : Disk} (events : List Event) :
    ∀ {disk : Disk}, diskAtFirst? index disk events = some first →
      ∃ before, before <+: events ∧ first = diskAfter disk before := by
  induction events with
  | nil => intro disk h; cases h
  | cons event rest ih =>
    intro disk h
    have hlater : diskAtFirst? index (event.diskAfter disk) rest = some first →
        ∃ before, before <+: event :: rest ∧ first = diskAfter disk before := by
      intro h
      obtain ⟨before, hbefore, hfirst⟩ := ih h
      exact ⟨event :: before, List.cons_prefix_cons.mpr ⟨rfl, hbefore⟩, hfirst⟩
    cases event with
    | change effect => exact hlater h
    | resolve src =>
      rw [diskAtFirst?] at h
      split at h
      · exact ⟨[], List.nil_prefix, (Option.some.inj h).symm⟩
      · exact hlater h

theorem mem_files_of_get? {table : Table} {index : Nat} {file : File} (h : table.get? index = some file) :
    (index, file) ∈ table.files := by
  obtain ⟨before, after, hfiles, -⟩ := List.lookup_eq_some_iff.mp h
  simp [hfiles]

/-- A call changes no file. -/
theorem KeepsFiles.resolve {table : Table} {disk : Disk} {events : List Event} (h : KeepsFiles table disk events)
    (src : String) : KeepsFiles table disk (events ++ [.resolve src]) := by
  intro before hbefore
  rcases List.prefix_concat_iff.mp hbefore with rfl | hbefore
  · have hdisk : diskAfter disk (events ++ [.resolve src]) = diskAfter disk events := by
      rw [diskAfter, List.foldl_append]
      rfl
    rw [hdisk]
    exact h events (List.prefix_refl events)
  · exact h before hbefore

namespace Session

theorem answer_start {table : Table} {src : String} {range : Range} {index : Nat} {file : File}
    (hof : fileOf table src = .ok (range, index, file)) (disk : Disk) :
    (start table disk).answer src = locateIn table (fun _ ↦ file.lines? disk) src :=
  answer_eq hof

/-- A resolver that knows every file from the start has the answers of one that reads a file when it is asked about it. -/
theorem locate?_ofDisk (table : Table) (disk : Disk) (src : String) :
    (Resolver.ofDisk table disk).locate? src = ((start table disk).answer src).toOption := by
  rw [Resolver.locate?]
  congr 1
  cases hof : fileOf table src with
  | error e =>
    have hstart : (start table disk).answer src = .error e := answer_of_error hof
    rw [hstart]
    simp only [locateIn, Resolver.ofDisk, hof, bind, Except.bind]
  | ok found =>
    obtain ⟨range, index, file⟩ := found
    have hfile : table.files.lookup index = some file := (fileOf_eq_ok_iff.mp hof).2.2
    have hlines : (Resolver.ofDisk table disk).lines index = file.lines? disk := by
      rw [Resolver.lines, Resolver.ofDisk, Resolver.lookup_ofDisk, hfile]
      rfl
    rw [answer_start hof]
    exact locateIn_congr hof hlines

/-- After any events, the lines that a call sees are those of its file at the first call about it. -/
theorem answer_after {table : Table} {src : String} {range : Range} {index : Nat} {file : File}
    (hof : fileOf table src = .ok (range, index, file)) (disk : Disk) (events : List Event) :
    ∃ first, diskAtFirst? index disk (events ++ [.resolve src]) = some first ∧
      ((start table disk).after events).answer src = locateIn table (fun _ ↦ file.lines? first) src := by
  obtain ⟨hrange, hindex, hfile⟩ := fileOf_eq_ok_iff.mp hof
  have hin : inFile index src = true := inFile_iff.mpr ⟨range, hrange, hindex⟩
  have hknown : ((start table disk).after events).resolver.known.lookup index =
      (diskAtFirst? index disk events).map file.lines? :=
    lookup_known_after events (start table disk) hfile
  refine ⟨(diskAtFirst? index disk events).getD (diskAfter disk events), ?_, ?_⟩
  · rw [diskAtFirst?_concat, if_pos hin]
    cases diskAtFirst? index disk events <;> rfl
  · have htable : ((start table disk).after events).resolver.table = table := table_after _ events
    rw [answer_eq (by rwa [htable]), htable, hknown, disk_after]
    cases diskAtFirst? index disk events <;> rfl

/-- A call about a file, after any events, gets the answer of a new resolver on any disk on which the file is as it was
at the first call about it, and on any disk at all if the text of the file comes with it. While the files stay as they
are, the answer to a call, whatever it asks for, does not depend on the events before it. -/
theorem answer_as_at_first_call (table : Table) (disk : Disk) (events : List Event) (src : String) :
    (∀ range index file, Range.ofChars? src.toList = some range → range.fileIndex = some index →
      table.get? index = some file →
        ∃ first, diskAtFirst? index disk (events ++ [.resolve src]) = some first ∧
          ∀ other, textAt? other file.path = textAt? first file.path ∨ file.content.isSome →
            ((start table disk).after events).answer src = (start table other).answer src) ∧
    (KeepsFiles table disk events →
      ((start table disk).after events).answer src = (start table disk).answer src) := by
  constructor
  · intro range index file hrange hindex hfile
    have hof := fileOf_eq_ok_iff.mpr ⟨hrange, hindex, hfile⟩
    obtain ⟨first, hfirst, hanswer⟩ := answer_after hof disk events
    refine ⟨first, hfirst, ?_⟩
    intro other hother
    rw [hanswer, answer_start hof, lines?_congr hother]
  · intro hkeeps
    cases hof : fileOf table src with
    | error e =>
      have htable : ((start table disk).after events).resolver.table = table := table_after _ events
      have hstart : (start table disk).answer src = .error e := answer_of_error hof
      rw [hstart, answer_of_error (htable ▸ hof)]
    | ok found =>
      obtain ⟨range, index, file⟩ := found
      obtain ⟨first, hfirst, hanswer⟩ := answer_after hof disk events
      obtain ⟨before, hbefore, rfl⟩ := exists_of_diskAtFirst? _ hfirst
      have hmem := mem_files_of_get? (fileOf_eq_ok_iff.mp hof).2.2
      rw [hanswer, answer_start hof, lines?_congr (.inl (hkeeps.resolve src before hbefore _ hmem))]

/-- A file that comes without its text. -/
def bareFile : File := ⟨⟨"/B.sol"⟩, none⟩

/-- A table with that file at two indexes. -/
def sharedTable : Table := ⟨[(3, bareFile), (5, bareFile)]⟩

/-- A disk on which the file has a text. -/
def bareDisk (text : String) : Disk := ⟨.dir [("B.sol", .file text.toUTF8)], []⟩

/-- A call through one of the indexes, after which the file is removed and another one is written in its place. -/
def callAndReplace (text : String) : List Event :=
  [.resolve "9:4:3", .remove bareFile.path, .write bareFile.path text.toUTF8]

theorem holds_bareDisk (text : String) : (bareDisk text).Holds bareFile.path ["B.sol"] (.file text.toUTF8) where
  absolute := by with_unfolding_all rfl
  steps := by with_unfolding_all rfl
  plain := by decide
  at? := rfl
  noLink _ := Entry.noConfusion

theorem lines?_bareDisk (text : String) : bareFile.lines? (bareDisk text) = some (.ofText text) := by
  rw [lines?_eq, textAt?, (holds_bareDisk text).readText]
  rfl

theorem diskAfter_callAndReplace (text new : String) :
    diskAfter (bareDisk text) (callAndReplace new) = bareDisk new := by
  have hremove : (bareDisk text).delete bareFile.path = ⟨.dir [], []⟩ := by
    rw [Disk.delete, (holds_bareDisk text).locate]
    rfl
  have hwrite : Disk.write ⟨.dir [], []⟩ bareFile.path new.toUTF8 = .ok (bareDisk new) := by
    obtain ⟨habsolute, hsteps, -⟩ := holds_bareDisk new
    simp [Disk.write, Disk.locate, habsolute, hsteps, Disk.follow, Entry.at?, Entry.child?, Disk.putAt, Entry.put,
      Entry.setChild, bareDisk, bind, Except.bind]
  simp only [diskAfter, callAndReplace, Event.remove, Event.write, List.foldl_cons, List.foldl_nil, Event.diskAfter,
    hremove, hwrite]
  rfl

/-- Through the index that was used before, the lines are those of the first text; through the other index, they are
those of the second, which is too short. -/
theorem answers_after_replacement :
    ((start sharedTable (bareDisk "line one\nline two\n")).after (callAndReplace "line")).answer "14:3:3" =
      .ok ⟨bareFile.path, 2, 6, 9⟩ ∧
    ((start sharedTable (bareDisk "line one\nline two\n")).after (callAndReplace "line")).answer "14:3:5" =
      .error (.outOfRange "14:3:5" (.tooShort bareFile.path 4)) := by
  have hrange : Range.ofChars? "14:3:3".toList = some ⟨14, 3, some 3⟩ := by decide +kernel
  have hrange' : Range.ofChars? "14:3:5".toList = some ⟨14, 3, some 5⟩ := by decide +kernel
  have hof : fileOf sharedTable "14:3:3" = .ok (_, 3, bareFile) := fileOf_eq_ok_iff.mpr ⟨hrange, rfl, rfl⟩
  have hof' : fileOf sharedTable "14:3:5" = .ok (_, 5, bareFile) := fileOf_eq_ok_iff.mpr ⟨hrange', rfl, rfl⟩
  have hcall : inFile 3 "9:4:3" = true ∧ inFile 5 "9:4:3" = false ∧ inFile 5 "14:3:5" = true := by
    decide +kernel
  have hlines : LineTable.ofText "line one\nline two\n" = ⟨[0, 9, 18], 18⟩ := by decide +kernel
  have hlines' : LineTable.ofText "line" = ⟨[0], 4⟩ := by decide +kernel
  constructor
  · obtain ⟨first, hfirst, hanswer⟩ := (answer_as_at_first_call sharedTable (bareDisk "line one\nline two\n")
      (callAndReplace "line") "14:3:3").1 _ 3 bareFile hrange rfl rfl
    have hdisk : some (bareDisk "line one\nline two\n") = some first := by
      simpa [callAndReplace, diskAtFirst?, hcall] using hfirst
    cases hdisk
    rw [hanswer _ (.inl rfl), answer_start hof, locateIn, hof, lines?_bareDisk, hlines]
    rfl
  · obtain ⟨first, hfirst, hanswer⟩ := (answer_as_at_first_call sharedTable (bareDisk "line one\nline two\n")
      (callAndReplace "line") "14:3:5").1 _ 5 bareFile hrange' rfl rfl
    have hnone : diskAtFirst? 5 (bareDisk "line one\nline two\n") (callAndReplace "line") = none := by
      simp [callAndReplace, Event.remove, Event.write, diskAtFirst?, hcall]
    rw [diskAtFirst?_concat, hnone, if_pos hcall.2.2] at hfirst
    cases hfirst
    rw [hanswer _ (.inl rfl), answer_start hof', locateIn, hof', diskAfter_callAndReplace, lines?_bareDisk, hlines']
    rfl

end Session

end SolAudit.Source
