import Mathlib.Data.Nat.PSub
import SolAudit.Proofs.Match.Order
import SolAudit.Proofs.Source.Sessions

/-!
# Lines and columns

A table of line starts is searched for the line of an offset. Its entries are the start of the text and the positions
after the line feeds (`mem_starts`), in ascending order, so as many of them are at or before an offset as there are
lines up to it, and the last of these is where the line of the offset starts. From this follows what the span of a range
says about the bytes of the text (`Describes`), and that no entry is looked up that is not there and no column is counted
from a later position (`checkedSpan?_eq`).
-/

namespace SolAudit.Source

/-- The line of an offset starts after the last line feed before it, or with the text if there is none. -/
structure StartsLine (bytes : List UInt8) (offset start : Nat) : Prop where
  le : start ≤ offset
  after : start = 0 ∨ bytes[start - 1]? = some 10
  unbroken : ∀ i, start ≤ i → i < offset → bytes[i]? ≠ some 10

/-- The line of an offset ends at the first line feed from it on. -/
structure EndsLine (bytes : List UInt8) (offset feed : Nat) : Prop where
  le : offset ≤ feed
  breaks : bytes[feed]? = some 10
  unbroken : ∀ i, offset ≤ i → i < feed → bytes[i]? ≠ some 10

/-- A span says where a range of bytes stands: in which line, from which column on and up to which. A range with a line
feed in it counts up to the first. -/
structure Describes (bytes : List UInt8) (offset stop : Nat) (span : Span) : Prop where
  line : span.line = 1 + (bytes.take offset).count 10
  columns : ∃ start, StartsLine bytes offset start ∧ span.startColumn = offset - start + 1 ∧
    ((∀ i, offset ≤ i → i < stop → bytes[i]? ≠ some 10) ∧ span.endColumn = stop - start + 1 ∨
      ∃ feed, EndsLine bytes offset feed ∧ feed < stop ∧ span.endColumn = feed - start + 1)

theorem Describes.bounds {bytes : List UInt8} {offset stop : Nat} {span : Span} (hle : offset ≤ stop)
    (h : Describes bytes offset stop span) :
    1 ≤ span.line ∧ 1 ≤ span.startColumn ∧ span.startColumn ≤ span.endColumn := by
  obtain ⟨hline, start, hstart, hcolumn, ⟨-, hend⟩ | ⟨feed, hfeed, -, hend⟩⟩ := h
  · have hstartle := hstart.le
    omega
  · have hstartle := hstart.le
    have hfeedle := hfeed.le
    omega

theorem mem_lineStarts {bytes : List UInt8} {position start : Nat} :
    start ∈ lineStarts position bytes ↔ ∃ i, bytes[i]? = some 10 ∧ start = position + i + 1 := by
  induction bytes generalizing position with
  | nil => simp [lineStarts]
  | cons byte rest ih =>
    have hcons : start ∈ lineStarts position (byte :: rest) ↔
        byte = 10 ∧ start = position + 1 ∨ start ∈ lineStarts (position + 1) rest := by
      rw [lineStarts]
      by_cases hbyte : byte = 10 <;> simp [hbyte]
    rw [hcons, ih]
    constructor
    · rintro (⟨rfl, rfl⟩ | ⟨i, hi, rfl⟩)
      · exact ⟨0, rfl, rfl⟩
      · exact ⟨i + 1, hi, by omega⟩
    · rintro ⟨i, hi, rfl⟩
      cases i with
      | zero => exact .inl ⟨by simpa using hi, rfl⟩
      | succ i => exact .inr ⟨i, hi, by omega⟩

theorem pairwise_lineStarts (bytes : List UInt8) (position : Nat) : (lineStarts position bytes).Pairwise (· < ·) := by
  induction bytes generalizing position with
  | nil => exact .nil
  | cons byte rest ih =>
    unfold lineStarts
    split
    · refine .cons ?_ (ih (position + 1))
      intro start hstart
      obtain ⟨i, -, rfl⟩ := mem_lineStarts.mp hstart
      omega
    · exact ih (position + 1)

theorem countP_lineStarts (bytes : List UInt8) (position offset : Nat) :
    (lineStarts position bytes).countP (· ≤ position + offset) = (bytes.take offset).count 10 := by
  induction bytes generalizing position offset with
  | nil => simp [lineStarts]
  | cons byte rest ih =>
    cases offset with
    | zero =>
      rw [List.take_zero, List.count_nil, List.countP_eq_zero]
      intro start hstart
      obtain ⟨i, -, rfl⟩ := mem_lineStarts.mp hstart
      simp only [decide_eq_true_eq]
      omega
    | succ offset =>
      have hrest := ih (position + 1) offset
      rw [Nat.add_right_comm, Nat.add_assoc] at hrest
      unfold lineStarts
      by_cases hbyte : byte = 10 <;> simp [hbyte, hrest]

/-- In an ascending list the entries up to a bound stand before the others. -/
theorem lt_countP_iff {l : List Nat} (hl : l.Pairwise (· < ·)) {k entry : Nat} (hk : l[k]? = some entry) (bound : Nat) :
    k < l.countP (· ≤ bound) ↔ entry ≤ bound := by
  induction l generalizing k with
  | nil => cases hk
  | cons first rest ih =>
    obtain ⟨hfirst, hrest⟩ := List.pairwise_cons.mp hl
    have hnone (hlater : ¬first ≤ bound) : rest.countP (· ≤ bound) = 0 := by
      rw [List.countP_eq_zero]
      intro a ha
      have := hfirst a ha
      simp only [decide_eq_true_eq]
      omega
    cases k with
    | zero =>
      cases hk
      by_cases hle : entry ≤ bound
      · simp [hle]
      · simp [hle, hnone hle]
    | succ k =>
      have hentry := hfirst entry (List.mem_of_getElem? hk)
      by_cases hle : first ≤ bound
      · simpa [hle] using ih hrest hk
      · have hlater : ¬entry ≤ bound := by omega
        simp [hle, hlater, hnone hle]

namespace LineTable

variable {bytes : List UInt8} {offset stop : Nat}

theorem mem_starts {start : Nat} :
    start ∈ (ofBytes bytes).starts ↔ start = 0 ∨ ∃ i, bytes[i]? = some 10 ∧ start = i + 1 := by
  simp [ofBytes, mem_lineStarts]

theorem pairwise_starts (bytes : List UInt8) : (ofBytes bytes).starts.Pairwise (· < ·) := by
  refine .cons ?_ (pairwise_lineStarts bytes 0)
  intro start hstart
  obtain ⟨i, -, rfl⟩ := mem_lineStarts.mp hstart
  omega

/-- The line of an offset is one more than the number of line feeds before it. -/
theorem lineOf_ofBytes (bytes : List UInt8) (offset : Nat) :
    (ofBytes bytes).lineOf offset = 1 + (bytes.take offset).count 10 := by
  have hcount := countP_lineStarts bytes 0 offset
  rw [Nat.zero_add] at hcount
  rw [lineOf, ofBytes, List.countP_cons_of_pos (by simp), hcount, Nat.add_comm]

theorem one_le_lineOf (bytes : List UInt8) (offset : Nat) : 1 ≤ (ofBytes bytes).lineOf offset := by
  rw [lineOf_ofBytes]
  omega

/-- The entries before the line of an offset are those at or before the offset. -/
theorem lt_lineOf_iff {k start : Nat} (hk : (ofBytes bytes).starts[k]? = some start) (offset : Nat) :
    k < (ofBytes bytes).lineOf offset ↔ start ≤ offset :=
  lt_countP_iff (pairwise_starts bytes) hk offset

theorem entry_mono {j k start next : Nat} (hj : (ofBytes bytes).starts[j]? = some start)
    (hk : (ofBytes bytes).starts[k]? = some next) (hle : j ≤ k) : start ≤ next := by
  have hnext : k < (ofBytes bytes).lineOf next := (lt_lineOf_iff hk next).mpr (Nat.le_refl next)
  exact (lt_lineOf_iff hj next).mp (Nat.lt_of_le_of_lt hle hnext)

theorem lineOf_le_length (table : LineTable) (offset : Nat) : table.lineOf offset ≤ table.starts.length :=
  List.countP_le_length

theorem lineOf_mono (bytes : List UInt8) (hle : offset ≤ stop) :
    (ofBytes bytes).lineOf offset ≤ (ofBytes bytes).lineOf stop := by
  apply List.countP_mono_left
  intro start _ hstart
  simp only [decide_eq_true_eq] at hstart ⊢
  omega

/-- After every line feed an entry stands in the table. -/
theorem exists_entry_after {i : Nat} (hi : bytes[i]? = some 10) :
    ∃ k : Nat, (ofBytes bytes).starts[k]? = some (i + 1) :=
  List.getElem?_of_mem (mem_starts.mpr (.inr ⟨i, hi, rfl⟩))

/-- The entry that is looked up for the start of the line is there, and the line starts at it. -/
theorem exists_startsLine (bytes : List UInt8) (offset : Nat) :
    ∃ start, (ofBytes bytes).starts[(ofBytes bytes).lineOf offset - 1]? = some start ∧
      StartsLine bytes offset start := by
  have hpos := one_le_lineOf bytes offset
  have hlength := (ofBytes bytes).lineOf_le_length offset
  obtain ⟨start, hstart⟩ : ∃ start, (ofBytes bytes).starts[(ofBytes bytes).lineOf offset - 1]? = some start :=
    ⟨_, List.getElem?_eq_getElem (by omega)⟩
  refine ⟨start, hstart, (lt_lineOf_iff hstart offset).mp (by omega), ?_, ?_⟩
  · rcases mem_starts.mp (List.mem_of_getElem? hstart) with rfl | ⟨i, hi, rfl⟩
    · exact .inl rfl
    · exact .inr hi
  · intro i hfrom hbefore hi
    -- The entry after such a line feed would stand before the line of the offset, so not after its start.
    obtain ⟨k, hk⟩ := exists_entry_after hi
    have hkline := (lt_lineOf_iff hk offset).mpr hbefore
    have hkstart : i + 1 ≤ start := entry_mono hk hstart (by omega)
    omega

/-- A later offset in the same line has no line feed before it that is not before the earlier one. -/
theorem unbroken_of_lineOf_eq (hline : (ofBytes bytes).lineOf stop = (ofBytes bytes).lineOf offset) (i : Nat)
    (hfrom : offset ≤ i) (hbefore : i < stop) : bytes[i]? ≠ some 10 := by
  intro hi
  obtain ⟨k, hk⟩ := exists_entry_after hi
  have hkstop := (lt_lineOf_iff hk stop).mpr hbefore
  have hkoffset := (lt_lineOf_iff hk offset).mp (hline ▸ hkstop)
  omega

/-- If a range goes on to a later line, then the entry that is looked up for the end of its first line is there, and
stands after the line feed that ends the line. -/
theorem exists_endsLine (hle : offset ≤ stop)
    (hline : (ofBytes bytes).lineOf stop ≠ (ofBytes bytes).lineOf offset) :
    ∃ feed, (ofBytes bytes).starts[(ofBytes bytes).lineOf offset]? = some (feed + 1) ∧
      EndsLine bytes offset feed ∧ feed < stop := by
  have hmono := lineOf_mono bytes hle
  have hlength := (ofBytes bytes).lineOf_le_length stop
  obtain ⟨next, hnext⟩ : ∃ next, (ofBytes bytes).starts[(ofBytes bytes).lineOf offset]? = some next :=
    ⟨_, List.getElem?_eq_getElem (by omega)⟩
  have hafter : ¬next ≤ offset := by
    rw [← lt_lineOf_iff hnext]
    omega
  have hstop : next ≤ stop := (lt_lineOf_iff hnext stop).mp (by omega)
  rcases mem_starts.mp (List.mem_of_getElem? hnext) with rfl | ⟨feed, hfeed, rfl⟩
  · omega
  · refine ⟨feed, hnext, ⟨by omega, hfeed, ?_⟩, by omega⟩
    intro i hfrom hbefore hi
    -- The entry after an earlier line feed would stand between the line of the offset and the entry of the line end.
    obtain ⟨k, hk⟩ := exists_entry_after hi
    have hkoffset : ¬k < (ofBytes bytes).lineOf offset := by
      rw [lt_lineOf_iff hk]
      omega
    have hknext : feed + 1 ≤ i + 1 := entry_mono hnext hk (by omega)
    omega

/-! ## Spans -/

/-- The span of a range, unless a lookup or a subtraction on the way to it fails. -/
def checkedSpan? (table : LineTable) (path : Path) (offset stop : Nat) : Option Span := do
  let line := table.lineOf offset
  let start ← table.starts[← Nat.psub line 1]?
  let startColumn := (← Nat.psub offset start) + 1
  let endColumn ←
    if table.lineOf stop == line then (Nat.psub stop start).map (· + 1)
    else table.starts[line]?.bind (Nat.psub · start)
  return { path, line, startColumn, endColumn := max endColumn startColumn }

theorem checkedSpan?_eq (bytes : List UInt8) (path : Path) (hle : offset ≤ stop) :
    (ofBytes bytes).checkedSpan? path offset stop = some ((ofBytes bytes).spanOf path offset stop) := by
  have hpos := one_le_lineOf bytes offset
  obtain ⟨start, hstart, hstarts⟩ := exists_startsLine bytes offset
  have hstartle := hstarts.le
  rw [checkedSpan?, spanOf, Nat.psub_eq_sub hpos]
  simp only [Option.bind_eq_bind, Option.bind_some, hstart, Nat.psub_eq_sub hstartle, List.getD_eq_getElem?_getD,
    Option.getD_some]
  by_cases hline : (ofBytes bytes).lineOf stop = (ofBytes bytes).lineOf offset
  · simp [hline, Nat.psub_eq_sub (hstartle.trans hle)]
  · obtain ⟨feed, hfeed, hends, -⟩ := exists_endsLine hle hline
    have hfeedle := hends.le
    simp [hline, hfeed, Nat.psub_eq_sub (show start ≤ feed + 1 by omega)]

theorem describes_spanOf (bytes : List UInt8) (path : Path) (hle : offset ≤ stop) :
    Describes bytes offset stop ((ofBytes bytes).spanOf path offset stop) := by
  obtain ⟨start, hstart, hstarts⟩ := exists_startsLine bytes offset
  have hstartle := hstarts.le
  refine ⟨lineOf_ofBytes bytes offset, start, hstarts, ?_, ?_⟩
  · simp [spanOf, hstart]
  by_cases hline : (ofBytes bytes).lineOf stop = (ofBytes bytes).lineOf offset
  · refine .inl ⟨unbroken_of_lineOf_eq hline, ?_⟩
    simp only [spanOf, List.getD_eq_getElem?_getD, hstart, Option.getD_some, hline, BEq.rfl, if_true]
    omega
  · obtain ⟨feed, hfeed, hends, hstop⟩ := exists_endsLine hle hline
    have hfeedle := hends.le
    refine .inr ⟨feed, hends, hstop, ?_⟩
    simp only [spanOf, List.getD_eq_getElem?_getD, hstart, Option.getD_some, beq_iff_eq, hline, if_false, hfeed]
    omega

end LineTable

/-- The bytes of the text that comes with the file, or else of the text on disk. -/
def File.bytes? (file : File) (disk : Disk) : Option (List UInt8) :=
  (file.content.or (textAt? disk file.path)).map (·.toUTF8.toList)

theorem lines?_eq_map_bytes? (file : File) (disk : Disk) :
    file.lines? disk = (file.bytes? disk).map LineTable.ofBytes := by
  rw [lines?_eq, File.bytes?, Option.map_map]
  rfl

/-- A text reads as a range inside the bytes of a file that is in the table and can be read. -/
structure LiesIn (table : Table) (disk : Disk) (src : String) (range : Range) (file : File) (bytes : List UInt8) :
    Prop where
  parsed : Range.ofChars? src.toList = some range
  listed : ∃ index, range.fileIndex = some index ∧ table.get? index = some file
  available : file.bytes? disk = some bytes
  inside : range.offset + range.length ≤ bytes.length

/-- Every text has fewer bytes than the largest index, at which the end of a range stops. No text in memory has as
many. -/
def Indexable (table : Table) (disk : Disk) : Prop :=
  ∀ index file bytes, table.get? index = some file → file.bytes? disk = some bytes → bytes.length < Text.lastIndex

theorem Range.offset_le_stop {src : String} {range : Range} (h : ofChars? src.toList = some range) :
    range.offset ≤ range.stop := by
  have hlast := offsetOf_le_lastIndex src
  rw [offsetOf_of_range h] at hlast
  unfold stop
  omega

/-- The end of a range is inside bytes that can be indexed exactly if it is without the bound on indexes. -/
theorem Range.stop_le_iff (range : Range) {size : Nat} (hsize : size < Text.lastIndex) :
    range.stop ≤ size ↔ range.offset + range.length ≤ size := by
  unfold stop
  omega

section

variable {table : Table} {disk : Disk} {src : String} {range : Range} {file : File} {bytes : List UInt8}

namespace LiesIn

theorem exists_fileOf (h : LiesIn table disk src range file bytes) :
    ∃ index, fileOf table src = .ok (range, index, file) := by
  obtain ⟨index, hindex, hfile⟩ := h.listed
  exact ⟨index, fileOf_eq_ok_iff.mpr ⟨h.parsed, hindex, hfile⟩⟩

theorem length_lt (h : LiesIn table disk src range file bytes) (hsize : Indexable table disk) :
    bytes.length < Text.lastIndex := by
  obtain ⟨index, -, hfile⟩ := h.listed
  exact hsize index file bytes hfile h.available

theorem stop_eq (h : LiesIn table disk src range file bytes) (hsize : Indexable table disk) :
    range.stop = range.offset + range.length := by
  have hinside := h.inside
  have hlength := h.length_lt hsize
  unfold Range.stop
  omega

theorem resolve_eq_ok (h : LiesIn table disk src range file bytes) (hsize : Indexable table disk) :
    ((Resolver.ofTable table).resolve disk src).1 =
      .ok ((LineTable.ofBytes bytes).spanOf file.path range.offset range.stop) := by
  obtain ⟨index, hof⟩ := h.exists_fileOf
  have hstop := (range.stop_le_iff (h.length_lt hsize)).mpr h.inside
  have hnot : ¬range.stop > (LineTable.ofBytes bytes).size := Nat.not_lt.mpr hstop
  calc ((Resolver.ofTable table).resolve disk src).1
      = locateIn table (fun _ ↦ file.lines? disk) src := Session.answer_start hof disk
    _ = .ok ((LineTable.ofBytes bytes).spanOf file.path range.offset range.stop) := by
        simp only [locateIn, hof, bind, Except.bind, lines?_eq_map_bytes?, h.available, Option.map_some, if_neg hnot]

end LiesIn

theorem exists_liesIn_of_resolve {span : Span} (hsize : Indexable table disk)
    (h : ((Resolver.ofTable table).resolve disk src).1 = .ok span) :
    ∃ range file bytes, LiesIn table disk src range file bytes := by
  have hanswer : (Session.start table disk).answer src = .ok span := h
  cases hof : fileOf table src with
  | error e =>
    rw [Session.answer_of_error hof] at hanswer
    cases hanswer
  | ok found =>
    obtain ⟨range, index, file⟩ := found
    obtain ⟨hparsed, hindex, hfile⟩ := fileOf_eq_ok_iff.mp hof
    rw [Session.answer_start hof, locateIn, hof] at hanswer
    simp only [bind, Except.bind, lines?_eq_map_bytes?] at hanswer
    cases hbytes : file.bytes? disk with
    | none =>
      rw [hbytes] at hanswer
      cases hanswer
    | some bytes =>
      rw [hbytes, Option.map_some] at hanswer
      simp only at hanswer
      split at hanswer
      · cases hanswer
      · rename_i hstop
        have hinside := (range.stop_le_iff (hsize index file bytes hfile hbytes)).mp (Nat.not_lt.mp hstop)
        exact ⟨range, file, bytes, hparsed, ⟨index, hindex, hfile⟩, hbytes, hinside⟩

end

/-- A range has a place exactly if it lies in a file, and its place is where the bytes of the file have it. Whatever the
bytes, every lookup and subtraction on the way succeeds. -/
theorem resolve_describes_bytes (table : Table) (disk : Disk) (hsize : Indexable table disk) (src : String) :
    ((∃ span, ((Resolver.ofTable table).resolve disk src).1 = .ok span) ↔
      ∃ range file bytes, LiesIn table disk src range file bytes) ∧
    (∀ range file bytes, LiesIn table disk src range file bytes →
      ∃ span, ((Resolver.ofTable table).resolve disk src).1 = .ok span ∧ span.path = file.path ∧
        Describes bytes range.offset (range.offset + range.length) span ∧
        1 ≤ span.line ∧ 1 ≤ span.startColumn ∧ span.startColumn ≤ span.endColumn) ∧
    ∀ range, Range.ofChars? src.toList = some range → ∀ (path : Path) (bytes : List UInt8),
      (LineTable.ofBytes bytes).checkedSpan? path range.offset range.stop =
        some ((LineTable.ofBytes bytes).spanOf path range.offset range.stop) := by
  refine ⟨?_, ?_, ?_⟩
  · constructor
    · rintro ⟨span, hspan⟩
      exact exists_liesIn_of_resolve hsize hspan
    · rintro ⟨range, file, bytes, hlies⟩
      exact ⟨_, hlies.resolve_eq_ok hsize⟩
  · intro range file bytes hlies
    have hle := Range.offset_le_stop hlies.parsed
    have hdescribes := LineTable.describes_spanOf bytes file.path hle
    exact ⟨_, hlies.resolve_eq_ok hsize, rfl, hlies.stop_eq hsize ▸ hdescribes, hdescribes.bounds hle⟩
  · intro range hparsed path bytes
    exact LineTable.checkedSpan?_eq bytes path (Range.offset_le_stop hparsed)

/-- A file of four lines, and an empty one. -/
def brokenTable : Table := ⟨[(0, ⟨⟨"/A.sol"⟩, some "abc\n  def \x7b\n  x;\n\x7d\n"⟩), (1, ⟨⟨"/B.sol"⟩, some ""⟩)]⟩

theorem indexable_brokenTable : Indexable brokenTable Disk.empty := by
  intro index file bytes hfile hbytes
  have hmem : (index, file) ∈ brokenTable.files := mem_files_of_get? hfile
  simp only [brokenTable, List.mem_cons, Prod.mk.injEq, List.not_mem_nil, or_false] at hmem
  rcases hmem with ⟨-, rfl⟩ | ⟨-, rfl⟩ <;> cases hbytes <;> decide +kernel

/-- A range over three lines ends at the end of its first; a range that ends after the largest index lies in no file. -/
theorem brokenTable_describes :
    (∃ span, ((Resolver.ofTable brokenTable).resolve Disk.empty "6:12:0").1 = .ok span ∧ span.path = ⟨"/A.sol"⟩ ∧
      Describes "abc\n  def \x7b\n  x;\n\x7d\n".toUTF8.toList 6 18 span ∧
      1 ≤ span.line ∧ 1 ≤ span.startColumn ∧ span.startColumn ≤ span.endColumn) ∧
    ¬∃ span, ((Resolver.ofTable brokenTable).resolve Disk.empty "18446744073709551615:1:1").1 = .ok span := by
  constructor
  · apply (resolve_describes_bytes brokenTable Disk.empty indexable_brokenTable "6:12:0").2.1
      ⟨6, 12, some 0⟩ ⟨⟨"/A.sol"⟩, _⟩
    exact ⟨by decide +kernel, ⟨0, rfl, rfl⟩, rfl, by decide +kernel⟩
  · rw [(resolve_describes_bytes brokenTable Disk.empty indexable_brokenTable _).1]
    rintro ⟨range, file, bytes, hparsed, ⟨index, hindex, hfile⟩, havailable, hinside⟩
    have hrange : Range.ofChars? "18446744073709551615:1:1".toList = some ⟨18446744073709551615, 1, some 1⟩ := by
      decide +kernel
    cases Option.some.inj (hparsed.symm.trans hrange)
    cases hindex
    cases hfile
    cases havailable
    revert hinside
    decide +kernel

end SolAudit.Source
