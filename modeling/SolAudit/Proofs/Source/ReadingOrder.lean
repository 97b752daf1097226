import Mathlib.Data.Prod.Lex
import SolAudit.Proofs.Source.Lines

/-!
# Reading order

A text is read line by line and a line column by column. Offsets come in the same order as the places that they have
there, whatever line feeds the text has (`LineTable.strictMono_placeOf`): of two offsets in one line the columns count
from one start, and a line feed between them only moves the later one to a later line. So two ranges can be ordered by
their offsets once both are looked up in one text. A resolver does that for ranges with one file index, because all
lines that it gets to know are those of a text and stay as they are (`Resolver.OfTexts`).
-/

namespace SolAudit.Source

/-- Where a span starts: its line and, in that line, its column. Lines come first in the order. -/
def Span.start (span : Span) : ℕ ×ₗ ℕ := toLex (span.line, span.startColumn)

namespace LineTable

/-- The line and column of an offset. -/
def placeOf (table : LineTable) (offset : Nat) : ℕ ×ₗ ℕ :=
  toLex (table.lineOf offset, offset - table.starts.getD (table.lineOf offset - 1) 0 + 1)

/-- Where a span starts depends on neither its file nor its end. -/
theorem start_spanOf (table : LineTable) (path : Path) (offset stop : Nat) :
    (table.spanOf path offset stop).start = table.placeOf offset :=
  rfl

theorem strictMono_placeOf (bytes : List UInt8) : StrictMono (ofBytes bytes).placeOf := by
  intro offset stop hlt
  obtain ⟨start, hstart, hstarts⟩ := exists_startsLine bytes offset
  have hstartle := hstarts.le
  rw [placeOf, placeOf, Prod.Lex.toLex_lt_toLex]
  rcases (lineOf_mono bytes hlt.le).lt_or_eq with hline | hline
  · exact .inl hline
  · refine .inr ⟨hline, ?_⟩
    rw [← hline, List.getD_eq_getElem?_getD, hstart, Option.getD_some]
    omega

end LineTable

/-- A source reads as a range of a text: the text is what a resolver knows of its file or, if it knows nothing yet, what
it finds on disk. -/
structure ReadsIn (resolver : Resolver) (disk : Disk) (text : String) (src : String) (range : Range) : Prop where
  parsed : Range.ofChars? src.toList = some range
  found : ∃ index file, range.fileIndex = some index ∧ resolver.table.get? index = some file ∧
    (resolver.known.lookup index).getD (file.lines? disk) = some (.ofText text)
  inside : range.offset + range.length ≤ text.toUTF8.toList.length

theorem ReadsIn.exists_resolve_eq_ok {resolver : Resolver} {disk : Disk} {text src : String} {range : Range}
    (h : ReadsIn resolver disk text src range) :
    ∃ span, (resolver.resolve disk src).1 = .ok span ∧ span.start = (LineTable.ofText text).placeOf range.offset := by
  obtain ⟨index, file, hindex, hfile, hlines⟩ := h.found
  have hof : fileOf resolver.table src = .ok (range, index, file) := fileOf_eq_ok_iff.mpr ⟨h.parsed, hindex, hfile⟩
  have hnot : ¬range.stop > (LineTable.ofText text).size :=
    Nat.not_lt.mpr ((Nat.min_le_left _ _).trans h.inside)
  have hanswer : (resolver.resolve disk src).1 =
      locateIn resolver.table (fun _ ↦ (resolver.known.lookup index).getD (file.lines? disk)) src :=
    @Session.answer_eq ⟨resolver, disk⟩ src range index file hof
  refine ⟨(LineTable.ofText text).spanOf file.path range.offset range.stop, ?_, rfl⟩
  rw [hanswer, hlines]
  simp only [locateIn, hof, bind, Except.bind, if_neg hnot]

namespace Resolver

/-- All lines that a resolver knows are those of texts. -/
def OfTexts (resolver : Resolver) : Prop :=
  ∀ index lines, resolver.lines index = some lines → ∃ text, lines = .ofText text

theorem exists_text_of_lines? {file : File} {disk : Disk} {lines : LineTable} (h : file.lines? disk = some lines) :
    ∃ text, lines = .ofText text := by
  rw [lines?_eq] at h
  obtain ⟨text, -, rfl⟩ := Option.map_eq_some_iff.mp h
  exact ⟨text, rfl⟩

theorem ofTexts_ofTable (table : Table) : (ofTable table).OfTexts := by
  intro index lines h
  cases h

theorem ofTexts_ofDisk (table : Table) (disk : Disk) : (ofDisk table disk).OfTexts := by
  intro index lines h
  rw [Resolver.lines, ofDisk, lookup_ofDisk] at h
  cases hfile : table.files.lookup index with
  | none =>
    rw [hfile] at h
    cases h
  | some file =>
    rw [hfile] at h
    exact exists_text_of_lines? h

theorem OfTexts.learn {resolver : Resolver} (h : resolver.OfTexts) (disk : Disk) (index : Nat) (file : File) :
    (resolver.learn disk index file).OfTexts := by
  intro asked lines hlines
  rw [Resolver.lines, lookup_learn] at hlines
  cases hknown : resolver.known.lookup asked with
  | some known =>
    have hold : resolver.lines asked = some lines := by
      rw [Resolver.lines, hknown]
      simpa [hknown] using hlines
    exact h asked lines hold
  | none =>
    by_cases hasked : asked = index
    · have hread : file.lines? disk = some lines := by
        rw [hknown, if_pos hasked] at hlines
        exact hlines
      exact exists_text_of_lines? hread
    · rw [hknown, if_neg hasked] at hlines
      cases hlines

theorem OfTexts.next {session : Session} (h : session.resolver.OfTexts) (event : Event) :
    (session.next event).resolver.OfTexts := by
  cases event with
  | change effect => exact h
  | resolve src =>
    rw [Session.next, Resolver.resolve]
    split
    · exact h
    · exact h.learn _ _ _

/-- Whatever calls and changes of files come, a resolver knows texts. -/
theorem OfTexts.after {session : Session} (h : session.resolver.OfTexts) (events : List Event) :
    (session.after events).resolver.OfTexts := by
  induction events generalizing session with
  | nil => exact h
  | cons event rest ih => exact ih (h.next event)

/-- Two ranges with one file index that both have a place are looked up in one text. -/
theorem OfTexts.exists_placeOf {resolver : Resolver} (h : resolver.OfTexts) {index : Nat} {src src' : String}
    {span span' : Span} (hin : inFile index src = true) (hin' : inFile index src' = true)
    (hspan : resolver.locate? src = some span) (hspan' : resolver.locate? src' = some span') :
    ∃ text, span.start = (LineTable.ofText text).placeOf (Range.offsetOf src) ∧
      span'.start = (LineTable.ofText text).placeOf (Range.offsetOf src') := by
  have hplace {src : String} {span : Span} (hin : inFile index src = true) (hspan : resolver.locate? src = some span) :
      ∃ lines, resolver.lines index = some lines ∧ span.start = lines.placeOf (Range.offsetOf src) := by
    obtain ⟨range, hrange, hindex⟩ := inFile_iff.mp hin
    rw [locate?, locateIn] at hspan
    cases hof : fileOf resolver.table src with
    | error e => simp [hof, bind, Except.bind, Except.toOption] at hspan
    | ok found =>
      obtain ⟨range', index', file⟩ := found
      obtain ⟨hrange', hindex', -⟩ := fileOf_eq_ok_iff.mp hof
      cases Option.some.inj (hrange.symm.trans hrange')
      cases Option.some.inj (hindex.symm.trans hindex')
      simp only [hof, bind, Except.bind] at hspan
      cases hlines : resolver.lines index with
      | none => simp [hlines, Except.toOption] at hspan
      | some lines =>
        refine ⟨lines, rfl, ?_⟩
        simp only [hlines] at hspan
        split at hspan
        · cases hspan
        · cases hspan
          rw [LineTable.start_spanOf, Range.offsetOf_of_range hrange]
  obtain ⟨lines, hlines, hstart⟩ := hplace hin hspan
  obtain ⟨lines', hlines', hstart'⟩ := hplace hin' hspan'
  cases Option.some.inj (hlines.symm.trans hlines')
  obtain ⟨text, rfl⟩ := h index lines hlines
  exact ⟨text, hstart, hstart'⟩

/-- Such ranges stand in the order of their offsets. -/
theorem OfTexts.start_le_iff {resolver : Resolver} (h : resolver.OfTexts) {index : Nat} {src src' : String}
    {span span' : Span} (hin : inFile index src = true) (hin' : inFile index src' = true)
    (hspan : resolver.locate? src = some span) (hspan' : resolver.locate? src' = some span') :
    span.start ≤ span'.start ↔ Range.offsetOf src ≤ Range.offsetOf src' := by
  obtain ⟨text, hstart, hstart'⟩ := h.exists_placeOf hin hin' hspan hspan'
  rw [hstart, hstart']
  exact (LineTable.strictMono_placeOf _).le_iff_le

end Resolver

end SolAudit.Source
