import SolAudit.CompilerOutput.Canonical
import SolAudit.Proofs.Outcome
import SolAudit.Proofs.Source.Sessions
import SolAudit.Proofs.Text.Numeral

/-!
# Triples of ranges

A range is written with the whole of its file index, an unsigned number of 64 bits, and read with a file index that is
a signed one. The triple of a range therefore reads back exactly if the file index is below `Text.idBound`, and exactly
the files of a table at such an index can be named by a triple (`triples_name_low_indexes`). Compiler output may place a
file at any index of 64 bits.
-/

namespace SolAudit.Source

namespace Range

/-- The numbers of a range are indexes: they have 64 bits. -/
structure Fits (range : Range) : Prop where
  offset : range.offset < Text.indexBound
  length : range.length < Text.indexBound
  fileIndex : ∀ index, range.fileIndex = some index → index < Text.indexBound

/-- The file index, if there is one, is also a signed number of 64 bits. -/
def HasLowIndex (range : Range) : Prop := ∀ index, range.fileIndex = some index → index < Text.idBound

/-- A file index as it is written. -/
def indexText : Option Nat → String
  | some n => toString n
  | none => "-1"

theorem fileIndex?_toString (n : Nat) :
    fileIndex? (toString n).toList = if n < Text.idBound then some (some n) else none := by
  rw [fileIndex?, Text.signed?_toString_eq]
  by_cases h : n < Text.idBound
  · rw [if_pos h, if_pos h]
  · rw [if_neg h, if_neg h]

theorem colon_not_mem_toString (n : Nat) : ':' ∉ (toString n).toList := by
  rw [Text.toList_toString]
  exact Text.not_mem_toDigits rfl n

theorem colon_not_mem_indexText (fileIndex : Option Nat) : ':' ∉ (indexText fileIndex).toList := by
  cases fileIndex with
  | none => decide
  | some n => exact colon_not_mem_toString n

theorem toList_render (range : Range) : range.render.toList =
    (toString range.offset).toList ++ ':' :: ((toString range.length).toList ++ ':' ::
      (indexText range.fileIndex).toList) := by
  have hrender : range.render =
      toString range.offset ++ ":" ++ toString range.length ++ ":" ++ indexText range.fileIndex := rfl
  rw [hrender]
  simp

/-- The three parts of a triple are the numbers as they are written. -/
theorem splitChars_render (range : Range) : Text.splitChars ':' range.render.toList =
    [(toString range.offset).toList, (toString range.length).toList, (indexText range.fileIndex).toList] := by
  rw [toList_render, Text.splitChars_append, Text.splitChars_append,
    Text.splitChars_of_not_mem (colon_not_mem_toString _), Text.splitChars_of_not_mem (colon_not_mem_toString _),
    Text.splitChars_of_not_mem (colon_not_mem_indexText _)]
  rfl

theorem ofChars?_render {range : Range} (h : range.Fits) :
    ofChars? range.render.toList =
      (fileIndex? (Text.trimChars (indexText range.fileIndex).toList)).map
        fun fileIndex ↦ { range with fileIndex } := by
  rw [ofChars?, splitChars_render]
  simp only [Text.trimChars_toString, Text.unsigned?_toString h.offset, Text.unsigned?_toString h.length]
  cases fileIndex? (Text.trimChars (indexText range.fileIndex).toList) <;> rfl

theorem ofChars?_render_of_low {range : Range} (h : range.Fits) (hlow : range.HasLowIndex) :
    ofChars? range.render.toList = some range := by
  obtain ⟨offset, length, fileIndex⟩ := range
  rw [ofChars?_render h]
  cases fileIndex with
  | none =>
    have hnone : fileIndex? (Text.trimChars (indexText none).toList) = some none := by decide
    rw [hnone]
    rfl
  | some index =>
    rw [indexText, Text.trimChars_toString, fileIndex?_toString, if_pos (hlow index rfl)]
    rfl

theorem ofChars?_render_of_not_low {range : Range} (h : range.Fits) (hlow : ¬range.HasLowIndex) :
    ofChars? range.render.toList = none := by
  obtain ⟨index, hindex, hle⟩ : ∃ index, range.fileIndex = some index ∧ ¬index < Text.idBound := by
    simpa [HasLowIndex] using hlow
  rw [ofChars?_render h, hindex, indexText, Text.trimChars_toString, fileIndex?_toString, if_neg hle]
  rfl

/-- What is read as a file index is a signed number of 64 bits. -/
theorem hasLowIndex_of_ofChars? {cs : List Char} {range : Range} (h : ofChars? cs = some range) :
    range.HasLowIndex := by
  intro index hindex
  unfold ofChars? at h
  split at h
  · rename_i offset length text _
    obtain ⟨_, -, h⟩ := Option.bind_eq_some_iff.mp h
    obtain ⟨_, -, h⟩ := Option.bind_eq_some_iff.mp h
    obtain ⟨fileIndex, hfile, h⟩ := Option.bind_eq_some_iff.mp h
    cases h
    cases hindex
    unfold fileIndex? at hfile
    split at hfile
    · rename_i n hsigned
      cases hfile
      exact Text.lt_of_signed? (by decide) hsigned
    · cases hfile
    · cases hfile
  · cases h

theorem ofChars?_of_parse {text : String} {range : Range} (h : parse text = .ok range) :
    ofChars? text.toList = some range := by
  unfold parse at h
  split at h
  · cases h
    assumption
  · cases h

end Range

/-- The range of a file at its first byte, with nothing in it. -/
def startOf (index : Nat) : Range := ⟨0, 0, some index⟩

theorem fits_startOf {index : Nat} (h : index < Text.indexBound) : (startOf index).Fits where
  offset := Nat.two_pow_pos 64
  length := Nat.two_pow_pos 64
  fileIndex := by
    rintro _ ⟨⟩
    exact h

/-- The triple of a range reads back exactly if its file index is low, and otherwise it is malformed, also where a range
is looked up. So the files that a table has at low indexes can be named by a triple, and no others. -/
theorem triples_name_low_indexes (table : Table) {range : Range} (hfits : range.Fits) :
    (Range.parse range.render = .ok range ↔ range.HasLowIndex) ∧
    (¬range.HasLowIndex → Range.parse range.render = .error (.malformed range.render) ∧
      ∀ disk, ((Resolver.ofTable table).resolve disk range.render).1 = .error (.malformed range.render)) ∧
    ∀ {index : Nat} {file : File}, table.get? index = some file →
      ((∃ src named, fileOf table src = .ok (named, index, file)) ↔ index < Text.idBound) := by
  refine ⟨⟨?_, ?_⟩, ?_, ?_⟩
  · intro h
    exact Range.hasLowIndex_of_ofChars? (Range.ofChars?_of_parse h)
  · intro hlow
    rw [Range.parse, Range.ofChars?_render_of_low hfits hlow]
  · intro hlow
    have hnone := Range.ofChars?_render_of_not_low hfits hlow
    constructor
    · rw [Range.parse, hnone]
    · intro disk
      have hof : fileOf table range.render = .error (.malformed range.render) := by rw [fileOf, hnone]
      rw [Resolver.resolve, Resolver.ofTable, hof]
  · intro index file hfile
    constructor
    · rintro ⟨src, named, h⟩
      obtain ⟨hparsed, hindex, -⟩ := fileOf_eq_ok_iff.mp h
      exact Range.hasLowIndex_of_ofChars? hparsed index hindex
    · intro hlow
      have hbound : index < Text.indexBound := Nat.lt_trans hlow (by decide)
      have hstart : (startOf index).HasLowIndex := by
        rintro _ ⟨⟩
        exact hlow
      refine ⟨(startOf index).render, startOf index, fileOf_eq_ok_iff.mpr ⟨?_, rfl, hfile⟩⟩
      exact Range.ofChars?_render_of_low (fits_startOf hbound) hstart

/-- Build output that gives a file the largest index. -/
def lastIndexDocument : Json :=
  .obj [("_format", .str "hh-sol-build-info-1"), ("output", .obj [("sources", .obj [
    ("A.sol", .obj [("ast", .obj [("nodeType", .str "SourceUnit")]), ("id", .nat Text.lastIndex)])])])]

open CompilerOutput Outcome in
/-- The file is accepted, but its triple does not read back, and no triple names it. -/
theorem lastIndex_has_no_triple :
    ∃ canonical file, canonicalOf lastIndexDocument ⟨"/p"⟩ = .ok canonical ∧
      canonical.table.get? Text.lastIndex = some file ∧ (startOf Text.lastIndex).Fits ∧
      Range.parse (startOf Text.lastIndex).render = .error (.malformed "0:0:18446744073709551615") ∧
      ¬∃ src named, fileOf canonical.table src = .ok (named, Text.lastIndex, file) := by
  have hfits : (startOf Text.lastIndex).Fits := fits_startOf (by decide)
  have hlow : ¬(startOf Text.lastIndex).HasLowIndex := by
    intro h
    exact absurd (h Text.lastIndex rfl) (by decide)
  have hrender : (startOf Text.lastIndex).render = "0:0:18446744073709551615" := by decide +kernel
  have haccepted : ((canonicalOf lastIndexDocument ⟨"/p"⟩).toOption.bind fun canonical ↦
      canonical.table.get? Text.lastIndex) = some ⟨⟨"/p/A.sol"⟩, none⟩ := by decide +kernel
  obtain ⟨canonical, hcanonical, hfile⟩ := Option.bind_eq_some_iff.mp haccepted
  obtain ⟨-, hmalformed, hnames⟩ := triples_name_low_indexes canonical.table hfits
  refine ⟨canonical, ⟨⟨"/p/A.sol"⟩, none⟩, toOption_eq_some_iff.mp hcanonical, hfile, hfits, ?_, ?_⟩
  · rw [(hmalformed hlow).1, hrender]
  · rw [hnames hfile]
    decide

end SolAudit.Source
