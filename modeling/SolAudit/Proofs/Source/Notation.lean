import Mathlib
import SolAudit.Proofs.Text.Numeral
import SolAudit.Source.Range

/-!
# The notation of ranges

Which texts denote a range: three parts with two colons between them, each of them a number with blanks around it. The
first two are unsigned numbers of 64 bits. The third is a signed one that is not less than -1, and -1 is no file.
`parse_eq_ok_iff_denotes` says that these texts are read as the ranges that they denote, and that every other text is
malformed.
-/

namespace SolAudit.Source.Range

open Text

/-- Three parts with colons between them. -/
structure Splits (cs offset length index : List Char) : Prop where
  text : cs = offset ++ ':' :: (length ++ ':' :: index)
  offset : ':' ∉ offset
  length : ':' ∉ length
  index : ':' ∉ index

/-- The file that the third number of a triple stands for. -/
def fileOfNumber (number : Int) : Option Nat := if number = -1 then none else some number.toNat

/-- Three parts that are the numbers of a range. -/
structure Spells (offset length index : List Char) (range : Range) : Prop where
  offset : Padded (IsUnsigned · range.offset) offset
  offset_lt : range.offset < 2 ^ 64
  length : Padded (IsUnsigned · range.length) length
  length_lt : range.length < 2 ^ 64
  index : ∃ number : Int, Padded (IsSigned · number) index ∧ -1 ≤ number ∧ number < 2 ^ 63 ∧
    range.fileIndex = fileOfNumber number

def Denotes (text : String) (range : Range) : Prop :=
  ∃ offset length index, Splits text.toList offset length index ∧ Spells offset length index range

theorem splitChars_eq_iff {cs offset length index : List Char} :
    splitChars ':' cs = [offset, length, index] ↔ Splits cs offset length index := by
  constructor
  · intro h
    have htext := intercalate_splitChars ':' cs
    have hparts : ∀ part ∈ splitChars ':' cs, ':' ∉ part := not_mem_of_mem_splitChars
    rw [h] at htext hparts
    simp only [List.forall_mem_cons, List.not_mem_nil, false_imp_iff, implies_true, and_true] at hparts
    refine ⟨?_, hparts.1, hparts.2.1, hparts.2.2⟩
    rw [← htext]
    simp
  · rintro ⟨rfl, hoffset, hlength, hindex⟩
    rw [splitChars_append, splitChars_append, splitChars_of_not_mem hoffset, splitChars_of_not_mem hlength,
      splitChars_of_not_mem hindex]
    rfl

theorem fileIndex?_eq_bind (cs : List Char) : fileIndex? cs =
    (signed? idBound cs).bind fun number ↦ if -1 ≤ number then some (fileOfNumber number) else none := by
  unfold fileIndex?
  cases signed? idBound cs with
  | none => rfl
  | some number =>
    match number with
    | .ofNat n =>
      have hle : -1 ≤ (n : Int) := by omega
      have hne : (n : Int) ≠ -1 := by omega
      rw [Option.bind_some, Int.ofNat_eq_natCast, if_pos hle, fileOfNumber, if_neg hne]
      rfl
    | .negSucc 0 => rfl
    | .negSucc (n + 1) =>
      have hlt : ¬-1 ≤ Int.negSucc (n + 1) := by
        rw [Int.negSucc_eq]
        omega
      rw [Option.bind_some, if_neg hlt]
      rfl

theorem fileIndex?_eq_some_iff {cs : List Char} {fileIndex : Option Nat} :
    fileIndex? cs = some fileIndex ↔
      ∃ number : Int, IsSigned cs number ∧ -1 ≤ number ∧ number < 2 ^ 63 ∧ fileIndex = fileOfNumber number := by
  have hsigned (number : Int) : signed? idBound cs = some number ↔
      IsSigned cs number ∧ -(2 ^ 63) ≤ number ∧ number < 2 ^ 63 := signed?_eq_some_iff (Nat.two_pow_pos 63)
  rw [fileIndex?_eq_bind, Option.bind_eq_some_iff]
  refine exists_congr fun number ↦ ?_
  rw [hsigned, Option.ite_none_right_eq_some, Option.some.injEq]
  constructor
  · rintro ⟨⟨h, -, hlt⟩, hle, rfl⟩
    exact ⟨h, hle, hlt, rfl⟩
  · rintro ⟨h, hle, hlt, rfl⟩
    exact ⟨⟨h, by omega, hlt⟩, hle, rfl⟩

theorem spells_iff {offset length index : List Char} {range : Range} : Spells offset length index range ↔
    unsigned? indexBound (trimChars offset) = some range.offset ∧
      unsigned? indexBound (trimChars length) = some range.length ∧
      fileIndex? (trimChars index) = some range.fileIndex := by
  rw [unsigned?_trimChars_eq_some_iff, unsigned?_trimChars_eq_some_iff, fileIndex?_eq_some_iff]
  simp only [isSigned_trimChars_iff]
  constructor
  · intro h
    exact ⟨⟨h.offset, h.offset_lt⟩, ⟨h.length, h.length_lt⟩, h.index⟩
  · rintro ⟨⟨hoffset, hoffsetlt⟩, ⟨hlength, hlengthlt⟩, hindex⟩
    exact ⟨hoffset, hoffsetlt, hlength, hlengthlt, hindex⟩

theorem ofChars?_eq_some_iff {cs : List Char} {range : Range} : ofChars? cs = some range ↔
    ∃ offset length index, splitChars ':' cs = [offset, length, index] ∧
      unsigned? indexBound (trimChars offset) = some range.offset ∧
      unsigned? indexBound (trimChars length) = some range.length ∧
      fileIndex? (trimChars index) = some range.fileIndex := by
  unfold ofChars?
  split
  · rename_i offset length index hsplit
    simp only [Option.bind_eq_bind, Option.bind_eq_some_iff, Option.pure_def, Option.some.injEq]
    constructor
    · rintro ⟨_, hoffset, _, hlength, _, hindex, rfl⟩
      exact ⟨offset, length, index, hsplit, hoffset, hlength, hindex⟩
    · rintro ⟨_, _, _, hparts, hoffset, hlength, hindex⟩
      cases hsplit.symm.trans hparts
      exact ⟨_, hoffset, _, hlength, _, hindex, rfl⟩
  · rename_i hsplit
    constructor
    · intro h
      cases h
    · rintro ⟨offset, length, index, hparts, -⟩
      exact absurd hparts (hsplit offset length index)

theorem ofChars?_eq_some_iff_denotes {text : String} {range : Range} :
    ofChars? text.toList = some range ↔ Denotes text range := by
  simp only [ofChars?_eq_some_iff, Denotes, splitChars_eq_iff, spells_iff]

/-- A text is read as a range exactly if it denotes the range. Every other text is malformed, and the error holds it. -/
theorem parse_eq_ok_iff_denotes (text : String) : (∀ range, parse text = .ok range ↔ Denotes text range) ∧
    ∀ e, parse text = .error e ↔ e = .malformed text ∧ ∀ range, ¬Denotes text range := by
  simp only [← ofChars?_eq_some_iff_denotes]
  unfold parse
  cases ofChars? text.toList with
  | none => simp [eq_comm]
  | some range => simp

-- Zeros before a number and blanks around it do not matter, nor does a plus sign.
example : parse "+007:\u2003\u20034 : -01" = .ok ⟨7, 4, none⟩ := by
  decide +kernel

example : parse "1:-0:2" = .error (.malformed "1:-0:2") := by
  decide +kernel

end SolAudit.Source.Range
