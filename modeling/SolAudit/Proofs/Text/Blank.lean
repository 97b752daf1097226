import Mathlib.Data.List.TakeWhile
import SolAudit.Text.Blank

/-!
# Blanks around a text

The blanks are the characters with Unicode's `White_Space` property, which are listed here by their code points
(`isBlank_iff`). A text is blank if it has no other characters. What is trimmed off a text are blanks, and a text that
has none itself is what is left when blanks around it are trimmed off (`trimChars_of_pads`).
-/

namespace SolAudit.Text

/-- The code points with the `White_Space` property. -/
def whiteSpace : List Nat := [
  0x0009, 0x000A, 0x000B, 0x000C, 0x000D, 0x0020, 0x0085, 0x00A0, 0x1680, 0x2000, 0x2001, 0x2002, 0x2003,
  0x2004, 0x2005, 0x2006, 0x2007, 0x2008, 0x2009, 0x200A, 0x2028, 0x2029, 0x202F, 0x205F, 0x3000]

theorem isBlank_iff {c : Char} : isBlank c = true ↔ c.toNat ∈ whiteSpace := by
  simp only [isBlank, Bool.or_eq_true, Bool.and_eq_true, decide_eq_true_iff, beq_iff_eq, whiteSpace, List.mem_cons,
    List.not_mem_nil, or_false]
  omega

theorem isBlank_eq_false_iff {c : Char} : isBlank c = false ↔ c.toNat ∉ whiteSpace := by
  rw [← isBlank_iff, Bool.not_eq_true]

/-- A text with a character that is no blank. -/
def NotBlank (text : String) : Prop := ∃ c ∈ text.toList, c.toNat ∉ whiteSpace

theorem isBlankText_eq_false_iff {text : String} : isBlankText text = false ↔ NotBlank text := by
  simp only [isBlankText, List.all_eq_false, Bool.not_eq_true, isBlank_eq_false_iff, NotBlank]

theorem isBlank_of_isDigit {c : Char} (h : c.isDigit = true) : isBlank c = false := by
  have hbounds : 48 ≤ c.toNat ∧ c.toNat ≤ 57 := by
    simpa [Char.isDigit, UInt32.le_iff_toNat_le] using h
  simp only [isBlank, Bool.or_eq_false_iff, Bool.and_eq_false_iff, decide_eq_false_iff_not, beq_eq_false_iff_ne]
  omega

theorem dropWhile_isBlank {cs : List Char} (h : ∀ c ∈ cs, isBlank c = false) : cs.dropWhile isBlank = cs := by
  cases cs with
  | nil => rfl
  | cons c rest => rw [List.dropWhile_cons_of_neg (by simp [h c List.mem_cons_self])]

theorem trimChars_of_not_blank {cs : List Char} (h : ∀ c ∈ cs, isBlank c = false) : trimChars cs = cs := by
  rw [trimChars, dropWhile_isBlank h, dropWhile_isBlank, List.reverse_reverse]
  intro c hc
  exact h c (List.mem_reverse.mp hc)

/-- Blanks around a text. -/
structure Pads (front core back cs : List Char) : Prop where
  text : cs = front ++ core ++ back
  front : ∀ c ∈ front, c.toNat ∈ whiteSpace
  back : ∀ c ∈ back, c.toNat ∈ whiteSpace

/-- What is trimmed off are blanks. -/
theorem exists_pads_trimChars (cs : List Char) : ∃ front back, Pads front (trimChars cs) back cs := by
  have hfront : cs.takeWhile isBlank ++ cs.dropWhile isBlank = cs := List.takeWhile_append_dropWhile
  have hback := congrArg List.reverse
    (List.takeWhile_append_dropWhile (p := isBlank) (l := (cs.dropWhile isBlank).reverse))
  rw [List.reverse_append, List.reverse_reverse] at hback
  refine ⟨cs.takeWhile isBlank, ((cs.dropWhile isBlank).reverse.takeWhile isBlank).reverse, ?_, ?_, ?_⟩
  · rw [trimChars, List.append_assoc, hback, hfront]
  · intro c hc
    exact isBlank_iff.mp (List.mem_takeWhile_imp hc)
  · intro c hc
    exact isBlank_iff.mp (List.mem_takeWhile_imp (List.mem_reverse.mp hc))

/-- Blanks around a text without blanks are trimmed off. -/
theorem trimChars_of_pads {front core back cs : List Char} (h : Pads front core back cs)
    (hcore : ∀ c ∈ core, isBlank c = false) (hne : core ≠ []) : trimChars cs = core := by
  have hstart (rest : List Char) : ∀ {cs : List Char}, cs ≠ [] → (∀ c ∈ cs, isBlank c = false) →
      (cs ++ rest).dropWhile isBlank = cs ++ rest := by
    intro cs hne hcs
    obtain ⟨c, tail, rfl⟩ := List.exists_cons_of_ne_nil hne
    rw [List.cons_append, List.dropWhile_cons_of_neg (by simp [hcs c List.mem_cons_self])]
  have hfront : ∀ c ∈ front, isBlank c = true := fun c hc ↦ isBlank_iff.mpr (h.front c hc)
  have hback : ∀ c ∈ back.reverse, isBlank c = true := fun c hc ↦ isBlank_iff.mpr (h.back c (List.mem_reverse.mp hc))
  have hreverse : ∀ c ∈ core.reverse, isBlank c = false := fun c hc ↦ hcore c (List.mem_reverse.mp hc)
  rw [trimChars, h.text, List.append_assoc, List.dropWhile_append_of_pos hfront, hstart back hne hcore,
    List.reverse_append, List.dropWhile_append_of_pos hback, dropWhile_isBlank hreverse, List.reverse_reverse]

end SolAudit.Text
