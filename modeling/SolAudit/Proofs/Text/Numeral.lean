import SolAudit.Proofs.Text.Blank
import SolAudit.Proofs.Text.Decimal

/-!
# Numerals between blanks

Which texts are read as numbers: decimal digits, at least one, after an optional sign, with a number that fits
(`unsigned?_eq_some_iff`, `signed?_eq_some_iff`). No sign and no digit is a blank, so a numeral with blanks around it is
what is left when they are trimmed (`kind_trimChars_iff`).
-/

namespace SolAudit.Text

/-- Decimal digits, of which the first may be zeros, and the number that they stand for. -/
structure IsNumeral (cs : List Char) (n : Nat) : Prop where
  ne_nil : cs ≠ []
  digits : ∀ c ∈ cs, c.isDigit = true
  value : Nat.ofDigitChars 10 cs 0 = n

/-- A numeral after an optional plus sign. -/
inductive IsUnsigned : List Char → Nat → Prop where
  | plain {cs : List Char} {n : Nat} (h : IsNumeral cs n) : IsUnsigned cs n
  | plus {cs : List Char} {n : Nat} (h : IsNumeral cs n) : IsUnsigned ('+' :: cs) n

/-- A numeral after an optional sign. -/
inductive IsSigned : List Char → Int → Prop where
  | unsigned {cs : List Char} {n : Nat} (h : IsUnsigned cs n) : IsSigned cs n
  | minus {cs : List Char} {n : Nat} (h : IsNumeral cs n) : IsSigned ('-' :: cs) (-n)

theorem digits_of_digitsValue {cs : List Char} {acc n : Nat} (h : digitsValue acc cs = some n) :
    ∀ c ∈ cs, c.isDigit = true := by
  induction cs generalizing acc with
  | nil => simp
  | cons c rest ih =>
    rw [digitsValue] at h
    split at h
    · rename_i hdigit
      exact List.forall_mem_cons.mpr ⟨hdigit, ih h⟩
    · cases h

theorem natValue?_eq_some_iff {cs : List Char} {n : Nat} : natValue? cs = some n ↔ IsNumeral cs n := by
  cases cs with
  | nil =>
    constructor
    · intro h
      cases h
    · intro h
      exact absurd rfl h.ne_nil
  | cons c rest =>
    rw [natValue?]
    constructor
    · intro h
      have hdigits := digits_of_digitsValue h
      rw [digitsValue_eq hdigits] at h
      exact ⟨List.cons_ne_nil _ _, hdigits, Option.some.inj h⟩
    · intro h
      rw [digitsValue_eq h.digits, h.value]

/-- A numeral does not begin with a sign. -/
theorem not_isNumeral_of_sign {c : Char} (hc : c.isDigit = false) {rest : List Char} {n : Nat} :
    ¬IsNumeral (c :: rest) n := by
  intro h
  have hdigit := h.digits c List.mem_cons_self
  rw [hc] at hdigit
  cases hdigit

theorem unsigned?_eq_some_iff {bound n : Nat} {cs : List Char} :
    unsigned? bound cs = some n ↔ IsUnsigned cs n ∧ n < bound := by
  have hfilter (digits : List Char) :
      (natValue? digits).filter (· < bound) = some n ↔ IsNumeral digits n ∧ n < bound := by
    rw [Option.filter_eq_some_iff, natValue?_eq_some_iff, decide_eq_true_iff]
  unfold unsigned?
  split
  · rename_i rest
    rw [hfilter]
    refine and_congr_left fun _ ↦ ⟨.plus, ?_⟩
    intro h
    cases h with
    | plain h => exact absurd h (not_isNumeral_of_sign rfl)
    | plus h => exact h
  · rename_i hsign
    rw [hfilter]
    refine and_congr_left fun _ ↦ ⟨.plain, ?_⟩
    intro h
    cases h with
    | plain h => exact h
    | plus h => exact absurd rfl (hsign _)

/-- The signed numbers that are read go from `-bound` up to `bound - 1`. -/
theorem signed?_eq_some_iff {bound : Nat} (hbound : 0 < bound) {cs : List Char} {i : Int} :
    signed? bound cs = some i ↔ IsSigned cs i ∧ -(bound : Int) ≤ i ∧ i < bound := by
  unfold signed?
  split
  · rename_i rest
    simp only [Option.bind_eq_bind, Option.pure_def, Option.map_eq_some_iff, Option.bind_eq_some_iff,
      Option.filter_eq_some_iff, natValue?_eq_some_iff, decide_eq_true_iff, Option.some.injEq]
    constructor
    · rintro ⟨_, ⟨n, ⟨h, hle⟩, rfl⟩, rfl⟩
      exact ⟨.minus h, by omega, by omega⟩
    · rintro ⟨h, hlow, -⟩
      cases h with
      | unsigned h =>
        cases h with
        | plain h => exact absurd h (not_isNumeral_of_sign rfl)
      | minus h => exact ⟨_, ⟨_, ⟨h, by omega⟩, rfl⟩, rfl⟩
  · rename_i hsign
    simp only [Option.bind_eq_bind, Option.pure_def, Option.map_eq_some_iff, Option.bind_eq_some_iff,
      unsigned?_eq_some_iff, Option.some.injEq]
    constructor
    · rintro ⟨_, ⟨n, ⟨h, hlt⟩, rfl⟩, rfl⟩
      exact ⟨.unsigned h, by omega, by omega⟩
    · rintro ⟨h, -, hlt⟩
      cases h with
      | unsigned h => exact ⟨_, ⟨_, ⟨h, by omega⟩, rfl⟩, rfl⟩
      | minus h => exact absurd rfl (hsign _)

theorem IsNumeral.not_blank {cs : List Char} {n : Nat} (h : IsNumeral cs n) : ∀ c ∈ cs, isBlank c = false :=
  fun c hc ↦ isBlank_of_isDigit (h.digits c hc)

theorem IsUnsigned.not_blank {cs : List Char} {n : Nat} (h : IsUnsigned cs n) : ∀ c ∈ cs, isBlank c = false := by
  cases h with
  | plain h => exact h.not_blank
  | plus h => exact List.forall_mem_cons.mpr ⟨by decide, h.not_blank⟩

theorem IsSigned.not_blank {cs : List Char} {i : Int} (h : IsSigned cs i) : ∀ c ∈ cs, isBlank c = false := by
  cases h with
  | unsigned h => exact h.not_blank
  | minus h => exact List.forall_mem_cons.mpr ⟨by decide, h.not_blank⟩

theorem trimChars_toString (n : Nat) : trimChars (toString n).toList = (toString n).toList := by
  apply trimChars_of_not_blank
  intro c hc
  rw [toList_toString] at hc
  exact isBlank_of_isDigit (isDigit_of_mem_toDigits c hc)

/-- A text of a kind, with blanks around it. -/
def Padded (kind : List Char → Prop) (cs : List Char) : Prop := ∃ front core back, Pads front core back cs ∧ kind core

/-- A text that is of a kind when it is trimmed is one with blanks around it, if texts of the kind have no blanks. -/
theorem kind_trimChars_iff {kind : List Char → Prop} (hblank : ∀ core, kind core → ∀ c ∈ core, isBlank c = false)
    (hne : ¬kind []) {cs : List Char} : kind (trimChars cs) ↔ Padded kind cs := by
  constructor
  · intro h
    obtain ⟨front, back, hpads⟩ := exists_pads_trimChars cs
    exact ⟨front, trimChars cs, back, hpads, h⟩
  · rintro ⟨front, core, back, hpads, h⟩
    rw [trimChars_of_pads hpads (hblank core h)]
    · exact h
    · rintro rfl
      exact hne h

theorem not_isUnsigned_nil (n : Nat) : ¬IsUnsigned [] n := by
  intro h
  cases h with
  | plain h => exact h.ne_nil rfl

theorem not_isSigned_nil (i : Int) : ¬IsSigned [] i := by
  intro h
  cases h with
  | unsigned h => exact not_isUnsigned_nil _ h

theorem unsigned?_trimChars_eq_some_iff {bound n : Nat} {cs : List Char} :
    unsigned? bound (trimChars cs) = some n ↔ Padded (IsUnsigned · n) cs ∧ n < bound := by
  have hkind : IsUnsigned (trimChars cs) n ↔ Padded (IsUnsigned · n) cs :=
    @kind_trimChars_iff (IsUnsigned · n) (fun _ h ↦ h.not_blank) (not_isUnsigned_nil n) cs
  rw [unsigned?_eq_some_iff, hkind]

theorem isSigned_trimChars_iff {i : Int} {cs : List Char} : IsSigned (trimChars cs) i ↔ Padded (IsSigned · i) cs :=
  @kind_trimChars_iff (IsSigned · i) (fun _ h ↦ h.not_blank) (not_isSigned_nil i) cs

end SolAudit.Text
