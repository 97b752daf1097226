import SolAudit.Text.Decimal

/-!
# Decimal numbers

A number written in decimal digits reads back, so different numbers are written differently, and nothing but digits and
a minus sign is written. Texts put together with a separator between them are its parts again.
-/

namespace SolAudit.Text

theorem digitsValue_eq {digits : List Char} (h : ∀ c ∈ digits, c.isDigit = true) (acc : Nat) :
    digitsValue acc digits = some (Nat.ofDigitChars 10 digits acc) := by
  induction digits generalizing acc with
  | nil => simp [digitsValue]
  | cons c rest ih =>
    have hrest : ∀ d ∈ rest, d.isDigit = true := fun d hd ↦ h d (List.mem_cons_of_mem _ hd)
    rw [digitsValue, if_pos (h c List.mem_cons_self), ih hrest, Nat.ofDigitChars_cons, Nat.mul_comm acc 10]
    rfl

theorem isDigit_of_mem_toDigits {n : Nat} : ∀ c ∈ Nat.toDigits 10 n, c.isDigit = true :=
  fun _ hc ↦ Nat.isDigit_of_mem_toDigits (by decide) (by decide) hc

theorem exists_toDigits_eq_cons (n : Nat) : ∃ c cs, Nat.toDigits 10 n = c :: cs ∧ c.isDigit = true := by
  obtain ⟨c, cs, hcs⟩ := List.exists_cons_of_ne_nil (@Nat.toDigits_ne_nil n 10)
  exact ⟨c, cs, hcs, isDigit_of_mem_toDigits c (hcs ▸ List.mem_cons_self)⟩

/-- A run of digits ends where no digit follows. -/
theorem digits_append {digits rest : List Char} (hdigits : ∀ c ∈ digits, c.isDigit = true)
    (hrest : ∀ c ∈ rest.head?, c.isDigit = false) :
    (digits ++ rest).takeWhile Char.isDigit = digits ∧ (digits ++ rest).dropWhile Char.isDigit = rest := by
  have hstop : rest.takeWhile Char.isDigit = [] ∧ rest.dropWhile Char.isDigit = rest := by
    cases rest with
    | nil => exact ⟨rfl, rfl⟩
    | cons c rest =>
      have hc : ¬c.isDigit = true := Bool.eq_false_iff.mp (hrest c rfl)
      exact ⟨List.takeWhile_cons_of_neg hc, List.dropWhile_cons_of_neg hc⟩
  rw [List.takeWhile_append_of_pos hdigits, List.dropWhile_append_of_pos hdigits, hstop.1, hstop.2, List.append_nil]
  exact ⟨rfl, rfl⟩

theorem natValue?_toDigits (n : Nat) : natValue? (Nat.toDigits 10 n) = some n := by
  have hvalue := digitsValue_eq (@isDigit_of_mem_toDigits n) 0
  obtain ⟨c, cs, hcs, -⟩ := exists_toDigits_eq_cons n
  rw [Nat.ofDigitChars_ten_toDigits] at hvalue
  rwa [hcs, natValue?, ← hcs]

theorem toDigits_inj {m n : Nat} (h : Nat.toDigits 10 m = Nat.toDigits 10 n) : m = n := by
  have hvalue := congrArg natValue? h
  rw [natValue?_toDigits, natValue?_toDigits] at hvalue
  exact Option.some.inj hvalue

theorem not_mem_toDigits {c : Char} (hc : c.isDigit = false) (n : Nat) : c ∉ Nat.toDigits 10 n := by
  intro hmem
  exact absurd (isDigit_of_mem_toDigits c hmem) (Bool.eq_false_iff.mp hc)

/-- The digits of a number have no sign before them. -/
theorem toDigits_ne_sign {c : Char} (hc : c.isDigit = false) (n : Nat) (rest : List Char) :
    Nat.toDigits 10 n ≠ c :: rest := by
  intro heq
  apply not_mem_toDigits hc n
  rw [heq]
  exact List.mem_cons_self

theorem toList_toString (n : Nat) : (toString n).toList = Nat.toDigits 10 n := by
  rw [Nat.toString_eq_repr, Nat.toList_repr]

theorem unsigned?_toString_eq (bound n : Nat) :
    unsigned? bound (toString n).toList = if n < bound then some n else none := by
  have hsign := toDigits_ne_sign (c := '+') rfl n
  rw [toList_toString, unsigned?, natValue?_toDigits, Option.filter_some]
  · simp only [decide_eq_true_eq]
  · exact hsign

theorem unsigned?_toString {bound n : Nat} (h : n < bound) : unsigned? bound (toString n).toList = some n := by
  rw [unsigned?_toString_eq, if_pos h]

theorem signed?_toString_eq (bound n : Nat) :
    signed? bound (toString n).toList = if n < bound then some (n : Int) else none := by
  have hsign := toDigits_ne_sign (c := '-') rfl n
  rw [signed?, unsigned?_toString_eq]
  · split <;> rfl
  · rw [toList_toString]
    exact hsign

theorem lt_of_unsigned? {bound n : Nat} {cs : List Char} (h : unsigned? bound cs = some n) : n < bound := by
  simpa using (Option.filter_eq_some_iff.mp h).2

/-- A natural number is read below the bound, also from a zero with a minus sign. -/
theorem lt_of_signed? {bound n : Nat} (hbound : 0 < bound) {cs : List Char} (h : signed? bound cs = some (n : Int)) :
    n < bound := by
  unfold signed? at h
  split at h
  · rename_i rest
    cases hvalue : (natValue? rest).filter (· ≤ bound) with
    | none => simp [hvalue] at h
    | some m =>
      have hneg : -(m : Int) = n := by simpa [hvalue] using h
      omega
  · cases hvalue : unsigned? bound cs with
    | none => simp [hvalue] at h
    | some m =>
      have hsame : (m : Int) = n := by simpa [hvalue] using h
      have hlt := lt_of_unsigned? hvalue
      omega

theorem toList_toString_natCast (n : Nat) : (toString (n : Int)).toList = Nat.toDigits 10 n :=
  Nat.toList_repr

theorem toList_toString_negSucc (n : Nat) : (toString (Int.negSucc n)).toList = '-' :: Nat.toDigits 10 (n + 1) := by
  change ("-" ++ (n + 1).repr).toList = _
  rw [String.toList_append, Nat.toList_repr]
  rfl

theorem not_mem_toString {c : Char} (hdigit : c.isDigit = false) (hsign : c ≠ '-') (i : Int) :
    c ∉ (toString i).toList := by
  cases i with
  | ofNat n =>
    rw [Int.ofNat_eq_natCast, toList_toString_natCast]
    exact not_mem_toDigits hdigit n
  | negSucc n =>
    rw [toList_toString_negSucc, List.mem_cons, not_or]
    exact ⟨hsign, not_mem_toDigits hdigit (n + 1)⟩

theorem toString_inj {i j : Int} (h : (toString i).toList = (toString j).toList) : i = j := by
  have hsign (m n : Nat) : Nat.toDigits 10 m ≠ '-' :: Nat.toDigits 10 n := toDigits_ne_sign rfl m _
  cases i with
  | ofNat m =>
    cases j with
    | ofNat n =>
      rw [Int.ofNat_eq_natCast, Int.ofNat_eq_natCast, toList_toString_natCast, toList_toString_natCast] at h
      rw [toDigits_inj h]
    | negSucc n =>
      rw [Int.ofNat_eq_natCast, toList_toString_natCast, toList_toString_negSucc] at h
      exact absurd h (hsign _ _)
  | negSucc m =>
    cases j with
    | ofNat n =>
      rw [Int.ofNat_eq_natCast, toList_toString_natCast, toList_toString_negSucc] at h
      exact absurd h.symm (hsign _ _)
    | negSucc n =>
      rw [toList_toString_negSucc, toList_toString_negSucc] at h
      have hsame := toDigits_inj (List.cons.inj h).2
      rw [Nat.succ.inj hsame]

/-! ## Parts between separators -/

theorem splitChars_eq_splitOn (sep : Char) (cs : List Char) : splitChars sep cs = cs.splitOn sep := by
  induction cs with
  | nil => rfl
  | cons c rest ih =>
    rw [splitChars, ih, List.splitOn_cons_eq_if_modifyHead]
    split
    · rfl
    · cases hparts : rest.splitOn sep with
      | nil => exact absurd hparts (List.splitOn_ne_nil sep rest)
      | cons part parts => rfl

theorem splitChars_ne_nil (sep : Char) (cs : List Char) : splitChars sep cs ≠ [] := by
  rw [splitChars_eq_splitOn]
  exact List.splitOn_ne_nil sep cs

theorem splitChars_append (sep : Char) (first rest : List Char) :
    splitChars sep (first ++ sep :: rest) = splitChars sep first ++ splitChars sep rest := by
  rw [splitChars_eq_splitOn, splitChars_eq_splitOn, splitChars_eq_splitOn, List.splitOn_append_cons_self]

theorem splitChars_of_not_mem {sep : Char} {cs : List Char} (h : sep ∉ cs) : splitChars sep cs = [cs] := by
  rw [splitChars_eq_splitOn, List.splitOn_eq_singleton h]

theorem intercalate_splitChars (sep : Char) (cs : List Char) : [sep].intercalate (splitChars sep cs) = cs := by
  rw [splitChars_eq_splitOn, List.intercalate_splitOn]

theorem not_mem_of_mem_splitChars {sep : Char} {cs : List Char} :
    ∀ part ∈ splitChars sep cs, sep ∉ part := by
  induction cs with
  | nil => simp [splitChars]
  | cons c rest ih =>
    rw [splitChars]
    split
    · exact List.forall_mem_cons.mpr ⟨List.not_mem_nil, ih⟩
    · rename_i hc
      cases hparts : splitChars sep rest with
      | nil => exact absurd hparts (splitChars_ne_nil sep rest)
      | cons part parts =>
        rw [hparts] at ih
        obtain ⟨hfirst, hrest⟩ := List.forall_mem_cons.mp ih
        refine List.forall_mem_cons.mpr ⟨?_, hrest⟩
        rw [List.mem_cons, not_or]
        exact ⟨fun h ↦ hc (beq_iff_eq.mpr h.symm), hfirst⟩

end SolAudit.Text
