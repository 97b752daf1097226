import Mathlib.Data.List.Basic
import Mathlib.Data.Nat.Init
import SolAudit.Json.Printer
import SolAudit.Json.Reader
import SolAudit.Proofs.Text.Decimal

/-!
# Reading what was written

A grammar of JSON texts (`Spells`) stands between the reader and the printer: every text of the grammar is read as the
value that it spells (`readValue_of_spells`), and the lines of a printed value are such a text (`spells_prettyAt`). So a
value whose integers have 64 bits, without binary fractions and not nested too deeply, reads back from its pretty text,
with blanks after it or not (`parseWithin_pretty`).
-/

namespace SolAudit.Json

/-- A character below the blank is written with two hexadecimal digits. -/
theorem hexUnit?_hexChar : ∀ high < 2, ∀ low < 16,
    hexUnit? '0' '0' (hexChar high) (hexChar low) = some (high * 16 + low) := by
  decide

theorem readString_plain {c : Char} (hquote : c ≠ '"') (hslash : c ≠ '\\') (hlow : ¬ c.toNat < 0x20)
    (seen rest : List Char) : readString seen (c :: rest) = readString (c :: seen) rest := by
  rw [readString.eq_def]
  split
  case h_5 heq =>
    cases heq
    rw [if_neg hlow]
  all_goals simp_all

theorem readString_escapeChar (seen : List Char) (c : Char) (rest : List Char) :
    readString seen (escapeChar c ++ rest) = readString (c :: seen) rest := by
  unfold escapeChar
  split
  case h_8 hquote hslash _ _ _ _ _ =>
    split
    · rename_i hlow
      have hunit := hexUnit?_hexChar (c.toNat / 16) (by omega) (c.toNat % 16) (by omega)
      have hsum : c.toNat / 16 * 16 + c.toNat % 16 = c.toNat := by omega
      rw [hsum] at hunit
      have hhigh : ¬ 0xDC00 ≤ c.toNat := by omega
      have hsurrogate : ¬ 0xD800 ≤ c.toNat := by omega
      simp [readString, hunit, hhigh, hsurrogate, Char.ofNat_toNat]
    · rename_i hlow
      exact readString_plain hquote hslash hlow seen rest
  all_goals simp [readString, simpleEscape?]

theorem readString_flatMap (cs : List Char) : ∀ seen rest : List Char,
    readString seen (cs.flatMap escapeChar ++ '"' :: rest) = some (String.ofList (seen.reverse ++ cs), rest) := by
  induction cs with
  | nil =>
    intro seen rest
    simp [readString]
  | cons c cs ih =>
    intro seen rest
    rw [List.flatMap_cons, List.append_assoc, readString_escapeChar, ih]
    simp

/-- A quoted text is read as the text. -/
theorem readString_quoted (s : String) (rest : List Char) :
    readString [] (s.toList.flatMap escapeChar ++ '"' :: rest) = some (s, rest) := by
  rw [readString_flatMap]
  simp

/-- What may follow the digits of an integer. -/
def EndsNumber (rest : List Char) : Prop := ∀ c ∈ rest.head?, c.isDigit = false ∧ c ≠ '.' ∧ c ≠ 'e' ∧ c ≠ 'E'

theorem head?_toDigits_ne_zero {n : Nat} (h : 0 < n) : (Nat.toDigits 10 n).head? ≠ some '0' := by
  induction n using Nat.strong_induction_on with
  | h n ih =>
    rw [Nat.toDigits_eq_if (by decide)]
    split
    · rename_i hlt
      have hdigit : ∀ d < 10, 0 < d → ([Nat.digitChar d] : List Char).head? ≠ some '0' := by decide
      exact hdigit n hlt h
    · have hfirst := ih (n / 10) (by omega) (by omega)
      rwa [List.head?_append_of_ne_nil _ Nat.toDigits_ne_nil]

theorem span_isDigit {digits rest : List Char} (hdigits : ∀ c ∈ digits, c.isDigit = true) (hrest : EndsNumber rest) :
    span Char.isDigit (digits ++ rest) = (digits, rest) := by
  obtain ⟨htake, hdrop⟩ := Text.digits_append hdigits fun c hc ↦ (hrest c hc).1
  rw [span, htake, hdrop]

theorem readWhole_toDigits (n : Nat) {rest : List Char} (hrest : EndsNumber rest) :
    readWhole (Nat.toDigits 10 n ++ rest) = some (Nat.toDigits 10 n, rest) := by
  rcases Nat.eq_zero_or_pos n with rfl | hpos
  · cases rest with
    | nil => rfl
    | cons c rest =>
      have hc := (hrest c rfl).1
      simp [readWhole, hc]
  · have hspan := span_isDigit (@Text.isDigit_of_mem_toDigits n) hrest
    have hhead := head?_toDigits_ne_zero hpos
    obtain ⟨c, cs, hcs, -⟩ := Text.exists_toDigits_eq_cons n
    rw [hcs] at hspan hhead ⊢
    have hc : c ≠ '0' := by simpa using hhead
    rw [List.cons_append] at hspan ⊢
    rw [readWhole.eq_def]
    split
    · simp_all
    · simp [hspan]

theorem le_ofDigitChars (cs : List Char) : ∀ acc : Nat, acc ≤ Nat.ofDigitChars 10 cs acc := by
  induction cs with
  | nil =>
    intro acc
    simp
  | cons c cs ih =>
    intro acc
    have hnext := ih (10 * acc + (c.toNat - '0'.toNat))
    rw [Nat.ofDigitChars_cons]
    omega

/-- Digits of a number that fits are all taken. -/
theorem wholeDigits_eq (cs : List Char) : ∀ acc : Nat, Nat.ofDigitChars 10 cs acc < significandBound →
    wholeDigits ⟨acc, 0⟩ false cs = (⟨Nat.ofDigitChars 10 cs acc, 0⟩, false) := by
  induction cs with
  | nil =>
    intro acc _
    simp [wholeDigits]
  | cons c cs ih =>
    intro acc hbound
    rw [Nat.ofDigitChars_cons] at hbound
    have hnext : acc * 10 + (c.toNat - 48) = 10 * acc + (c.toNat - '0'.toNat) := by
      rw [Nat.mul_comm]
      rfl
    have hle := le_ofDigitChars cs (10 * acc + (c.toNat - '0'.toNat))
    have hfits : ¬ significandBound ≤ 10 * acc + (c.toNat - '0'.toNat) := by omega
    rw [wholeDigits]
    simp only [hnext, Bool.false_or, ge_iff_le, hfits, decide_false, Bool.false_eq_true, if_false]
    rw [ih _ hbound, Nat.ofDigitChars_cons]

theorem readNumber_toDigits (negative : Bool) {n : Nat} (hbound : n < significandBound) {i : Int}
    (hi : integer? negative ⟨n, 0⟩ false = some i) {rest : List Char} (hrest : EndsNumber rest) :
    readNumber negative (Nat.toDigits 10 n ++ rest) = some (.int i, rest) := by
  have hfraction : readFraction rest = some (none, rest) := by
    rw [readFraction.eq_def]
    split
    · exact absurd rfl (hrest '.' rfl).2.1
    · rfl
  have hexponent : readExponent rest = some (none, rest) := by
    cases rest with
    | nil => rfl
    | cons c rest =>
      obtain ⟨-, -, hlower, hupper⟩ := hrest c rfl
      simp [readExponent, hlower, hupper]
  have hvalue : Nat.ofDigitChars 10 (Nat.toDigits 10 n) 0 = n := Nat.ofDigitChars_ten_toDigits
  have hwhole := wholeDigits_eq (Nat.toDigits 10 n) 0 (by rwa [hvalue])
  rw [hvalue] at hwhole
  simp [readNumber, readWhole_toDigits n hrest, hfraction, hexponent, hwhole, hi]

/-! ## Texts of values -/

def Blank (cs : List Char) : Prop := ∀ c ∈ cs, isSpace c = true

/-- The integers that are read as such: all of 64 bits, with a sign or without. -/
def Integral (i : Int) : Prop := -(Text.idBound : Int) ≤ i ∧ i < Text.indexBound

mutual

/-- A text of a value with at most `depth` brackets open at once. -/
inductive Spells : Nat → Json → List Char → Prop
  | null {depth : Nat} : Spells depth .null ['n', 'u', 'l', 'l']
  | truth {depth : Nat} : Spells depth (.bool true) ['t', 'r', 'u', 'e']
  | falsity {depth : Nat} : Spells depth (.bool false) ['f', 'a', 'l', 's', 'e']
  | int {depth : Nat} {i : Int} (h : Integral i) : Spells depth (.int i) (toString i).toList
  | str {depth : Nat} (s : String) : Spells depth (.str s) (quoteChars s.toList)
  | noItems {depth : Nat} : Spells (depth + 1) (.arr []) ['[', ']']
  | items {depth : Nat} {items : List Json} {cs : List Char} (h : SpellsItems depth items cs) :
      Spells (depth + 1) (.arr items) ('[' :: (cs ++ [']']))
  | noMembers {depth : Nat} : Spells (depth + 1) (.obj []) ['\x7b', '\x7d']
  | members {depth : Nat} {members : Members} {cs : List Char} (h : SpellsMembers depth members cs) :
      Spells (depth + 1) (.obj members) ('\x7b' :: (cs ++ ['\x7d']))

/-- One item, or several with commas between them. -/
inductive SpellsItems : Nat → List Json → List Char → Prop
  | last {depth : Nat} {item : Json} {front cs back : List Char} (hfront : Blank front) (h : Spells depth item cs)
      (hback : Blank back) : SpellsItems depth [item] (front ++ (cs ++ back))
  | more {depth : Nat} {item : Json} {rest : List Json} {front cs more : List Char} (hfront : Blank front)
      (h : Spells depth item cs) (hrest : SpellsItems depth rest more) :
      SpellsItems depth (item :: rest) (front ++ (cs ++ ',' :: more))

inductive SpellsMembers : Nat → Members → List Char → Prop
  | last {depth : Nat} {key : String} {value : Json} {front gap cs back : List Char} (hfront : Blank front)
      (hgap : Blank gap) (h : Spells depth value cs) (hback : Blank back) :
      SpellsMembers depth [(key, value)] (front ++ (quoteChars key.toList ++ ':' :: (gap ++ (cs ++ back))))
  | more {depth : Nat} {key : String} {value : Json} {rest : Members} {front gap cs more : List Char}
      (hfront : Blank front) (hgap : Blank gap) (h : Spells depth value cs) (hrest : SpellsMembers depth rest more) :
      SpellsMembers depth ((key, value) :: rest)
        (front ++ (quoteChars key.toList ++ ':' :: (gap ++ (cs ++ ',' :: more))))

end

theorem EndsNumber.of_cons {c : Char} {rest : List Char} (h : c.isDigit = false ∧ c ≠ '.' ∧ c ≠ 'e' ∧ c ≠ 'E') :
    EndsNumber (c :: rest) := by
  intro d hd
  cases hd
  exact h

theorem ends_of_isSpace {c : Char} (h : isSpace c = true) : c.isDigit = false ∧ c ≠ '.' ∧ c ≠ 'e' ∧ c ≠ 'E' := by
  simp only [isSpace, Bool.or_eq_true, beq_iff_eq] at h
  rcases h with ((rfl | rfl) | rfl) | rfl <;> decide

theorem Blank.endsNumber_self {blanks : List Char} (h : Blank blanks) : EndsNumber blanks :=
  fun c hc ↦ ends_of_isSpace (h c (List.mem_of_mem_head? hc))

theorem Blank.endsNumber {blanks : List Char} (h : Blank blanks) {rest : List Char} (hrest : EndsNumber rest) :
    EndsNumber (blanks ++ rest) := by
  cases blanks with
  | nil => exact hrest
  | cons b blanks => exact .of_cons (ends_of_isSpace (h b List.mem_cons_self))

/-! ## Reading texts of values -/

theorem skipSpace_append {blanks : List Char} (h : Blank blanks) (rest : List Char) :
    skipSpace (blanks ++ rest) = skipSpace rest :=
  List.dropWhile_append_of_pos h

theorem skipSpace_skipSpace (cs : List Char) : skipSpace (skipSpace cs) = skipSpace cs := by
  induction cs with
  | nil => rfl
  | cons c cs ih =>
    cases hc : isSpace c <;> simp_all [skipSpace]

/-- What the text of a value starts with. -/
def Starts (cs : List Char) : Prop := ∃ c rest, cs = c :: rest ∧ isSpace c = false ∧ c ≠ ']'

theorem isSpace_of_isDigit {c : Char} (h : c.isDigit = true) : isSpace c = false := by
  rw [Bool.eq_false_iff]
  intro hspace
  simp only [isSpace, Bool.or_eq_true, beq_iff_eq] at hspace
  rcases hspace with ((rfl | rfl) | rfl) | rfl <;> cases h

theorem starts_toString (i : Int) : Starts (toString i).toList := by
  cases i with
  | ofNat n =>
    obtain ⟨c, rest, hcs, hc⟩ := Text.exists_toDigits_eq_cons n
    rw [Int.ofNat_eq_natCast, Text.toList_toString_natCast, hcs]
    refine ⟨c, rest, rfl, isSpace_of_isDigit hc, ?_⟩
    rintro rfl
    cases hc
  | negSucc n =>
    rw [Text.toList_toString_negSucc]
    exact ⟨'-', _, rfl, rfl, by decide⟩

theorem Spells.starts {depth : Nat} {value : Json} {cs : List Char} (h : Spells depth value cs) : Starts cs := by
  cases h with
  | int => exact starts_toString _
  | _ => exact ⟨_, _, rfl, rfl, by decide⟩

theorem Starts.skipSpace_eq {cs : List Char} (h : Starts cs) (rest : List Char) :
    skipSpace (cs ++ rest) = cs ++ rest := by
  obtain ⟨c, more, rfl, hspace, -⟩ := h
  simp [skipSpace, hspace]

theorem readValue_skipSpace (fuel depth : Nat) (cs : List Char) :
    readValue fuel depth (skipSpace cs) = readValue fuel depth cs := by
  cases fuel with
  | zero => simp [readValue]
  | succ fuel => simp only [readValue, skipSpace_skipSpace]

theorem readValue_blank {front : List Char} (h : Blank front) (fuel depth : Nat) (cs : List Char) :
    readValue fuel depth (front ++ cs) = readValue fuel depth cs := by
  rw [← readValue_skipSpace, skipSpace_append h, readValue_skipSpace]

theorem readItems_skipSpace (fuel depth : Nat) (seen : List Json) (cs : List Char) :
    readItems fuel depth seen (skipSpace cs) = readItems fuel depth seen cs := by
  cases fuel with
  | zero => simp [readItems]
  | succ fuel => simp only [readItems, readValue_skipSpace]

theorem readMembers_skipSpace (fuel depth : Nat) (seen : List (String × Json)) (cs : List Char) :
    readMembers fuel depth seen (skipSpace cs) = readMembers fuel depth seen cs := by
  cases fuel with
  | zero => simp [readMembers]
  | succ fuel => simp only [readMembers, skipSpace_skipSpace]

theorem readValue_int {i : Int} (h : Integral i) (fuel depth : Nat) {rest : List Char} (hrest : EndsNumber rest) :
    readValue (fuel + 1) depth ((toString i).toList ++ rest) = some (.int i, rest) := by
  obtain ⟨hlower, hupper⟩ := h
  cases i with
  | ofNat n =>
    have hbound : n < significandBound := by
      rw [Int.ofNat_eq_natCast] at hupper
      exact Int.ofNat_lt.mp hupper
    have hread := readNumber_toDigits false hbound (i := n) rfl hrest
    obtain ⟨c, cs, hcs, hc⟩ := Text.exists_toDigits_eq_cons n
    rw [hcs] at hread
    rw [Int.ofNat_eq_natCast, Text.toList_toString_natCast, hcs, readValue, List.cons_append, skipSpace,
      List.dropWhile_cons_of_neg (by simp [isSpace_of_isDigit hc])]
    split
    all_goals first
      | exact hread
      | rename_i heq
        rw [(List.cons.inj heq).1] at hc
        cases hc
  | negSucc n =>
    rw [Text.toList_toString_negSucc]
    have hbound : n + 1 ≤ Nat.pow 2 63 := by
      rw [Int.negSucc_eq, Text.idBound] at hlower
      omega
    have hsign : integer? true ⟨n + 1, 0⟩ false = some (Int.negSucc n) := by
      have hlarge : ¬ Nat.pow 2 63 < n + 1 := by omega
      simp [integer?, hlarge, Int.negSucc_eq]
    have hlt : n + 1 < significandBound := Nat.lt_of_le_of_lt hbound (by decide)
    exact readNumber_toDigits true hlt hsign hrest

theorem SpellsItems.skipSpace_ne {depth : Nat} {items : List Json} {cs : List Char} (h : SpellsItems depth items cs)
    (rest more : List Char) : skipSpace (cs ++ rest) ≠ ']' :: more := by
  have hstarts {cs : List Char} (h : Starts cs) (rest : List Char) : skipSpace (cs ++ rest) ≠ ']' :: more := by
    rw [h.skipSpace_eq]
    obtain ⟨c, cs, rfl, -, hne⟩ := h
    exact fun heq ↦ hne (List.cons.inj heq).1
  cases h with
  | last hfront h hback =>
    rw [List.append_assoc, List.append_assoc, skipSpace_append hfront]
    exact hstarts h.starts _
  | more hfront h hrest =>
    rw [List.append_assoc, List.append_assoc, skipSpace_append hfront]
    exact hstarts h.starts _

theorem SpellsMembers.skipSpace_ne {depth : Nat} {members : Members} {cs : List Char}
    (h : SpellsMembers depth members cs) (rest more : List Char) : skipSpace (cs ++ rest) ≠ '\x7d' :: more := by
  have hquoted (key cs : List Char) : skipSpace (quoteChars key ++ cs) ≠ '\x7d' :: more := by
    simp [quoteChars, skipSpace, isSpace]
  cases h with
  | last hfront =>
    rw [List.append_assoc, List.append_assoc, skipSpace_append hfront]
    exact hquoted _ _
  | more hfront =>
    rw [List.append_assoc, List.append_assoc, skipSpace_append hfront]
    exact hquoted _ _

theorem skipSpace_blank {back : List Char} (hback : Blank back) {c : Char} (hc : isSpace c = false) (rest : List Char) :
    skipSpace (back ++ c :: rest) = c :: rest := by
  rw [skipSpace_append hback, skipSpace, List.dropWhile_cons_of_neg (by simp [hc])]

theorem skipSpace_quoteChars (cs rest : List Char) :
    skipSpace (quoteChars cs ++ rest) = '"' :: (cs.flatMap escapeChar ++ '"' :: rest) := by
  simp [quoteChars, skipSpace, isSpace]

section

variable {front gap : List Char} {fuel depth : Nat} {value : Json} {cs rest : List Char}

/-- The reader takes a key, its colon and its value, and goes on after a comma. -/
theorem readMembers_next (hfront : Blank front) (hgap : Blank gap)
    (hvalue : readValue fuel depth cs = some (value, ',' :: rest)) (seen : List (String × Json)) (key : String) :
    readMembers (fuel + 1) depth seen (front ++ (quoteChars key.toList ++ ':' :: (gap ++ cs))) =
      readMembers fuel depth ((key, value) :: seen) rest := by
  have hcolon : skipSpace (':' :: (gap ++ cs)) = ':' :: (gap ++ cs) := rfl
  have hcomma : skipSpace (',' :: rest) = ',' :: rest := rfl
  rw [readMembers, skipSpace_append hfront, skipSpace_quoteChars]
  simp only [readString_quoted, hcolon, readValue_blank hgap, hvalue, hcomma]

/-- The reader takes a key, its colon and its value, and ends at the bracket. -/
theorem readMembers_last {back : List Char} (hfront : Blank front) (hgap : Blank gap) (hback : Blank back)
    (hvalue : readValue fuel depth cs = some (value, back ++ '\x7d' :: rest)) (seen : List (String × Json))
    (key : String) :
    readMembers (fuel + 1) depth seen (front ++ (quoteChars key.toList ++ ':' :: (gap ++ cs))) =
      some (.obj ((key, value) :: seen).reverse, rest) := by
  have hcolon : skipSpace (':' :: (gap ++ cs)) = ':' :: (gap ++ cs) := rfl
  have hbracket : skipSpace (back ++ '\x7d' :: rest) = '\x7d' :: rest := skipSpace_blank hback rfl rest
  rw [readMembers, skipSpace_append hfront, skipSpace_quoteChars]
  simp only [readString_quoted, hcolon, readValue_blank hgap, hvalue, hbracket]

end

mutual

/-- A text of the grammar is read as the value that it spells. -/
theorem readValue_of_spells : ∀ {depth : Nat} {value : Json} {cs : List Char}, Spells depth value cs →
    ∀ (fuel : Nat) {rest : List Char}, cs.length ≤ fuel → EndsNumber rest →
      readValue fuel depth (cs ++ rest) = some (value, rest)
  | _, _, _, h, 0, _, hfuel, _ => by
    obtain ⟨c, more, rfl, -⟩ := h.starts
    cases hfuel
  | _, _, _, .null, fuel + 1, rest, _, _ => by simp [readValue, skipSpace, isSpace]
  | _, _, _, .truth, fuel + 1, rest, _, _ => by simp [readValue, skipSpace, isSpace]
  | _, _, _, .falsity, fuel + 1, rest, _, _ => by simp [readValue, skipSpace, isSpace]
  | _, _, _, .int h, fuel + 1, rest, _, hrest => readValue_int h fuel _ hrest
  | _, _, _, .str s, fuel + 1, rest, _, _ => by
    simp [readValue, skipSpace, isSpace, quoteChars, readString_quoted]
  | _, _, _, .noItems, fuel + 1, rest, _, _ => by simp [readValue, skipSpace, isSpace]
  | _, _, _, .noMembers, fuel + 1, rest, _, _ => by simp [readValue, skipSpace, isSpace]
  | _, _, _, @Spells.items depth items cs h, fuel + 1, rest, hfuel, _ => by
    have hopen : skipSpace ('[' :: (cs ++ [']']) ++ rest) = '[' :: (cs ++ ']' :: rest) := by
      simp [skipSpace, isSpace]
    simp only [List.length_cons, List.length_append, List.length_nil] at hfuel
    rw [readValue, hopen]
    simp only
    split
    · rename_i heq
      exact absurd heq (h.skipSpace_ne _ _)
    · rw [readItems_skipSpace, readItems_of_spells h (by omega)]
      rfl
  | _, _, _, @Spells.members depth members cs h, fuel + 1, rest, hfuel, _ => by
    have hopen : skipSpace ('\x7b' :: (cs ++ ['\x7d']) ++ rest) = '\x7b' :: (cs ++ '\x7d' :: rest) := by
      simp [skipSpace, isSpace]
    simp only [List.length_cons, List.length_append, List.length_nil] at hfuel
    rw [readValue, hopen]
    simp only
    split
    · rename_i heq
      exact absurd heq (h.skipSpace_ne _ _)
    · rw [readMembers_skipSpace, readMembers_of_spells h (by omega)]
      rfl

theorem readItems_of_spells : ∀ {depth : Nat} {items : List Json} {cs : List Char}, SpellsItems depth items cs →
    ∀ {fuel : Nat} {seen : List Json} {rest : List Char}, cs.length < fuel →
      readItems fuel depth seen (cs ++ ']' :: rest) = some (.arr (seen.reverse ++ items), rest)
  | _, _, _, _, 0, _, _, hfuel => absurd hfuel (Nat.not_lt_zero _)
  | _, _, _, @SpellsItems.last depth item front cs back hfront h hback, fuel + 1, seen, rest, hfuel => by
    simp only [List.length_append] at hfuel
    have hrest : EndsNumber (back ++ ']' :: rest) := hback.endsNumber (.of_cons (by decide))
    have hitem := readValue_of_spells h fuel (by omega) hrest
    rw [readItems, List.append_assoc, List.append_assoc, readValue_blank hfront, hitem]
    simp only [skipSpace_blank hback (c := ']') rfl, List.reverse_cons]
  | _, _, _, @SpellsItems.more depth item items front cs more hfront h hmore, fuel + 1, seen, rest, hfuel => by
    simp only [List.length_append, List.length_cons] at hfuel
    have hrest : EndsNumber (',' :: (more ++ ']' :: rest)) := .of_cons (by decide)
    have hitem := readValue_of_spells h fuel (by omega) hrest
    rw [readItems, List.append_assoc, List.append_assoc, List.cons_append, readValue_blank hfront, hitem]
    have hcomma : skipSpace (',' :: (more ++ ']' :: rest)) = ',' :: (more ++ ']' :: rest) := rfl
    simp only [hcomma]
    rw [readItems_of_spells hmore (by omega), List.reverse_cons, List.append_assoc]
    rfl

theorem readMembers_of_spells : ∀ {depth : Nat} {members : Members} {cs : List Char}, SpellsMembers depth members cs →
    ∀ {fuel : Nat} {seen : List (String × Json)} {rest : List Char}, cs.length < fuel →
      readMembers fuel depth seen (cs ++ '\x7d' :: rest) = some (.obj (seen.reverse ++ members), rest)
  | _, _, _, _, 0, _, _, hfuel => absurd hfuel (Nat.not_lt_zero _)
  | _, _, _, @SpellsMembers.last depth key value front gap cs back hfront hgap h hback, fuel + 1, seen, rest,
      hfuel => by
    simp only [List.length_append, List.length_cons] at hfuel
    have hrest : EndsNumber (back ++ '\x7d' :: rest) := hback.endsNumber (.of_cons (by decide))
    have hvalue := readValue_of_spells h fuel (by omega) hrest
    simp only [List.append_assoc, List.cons_append]
    rw [readMembers_last hfront hgap hback hvalue, List.reverse_cons]
  | _, _, _, @SpellsMembers.more depth key value members front gap cs more hfront hgap h hmore, fuel + 1, seen, rest,
      hfuel => by
    simp only [List.length_append, List.length_cons] at hfuel
    have hrest : EndsNumber (',' :: (more ++ '\x7d' :: rest)) := .of_cons (by decide)
    have hvalue := readValue_of_spells h fuel (by omega) hrest
    simp only [List.append_assoc, List.cons_append]
    rw [readMembers_next hfront hgap hvalue, readMembers_of_spells hmore (by omega), List.reverse_cons,
      List.append_assoc]
    rfl

end

/-- A value that is read as it is printed: its integers have 64 bits, it has no binary fractions, and at most `depth`
brackets are open at once. -/
inductive Printable : Nat → Json → Prop
  | null {depth : Nat} : Printable depth .null
  | bool {depth : Nat} (b : Bool) : Printable depth (.bool b)
  | int {depth : Nat} {i : Int} (h : Integral i) : Printable depth (.int i)
  | str {depth : Nat} (s : String) : Printable depth (.str s)
  | arr {depth : Nat} {items : List Json} (h : ∀ item ∈ items, Printable depth item) :
      Printable (depth + 1) (.arr items)
  | obj {depth : Nat} {members : Members} (h : ∀ member ∈ members, Printable depth member.2) :
      Printable (depth + 1) (.obj members)

theorem prettyItems_eq (level : Nat) (items : List Json) : prettyItems level items = items.map (prettyAt level) := by
  induction items with
  | nil => rfl
  | cons item rest ih => rw [prettyItems, ih, List.map_cons]

theorem prettyMembers_eq (level : Nat) (members : Members) :
    prettyMembers level members = members.map fun member ↦ quote member.1 ++ ": " ++ prettyAt level member.2 := by
  induction members with
  | nil => rfl
  | cons member rest ih => rw [prettyMembers, ih, List.map_cons]

theorem blank_lineBreak (level : Nat) : Blank (lineBreak level).toList := by
  intro c hc
  simp only [lineBreak, String.toList_append, String.toList_ofList, List.mem_append, List.mem_replicate] at hc
  rcases hc with hc | ⟨-, rfl⟩
  · have hfeed : "\n".toList = ['\n'] := rfl
    rw [hfeed, List.mem_singleton] at hc
    exact hc ▸ rfl
  · rfl

theorem blank_singleton {c : Char} (h : isSpace c = true) : Blank [c] := by
  intro d hd
  rw [List.mem_singleton.mp hd]
  exact h

/-- The content of a bracket: each line after its break, commas between the lines, and a break at the end. -/
theorem toList_block (opening closing : String) (level : Nat) {lines : List String} (h : lines ≠ []) :
    (block opening closing level lines).toList = opening.toList ++
      ([','].intercalate (lines.map fun line ↦ (lineBreak (level + 1)).toList ++ line.toList) ++
        ((lineBreak level).toList ++ closing.toList)) := by
  have hlines : lines.isEmpty = false := by simpa using h
  have hcomma : ",".toList = [','] := rfl
  simp only [block, hlines, Bool.false_eq_true, if_false, String.toList_append, String.toList_intercalate, hcomma,
    List.map_map, Function.comp_def, List.append_assoc]

theorem spellsItems_intercalate {depth level : Nat} {back : List Char} (hback : Blank back) : ∀ {items : List Json},
    items ≠ [] → (∀ item ∈ items, Spells depth item (prettyAt level item).toList) →
      SpellsItems depth items ([','].intercalate (items.map fun item ↦
        (lineBreak level).toList ++ (prettyAt level item).toList) ++ back)
  | [], hne, _ => absurd rfl hne
  | [item], _, h => by
    simp only [List.map_cons, List.map_nil, List.intercalate_singleton, List.append_assoc]
    exact .last (blank_lineBreak level) (h item List.mem_cons_self) hback
  | item :: next :: rest, _, h => by
    obtain ⟨hitem, hrest⟩ := List.forall_mem_cons.mp h
    have hmore := spellsItems_intercalate hback (List.cons_ne_nil next rest) hrest
    simp only [List.map_cons, List.intercalate_cons_cons, List.append_assoc]
    exact .more (blank_lineBreak level) hitem hmore

theorem spellsMembers_intercalate {depth level : Nat} {back : List Char} (hback : Blank back) : ∀ {members : Members},
    members ≠ [] → (∀ member ∈ members, Spells depth member.2 (prettyAt level member.2).toList) →
      SpellsMembers depth members ([','].intercalate (members.map fun member ↦ (lineBreak level).toList ++
        (quoteChars member.1.toList ++ ':' :: ([' '] ++ (prettyAt level member.2).toList))) ++ back)
  | [], hne, _ => absurd rfl hne
  | [member], _, h => by
    simp only [List.map_cons, List.map_nil, List.intercalate_singleton, List.append_assoc, List.cons_append]
    exact .last (blank_lineBreak level) (blank_singleton rfl) (h member List.mem_cons_self) hback
  | member :: next :: rest, _, h => by
    obtain ⟨hmember, hrest⟩ := List.forall_mem_cons.mp h
    have hmore := spellsMembers_intercalate hback (List.cons_ne_nil next rest) hrest
    simp only [List.map_cons, List.intercalate_cons_cons, List.append_assoc, List.cons_append]
    exact .more (blank_lineBreak level) (blank_singleton rfl) hmember hmore

/-- The printed lines of a value spell it. -/
theorem spells_prettyAt {depth : Nat} {value : Json} (h : Printable depth value) (level : Nat) :
    Spells depth value (prettyAt level value).toList := by
  induction h generalizing level with
  | null =>
    simp only [prettyAt, compress]
    exact .null
  | bool b =>
    simp only [prettyAt]
    cases b
    · rw [compress]
      exact .falsity
    · rw [compress]
      exact .truth
  | int h =>
    simp only [prettyAt, compress]
    exact .int h
  | str s =>
    simp only [prettyAt, compress, quote, String.toList_ofList]
    exact .str s
  | @arr depth items h ih =>
    rw [prettyAt, prettyItems_eq]
    cases items with
    | nil =>
      have hempty : (block "[" "]" level []).toList = ['[', ']'] := by simp [block]
      rw [List.map_nil, hempty]
      exact .noItems
    | cons item rest =>
      rw [toList_block _ _ _ (by simp), List.map_map, ← List.append_assoc _ (lineBreak level).toList]
      exact .items (spellsItems_intercalate (blank_lineBreak level) (List.cons_ne_nil item rest)
        fun other hother ↦ ih other hother (level + 1))
  | @obj depth members h ih =>
    rw [prettyAt, prettyMembers_eq]
    cases members with
    | nil =>
      have hempty : (block "\x7b" "\x7d" level []).toList = ['\x7b', '\x7d'] := by simp [block]
      rw [List.map_nil, hempty]
      exact .noMembers
    | cons member rest =>
      have hline (member : String × Json) : (quote member.1 ++ ": " ++ prettyAt (level + 1) member.2).toList =
          quoteChars member.1.toList ++ ':' :: ([' '] ++ (prettyAt (level + 1) member.2).toList) := by
        simp [quote]
      rw [toList_block _ _ _ (by simp), List.map_map, ← List.append_assoc _ (lineBreak level).toList]
      simp only [Function.comp_def, hline]
      exact .members (spellsMembers_intercalate (blank_lineBreak level) (List.cons_ne_nil member rest)
        fun other hother ↦ ih other hother (level + 1))

/-- A value reads back from its pretty text, also with blanks after it. -/
theorem parseWithin_pretty {depth : Nat} {value : Json} (h : Printable depth value) {back : String}
    (hback : Blank back.toList) : parseWithin depth (value.pretty ++ back) = some value := by
  have hspells := spells_prettyAt h 0
  have hread := readValue_of_spells hspells (2 * (value.pretty ++ back).toList.length + 2)
    (by simp [pretty]; omega) hback.endsNumber_self
  have hblank : skipSpace back.toList = [] := by
    have hskip := skipSpace_append hback []
    rwa [List.append_nil] at hskip
  rw [pretty] at hread
  rw [parseWithin, pretty, String.toList_append]
  rw [String.toList_append] at hread
  simp only [hread, hblank, List.isEmpty_nil, if_true]

end SolAudit.Json
