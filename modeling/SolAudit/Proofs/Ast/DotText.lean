import Mathlib.Data.List.Induction
import SolAudit.Proofs.Text.Decimal

/-!
# Texts in the DOT language

A quoted string of the DOT language ends at the first quote that has an even number of backslashes right before it
(`closing?`), and a backslash before a quote is not part of what it says (`unescape`). `graph?` reads the statements of
a graph. A list of lines is read back exactly if each label ends at the quote that was written after it, and says what
it was written for (`graph?_eq_some_iff`).
-/

namespace SolAudit.Dot

/-- How many backslashes stand at the end of a text. -/
def slashes (cs : List Char) : Nat := (cs.reverse.takeWhile (· == '\\')).length

/-- Where the string behind an opening quote ends. -/
def closing? (cs : List Char) : Option Nat :=
  (List.range cs.length).find? fun k ↦ cs[k]? == some '"' && slashes (cs.take k) % 2 == 0

/-- What a quoted string says. -/
def unescape : List Char → List Char
  | '\\' :: '"' :: rest => '"' :: unescape rest
  | c :: rest => c :: unescape rest
  | [] => []

/-- A text ends where it ends when it stands between quotes: not at a quote inside it, but at the quote after it. -/
structure Closes (cs : List Char) : Prop where
  inside : ∀ front back, cs = front ++ '"' :: back → slashes front % 2 = 1
  after : slashes cs % 2 = 0

@[simp]
theorem slashes_nil : slashes [] = 0 := rfl

theorem slashes_concat (cs : List Char) (c : Char) :
    slashes (cs ++ [c]) = if c = '\\' then slashes cs + 1 else 0 := by
  rw [slashes, slashes, List.reverse_concat]
  split
  · rename_i hc
    rw [hc, List.takeWhile_cons_of_pos (by rfl), List.length_cons]
  · rename_i hc
    rw [List.takeWhile_cons_of_neg (by simpa using hc), List.length_nil]

theorem slashes_append_cons {c : Char} (hc : c ≠ '\\') (front cs : List Char) :
    slashes (front ++ c :: cs) = slashes cs := by
  induction cs using List.reverseRecOn with
  | nil => rw [slashes_concat, if_neg hc, slashes_nil]
  | append_singleton cs d ih => rw [← List.cons_append, ← List.append_assoc, slashes_concat, slashes_concat, ih]

theorem slashes_of_not_mem {cs : List Char} (h : '\\' ∉ cs) : slashes cs = 0 := by
  cases cs using List.reverseRecOn with
  | nil => rfl
  | append_singleton cs c =>
    rw [slashes_concat, if_neg]
    rintro rfl
    simp at h

theorem closing?_append_eq_some_iff (cs rest : List Char) :
    closing? (cs ++ '"' :: rest) = some cs.length ↔ Closes cs := by
  have hself : (cs ++ '"' :: rest)[cs.length]? = some '"' := by simp
  have hbefore {k : Nat} (hk : k < cs.length) : (cs ++ '"' :: rest)[k]? = cs[k]? :=
    List.getElem?_append_left hk
  have htake {k : Nat} (hk : k ≤ cs.length) : (cs ++ '"' :: rest).take k = cs.take k :=
    List.take_append_of_le_length hk
  rw [closing?, List.find?_range_eq_some, hself, htake (Nat.le_refl _), List.take_length]
  constructor
  · rintro ⟨hafter, -, hinside⟩
    refine ⟨?_, by simpa using hafter⟩
    rintro front back rfl
    have hlt : front.length < (front ++ '"' :: back).length := by simp
    have hnot := hinside front.length hlt
    rw [hbefore hlt, htake (Nat.le_of_lt hlt), List.take_left] at hnot
    simpa using hnot
  · rintro ⟨hinside, hafter⟩
    refine ⟨by simpa using hafter, by simp, ?_⟩
    intro k hk
    rw [hbefore hk, htake (Nat.le_of_lt hk)]
    by_cases hquote : cs[k]? = some '"'
    · have hsplit : cs = cs.take k ++ '"' :: cs.drop (k + 1) := by
        obtain ⟨hlt, hget⟩ := List.getElem?_eq_some_iff.mp hquote
        rw [← hget, ← List.drop_eq_getElem_cons, List.take_append_drop]
      have hodd := hinside _ _ hsplit
      simp [hodd]
    · simp [hquote]

theorem unescape_cons {c : Char} (hc : c ≠ '\\') (cs : List Char) : unescape (c :: cs) = c :: unescape cs := by
  rw [unescape]
  rintro rest rfl
  exact absurd rfl hc

/-- What two texts say together is what each of them says, unless the second begins with a quote. -/
theorem unescape_append {back : List Char} (hback : back.head? ≠ some '"') (front : List Char) :
    unescape (front ++ back) = unescape front ++ unescape back := by
  fun_induction unescape front with
  | case1 rest ih => rw [List.cons_append, List.cons_append, unescape, ih, List.cons_append]
  | case2 c rest hne ih =>
    rw [List.cons_append, unescape, ih, List.cons_append]
    intro later hc hlater
    cases rest with
    | nil => exact hback (by rw [List.nil_append] at hlater; rw [hlater]; rfl)
    | cons d rest =>
      cases hlater
      exact hne rest hc rfl
  | case3 => rfl

theorem unescape_of_not_mem {cs : List Char} (h : '"' ∉ cs) : unescape cs = cs := by
  fun_induction unescape cs with
  | case1 rest ih => exact absurd (by simp) h
  | case2 c rest hne ih => rw [ih fun hmem ↦ h (List.mem_cons_of_mem _ hmem)]
  | case3 => rfl

/-- No quote is lost. -/
theorem count_unescape (cs : List Char) : (unescape cs).count '"' = cs.count '"' := by
  fun_induction unescape cs with
  | case1 rest ih => simp [ih]
  | case2 c rest hne ih => rw [List.count_cons, List.count_cons, ih]
  | case3 => rfl

theorem length_unescape_le (cs : List Char) : (unescape cs).length ≤ cs.length := by
  fun_induction unescape cs with
  | case1 rest ih => simp only [List.length_cons]; omega
  | case2 c rest hne ih => simpa using ih
  | case3 => exact Nat.le_refl _

/-- A quoted string that says all its characters has no quote. -/
theorem Closes.not_mem_of_unescape_eq {cs : List Char} (h : Closes cs) (hsame : unescape cs = cs) : '"' ∉ cs := by
  intro hmem
  obtain ⟨front, back, rfl⟩ := List.append_of_mem hmem
  have hodd := h.inside front back rfl
  -- A backslash stands before the quote, and the string does not say it.
  cases front using List.reverseRecOn with
  | nil => simp at hodd
  | append_singleton front c =>
    rw [slashes_concat] at hodd
    split at hodd
    · rename_i hc
      rw [hc, List.append_assoc, List.singleton_append, unescape_append (by simp), unescape] at hsame
      have hlength := congrArg List.length hsame
      have hfront := length_unescape_le front
      have hback := length_unescape_le back
      simp only [List.length_append, List.length_cons] at hlength
      omega
    · simp at hodd

/-- Of the texts before a quote only one has a given number of quotes. -/
theorem length_eq_of_count_eq {text : List Char} {i j : Nat} (hi : text[i]? = some '"') (hj : text[j]? = some '"')
    (h : (text.take i).count '"' = (text.take j).count '"') : i = j := by
  have hlt {i j : Nat} (hi : text[i]? = some '"') (hij : i < j) :
      (text.take i).count '"' < (text.take j).count '"' := by
    have hstart : (text.take (i + 1)).Sublist (text.take j) :=
      (List.take_prefix_take_left (by omega)).sublist
    have hcount := hstart.count_le '"'
    rw [List.take_add_one, hi, Option.toList_some, List.count_append, List.count_singleton_self] at hcount
    omega
  rcases Nat.lt_trichotomy i j with hij | hij | hij
  · exact absurd h (Nat.ne_of_lt (hlt hi hij))
  · exact hij
  · exact absurd h (Nat.ne_of_gt (hlt hj hij))

/-! ## Statements -/

/-- A statement: of an edge if it has a target, else of a node. -/
structure Statement where
  source : Int
  target : Option Int
  label : Option String
  deriving DecidableEq, Repr

def skipBlanks (cs : List Char) : List Char := cs.dropWhile Char.isWhitespace

/-- What stands after a symbol. -/
def symbol? (symbol : String) (cs : List Char) : Option (List Char) :=
  let rest := skipBlanks cs
  if symbol.toList.isPrefixOf rest then some (rest.drop symbol.toList.length) else none

def magnitude? (cs : List Char) : Option (Nat × List Char) :=
  (Text.natValue? (cs.takeWhile Char.isDigit)).map fun n ↦ (n, cs.dropWhile Char.isDigit)

def numeral? (cs : List Char) : Option (Int × List Char) :=
  match skipBlanks cs with
  | '-' :: rest => (magnitude? rest).map fun (n, rest) ↦ (-(n : Int), rest)
  | rest => (magnitude? rest).map fun (n, rest) ↦ (n, rest)

def quoted? (cs : List Char) : Option (String × List Char) := do
  let rest ← symbol? "\"" cs
  let stop ← closing? rest
  some (String.ofList (unescape (rest.take stop)), rest.drop (stop + 1))

/-- The target of an edge. -/
def target? (cs : List Char) : Option (Option Int × List Char) :=
  match symbol? "->" cs with
  | none => some (none, cs)
  | some rest => (numeral? rest).map fun (target, rest) ↦ (some target, rest)

/-- The label in the list of attributes. -/
def label? (cs : List Char) : Option (Option String × List Char) :=
  match symbol? "[" cs with
  | none => some (none, cs)
  | some rest => do
    let rest ← symbol? "label" rest
    let rest ← symbol? "=" rest
    let (label, rest) ← quoted? rest
    let rest ← symbol? "]" rest
    some (some label, rest)

def statement? (cs : List Char) : Option (Statement × List Char) := do
  let (source, rest) ← numeral? cs
  let (target, rest) ← target? rest
  let (label, rest) ← label? rest
  let rest ← symbol? ";" rest
  some (⟨source, target, label⟩, rest)

/-- Statements up to the first text that is none. -/
def statements (cs : List Char) : List Statement × List Char :=
  match statement? cs with
  | none => ([], cs)
  | some (first, rest) =>
    if rest.length < cs.length then
      let (later, rest) := statements rest
      (first :: later, rest)
    else ([], cs)
termination_by cs.length

/-- What stands after the opening brace of a graph. -/
def body? (cs : List Char) : Option (List Char) := do
  let rest ← symbol? "digraph" cs
  let rest ← symbol? "AST" rest
  symbol? "\x7b" rest

/-- The statements of a graph. -/
def graph? (text : String) : Option (List Statement) := do
  let body ← body? text.toList
  let rest ← symbol? "\x7d" (statements body).2
  if skipBlanks rest = [] then some (statements body).1 else none

theorem skipBlanks_cons {c : Char} (hc : c.isWhitespace = true) (cs : List Char) :
    skipBlanks (c :: cs) = skipBlanks cs := by
  rw [skipBlanks, List.dropWhile_cons_of_pos hc, skipBlanks]

theorem skipBlanks_of_not {c : Char} (hc : c.isWhitespace = false) (cs : List Char) :
    skipBlanks (c :: cs) = c :: cs := by
  rw [skipBlanks, List.dropWhile_cons_of_neg (by simp [hc])]

theorem symbol?_blank {c : Char} (hc : c.isWhitespace = true) (symbol : String) (cs : List Char) :
    symbol? symbol (c :: cs) = symbol? symbol cs := by
  rw [symbol?, skipBlanks_cons hc, symbol?]

theorem symbol?_append {symbol : String} (h : ∃ c ∈ symbol.toList.head?, c.isWhitespace = false) (cs : List Char) :
    symbol? symbol (symbol.toList ++ cs) = some cs := by
  have hskip : skipBlanks (symbol.toList ++ cs) = symbol.toList ++ cs := by
    obtain ⟨c, hhead, hc⟩ := h
    obtain ⟨rest, hrest⟩ := List.head?_eq_some_iff.mp hhead
    rw [hrest, List.cons_append, skipBlanks_of_not hc]
  have hstart : symbol.toList.isPrefixOf (symbol.toList ++ cs) = true :=
    List.isPrefixOf_iff_prefix.mpr (List.prefix_append _ _)
  simp only [symbol?, hskip, hstart, if_true, List.drop_left]

theorem symbol?_eq_none {symbol : String} {c : Char} (hc : c.isWhitespace = false)
    (h : ∃ d ∈ symbol.toList.head?, d ≠ c) (cs : List Char) : symbol? symbol (c :: cs) = none := by
  obtain ⟨d, hhead, hne⟩ := h
  obtain ⟨rest, hrest⟩ := List.head?_eq_some_iff.mp hhead
  have hstart : symbol.toList.isPrefixOf (c :: cs) = false := by
    rw [hrest, List.isPrefixOf, beq_eq_false_iff_ne.mpr hne, Bool.false_and]
  simp only [symbol?, skipBlanks_of_not hc, hstart]
  rfl

theorem magnitude?_toDigits (n : Nat) {rest : List Char} (hrest : ∀ c ∈ rest.head?, c.isDigit = false) :
    magnitude? (Nat.toDigits 10 n ++ rest) = some (n, rest) := by
  obtain ⟨htake, hdrop⟩ := Text.digits_append (@Text.isDigit_of_mem_toDigits n) hrest
  rw [magnitude?, htake, hdrop, Text.natValue?_toDigits, Option.map_some]

theorem numeral?_blank {c : Char} (hc : c.isWhitespace = true) (cs : List Char) : numeral? (c :: cs) = numeral? cs := by
  rw [numeral?, skipBlanks_cons hc, numeral?]

theorem numeral?_toString (i : Int) {rest : List Char} (hrest : ∀ c ∈ rest.head?, c.isDigit = false) :
    numeral? ((toString i).toList ++ rest) = some (i, rest) := by
  cases i with
  | ofNat n =>
    obtain ⟨c, digits, hdigits, hc⟩ := Text.exists_toDigits_eq_cons n
    have hblank : c.isWhitespace = false := by
      by_contra hblank
      simp only [Char.isWhitespace, Bool.not_eq_false, Bool.or_eq_true, decide_eq_true_eq] at hblank
      rcases hblank with ((rfl | rfl) | rfl) | rfl <;> simp at hc
    have hmagnitude := magnitude?_toDigits n hrest
    rw [hdigits, List.cons_append] at hmagnitude
    rw [Int.ofNat_eq_natCast, Text.toList_toString_natCast, hdigits, List.cons_append, numeral?,
      skipBlanks_of_not hblank]
    split
    · rename_i later hsign
      cases hsign
      simp at hc
    · rw [hmagnitude, Option.map_some]
  | negSucc n =>
    rw [Text.toList_toString_negSucc, List.cons_append, numeral?, skipBlanks_of_not (by decide)]
    simp only [magnitude?_toDigits (n + 1) hrest, Option.map_some]
    rfl

/-- A statement as it is written: what its label is to say, and the text between the quotes. -/
structure Line where
  source : Int
  target : Option Int
  label : Option (String × List Char)

namespace Line

def statement (line : Line) : Statement := ⟨line.source, line.target, line.label.map Prod.fst⟩

def targetText : Option Int → List Char
  | some target => ' ' :: '-' :: '>' :: ' ' :: (toString target).toList
  | none => []

def labelText : Option (String × List Char) → List Char
  | some (_, written) => ' ' :: '[' :: 'l' :: 'a' :: 'b' :: 'e' :: 'l' :: '=' :: '"' :: (written ++ ['"', ']'])
  | none => []

def body (line : Line) : List Char :=
  ' ' :: ' ' :: ' ' :: ' ' ::
    ((toString line.source).toList ++ (targetText line.target ++ (labelText line.label ++ [';'])))

def text (line : Line) : List Char := '\n' :: line.body

/-- The label ends at the quote written after it, and says what it is to say. -/
def Readable (line : Line) : Prop :=
  ∀ label written, line.label = some (label, written) → Closes written ∧ unescape written = label.toList

/-- The quotes of the label are all written. -/
def KeepsQuotes (line : Line) : Prop :=
  ∀ label written, line.label = some (label, written) → written.count '"' = label.toList.count '"'

variable {line : Line}

theorem target?_append (target : Option Int) {after : List Char} (hdigit : ∀ c ∈ after.head?, c.isDigit = false)
    (harrow : symbol? "->" after = none) : target? (targetText target ++ after) = some (target, after) := by
  cases target with
  | none => rw [targetText, List.nil_append, target?, harrow]
  | some target =>
    have hsymbol : symbol? "->" (' ' :: '-' :: '>' :: ' ' :: ((toString target).toList ++ after)) =
        some (' ' :: ((toString target).toList ++ after)) := by
      rw [symbol?_blank rfl]
      exact symbol?_append ⟨'-', rfl, rfl⟩ _
    rw [targetText, List.cons_append, List.cons_append, List.cons_append, List.cons_append, target?, hsymbol]
    simp only [numeral?_blank (c := ' ') rfl, numeral?_toString target hdigit, Option.map_some]

theorem label?_append (label : String) (written rest : List Char) :
    label? (labelText (some (label, written)) ++ rest) =
      (closing? (written ++ '"' :: ']' :: rest)).bind fun stop ↦
        (symbol? "]" ((written ++ '"' :: ']' :: rest).drop (stop + 1))).map fun after ↦
          (some (String.ofList (unescape ((written ++ '"' :: ']' :: rest).take stop))), after) := by
  have hbracket (cs : List Char) : symbol? "[" (' ' :: '[' :: cs) = some cs := by
    rw [symbol?_blank rfl]
    exact symbol?_append ⟨'[', rfl, rfl⟩ cs
  have hname (cs : List Char) : symbol? "label" ('l' :: 'a' :: 'b' :: 'e' :: 'l' :: cs) = some cs :=
    symbol?_append ⟨'l', rfl, rfl⟩ cs
  have hequals (cs : List Char) : symbol? "=" ('=' :: cs) = some cs := symbol?_append ⟨'=', rfl, rfl⟩ cs
  have hquote (cs : List Char) : symbol? "\"" ('"' :: cs) = some cs := symbol?_append ⟨'"', rfl, rfl⟩ cs
  simp only [labelText, List.cons_append, List.append_assoc, List.nil_append, label?, hbracket, hname, hequals, quoted?,
    hquote, Option.bind_eq_bind, Option.bind_some]
  cases closing? (written ++ '"' :: ']' :: rest) with
  | none => rfl
  | some stop =>
    simp only [Option.bind_some]
    cases symbol? "]" ((written ++ '"' :: ']' :: rest).drop (stop + 1)) <;> rfl

/-- What stands after the target of a line, up to the label. -/
theorem statement?_append (line : Line) (rest : List Char) :
    statement? (line.text ++ rest) = (label? (labelText line.label ++ ';' :: rest)).bind fun found ↦
      (symbol? ";" found.2).map fun rest ↦ (⟨line.source, line.target, found.1⟩, rest) := by
  have hafter : ∃ c ∈ (labelText line.label ++ ';' :: rest).head?, c = ' ' ∨ c = ';' := by
    cases line.label with
    | none => exact ⟨';', rfl, .inr rfl⟩
    | some label => exact ⟨' ', rfl, .inl rfl⟩
  have harrow : symbol? "->" (labelText line.label ++ ';' :: rest) = none := by
    cases line.label with
    | none => exact symbol?_eq_none rfl ⟨'-', rfl, by decide⟩ _
    | some label =>
      rw [labelText, List.cons_append, symbol?_blank rfl]
      exact symbol?_eq_none rfl ⟨'-', rfl, by decide⟩ _
  have hdigit : ∀ c ∈ (labelText line.label ++ ';' :: rest).head?, c.isDigit = false := by
    obtain ⟨c, hhead, hc⟩ := hafter
    rintro d hd
    cases Option.some.inj (hhead.symm.trans hd)
    rcases hc with rfl | rfl <;> rfl
  have hdigit' : ∀ c ∈ (targetText line.target ++ (labelText line.label ++ ';' :: rest)).head?, c.isDigit = false := by
    cases line.target with
    | none => exact hdigit
    | some target =>
      rintro c hc
      cases hc
      rfl
  simp only [text, body, List.cons_append, List.append_assoc, List.nil_append, statement?,
    numeral?_blank (c := ' ') rfl, numeral?_blank (c := '\n') rfl, numeral?_toString line.source hdigit',
    Option.bind_eq_bind, Option.bind_some, target?_append line.target hdigit harrow]
  cases label? (labelText line.label ++ ';' :: rest) with
  | none => rfl
  | some found =>
    simp only [Option.bind_some]
    cases symbol? ";" found.2 <;> rfl

theorem statement?_of_readable (h : line.Readable) (rest : List Char) :
    statement? (line.text ++ rest) = some (line.statement, rest) := by
  have hend : symbol? ";" (';' :: rest) = some rest := symbol?_append ⟨';', rfl, rfl⟩ rest
  rw [statement?_append, statement]
  cases hlabel : line.label with
  | none =>
    have hnone : label? (';' :: rest) = some (none, ';' :: rest) := by
      rw [label?, symbol?_eq_none rfl ⟨'[', rfl, by decide⟩]
    simp only [labelText, List.nil_append, hnone, Option.bind_some, hend, Option.map_some, Option.map_none]
  | some label =>
    obtain ⟨label, written⟩ := label
    obtain ⟨hcloses, hsays⟩ := h label written hlabel
    have hbracket : symbol? "]" (']' :: ';' :: rest) = some (';' :: rest) := symbol?_append ⟨']', rfl, rfl⟩ _
    have hafter : (written ++ '"' :: ']' :: ';' :: rest).drop (written.length + 1) = ']' :: ';' :: rest := by
      rw [← List.singleton_append, ← List.append_assoc, List.drop_left' (by simp)]
    rw [label?_append, (closing?_append_eq_some_iff written _).mpr hcloses]
    simp only [Option.bind_some, hafter, hbracket, hend, Option.map_some, List.take_left, hsays, String.ofList_toList]

/-- A line that is read back as it was meant is readable. -/
theorem readable_of_statement? (hquotes : line.KeepsQuotes) {rest after : List Char}
    (h : statement? (line.text ++ rest) = some (line.statement, after)) : line.Readable := by
  intro label written hlabel
  rw [statement?_append, hlabel, label?_append, statement, hlabel] at h
  obtain ⟨⟨found, middle⟩, hfound, h⟩ := Option.bind_eq_some_iff.mp h
  obtain ⟨stop, hstop, hfound⟩ := Option.bind_eq_some_iff.mp hfound
  obtain ⟨last, -, hfound⟩ := Option.map_eq_some_iff.mp hfound
  obtain ⟨final, -, h⟩ := Option.map_eq_some_iff.mp h
  cases hfound
  have hsays : unescape ((written ++ '"' :: ']' :: ';' :: rest).take stop) = label.toList := by
    have hlabel : String.ofList (unescape ((written ++ '"' :: ']' :: ';' :: rest).take stop)) = label :=
      Option.some.inj (congrArg (fun pair ↦ pair.1.label) h)
    rw [← hlabel, String.toList_ofList]
  have hat : (written ++ '"' :: ']' :: ';' :: rest)[stop]? = some '"' := by
    have htest := List.find?_some hstop
    rw [Bool.and_eq_true] at htest
    exact beq_iff_eq.mp htest.1
  have hcount : ((written ++ '"' :: ']' :: ';' :: rest).take stop).count '"' =
      ((written ++ '"' :: ']' :: ';' :: rest).take written.length).count '"' := by
    rw [← count_unescape, hsays, List.take_left, hquotes label written hlabel]
  have hlength : stop = written.length := length_eq_of_count_eq hat (by simp) hcount
  rw [hlength] at hstop hsays
  rw [List.take_left] at hsays
  exact ⟨(closing?_append_eq_some_iff written _).mp hstop, hsays⟩

/-- What is left after a line is shorter. -/
theorem length_lt (line : Line) (rest : List Char) : rest.length < (line.text ++ rest).length := by
  have hpos : 0 < line.text.length := List.length_pos_iff.mpr (List.cons_ne_nil _ _)
  rw [List.length_append]
  omega

end Line

theorem statements_of_readable {lines : List Line} (h : ∀ line ∈ lines, line.Readable) {tail : List Char}
    (htail : statement? tail = none) :
    statements (lines.flatMap Line.text ++ tail) = (lines.map Line.statement, tail) := by
  induction lines with
  | nil =>
    rw [List.flatMap_nil, List.nil_append, statements]
    simp only [htail, List.map_nil]
  | cons line rest ih =>
    obtain ⟨hline, hrest⟩ := List.forall_mem_cons.mp h
    rw [List.flatMap_cons, List.append_assoc, statements]
    simp only [Line.statement?_of_readable hline, line.length_lt, if_true, ih hrest, List.map_cons]

/-- If reading lines gives the statements that they were meant for, every line is readable. -/
theorem readable_of_statements {lines : List Line} (hquotes : ∀ line ∈ lines, line.KeepsQuotes) {tail : List Char}
    (h : (statements (lines.flatMap Line.text ++ tail)).1 = lines.map Line.statement) :
    ∀ line ∈ lines, line.Readable := by
  induction lines with
  | nil => exact fun _ hmem ↦ absurd hmem List.not_mem_nil
  | cons line rest ih =>
    obtain ⟨hline, hrest⟩ := List.forall_mem_cons.mp hquotes
    rw [List.flatMap_cons, List.append_assoc, statements] at h
    cases hfirst : statement? (line.text ++ (rest.flatMap Line.text ++ tail)) with
    | none => simp [hfirst] at h
    | some pair =>
      obtain ⟨first, after⟩ := pair
      have hsame : first = line.statement := by
        simp only [hfirst] at h
        split at h
        · exact (List.cons.inj h).1
        · cases h
      rw [hsame] at hfirst
      have hreadable := Line.readable_of_statement? hline hfirst
      rw [Line.statement?_of_readable hreadable] at hfirst
      simp only [Line.statement?_of_readable hreadable, line.length_lt, if_true, List.map_cons, List.cons.injEq,
        true_and] at h
      exact List.forall_mem_cons.mpr ⟨hreadable, ih hrest h⟩

theorem body?_append (body : List Char) : body? ("digraph AST \x7b".toList ++ body) = some body := by
  have hkeyword : symbol? "digraph" ("digraph AST \x7b".toList ++ body) =
      some (' ' :: 'A' :: 'S' :: 'T' :: ' ' :: '\x7b' :: body) := symbol?_append ⟨'d', rfl, rfl⟩ _
  have hname : symbol? "AST" (' ' :: 'A' :: 'S' :: 'T' :: ' ' :: '\x7b' :: body) = some (' ' :: '\x7b' :: body) := by
    rw [symbol?_blank rfl]
    exact symbol?_append ⟨'A', rfl, rfl⟩ _
  have hbrace : symbol? "\x7b" (' ' :: '\x7b' :: body) = some body := by
    rw [symbol?_blank rfl]
    exact symbol?_append ⟨'\x7b', rfl, rfl⟩ _
  simp only [body?, hkeyword, Option.bind_eq_bind, Option.bind_some, hname, hbrace]

/-- The lines of a graph are read back as they were meant exactly if all of them are readable. -/
theorem graph?_eq_some_iff {lines : List Line} (hquotes : ∀ line ∈ lines, line.KeepsQuotes) {text : String}
    (htext : text.toList = "digraph AST \x7b".toList ++ (lines.flatMap Line.text ++ ['\n', '\x7d'])) :
    graph? text = some (lines.map Line.statement) ↔ ∀ line ∈ lines, line.Readable := by
  have htail : statement? ['\n', '\x7d'] = none := by decide
  rw [graph?, htext, body?_append, Option.bind_eq_bind, Option.bind_some]
  constructor
  · intro h
    obtain ⟨rest, -, h⟩ := Option.bind_eq_some_iff.mp h
    split at h
    · exact readable_of_statements hquotes (Option.some.inj h)
    · cases h
  · intro h
    rw [statements_of_readable h htail]
    rfl

end SolAudit.Dot
