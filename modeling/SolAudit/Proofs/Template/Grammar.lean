import SolAudit.Proofs.Outcome
import SolAudit.Template.Predicate

/-!
# The grammar of predicates

A raw predicate is proper if it sets the keys of one form and no other key, and if what stands in it is proper
(`Proper`). `compile_eq_ok_iff` says once how each form is compiled. From it follows that exactly the proper predicates
are compiled, and that nothing is lost: a compiled predicate, written with its keys again, is the raw one with every
omitted `present` spelled out, and is read back (`Inverts`). Patterns and matches inherit this from their predicates.
-/

namespace SolAudit.Template

open Outcome

namespace RawPredicate

def patternParts (pattern : Option RawPattern) : List RawPredicate := (pattern.map NodePattern.predicates).getD []

/-- The predicates that a raw predicate is made of. -/
def parts (raw : RawPredicate) : List RawPredicate :=
  patternParts raw.child ++ patternParts raw.descendant ++ patternParts raw.ancestor ++
    raw.all.getD [] ++ raw.any.getD [] ++ raw.negated.toList

theorem sizeOf_lt_of_mem_patternParts {pattern : Option RawPattern} {part : RawPredicate}
    (h : part ∈ patternParts pattern) : sizeOf part < sizeOf pattern := by
  cases pattern with
  | none => cases h
  | some pattern =>
    have hlt : sizeOf part < sizeOf pattern.predicates := List.sizeOf_lt_of_mem h
    obtain ⟨kinds, slot, predicates⟩ := pattern
    simp only [Option.some.sizeOf_spec, NodePattern.mk.sizeOf_spec] at hlt ⊢
    omega

theorem sizeOf_lt_of_mem_getD {list : Option (List RawPredicate)} {part : RawPredicate} (h : part ∈ list.getD []) :
    sizeOf part < sizeOf list := by
  cases list with
  | none => cases h
  | some list =>
    have hlt : sizeOf part < sizeOf list := List.sizeOf_lt_of_mem h
    simp only [Option.some.sizeOf_spec]
    omega

theorem sizeOf_lt_of_mem_parts {raw part : RawPredicate} (h : part ∈ raw.parts) : sizeOf part < sizeOf raw := by
  obtain ⟨field, equals, oneOf, found, given, slot, present, child, descendant, ancestor, all, any, negated⟩ := raw
  simp only [parts, List.mem_append, or_assoc] at h
  simp only [mk.sizeOf_spec]
  rcases h with h | h | h | h | h | h
  · have hlt := sizeOf_lt_of_mem_patternParts h
    omega
  · have hlt := sizeOf_lt_of_mem_patternParts h
    omega
  · have hlt := sizeOf_lt_of_mem_patternParts h
    omega
  · have hlt := sizeOf_lt_of_mem_getD h
    omega
  · have hlt := sizeOf_lt_of_mem_getD h
    omega
  · obtain rfl := Option.mem_toList.mp h
    simp only [Option.some.sizeOf_spec]
    omega

/-- A property of raw predicates that follows from the same property of their parts holds of all of them. -/
theorem parts_induction {P : RawPredicate → Prop} (h : ∀ raw, (∀ part ∈ raw.parts, P part) → P raw)
    (raw : RawPredicate) : P raw :=
  h raw fun part hmem ↦
    have := sizeOf_lt_of_mem_parts hmem
    parts_induction h part
termination_by sizeOf raw

/-- What each form is compiled to, given what its parts are compiled to. -/
inductive CompilesTo : RawPredicate → Predicate → Prop
  | equals (field : String) (value : Scalar) :
      CompilesTo { field := some field, equals := some value } (.field field (.equals value))
  | oneOf (field : String) (values : List Scalar) :
      CompilesTo { field := some field, oneOf := some values } (.field field (.oneOf values))
  | found (field : String) (test : TextTest) :
      CompilesTo { field := some field, found := some test.source } (.field field (.found test))
  | given (field : String) (expected : Bool) :
      CompilesTo { field := some field, given := some expected } (.field field (.given expected))
  | slot (name : String) (present : Option Bool) :
      CompilesTo { slot := some name, present } (.slot name (present.getD true))
  | child {raw : RawPattern} {pattern : NodePattern Predicate} (h : compilePattern raw = .ok pattern) :
      CompilesTo { child := some raw } (.child pattern)
  | descendant {raw : RawPattern} {pattern : NodePattern Predicate} (h : compilePattern raw = .ok pattern) :
      CompilesTo { descendant := some raw } (.descendant pattern)
  | ancestor {raw : RawPattern} {pattern : NodePattern Predicate} (h : compilePattern raw = .ok pattern) :
      CompilesTo { ancestor := some raw } (.ancestor pattern)
  | all {raws : List RawPredicate} {list : List Predicate} (hne : raws ≠ []) (h : compileAll raws = .ok list) :
      CompilesTo { all := some raws } (.all list)
  | any {raws : List RawPredicate} {list : List Predicate} (hne : raws ≠ []) (h : compileAll raws = .ok list) :
      CompilesTo { any := some raws } (.any list)
  | not {raw : RawPredicate} {inner : Predicate} (h : compile raw = .ok inner) :
      CompilesTo { negated := some raw } (.not inner)

/-- Whether some key of a form is set. -/
def sets (raw : RawPredicate) : Form → Bool
  | .field => raw.field.isSome || raw.hasFieldTest
  | .slot => raw.slot.isSome || raw.present.isSome
  | .child => raw.child.isSome
  | .descendant => raw.descendant.isSome
  | .ancestor => raw.ancestor.isSome
  | .all => raw.all.isSome
  | .any => raw.any.isSome
  | .not => raw.negated.isSome

theorem mem_forms (raw : RawPredicate) (form : Form) : form ∈ raw.forms ↔ raw.sets form = true := by
  cases form <;> simp [forms, sets]

/-- The keys of one form. -/
def only (raw : RawPredicate) : Form → RawPredicate
  | .field =>
    { field := raw.field, equals := raw.equals, oneOf := raw.oneOf, found := raw.found, given := raw.given }
  | .slot => { slot := raw.slot, present := raw.present }
  | .child => { child := raw.child }
  | .descendant => { descendant := raw.descendant }
  | .ancestor => { ancestor := raw.ancestor }
  | .all => { all := raw.all }
  | .any => { any := raw.any }
  | .not => { negated := raw.negated }

theorem eq_only_of_forms {raw : RawPredicate} {form : Form} (h : raw.forms = [form]) : raw = raw.only form := by
  have hunset (other : Form) (hne : other ≠ form) : raw.sets other = false := by
    rw [← Bool.not_eq_true, ← mem_forms, h, List.mem_singleton]
    exact hne
  have hfield := hunset .field
  have hslot := hunset .slot
  have hchild := hunset .child
  have hdescendant := hunset .descendant
  have hancestor := hunset .ancestor
  have hall := hunset .all
  have hany := hunset .any
  have hnot := hunset .not
  clear hunset h
  obtain ⟨field, equals, oneOf, found, given, slot, present, child, descendant, ancestor, all, any, negated⟩ := raw
  cases form <;> simp_all [sets, only, hasFieldTest]

theorem ofSource?_eq_some_iff {source : String} {test : TextTest} :
    TextTest.ofSource? source = some test ↔ test.source = source := by
  obtain ⟨text, regex, hparsed⟩ := test
  unfold TextTest.ofSource?
  split
  · rename_i found hfound
    constructor
    · intro h
      cases h
      rfl
    · rintro rfl
      cases hparsed.symm.trans hfound
      rfl
  · rename_i hnone
    constructor
    · intro h
      cases h
    · rintro rfl
      cases hparsed.symm.trans hnone

/-- A test is known by its source. -/
theorem eq_of_source {test other : TextTest} (h : test.source = other.source) : test = other := by
  have htest := ofSource?_eq_some_iff.mpr h
  rw [ofSource?_eq_some_iff.mpr rfl] at htest
  exact (Option.some.inj htest).symm

/-- The form that is there decides how a predicate is compiled. -/
theorem compile_eq (raw : RawPredicate) : compile raw =
    match raw.forms with
    | [] => .error .empty
    | [.field] => raw.compileField
    | [.slot] => raw.compileSlot
    | [.child] => compileOption .child raw.child
    | [.descendant] => compileOption .descendant raw.descendant
    | [.ancestor] => compileOption .ancestor raw.ancestor
    | [.all] => compileList .all .all raw.all
    | [.any] => compileList .any .any raw.any
    | [.not] => compileNegated raw.negated
    | forms => .error (.mixed forms) := by
  obtain ⟨field, equals, oneOf, found, given, slot, present, child, descendant, ancestor, all, any, negated⟩ := raw
  unfold compile
  rfl

theorem compileOption_eq_ok_iff {make : NodePattern Predicate → Predicate} {raw : Option RawPattern} {p : Predicate} :
    compileOption make raw = .ok p ↔
      ∃ pattern compiled, raw = some pattern ∧ compilePattern pattern = .ok compiled ∧ make compiled = p := by
  cases raw with
  | none => simp [compileOption]
  | some pattern => simp [compileOption, map_eq_ok]

theorem compileList_eq_ok_iff {form : Form} {make : List Predicate → Predicate} {raws : Option (List RawPredicate)}
    {p : Predicate} : compileList form make raws = .ok p ↔
      ∃ list compiled, raws = some list ∧ list ≠ [] ∧ compileAll list = .ok compiled ∧ make compiled = p := by
  cases raws with
  | none => simp [compileList]
  | some list =>
    cases list with
    | nil => simp [compileList]
    | cons raw rest =>
      have hmap : compileList form make (some (raw :: rest)) = (compileAll (raw :: rest)).map make := by
        rw [compileList, compileAll]
        cases compile raw with
        | error e => rfl
        | ok first => cases compileAll rest <;> rfl
      simp [hmap, map_eq_ok]

theorem compileNegated_eq_ok_iff {raw : Option RawPredicate} {p : Predicate} :
    compileNegated raw = .ok p ↔
      ∃ inner compiled, raw = some inner ∧ compile inner = .ok compiled ∧ .not compiled = p := by
  cases raw with
  | none => simp [compileNegated]
  | some inner => simp [compileNegated, map_eq_ok]

theorem compileSlot_eq_ok_iff {raw : RawPredicate} {p : Predicate} :
    raw.compileSlot = .ok p ↔ ∃ name, raw.slot = some name ∧ .slot name (raw.present.getD true) = p := by
  unfold compileSlot
  cases raw.slot <;> simp

theorem compilesTo_of_compileField {raw : RawPredicate} {p : Predicate} (h : raw.compileField = .ok p) :
    CompilesTo (raw.only .field) p := by
  unfold compileField at h
  unfold only
  split at h
  · cases h
  · rename_i field hfield
    split at h
    · rename_i value hequals honeOf hfound hgiven
      cases h
      rw [hfield, hequals, honeOf, hfound, hgiven]
      exact .equals field value
    · rename_i values hequals honeOf hfound hgiven
      cases h
      rw [hfield, hequals, honeOf, hfound, hgiven]
      exact .oneOf field values
    · rename_i source hequals honeOf hfound hgiven
      split at h
      · rename_i test htest
        cases h
        rw [hfield, hequals, honeOf, hfound, hgiven, ← ofSource?_eq_some_iff.mp htest]
        exact .found field test
      · cases h
    · rename_i expected hequals honeOf hfound hgiven
      cases h
      rw [hfield, hequals, honeOf, hfound, hgiven]
      exact .given field expected
    · cases h

theorem compilesTo_of_compile {raw : RawPredicate} {p : Predicate} (h : compile raw = .ok p) : CompilesTo raw p := by
  rw [compile_eq] at h
  split at h
  case h_1 | h_10 => cases h
  case h_2 hforms =>
    rw [eq_only_of_forms hforms]
    exact compilesTo_of_compileField h
  case h_3 hforms =>
    obtain ⟨name, hslot, rfl⟩ := compileSlot_eq_ok_iff.mp h
    rw [eq_only_of_forms hforms, only, hslot]
    exact .slot name _
  case h_4 hforms =>
    obtain ⟨pattern, compiled, hraw, hcompile, rfl⟩ := compileOption_eq_ok_iff.mp h
    rw [eq_only_of_forms hforms, only, hraw]
    exact .child hcompile
  case h_5 hforms =>
    obtain ⟨pattern, compiled, hraw, hcompile, rfl⟩ := compileOption_eq_ok_iff.mp h
    rw [eq_only_of_forms hforms, only, hraw]
    exact .descendant hcompile
  case h_6 hforms =>
    obtain ⟨pattern, compiled, hraw, hcompile, rfl⟩ := compileOption_eq_ok_iff.mp h
    rw [eq_only_of_forms hforms, only, hraw]
    exact .ancestor hcompile
  case h_7 hforms =>
    obtain ⟨list, compiled, hraw, hne, hcompile, rfl⟩ := compileList_eq_ok_iff.mp h
    rw [eq_only_of_forms hforms, only, hraw]
    exact .all hne hcompile
  case h_8 hforms =>
    obtain ⟨list, compiled, hraw, hne, hcompile, rfl⟩ := compileList_eq_ok_iff.mp h
    rw [eq_only_of_forms hforms, only, hraw]
    exact .any hne hcompile
  case h_9 hforms =>
    obtain ⟨inner, compiled, hraw, hcompile, rfl⟩ := compileNegated_eq_ok_iff.mp h
    rw [eq_only_of_forms hforms, only, hraw]
    exact .not hcompile

theorem compile_eq_ok_iff {raw : RawPredicate} {p : Predicate} : compile raw = .ok p ↔ CompilesTo raw p := by
  refine ⟨compilesTo_of_compile, fun h ↦ ?_⟩
  rw [compile_eq]
  cases h with
  | equals field value => rfl
  | oneOf field values => rfl
  | found field test =>
    have htest : TextTest.ofSource? test.source = some test := ofSource?_eq_some_iff.mpr rfl
    simp only [compileField, htest]
    rfl
  | given field expected => rfl
  | slot name present => cases present <;> rfl
  | child h => exact compileOption_eq_ok_iff.mpr ⟨_, _, rfl, h, rfl⟩
  | descendant h => exact compileOption_eq_ok_iff.mpr ⟨_, _, rfl, h, rfl⟩
  | ancestor h => exact compileOption_eq_ok_iff.mpr ⟨_, _, rfl, h, rfl⟩
  | all hne h => exact compileList_eq_ok_iff.mpr ⟨_, _, rfl, hne, h, rfl⟩
  | any hne h => exact compileList_eq_ok_iff.mpr ⟨_, _, rfl, hne, h, rfl⟩
  | not h => exact compileNegated_eq_ok_iff.mpr ⟨_, _, rfl, h, rfl⟩

/-! ## Proper predicates -/

/-- The keys of exactly one form are set, and no other: a field with one test of it, where the regular expression of a
test is one; a slot, with or without `present`; a related node; a list, which is not empty; or a negation. What stands in
the predicate is proper too. -/
inductive Proper : RawPredicate → Prop
  | equals (field : String) (value : Scalar) : Proper { field := some field, equals := some value }
  | oneOf (field : String) (values : List Scalar) : Proper { field := some field, oneOf := some values }
  | found (field source : String) (hvalid : (Regex.parse? source).isSome) :
      Proper { field := some field, found := some source }
  | given (field : String) (expected : Bool) : Proper { field := some field, given := some expected }
  | slot (name : String) (present : Option Bool) : Proper { slot := some name, present }
  | child (pattern : RawPattern) (h : ∀ p ∈ pattern.predicates, Proper p) : Proper { child := some pattern }
  | descendant (pattern : RawPattern) (h : ∀ p ∈ pattern.predicates, Proper p) : Proper { descendant := some pattern }
  | ancestor (pattern : RawPattern) (h : ∀ p ∈ pattern.predicates, Proper p) : Proper { ancestor := some pattern }
  | all (list : List RawPredicate) (hne : list ≠ []) (h : ∀ p ∈ list, Proper p) : Proper { all := some list }
  | any (list : List RawPredicate) (hne : list ≠ []) (h : ∀ p ∈ list, Proper p) : Proper { any := some list }
  | not (inner : RawPredicate) (h : Proper inner) : Proper { negated := some inner }

mutual

/-- The same predicate with every `present` that is omitted spelled out. -/
def explicit : RawPredicate → RawPredicate
  | ⟨field, equals, oneOf, found, given, slot, present, child, descendant, ancestor, all, any, negated⟩ =>
    ⟨field, equals, oneOf, found, given, slot, if slot.isSome then some (present.getD true) else present,
      explicitOption child, explicitOption descendant, explicitOption ancestor,
      explicitList all, explicitList any, explicitNegated negated⟩

def explicitOption : Option RawPattern → Option RawPattern
  | some pattern => some (explicitPattern pattern)
  | none => none

def explicitList : Option (List RawPredicate) → Option (List RawPredicate)
  | some list => some (explicitAll list)
  | none => none

def explicitNegated : Option RawPredicate → Option RawPredicate
  | some inner => some (explicit inner)
  | none => none

def explicitPattern : RawPattern → RawPattern
  | ⟨kinds, slot, predicates⟩ => ⟨kinds, slot, explicitAll predicates⟩

def explicitAll : List RawPredicate → List RawPredicate
  | [] => []
  | p :: rest => explicit p :: explicitAll rest

end

theorem explicitAll_eq_map (raws : List RawPredicate) : explicitAll raws = raws.map explicit := by
  induction raws with
  | nil => rw [explicitAll]; rfl
  | cons raw rest ih => rw [explicitAll, ih, List.map_cons]

theorem predicates_explicitPattern (pattern : RawPattern) :
    (explicitPattern pattern).predicates = explicitAll pattern.predicates := by
  obtain ⟨kinds, slot, predicates⟩ := pattern
  rfl

theorem compileAll_eq_mapM (raws : List RawPredicate) : compileAll raws = raws.mapM compile := by
  induction raws with
  | nil => rw [compileAll]; rfl
  | cons raw rest ih => rw [compileAll, List.mapM_cons, ih]

theorem compilePattern_eq_ok_iff {raw : RawPattern} {pattern : NodePattern Predicate} :
    compilePattern raw = .ok pattern ↔
      pattern.kinds = raw.kinds ∧ pattern.slot = raw.slot ∧ compileAll raw.predicates = .ok pattern.predicates := by
  obtain ⟨kinds, slot, predicates⟩ := raw
  obtain ⟨kinds', slot', compiled⟩ := pattern
  rw [compilePattern, map_eq_ok]
  constructor
  · rintro ⟨list, hlist, hpattern⟩
    cases hpattern
    exact ⟨rfl, rfl, hlist⟩
  · rintro ⟨rfl, rfl, hlist⟩
    exact ⟨compiled, hlist, rfl⟩

/-- What is compiled is proper, and is written as it was read, with `present` spelled out. -/
def Sound (raw : RawPredicate) : Prop := ∀ p, compile raw = .ok p → Proper raw ∧ p.toRaw = raw.explicit

theorem sound_compileAll {raws : List RawPredicate} {list : List Predicate} (hsound : ∀ raw ∈ raws, Sound raw)
    (h : compileAll raws = .ok list) :
    (∀ raw ∈ raws, Proper raw) ∧ Predicate.listToRaw list = explicitAll raws := by
  induction raws generalizing list with
  | nil =>
    rw [compileAll] at h
    cases h
    exact ⟨by simp, rfl⟩
  | cons raw rest ih =>
    rw [List.forall_mem_cons] at hsound
    rw [compileAll_eq_mapM, mapM_cons_eq_ok] at h
    obtain ⟨first, later, hfirst, hlater, rfl⟩ := h
    rw [← compileAll_eq_mapM] at hlater
    obtain ⟨hproper, htoRaw⟩ := hsound.1 first hfirst
    obtain ⟨hpropers, htoRaws⟩ := ih hsound.2 hlater
    rw [List.forall_mem_cons, Predicate.listToRaw, explicitAll, htoRaw, htoRaws]
    exact ⟨⟨hproper, hpropers⟩, rfl⟩

theorem sound_compilePattern {raw : RawPattern} {pattern : NodePattern Predicate}
    (hsound : ∀ p ∈ raw.predicates, Sound p) (h : compilePattern raw = .ok pattern) :
    (∀ p ∈ raw.predicates, Proper p) ∧ Predicate.patternToRaw pattern = explicitPattern raw := by
  obtain ⟨kinds, slot, predicates⟩ := raw
  obtain ⟨kinds', slot', compiled⟩ := pattern
  obtain ⟨rfl, rfl, hcompile⟩ := compilePattern_eq_ok_iff.mp h
  obtain ⟨hproper, htoRaw⟩ := sound_compileAll hsound hcompile
  refine ⟨hproper, ?_⟩
  rw [Predicate.patternToRaw, explicitPattern, htoRaw]

theorem sound (raw : RawPredicate) : Sound raw := by
  induction raw using parts_induction with
  | h raw ih =>
    intro p h
    rw [compile_eq_ok_iff] at h
    cases h with
    | equals field value => exact ⟨.equals field value, rfl⟩
    | oneOf field values => exact ⟨.oneOf field values, rfl⟩
    | found field test =>
      refine ⟨.found field test.source ?_, rfl⟩
      rw [test.parsed]
      rfl
    | given field expected => exact ⟨.given field expected, rfl⟩
    | slot name present => exact ⟨.slot name present, rfl⟩
    | child h =>
      obtain ⟨hproper, htoRaw⟩ := sound_compilePattern (fun q hq ↦ ih q (by simp [parts, patternParts, hq])) h
      refine ⟨.child _ hproper, ?_⟩
      rw [Predicate.toRaw, htoRaw]
      rfl
    | descendant h =>
      obtain ⟨hproper, htoRaw⟩ := sound_compilePattern (fun q hq ↦ ih q (by simp [parts, patternParts, hq])) h
      refine ⟨.descendant _ hproper, ?_⟩
      rw [Predicate.toRaw, htoRaw]
      rfl
    | ancestor h =>
      obtain ⟨hproper, htoRaw⟩ := sound_compilePattern (fun q hq ↦ ih q (by simp [parts, patternParts, hq])) h
      refine ⟨.ancestor _ hproper, ?_⟩
      rw [Predicate.toRaw, htoRaw]
      rfl
    | all hne h =>
      obtain ⟨hproper, htoRaw⟩ := sound_compileAll (fun q hq ↦ ih q (by simp [parts, patternParts, hq])) h
      refine ⟨.all _ hne hproper, ?_⟩
      rw [Predicate.toRaw, htoRaw]
      rfl
    | any hne h =>
      obtain ⟨hproper, htoRaw⟩ := sound_compileAll (fun q hq ↦ ih q (by simp [parts, patternParts, hq])) h
      refine ⟨.any _ hne hproper, ?_⟩
      rw [Predicate.toRaw, htoRaw]
      rfl
    | not h =>
      obtain ⟨hproper, htoRaw⟩ := ih _ (by simp [parts, patternParts]) _ h
      refine ⟨.not _ hproper, ?_⟩
      rw [Predicate.toRaw, htoRaw]
      rfl

theorem exists_compileAll_iff {raws : List RawPredicate} :
    (∃ list, compileAll raws = .ok list) ↔ ∀ raw ∈ raws, ∃ p, compile raw = .ok p := by
  rw [compileAll_eq_mapM]
  exact exists_mapM_iff

theorem exists_compilePattern_iff {raw : RawPattern} :
    (∃ pattern, compilePattern raw = .ok pattern) ↔ ∀ p ∈ raw.predicates, ∃ compiled, compile p = .ok compiled := by
  rw [← exists_compileAll_iff]
  constructor
  · rintro ⟨pattern, h⟩
    exact ⟨_, (compilePattern_eq_ok_iff.mp h).2.2⟩
  · rintro ⟨list, h⟩
    exact ⟨⟨raw.kinds, raw.slot, list⟩, compilePattern_eq_ok_iff.mpr ⟨rfl, rfl, h⟩⟩

theorem exists_compile_of_proper {raw : RawPredicate} (h : Proper raw) : ∃ p, compile raw = .ok p := by
  simp only [compile_eq_ok_iff]
  induction h with
  | equals field value => exact ⟨_, .equals field value⟩
  | oneOf field values => exact ⟨_, .oneOf field values⟩
  | found field source hvalid =>
    obtain ⟨regex, hregex⟩ := Option.isSome_iff_exists.mp hvalid
    exact ⟨_, .found field ⟨source, regex, hregex⟩⟩
  | given field expected => exact ⟨_, .given field expected⟩
  | slot name present => exact ⟨_, .slot name present⟩
  | child pattern _ ih =>
    simp only [← compile_eq_ok_iff] at ih
    obtain ⟨compiled, h⟩ := exists_compilePattern_iff.mpr ih
    exact ⟨_, .child h⟩
  | descendant pattern _ ih =>
    simp only [← compile_eq_ok_iff] at ih
    obtain ⟨compiled, h⟩ := exists_compilePattern_iff.mpr ih
    exact ⟨_, .descendant h⟩
  | ancestor pattern _ ih =>
    simp only [← compile_eq_ok_iff] at ih
    obtain ⟨compiled, h⟩ := exists_compilePattern_iff.mpr ih
    exact ⟨_, .ancestor h⟩
  | all list hne _ ih =>
    simp only [← compile_eq_ok_iff] at ih
    obtain ⟨compiled, h⟩ := exists_compileAll_iff.mpr ih
    exact ⟨_, .all hne h⟩
  | any list hne _ ih =>
    simp only [← compile_eq_ok_iff] at ih
    obtain ⟨compiled, h⟩ := exists_compileAll_iff.mpr ih
    exact ⟨_, .any hne h⟩
  | not inner _ ih =>
    obtain ⟨compiled, h⟩ := ih
    exact ⟨_, .not (compile_eq_ok_iff.mpr h)⟩

theorem forall_mem_explicitAll {raws : List RawPredicate} :
    (∀ p ∈ explicitAll raws, Proper p) ↔ ∀ p ∈ raws, Proper p.explicit := by
  rw [explicitAll_eq_map, List.forall_mem_map]

theorem Proper.explicit {raw : RawPredicate} (h : Proper raw) : Proper raw.explicit := by
  induction h with
  | equals field value => exact .equals field value
  | oneOf field values => exact .oneOf field values
  | found field source hvalid => exact .found field source hvalid
  | given field expected => exact .given field expected
  | slot name present => exact .slot name (some (present.getD true))
  | child pattern _ ih => exact .child _ (predicates_explicitPattern pattern ▸ forall_mem_explicitAll.mpr ih)
  | descendant pattern _ ih => exact .descendant _ (predicates_explicitPattern pattern ▸ forall_mem_explicitAll.mpr ih)
  | ancestor pattern _ ih => exact .ancestor _ (predicates_explicitPattern pattern ▸ forall_mem_explicitAll.mpr ih)
  | all list hne _ ih =>
    refine .all (explicitAll list) ?_ (forall_mem_explicitAll.mpr ih)
    simpa [explicitAll_eq_map] using hne
  | any list hne _ ih =>
    refine .any (explicitAll list) ?_ (forall_mem_explicitAll.mpr ih)
    simpa [explicitAll_eq_map] using hne
  | not inner _ ih => exact .not inner.explicit ih

theorem proper_explicitAll {raws : List RawPredicate} (h : ∀ p ∈ raws, Proper p) : ∀ p ∈ explicitAll raws, Proper p :=
  forall_mem_explicitAll.mpr fun p hp ↦ (h p hp).explicit

mutual

/-- What is read of the keys that a predicate is written with is that predicate. -/
theorem eq_of_compile_toRaw : ∀ (p : Predicate) {q : Predicate}, compile p.toRaw = .ok q → q = p
  | .field name (.equals value), q, h => by
    cases compile_eq_ok_iff.mp h
    rfl
  | .field name (.oneOf values), q, h => by
    cases compile_eq_ok_iff.mp h
    rfl
  | .field name (.found test), q, h => by
    have h : CompilesTo { field := some name, found := some test.source } q := compile_eq_ok_iff.mp h
    generalize hsource : test.source = source at h
    cases h with
    | found _ other => rw [eq_of_source hsource]
  | .field name (.given expected), q, h => by
    cases compile_eq_ok_iff.mp h
    rfl
  | .slot name present, q, h => by
    cases compile_eq_ok_iff.mp h
    rfl
  | .child pattern, q, h => by
    cases compile_eq_ok_iff.mp h with
    | child hpattern => rw [eq_of_compilePattern_toRaw pattern hpattern]
  | .descendant pattern, q, h => by
    cases compile_eq_ok_iff.mp h with
    | descendant hpattern => rw [eq_of_compilePattern_toRaw pattern hpattern]
  | .ancestor pattern, q, h => by
    cases compile_eq_ok_iff.mp h with
    | ancestor hpattern => rw [eq_of_compilePattern_toRaw pattern hpattern]
  | .all list, q, h => by
    cases compile_eq_ok_iff.mp h with
    | all _ hlist => rw [eq_of_compileAll_toRaw list hlist]
  | .any list, q, h => by
    cases compile_eq_ok_iff.mp h with
    | any _ hlist => rw [eq_of_compileAll_toRaw list hlist]
  | .not inner, q, h => by
    cases compile_eq_ok_iff.mp h with
    | not hinner => rw [eq_of_compile_toRaw inner hinner]

theorem eq_of_compilePattern_toRaw : ∀ (pattern : NodePattern Predicate) {other : NodePattern Predicate},
    compilePattern (Predicate.patternToRaw pattern) = .ok other → other = pattern
  | ⟨kinds, slot, predicates⟩, ⟨kinds', slot', compiled⟩, h => by
    obtain ⟨hkinds, hslot, hcompile⟩ := compilePattern_eq_ok_iff.mp h
    cases hkinds
    cases hslot
    rw [show compiled = predicates from eq_of_compileAll_toRaw predicates hcompile]

theorem eq_of_compileAll_toRaw : ∀ (list : List Predicate) {other : List Predicate},
    compileAll (Predicate.listToRaw list) = .ok other → other = list
  | [], other, h => by
    rw [Predicate.listToRaw, compileAll] at h
    cases h
    rfl
  | p :: rest, other, h => by
    rw [Predicate.listToRaw, compileAll_eq_mapM, mapM_cons_eq_ok] at h
    obtain ⟨first, later, hfirst, hlater, rfl⟩ := h
    rw [← compileAll_eq_mapM] at hlater
    rw [eq_of_compile_toRaw p hfirst, eq_of_compileAll_toRaw rest hlater]

end

end RawPredicate

/-- A reader and a writer undo each other: the reader accepts exactly what is proper, what it gives is written as it was
read, up to what `explicit` spells out, and is read back from there. -/
structure Inverts {Raw Compiled : Type} (compile : Raw → Except CompileError Compiled) (toRaw : Compiled → Raw)
    (explicit : Raw → Raw) (Proper : Raw → Prop) : Prop where
  accepts_iff : ∀ raw, (∃ compiled, compile raw = .ok compiled) ↔ Proper raw
  compile_eq_ok_iff : ∀ raw compiled, compile raw = .ok compiled ↔ Proper raw ∧ toRaw compiled = explicit raw
  reads_back : ∀ raw compiled, compile raw = .ok compiled → compile (toRaw compiled) = .ok compiled

/-- Four facts that make a reader and a writer undo each other. -/
theorem Inverts.of_unique {Raw Compiled : Type} {compile : Raw → Except CompileError Compiled} {toRaw : Compiled → Raw}
    {explicit : Raw → Raw} {Proper : Raw → Prop}
    (hsound : ∀ {raw compiled}, compile raw = .ok compiled → Proper raw ∧ toRaw compiled = explicit raw)
    (hcomplete : ∀ {raw}, Proper raw → ∃ compiled, compile raw = .ok compiled)
    (hexplicit : ∀ {raw}, Proper raw → Proper (explicit raw))
    (hunique : ∀ {compiled other}, compile (toRaw compiled) = .ok other → other = compiled) :
    Inverts compile toRaw explicit Proper := by
  have hback {raw : Raw} {compiled : Compiled} (hproper : Proper raw) (hraw : toRaw compiled = explicit raw) :
      compile (toRaw compiled) = .ok compiled := by
    have hproper' := hexplicit hproper
    rw [← hraw] at hproper'
    obtain ⟨other, hother⟩ := hcomplete hproper'
    rw [hother, hunique hother]
  constructor
  · intro raw
    constructor
    · rintro ⟨compiled, h⟩
      exact (hsound h).1
    · exact hcomplete
  · intro raw compiled
    refine ⟨hsound, ?_⟩
    rintro ⟨hproper, hraw⟩
    obtain ⟨other, hother⟩ := hcomplete hproper
    have hsame : toRaw other = toRaw compiled := by rw [(hsound hother).2, hraw]
    have hread := hback hproper hraw
    rw [← hsame] at hread
    rw [hother, hunique hread]
  · intro raw compiled h
    obtain ⟨hproper, hraw⟩ := hsound h
    exact hback hproper hraw

/-- The keys that a match is written with. -/
def MatchSpec.toRaw (spec : MatchSpec Predicate) : RawMatch := ⟨spec.kinds, Predicate.listToRaw spec.predicates⟩

namespace RawMatch

/-- The same match with every `present` that is omitted spelled out. -/
def explicit (raw : RawMatch) : RawMatch := ⟨raw.kinds, RawPredicate.explicitAll raw.predicates⟩

theorem compile_eq_ok_iff {raw : RawMatch} {spec : MatchSpec Predicate} :
    RawMatch.compile raw = .ok spec ↔
      raw.kinds ≠ [] ∧ spec.kinds = raw.kinds ∧ RawPredicate.compileAll raw.predicates = .ok spec.predicates := by
  obtain ⟨kinds, predicates⟩ := spec
  rw [RawMatch.compile]
  split
  · rename_i hkinds
    simp [List.isEmpty_iff.mp hkinds]
  · rename_i hkinds
    rw [map_eq_ok]
    constructor
    · rintro ⟨list, hlist, hspec⟩
      cases hspec
      exact ⟨by simpa using hkinds, rfl, hlist⟩
    · rintro ⟨-, rfl, hlist⟩
      exact ⟨predicates, hlist, rfl⟩

end RawMatch

open RawPredicate in
/-- Predicates, patterns and matches are compiled exactly if they are proper, and compiling loses nothing. -/
theorem compile_inverts_toRaw :
    Inverts compile Predicate.toRaw explicit Proper ∧
    Inverts compilePattern Predicate.patternToRaw explicitPattern (fun raw ↦ ∀ p ∈ raw.predicates, Proper p) ∧
    Inverts RawMatch.compile MatchSpec.toRaw RawMatch.explicit
      (fun raw ↦ raw.kinds ≠ [] ∧ ∀ p ∈ raw.predicates, Proper p) := by
  have hexists {raws : List RawPredicate} (hproper : ∀ p ∈ raws, Proper p) : ∃ list, compileAll raws = .ok list :=
    exists_compileAll_iff.mpr fun p hp ↦ exists_compile_of_proper (hproper p hp)
  refine ⟨?_, ?_, ?_⟩
  · apply Inverts.of_unique
    · intro raw p h
      exact sound raw p h
    · exact exists_compile_of_proper
    · exact Proper.explicit
    · intro p q h
      exact eq_of_compile_toRaw p h
  · apply Inverts.of_unique
    · intro raw pattern h
      exact sound_compilePattern (fun p _ ↦ sound p) h
    · intro raw hproper
      exact exists_compilePattern_iff.mpr fun p hp ↦ exists_compile_of_proper (hproper p hp)
    · intro raw hproper
      rw [predicates_explicitPattern]
      exact proper_explicitAll hproper
    · intro pattern other h
      exact eq_of_compilePattern_toRaw pattern h
  · apply Inverts.of_unique
    · intro raw spec h
      obtain ⟨hne, hkinds, hcompile⟩ := RawMatch.compile_eq_ok_iff.mp h
      obtain ⟨hproper, htoRaw⟩ := sound_compileAll (fun p _ ↦ sound p) hcompile
      refine ⟨⟨hne, hproper⟩, ?_⟩
      rw [MatchSpec.toRaw, RawMatch.explicit, hkinds, htoRaw]
    · rintro raw ⟨hne, hproper⟩
      obtain ⟨list, hlist⟩ := hexists hproper
      exact ⟨⟨raw.kinds, list⟩, RawMatch.compile_eq_ok_iff.mpr ⟨hne, rfl, hlist⟩⟩
    · rintro raw ⟨hne, hproper⟩
      exact ⟨hne, proper_explicitAll hproper⟩
    · rintro ⟨kinds, predicates⟩ ⟨kinds', compiled⟩ h
      obtain ⟨-, hkinds, hcompile⟩ := RawMatch.compile_eq_ok_iff.mp h
      cases hkinds
      cases eq_of_compileAll_toRaw predicates hcompile
      rfl

/-- The `present` that is omitted at some depth is spelled out where the predicate is written again. -/
example :
    (RawPredicate.compile { negated := some { any := some [{ slot := some "body" }] } }).map Predicate.toRaw =
      .ok { negated := some { any := some [{ slot := some "body", present := some true }] } } := rfl

end SolAudit.Template
