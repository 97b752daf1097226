import SolAudit.Proofs.Json.Members
import SolAudit.Proofs.Template.Grammar
import SolAudit.Template.RawJson
import SolAudit.Template.RawReader

/-!
# Raw predicates as JSON

A raw predicate is written as the object of the keys that it sets, in key order. Whatever the order of its members, such
an object is read as the predicate again: after some of its members are read, the keys of these are set as in the
predicate and no others (`predicateOfMembers_eq_keep`). Patterns and matches are written with all their keys and inherit
this from their predicates.
-/

namespace SolAudit

theorem Data.ofJsonMembers_eq_map (members : Json.Members) :
    ofJsonMembers members = members.map fun (key, value) ↦ (key, ofJson value) := by
  induction members with
  | nil => rfl
  | cons member rest ih =>
    rw [ofJsonMembers, ih]
    rfl

theorem Data.ofJsonItems_eq_map (items : List Json) : ofJsonItems items = items.map ofJson := by
  induction items with
  | nil => rfl
  | cons item rest ih =>
    rw [ofJsonItems, ih]
    rfl

theorem Data.distinctKeys_iff {α : Type} {members : List (String × α)} :
    distinctKeys members = true ↔ (members.map Prod.fst).Nodup := by
  induction members with
  | nil => simp [distinctKeys]
  | cons member rest ih =>
    obtain ⟨key, value⟩ := member
    have hnew : (rest.all fun e ↦ e.1 != key) = true ↔ key ∉ rest.map Prod.fst := by
      simp only [List.all_eq_true, bne_iff_ne, List.mem_map, not_exists, not_and]
    rw [distinctKeys, Bool.and_eq_true, ih, List.map_cons, List.nodup_cons]
    exact and_congr_left' hnew

/-- A value that is not null is there, whatever is read from it. -/
theorem Data.optional?_of_ne_null {α : Type} {value : Json} (hvalue : value ≠ .null) {read : Unit → Option α}
    {inner : α} (h : read () = some inner) : (ofJson value).optional? read = some (some inner) := by
  have hset : (ofJson value).unset? = some false := by
    cases value with
    | null => exact absurd rfl hvalue
    | _ => rfl
  rw [optional?, hset, h]
  rfl

/-- A literal as the fields of nodes have it: integers have 64 bits. -/
def Scalar.Fits : Scalar → Prop
  | .int n => -(Text.idBound : Int) ≤ n ∧ n < Text.idBound
  | _ => True

theorem Scalar.toJson_ne_null (literal : Scalar) : literal.toJson ≠ .null := by
  cases literal <;> exact Json.noConfusion

theorem Data.literal?_toJson {literal : Scalar} (h : literal.Fits) :
    (ofJson literal.toJson).literal? = some literal := by
  cases literal with
  | int n =>
    obtain ⟨hlower, hupper⟩ : -(Text.idBound : Int) ≤ n ∧ n < Text.idBound := h
    simp [Scalar.toJson, ofJson, literal?, ScalarText.intLiteral?, hlower, hupper]
  | _ => rfl

theorem Data.mapM_ofJson {α : Type} {write : α → Json} {read : Data → Option α} {items : List α}
    (h : ∀ item ∈ items, read (ofJson (write item)) = some item) :
    ((ofJson (.arr (items.map write))).items?.bind fun items ↦ items.mapM read) = some items := by
  have hread := Outcome.mapM_eq_pure (f := read ∘ ofJson ∘ write) (g := id) h
  rw [List.map_id] at hread
  rw [ofJson, items?, ofJsonItems_eq_map, Option.bind_some, List.map_map, List.mapM_map]
  exact hread

theorem Data.literals?_toJson {literals : List Scalar} (h : ∀ literal ∈ literals, literal.Fits) :
    (ofJson (.arr (literals.map Scalar.toJson))).literals? = some literals :=
  mapM_ofJson fun literal hliteral ↦ literal?_toJson (h literal hliteral)

theorem Data.texts?_ofStrings (texts : List String) : (ofJson (.ofStrings texts)).texts? = some texts :=
  mapM_ofJson fun _ _ ↦ rfl

namespace Template

namespace RawPredicate

/-- The literals of a raw predicate, and of those in it, fit. -/
inductive LiteralsFit : RawPredicate → Prop
  | intro {raw : RawPredicate} (equals : ∀ literal, raw.equals = some literal → literal.Fits)
      (oneOf : ∀ literals, raw.oneOf = some literals → ∀ literal ∈ literals, literal.Fits)
      (parts : ∀ part ∈ raw.parts, LiteralsFit part) : LiteralsFit raw

/-- The members that a raw predicate is written as, in the order of its fields. -/
def members (raw : RawPredicate) : Json.Members :=
  shown "field" .str raw.field ++ shown "equals" Scalar.toJson raw.equals ++
  shown "in" (fun set ↦ .arr (set.map Scalar.toJson)) raw.oneOf ++ shown "matches" .str raw.found ++
  shown "exists" .bool raw.given ++ shown "slot" .str raw.slot ++ shown "present" .bool raw.present ++
  shown "child" patternJson raw.child ++ shown "descendant" patternJson raw.descendant ++
  shown "ancestor" patternJson raw.ancestor ++ shown "all" (fun list ↦ .arr (listJson list)) raw.all ++
  shown "any" (fun list ↦ .arr (listJson list)) raw.any ++ shown "not" toJson raw.negated

theorem toJson_eq (raw : RawPredicate) : raw.toJson = .ofMembers raw.members := by
  obtain ⟨field, equals, oneOf, found, given, slot, present, child, descendant, ancestor, all, any, negated⟩ := raw
  have hpattern (key : String) (pattern : Option RawPattern) :
      patternMember key pattern = shown key patternJson pattern := by
    cases pattern <;> rfl
  have hlist (key : String) (list : Option (List RawPredicate)) :
      listMember key list = shown key (fun list ↦ .arr (listJson list)) list := by
    cases list <;> rfl
  have hnegated : negatedMember negated = shown "not" toJson negated := by
    cases negated <;> rfl
  rw [toJson, hpattern, hpattern, hpattern, hlist, hlist, hnegated]
  rfl

/-- The predicate with the fields of some keys only. -/
def keep (raw : RawPredicate) (keys : List String) : RawPredicate where
  field := if "field" ∈ keys then raw.field else none
  equals := if "equals" ∈ keys then raw.equals else none
  oneOf := if "in" ∈ keys then raw.oneOf else none
  found := if "matches" ∈ keys then raw.found else none
  given := if "exists" ∈ keys then raw.given else none
  slot := if "slot" ∈ keys then raw.slot else none
  present := if "present" ∈ keys then raw.present else none
  child := if "child" ∈ keys then raw.child else none
  descendant := if "descendant" ∈ keys then raw.descendant else none
  ancestor := if "ancestor" ∈ keys then raw.ancestor else none
  all := if "all" ∈ keys then raw.all else none
  any := if "any" ∈ keys then raw.any else none
  negated := if "not" ∈ keys then raw.negated else none

/-- A key that a raw predicate sets, and what is written at it. -/
inductive Sets (raw : RawPredicate) : String → Json → Prop
  | field {text : String} (h : raw.field = some text) : Sets raw "field" (.str text)
  | equals {literal : Scalar} (h : raw.equals = some literal) : Sets raw "equals" literal.toJson
  | oneOf {literals : List Scalar} (h : raw.oneOf = some literals) :
      Sets raw "in" (.arr (literals.map Scalar.toJson))
  | found {source : String} (h : raw.found = some source) : Sets raw "matches" (.str source)
  | given {expected : Bool} (h : raw.given = some expected) : Sets raw "exists" (.bool expected)
  | slot {name : String} (h : raw.slot = some name) : Sets raw "slot" (.str name)
  | present {expected : Bool} (h : raw.present = some expected) : Sets raw "present" (.bool expected)
  | child {pattern : RawPattern} (h : raw.child = some pattern) : Sets raw "child" (patternJson pattern)
  | descendant {pattern : RawPattern} (h : raw.descendant = some pattern) :
      Sets raw "descendant" (patternJson pattern)
  | ancestor {pattern : RawPattern} (h : raw.ancestor = some pattern) : Sets raw "ancestor" (patternJson pattern)
  | all {list : List RawPredicate} (h : raw.all = some list) : Sets raw "all" (.arr (listJson list))
  | any {list : List RawPredicate} (h : raw.any = some list) : Sets raw "any" (.arr (listJson list))
  | negated {inner : RawPredicate} (h : raw.negated = some inner) : Sets raw "not" inner.toJson

theorem mem_shown {α : Type} {key other : String} {write : α → Json} {value : Option α} {json : Json} :
    (other, json) ∈ shown key write value ↔ ∃ inner, value = some inner ∧ other = key ∧ json = write inner := by
  cases value <;> simp [shown]

theorem mem_members_iff {raw : RawPredicate} {key : String} {value : Json} :
    (key, value) ∈ raw.members ↔ raw.Sets key value := by
  simp only [members, List.mem_append, mem_shown, or_assoc]
  constructor
  · rintro (⟨_, h, rfl, rfl⟩ | ⟨_, h, rfl, rfl⟩ | ⟨_, h, rfl, rfl⟩ | ⟨_, h, rfl, rfl⟩ | ⟨_, h, rfl, rfl⟩ |
      ⟨_, h, rfl, rfl⟩ | ⟨_, h, rfl, rfl⟩ | ⟨_, h, rfl, rfl⟩ | ⟨_, h, rfl, rfl⟩ | ⟨_, h, rfl, rfl⟩ |
      ⟨_, h, rfl, rfl⟩ | ⟨_, h, rfl, rfl⟩ | ⟨_, h, rfl, rfl⟩)
    exacts [.field h, .equals h, .oneOf h, .found h, .given h, .slot h, .present h, .child h, .descendant h,
      .ancestor h, .all h, .any h, .negated h]
  · rintro (h | h | h | h | h | h | h | h | h | h | h | h | h) <;> simp [h]

/-- No key is written twice. -/
theorem nodup_members (raw : RawPredicate) : (raw.members.map Prod.fst).Nodup := by
  have hshown {α : Type} (key : String) (write : α → Json) (value : Option α) :
      ((shown key write value).map Prod.fst).Sublist [key] := by
    cases value with
    | none => exact List.nil_sublist _
    | some inner => exact List.Sublist.refl _
  have hkeys : (raw.members.map Prod.fst).Sublist keys := by
    have hsplit : keys = ["field"] ++ ["equals"] ++ ["in"] ++ ["matches"] ++ ["exists"] ++ ["slot"] ++ ["present"] ++
        ["child"] ++ ["descendant"] ++ ["ancestor"] ++ ["all"] ++ ["any"] ++ ["not"] := rfl
    simp only [members, List.map_append, hsplit]
    repeat refine List.Sublist.append ?_ (hshown _ _ _)
    exact hshown _ _ _
  exact hkeys.nodup (by decide)

theorem keep_eq {raw : RawPredicate} {keys : List String} (h : ∀ key value, raw.Sets key value → key ∈ keys) :
    raw.keep keys = raw := by
  have hkept {α : Type} {key : String} {value : Option α} (hset : ∀ inner, value = some inner → key ∈ keys) :
      (if key ∈ keys then value else none) = value := by
    cases value with
    | none => exact ite_self none
    | some inner => exact if_pos (hset inner rfl)
  obtain ⟨field, equals, oneOf, found, given, slot, present, child, descendant, ancestor, all, any, negated⟩ := raw
  rw [keep, hkept fun _ hset ↦ h _ _ (.field hset), hkept fun _ hset ↦ h _ _ (.equals hset),
    hkept fun _ hset ↦ h _ _ (.oneOf hset), hkept fun _ hset ↦ h _ _ (.found hset),
    hkept fun _ hset ↦ h _ _ (.given hset), hkept fun _ hset ↦ h _ _ (.slot hset),
    hkept fun _ hset ↦ h _ _ (.present hset), hkept fun _ hset ↦ h _ _ (.child hset),
    hkept fun _ hset ↦ h _ _ (.descendant hset), hkept fun _ hset ↦ h _ _ (.ancestor hset),
    hkept fun _ hset ↦ h _ _ (.all hset), hkept fun _ hset ↦ h _ _ (.any hset),
    hkept fun _ hset ↦ h _ _ (.negated hset)]

/-- A predicate is read from its JSON form. -/
def ReadsBack (raw : RawPredicate) : Prop := readPredicate (.ofJson raw.toJson) = some raw

theorem toJson_ne_null (raw : RawPredicate) : raw.toJson ≠ .null := by
  rw [toJson_eq]
  exact Json.noConfusion

theorem patternJson_ne_null (pattern : RawPattern) : patternJson pattern ≠ .null := by
  cases pattern
  exact Json.noConfusion

theorem readPredicates_listJson {list : List RawPredicate} (h : ∀ part ∈ list, part.ReadsBack) :
    readPredicates (.ofJson (.arr (listJson list))) = some list := by
  rw [Data.ofJson, readPredicates]
  induction list with
  | nil => rfl
  | cons part rest ih =>
    obtain ⟨hpart, hrest⟩ := List.forall_mem_cons.mp h
    rw [listJson, Data.ofJsonItems, predicatesOfItems, hpart, ih hrest]
    rfl

theorem readPattern_patternJson {pattern : RawPattern} (h : ∀ part ∈ pattern.predicates, part.ReadsBack) :
    readPattern (.ofJson (patternJson pattern)) = some pattern := by
  obtain ⟨kinds, slot, predicates⟩ := pattern
  have hkinds := Data.texts?_ofStrings kinds
  have hslot : (Data.ofJson (Json.ofOption .str slot)).optional?
      (fun _ ↦ (Data.ofJson (Json.ofOption .str slot)).text?) = some slot := by
    cases slot <;> rfl
  have hlist := readPredicates_listJson h
  have hdistinct : Data.distinctKeys (Data.ofJsonMembers [("kinds", Json.ofStrings kinds),
      ("slot", Json.ofOption .str slot), ("where", .arr (listJson predicates))]) = true := rfl
  rw [patternJson, Data.ofJson, readPattern, if_pos hdistinct]
  simp [Data.ofJsonMembers, patternOfMembers, RawPattern.set?, hkinds, hslot, hlist]

def readings (value : Json) : Readings where
  pattern _ := readPattern (.ofJson value)
  predicate _ := readPredicate (.ofJson value)
  list _ := readPredicates (.ofJson value)

/-- A member that is read sets its key as in the predicate. -/
theorem set?_of_sets {raw : RawPredicate} (hfit : raw.LiteralsFit) (hparts : ∀ part ∈ raw.parts, part.ReadsBack)
    {key : String} {value : Json} (h : raw.Sets key value) (keys : List String) :
    set? key (.ofJson value) (readings value) (raw.keep keys) = some (raw.keep (key :: keys)) := by
  obtain ⟨hequals, honeOf, -⟩ := hfit
  have hpattern (pattern : RawPattern) (h : ∀ part ∈ pattern.predicates, part ∈ raw.parts) :
      (Data.ofJson (patternJson pattern)).optional? (readings (patternJson pattern)).pattern = some (some pattern) :=
    Data.optional?_of_ne_null (patternJson_ne_null pattern)
      (readPattern_patternJson fun part hpart ↦ hparts part (h part hpart))
  have hlist (list : List RawPredicate) (h : ∀ part ∈ list, part ∈ raw.parts) :
      (Data.ofJson (.arr (listJson list))).optional? (readings (.arr (listJson list))).list = some (some list) :=
    Data.optional?_of_ne_null (by simp) (readPredicates_listJson fun part hpart ↦ hparts part (h part hpart))
  cases h with
  | field h | found h | slot h => simp [set?, Data.ofJson, Data.optional?, Data.unset?, Data.text?, keep, h]
  | given h | present h => simp [set?, Data.ofJson, Data.optional?, Data.unset?, Data.flag?, keep, h]
  | @equals literal h =>
    have hread : (Data.ofJson literal.toJson).optional? (fun _ ↦ (Data.ofJson literal.toJson).literal?) =
        some (some literal) :=
      Data.optional?_of_ne_null literal.toJson_ne_null (Data.literal?_toJson (hequals literal h))
    simp [set?, hread, keep, h]
  | @oneOf literals h =>
    have hread : (Data.ofJson (.arr (literals.map Scalar.toJson))).optional?
        (fun _ ↦ (Data.ofJson (.arr (literals.map Scalar.toJson))).literals?) = some (some literals) :=
      Data.optional?_of_ne_null (by simp) (Data.literals?_toJson (honeOf literals h))
    simp [set?, hread, keep, h]
  | @child pattern h | @descendant pattern h | @ancestor pattern h =>
    have hread := hpattern pattern fun part hpart ↦ by simp [parts, patternParts, h, hpart]
    simp [set?, hread, keep, h]
  | @all list h | @any list h =>
    have hread := hlist list fun part hpart ↦ by simp [parts, h, hpart]
    simp [set?, hread, keep, h]
  | @negated inner h =>
    have hread : (Data.ofJson inner.toJson).optional? (readings inner.toJson).predicate = some (some inner) :=
      Data.optional?_of_ne_null inner.toJson_ne_null (hparts inner (by simp [parts, h]))
    simp [set?, hread, keep, h]

/-- After members of the predicate are read, their keys are set as in it, and no others. -/
theorem predicateOfMembers_eq_keep {raw : RawPredicate} (hfit : raw.LiteralsFit)
    (hparts : ∀ part ∈ raw.parts, part.ReadsBack) {members : Json.Members}
    (h : ∀ key value, (key, value) ∈ members → raw.Sets key value) :
    predicateOfMembers (Data.ofJsonMembers members) = some (raw.keep (members.map Prod.fst)) := by
  induction members with
  | nil => rfl
  | cons member rest ih =>
    obtain ⟨key, value⟩ := member
    have hrest := ih fun key value hmem ↦ h key value (List.mem_cons_of_mem _ hmem)
    have hset := set?_of_sets hfit hparts (h key value List.mem_cons_self) (rest.map Prod.fst)
    rw [Data.ofJsonMembers, predicateOfMembers, hrest]
    exact hset

theorem readsBack {raw : RawPredicate} (h : raw.LiteralsFit) : raw.ReadsBack := by
  induction raw using parts_induction with
  | h raw ih =>
    have hparts : ∀ part ∈ raw.parts, part.ReadsBack := by
      obtain ⟨-, -, hfit⟩ := h
      exact fun part hpart ↦ ih part hpart (hfit part hpart)
    have hsort := Json.Members.sort_perm (nodup_members raw)
    have hkeys : ((Data.ofJsonMembers raw.members.sort).map Prod.fst).Nodup := by
      rw [Data.ofJsonMembers_eq_map, List.map_map]
      exact (hsort.map Prod.fst).nodup_iff.mpr (nodup_members raw)
    have hread := predicateOfMembers_eq_keep h hparts fun key value hmem ↦
      mem_members_iff.mp (hsort.mem_iff.mp hmem)
    have hkeep : raw.keep (raw.members.sort.map Prod.fst) = raw := by
      apply keep_eq
      intro key value hset
      exact List.mem_map.mpr ⟨(key, value), hsort.mem_iff.mpr (mem_members_iff.mpr hset), rfl⟩
    rw [ReadsBack, toJson_eq, Json.ofMembers, Data.ofJson, readPredicate, if_pos (Data.distinctKeys_iff.mpr hkeys),
      hread, hkeep]

end RawPredicate

theorem readMatch_toJson {spec : RawMatch} (h : ∀ part ∈ spec.predicates, part.ReadsBack) :
    readMatch (.ofJson (RawMatch.toJson spec)) = some spec := by
  obtain ⟨kinds, predicates⟩ := spec
  have hkinds := Data.texts?_ofStrings kinds
  have hlist := RawPredicate.readPredicates_listJson h
  have hfields : fieldsOf ["kinds", "where"] (.ofJson (RawMatch.toJson ⟨kinds, predicates⟩)) =
      some [("kinds", .ofJson (.ofStrings kinds)), ("where", .ofJson (.arr (RawPredicate.listJson predicates)))] := rfl
  rw [readMatch, hfields]
  simp [fieldOr, fieldAt?, hkinds, hlist]

end Template

end SolAudit
