import SolAudit.Proofs.Template.RawForm

/-!
# Keys of raw predicates

What the parts of a raw match are read as is known from where they stand (`Role.at?`). A value is read only if every
object in it, however deep, stands where a record is read and has no key but those of that record
(`Role.exists_at?_of_reads`).
-/

namespace SolAudit

namespace Json

/-- There is no object in the value. -/
def NoRecords (json : Json) : Prop := ∀ address members, json.follow? address ≠ some (.obj members)

theorem noRecords_of_parts {json : Json} (hown : ∀ members, json ≠ .obj members)
    (hparts : ∀ step part, (step, part) ∈ json.parts → part.NoRecords) : json.NoRecords :=
  forall_obj_of_parts hown hparts

theorem noRecords_of_leaf {json : Json} (hown : ∀ members, json ≠ .obj members) (hparts : json.parts = []) :
    json.NoRecords := by
  apply noRecords_of_parts hown
  rw [hparts]
  exact fun _ _ h ↦ absurd h List.not_mem_nil

theorem noRecords_null : NoRecords .null := noRecords_of_leaf nofun rfl

theorem noRecords_arr {items : List Json} (h : ∀ item ∈ items, item.NoRecords) : (arr items).NoRecords := by
  apply noRecords_of_parts (by simp)
  intro step part hpart
  exact h part (mem_of_mem_parts hpart)

theorem noRecords_of_text? {json : Json} {text : String} (h : (Data.ofJson json).text? = some text) :
    json.NoRecords := by
  cases json with
  | str text => exact noRecords_of_leaf nofun rfl
  | _ => cases h

theorem noRecords_of_flag? {json : Json} {flag : Bool} (h : (Data.ofJson json).flag? = some flag) :
    json.NoRecords := by
  cases json with
  | bool flag => exact noRecords_of_leaf nofun rfl
  | _ => cases h

theorem noRecords_of_literal? {json : Json} {literal : Scalar} (h : (Data.ofJson json).literal? = some literal) :
    json.NoRecords := by
  cases json with
  | bool flag => exact noRecords_of_leaf nofun rfl
  | int n => exact noRecords_of_leaf nofun rfl
  | str text => exact noRecords_of_leaf nofun rfl
  | _ => cases h

/-- A list whose items are read by themselves has records only inside these. -/
theorem noRecords_of_mapM {α : Type} {read : Data → Option α} {json : Json} {list : List α}
    (hread : ∀ item a, read (.ofJson item) = some a → item.NoRecords)
    (h : ((Data.ofJson json).items?.bind fun items ↦ items.mapM read) = some list) : json.NoRecords := by
  cases json with
  | arr items =>
    rw [Data.ofJson, Data.items?, Data.ofJsonItems_eq_map, Option.bind_some] at h
    apply noRecords_arr
    intro item hitem
    induction items generalizing list with
    | nil => cases hitem
    | cons first rest ih =>
      rw [List.map_cons, List.mapM_cons] at h
      obtain ⟨a, hfirst, h⟩ := Option.bind_eq_some_iff.mp h
      obtain ⟨later, hrest, -⟩ := Option.bind_eq_some_iff.mp h
      rcases List.mem_cons.mp hitem with rfl | hitem
      · exact hread item a hfirst
      · exact ih hrest hitem
  | _ => simp [Data.ofJson, Data.items?, Data.isBlank] at h

theorem null_or_of_optional? {α : Type} {json : Json} {read : Unit → Option α} {value : Option α}
    (h : (Data.ofJson json).optional? read = some value) : json = .null ∨ ∃ a, read () = some a := by
  cases json with
  | null => exact .inl rfl
  | _ =>
    obtain ⟨a, ha, -⟩ := Option.map_eq_some_iff.mp h
    exact .inr ⟨a, ha⟩

end Json

namespace Template

/-! ## Keys of the type's own -/

/-- What a value of a raw match is read as. -/
inductive Role where
  | spec
  | pattern
  | predicate
  | predicates
  deriving DecidableEq, Repr

namespace Role

/-- The keys of a record, in the order of its fields; a list of predicates is none. -/
def keys : Role → List String
  | .spec => ["kinds", "where"]
  | .pattern => ["kinds", "slot", "where"]
  | .predicate => ["field", "equals", "in", "matches", "exists", "slot", "present", "child", "descendant", "ancestor",
      "all", "any", "not"]
  | .predicates => []

/-- What the value of a key is read as, where that is not a literal or a list of literals. -/
def ofKey? : Role → String → Option Role
  | .spec, "where" => some .predicates
  | .pattern, "where" => some .predicates
  | .predicate, "child" => some .pattern
  | .predicate, "descendant" => some .pattern
  | .predicate, "ancestor" => some .pattern
  | .predicate, "all" => some .predicates
  | .predicate, "any" => some .predicates
  | .predicate, "not" => some .predicate
  | _, _ => none

/-- What a part of a value is read as; a record may be a list of its fields. -/
def ofStep? : Role → Json.Step → Option Role
  | role, .key key => role.ofKey? key
  | .predicates, .item _ => some .predicate
  | role, .item position => role.keys[position]?.bind role.ofKey?

/-- What the value at an address is read as. -/
def at? : Role → Json.Address → Option Role
  | role, [] => some role
  | role, step :: rest => (role.ofStep? step).bind fun inner ↦ inner.at? rest

def reads (role : Role) (json : Json) : Bool :=
  match role with
  | .spec => (readMatch (.ofJson json)).isSome
  | .pattern => (readPattern (.ofJson json)).isSome
  | .predicate => (readPredicate (.ofJson json)).isSome
  | .predicates => (readPredicates (.ofJson json)).isSome

/-- A key is one of the role's own, and records in its value are read as what they stand for. -/
structure Takes (role : Role) (key : String) (value : Json) : Prop where
  known : key ∈ role.keys
  inside : (∃ inner, role.ofKey? key = some inner ∧ inner.reads value = true) ∨ value.NoRecords

theorem inside_of_optional? {α : Type} {role inner : Role} {key : String} {value : Json} {read : Unit → Option α}
    {o : Option α} (hkey : role.ofKey? key = some inner) (hread : (read ()).isSome = inner.reads value)
    (h : (Data.ofJson value).optional? read = some o) :
    (∃ inner, role.ofKey? key = some inner ∧ inner.reads value = true) ∨ value.NoRecords := by
  rcases Json.null_or_of_optional? h with rfl | ⟨a, ha⟩
  · exact .inr Json.noRecords_null
  · refine .inl ⟨inner, hkey, ?_⟩
    rw [← hread, ha]
    rfl

theorem noRecords_of_optional? {α : Type} {value : Json} {read : Unit → Option α} {o : Option α}
    (hread : ∀ a, read () = some a → value.NoRecords) (h : (Data.ofJson value).optional? read = some o) :
    value.NoRecords := by
  rcases Json.null_or_of_optional? h with rfl | ⟨a, ha⟩
  · exact Json.noRecords_null
  · exact hread a ha

theorem takes_of_predicate_set? {key : String} {value : Json} {p q : RawPredicate}
    (h : p.set? key (.ofJson value) (RawPredicate.readings value) = some q) : predicate.Takes key value := by
  unfold RawPredicate.set? at h
  split at h
  case h_14 => cases h
  all_goals
    obtain ⟨o, ho, -⟩ := Option.bind_eq_some_iff.mp h
    refine ⟨by decide, ?_⟩
  case h_1 | h_4 | h_6 => exact .inr (noRecords_of_optional? (fun _ ↦ Json.noRecords_of_text?) ho)
  case h_2 => exact .inr (noRecords_of_optional? (fun _ ↦ Json.noRecords_of_literal?) ho)
  case h_3 =>
    exact .inr (noRecords_of_optional? (fun _ ↦ Json.noRecords_of_mapM fun _ _ ↦ Json.noRecords_of_literal?) ho)
  case h_5 | h_7 => exact .inr (noRecords_of_optional? (fun _ ↦ Json.noRecords_of_flag?) ho)
  all_goals exact inside_of_optional? rfl rfl ho

theorem takes_of_pattern_set? {key : String} {value : Json} {p q : RawPattern}
    (h : p.set? key (.ofJson value) (RawPredicate.readings value) = some q) : pattern.Takes key value := by
  unfold RawPattern.set? at h
  split at h
  · obtain ⟨texts, htexts, -⟩ := Option.bind_eq_some_iff.mp h
    exact ⟨by decide, .inr (Json.noRecords_of_mapM (fun _ _ ↦ Json.noRecords_of_text?) htexts)⟩
  · obtain ⟨o, ho, -⟩ := Option.bind_eq_some_iff.mp h
    exact ⟨by decide, .inr (noRecords_of_optional? (fun _ ↦ Json.noRecords_of_text?) ho)⟩
  · obtain ⟨list, hlist, -⟩ := Option.bind_eq_some_iff.mp h
    exact ⟨by decide, .inl ⟨.predicates, rfl, Option.isSome_of_eq_some hlist⟩⟩
  · cases h

/-- A record that is read member by member takes each of its members. -/
theorem takes_of_members {α : Type} {role : Role} {read : List (String × Data) → Option α}
    {set : String → Json → α → Option α}
    (hcons : ∀ key value rest, read ((key, .ofJson value) :: rest) = (read rest).bind (set key value))
    (hset : ∀ {key value p q}, set key value p = some q → role.Takes key value) {members : Json.Members} :
    ∀ {p : α}, read (Data.ofJsonMembers members) = some p →
      ∀ key value, (key, value) ∈ members → role.Takes key value := by
  induction members with
  | nil => exact fun _ _ _ hmem ↦ absurd hmem List.not_mem_nil
  | cons member rest ih =>
    intro p h key value hmem
    rw [Data.ofJsonMembers, hcons] at h
    obtain ⟨q, hrest, h⟩ := Option.bind_eq_some_iff.mp h
    rcases List.mem_cons.mp hmem with rfl | hmem
    · exact hset h
    · exact ih hrest key value hmem

/-- A field that is given by its position is read at the key of that position. -/
def TakesAt (role : Role) (keys : List String) (items : List Json) : Prop :=
  ∀ (position : Nat) (item : Json), items[position]? = some item →
    ∃ key, keys[position]? = some key ∧ role.Takes key item

theorem TakesAt.cons {role : Role} {key : String} {keys : List String} {item : Json} {items : List Json}
    (hitem : role.Takes key item) (h : role.TakesAt keys items) : role.TakesAt (key :: keys) (item :: items) := by
  intro position other hother
  cases position with
  | zero =>
    cases hother
    exact ⟨key, rfl, hitem⟩
  | succ position => exact h position other hother

theorem takesAt_nil (role : Role) (keys : List String) : role.TakesAt keys [] := by
  intro position item h
  cases h

/-- A record that is given by a list of its fields takes each of them at its key. -/
theorem takesAt_of_items {α : Type} {role : Role} {read : List String → List Data → Option α}
    {set : String → Json → α → Option α} (hnil : ∀ item rest, read [] (item :: rest) = none)
    (hcons : ∀ key keys item rest, read (key :: keys) (.ofJson item :: rest) = (read keys rest).bind (set key item))
    (hset : ∀ {key value p q}, set key value p = some q → role.Takes key value) {items : List Json} :
    ∀ {keys : List String} {p : α}, read keys (Data.ofJsonItems items) = some p → role.TakesAt keys items := by
  induction items with
  | nil => exact fun _ ↦ takesAt_nil _ _
  | cons item rest ih =>
    intro keys p h
    rw [Data.ofJsonItems] at h
    cases keys with
    | nil =>
      rw [hnil] at h
      cases h
    | cons key keys =>
      rw [hcons] at h
      obtain ⟨q, hrest, h⟩ := Option.bind_eq_some_iff.mp h
      exact (ih hrest).cons (hset h)

theorem takes_of_fieldOr {fields : List (String × Data)} {kinds : List String} {predicates : List RawPredicate}
    (hkinds : fieldOr fields "kinds" [] Data.texts? = some kinds)
    (hwhere : fieldOr fields "where" [] readPredicates = some predicates) {key : String} {value : Json}
    (hkey : key ∈ spec.keys) (hvalue : fieldAt? key fields = some (.ofJson value)) : spec.Takes key value := by
  have hcases : key = "kinds" ∨ key = "where" := by simpa [keys] using hkey
  rcases hcases with rfl | rfl
  · rw [fieldOr, hvalue] at hkinds
    exact ⟨hkey, .inr (Json.noRecords_of_mapM (fun _ _ ↦ Json.noRecords_of_text?) hkinds)⟩
  · rw [fieldOr, hvalue] at hwhere
    exact ⟨hkey, .inl ⟨.predicates, rfl, Option.isSome_of_eq_some hwhere⟩⟩

theorem fieldAt?_of_mem {fields : List (String × Data)} (hdistinct : (fields.map Prod.fst).Nodup) {key : String}
    {data : Data} (h : (key, data) ∈ fields) : fieldAt? key fields = some data := by
  induction fields with
  | nil => cases h
  | cons field rest ih =>
    obtain ⟨hnew, hdistinct⟩ := List.nodup_cons.mp hdistinct
    rcases List.mem_cons.mp h with rfl | h
    · simp [fieldAt?]
    · have hne : (field.1 == key) = false := by
        rw [beq_eq_false_iff_ne]
        rintro rfl
        exact hnew (List.mem_map.mpr ⟨_, h, rfl⟩)
      rw [fieldAt?, hne]
      exact ih hdistinct h

theorem takes_of_readMatch_obj {members : Json.Members} {read : RawMatch}
    (h : readMatch (.ofJson (.obj members)) = some read) :
    ∀ key value, (key, value) ∈ members → spec.Takes key value := by
  obtain ⟨fields, hfields, h⟩ := Option.bind_eq_some_iff.mp h
  obtain ⟨kinds, hkinds, h⟩ := Option.bind_eq_some_iff.mp h
  obtain ⟨predicates, hwhere, -⟩ := Option.bind_eq_some_iff.mp h
  rw [Data.ofJson, fieldsOf, Option.ite_none_right_eq_some, Bool.and_eq_true, Data.distinctKeys_iff] at hfields
  obtain ⟨⟨hdistinct, hknown⟩, hfields⟩ := hfields
  cases hfields
  intro key value hmem
  have hfield : (key, Data.ofJson value) ∈ Data.ofJsonMembers members := by
    rw [Data.ofJsonMembers_eq_map]
    exact List.mem_map.mpr ⟨(key, value), hmem, rfl⟩
  have hkey : key ∈ spec.keys := by simpa [keys] using List.all_eq_true.mp hknown _ hfield
  exact takes_of_fieldOr hkinds hwhere hkey (fieldAt?_of_mem hdistinct hfield)

theorem takesAt_of_readMatch_arr {items : List Json} {read : RawMatch}
    (h : readMatch (.ofJson (.arr items)) = some read) : spec.TakesAt spec.keys items := by
  obtain ⟨fields, hfields, h⟩ := Option.bind_eq_some_iff.mp h
  obtain ⟨kinds, hkinds, h⟩ := Option.bind_eq_some_iff.mp h
  obtain ⟨predicates, hwhere, -⟩ := Option.bind_eq_some_iff.mp h
  rw [Data.ofJson, fieldsOf, Option.ite_none_right_eq_some, Data.ofJsonItems_eq_map, List.length_map] at hfields
  obtain ⟨hlength, hfields⟩ := hfields
  cases hfields
  rcases items with _ | ⟨first, _ | ⟨second, _ | ⟨third, rest⟩⟩⟩
  · exact takesAt_nil _ _
  · exact (takesAt_nil _ _).cons (takes_of_fieldOr hkinds hwhere (by decide) rfl)
  · have hsecond : spec.Takes "where" second := takes_of_fieldOr hkinds hwhere (by decide) rfl
    exact ((takesAt_nil _ _).cons hsecond).cons (takes_of_fieldOr hkinds hwhere (by decide) rfl)
  · simp at hlength

/-- The members of an object that is read are those of a record. -/
theorem takes_of_reads_obj {role : Role} {members : Json.Members} (h : role.reads (.obj members) = true) :
    ∀ key value, (key, value) ∈ members → role.Takes key value := by
  cases role with
  | spec =>
    obtain ⟨read, hread⟩ := Option.isSome_iff_exists.mp h
    exact takes_of_readMatch_obj hread
  | pattern =>
    obtain ⟨read, hread⟩ := Option.isSome_iff_exists.mp h
    rw [Data.ofJson, readPattern, Option.ite_none_right_eq_some] at hread
    exact takes_of_members (fun _ _ _ ↦ rfl) takes_of_pattern_set? hread.2
  | predicate =>
    obtain ⟨read, hread⟩ := Option.isSome_iff_exists.mp h
    rw [Data.ofJson, readPredicate, Option.ite_none_right_eq_some] at hread
    exact takes_of_members (fun _ _ _ ↦ rfl) takes_of_predicate_set? hread.2
  | predicates => cases h

theorem reads_of_mem_items {items : List Json} : ∀ {list : List RawPredicate},
    predicatesOfItems (Data.ofJsonItems items) = some list → ∀ item ∈ items, predicate.reads item = true := by
  induction items with
  | nil => exact fun _ _ hitem ↦ absurd hitem List.not_mem_nil
  | cons first rest ih =>
    intro list h item hitem
    obtain ⟨p, hfirst, h⟩ := Option.bind_eq_some_iff.mp h
    obtain ⟨later, hrest, -⟩ := Option.bind_eq_some_iff.mp h
    rcases List.mem_cons.mp hitem with rfl | hitem
    · exact Option.isSome_of_eq_some hfirst
    · exact ih hrest item hitem

theorem takesAt_of_reads_arr {role : Role} (hrole : role ≠ .predicates) {items : List Json}
    (h : role.reads (.arr items) = true) : role.TakesAt role.keys items := by
  cases role with
  | spec =>
    obtain ⟨read, hread⟩ := Option.isSome_iff_exists.mp h
    exact takesAt_of_readMatch_arr hread
  | pattern =>
    obtain ⟨read, hread⟩ := Option.isSome_iff_exists.mp h
    exact takesAt_of_items (fun _ _ ↦ rfl) (fun _ _ _ _ ↦ rfl) takes_of_pattern_set? hread
  | predicate =>
    obtain ⟨read, hread⟩ := Option.isSome_iff_exists.mp h
    exact takesAt_of_items (fun _ _ ↦ rfl) (fun _ _ _ _ ↦ rfl) takes_of_predicate_set? hread
  | predicates => exact absurd rfl hrole

/-- A part of a value that is read is read as what it stands for, or there is no record in it. -/
theorem reads_part {role : Role} {json part : Json} {step : Json.Step} (h : role.reads json = true)
    (hpart : (step, part) ∈ json.parts) :
    (∃ inner, role.ofStep? step = some inner ∧ inner.reads part = true) ∨ part.NoRecords := by
  cases json with
  | obj members =>
    obtain ⟨⟨key, value⟩, hmem, heq⟩ := List.mem_map.mp hpart
    cases heq
    rw [ofStep?]
    exact (takes_of_reads_obj h key part hmem).inside
  | arr items =>
    obtain ⟨⟨item, position⟩, hmem, heq⟩ := List.mem_map.mp hpart
    cases heq
    have hitem := List.mem_zipIdx_iff_getElem?.mp hmem
    by_cases hrole : role = .predicates
    · subst hrole
      obtain ⟨list, hread⟩ := Option.isSome_iff_exists.mp h
      exact .inl ⟨.predicate, rfl, reads_of_mem_items hread part (List.mem_of_getElem? hitem)⟩
    · obtain ⟨key, hkey, htakes⟩ := takesAt_of_reads_arr hrole h position part hitem
      rw [ofStep?, hkey, Option.bind_some]
      · exact htakes.inside
      · exact hrole
  | _ => cases hpart

/-- An object inside a value that is read stands for a record, and its keys are those of the record. -/
theorem exists_at?_of_reads {address : Json.Address} {members : Json.Members} : ∀ {role : Role} {json : Json},
    role.reads json = true → json.follow? address = some (.obj members) →
      ∃ inner, role.at? address = some inner ∧ ∀ key ∈ members.map Prod.fst, key ∈ inner.keys := by
  induction address with
  | nil =>
    intro role json hreads h
    rw [Json.follow?_nil] at h
    cases h
    refine ⟨role, rfl, ?_⟩
    intro key hkey
    obtain ⟨⟨_, value⟩, hmem, rfl⟩ := List.mem_map.mp hkey
    exact (takes_of_reads_obj hreads _ _ hmem).known
  | cons step rest ih =>
    intro role json hreads h
    rw [Json.follow?_cons] at h
    obtain ⟨part, hpart, h⟩ := Option.bind_eq_some_iff.mp h
    rcases reads_part hreads (Json.mem_parts_of_child? hpart) with ⟨inner, hinner, hread⟩ | hnone
    · obtain ⟨last, hlast, hkeys⟩ := ih hread h
      refine ⟨last, ?_, hkeys⟩
      rw [at?, hinner, Option.bind_some, hlast]
    · exact absurd h (hnone rest members)

end Role

/-- Raw predicates, patterns and matches are read from their JSON form. A value with an object in it, however deep, that
has a key other than those of the record it stands for is refused. -/
theorem raw_forms_read_back :
    (∀ raw : RawPredicate, raw.LiteralsFit → readPredicate (.ofJson raw.toJson) = some raw) ∧
    (∀ pattern : RawPattern, (∀ part ∈ pattern.predicates, part.LiteralsFit) →
      readPattern (.ofJson pattern.toJson) = some pattern) ∧
    (∀ spec : RawMatch, (∀ part ∈ spec.predicates, part.LiteralsFit) →
      readMatch (.ofJson spec.toJson) = some spec) ∧
    ∀ (role : Role) (json : Json) (address : Json.Address) (members : Json.Members) (key : String),
      json.follow? address = some (.obj members) → key ∈ members.map Prod.fst →
        (∀ inner, role.at? address = some inner → key ∉ inner.keys) → role.reads json = false := by
  refine ⟨?_, ?_, ?_, ?_⟩
  · intro raw hfit
    exact RawPredicate.readsBack hfit
  · intro pattern hfit
    exact RawPredicate.readPattern_patternJson fun part hpart ↦ RawPredicate.readsBack (hfit part hpart)
  · intro spec hfit
    exact readMatch_toJson fun part hpart ↦ RawPredicate.readsBack (hfit part hpart)
  · intro role json address members key hfollow hkey hforeign
    rw [← Bool.not_eq_true]
    intro hreads
    obtain ⟨inner, hinner, hkeys⟩ := Role.exists_at?_of_reads hreads hfollow
    exact hforeign inner hinner (hkeys key hkey)

/-- The smallest integer that a field can be compared with, below a negation and a pattern. -/
def smallestLiteral : RawPredicate :=
  { negated := some { child := some {
    predicates := [{ field := some "value", equals := some (.int (-9223372036854775808)) }] } } }

/-- A match in which a key is misspelt below a negation and a pattern. -/
def misspeltMembers : Json.Members := [("field", .str "name"), ("exist", .bool true)]

def misspeltMatch : Json :=
  .obj [("kinds", .arr [.str "Block"]), ("where", .arr [.obj [("not", .obj [("child", .obj [
    ("where", .arr [.obj misspeltMembers])])])]])]

theorem literalsFit_smallestLiteral : smallestLiteral.LiteralsFit := by
  have htest : RawPredicate.LiteralsFit { field := some "value", equals := some (.int (-9223372036854775808)) } := by
    refine .intro ?_ nofun nofun
    rintro _ ⟨⟩
    exact ⟨by decide, by decide⟩
  refine .intro nofun nofun ?_
  intro part hpart
  cases List.mem_singleton.mp hpart
  refine .intro nofun nofun ?_
  intro part hpart
  cases List.mem_singleton.mp hpart
  exact htest

theorem misspelt_key_is_refused :
    readPredicate (.ofJson smallestLiteral.toJson) = some smallestLiteral ∧ Role.spec.reads misspeltMatch = false := by
  obtain ⟨hpredicate, -, -, hforeign⟩ := raw_forms_read_back
  refine ⟨hpredicate smallestLiteral literalsFit_smallestLiteral, ?_⟩
  apply hforeign .spec misspeltMatch [.key "where", .item 0, .key "not", .key "child", .key "where", .item 0]
    misspeltMembers "exist" rfl (by decide)
  intro inner hinner
  have hrole : inner = .predicate := by
    cases hinner
    rfl
  subst hrole
  decide

end Template

end SolAudit
