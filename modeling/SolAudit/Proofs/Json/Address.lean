import Mathlib.Data.List.Nodup
import Mathlib.Data.String.Basic
import SolAudit.Json.Reader

/-!
# Addresses in JSON values

An address leads from a value to a value inside it, through keys of objects and positions of arrays. `places`
lists all addresses of a value in document order; where the keys of every object ascend, it lists each of them
once (`mem_places`, `nodup_places`). A document that is read is in normal form, and so is such a value.
-/

namespace SolAudit.Json

inductive Step where
  | key (key : String)
  | item (position : Nat)
  deriving DecidableEq, Repr

abbrev Address := List Step

/-- The values directly inside a value, with the steps that lead to them. -/
def parts : Json → List (Step × Json)
  | .obj members => members.map fun (key, value) ↦ (.key key, value)
  | .arr items => items.zipIdx.map fun (value, position) ↦ (.item position, value)
  | _ => []

def child? (json : Json) (step : Step) : Option Json := json.parts.lookup step

/-- The value at an address. -/
def follow? : Json → Address → Option Json
  | json, [] => some json
  | json, step :: rest => (json.child? step).bind fun part ↦ part.follow? rest

/-- In every object inside the value the keys ascend, so none is repeated. -/
def KeysAscend (json : Json) : Prop :=
  ∀ address members, json.follow? address = some (.obj members) → (members.map Prod.fst).Pairwise (· < ·)

theorem sizeOf_lt_of_mem_parts {json part : Json} {step : Step} (h : (step, part) ∈ json.parts) :
    sizeOf part < sizeOf json := by
  cases json with
  | obj members =>
    obtain ⟨⟨key, value⟩, hmem, heq⟩ := List.mem_map.mp h
    cases heq
    have hlt := List.sizeOf_lt_of_mem hmem
    simp only [Prod.mk.sizeOf_spec, obj.sizeOf_spec] at hlt ⊢
    omega
  | arr items =>
    obtain ⟨⟨value, position⟩, hmem, heq⟩ := List.mem_map.mp h
    cases heq
    have hlt : sizeOf part < sizeOf items :=
      List.sizeOf_lt_of_mem (List.mem_of_getElem? (List.mem_zipIdx_iff_getElem?.mp hmem))
    simp only [arr.sizeOf_spec]
    omega
  | _ => simp [parts] at h

/-- A property of values that follows from the same property of their parts holds of every value. -/
theorem parts_induction {P : Json → Prop} (h : ∀ json, (∀ step part, (step, part) ∈ json.parts → P part) → P json)
    (json : Json) : P json :=
  h json fun _ part hmem ↦
    have := sizeOf_lt_of_mem_parts hmem
    parts_induction h part
termination_by sizeOf json

/-- All addresses of a value in document order. -/
def places (json : Json) : List Address :=
  [] :: json.parts.attach.flatMap fun ⟨(step, part), _⟩ ↦ part.places.map (step :: ·)
termination_by sizeOf json
decreasing_by exact sizeOf_lt_of_mem_parts ‹_›

theorem places_eq (json : Json) :
    json.places = [] :: json.parts.flatMap fun (step, part) ↦ part.places.map (step :: ·) := by
  rw [places]
  conv_rhs => rw [← List.attach_map_subtype_val json.parts, List.flatMap_map]

@[simp] theorem follow?_nil (json : Json) : json.follow? [] = some json := by rw [follow?]

theorem follow?_cons (json : Json) (step : Step) (rest : Address) :
    json.follow? (step :: rest) = (json.child? step).bind fun part ↦ part.follow? rest := by rw [follow?]

theorem follow?_append (json : Json) (first second : Address) :
    json.follow? (first ++ second) = (json.follow? first).bind fun inner ↦ inner.follow? second := by
  induction first generalizing json with
  | nil => rw [List.nil_append, follow?_nil, Option.bind_some]
  | cons step rest ih =>
    rw [List.cons_append, follow?_cons, follow?_cons, Option.bind_assoc]
    congr 1
    funext part
    exact ih part

theorem child?_key (members : Members) (key : String) :
    (obj members).child? (.key key) = members.get? key := by
  rw [child?, parts]
  induction members with
  | nil => rfl
  | cons member rest ih =>
    obtain ⟨k, value⟩ := member
    rw [List.map_cons, List.lookup_cons, ih, Members.get?]
    by_cases hkey : k = key
    · simp [hkey]
    · have hstep : (Step.key key == Step.key k) = false := by simpa using Ne.symm hkey
      simp [hkey, hstep]

theorem mem_of_lookup {α β : Type} [DecidableEq α] {l : List (α × β)} {a : α} {b : β} (h : l.lookup a = some b) :
    (a, b) ∈ l := by
  obtain ⟨before, after, hsplit, -⟩ := List.lookup_eq_some_iff.mp h
  rw [hsplit]
  exact List.mem_append_right _ List.mem_cons_self

theorem mem_parts_of_child? {json part : Json} {step : Step} (h : json.child? step = some part) :
    (step, part) ∈ json.parts :=
  mem_of_lookup h

theorem lookup_of_mem {α β : Type} [DecidableEq α] {l : List (α × β)} (hnodup : (l.map Prod.fst).Nodup)
    {a : α} {b : β} (h : (a, b) ∈ l) : l.lookup a = some b := by
  induction l with
  | nil => cases h
  | cons entry rest ih =>
    obtain ⟨a', b'⟩ := entry
    obtain ⟨hnew, hrest⟩ := List.nodup_cons.mp hnodup
    rw [List.lookup_cons]
    rcases List.mem_cons.mp h with heq | hmem
    · cases heq
      simp
    · have hne : (a == a') = false := by
        rw [beq_eq_false_iff_ne]
        rintro rfl
        exact hnew (List.mem_map.mpr ⟨(a, b), hmem, rfl⟩)
      rw [hne]
      exact ih hrest hmem

namespace KeysAscend

variable {json : Json}

theorem nodup_keys {members : Members} (h : (obj members).KeysAscend) : (members.map Prod.fst).Nodup :=
  (h [] members (follow?_nil _)).imp ne_of_lt

theorem nodup_parts (h : json.KeysAscend) : (json.parts.map Prod.fst).Nodup := by
  cases json with
  | obj members =>
    rw [parts, List.map_map]
    have hmap := h.nodup_keys.map (f := Step.key) fun a b hab ↦ Step.key.inj hab
    rwa [List.map_map] at hmap
  | arr items =>
    have hpositions : (items.zipIdx.map Prod.snd).Nodup := by
      rw [List.zipIdx_map_snd]
      exact List.nodup_range'
    rw [parts, List.map_map]
    have hmap := hpositions.map (f := Step.item) fun a b hab ↦ Step.item.inj hab
    rwa [List.map_map] at hmap
  | _ => exact List.nodup_nil

theorem child?_eq (h : json.KeysAscend) {step : Step} {part : Json} (hmem : (step, part) ∈ json.parts) :
    json.child? step = some part :=
  lookup_of_mem h.nodup_parts hmem

theorem follow (h : json.KeysAscend) {address : Address} {inner : Json}
    (hinner : json.follow? address = some inner) : inner.KeysAscend := by
  intro rest members hmembers
  apply h (address ++ rest) members
  rw [follow?_append, hinner, Option.bind_some, hmembers]

theorem part (h : json.KeysAscend) {step : Step} {part : Json} (hmem : (step, part) ∈ json.parts) :
    part.KeysAscend := by
  have hstep : json.follow? [step] = some part := by
    rw [follow?_cons, h.child?_eq hmem, Option.bind_some, follow?_nil]
  exact h.follow hstep

end KeysAscend

theorem mem_places {json : Json} (h : json.KeysAscend) {address : Address} :
    address ∈ json.places ↔ (json.follow? address).isSome = true := by
  induction address generalizing json with
  | nil =>
    rw [places_eq]
    simp
  | cons step rest ih =>
    rw [places_eq, follow?_cons]
    constructor
    · intro hmem
      obtain ⟨⟨step', part⟩, hpart, hmem⟩ :=
        List.mem_flatMap.mp ((List.mem_cons.mp hmem).resolve_left (List.cons_ne_nil _ _))
      obtain ⟨rest', hrest, heq⟩ := List.mem_map.mp hmem
      cases heq
      rw [h.child?_eq hpart, Option.bind_some]
      exact (ih (h.part hpart)).mp hrest
    · intro hsome
      obtain ⟨inner, hinner⟩ := Option.isSome_iff_exists.mp hsome
      obtain ⟨part, hpart, hrest⟩ := Option.bind_eq_some_iff.mp hinner
      have hmem := mem_parts_of_child? hpart
      refine List.mem_cons_of_mem _ (List.mem_flatMap.mpr ⟨(step, part), hmem, ?_⟩)
      exact List.mem_map_of_mem ((ih (h.part hmem)).mpr (by rw [hrest]; rfl))

theorem nodup_places {json : Json} (h : json.KeysAscend) : json.places.Nodup := by
  induction json using parts_induction with
  | h json ih =>
    rw [places_eq, List.nodup_cons]
    constructor
    · intro hmem
      obtain ⟨⟨step, part⟩, -, hmem⟩ := List.mem_flatMap.mp hmem
      obtain ⟨rest, -, heq⟩ := List.mem_map.mp hmem
      cases heq
    · rw [List.nodup_flatMap]
      constructor
      · rintro ⟨step, part⟩ hpart
        exact (ih step part hpart (h.part hpart)).map fun a b hab ↦ List.tail_eq_of_cons_eq hab
      · apply (List.pairwise_map.mp h.nodup_parts).imp
        rintro ⟨step, part⟩ ⟨step', part'⟩ hne address hmem hmem'
        obtain ⟨rest, -, rfl⟩ := List.mem_map.mp hmem
        obtain ⟨rest', -, heq⟩ := List.mem_map.mp hmem'
        exact hne (List.cons.inj heq).1.symm

/-- A test of every value inside a value, by its places. -/
theorem all_of_all_places {json : Json} (hkeys : json.KeysAscend) {p : Json → Bool}
    (h : (json.places.all fun address ↦ (json.follow? address).all p) = true) {address : Address} {inner : Json}
    (hinner : json.follow? address = some inner) : p inner = true := by
  have hplace := (mem_places hkeys).mpr (Option.isSome_of_eq_some hinner)
  have hall := List.all_eq_true.mp h address hplace
  rwa [hinner, Option.all_some] at hall

/-! ## Normal form -/

theorem mem_insert {key : String} {value : Json} {members : Members} {member : String × Json}
    (h : member ∈ members.insert key value) : member = (key, value) ∨ member ∈ members := by
  induction members with
  | nil => exact .inl (List.mem_singleton.mp h)
  | cons first rest ih =>
    obtain ⟨k, v⟩ := first
    rw [Members.insert] at h
    split at h
    · exact (List.mem_cons.mp h).imp_right (List.mem_cons_of_mem _)
    · split at h
      · exact List.mem_cons.mp h
      · rcases List.mem_cons.mp h with rfl | h
        · exact .inr List.mem_cons_self
        · exact (ih h).imp_right (List.mem_cons_of_mem _)

theorem pairwise_insert {key : String} {value : Json} {members : Members}
    (h : (members.map Prod.fst).Pairwise (· < ·)) :
    ((members.insert key value).map Prod.fst).Pairwise (· < ·) := by
  induction members with
  | nil => exact List.pairwise_singleton _ _
  | cons first rest ih =>
    obtain ⟨k, v⟩ := first
    obtain ⟨hfirst, hrest⟩ := List.pairwise_cons.mp h
    rw [Members.insert]
    split
    · rename_i hkey
      rw [beq_iff_eq] at hkey
      subst hkey
      exact h
    · rename_i hkey
      split
      · rename_i hlt
        refine List.pairwise_cons.mpr ⟨?_, h⟩
        intro other hother
        rcases List.mem_cons.mp hother with rfl | hother
        · exact hlt
        · exact lt_trans hlt (hfirst other hother)
      · rename_i hnot
        refine List.pairwise_cons.mpr ⟨?_, ih hrest⟩
        intro other hother
        obtain ⟨member, hmember, rfl⟩ := List.mem_map.mp hother
        rcases mem_insert hmember with rfl | hmember
        · exact lt_of_le_of_ne (not_lt.mp hnot) (by simpa using hkey)
        · exact hfirst member.1 (List.mem_map_of_mem hmember)

theorem sort_spec (members : Members) :
    (members.sort.map Prod.fst).Pairwise (· < ·) ∧ ∀ member ∈ members.sort, member ∈ members := by
  -- The fold starts with no members; what it has put in comes from the list.
  have hfold (rest : Members) : ∀ sorted : Members, (sorted.map Prod.fst).Pairwise (· < ·) →
      let result := rest.foldl (fun sorted member ↦ sorted.insert member.1 member.2) sorted
      (result.map Prod.fst).Pairwise (· < ·) ∧ ∀ member ∈ result, member ∈ sorted ∨ member ∈ rest := by
    induction rest with
    | nil =>
      intro sorted hsorted
      exact ⟨hsorted, fun member hmember ↦ .inl hmember⟩
    | cons first rest ih =>
      intro sorted hsorted
      obtain ⟨hpairwise, hmem⟩ := ih (sorted.insert first.1 first.2) (pairwise_insert hsorted)
      refine ⟨hpairwise, ?_⟩
      intro member hmember
      rcases hmem member hmember with hmember | hmember
      · rcases mem_insert hmember with rfl | hmember
        · exact .inr List.mem_cons_self
        · exact .inl hmember
      · exact .inr (List.mem_cons_of_mem _ hmember)
  obtain ⟨hpairwise, hmem⟩ := hfold members [] List.Pairwise.nil
  exact ⟨hpairwise, fun member hmember ↦ (hmem member hmember).resolve_left List.not_mem_nil⟩

theorem normalizeMembers_eq (members : Members) :
    normalizeMembers members = members.map fun (key, value) ↦ (key, value.normalize) := by
  induction members with
  | nil => rw [normalizeMembers, List.map_nil]
  | cons member rest ih => rw [normalizeMembers, ih, List.map_cons]

theorem normalizeItems_eq (items : List Json) : normalizeItems items = items.map normalize := by
  induction items with
  | nil => rw [normalizeItems, List.map_nil]
  | cons item rest ih => rw [normalizeItems, ih, List.map_cons]

/-- The parts of a value in normal form are in normal form. -/
theorem exists_normalize_of_mem_parts {json part : Json} {step : Step}
    (h : (step, part) ∈ json.normalize.parts) : ∃ inner, part = normalize inner := by
  cases json with
  | obj members =>
    rw [normalize, parts] at h
    obtain ⟨member, hmember, heq⟩ := List.mem_map.mp h
    cases heq
    have hmem := (sort_spec _).2 member hmember
    rw [normalizeMembers_eq] at hmem
    obtain ⟨inner, -, rfl⟩ := List.mem_map.mp hmem
    exact ⟨inner.2, rfl⟩
  | arr items =>
    rw [normalize, parts, normalizeItems_eq] at h
    obtain ⟨item, hitem, heq⟩ := List.mem_map.mp h
    cases heq
    have hmem := List.mem_of_getElem? (List.mem_zipIdx_iff_getElem?.mp hitem)
    obtain ⟨inner, -, hinner⟩ := List.mem_map.mp hmem
    exact ⟨inner, hinner.symm⟩
  | _ => simp [normalize, parts] at h

theorem keysAscend_normalize (json : Json) : json.normalize.KeysAscend := by
  intro address members h
  induction address generalizing json with
  | nil =>
    rw [follow?_nil] at h
    cases json with
    | obj written =>
      rw [normalize] at h
      cases h
      exact (sort_spec _).1
    | _ => simp [normalize] at h
  | cons step rest ih =>
    rw [follow?_cons] at h
    obtain ⟨part, hpart, h⟩ := Option.bind_eq_some_iff.mp h
    obtain ⟨inner, rfl⟩ := exists_normalize_of_mem_parts (mem_parts_of_child? hpart)
    exact ih inner h

theorem keysAscend_parse {text : String} {json : Json} (h : parse text = some json) : json.KeysAscend := by
  obtain ⟨written, -, rfl⟩ := Option.map_eq_some_iff.mp h
  exact keysAscend_normalize written

end SolAudit.Json
