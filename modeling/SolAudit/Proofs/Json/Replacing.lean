import SolAudit.Proofs.Json.Members

/-!
# Values with a part replaced

`put` replaces the value at an address. What stands there afterwards is the new value (`follow?_put`). A value keeps its
form when a part of it is replaced: strings, objects and arrays stay what they are.
-/

namespace SolAudit.Json

/-- The value with another one at an address. -/
def put : Json → Address → Json → Json
  | _, [], new => new
  | .obj members, .key key :: rest, new =>
    .obj (members.map fun (k, value) ↦ (k, if k == key then value.put rest new else value))
  | .arr items, .item position :: rest, new => .arr (items.modify position fun item ↦ item.put rest new)
  | json, _ :: _, _ => json

theorem lookup_item (items : List Json) : ∀ first position : Nat,
    ((items.zipIdx first).map fun (value, position) ↦ (Step.item position, value)).lookup (.item (first + position)) =
      items[position]? := by
  induction items with
  | nil =>
    intro first position
    rfl
  | cons item rest ih =>
    intro first position
    rw [List.zipIdx_cons, List.map_cons, List.lookup_cons]
    cases position with
    | zero => simp
    | succ position =>
      have hne : (Step.item (first + (position + 1)) == Step.item first) = false := by simp
      rw [hne, ← Nat.add_assoc, Nat.add_right_comm]
      exact ih (first + 1) position

theorem child?_item (items : List Json) (position : Nat) : (arr items).child? (.item position) = items[position]? := by
  have hall := lookup_item items 0 position
  rwa [Nat.zero_add] at hall

theorem child?_item_obj (members : Members) (position : Nat) : (obj members).child? (.item position) = none := by
  rw [child?, parts, List.lookup_eq_none_iff]
  intro part hpart
  obtain ⟨member, -, rfl⟩ := List.mem_map.mp hpart
  rfl

theorem get?_map (f : Json → Json) (key : String) (members : Members) (other : String) :
    Members.get? other (members.map fun (k, value) ↦ (k, if k == key then f value else value)) =
      (members.get? other).map fun value ↦ if other == key then f value else value :=
  Members.get?_mapValues (fun k value ↦ if k == key then f value else value) members other

/-- A member of a value in which a part is replaced. -/
theorem get?_put (json : Json) (step : Step) (rest : Address) (new : Json) (key : String) :
    (json.put (step :: rest) new).get? key =
      (json.get? key).map fun value ↦ if step = .key key then value.put rest new else value := by
  cases json with
  | obj members =>
    cases step with
    | key other =>
      rw [put, get?, members?, Option.bind_some, get?_map fun value ↦ value.put rest new]
      by_cases hkey : key = other
      · simp [get?, members?, hkey]
      · simp [get?, members?, hkey, Ne.symm hkey]
    | item position => simp [put]
  | arr items => cases step <;> simp [put, get?, members?]
  | _ => cases step <;> simp [put, get?, members?]

/-- The part that is replaced. -/
theorem child?_put (json : Json) (step : Step) (rest : Address) (new : Json) :
    (json.put (step :: rest) new).child? step = (json.child? step).map fun part ↦ part.put rest new := by
  cases step with
  | key key => simp [← get?_eq_child?, get?_put]
  | item position =>
    cases json with
    | arr items => simp [put, child?_item]
    | obj members =>
      rw [put, child?_item_obj]
      · rfl
      · simp
      · simp
    | _ => rfl

theorem follow?_put {new : Json} {address : Address} : ∀ {json : Json}, (json.follow? address).isSome = true →
    (json.put address new).follow? address = some new := by
  induction address with
  | nil =>
    intro json _
    rw [put, follow?_nil]
  | cons step rest ih =>
    intro json h
    rw [follow?_cons] at h
    obtain ⟨inner, hinner⟩ := Option.isSome_iff_exists.mp h
    obtain ⟨part, hpart, hinner⟩ := Option.bind_eq_some_iff.mp hinner
    rw [follow?_cons, child?_put, hpart, Option.map_some, Option.bind_some]
    exact ih (Option.isSome_of_eq_some hinner)

theorem sizeOf_lt_of_follow? {rest : Address} : ∀ {json inner : Json} {step : Step},
    json.follow? (step :: rest) = some inner → sizeOf inner < sizeOf json := by
  induction rest with
  | nil =>
    intro json inner step h
    rw [follow?_cons] at h
    obtain ⟨part, hpart, h⟩ := Option.bind_eq_some_iff.mp h
    rw [follow?_nil] at h
    cases h
    exact sizeOf_lt_of_mem_parts (mem_parts_of_child? hpart)
  | cons next rest ih =>
    intro json inner step h
    rw [follow?_cons] at h
    obtain ⟨part, hpart, h⟩ := Option.bind_eq_some_iff.mp h
    exact (ih h).trans (sizeOf_lt_of_mem_parts (mem_parts_of_child? hpart))

/-- A property of values that follows from the same property of the values inside them holds of every value. -/
theorem inside_induction {P : Json → Prop}
    (h : ∀ json, (∀ step rest inner, json.follow? (step :: rest) = some inner → P inner) → P json) (json : Json) :
    P json :=
  h json fun _ _ inner hinner ↦
    have := sizeOf_lt_of_follow? hinner
    inside_induction h inner
termination_by sizeOf json

/-- Two values that are the same string, or neither is a string, and that are alike in being objects and arrays. -/
structure SameForm (json other : Json) : Prop where
  string : json.string? = other.string?
  members : json.members?.isSome = other.members?.isSome
  items : json.items?.isSome = other.items?.isSome

theorem SameForm.refl (json : Json) : SameForm json json := ⟨rfl, rfl, rfl⟩

/-- Where an object takes the place of an object, all values around keep their form. -/
theorem sameForm_put {json : Json} {address : Address} {members new : Members}
    (h : json.follow? address = some (.obj members)) : SameForm (json.put address (.obj new)) json := by
  cases address with
  | nil =>
    rw [follow?_nil] at h
    cases h
    exact ⟨rfl, rfl, rfl⟩
  | cons step rest => cases json <;> cases step <;> exact ⟨rfl, rfl, rfl⟩

end SolAudit.Json
