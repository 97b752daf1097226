import SolAudit.Proofs.Json.Replacing

/-!
# Members without null values

`present` keeps the members of an object that have a value other than `null`. Where no key is repeated, a key that has
`null` has nothing afterwards, and all other keys have what they had (`Members.get?_present`). A view that gives nothing
for `null` does not see the difference.
-/

namespace SolAudit.Json

/-- The members with a value other than `null`. -/
def Members.present (members : Members) : Members := members.filter fun (_, value) ↦ !value.isNull

/-- An object without its null members. -/
def withoutNulls : Json → Json
  | .obj members => .obj (Members.present members)
  | value => value

theorem eq_null_of_isNull {value : Json} (h : value.isNull = true) : value = .null := by
  cases value <;> first | rfl | cases h

namespace Members

theorem get?_present {members : Members} (hnodup : (members.map Prod.fst).Nodup) (key : String) :
    Members.get? key (Members.present members) = (members.get? key).filter fun value ↦ !value.isNull := by
  induction members with
  | nil => rfl
  | cons member rest ih =>
    obtain ⟨k, value⟩ := member
    obtain ⟨hnew, hrest⟩ := List.nodup_cons.mp hnodup
    have ih := ih hrest
    unfold present at ih ⊢
    rw [List.filter_cons]
    by_cases hkey : k = key
    · subst hkey
      have hnone : Members.get? k rest = none := get?_eq_none_iff.mpr hnew
      rw [hnone] at ih
      cases hnull : value.isNull <;> simp [Members.get?, Option.filter_some, hnull, ih]
    · cases hnull : value.isNull <;> simp [Members.get?, hkey, hnull, ih]

theorem present_present (members : Members) : Members.present (Members.present members) = Members.present members := by
  simp [present]

end Members

/-- What a view that gives nothing for `null` finds in a value is found as well if null values are left out first. -/
theorem bind_map_filter_isNull {β : Type} {view view' : Json → Option β} {f : Json → Json}
    (hview : ∀ value, view (f value) = view' value) (hnull : view' .null = none) (value : Option Json) :
    ((value.filter fun value ↦ !value.isNull).map f).bind view = value.bind view' := by
  cases value with
  | none => rfl
  | some value =>
    rw [Option.filter_some, Option.bind_some, ← hview]
    cases hvalue : value.isNull with
    | false => simp
    | true => simp [eq_null_of_isNull hvalue, hview, hnull]

theorem bind_get?_present {β : Type} {members : Members} (hnodup : (members.map Prod.fst).Nodup)
    {view : Json → Option β} (hnull : view .null = none) (key : String) :
    (Members.get? key (Members.present members)).bind view = (members.get? key).bind view := by
  have hfilter := bind_map_filter_isNull (f := id) (fun _ ↦ rfl) hnull (members.get? key)
  rwa [Option.map_id, id_eq, ← Members.get?_present hnodup] at hfilter

/-- Two values of one form, and the same value where they are neither objects nor arrays. -/
structure ReadsAs (json other : Json) : Prop extends SameForm json other where
  null : json.isNull = other.isNull
  bool : json.bool? = other.bool?
  id : json.id? = other.id?

namespace ReadsAs

theorem refl (json : Json) : ReadsAs json json := ⟨.refl json, rfl, rfl, rfl⟩

theorem trans {json other another : Json} (h : ReadsAs json other) (h' : ReadsAs other another) :
    ReadsAs json another where
  string := h.string.trans h'.string
  members := h.members.trans h'.members
  items := h.items.trans h'.items
  null := h.null.trans h'.null
  bool := h.bool.trans h'.bool
  id := h.id.trans h'.id

end ReadsAs

theorem readsAs_withoutNulls (json : Json) : ReadsAs json.withoutNulls json := by
  cases json <;> exact ⟨⟨rfl, rfl, rfl⟩, rfl, rfl, rfl⟩

end SolAudit.Json
