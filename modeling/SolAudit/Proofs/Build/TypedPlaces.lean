import Mathlib.Data.List.Perm.Basic
import SolAudit.Build.RawTree
import SolAudit.Proofs.Json.Address

/-!
# Typed places

The places of a document that hold a typed object, and the tree that they form: above a typed place is the
nearest typed place around it (`enclosing?`). `orderedChildren` puts the places directly below one into the order
in which they count as its children, and `preorder` goes through the whole tree. It passes every typed place once
(`mem_preorder`, `nodup_preorder`).
-/

namespace SolAudit.Build

open Ast Json

/-- The type that a value names for itself, if it is an object that does. -/
def typeOf? (json : Json) : Option String := (json.get? "nodeType").bind Json.string?

def isTypedAt (json : Json) (address : Address) : Bool :=
  ((json.follow? address).bind typeOf?).isSome

/-- The longest address strictly before an address that leads to a typed object. -/
def enclosing? (json : Json) (address : Address) : Option Address :=
  ((List.range address.length).reverse.map address.take).find? (isTypedAt json)

/-- The typed places for which the value itself is the nearest typed object around, in document order. -/
def childPlaces (json : Json) : List Address :=
  json.places.filter fun address ↦ isTypedAt json address && enclosing? json address == some []

/-- The range that a value says it has, if that can be read. -/
def rangeOf? (json : Json) : Option Source.Range :=
  ((json.get? "src").bind Json.string?).bind fun src ↦ Source.Range.ofChars? src.toList

/-- Where the source of a value starts; what has no range counts as starting at the last index. -/
def startOf (json : Json) : Nat := ((rangeOf? json).map Source.Range.offset).getD Text.lastIndex

def startAt (json : Json) (address : Address) : Nat := ((json.follow? address).map startOf).getD Text.lastIndex

/-- In source order; places at one offset stay as they are. -/
def sortByStart (json : Json) (addresses : List Address) : List Address :=
  addresses.mergeSort fun a b ↦ startAt json a ≤ startAt json b

/-- The places directly below a typed object, in order: for a known type slot by slot, where nested slots are in
source order, and then in source order what stands in no slot; for an unknown type all in source order. -/
def orderedChildren (json : Json) : List Address :=
  match (typeOf? json).bind Schema.find? with
  | some schema =>
    (schema.slots.flatMap fun slot ↦
      let found := (childPlaces json).filter fun address ↦ address.head? == some (.key slot.name)
      if slot.arity == .nested then sortByStart json found else found) ++
    sortByStart json ((childPlaces json).filter fun address ↦
      schema.slots.all fun slot ↦ address.head? != some (.key slot.name))
  | none => sortByStart json (childPlaces json)

theorem isTypedAt_nil (json : Json) : isTypedAt json [] = (typeOf? json).isSome := by
  rw [isTypedAt, follow?_nil, Option.bind_some]

theorem isTypedAt_append {json inner : Json} {first : Address} (h : json.follow? first = some inner)
    (second : Address) : isTypedAt json (first ++ second) = isTypedAt inner second := by
  rw [isTypedAt, follow?_append, h, Option.bind_some, isTypedAt]

theorem isTypedAt_cons (json : Json) (step : Step) (rest : Address) :
    isTypedAt json (step :: rest) = (json.child? step).any fun part ↦ isTypedAt part rest := by
  rw [isTypedAt, follow?_cons]
  cases json.child? step <;> rfl

theorem enclosing?_nil (json : Json) : enclosing? json [] = none := rfl

/-- The nearest typed place is inside the part that the address enters, or else is the value itself. -/
theorem enclosing?_cons (json : Json) (step : Step) (rest : Address) :
    enclosing? json (step :: rest) =
      (((json.child? step).bind fun part ↦ enclosing? part rest).map (step :: ·)).or
        (if isTypedAt json [] then some [] else none) := by
  have hinner : ((List.range rest.length).reverse.map fun n ↦ step :: rest.take n).find? (isTypedAt json) =
      ((json.child? step).bind fun part ↦ enclosing? part rest).map (step :: ·) := by
    have hmap : ((List.range rest.length).reverse.map fun n ↦ step :: rest.take n) =
        ((List.range rest.length).reverse.map rest.take).map (step :: ·) := by
      rw [List.map_map]
      rfl
    rw [hmap, List.find?_map]
    cases hchild : json.child? step with
    | none =>
      have hnone : isTypedAt json ∘ (step :: ·) = fun _ ↦ false := by
        funext address
        rw [Function.comp_apply, isTypedAt_cons, hchild]
        rfl
      rw [hnone]
      simp
    | some part =>
      have hpart : isTypedAt json ∘ (step :: ·) = isTypedAt part := by
        funext address
        rw [Function.comp_apply, isTypedAt_cons, hchild]
        rfl
      rw [hpart]
      rfl
  rw [enclosing?, List.length_cons, List.range_succ_eq_map, List.reverse_cons, List.map_append, List.find?_append,
    ← List.map_reverse, List.map_map]
  congr 1
  by_cases htyped : isTypedAt json [] <;> simp [htyped]

theorem enclosing?_append {json inner : Json} {first second place : Address}
    (h : json.follow? first = some inner) (hplace : enclosing? inner second = some place) :
    enclosing? json (first ++ second) = some (first ++ place) := by
  induction first generalizing json with
  | nil =>
    rw [follow?_nil] at h
    cases h
    exact hplace
  | cons step rest ih =>
    rw [follow?_cons] at h
    obtain ⟨part, hpart, h⟩ := Option.bind_eq_some_iff.mp h
    rw [List.cons_append, enclosing?_cons, hpart, Option.bind_some, ih h]
    rfl

theorem typed_of_enclosing? {json : Json} {address place : Address} (h : enclosing? json address = some place) :
    isTypedAt json place = true ∧ ∃ rest, rest ≠ [] ∧ address = place ++ rest := by
  refine ⟨List.find?_some h, ?_⟩
  obtain ⟨n, hn, rfl⟩ := List.mem_map.mp (List.mem_of_find?_eq_some h)
  rw [List.mem_reverse, List.mem_range] at hn
  refine ⟨address.drop n, ?_, (List.take_append_drop n address).symm⟩
  intro hnil
  rw [List.drop_eq_nil_iff] at hnil
  omega

/-- A typed place before an address is not passed over on the way to the nearest one. -/
theorem exists_enclosing? {json : Json} {place rest : Address} (htyped : isTypedAt json place = true)
    (hrest : rest ≠ []) : ∃ nearest, enclosing? json (place ++ rest) = some nearest ∧
      place.length ≤ nearest.length := by
  induction place generalizing json with
  | nil =>
    obtain ⟨step, rest, rfl⟩ := List.exists_cons_of_ne_nil hrest
    rw [List.nil_append, enclosing?_cons, htyped]
    cases ((json.child? step).bind fun part ↦ enclosing? part rest) with
    | none => exact ⟨[], rfl, Nat.le_refl _⟩
    | some inner => exact ⟨step :: inner, rfl, Nat.zero_le _⟩
  | cons step tail ih =>
    rw [isTypedAt_cons] at htyped
    obtain ⟨part, hpart, htyped⟩ := (Option.any_eq_true _ _).mp htyped
    obtain ⟨nearest, hnearest, hle⟩ := ih htyped
    refine ⟨step :: nearest, ?_, Nat.succ_le_succ hle⟩
    rw [List.cons_append, enclosing?_cons, hpart, Option.bind_some, hnearest]
    rfl

/-- The typed places inside a value that no other typed place in it encloses. -/
def outermost (json : Json) : List Address :=
  json.places.filter fun address ↦ isTypedAt json address && (enclosing? json address).isNone

/-- Choosing among the places of a value is choosing among those of its parts. -/
theorem filter_places {json : Json} (p : Address → Bool) :
    json.places.filter p = (if p [] then [[]] else []) ++
      json.parts.flatMap fun (step, part) ↦ (part.places.filter fun rest ↦ p (step :: rest)).map (step :: ·) := by
  rw [places_eq, List.filter_cons, List.filter_flatMap]
  have hpart : (fun entry : Step × Json ↦ (entry.2.places.map (entry.1 :: ·)).filter p) =
      fun (step, part) ↦ (part.places.filter fun rest ↦ p (step :: rest)).map (step :: ·) := by
    funext ⟨step, part⟩
    rw [List.filter_map]
    rfl
  rw [← hpart]
  split <;> rfl

/-- The addresses of the outermost typed objects in the parts of a value. -/
def outermostInside (json : Json) : List Address :=
  json.parts.flatMap fun (step, part) ↦ (outermost part).map (step :: ·)

theorem filter_places_eq_outermostInside {json : Json} {p : Address → Bool} (hnil : p [] = false)
    (hcons : ∀ step part, (step, part) ∈ json.parts → ∀ rest,
      p (step :: rest) = (isTypedAt part rest && (enclosing? part rest).isNone)) :
    json.places.filter p = outermostInside json := by
  rw [filter_places, hnil, if_neg Bool.false_ne_true, List.nil_append, outermostInside]
  apply List.flatMap_congr
  rintro ⟨step, part⟩ hpart
  have hfilter : (part.places.filter fun rest ↦ p (step :: rest)) = outermost part :=
    List.filter_congr fun rest _ ↦ hcons step part hpart rest
  exact congrArg (List.map (step :: ·)) hfilter

/-- The children of a typed object are the outermost typed objects in its parts. -/
theorem childPlaces_eq {json : Json} (h : json.KeysAscend) (htyped : isTypedAt json [] = true) :
    childPlaces json = outermostInside json := by
  refine filter_places_eq_outermostInside (by simp [enclosing?_nil]) ?_
  intro step part hpart rest
  rw [isTypedAt_cons, enclosing?_cons, h.child?_eq hpart, htyped, Option.bind_some, Option.any_some]
  cases enclosing? part rest <;> simp

theorem outermost_of_untyped {json : Json} (h : json.KeysAscend) (huntyped : isTypedAt json [] = false) :
    outermost json = outermostInside json := by
  apply filter_places_eq_outermostInside (by simp [huntyped])
  intro step part hpart rest
  rw [isTypedAt_cons, enclosing?_cons, h.child?_eq hpart, huntyped, Option.bind_some, Option.any_some]
  cases enclosing? part rest <;> simp

theorem outermost_of_typed {json : Json} (htyped : isTypedAt json [] = true) : outermost json = [[]] := by
  have hinside : ∀ entry ∈ json.parts,
      (entry.2.places.filter fun rest ↦ isTypedAt json (entry.1 :: rest) &&
        (enclosing? json (entry.1 :: rest)).isNone).map (entry.1 :: ·) = [] := by
    rintro ⟨step, part⟩ _
    rw [List.map_eq_nil_iff, List.filter_eq_nil_iff]
    intro rest _
    rw [enclosing?_cons, htyped]
    simp
  rw [outermost, filter_places, if_pos (by simp [htyped, enclosing?_nil])]
  rw [List.flatMap_eq_nil_iff.mpr hinside]
  rfl

/-- Taking a list apart by some keys, and what has none of them last, only reorders it. -/
theorem flatMap_filter_perm {α κ : Type} [BEq κ] [LawfulBEq κ] (key : α → κ) {keys : List κ} (hnodup : keys.Nodup)
    (l : List α) :
    ((keys.flatMap fun k ↦ l.filter fun a ↦ key a == k) ++ l.filter fun a ↦ keys.all fun k ↦ key a != k).Perm
      l := by
  induction keys generalizing l with
  | nil => simp
  | cons k rest ih =>
    obtain ⟨hk, hrest⟩ := List.nodup_cons.mp hnodup
    -- What is left without the first key is taken apart by the others.
    have hothers : (rest.flatMap fun k' ↦ l.filter fun a ↦ key a == k') =
        rest.flatMap fun k' ↦ (l.filter fun a ↦ !(key a == k)).filter fun a ↦ key a == k' := by
      apply List.flatMap_congr
      intro k' hk'
      rw [List.filter_filter]
      apply List.filter_congr
      intro a _
      have hne : k' ≠ k := fun heq ↦ hk (heq ▸ hk')
      by_cases hkey : key a = k' <;> simp [hkey, hne]
    have hlast : (l.filter fun a ↦ (k :: rest).all fun k' ↦ key a != k') =
        (l.filter fun a ↦ !(key a == k)).filter fun a ↦ rest.all fun k' ↦ key a != k' := by
      rw [List.filter_filter]
      apply List.filter_congr
      intro a _
      rw [List.all_cons, Bool.and_comm]
      rfl
    rw [List.flatMap_cons, hothers, hlast, List.append_assoc]
    exact ((ih hrest _).append_left _).trans (List.filter_append_perm (fun a ↦ key a == k) l)

theorem mem_table_of_find? {tag : String} {schema : Schema} (h : Schema.find? tag = some schema) :
    (tag, schema) ∈ Schema.table :=
  mem_of_lookup h

theorem nodup_slots {tag : String} {schema : Schema} (h : Schema.find? tag = some schema) :
    (schema.slots.map Slot.name).Nodup := by
  have htable : ∀ entry ∈ Schema.table, (entry.2.slots.map Slot.name).Nodup := by decide
  exact htable (tag, schema) (mem_table_of_find? h)

theorem sortByStart_perm (json : Json) (addresses : List Address) :
    (sortByStart json addresses).Perm addresses := List.mergeSort_perm _ _

/-- The order of children neither loses nor repeats any. -/
theorem orderedChildren_perm (json : Json) : (orderedChildren json).Perm (childPlaces json) := by
  rw [orderedChildren]
  split
  · rename_i schema hschema
    obtain ⟨tag, -, hfind⟩ := Option.bind_eq_some_iff.mp hschema
    have hkeys : (schema.slots.map fun slot ↦ some (Step.key slot.name)).Nodup := by
      have hmap := (nodup_slots hfind).map (f := fun name ↦ some (Step.key name))
        fun a b hab ↦ Step.key.inj (Option.some.inj hab)
      rwa [List.map_map] at hmap
    have hperm := flatMap_filter_perm (List.head? : Address → Option Step) hkeys (childPlaces json)
    simp only [List.flatMap_map, List.all_map, Function.comp_def] at hperm
    refine List.Perm.trans (List.Perm.append ?_ (sortByStart_perm json _)) hperm
    apply List.Perm.flatMap_left _
    intro slot _
    split
    · exact sortByStart_perm json _
    · exact List.Perm.refl _
  · exact sortByStart_perm json _

theorem mem_orderedChildren {json : Json} {address : Address} (h : address ∈ orderedChildren json) :
    isTypedAt json address = true ∧ enclosing? json address = some [] ∧ address ≠ [] := by
  have hmem := (orderedChildren_perm json).mem_iff.mp h
  obtain ⟨-, hboth⟩ := List.mem_filter.mp hmem
  rw [Bool.and_eq_true, beq_iff_eq] at hboth
  refine ⟨hboth.1, hboth.2, ?_⟩
  rintro rfl
  exact absurd hboth.2 (by simp [enclosing?_nil])

/-! ## Pre-order -/

theorem sizeOf_follow?_lt {json inner : Json} {address : Address} (hne : address ≠ [])
    (h : json.follow? address = some inner) : sizeOf inner < sizeOf json := by
  induction address generalizing json with
  | nil => exact absurd rfl hne
  | cons step rest ih =>
    rw [follow?_cons] at h
    obtain ⟨part, hpart, h⟩ := Option.bind_eq_some_iff.mp h
    have hlt := sizeOf_lt_of_mem_parts (mem_parts_of_child? hpart)
    by_cases hrest : rest = []
    · subst hrest
      cases h
      exact hlt
    · exact Nat.lt_trans (ih hrest h) hlt

/-- The typed places of a typed object, the object itself first and then child by child. -/
def preorder (json : Json) : List Address :=
  [] :: (orderedChildren json).attach.flatMap fun ⟨address, _⟩ ↦
    match _h : json.follow? address with
    | some inner => (preorder inner).map (address ++ ·)
    | none => []
termination_by sizeOf json
decreasing_by exact sizeOf_follow?_lt (mem_orderedChildren ‹_›).2.2 ‹_›

/-- The places of a typed object inside another, as places of the other. -/
def preorderAt (json : Json) (address : Address) : List Address :=
  match json.follow? address with
  | some inner => (preorder inner).map (address ++ ·)
  | none => []

theorem preorder_eq (json : Json) : preorder json = [] :: (orderedChildren json).flatMap (preorderAt json) := by
  rw [preorder]
  conv_rhs => rw [← List.attach_map_subtype_val (orderedChildren json), List.flatMap_map]
  congr 2
  funext ⟨address, _⟩
  dsimp only
  rw [preorderAt]
  split <;> rename_i h <;> simp only [h]

theorem mem_preorderAt {json : Json} {address place : Address} :
    place ∈ preorderAt json address ↔
      ∃ inner rest, json.follow? address = some inner ∧ rest ∈ preorder inner ∧ place = address ++ rest := by
  rw [preorderAt]
  cases json.follow? address with
  | none => simp
  | some inner => simp [eq_comm]

/-- Every typed place but the value itself is one of the children or inside one of them. -/
theorem exists_orderedChild {json : Json} (h : json.KeysAscend) (hroot : isTypedAt json [] = true)
    {address : Address} (hne : address ≠ []) (htyped : isTypedAt json address = true) :
    ∃ child ∈ orderedChildren json, ∃ rest, address = child ++ rest := by
  induction hlength : address.length using Nat.strong_induction_on generalizing address with
  | h length ih =>
    obtain ⟨nearest, hnearest, -⟩ := exists_enclosing? hroot hne
    rw [List.nil_append] at hnearest
    by_cases hnil : nearest = []
    · subst hnil
      have hplace : address ∈ json.places := by
        rw [mem_places h]
        exact Option.isSome_of_isSome_bind htyped
      have hchild : address ∈ childPlaces json := by
        rw [childPlaces, List.mem_filter, htyped, hnearest]
        exact ⟨hplace, rfl⟩
      exact ⟨address, (orderedChildren_perm json).mem_iff.mpr hchild, [], (List.append_nil _).symm⟩
    · -- The nearest typed place is shorter, and inside a child.
      obtain ⟨htyped', rest, hrest, rfl⟩ := typed_of_enclosing? hnearest
      have hlt : nearest.length < length := by
        have := List.length_pos_iff.mpr hrest
        rw [List.length_append] at hlength
        omega
      obtain ⟨child, hchild, rest', rfl⟩ := ih nearest.length hlt hnil htyped' rfl
      exact ⟨child, hchild, rest' ++ rest, List.append_assoc _ _ _⟩

theorem isTypedAt_child {json inner : Json} {child : Address} (hchild : child ∈ orderedChildren json)
    (h : json.follow? child = some inner) : isTypedAt inner [] = true := by
  have htyped := (mem_orderedChildren hchild).1
  rwa [← List.append_nil child, isTypedAt_append h] at htyped

/-- The pre-order of a typed object passes exactly the typed places. -/
theorem mem_preorder {json : Json} (h : json.KeysAscend) (hroot : isTypedAt json [] = true) {address : Address} :
    address ∈ preorder json ↔ isTypedAt json address = true := by
  induction hsize : sizeOf json using Nat.strong_induction_on generalizing json address with
  | h size ih =>
    have hinner {child : Address} {inner : Json} (hchild : child ∈ orderedChildren json)
        (hfollow : json.follow? child = some inner) {rest : Address} :
        rest ∈ preorder inner ↔ isTypedAt json (child ++ rest) = true := by
      have hlt := sizeOf_follow?_lt (mem_orderedChildren hchild).2.2 hfollow
      rw [isTypedAt_append hfollow]
      exact ih _ (hsize ▸ hlt) (h.follow hfollow) (isTypedAt_child hchild hfollow) rfl
    rw [preorder_eq, List.mem_cons, List.mem_flatMap]
    constructor
    · rintro (rfl | ⟨child, hchild, hmem⟩)
      · exact hroot
      · obtain ⟨inner, rest, hfollow, hrest, rfl⟩ := mem_preorderAt.mp hmem
        exact (hinner hchild hfollow).mp hrest
    · intro htyped
      by_cases hne : address = []
      · exact .inl hne
      · obtain ⟨child, hchild, rest, rfl⟩ := exists_orderedChild h hroot hne htyped
        obtain ⟨inner, hfollow⟩ :=
          Option.isSome_iff_exists.mp (Option.isSome_of_isSome_bind (mem_orderedChildren hchild).1)
        refine .inr ⟨child, hchild, mem_preorderAt.mpr ⟨inner, rest, hfollow, ?_, rfl⟩⟩
        exact (hinner hchild hfollow).mpr htyped

/-- No child of a typed object is inside another child. -/
theorem eq_of_append_eq {json : Json} {child child' rest rest' : Address} (hchild : child ∈ orderedChildren json)
    (hchild' : child' ∈ orderedChildren json) (h : child ++ rest = child' ++ rest') : child = child' := by
  -- Of two places that one address passes, the shorter is enclosed by no place but the object itself.
  have hshort {a b s t : Address} (ha : a ∈ orderedChildren json) (hb : b ∈ orderedChildren json)
      (hab : a ++ s = b ++ t) (hle : a.length ≤ b.length) : a = b := by
    obtain ⟨tail, rfl⟩ := List.prefix_of_prefix_length_le (List.prefix_append a s) (hab ▸ List.prefix_append b t) hle
    by_contra hne
    have htail : tail ≠ [] := by
      rintro rfl
      exact hne (List.append_nil a).symm
    obtain ⟨nearest, hnearest, hlength⟩ := exists_enclosing? (mem_orderedChildren ha).1 htail
    rw [(mem_orderedChildren hb).2.1] at hnearest
    cases hnearest
    exact (mem_orderedChildren ha).2.2 (List.length_eq_zero_iff.mp (Nat.le_zero.mp hlength))
  rcases Nat.le_total child.length child'.length with hle | hle
  · exact hshort hchild hchild' h hle
  · exact (hshort hchild' hchild h.symm hle).symm

theorem nodup_preorder {json : Json} (h : json.KeysAscend) : (preorder json).Nodup := by
  induction hsize : sizeOf json using Nat.strong_induction_on generalizing json with
  | h size ih =>
    rw [preorder_eq, List.nodup_cons]
    constructor
    · intro hmem
      obtain ⟨child, hchild, hmem⟩ := List.mem_flatMap.mp hmem
      obtain ⟨inner, rest, -, -, hnil⟩ := mem_preorderAt.mp hmem
      exact (mem_orderedChildren hchild).2.2 (List.append_eq_nil_iff.mp hnil.symm).1
    · rw [List.nodup_flatMap]
      constructor
      · intro child hchild
        rw [preorderAt]
        split
        · rename_i inner hfollow
          have hlt := sizeOf_follow?_lt (mem_orderedChildren hchild).2.2 hfollow
          exact (ih _ (hsize ▸ hlt) (h.follow hfollow) rfl).map fun a b hab ↦ List.append_cancel_left hab
        · exact List.nodup_nil
      · have hnodup : (orderedChildren json).Nodup :=
          (orderedChildren_perm json).nodup_iff.mpr ((nodup_places h).filter _)
        apply hnodup.imp_of_mem
        intro child child' hchild hchild' hne place hmem hmem'
        obtain ⟨-, rest, -, -, rfl⟩ := mem_preorderAt.mp hmem
        obtain ⟨-, rest', -, -, heq⟩ := mem_preorderAt.mp hmem'
        exact hne (eq_of_append_eq hchild hchild' heq)

end SolAudit.Build
