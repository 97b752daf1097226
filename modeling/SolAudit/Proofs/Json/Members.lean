import Mathlib.Data.List.Induction
import Mathlib.Data.List.Perm.Basic
import SolAudit.Proofs.Json.Address

/-!
# Members by key

An object whose keys are distinct has each of its members at its key (`Members.get?_of_mem`), and putting its members
in key order loses none (`Members.sort_perm`).
-/

namespace SolAudit

theorem exists_map_of_perm {α β : Type} {f : α → β} {l : List α} {l' : List β} (h : l'.Perm (l.map f)) :
    ∃ m : List α, m.Perm l ∧ l' = m.map f := by
  have hcomp : Relation.Comp (· = List.map f ·) (·.Perm ·) l' l := by
    rwa [List.eq_map_comp_perm]
  obtain ⟨m, hmap, hperm⟩ := hcomp
  exact ⟨m, hperm, hmap⟩

end SolAudit

namespace SolAudit.Json

theorem get?_eq_child? (json : Json) (key : String) : json.get? key = json.child? (.key key) := by
  cases json with
  | obj members =>
    rw [child?_key]
    rfl
  | arr items =>
    have hnone : (arr items).child? (.key key) = none := by
      rw [child?, parts, List.lookup_eq_none_iff]
      intro part hpart
      obtain ⟨item, -, rfl⟩ := List.mem_map.mp hpart
      rfl
    rw [hnone]
    rfl
  | _ => rfl

/-- Following keys is following an address of keys. -/
theorem path?_eq_follow? (keys : List String) : ∀ json : Json, json.path? keys = json.follow? (keys.map .key) := by
  induction keys with
  | nil =>
    intro json
    rw [path?, List.map_nil, follow?_nil]
  | cons key rest ih =>
    intro json
    rw [path?, List.map_cons, follow?_cons, get?_eq_child?]
    congr 1
    funext inner
    exact ih inner

/-- An object that keys lead to has no key twice. -/
theorem KeysAscend.nodup_path {json : Json} (h : json.KeysAscend) (keys : List String) {members : Members}
    (hpath : (json.path? keys).bind members? = some members) : (members.map Prod.fst).Nodup := by
  obtain ⟨inner, hinner, hmembers⟩ := Option.bind_eq_some_iff.mp hpath
  cases inner with
  | obj inside =>
    cases hmembers
    rw [path?_eq_follow?] at hinner
    exact (h _ _ hinner).imp ne_of_lt
  | _ => cases hmembers

/-- What holds of the members of a value and of all objects inside its parts holds of all objects inside it. -/
theorem forall_obj_of_parts {json : Json} {P : Members → Prop} (hown : ∀ members, json = .obj members → P members)
    (hparts : ∀ step part, (step, part) ∈ json.parts →
      ∀ address members, part.follow? address = some (.obj members) → P members) :
    ∀ address members, json.follow? address = some (.obj members) → P members := by
  intro address members h
  cases address with
  | nil =>
    rw [follow?_nil] at h
    exact hown members (Option.some.inj h)
  | cons step rest =>
    rw [follow?_cons] at h
    obtain ⟨part, hpart, h⟩ := Option.bind_eq_some_iff.mp h
    exact hparts step part (mem_parts_of_child? hpart) rest members h

theorem keysAscend_of_parts {json : Json}
    (hown : ∀ members, json = .obj members → (members.map Prod.fst).Pairwise (· < ·))
    (hparts : ∀ step part, (step, part) ∈ json.parts → part.KeysAscend) : json.KeysAscend :=
  forall_obj_of_parts hown hparts

theorem keysAscend_obj {members : Members} (hkeys : (members.map Prod.fst).Pairwise (· < ·))
    (h : ∀ member ∈ members, member.2.KeysAscend) : (obj members).KeysAscend := by
  apply keysAscend_of_parts
  · intro inside hinside
    cases hinside
    exact hkeys
  · intro step part hpart
    obtain ⟨member, hmember, heq⟩ := List.mem_map.mp hpart
    cases heq
    exact h member hmember

theorem mem_of_mem_parts {items : List Json} {step : Step} {part : Json} (h : (step, part) ∈ (arr items).parts) :
    part ∈ items := by
  obtain ⟨⟨item, position⟩, hitem, heq⟩ := List.mem_map.mp h
  cases heq
  exact List.fst_mem_of_mem_zipIdx hitem

theorem keysAscend_arr {items : List Json} (h : ∀ item ∈ items, item.KeysAscend) : (arr items).KeysAscend := by
  apply keysAscend_of_parts
  · intro members hmembers
    cases hmembers
  · intro step part hpart
    exact h part (mem_of_mem_parts hpart)

theorem keysAscend_of_parts_eq_nil {json : Json} (h : json.parts = []) : json.KeysAscend := by
  apply keysAscend_of_parts
  · rintro members rfl
    rw [parts, List.map_eq_nil_iff] at h
    rw [h]
    exact .nil
  · intro step part hpart
    rw [h] at hpart
    cases hpart

theorem keysAscend_str (text : String) : (str text).KeysAscend := keysAscend_of_parts_eq_nil rfl

theorem keysAscend_nat (n : Nat) : (nat n).KeysAscend := keysAscend_of_parts_eq_nil rfl

theorem keysAscend_singleton (key : String) {value : Json} (h : value.KeysAscend) : (obj [(key, value)]).KeysAscend :=
  keysAscend_obj (List.pairwise_singleton _ _) (List.forall_mem_singleton.mpr h)

theorem keysAscend_ofStrings (texts : List String) : (ofStrings texts).KeysAscend := by
  apply keysAscend_arr
  intro item hitem
  obtain ⟨text, -, rfl⟩ := List.mem_map.mp hitem
  exact keysAscend_str text

theorem keysAscend_ofMembers {members : Members} (h : ∀ member ∈ members, member.2.KeysAscend) :
    (ofMembers members).KeysAscend :=
  keysAscend_obj (sort_spec members).1 fun member hmember ↦ h member ((sort_spec members).2 member hmember)

namespace Members

variable {members : Members} {key : String} {value : Json}

theorem get?_of_mem (hnodup : (members.map Prod.fst).Nodup) (h : (key, value) ∈ members) :
    members.get? key = some value := by
  have hlookup : (obj members).child? (.key key) = some value := by
    apply lookup_of_mem
    · have hmap := hnodup.map (f := Step.key) fun a b hab ↦ Step.key.inj hab
      simpa [parts, Function.comp_def] using hmap
    · exact List.mem_map.mpr ⟨(key, value), h, rfl⟩
  rwa [child?_key] at hlookup

theorem mem_of_get? (h : members.get? key = some value) : (key, value) ∈ members := by
  rw [← child?_key] at h
  obtain ⟨member, hmember, heq⟩ := List.mem_map.mp (mem_parts_of_child? h)
  cases heq
  exact hmember

theorem get?_eq_none_iff : members.get? key = none ↔ key ∉ members.map Prod.fst := by
  induction members with
  | nil => simp [Members.get?]
  | cons member rest ih =>
    obtain ⟨k, v⟩ := member
    rw [Members.get?, List.map_cons, List.mem_cons, not_or]
    by_cases hkey : k = key
    · simp [hkey]
    · simp [hkey, ih, Ne.symm hkey]

theorem get?_filter (p : String → Bool) (members : Members) (key : String) :
    Members.get? key (members.filter fun (key, _) ↦ p key) = if p key then members.get? key else none := by
  induction members with
  | nil => simp [Members.get?]
  | cons member rest ih =>
    obtain ⟨k, value⟩ := member
    rw [List.filter_cons, Members.get?]
    by_cases hkey : k = key
    · subst hkey
      cases hp : p k <;> simp [hp, ih, Members.get?]
    · cases hp : p k <;> simp [hp, ih, hkey, Members.get?]

theorem get?_mapValues (f : String → Json → Json) (members : Members) (key : String) :
    Members.get? key (members.map fun (k, value) ↦ (k, f k value)) = (members.get? key).map (f key) := by
  induction members with
  | nil => rfl
  | cons member rest ih =>
    obtain ⟨k, value⟩ := member
    rw [List.map_cons, Members.get?, Members.get?, ih]
    by_cases hkey : k = key <;> simp [hkey]

theorem insert_perm (hnew : key ∉ members.map Prod.fst) :
    (members.insert key value).Perm ((key, value) :: members) := by
  induction members with
  | nil => exact .refl _
  | cons member rest ih =>
    obtain ⟨k, v⟩ := member
    rw [List.map_cons, List.mem_cons, not_or] at hnew
    have hne : (k == key) = false := by simpa using Ne.symm hnew.1
    rw [Members.insert, hne]
    simp only [Bool.false_eq_true, if_false]
    split
    · exact .refl _
    · exact ((ih hnew.2).cons (k, v)).trans (.swap _ _ _)

theorem get?_insert_of_ne {other : String} (h : other ≠ key) (members : Members) :
    Members.get? other (members.insert key value) = members.get? other := by
  induction members with
  | nil => simp [Members.insert, Members.get?, Ne.symm h]
  | cons member rest ih =>
    obtain ⟨k, v⟩ := member
    rw [Members.insert]
    split
    · rename_i hkey
      rw [beq_iff_eq] at hkey
      simp [Members.get?, hkey, Ne.symm h]
    · split
      · simp [Members.get?, Ne.symm h]
      · rw [Members.get?, Members.get?, ih]

theorem get?_insert_self (members : Members) : Members.get? key (members.insert key value) = some value := by
  induction members with
  | nil => simp [Members.insert, Members.get?]
  | cons member rest ih =>
    obtain ⟨k, v⟩ := member
    rw [Members.insert]
    split
    · simp [Members.get?]
    · split
      · simp [Members.get?]
      · rename_i hne _
        rw [Members.get?, if_neg hne, ih]

theorem get?_append (first second : Members) (key : String) :
    Members.get? key (first ++ second) = (first.get? key).or (second.get? key) := by
  induction first with
  | nil => rfl
  | cons member rest ih =>
    obtain ⟨k, v⟩ := member
    rw [List.cons_append, Members.get?, Members.get?, ih]
    by_cases hkey : k = key <;> simp [hkey]

/-- Of several members with one key, sorting keeps the last. -/
theorem get?_sort_eq (members : Members) (key : String) : members.sort.get? key = Members.get? key members.reverse := by
  induction members using List.reverseRecOn with
  | nil => rfl
  | append_singleton members member ih =>
    obtain ⟨k, v⟩ := member
    rw [sort, List.foldl_concat, ← sort, List.reverse_append, List.reverse_singleton, List.singleton_append,
      Members.get?]
    by_cases hkey : k = key
    · simp [hkey, get?_insert_self]
    · rw [get?_insert_of_ne (Ne.symm hkey), ih]
      simp [hkey]

/-- Sorting members with distinct keys loses none. -/
theorem sort_perm (hnodup : (members.map Prod.fst).Nodup) : members.sort.Perm members := by
  -- The keys put in so far and those to come stay distinct.
  have hfold (rest : Members) : ∀ sorted : Members, ((sorted ++ rest).map Prod.fst).Nodup →
      (rest.foldl (fun sorted member ↦ sorted.insert member.1 member.2) sorted).Perm (sorted ++ rest) := by
    induction rest with
    | nil =>
      intro sorted _
      rw [List.append_nil]
      exact .refl _
    | cons first rest ih =>
      intro sorted hsorted
      have hmiddle : (sorted ++ first :: rest).Perm (first :: sorted ++ rest) := List.perm_middle
      have hkeys := (hmiddle.map Prod.fst).nodup_iff.mp hsorted
      have hnew : first.1 ∉ sorted.map Prod.fst := by
        intro hmem
        rw [List.cons_append, List.map_cons, List.nodup_cons] at hkeys
        exact hkeys.1 (by rw [List.map_append]; exact List.mem_append_left _ hmem)
      have hinsert : (sorted.insert first.1 first.2 ++ rest).Perm (first :: sorted ++ rest) :=
        (insert_perm hnew).append_right rest
      refine (ih _ ((hinsert.map Prod.fst).nodup_iff.mpr hkeys)).trans ?_
      exact hinsert.trans hmiddle.symm
  exact hfold members [] hnodup

theorem get?_sort (hnodup : (members.map Prod.fst).Nodup) (key : String) :
    members.sort.get? key = members.get? key := by
  have hperm := sort_perm hnodup
  have hsorted := (hperm.map Prod.fst).nodup_iff.mpr hnodup
  cases hget : members.get? key with
  | none =>
    rw [get?_eq_none_iff] at hget ⊢
    exact fun hmem ↦ hget ((hperm.map Prod.fst).mem_iff.mp hmem)
  | some value => exact get?_of_mem hsorted (hperm.mem_iff.mpr (mem_of_get? hget))

/-- Members that come later, with distinct keys, take the place of those before them. -/
theorem get?_sort_append (first : Members) {second : Members} (hnodup : (second.map Prod.fst).Nodup) (key : String) :
    (Members.sort (first ++ second)).get? key = (second.get? key).or (first.sort.get? key) := by
  rw [get?_sort_eq, List.reverse_append, get?_append, ← get?_sort_eq, ← get?_sort_eq, get?_sort hnodup]

/-- Sorting the members made of things with distinct keys puts the things in an order. -/
theorem exists_sort_eq {α : Type} {f : α → String × Json} {l : List α} (hnodup : (l.map fun a ↦ (f a).1).Nodup) :
    ∃ m : List α, m.Perm l ∧ Members.sort (l.map f) = m.map f := by
  apply exists_map_of_perm
  apply sort_perm
  rwa [List.map_map]

end Members

end SolAudit.Json
