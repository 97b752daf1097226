import SolAudit.Proofs.Build.Subtrees
import SolAudit.Proofs.Json.Replacing

/-!
# Places that the builder reaches

On its way through a document the builder enters every part of a value, except that of a legacy node it only enters the
items of the list that are nodes. The raw nodes of a document are those of the places that it reaches
(`bears_of_reaches`, `exists_reaches_of_bears`). An object that takes the place of a typed object of the same type is
reached as well (`Reaches.put`).
-/

namespace SolAudit.Build

open Ast Json RawTree

inductive Reaches : Json → Address → Prop where
  | here (json : Json) : Reaches json []
  | inside {json part : Json} {step : Step} {rest : Address} (hlegacy : isLegacy json = false)
      (hpart : json.child? step = some part) (hrest : Reaches part rest) : Reaches json (step :: rest)
  | listed {json list item : Json} {position : Nat} {rest : Address} (hlegacy : isLegacy json = true)
      (hlist : json.child? (.key "children") = some list) (hitem : list.child? (.item position) = some item)
      (hnode : (RawNode.ofJson? item).isSome = true) (hrest : Reaches item rest) :
      Reaches json (.key "children" :: .item position :: rest)

theorem isSome_ofJson? (json : Json) :
    (RawNode.ofJson? json).isSome = ((typeOf? json).isSome || isLegacy json) := by
  cases json with
  | obj members =>
    have hget (key : String) : (obj members).get? key = Members.get? key members := rfl
    simp only [RawNode.ofJson?, members?, Option.bind_some, RawNode.ofMembers?, isLegacy, typeOf?, hget]
    cases (Members.get? "nodeType" members).bind string? with
    | some tag => rfl
    | none =>
      cases (Members.get? "name" members).bind string? with
      | none => rfl
      | some name =>
        simp only [Option.bind_eq_bind, Option.bind_some]
        split <;> simp_all
  | _ => rfl

theorem isLegacy_of_not_node {json : Json} (h : RawNode.ofJson? json = none) : isLegacy json = false := by
  have hnone := isSome_ofJson? json
  rw [h, Option.isSome_none, eq_comm, Bool.or_eq_false_iff] at hnone
  exact hnone.2

theorem legacy_eq {json : Json} {raw : RawNode} (h : RawNode.ofJson? json = some raw) : raw.legacy = isLegacy json := by
  cases json with
  | obj members =>
    have hget (key : String) : (obj members).get? key = Members.get? key members := rfl
    rw [RawNode.ofJson?, members?, Option.bind_some, RawNode.ofMembers?] at h
    simp only [isLegacy, typeOf?, hget]
    split at h
    · rename_i tag htag
      cases h
      rw [htag]
      rfl
    · rename_i htag
      obtain ⟨name, hname, h⟩ := Option.bind_eq_some_iff.mp h
      simp only at h
      split at h
      · rename_i hbody
        cases h
        rw [htag, hname, hbody]
        rfl
      · cases h
  | _ => cases h

theorem ofMembers?_of_typed {members : Members} {tag : String} (h : typeOf? (.obj members) = some tag) :
    RawNode.ofMembers? members = some ⟨tag, members, false, none⟩ := by
  have htag : (Members.get? "nodeType" members).bind string? = some tag := h
  rw [RawNode.ofMembers?, htag]

/-- A flattened node is the one of a typed object. -/
theorem exists_eq_of_flat {json : Json} {raw : RawNode} (h : RawNode.ofJson? json = some raw)
    (hflat : raw.legacy = false) : ∃ members tag, json = .obj members ∧ typeOf? (.obj members) = some tag ∧
      raw = ⟨tag, members, false, none⟩ := by
  have hnot : isLegacy json = false := (legacy_eq h).symm.trans hflat
  have htyped := isSome_ofJson? json
  rw [h, hnot, Bool.or_false] at htyped
  obtain ⟨members, tag, rfl, htag⟩ := exists_members_of_typed ((isTypedAt_nil json).trans htyped.symm)
  refine ⟨members, tag, rfl, htag, ?_⟩
  exact Option.some.inj (h.symm.trans (ofMembers?_of_typed htag))

/-- A raw node is one of those in the trees that are found in a value. -/
def Bears (json : Json) (raw : RawNode) : Prop := ∃ tree ∈ (grow json).found, ∃ sub ∈ tree.subtrees, sub.raw = raw

theorem bears_of_ofJson? {json : Json} {raw : RawNode} (h : RawNode.ofJson? json = some raw) : Bears json raw := by
  refine ⟨treeOf raw, found_of_node h ▸ List.mem_singleton_self _, treeOf raw, ?_, rfl⟩
  rw [subtrees_eq]
  exact List.mem_cons_self

/-- Whatever slot a tree is put in, the trees inside it have the same raw nodes. -/
theorem exists_raw_of_unslotted {tree child sub : RawTree} (hsame : unslotted child = unslotted tree)
    (hsub : sub ∈ tree.subtrees) : ∃ other ∈ child.subtrees, other.raw = sub.raw := by
  obtain ⟨raw, slot, children⟩ := tree
  obtain ⟨raw', slot', children'⟩ := child
  cases hsame
  rw [subtrees_eq] at hsub
  simp only [subtrees_eq]
  rcases List.mem_cons.mp hsub with rfl | hsub
  · exact ⟨_, List.mem_cons_self, rfl⟩
  · exact ⟨sub, List.mem_cons_of_mem _ hsub, rfl⟩

/-- A node bears itself and what its children bear. -/
theorem bears_node_iff {json : Json} {raw inner : RawNode} (h : RawNode.ofJson? json = some raw) :
    Bears json inner ↔ inner = raw ∨ ∃ child ∈ childrenOf raw (growMembers raw.members),
      ∃ sub ∈ child.subtrees, sub.raw = inner := by
  rw [Bears, found_of_node h]
  constructor
  · rintro ⟨tree, htree, sub, hsub, rfl⟩
    cases List.mem_singleton.mp htree
    rw [subtrees_eq] at hsub
    rcases List.mem_cons.mp hsub with rfl | hsub
    · exact .inl rfl
    · obtain ⟨child, hchild, hsub⟩ := mem_subtreesBelow.mp hsub
      exact .inr ⟨child, hchild, sub, hsub, rfl⟩
  · intro hinner
    refine ⟨treeOf raw, List.mem_singleton_self _, ?_⟩
    rw [subtrees_eq]
    rcases hinner with rfl | ⟨child, hchild, sub, hsub, rfl⟩
    · exact ⟨_, List.mem_cons_self, rfl⟩
    · exact ⟨sub, List.mem_cons_of_mem _ (mem_subtreesBelow.mpr ⟨child, hchild, hsub⟩), rfl⟩

/-- What is found in a member of a flattened node is one of its children. -/
theorem exists_child_of_found {members : Members} {raw : RawNode} (hraw : RawNode.ofMembers? members = some raw)
    (hlegacy : raw.legacy = false) {key : String} {value : Json} (hget : members.get? key = some value) {tree : RawTree}
    (htree : tree ∈ (grow value).found) :
    ∃ child ∈ childrenOf raw (growMembers members), unslotted child = unslotted tree := by
  have hkey : key ≠ "nodeType" := by
    rintro rfl
    have hjson : RawNode.ofJson? (.obj members) = some raw := hraw
    have hnot : isLegacy (.obj members) = false := (legacy_eq hjson).symm.trans hlegacy
    rw [ofMembers?_eq hnot] at hraw
    obtain ⟨tag, htag, -⟩ := Option.map_eq_some_iff.mp hraw
    have hstring : (members.get? "nodeType").bind string? = some tag := htag
    rw [hget, Option.bind_some] at hstring
    cases value with
    | str text => simp [grow] at htree
    | _ => cases hstring
  have houtside (pick : String → Bool) (hpick : pick key = true) : tree ∈ outside (growMembers members) pick := by
    rw [outside, sortByOffset, List.mem_mergeSort, growMembers_eq]
    have hmem := List.mem_map_of_mem (f := fun member : String × Json ↦ (member.1, grow member.2))
      (Members.mem_of_get? hget)
    exact List.mem_flatMap.mpr ⟨(key, grow value), List.mem_filter.mpr ⟨hmem, hpick⟩, htree⟩
  rw [childrenOf, if_neg (Bool.not_eq_true _ ▸ hlegacy)]
  cases Schema.find? raw.tag with
  | none => exact ⟨tree, houtside _ (by simpa using hkey), rfl⟩
  | some schema =>
    cases hslot : schema.hasSlot key with
    | false => exact ⟨tree, List.mem_append_right _ (houtside _ (by simp [hkey, hslot])), rfl⟩
    | true =>
      obtain ⟨slot, hmem, hname⟩ := List.any_eq_true.mp hslot
      cases beq_iff_eq.mp hname
      refine ⟨tree.within slot.name, List.mem_append_left _ (List.mem_flatMap.mpr ⟨slot, hmem, ?_⟩),
        unslotted_within _ _⟩
      have hfound : tree ∈ Growths.found (growMembers members) slot.name := by
        rw [Growths.found, growths_get?, hget]
        exact htree
      apply List.mem_map_of_mem
      split
      · exact List.mem_mergeSort.mpr hfound
      · exact hfound

theorem follow?_listed {json list item : Json} {position : Nat} (hlist : json.child? (.key "children") = some list)
    (hitem : list.child? (.item position) = some item) (rest : Address) :
    json.follow? (.key "children" :: .item position :: rest) = item.follow? rest := by
  rw [follow?_cons, hlist, Option.bind_some, follow?_cons, hitem, Option.bind_some]

theorem mem_listed {json list item : Json} {raw : RawNode} {position : Nat} (hraw : RawNode.ofJson? json = some raw)
    (hlist : json.child? (.key "children") = some list) (hitem : list.child? (.item position) = some item) :
    item ∈ raw.listed := by
  cases json with
  | obj members =>
    have hmembers : raw.members = members := members_of_ofMembers? hraw
    rw [child?_key] at hlist
    rw [RawNode.listed, hmembers, hlist, Option.bind_some]
    cases list with
    | arr items =>
      rw [child?_item] at hitem
      exact List.mem_of_getElem? hitem
    | obj inside =>
      rw [child?_item_obj] at hitem
      cases hitem
    | _ => cases hitem
  | _ => cases hraw

/-- A value that is no node bears what its parts bear. -/
theorem bears_iff_of_not_node {json : Json} {raw : RawNode} (h : RawNode.ofJson? json = none) :
    Bears json raw ↔ ∃ step part, (step, part) ∈ json.parts ∧ Bears part raw := by
  rw [Bears, found_grow h]
  constructor
  · rintro ⟨tree, htree, hinside⟩
    obtain ⟨⟨step, part⟩, hpart, hfound⟩ := List.mem_flatMap.mp htree
    exact ⟨step, part, hpart, tree, hfound, hinside⟩
  · rintro ⟨step, part, hpart, tree, hfound, hinside⟩
    exact ⟨tree, List.mem_flatMap.mpr ⟨(step, part), hpart, hfound⟩, hinside⟩

theorem bears_of_get? {members : Members} {raw inner : RawNode} (hraw : RawNode.ofMembers? members = some raw)
    (hlegacy : raw.legacy = false) {key : String} {value : Json} (hget : members.get? key = some value)
    (h : Bears value inner) : Bears (.obj members) inner := by
  obtain ⟨tree, htree, sub, hsub, rfl⟩ := h
  obtain ⟨child, hchild, hslot⟩ := exists_child_of_found hraw hlegacy hget htree
  have hjson : RawNode.ofJson? (.obj members) = some raw := hraw
  rw [bears_node_iff hjson, members_of_ofMembers? hraw]
  exact .inr ⟨child, hchild, exists_raw_of_unslotted hslot hsub⟩

/-- A node bears nothing but itself and what its members bear. -/
theorem Bears.eq_or_member {members : Members} {raw inner : RawNode} (hraw : RawNode.ofMembers? members = some raw)
    (h : Bears (.obj members) inner) : inner = raw ∨ ∃ member ∈ members, Bears member.2 inner := by
  have hjson : RawNode.ofJson? (.obj members) = some raw := hraw
  rw [bears_node_iff hjson, members_of_ofMembers? hraw] at h
  rcases h with rfl | ⟨child, hchild, sub, hsub, rfl⟩
  · exact .inl rfl
  · obtain ⟨member, hmember, tree, htree, hslot⟩ := exists_found_of_mem_childrenOf hchild
    exact .inr ⟨member, hmember, tree, htree, exists_raw_of_unslotted hslot.symm hsub⟩

/-- A legacy node bears itself and what the nodes of its list bear. -/
theorem bears_iff_of_legacy {json : Json} {raw inner : RawNode} (hraw : RawNode.ofJson? json = some raw)
    (hlegacy : raw.legacy = true) :
    Bears json inner ↔ inner = raw ∨ ∃ item ∈ raw.listed, (RawNode.ofJson? item).isSome = true ∧ Bears item inner := by
  rw [bears_node_iff hraw, childrenOf_legacy hlegacy]
  refine or_congr_right ?_
  constructor
  · rintro ⟨child, hchild, hinside⟩
    obtain ⟨item, hitem, htree⟩ := List.mem_filterMap.mp hchild
    rw [ofJson?_eq] at htree
    obtain ⟨own, hown, rfl⟩ := Option.map_eq_some_iff.mp htree
    exact ⟨item, hitem, Option.isSome_of_eq_some hown, treeOf own,
      found_of_node hown ▸ List.mem_singleton_self _, hinside⟩
  · rintro ⟨item, hitem, hsome, tree, htree, hinside⟩
    obtain ⟨own, hown⟩ := Option.isSome_iff_exists.mp hsome
    rw [found_of_node hown, List.mem_singleton] at htree
    refine ⟨tree, List.mem_filterMap.mpr ⟨item, hitem, ?_⟩, hinside⟩
    rw [ofJson?_eq, hown, htree, Option.map_some]

theorem bears_of_reaches {json : Json} {address : Address} (hreaches : Reaches json address) {inner : Json}
    {raw : RawNode} (hinner : json.follow? address = some inner) (hraw : RawNode.ofJson? inner = some raw) :
    Bears json raw := by
  induction hreaches with
  | here json =>
    rw [follow?_nil] at hinner
    cases hinner
    exact bears_of_ofJson? hraw
  | @inside json part step rest hlegacy hpart _ ih =>
    rw [follow?_cons, hpart, Option.bind_some] at hinner
    have hbears : Bears part raw := ih hinner
    cases hnode : RawNode.ofJson? json with
    | none => exact (bears_iff_of_not_node hnode).mpr ⟨step, part, mem_parts_of_child? hpart, hbears⟩
    | some own =>
      cases json with
      | obj members =>
        cases step with
        | key key =>
          rw [child?_key] at hpart
          exact bears_of_get? hnode ((legacy_eq hnode).trans hlegacy) hpart hbears
        | item position =>
          rw [child?_item_obj] at hpart
          cases hpart
      | _ => cases hnode
  | @listed json list item position rest hlegacy hlist hitem hsome _ ih =>
    rw [follow?_listed hlist hitem] at hinner
    obtain ⟨own, hown⟩ : ∃ own, RawNode.ofJson? json = some own := by
      rw [← Option.isSome_iff_exists, isSome_ofJson?, hlegacy, Bool.or_true]
    exact (bears_iff_of_legacy hown ((legacy_eq hown).trans hlegacy)).mpr
      (.inr ⟨item, mem_listed hown hlist hitem, hsome, ih hinner⟩)

theorem exists_item_of_mem_listed {json item : Json} {raw : RawNode} (hraw : RawNode.ofJson? json = some raw)
    (h : item ∈ raw.listed) : ∃ list position, json.child? (.key "children") = some list ∧
      list.child? (.item position) = some item := by
  cases json with
  | obj members =>
    have hmembers : raw.members = members := members_of_ofMembers? hraw
    rw [RawNode.listed, hmembers] at h
    cases hlist : Members.get? "children" members with
    | none =>
      rw [hlist] at h
      cases h
    | some list =>
      rw [hlist, Option.bind_some] at h
      cases list with
      | arr items =>
        obtain ⟨position, hitem⟩ := List.mem_iff_getElem?.mp h
        exact ⟨.arr items, position, (child?_key _ _).trans hlist, (child?_item _ _).trans hitem⟩
      | _ => cases h
  | _ => cases hraw

/-- The raw nodes in the trees of a value are those of places that are reached. -/
theorem exists_reaches_of_bears {json : Json} (hkeys : json.KeysAscend) {raw : RawNode} (h : Bears json raw) :
    ∃ address, Reaches json address ∧ (json.follow? address).bind RawNode.ofJson? = some raw := by
  induction json using inside_induction with
  | h json ih =>
    have hinside {step : Step} {part : Json} (hlegacy : isLegacy json = false) (hpart : (step, part) ∈ json.parts)
        (hbears : Bears part raw) :
        ∃ address, Reaches json address ∧ (json.follow? address).bind RawNode.ofJson? = some raw := by
      have hchild := hkeys.child?_eq hpart
      have hfollow : json.follow? [step] = some part := by
        rw [follow?_cons, hchild, Option.bind_some, follow?_nil]
      obtain ⟨rest, hrest, hraw⟩ := ih step [] part hfollow (hkeys.part hpart) hbears
      refine ⟨step :: rest, .inside hlegacy hchild hrest, ?_⟩
      rw [follow?_cons, hchild, Option.bind_some, hraw]
    cases hnode : RawNode.ofJson? json with
    | none =>
      obtain ⟨step, part, hpart, hbears⟩ := (bears_iff_of_not_node hnode).mp h
      exact hinside (isLegacy_of_not_node hnode) hpart hbears
    | some own =>
      have hhere (heq : raw = own) :
          ∃ address, Reaches json address ∧ (json.follow? address).bind RawNode.ofJson? = some raw :=
        ⟨[], .here json, by rw [follow?_nil, Option.bind_some, hnode, heq]⟩
      cases hlegacy : isLegacy json with
      | false =>
        cases json with
        | obj members =>
          rcases h.eq_or_member hnode with heq | ⟨member, hmember, hbears⟩
          · exact hhere heq
          · exact hinside hlegacy (List.mem_map_of_mem hmember) hbears
        | _ => cases hnode
      | true =>
        have hown : own.legacy = true := (legacy_eq hnode).trans hlegacy
        rcases (bears_iff_of_legacy hnode hown).mp h with heq | ⟨item, hitem, hsome, hbears⟩
        · exact hhere heq
        · obtain ⟨list, position, hlist, hat⟩ := exists_item_of_mem_listed hnode hitem
          have hfollow : json.follow? [.key "children", .item position] = some item := follow?_listed hlist hat []
          obtain ⟨rest, hrest, hraw⟩ := ih _ _ item hfollow (hkeys.follow hfollow) hbears
          refine ⟨.key "children" :: .item position :: rest, .listed hlegacy hlist hat hsome hrest, ?_⟩
          rw [follow?_listed hlist hat, hraw]

theorem mem_rawNodes_iff {source : SourceTree} {tree : RawTree} (h : RawTree.ofJson? source.ast = some tree)
    (raw : RawNode) : raw ∈ rawNodes source ↔ Bears source.ast raw := by
  rw [rawNodes_eq h, List.mem_map]
  rw [ofJson?_eq] at h
  obtain ⟨root, hroot, rfl⟩ := Option.map_eq_some_iff.mp h
  simp [Bears, found_of_node hroot]

/-! ## Replacing typed objects -/

section Put

variable {json : Json} {address : Address} {members new : Members}

/-- The members of a value in which an object is replaced have the form that they had. -/
theorem rel_get?_put {step : Step} {rest : Address} (h : json.follow? (step :: rest) = some (.obj members))
    (new : Members) (key : String) :
    Option.Rel SameForm ((json.put (step :: rest) (.obj new)).get? key) (json.get? key) := by
  rw [get?_put]
  cases hvalue : json.get? key with
  | none => exact .none
  | some value =>
    refine .some ?_
    split
    · rename_i hstep
      rw [hstep, follow?_cons, ← get?_eq_child?, hvalue, Option.bind_some] at h
      exact sameForm_put h
    · exact .refl value

theorem views_of_rel {value other : Option Json} (h : Option.Rel SameForm value other) :
    value.bind string? = other.bind string? ∧ (value.bind members?).isSome = (other.bind members?).isSome ∧
      (value.bind items?).isSome = (other.bind items?).isSome := by
  cases h with
  | none => exact ⟨rfl, rfl, rfl⟩
  | some h => exact ⟨h.string, h.members, h.items⟩

theorem typeOf?_put (h : json.follow? address = some (.obj members))
    (htype : typeOf? (.obj new) = typeOf? (.obj members)) : typeOf? (json.put address (.obj new)) = typeOf? json := by
  cases address with
  | nil =>
    rw [follow?_nil] at h
    cases h
    rw [put, htype]
  | cons step rest => exact (views_of_rel (rel_get?_put h new "nodeType")).1

theorem isLegacy_put (h : json.follow? address = some (.obj members))
    (htype : typeOf? (.obj new) = typeOf? (.obj members)) (htyped : (typeOf? (.obj members)).isSome = true) :
    isLegacy (json.put address (.obj new)) = isLegacy json := by
  have hput := typeOf?_put h htype
  cases address with
  | nil =>
    rw [follow?_nil] at h
    cases h
    obtain ⟨tag, htag⟩ := Option.isSome_iff_exists.mp htyped
    rw [isLegacy, isLegacy, hput, htag]
    rfl
  | cons step rest =>
    have hviews (key : String) := views_of_rel (rel_get?_put h new key)
    rw [isLegacy, isLegacy, hput, (hviews "name").1, (hviews "attributes").2.1, (hviews "children").2.2]

theorem Reaches.put (hreaches : Reaches json address) (h : json.follow? address = some (.obj members))
    (htype : typeOf? (.obj new) = typeOf? (.obj members)) (htyped : (typeOf? (.obj members)).isSome = true) :
    Reaches (json.put address (.obj new)) address := by
  have hnode {inner : Json} {rest : Address} (h : inner.follow? rest = some (.obj members)) :
      (RawNode.ofJson? (inner.put rest (.obj new))).isSome = (RawNode.ofJson? inner).isSome := by
    rw [isSome_ofJson?, isSome_ofJson?, typeOf?_put h htype, isLegacy_put h htype htyped]
  induction hreaches with
  | here json => exact .here _
  | inside hlegacy hpart _ ih =>
    have hinner := h
    rw [follow?_cons, hpart, Option.bind_some] at hinner
    refine .inside ((isLegacy_put h htype htyped).trans hlegacy) ?_ (ih hinner)
    rw [child?_put, hpart, Option.map_some]
  | @listed json list item position rest hlegacy hlist hitem hsome _ ih =>
    have hinner := h
    rw [follow?_listed hlist hitem] at hinner
    have hlist' : (json.put (.key "children" :: .item position :: rest) (.obj new)).child? (.key "children") =
        some (list.put (.item position :: rest) (.obj new)) := by
      rw [child?_put, hlist, Option.map_some]
    have hitem' : (list.put (.item position :: rest) (.obj new)).child? (.item position) =
        some (item.put rest (.obj new)) := by
      rw [child?_put, hitem, Option.map_some]
    exact .listed ((isLegacy_put h htype htyped).trans hlegacy) hlist' hitem' ((hnode hinner).trans hsome) (ih hinner)

end Put

end SolAudit.Build
