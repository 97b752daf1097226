import SolAudit.Proofs.Build.Conditions
import SolAudit.Proofs.Build.Pruning

/-!
# Fields of pruned nodes

A field with the value `null` counts as missing, with one exception: a lookup among the attributes of a legacy node
stops at a `null`, and does not go on to the key that older compilers used. So a field of a pruned node is the field of
the node, or the value that the `null` hid (`Keyed.get?_pruned`). Where nothing was hidden the readings of the field give
the same, except that an object of exported symbols loses names if it is itself a node (`Keyed.symbols_pruned_iff`).
-/

namespace SolAudit.Build

open Ast Json RawTree

namespace RawNode

/-- A raw node of an object in which keys ascend, as they do inside its values. -/
structure Keyed (raw : RawNode) : Prop where
  own : RawNode.ofMembers? raw.members = some raw
  keys : (obj raw.members).KeysAscend

/-- The value that a legacy node has under an older key, where a `null` under the key of today hides it. -/
def masked? (raw : RawNode) (key : String) : Option Json :=
  if raw.legacy && ((raw.attributes.bind (Members.get? key)).any isNull) then
    ((olderKey? raw.tag key).bind fun older ↦ raw.attributes.bind (Members.get? older)).filter fun value ↦ !value.isNull
  else none

/-- The value of a field in the pruned node. -/
def keep (raw : RawNode) (key : String) (value : Json) : Json := if raw.legacy then value else pruneAt false key value

theorem keep_of_legacy {raw : RawNode} (h : raw.legacy = true) (key : String) : raw.keep key = id := by
  funext value
  rw [keep, if_pos h, id_eq]

theorem keep_of_flat {raw : RawNode} (h : raw.legacy = false) (key : String) : raw.keep key = pruneAt false key := by
  funext value
  rw [keep, if_neg (Bool.eq_false_iff.mp h)]

theorem readsAs_keep (raw : RawNode) (key : String) (value : Json) : ReadsAs (raw.keep key value) value := by
  unfold keep
  split
  · exact .refl value
  · exact readsAs_pruneAt false key value

namespace Keyed

variable {raw : RawNode} (h : raw.Keyed)

include h

theorem nodup : (raw.members.map Prod.fst).Nodup := h.keys.nodup_keys

theorem keysAscend_get? {key : String} {value : Json} (hvalue : raw.members.get? key = some value) :
    value.KeysAscend :=
  h.keys.part (List.mem_map.mpr ⟨(key, value), Members.mem_of_get? hvalue, rfl⟩)

theorem nodup_attributes {attributes : Members} (hattributes : raw.attributes = some attributes) :
    (attributes.map Prod.fst).Nodup := by
  have hown := h.own
  rw [RawNode.ofMembers?] at hown
  split at hown
  · rw [← Option.some.inj hown] at hattributes
    cases hattributes
  · obtain ⟨tag, -, hown⟩ := Option.bind_eq_some_iff.mp hown
    simp only at hown
    split at hown
    · rw [← Option.some.inj hown] at hattributes
      obtain ⟨value, hvalue, hmembers⟩ := Option.bind_eq_some_iff.mp hattributes
      cases value with
      | obj members =>
        cases hmembers
        exact (h.keysAscend_get? hvalue).nodup_keys
      | _ => cases hmembers
    · cases hown

/-- A field of a pruned node is the field of the node, or what a `null` hides. -/
theorem get?_pruned (key : String) :
    raw.pruned.get? key = ((raw.get? key).map (raw.keep key)).or (raw.masked? key) := by
  cases hlegacy : raw.legacy with
  | false =>
    have hmasked : raw.masked? key = none := by simp [masked?, hlegacy]
    have hnull (value : Json) : (pruneAt false key value).isNull = value.isNull := (readsAs_pruneAt _ _ _).null
    rw [hmasked, Option.or_none, keep_of_flat hlegacy, get?, get?, lookup, lookup, legacy_pruned, hlegacy,
      if_neg Bool.false_ne_true, if_neg Bool.false_ne_true, get?_pruned_members h.nodup, hlegacy, Option.filter_map]
    cases raw.members.get? key with
    | none => rfl
    | some value => cases hvalue : value.isNull <;> simp [Option.filter_some, hvalue, hnull]
  | true =>
    have hattributes' : raw.pruned.attributes = raw.attributes.map Members.present := rfl
    rw [keep_of_legacy hlegacy, Option.map_id, id_eq, get?, get?, lookup, lookup, legacy_pruned, tag_pruned, hlegacy,
      hattributes', masked?, hlegacy]
    cases hattributes : raw.attributes with
    | none => rfl
    | some attributes =>
      have hget := Members.get?_present (h.nodup_attributes hattributes)
      have holder :
          ((olderKey? raw.tag key).bind fun older ↦ (Members.get? older attributes).filter fun v ↦ !v.isNull) =
            ((olderKey? raw.tag key).bind fun older ↦ Members.get? older attributes).filter fun v ↦ !v.isNull := by
        cases olderKey? raw.tag key <;> rfl
      simp only [if_true, Option.map_some, hget, holder, Option.bind_some, Bool.true_and]
      cases attributes.get? key with
      | none => simp [Option.filter_filter]
      | some value => cases hvalue : value.isNull <;> simp [Option.filter_some, Option.filter_filter, hvalue]

end Keyed

/-! ## Fields that nothing hides -/

/-- A view that does not look inside objects and arrays. -/
def Shallow {β : Type} (view : Json → β) : Prop := ∀ value other : Json, ReadsAs value other → view value = view other

theorem masked?_of_olderKey? {raw : RawNode} {key : String} (h : olderKey? raw.tag key = none) :
    raw.masked? key = none := by
  unfold masked?
  rw [h]
  split <;> rfl

/-- What a `null` hides is no value of the field. -/
theorem get?_of_masked? {raw : RawNode} {key : String} (h : (raw.masked? key).isSome = true) : raw.get? key = none := by
  unfold masked? at h
  split at h
  · rename_i hnull
    obtain ⟨hlegacy, hnull⟩ := Bool.and_eq_true_iff.mp hnull
    rw [get?, lookup, if_pos hlegacy]
    cases hattributes : raw.attributes with
    | none => rfl
    | some attributes =>
      rw [hattributes, Option.bind_some, Option.any_eq_true] at hnull
      obtain ⟨value, hvalue, hnull⟩ := hnull
      simp [hvalue, hnull, Option.filter_some]
  · cases h

namespace Keyed

variable {raw : RawNode} (h : raw.Keyed) {key : String} (hkey : raw.masked? key = none)

include h hkey

theorem get?_of_unmasked : raw.pruned.get? key = (raw.get? key).map (raw.keep key) := by
  rw [h.get?_pruned, hkey, Option.or_none]

theorem bind_get?_pruned {β : Type} {view : Json → Option β} (hview : Shallow view) :
    (raw.pruned.get? key).bind view = (raw.get? key).bind view := by
  rw [h.get?_of_unmasked hkey]
  cases raw.get? key with
  | none => rfl
  | some value => exact hview _ _ (raw.readsAs_keep key value)

theorem isSome_get?_pruned : (raw.pruned.get? key).isSome = (raw.get? key).isSome := by
  rw [h.get?_of_unmasked hkey, Option.isSome_map]

theorem text?_pruned : raw.pruned.text? key = raw.text? key := h.bind_get?_pruned hkey fun _ _ hreads ↦ hreads.string

theorem flagOr_pruned (fallback : Bool) : raw.pruned.flagOr key fallback = raw.flagOr key fallback := by
  rw [flagOr, flagOr, h.bind_get?_pruned hkey fun _ _ hreads ↦ hreads.bool]

theorem all_has_pruned (vocabulary : Vocabulary) :
    (raw.pruned.get? key).all vocabulary.has = (raw.get? key).all vocabulary.has := by
  have hhas (value : Json) : vocabulary.has value = value.string?.any fun text ↦ decide (text ∈ vocabulary.words) := by
    cases value <;> rfl
  rw [h.get?_of_unmasked hkey]
  cases raw.get? key with
  | none => rfl
  | some value => simp [hhas, (raw.readsAs_keep key value).string]

/-- A word that is there is read again, and so is a word that is not. -/
theorem word?_pruned {vocabulary : Vocabulary} (hspells : (raw.get? key).all vocabulary.has = true) :
    raw.pruned.word? key vocabulary = raw.word? key vocabulary := by
  have hget := h.get?_of_unmasked hkey
  cases hvalue : raw.get? key with
  | none =>
    rw [hvalue] at hget
    rw [word?, word?, hget, hvalue]
    rfl
  | some value =>
    rw [hvalue] at hget hspells
    cases value with
    | str text =>
      have hsame : raw.keep key (.str text) = .str text := by
        have hstring := (raw.readsAs_keep key (.str text)).string
        cases hkeep : raw.keep key (.str text) with
        | str other =>
          rw [hkeep] at hstring
          cases hstring
          rfl
        | _ =>
          rw [hkeep] at hstring
          cases hstring
      rw [Option.map_some, hsame, ← hvalue] at hget
      rw [word?, word?, hget]
    | _ => cases hspells

theorem wordOr_pruned {vocabulary : Vocabulary} (hspells : (raw.get? key).all vocabulary.has = true)
    (fallback : Except FieldFault String) :
    raw.pruned.wordOr key vocabulary fallback = raw.wordOr key vocabulary fallback := by
  rw [wordOr, wordOr, h.word?_pruned hkey hspells]

end Keyed

/-- The items of a list in a pruned member are the items, or pruned items. -/
theorem exists_items?_pruneAt (legacy : Bool) (key : String) (value : Json) : ∃ f : Json → Json,
    (∀ item, ReadsAs (f item) item) ∧ (pruneAt legacy key value).items? = value.items?.map (·.map f) := by
  have htrim (value : Json) : (trimAt key value).items? = value.items? := by
    unfold trimAt
    split
    · cases value <;> rfl
    · rfl
  have hitem (item : Json) : ReadsAs (pruneItem item) item := by
    unfold pruneItem
    split
    · exact readsAs_prune item
    · exact .refl item
  rw [pruneAt, htrim, pruneInside]
  split
  · split
    · exact ⟨pruneItem, hitem, items?_pruneChildren value⟩
    · exact ⟨id, .refl, by simp⟩
  · refine ⟨prune, readsAs_prune, ?_⟩
    cases value with
    | arr items =>
      rw [prune, pruneItems_eq]
      rfl
    | obj members =>
      rw [prune]
      cases RawNode.ofMembers? members <;> rfl
    | _ =>
      rw [prune]
      · rfl
      all_goals simp

/-- A view of the items of a list finds the same in a pruned list. -/
theorem filterMap_items?_pruneAt {β : Type} {view : Json → Option β} (hview : Shallow view) (legacy : Bool)
    (key : String) (value : Json) :
    ((pruneAt legacy key value).items?.getD []).filterMap view = (value.items?.getD []).filterMap view := by
  obtain ⟨f, hf, hitems⟩ := exists_items?_pruneAt legacy key value
  rw [hitems]
  cases value.items? with
  | none => rfl
  | some items =>
    rw [Option.map_some, Option.getD_some, Option.getD_some, List.filterMap_map]
    exact List.filterMap_congr fun item _ ↦ hview _ _ (hf item)

theorem texts_eq (raw : RawNode) (key : String) :
    raw.texts key = ((raw.get? key).map fun value ↦ (value.items?.getD []).filterMap string?).getD [] := by
  unfold texts
  cases raw.get? key <;> rfl

theorem Keyed.texts_pruned {raw : RawNode} (h : raw.Keyed) {key : String} (hkey : raw.masked? key = none) :
    raw.pruned.texts key = raw.texts key := by
  rw [texts_eq, texts_eq, h.get?_of_unmasked hkey]
  cases raw.get? key with
  | none => rfl
  | some value =>
    simp only [Option.map_some, Option.getD_some, keep]
    split
    · rfl
    · exact filterMap_items?_pruneAt (fun _ _ hreads ↦ hreads.string) false key value

/-- The symbols in the members of an object. -/
def symbolsOf (members : Members) : List (String × List Int) :=
  members.map fun (name, ids) ↦ (name, (ids.items?.getD []).filterMap Json.id?)

/-- The exported symbols are themselves a node, which loses a name with its null member. -/
def DropsSymbols (raw : RawNode) (key : String) : Prop :=
  raw.legacy = false ∧ ∃ members, raw.members.get? key = some (.obj members) ∧
    (RawNode.ofMembers? members).isSome = true ∧ ∃ name, (name, Json.null) ∈ members

theorem symbolsOf_mapValues {f : String → Json → Json} (members : Members)
    (hf : ∀ key value, ((f key value).items?.getD []).filterMap Json.id? = (value.items?.getD []).filterMap Json.id?) :
    symbolsOf (members.map fun (key, value) ↦ (key, f key value)) = symbolsOf members := by
  unfold symbolsOf
  rw [List.map_map]
  apply List.map_congr_left
  rintro ⟨key, value⟩ -
  exact congrArg (key, ·) (hf key value)

theorem symbolsOf_pruneMembers (members : Members) : symbolsOf (pruneMembers members) = symbolsOf members := by
  rw [pruneMembers_eq]
  exact symbolsOf_mapValues members fun _ value ↦ filterMap_items?_pruneAt (fun _ _ hreads ↦ hreads.id) false "" value

theorem symbolsOf_pruneOwn (legacy : Bool) (members : Members) :
    symbolsOf (pruneOwn legacy members) = symbolsOf members := by
  rw [pruneOwn_eq]
  exact symbolsOf_mapValues members (filterMap_items?_pruneAt (fun _ _ hreads ↦ hreads.id) legacy)

/-- Symbols stay the same without null members exactly if there are none. -/
theorem symbolsOf_present_iff {members : Members} :
    symbolsOf (Members.present members) = symbolsOf members ↔ ∀ name, (name, Json.null) ∉ members := by
  have hall : (∀ member ∈ members, (!member.2.isNull) = true) ↔ ∀ name, (name, Json.null) ∉ members := by
    constructor
    · intro h name hmember
      cases h _ hmember
    · rintro h ⟨name, value⟩ hmember
      cases hnull : value.isNull with
      | false => rfl
      | true => exact absurd (eq_null_of_isNull hnull ▸ hmember) (h name)
  rw [← hall]
  constructor
  · intro h
    have hlength := congrArg List.length h
    rw [symbolsOf, symbolsOf, List.length_map, List.length_map] at hlength
    exact List.length_filter_eq_length_iff.mp hlength
  · intro h
    rw [Members.present, List.filter_eq_self.mpr h]

theorem mem_null_pruneOwn {legacy : Bool} {members : Members} {name : String} :
    (name, Json.null) ∈ pruneOwn legacy members ↔ (name, Json.null) ∈ members := by
  rw [pruneOwn_eq, List.mem_map]
  constructor
  · rintro ⟨⟨key, value⟩, hmember, hsame⟩
    obtain ⟨rfl, hvalue⟩ := Prod.mk.inj hsame
    have hnull := (readsAs_pruneAt legacy key value).null
    rw [hvalue] at hnull
    rwa [← eq_null_of_isNull hnull.symm]
  · intro hmember
    have hnull := (readsAs_pruneAt legacy name .null).null
    exact ⟨_, hmember, congrArg (name, ·) (eq_null_of_isNull hnull)⟩

/-- An object loses symbols exactly if it is a node with a null member. -/
theorem symbolsOf_prune_iff (members : Members) :
    symbolsOf ((prune (.obj members)).members?.getD []) = symbolsOf members ↔
      ¬((RawNode.ofMembers? members).isSome = true ∧ ∃ name, (name, Json.null) ∈ members) := by
  cases hnode : RawNode.ofMembers? members with
  | none =>
    rw [prune_of_not_node hnode]
    simp [members?, symbolsOf_pruneMembers]
  | some inner =>
    cases members_of_ofMembers? hnode
    rw [prune_of_node hnode, members?, Option.getD_some, pruned, ← symbolsOf_pruneOwn inner.legacy inner.members,
      symbolsOf_present_iff]
    simp [mem_null_pruneOwn]

theorem symbols_eq (raw : RawNode) (key : String) :
    raw.symbols key = symbolsOf (((raw.get? key).bind members?).getD []) := rfl

/-- The exported symbols stay the same unless they are themselves a node with a null member. -/
theorem Keyed.symbols_pruned_iff {raw : RawNode} (h : raw.Keyed) {key : String} (hkey : raw.masked? key = none)
    (hattributes : key ≠ "attributes") : raw.pruned.symbols key = raw.symbols key ↔ ¬raw.DropsSymbols key := by
  rw [symbols_eq, symbols_eq, h.get?_of_unmasked hkey, DropsSymbols]
  cases hlegacy : raw.legacy with
  | true => simp [keep_of_legacy hlegacy]
  | false =>
    have hget : raw.get? key = (raw.members.get? key).filter fun value ↦ !value.isNull := by
      rw [get?, lookup, hlegacy, if_neg Bool.false_ne_true]
    have hkeep (value : Json) : raw.keep key value = prune value := by
      rw [keep_of_flat hlegacy, pruneAt, pruneInside, if_neg Bool.false_ne_true, trimAt,
        if_neg (by simpa using hattributes)]
    rw [hget]
    cases hvalue : raw.members.get? key with
    | none => simp
    | some value =>
      have hform := (readsAs_prune value).members
      cases value with
      | obj members =>
        have hpresent : ((some (obj members)).filter fun value ↦ !value.isNull) = some (obj members) := rfl
        rw [hpresent, Option.map_some, Option.bind_some, Option.bind_some, hkeep, members?, Option.getD_some,
          symbolsOf_prune_iff]
        simp
      | _ => simp_all [Option.filter_some, isNull, members?]

/-- A text changes exactly if a `null` hides another one. -/
theorem Keyed.text?_pruned_iff {raw : RawNode} (h : raw.Keyed) (key : String) :
    raw.pruned.text? key = raw.text? key ↔ ¬((raw.masked? key).bind string?).isSome = true := by
  cases hmasked : raw.masked? key with
  | none => simp [h.text?_pruned hmasked]
  | some value =>
    have hnone : raw.get? key = none := get?_of_masked? (Option.isSome_of_eq_some hmasked)
    rw [text?, text?, h.get?_pruned, hnone, hmasked, Option.map_none, Option.none_or, Option.bind_some,
      Option.bind_none, Bool.not_eq_true, Option.isSome_eq_false_iff, Option.isNone_iff_eq_none]

theorem Keyed.innerText_pruned {raw : RawNode} (h : raw.Keyed) (key inner : String) :
    ((raw.pruned.members.get? key).bind fun value ↦ value.get? inner).bind string? =
      ((raw.members.get? key).bind fun value ↦ value.get? inner).bind string? := by
  rw [get?_pruned_members h.nodup]
  cases hvalue : raw.members.get? key with
  | none => rfl
  | some value =>
    rw [Option.filter_some]
    cases hnull : value.isNull with
    | false => exact string?_get?_pruneAt (h.keysAscend_get? hvalue) raw.legacy key inner
    | true =>
      rw [eq_null_of_isNull hnull]
      rfl

theorem Keyed.typeName?_pruned {raw : RawNode} (h : raw.Keyed) (hname : raw.masked? "name" = none) :
    raw.pruned.typeName? = raw.typeName? := by
  rw [typeName?, typeName?, h.text?_pruned hname, h.innerText_pruned]

/-- The type of an expression changes exactly if a `null` hides it. -/
theorem Keyed.typeString?_pruned_iff {raw : RawNode} (h : raw.Keyed) :
    raw.pruned.typeString? = raw.typeString? ↔ ¬((raw.masked? "typeString").bind string?).isSome = true := by
  cases hlegacy : raw.legacy with
  | true =>
    rw [typeString?, typeString?, legacy_pruned, if_pos hlegacy, if_pos hlegacy, h.text?_pruned_iff]
  | false =>
    have hmasked : raw.masked? "typeString" = none := by simp [masked?, hlegacy]
    rw [typeString?, typeString?, legacy_pruned, hlegacy, if_neg Bool.false_ne_true, if_neg Bool.false_ne_true,
      h.innerText_pruned, hmasked]
    simp

theorem keyed_of_ofJson? {json : Json} (hkeys : json.KeysAscend) {raw : RawNode} (h : RawNode.ofJson? json = some raw) :
    json = .obj raw.members ∧ raw.Keyed := by
  cases json with
  | obj members =>
    cases members_of_ofMembers? h
    exact ⟨rfl, h, hkeys⟩
  | _ => cases h

theorem innerText_pruneItem {item : Json} (hkeys : item.KeysAscend) (key inner : String) :
    (((pruneItem item).get? key).bind fun value ↦ value.get? inner).bind string? =
      ((item.get? key).bind fun value ↦ value.get? inner).bind string? := by
  unfold pruneItem
  split
  · rename_i hnode
    obtain ⟨raw, hraw⟩ := Option.isSome_iff_exists.mp hnode
    obtain ⟨rfl, hkeyed⟩ := keyed_of_ofJson? hkeys hraw
    rw [prune_of_node hraw]
    exact hkeyed.innerText_pruned key inner
  · rfl

/-- The name of a modifier that is invoked is that in the first item of the list, or in the member for it. -/
theorem Keyed.invokedName?_pruned {raw : RawNode} (h : raw.Keyed) : raw.pruned.invokedName? = raw.invokedName? := by
  cases hlegacy : raw.legacy with
  | false =>
    rw [invokedName?, invokedName?, legacy_pruned, hlegacy, if_neg Bool.false_ne_true, if_neg Bool.false_ne_true,
      h.innerText_pruned]
  | true =>
    have hitems := items?_get?_pruned h.nodup hlegacy
    have hpath (child : Json) : child.path? ["attributes", "value"] =
        (child.get? "attributes").bind fun value ↦ value.get? "value" := by
      simp [path?]
    have hfirst (list : Option Json) : (list.bind fun list ↦ list.at? 0) =
        (list.bind items?).bind fun items ↦ items[0]? := (Option.bind_assoc list items? _).symm
    rw [invokedName?, invokedName?, legacy_pruned, if_pos hlegacy, if_pos hlegacy]
    simp only [hpath, hfirst, hitems]
    cases hlist : (raw.members.get? "children").bind items? with
    | none => rfl
    | some items =>
      cases items with
      | nil => rfl
      | cons item rest =>
        obtain ⟨value, hvalue, hlist⟩ := Option.bind_eq_some_iff.mp hlist
        cases value with
        | arr items =>
          cases hlist
          have hitem : (arr (item :: rest)).follow? [.item 0] = some item := by
            rw [follow?_cons, child?_item]
            simp
          exact innerText_pruneItem ((h.keysAscend_get? hvalue).follow hitem) "attributes" "value"
        | _ => cases hlist

end RawNode

end SolAudit.Build
