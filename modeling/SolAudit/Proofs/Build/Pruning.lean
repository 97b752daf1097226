import SolAudit.Proofs.Build.Reach
import SolAudit.Proofs.Json.NullMembers

/-!
# Trees without null members

`prune` takes the members with the value `null` out of the nodes of a tree and out of their attributes. It comes to the
nodes on the ways on which the builder finds them: through every member of an object that is no legacy node, and of a
legacy node through the items of its list that are nodes. A null member holds no node and does not make an object one,
so the builder finds the same nodes in the same order, each of them pruned (`ofJson?_prune`, `preorder_pruned`).
-/

namespace SolAudit.Build

open Ast Json RawTree

/-- The value of a member of a node. Attributes lose their null members. -/
def trimAt (key : String) (value : Json) : Json := if key == "attributes" then value.withoutNulls else value

mutual

/-- A value without the null members of its nodes and of their attributes. -/
def prune : Json → Json
  | .obj members =>
    match RawNode.ofMembers? members with
    | some raw => .obj (Members.present (pruneOwn raw.legacy members))
    | none => .obj (pruneMembers members)
  | .arr items => .arr (pruneItems items)
  | value => value

def pruneItems : List Json → List Json
  | [] => []
  | item :: rest => prune item :: pruneItems rest

def pruneMembers : List (String × Json) → List (String × Json)
  | [] => []
  | (key, value) :: rest => (key, prune value) :: pruneMembers rest

/-- The members of a node with their values pruned. Its own null members are still there. -/
def pruneOwn (legacy : Bool) : List (String × Json) → List (String × Json)
  | [] => []
  | (key, value) :: rest =>
    let inner := if legacy then (if key == "children" then pruneChildren value else value) else prune value
    (key, trimAt key inner) :: pruneOwn legacy rest

/-- A list of children in the legacy encoding. Items that are no nodes stay as they are. -/
def pruneChildren : Json → Json
  | .arr items => .arr (pruneListed items)
  | value => value

def pruneListed : List Json → List Json
  | [] => []
  | item :: rest => (if (RawNode.ofJson? item).isSome then prune item else item) :: pruneListed rest

end

/-- The value of a member of a node, where only the nodes inside it are pruned. -/
def pruneInside (legacy : Bool) (key : String) (value : Json) : Json :=
  if legacy then (if key == "children" then pruneChildren value else value) else prune value

/-- The value of a member of a node, pruned. -/
def pruneAt (legacy : Bool) (key : String) (value : Json) : Json := trimAt key (pruneInside legacy key value)

/-- An item of a list of children, pruned. -/
def pruneItem (item : Json) : Json := if (RawNode.ofJson? item).isSome then prune item else item

def RawNode.pruned (raw : RawNode) : RawNode where
  tag := raw.tag
  members := Members.present (pruneOwn raw.legacy raw.members)
  legacy := raw.legacy
  attributes := raw.attributes.map Members.present

@[simp]
theorem RawNode.tag_pruned (raw : RawNode) : raw.pruned.tag = raw.tag := rfl

@[simp]
theorem RawNode.legacy_pruned (raw : RawNode) : raw.pruned.legacy = raw.legacy := rfl

def SourceTree.pruned (source : SourceTree) : SourceTree := { source with ast := prune source.ast }

theorem pruneItems_eq (items : List Json) : pruneItems items = items.map prune := by
  induction items with
  | nil => rw [pruneItems, List.map_nil]
  | cons item rest ih => rw [pruneItems, ih, List.map_cons]

theorem pruneMembers_eq (members : Members) :
    pruneMembers members = members.map fun (key, value) ↦ (key, prune value) := by
  induction members with
  | nil => rw [pruneMembers, List.map_nil]
  | cons member rest ih => rw [pruneMembers, ih, List.map_cons]

theorem pruneOwn_eq (legacy : Bool) (members : Members) :
    pruneOwn legacy members = members.map fun (key, value) ↦ (key, pruneAt legacy key value) := by
  induction members with
  | nil => rw [pruneOwn, List.map_nil]
  | cons member rest ih =>
    rw [pruneOwn, ih, List.map_cons]
    rfl

theorem pruneListed_eq (items : List Json) : pruneListed items = items.map pruneItem := by
  induction items with
  | nil => rw [pruneListed, List.map_nil]
  | cons item rest ih =>
    rw [pruneListed, ih, List.map_cons]
    rfl

theorem prune_of_node {members : Members} {raw : RawNode} (h : RawNode.ofMembers? members = some raw) :
    prune (.obj members) = .obj raw.pruned.members := by
  rw [prune, h, RawNode.pruned, members_of_ofMembers? h]

theorem prune_of_not_node {members : Members} (h : RawNode.ofMembers? members = none) :
    prune (.obj members) = .obj (pruneMembers members) := by
  rw [prune, h]

theorem readsAs_trimAt (key : String) (value : Json) : ReadsAs (trimAt key value) value := by
  unfold trimAt
  split
  · exact readsAs_withoutNulls value
  · exact .refl value

theorem readsAs_prune (json : Json) : ReadsAs (prune json) json := by
  cases json with
  | obj members =>
    rw [prune]
    cases RawNode.ofMembers? members <;> exact ⟨⟨rfl, rfl, rfl⟩, rfl, rfl, rfl⟩
  | arr items =>
    rw [prune]
    exact ⟨⟨rfl, rfl, rfl⟩, rfl, rfl, rfl⟩
  | _ =>
    rw [prune]
    · exact .refl _
    all_goals simp

theorem readsAs_pruneChildren (json : Json) : ReadsAs (pruneChildren json) json := by
  cases json with
  | arr items =>
    rw [pruneChildren]
    exact ⟨⟨rfl, rfl, rfl⟩, rfl, rfl, rfl⟩
  | _ =>
    rw [pruneChildren]
    · exact .refl _
    all_goals simp

theorem readsAs_pruneAt (legacy : Bool) (key : String) (value : Json) : ReadsAs (pruneAt legacy key value) value := by
  apply (readsAs_trimAt key _).trans
  unfold pruneInside
  split
  · split
    · exact readsAs_pruneChildren value
    · exact .refl value
  · exact readsAs_prune value

/-! ## Raw nodes -/

section

variable {members : Members} {raw : RawNode}

theorem nodup_pruneOwn (legacy : Bool) (hnodup : (members.map Prod.fst).Nodup) :
    ((pruneOwn legacy members).map Prod.fst).Nodup := by
  rw [pruneOwn_eq, List.map_map]
  exact hnodup

/-- A member of a pruned node is the pruned member, unless that is `null`. -/
theorem get?_pruned_members (hnodup : (raw.members.map Prod.fst).Nodup) (key : String) :
    raw.pruned.members.get? key =
      ((raw.members.get? key).filter fun value ↦ !value.isNull).map (pruneAt raw.legacy key) := by
  have hget : Members.get? key (pruneOwn raw.legacy raw.members) =
      (raw.members.get? key).map (pruneAt raw.legacy key) := by
    rw [pruneOwn_eq, Members.get?_mapValues]
  have hnull (value : Json) : (pruneAt raw.legacy key value).isNull = value.isNull := (readsAs_pruneAt _ _ _).null
  rw [RawNode.pruned, Members.get?_present (nodup_pruneOwn raw.legacy hnodup), hget, Option.filter_map]
  simp only [Function.comp_def, hnull]

/-- What a view finds in a member is not changed by pruning if it does not look inside and finds nothing in `null`. -/
theorem bind_get?_pruned {β : Type} {view view' : Json → Option β} (hnodup : (raw.members.map Prod.fst).Nodup)
    {key : String} (hview : ∀ value, view (pruneAt raw.legacy key value) = view' value) (hnull : view' .null = none) :
    (raw.pruned.members.get? key).bind view = (raw.members.get? key).bind view' := by
  rw [get?_pruned_members hnodup, bind_map_filter_isNull hview hnull]

theorem string?_get?_pruned (hnodup : (raw.members.map Prod.fst).Nodup) (key : String) :
    (raw.pruned.members.get? key).bind string? = (raw.members.get? key).bind string? :=
  bind_get?_pruned hnodup (fun _ ↦ (readsAs_pruneAt _ _ _).string) rfl

theorem id?_pruned (hnodup : (raw.members.map Prod.fst).Nodup) : raw.pruned.id? = raw.id? :=
  bind_get?_pruned hnodup (fun _ ↦ (readsAs_pruneAt _ _ _).id) rfl

theorem src?_pruned (hnodup : (raw.members.map Prod.fst).Nodup) : raw.pruned.src? = raw.src? :=
  string?_get?_pruned hnodup "src"

theorem offset_pruned (hnodup : (raw.members.map Prod.fst).Nodup) : raw.pruned.offset = raw.offset := by
  rw [RawNode.offset, RawNode.offset, src?_pruned hnodup]

theorem items?_pruneChildren (value : Json) : (pruneChildren value).items? = value.items?.map (·.map pruneItem) := by
  cases value with
  | arr items =>
    rw [pruneChildren, pruneListed_eq]
    rfl
  | _ =>
    rw [pruneChildren]
    · rfl
    · simp

theorem items?_pruneAt_children (value : Json) :
    (pruneAt true "children" value).items? = value.items?.map (·.map pruneItem) :=
  items?_pruneChildren value

theorem members?_pruneAt_attributes (value : Json) :
    (pruneAt true "attributes" value).members? = value.members?.map Members.present := by
  cases value <;> rfl

theorem members?_get?_pruned (hnodup : (raw.members.map Prod.fst).Nodup) (hlegacy : raw.legacy = true) :
    (raw.pruned.members.get? "attributes").bind members? =
      ((raw.members.get? "attributes").bind members?).map Members.present := by
  rw [bind_get?_pruned hnodup (hlegacy ▸ members?_pruneAt_attributes) rfl, Option.map_bind]
  rfl

theorem items?_get?_pruned (hnodup : (raw.members.map Prod.fst).Nodup) (hlegacy : raw.legacy = true) :
    (raw.pruned.members.get? "children").bind items? =
      ((raw.members.get? "children").bind items?).map (·.map pruneItem) := by
  rw [bind_get?_pruned hnodup (hlegacy ▸ items?_pruneAt_children) rfl, Option.map_bind]
  rfl

/-- The pruned members of a node are those of the pruned node. -/
theorem ofMembers?_pruned (h : RawNode.ofMembers? raw.members = some raw) (hnodup : (raw.members.map Prod.fst).Nodup) :
    RawNode.ofMembers? raw.pruned.members = some raw.pruned := by
  have htype := string?_get?_pruned hnodup "nodeType"
  have hname := string?_get?_pruned hnodup "name"
  have hattributes := members?_get?_pruned hnodup
  have hitems := items?_get?_pruned hnodup
  obtain ⟨tag, members, legacy, attributes⟩ := raw
  simp only [RawNode.pruned] at h hname htype hattributes hitems ⊢
  rw [RawNode.ofMembers?] at h
  rw [RawNode.ofMembers?, htype]
  split at h
  · rename_i tag htag
    cases h
    rfl
  · rename_i htag
    obtain ⟨name, hstring, h⟩ := Option.bind_eq_some_iff.mp h
    simp only at h
    split at h
    · rename_i hbody
      cases h
      simp only [hname, hstring, hattributes rfl, hitems rfl, Option.bind_eq_bind, Option.bind_some, Option.isSome_map]
      rw [if_pos hbody]
    · cases h

/-- Whether members make a node shows in the form of their values. -/
theorem isSome_ofMembers?_congr {other : Members}
    (hstring : ∀ key, (other.get? key).bind string? = (members.get? key).bind string?)
    (hmembers : ((other.get? "attributes").bind members?).isSome = ((members.get? "attributes").bind members?).isSome)
    (hitems : ((other.get? "children").bind items?).isSome = ((members.get? "children").bind items?).isSome) :
    (RawNode.ofMembers? other).isSome = (RawNode.ofMembers? members).isSome := by
  have hlegacy (members : Members) : isLegacy (.obj members) =
      (((members.get? "nodeType").bind string?).isNone && ((members.get? "name").bind string?).isSome &&
        (((members.get? "attributes").bind members?).isSome || ((members.get? "children").bind items?).isSome)) := rfl
  have hsome (members : Members) : (RawNode.ofMembers? members).isSome =
      (((members.get? "nodeType").bind string?).isSome || isLegacy (.obj members)) := isSome_ofJson? (.obj members)
  rw [hsome, hsome, hlegacy, hlegacy, hstring, hstring, hmembers, hitems]

theorem ofMembers?_pruneMembers (h : RawNode.ofMembers? members = none) :
    RawNode.ofMembers? (pruneMembers members) = none := by
  have hrel (key : String) : Option.Rel SameForm (Members.get? key (pruneMembers members)) (members.get? key) := by
    rw [pruneMembers_eq, Members.get?_mapValues fun _ ↦ prune]
    cases members.get? key with
    | none => exact .none
    | some value => exact .some (readsAs_prune value).toSameForm
  have hviews (key : String) := views_of_rel (hrel key)
  have hsame := isSome_ofMembers?_congr (fun key ↦ (hviews key).1) (hviews "attributes").2.1 (hviews "children").2.2
  rwa [h, Option.isSome_none, Option.isSome_eq_false_iff, Option.isNone_iff_eq_none] at hsame

theorem keysAscend_of_bears {json : Json} (hkeys : json.KeysAscend) (h : Bears json raw) :
    (obj raw.members).KeysAscend ∧ RawNode.ofMembers? raw.members = some raw := by
  obtain ⟨address, -, hraw⟩ := exists_reaches_of_bears hkeys h
  obtain ⟨inner, hinner, hraw⟩ := Option.bind_eq_some_iff.mp hraw
  cases inner with
  | obj members =>
    cases members_of_ofMembers? hraw
    exact ⟨hkeys.follow hinner, hraw⟩
  | _ => cases hraw

theorem keysAscend_of_found {json : Json} (hkeys : json.KeysAscend) {tree : RawTree} (h : tree ∈ (grow json).found) :
    (obj tree.raw.members).KeysAscend := by
  refine (keysAscend_of_bears hkeys ⟨tree, h, tree, ?_, rfl⟩).1
  rw [subtrees_eq]
  exact List.mem_cons_self

end

namespace RawTree

mutual

/-- A tree with its nodes pruned. -/
def pruned : RawTree → RawTree
  | .node raw slot children => .node raw.pruned slot (prunedAll children)

def prunedAll : List RawTree → List RawTree
  | [] => []
  | tree :: rest => pruned tree :: prunedAll rest

end

theorem prunedAll_eq (trees : List RawTree) : prunedAll trees = trees.map pruned := by
  induction trees with
  | nil => rw [prunedAll, List.map_nil]
  | cons tree rest ih => rw [prunedAll, ih, List.map_cons]

theorem raw_pruned (tree : RawTree) : tree.pruned.raw = tree.raw.pruned := by
  obtain ⟨raw, slot, children⟩ := tree
  rw [pruned]
  rfl

theorem within_pruned (slot : String) (tree : RawTree) : tree.pruned.within slot = (tree.within slot).pruned := by
  obtain ⟨raw, -, children⟩ := tree
  rw [pruned, within, within, pruned]

theorem sortByOffset_pruned {trees : List RawTree} (h : ∀ tree ∈ trees, (tree.raw.members.map Prod.fst).Nodup) :
    sortByOffset (trees.map pruned) = (sortByOffset trees).map pruned := by
  rw [sortByOffset, sortByOffset, List.map_mergeSort]
  intro a ha b hb
  rw [raw_pruned, raw_pruned, offset_pruned (h a ha), offset_pruned (h b hb)]

end RawTree

section

variable {members : Members} {raw : RawNode}

/-- What the members that a test picks hold, member by member. -/
theorem flatMap_growMembers (pick : String → Bool) (members : Members) :
    ((growMembers members).filter fun (key, _) ↦ pick key).flatMap (fun (_, growth) ↦ growth.found) =
      members.flatMap fun member ↦ if pick member.1 then (grow member.2).found else [] := by
  rw [growMembers_eq]
  induction members with
  | nil => rfl
  | cons member rest ih =>
    obtain ⟨key, value⟩ := member
    rw [List.map_cons, List.flatMap_cons, ← ih]
    cases hpick : pick key with
    | true => rw [List.filter_cons_of_pos (by simpa using hpick), List.flatMap_cons, if_pos rfl]
    | false => rw [List.filter_cons_of_neg (by simpa using hpick), if_neg Bool.false_ne_true, List.nil_append]

/-- A null member holds no node. -/
theorem flatMap_growMembers_present (pick : String → Bool) (members : Members) :
    ((growMembers (Members.present members)).filter fun (key, _) ↦ pick key).flatMap (fun (_, growth) ↦ growth.found) =
      ((growMembers members).filter fun (key, _) ↦ pick key).flatMap fun (_, growth) ↦ growth.found := by
  rw [flatMap_growMembers, flatMap_growMembers]
  induction members with
  | nil => rfl
  | cons member rest ih =>
    obtain ⟨key, value⟩ := member
    unfold Members.present at ih ⊢
    rw [List.flatMap_cons]
    cases hnull : value.isNull with
    | false => rw [List.filter_cons_of_pos (by simp [hnull]), List.flatMap_cons, ih]
    | true =>
      have hnone : (grow value).found = [] := by
        rw [eq_null_of_isNull hnull]
        simp [grow]
      rw [List.filter_cons_of_neg (by simp [hnull]), ih, hnone, ite_self, List.nil_append]

/-- What the pruned members of a flattened node hold, from what each of them holds. -/
theorem flatMap_growMembers_pruneOwn (pick : String → Bool)
    (h : ∀ member ∈ members,
      (grow (pruneAt false member.1 member.2)).found = (grow member.2).found.map RawTree.pruned) :
    ((growMembers (pruneOwn false members)).filter fun (key, _) ↦ pick key).flatMap (fun (_, growth) ↦ growth.found) =
      (((growMembers members).filter fun (key, _) ↦ pick key).flatMap fun (_, growth) ↦ growth.found).map
        RawTree.pruned := by
  rw [flatMap_growMembers, flatMap_growMembers, pruneOwn_eq, List.flatMap_map, List.map_flatMap]
  apply List.flatMap_congr
  intro member hmember
  cases hpick : pick member.1 with
  | true => simpa [hpick] using h member hmember
  | false => simp

theorem found_grow_obj (h : RawNode.ofMembers? members = none) :
    (grow (.obj members)).found = (growMembers members).flatMap fun (_, growth) ↦ growth.found := by
  rw [grow, h]

/-- Members that make no node make none without null members. -/
theorem ofMembers?_present (hnodup : (members.map Prod.fst).Nodup) (h : RawNode.ofMembers? members = none) :
    RawNode.ofMembers? (Members.present members) = none := by
  have hattributes : ((Members.present members).get? "attributes").bind members? =
      (members.get? "attributes").bind members? := bind_get?_present hnodup rfl _
  have hchildren : ((Members.present members).get? "children").bind items? =
      (members.get? "children").bind items? := bind_get?_present hnodup rfl _
  have hsame := isSome_ofMembers?_congr (bind_get?_present hnodup rfl) (congrArg Option.isSome hattributes)
    (congrArg Option.isSome hchildren)
  rwa [h, Option.isSome_none, Option.isSome_eq_false_iff, Option.isNone_iff_eq_none] at hsame

/-- Attributes of a flattened node hold what they held before they lost their null members. -/
theorem found_withoutNulls_prune {value : Json} (hkeys : value.KeysAscend) :
    (grow (prune value).withoutNulls).found = (grow (prune value)).found := by
  cases value with
  | obj members =>
    cases hnode : RawNode.ofMembers? members with
    | some raw => rw [prune_of_node hnode, withoutNulls, RawNode.pruned, Members.present_present]
    | none =>
      have hnodup : ((pruneMembers members).map Prod.fst).Nodup := by
        rw [pruneMembers_eq, List.map_map]
        exact hkeys.nodup_keys
      have hnone := ofMembers?_pruneMembers hnode
      have hall := flatMap_growMembers_present (fun _ ↦ true) (pruneMembers members)
      rw [List.filter_true, List.filter_true] at hall
      rw [prune_of_not_node hnode, withoutNulls, found_grow_obj (ofMembers?_present hnodup hnone), found_grow_obj hnone,
        hall]
  | _ =>
    rw [prune]
    · rfl
    all_goals simp

theorem found_pruneAt {key : String} {value : Json} (hkeys : value.KeysAscend)
    (h : (grow (prune value)).found = (grow value).found.map RawTree.pruned) :
    (grow (pruneAt false key value)).found = (grow value).found.map RawTree.pruned := by
  rw [pruneAt, pruneInside, if_neg Bool.false_ne_true, trimAt]
  split
  · rw [found_withoutNulls_prune hkeys, h]
  · exact h

section Flattened

variable (hkeys : (obj raw.members).KeysAscend) (hflat : raw.legacy = false)
  (h : ∀ member ∈ raw.members, (grow (prune member.2)).found = (grow member.2).found.map RawTree.pruned)

include hkeys h in
theorem found_member : ∀ member ∈ raw.members,
    (grow (pruneAt false member.1 member.2)).found = (grow member.2).found.map RawTree.pruned := by
  rintro ⟨key, value⟩ hmember
  have hpart : (Step.key key, value) ∈ (obj raw.members).parts := List.mem_map.mpr ⟨(key, value), hmember, rfl⟩
  exact found_pruneAt (hkeys.part hpart) (h _ hmember)

include hkeys hflat h in
theorem found_pruned (name : String) : Growths.found (growMembers raw.pruned.members) name =
    (Growths.found (growMembers raw.members) name).map RawTree.pruned := by
  have hnull : (grow .null).found = [] := by simp [grow]
  rw [Growths.found, Growths.found, growths_get?, growths_get?, get?_pruned_members hkeys.nodup_keys, hflat]
  cases hvalue : raw.members.get? name with
  | none => rfl
  | some value =>
    have hfound := found_member hkeys h _ (Members.mem_of_get? hvalue)
    rw [Option.filter_some]
    cases hisNull : value.isNull with
    | false => simpa using hfound
    | true => simp [eq_null_of_isNull hisNull, hnull]

include hkeys hflat h in
theorem outside_pruned (pick : String → Bool) : outside (growMembers raw.pruned.members) pick =
    (outside (growMembers raw.members) pick).map RawTree.pruned := by
  rw [outside, outside, RawNode.pruned, hflat, flatMap_growMembers_present,
    flatMap_growMembers_pruneOwn pick (found_member hkeys h)]
  apply RawTree.sortByOffset_pruned
  intro tree htree
  rw [flatMap_growMembers] at htree
  obtain ⟨⟨key, value⟩, hmember, htree⟩ := List.mem_flatMap.mp htree
  have hpart : (Step.key key, value) ∈ (obj raw.members).parts := List.mem_map.mpr ⟨(key, value), hmember, rfl⟩
  split at htree
  · exact (keysAscend_of_found (hkeys.part hpart) htree).nodup_keys
  · cases htree

include hkeys hflat h in
theorem inSlot_pruned (slot : Slot) : inSlot (growMembers raw.pruned.members) slot =
    (inSlot (growMembers raw.members) slot).map RawTree.pruned := by
  have hsort : sortByOffset ((Growths.found (growMembers raw.members) slot.name).map RawTree.pruned) =
      (sortByOffset (Growths.found (growMembers raw.members) slot.name)).map RawTree.pruned := by
    apply RawTree.sortByOffset_pruned
    intro tree htree
    rw [Growths.found, growths_get?] at htree
    cases hvalue : raw.members.get? slot.name with
    | none => simp [hvalue] at htree
    | some value =>
      simp only [hvalue, Option.map_some] at htree
      have hpart : (Step.key slot.name, value) ∈ (obj raw.members).parts :=
        List.mem_map.mpr ⟨(slot.name, value), Members.mem_of_get? hvalue, rfl⟩
      exact (keysAscend_of_found (hkeys.part hpart) htree).nodup_keys
  simp only [inSlot, found_pruned hkeys hflat h]
  split
  · rw [hsort, List.map_map, List.map_map]
    exact List.map_congr_left fun tree _ ↦ tree.within_pruned slot.name
  · rw [List.map_map, List.map_map]
    exact List.map_congr_left fun tree _ ↦ tree.within_pruned slot.name

include hkeys hflat h in
theorem childrenOf_pruned_flattened : childrenOf raw.pruned (growMembers raw.pruned.members) =
    (childrenOf raw (growMembers raw.members)).map RawTree.pruned := by
  rw [childrenOf, childrenOf, raw.legacy_pruned, raw.tag_pruned, hflat, if_neg Bool.false_ne_true,
    if_neg Bool.false_ne_true]
  cases Schema.find? raw.tag with
  | none => exact outside_pruned hkeys hflat h _
  | some schema =>
    simp only [List.map_append, List.map_flatMap, outside_pruned hkeys hflat h]
    congr 1
    exact List.flatMap_congr fun slot _ ↦ inSlot_pruned hkeys hflat h slot

end Flattened

theorem listed_pruned (hnodup : (raw.members.map Prod.fst).Nodup) (hlegacy : raw.legacy = true) :
    raw.pruned.listed = raw.listed.map pruneItem := by
  rw [RawNode.listed, RawNode.listed, items?_get?_pruned hnodup hlegacy]
  cases (raw.members.get? "children").bind items? <;> rfl

theorem childrenOf_pruned_legacy (hnodup : (raw.members.map Prod.fst).Nodup) (hlegacy : raw.legacy = true)
    (h : ∀ item ∈ raw.listed, RawTree.ofJson? (pruneItem item) = (RawTree.ofJson? item).map RawTree.pruned) :
    childrenOf raw.pruned (growMembers raw.pruned.members) =
      (childrenOf raw (growMembers raw.members)).map RawTree.pruned := by
  rw [childrenOf_legacy hlegacy, childrenOf_legacy (raw.legacy_pruned.trans hlegacy), listed_pruned hnodup hlegacy,
    List.filterMap_map, List.map_filterMap]
  exact List.filterMap_congr h

end

/-! ## The same trees -/

theorem ofJson?_prune_of_not_node {json : Json} (h : RawNode.ofJson? json = none) :
    RawNode.ofJson? (prune json) = none ∧
      (prune json).parts = json.parts.map fun (step, part) ↦ (step, prune part) := by
  cases json with
  | obj members =>
    rw [prune_of_not_node h]
    refine ⟨ofMembers?_pruneMembers h, ?_⟩
    rw [parts, parts, pruneMembers_eq, List.map_map, List.map_map]
    rfl
  | arr items =>
    rw [prune, pruneItems_eq]
    refine ⟨rfl, ?_⟩
    rw [parts, parts, List.zipIdx_map, List.map_map, List.map_map]
    rfl
  | _ =>
    rw [prune]
    · exact ⟨rfl, rfl⟩
    all_goals simp

theorem ofJson?_prune_of_node {json : Json} (hkeys : json.KeysAscend) {raw : RawNode}
    (h : RawNode.ofJson? json = some raw) : RawNode.ofJson? (prune json) = some raw.pruned := by
  cases json with
  | obj members =>
    cases members_of_ofMembers? h
    rw [prune_of_node h]
    exact ofMembers?_pruned h hkeys.nodup_keys
  | _ => cases h

/-- A value is a node after pruning exactly if it was one. -/
theorem ofJson?_prune {json : Json} (hkeys : json.KeysAscend) :
    RawNode.ofJson? (prune json) = (RawNode.ofJson? json).map RawNode.pruned := by
  cases h : RawNode.ofJson? json with
  | none => exact (ofJson?_prune_of_not_node h).1
  | some raw => exact ofJson?_prune_of_node hkeys h

/-- A node whose tree is found again, pruned, is read as that tree. -/
theorem ofJson?_pruneItem {item : Json} (hkeys : item.KeysAscend)
    (h : (grow (prune item)).found = (grow item).found.map RawTree.pruned) :
    RawTree.ofJson? (pruneItem item) = (RawTree.ofJson? item).map RawTree.pruned := by
  rw [ofJson?_eq, ofJson?_eq, pruneItem]
  cases hnode : RawNode.ofJson? item with
  | none =>
    rw [Option.isSome_none, if_neg Bool.false_ne_true, hnode]
    rfl
  | some raw =>
    have hnode' := ofJson?_prune_of_node hkeys hnode
    rw [found_of_node hnode, found_of_node hnode', List.map_singleton, List.singleton_inj] at h
    rw [Option.isSome_some, if_pos rfl, hnode', Option.map_some, Option.map_some, Option.map_some, h]

/-- A pruned value holds the trees that the value held, each of them pruned. -/
theorem found_prune {json : Json} (hkeys : json.KeysAscend) :
    (grow (prune json)).found = (grow json).found.map RawTree.pruned := by
  induction json using inside_induction with
  | h json ih =>
    have hpart {step : Step} {part : Json} (hmem : (step, part) ∈ json.parts) :
        (grow (prune part)).found = (grow part).found.map RawTree.pruned := by
      have hfollow : json.follow? [step] = some part := by
        rw [follow?_cons, hkeys.child?_eq hmem, Option.bind_some, follow?_nil]
      exact ih step [] part hfollow (hkeys.part hmem)
    cases hnode : RawNode.ofJson? json with
    | none =>
      obtain ⟨hnone, hparts⟩ := ofJson?_prune_of_not_node hnode
      rw [found_grow hnone, found_grow hnode, hparts, List.flatMap_map, List.map_flatMap]
      exact List.flatMap_congr fun _ hmem ↦ hpart hmem
    | some raw =>
      have hchildren : childrenOf raw.pruned (growMembers raw.pruned.members) =
          (childrenOf raw (growMembers raw.members)).map RawTree.pruned := by
        cases json with
        | obj members =>
          cases members_of_ofMembers? hnode
          cases hlegacy : raw.legacy with
          | false =>
            refine childrenOf_pruned_flattened hkeys hlegacy ?_
            rintro ⟨key, value⟩ hmember
            exact hpart (List.mem_map.mpr ⟨(key, value), hmember, rfl⟩)
          | true =>
            refine childrenOf_pruned_legacy hkeys.nodup_keys hlegacy ?_
            intro item hitem
            obtain ⟨list, position, hlist, hat⟩ := exists_item_of_mem_listed hnode hitem
            have hfollow : (obj raw.members).follow? [.key "children", .item position] = some item :=
              follow?_listed hlist hat []
            exact ofJson?_pruneItem (hkeys.follow hfollow) (ih _ _ item hfollow (hkeys.follow hfollow))
        | _ => cases hnode
      rw [found_of_node hnode, found_of_node (ofJson?_prune_of_node hkeys hnode), List.map_singleton, treeOf, treeOf,
        RawTree.pruned, hchildren, RawTree.prunedAll_eq]

theorem nodup_of_prune {members pruned : Members} (hkeys : (obj members).KeysAscend)
    (h : prune (.obj members) = .obj pruned) : (pruned.map Prod.fst).Nodup := by
  cases hnode : RawNode.ofMembers? members with
  | some raw =>
    rw [prune_of_node hnode] at h
    cases h
    cases members_of_ofMembers? hnode
    exact (nodup_pruneOwn raw.legacy hkeys.nodup_keys).sublist (List.filter_sublist.map _)
  | none =>
    rw [prune_of_not_node hnode] at h
    cases h
    rw [pruneMembers_eq, List.map_map]
    exact hkeys.nodup_keys

theorem string?_get?_prune {members : Members} (hkeys : (obj members).KeysAscend) (key : String) :
    ((prune (.obj members)).get? key).bind string? = (members.get? key).bind string? := by
  cases hnode : RawNode.ofMembers? members with
  | some raw =>
    cases members_of_ofMembers? hnode
    rw [prune_of_node hnode]
    exact string?_get?_pruned hkeys.nodup_keys key
  | none =>
    have hget : (obj (pruneMembers members)).get? key = (Members.get? key members).map prune := by
      rw [pruneMembers_eq]
      exact Members.get?_mapValues (fun _ ↦ prune) members key
    rw [prune_of_not_node hnode, hget]
    cases Members.get? key members with
    | none => rfl
    | some inner => exact (readsAs_prune inner).string

theorem pruneInside_obj (legacy : Bool) (key : String) (members : Members) :
    pruneInside legacy key (.obj members) = .obj members ∨
      pruneInside legacy key (.obj members) = prune (.obj members) := by
  unfold pruneInside
  split
  · left
    split
    · rw [pruneChildren]
      simp
    · rfl
  · exact .inr rfl

/-- A text in an object is not changed where the object is the value of a member that is pruned. -/
theorem string?_get?_pruneAt {value : Json} (hkeys : value.KeysAscend) (legacy : Bool) (key inner : String) :
    ((pruneAt legacy key value).get? inner).bind string? = (value.get? inner).bind string? := by
  have hform := (readsAs_pruneAt legacy key value).members
  cases value with
  | obj members =>
    obtain ⟨inside, hinside, hnodup, hstring⟩ : ∃ inside, pruneInside legacy key (.obj members) = .obj inside ∧
        (inside.map Prod.fst).Nodup ∧
        (Members.get? inner inside).bind string? = (Members.get? inner members).bind string? := by
      rcases pruneInside_obj legacy key members with hsame | hpruned
      · exact ⟨members, hsame, hkeys.nodup_keys, rfl⟩
      · have hstring := string?_get?_prune hkeys inner
        have hform := (readsAs_prune (.obj members)).members
        cases hvalue : prune (.obj members) with
        | obj inside =>
          rw [hvalue] at hstring
          exact ⟨inside, hpruned.trans hvalue, nodup_of_prune hkeys hvalue, hstring⟩
        | _ =>
          rw [hvalue] at hform
          cases hform
    rw [pruneAt, trimAt, hinside]
    split
    · exact (bind_get?_present hnodup rfl inner).trans hstring
    · exact hstring
  | _ =>
    rw [get?, Option.isNone_iff_eq_none.mp (Option.isSome_eq_false_iff.mp hform)]
    rfl

namespace RawTree

def Visit.pruned (visit : Visit) : Visit := { visit with raw := visit.raw.pruned }

mutual

theorem visits_pruned : ∀ (tree : RawTree) (parent : Option Nat) (next : Nat),
    tree.pruned.visits parent next = (tree.visits parent next).map Visit.pruned
  | .node raw slot children, parent, next => by
    rw [pruned, visits, visits, List.map_cons, visitsBelow_pruned children]
    rfl

theorem visitsBelow_pruned : ∀ (trees : List RawTree) (parent next : Nat),
    visitsBelow parent next (prunedAll trees) = (visitsBelow parent next trees).map Visit.pruned
  | [], _, _ => by rw [prunedAll, visitsBelow, List.map_nil]
  | tree :: rest, parent, next => by
    rw [prunedAll, visitsBelow, visitsBelow, List.map_append, visits_pruned tree, visitsBelow_pruned rest,
      List.length_map]

end

theorem preorder_pruned (tree : RawTree) : tree.pruned.preorder = tree.preorder.map Visit.pruned :=
  tree.visits_pruned none 0

end RawTree

section

variable {source : SourceTree} (hkeys : source.ast.KeysAscend)

include hkeys

theorem ofJson?_pruned : RawTree.ofJson? source.pruned.ast = (RawTree.ofJson? source.ast).map RawTree.pruned := by
  have hfound := found_prune hkeys
  cases hnode : RawNode.ofJson? source.ast with
  | none => rw [ofJson?_eq, ofJson?_eq, SourceTree.pruned, ofJson?_prune hkeys, hnode]; rfl
  | some raw =>
    have hitem := ofJson?_pruneItem hkeys hfound
    rwa [pruneItem, hnode, Option.isSome_some, if_pos rfl] at hitem

/-- A pruned source has the nodes that the source had, each of them pruned. -/
theorem rawNodes_pruned : rawNodes source.pruned = (rawNodes source).map RawNode.pruned := by
  have htrees := ofJson?_pruned hkeys
  cases htree : RawTree.ofJson? source.ast with
  | none =>
    rw [htree] at htrees
    rw [rawNodes, rawNodes, htrees, htree]
    rfl
  | some tree =>
    rw [htree] at htrees
    rw [rawNodes_eq_preorder htrees, rawNodes_eq_preorder htree, RawTree.preorder_pruned, List.map_map, List.map_map]
    rfl

/-- The keys of every node of a source and of its attributes ascend. -/
theorem keysAscend_of_mem_rawNodes {raw : RawNode} (h : raw ∈ rawNodes source) :
    (obj raw.members).KeysAscend ∧ RawNode.ofMembers? raw.members = some raw := by
  cases htree : RawTree.ofJson? source.ast with
  | none =>
    rw [rawNodes, htree] at h
    cases h
  | some tree => exact keysAscend_of_bears hkeys ((mem_rawNodes_iff htree raw).mp h)

end

end SolAudit.Build
