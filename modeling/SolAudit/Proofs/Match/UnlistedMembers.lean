import SolAudit.Proofs.Build.Reach
import SolAudit.Proofs.Build.TypedObjects
import SolAudit.Proofs.Match.TreeEval

/-!
# Members that no slot names

Nodes in a member that no slot of a known type names are children without slot, and one child without slot is enough
to make every slot test of the node an error. So a member with nodes that is added to a node outside its schema turns
all its slot tests into errors, unless they were errors before for the same reason.
-/

namespace SolAudit.Build

open Ast Json RawTree

/-- Somewhere in a value there is a node. -/
inductive HoldsNode : Json → Prop where
  | here {json : Json} (h : (RawNode.ofJson? json).isSome = true) : HoldsNode json
  | inside {json part : Json} {step : Step} (hpart : (step, part) ∈ json.parts) (h : HoldsNode part) : HoldsNode json

/-- A member that no slot names holds a node. -/
def HoldsOutside (schema : Schema) (members : Members) : Prop :=
  ∃ member ∈ members, member.1 ≠ "nodeType" ∧ schema.hasSlot member.1 = false ∧ HoldsNode member.2

theorem holdsNode_iff (json : Json) : HoldsNode json ↔ ∃ tree, tree ∈ (grow json).found := by
  constructor
  · intro h
    induction h with
    | here h =>
      obtain ⟨raw, hraw⟩ := Option.isSome_iff_exists.mp h
      exact ⟨treeOf raw, found_of_node hraw ▸ List.mem_singleton_self _⟩
    | @inside json part step hpart _ ih =>
      obtain ⟨tree, htree⟩ := ih
      cases hnode : RawNode.ofJson? json with
      | none =>
        rw [found_grow hnode]
        exact ⟨tree, List.mem_flatMap.mpr ⟨(step, part), hpart, htree⟩⟩
      | some raw => exact ⟨treeOf raw, found_of_node hnode ▸ List.mem_singleton_self _⟩
  · induction json using parts_induction with
    | h json ih =>
      rintro ⟨tree, htree⟩
      cases hnode : RawNode.ofJson? json with
      | none =>
        rw [found_grow hnode] at htree
        obtain ⟨⟨step, part⟩, hpart, htree⟩ := List.mem_flatMap.mp htree
        exact .inside hpart (ih step part hpart ⟨tree, htree⟩)
      | some raw => exact .here (Option.isSome_of_eq_some hnode)

/-- A node of a known type has a child without slot exactly if a member that no slot names holds a node. -/
theorem exists_unslotted_child_iff {raw : RawNode} {schema : Schema} (hlegacy : raw.legacy = false)
    (hschema : Schema.find? raw.tag = some schema) (members : Members) :
    (∃ child ∈ childrenOf raw (growMembers members), child.slot = none) ↔ HoldsOutside schema members := by
  rw [childrenOf, if_neg (Bool.not_eq_true _ ▸ hlegacy), hschema]
  constructor
  · rintro ⟨child, hchild, hslot⟩
    rcases List.mem_append.mp hchild with hchild | hchild
    · obtain ⟨slot, -, hchild⟩ := List.mem_flatMap.mp hchild
      obtain ⟨⟨raw', slot', children⟩, -, rfl⟩ := List.mem_map.mp hchild
      cases hslot
    · rw [outside, sortByOffset, List.mem_mergeSort, growMembers_eq] at hchild
      obtain ⟨growth, hgrowth, hchild⟩ := List.mem_flatMap.mp hchild
      obtain ⟨hmem, hpick⟩ := List.mem_filter.mp hgrowth
      obtain ⟨member, hmember, rfl⟩ := List.mem_map.mp hmem
      simp only [Bool.and_eq_true, bne_iff_ne, Bool.not_eq_true'] at hpick
      exact ⟨member, hmember, hpick.1, hpick.2, (holdsNode_iff _).mpr ⟨child, hchild⟩⟩
  · rintro ⟨member, hmember, hkey, hslot, hholds⟩
    obtain ⟨tree, htree⟩ := (holdsNode_iff _).mp hholds
    refine ⟨tree, List.mem_append_right _ ?_, slot_of_mem_found htree⟩
    rw [outside, sortByOffset, List.mem_mergeSort, growMembers_eq]
    refine List.mem_flatMap.mpr ⟨(member.1, grow member.2), List.mem_filter.mpr ⟨?_, ?_⟩, htree⟩
    · exact List.mem_map_of_mem hmember
    · simp [hkey, hslot]

/-- A member with a new key leaves the type as it is. -/
theorem typeOf?_insert {members : Members} {key tag : String} (hnew : members.get? key = none)
    (htag : typeOf? (.obj members) = some tag) (value : Json) :
    typeOf? (.obj (members.insert key value)) = some tag := by
  have hstring : (members.get? "nodeType").bind string? = some tag := htag
  have hkey : "nodeType" ≠ key := by
    rintro rfl
    rw [hnew] at hstring
    cases hstring
  have hget : (members.insert key value).get? "nodeType" = members.get? "nodeType" :=
    Members.get?_insert_of_ne hkey members
  exact (congrArg (Option.bind · string?) hget).trans hstring

theorem holdsOutside_insert {schema : Schema} {members : Members} {key : String} {value : Json} {tag : String}
    (hnew : members.get? key = none) (htag : typeOf? (.obj members) = some tag) (hslot : schema.hasSlot key = false)
    (hvalue : HoldsNode value) : HoldsOutside schema (members.insert key value) := by
  have hmem : (key, value) ∈ members.insert key value := by
    rw [(Members.insert_perm (Members.get?_eq_none_iff.mp hnew)).mem_iff]
    exact List.mem_cons_self
  refine ⟨(key, value), hmem, ?_, hslot, hvalue⟩
  rintro rfl
  have hstring : (members.get? "nodeType").bind string? = some tag := htag
  rw [hnew] at hstring
  cases hstring

/-- A node of a known type has the id that its raw node gives. -/
theorem Lowers.id?_eq {registry : Registry} {raw : RawNode} {node : Node} (h : Lowers registry raw node)
    (hknown : (Schema.find? raw.tag).isSome = true) : raw.id? = some node.id := by
  have hid := takeId_eq_ok_iff.mp h.id
  rwa [if_pos hknown] at hid

end SolAudit.Build

namespace SolAudit.Match

open Ast Build Json RawTree

/-- A slot test is an error exactly at a node that has a child without slot. -/
theorem eval_slot_eq_error_iff {tree : RawTree} {arena : Arena} (h : Plants tree arena) {i : Nat} {sub : RawTree}
    (hsub : tree.subtrees[i]? = some sub) (slot : String) (present : Bool) :
    eval arena (.slot slot present) i = .error (.unnamedSlots sub.raw.tag slot) ↔
      ∃ child ∈ sub.children, child.slot = none := by
  obtain ⟨node, registry, hnode, hlowers⟩ := h.node i sub hsub
  have hedges := h.edges i sub hsub
  have htag : node.kind.tag = sub.raw.tag := tag_of_kind hlowers.kind
  have hchildren : arena.children i = node.children.toList := by
    rw [Arena.children, hnode]
  have hany : (node.children.any fun edge ↦ edge.slot.isNone) = sub.children.any fun child ↦ child.slot.isNone := by
    rw [← Array.any_toList, ← hchildren]
    refine any_eq_of_forall₂ ?_ hedges
    rintro edge child ⟨hslot, -⟩
    rw [hslot]
  have hiff : (sub.children.any fun child ↦ child.slot.isNone) = true ↔ ∃ child ∈ sub.children, child.slot = none := by
    simp
  rw [eval, hnode, ← hiff, ← hany, ← htag]
  simp only [evalSlot]
  cases node.children.any fun edge ↦ edge.slot.isNone <;> simp

/-- A slot test is an error exactly at a node that holds a node outside its slots. -/
theorem eval_slot_eq_error_iff_holdsOutside {source : SourceTree} {tree : RawTree} {arena : Arena}
    (htree : RawTree.ofJson? source.ast = some tree) (h : Plants tree arena) {i : Nat} {raw : RawNode}
    {schema : Schema} (hraw : (rawNodes source)[i]? = some raw) (hflat : raw.legacy = false)
    (hschema : Schema.find? raw.tag = some schema) (slot : String) (present : Bool) :
    eval arena (.slot slot present) i = .error (.unnamedSlots raw.tag slot) ↔ HoldsOutside schema raw.members := by
  rw [rawNodes_eq htree, List.getElem?_map] at hraw
  obtain ⟨sub, hsub, rfl⟩ := Option.map_eq_some_iff.mp hraw
  have hnatural := natural_of_mem_subtrees htree (List.mem_of_getElem? hsub)
  rw [eval_slot_eq_error_iff h hsub, hnatural.children, exists_unslotted_child_iff hflat hschema]

/-- In every document, a flattened node of a known type stands at a place, where it can be given one more member. If
the member is outside the schema and holds a node, and the document is still built, then every slot test at the node is
an error. That is what the test was without the member exactly if the node held a node outside its slots already. -/
theorem unlisted_member_fails_slot_tests {source : SourceTree} {registry registry' : Registry} {arena : Arena}
    (h : buildFile source registry = (.ok arena, registry')) (hkeys : source.ast.KeysAscend) {i : Nat} {raw : RawNode}
    {schema : Schema} (hraw : (rawNodes source)[i]? = some raw) (hflat : raw.legacy = false)
    (hschema : Schema.find? raw.tag = some schema) :
    (∃ address, Reaches source.ast address ∧ source.ast.follow? address = some (.obj raw.members)) ∧
      ∀ address, Reaches source.ast address → source.ast.follow? address = some (.obj raw.members) →
        ∀ key value, raw.members.get? key = none → schema.hasSlot key = false → HoldsNode value →
          let members := raw.members.insert key value
          let source' := { source with ast := source.ast.put address (.obj members) }
          ∀ before after arena', buildFile source' before = (.ok arena', after) →
            ∃ i', (rawNodes source')[i']? = some { raw with members } ∧
              (∃ node node', arena.node? i = some node ∧ arena'.node? i' = some node' ∧ node'.id = node.id) ∧
              ∀ slot present,
                eval arena' (.slot slot present) i' = .error (.unnamedSlots raw.tag slot) ∧
                  (eval arena' (.slot slot present) i' = eval arena (.slot slot present) i ↔
                    HoldsOutside schema raw.members) := by
  obtain ⟨tree, htree, hplants⟩ := plants_of_buildFile h
  obtain ⟨place, hplace, hat⟩ :=
    exists_reaches_of_bears hkeys ((mem_rawNodes_iff htree raw).mp (List.mem_of_getElem? hraw))
  obtain ⟨inner, hinner, hnode⟩ := Option.bind_eq_some_iff.mp hat
  obtain ⟨members, tag, rfl, htag, rfl⟩ := exists_eq_of_flat hnode hflat
  refine ⟨⟨place, hplace, hinner⟩, ?_⟩
  intro address hreaches hfollow key value hnew hslot hvalue members' source' before after arena' h'
  have htag' : typeOf? (.obj members') = some tag := typeOf?_insert hnew htag value
  obtain ⟨tree', htree', hplants'⟩ := plants_of_buildFile h'
  -- The node with the member is at the same place, and so among the raw nodes.
  have hreaches' : Reaches source'.ast address :=
    hreaches.put hfollow (htag'.trans htag.symm) (Option.isSome_of_eq_some htag)
  have hmem := (mem_rawNodes_iff htree' _).mpr (bears_of_reaches hreaches'
    (follow?_put (Option.isSome_of_eq_some hfollow)) (ofMembers?_of_typed htag'))
  obtain ⟨i', hraw'⟩ := List.mem_iff_getElem?.mp hmem
  refine ⟨i', hraw', ?_, ?_⟩
  · obtain ⟨node, r, hnode, hlowers⟩ := hplants.exists_lowers htree hraw
    obtain ⟨node', r', hnode', hlowers'⟩ := hplants'.exists_lowers htree' hraw'
    have hid : (Members.get? "id" members).bind id? = some node.id :=
      hlowers.id?_eq (Option.isSome_of_eq_some hschema)
    have hid' : (Members.get? "id" members').bind id? = some node'.id :=
      hlowers'.id?_eq (Option.isSome_of_eq_some hschema)
    have hkey : "id" ≠ key := by
      rintro rfl
      have hnone : Members.get? "id" members = none := hnew
      rw [hnone] at hid
      cases hid
    rw [Members.get?_insert_of_ne hkey, hid] at hid'
    exact ⟨node, node', hnode, hnode', (Option.some.inj hid').symm⟩
  · intro slot present
    have herror := (eval_slot_eq_error_iff_holdsOutside htree' hplants' hraw' rfl hschema slot present).mpr
      (holdsOutside_insert hnew htag hslot hvalue)
    refine ⟨herror, ?_⟩
    rw [herror, eq_comm]
    exact eval_slot_eq_error_iff_holdsOutside htree hplants hraw rfl hschema slot present

def named (name : String) (id : Int) (src : String) : RawNode :=
  ⟨"Identifier", [("id", .int id), ("name", .str name), ("nodeType", .str "Identifier"), ("src", .str src)], false, none⟩

/-- A statement that returns a value. -/
def returning : RawNode :=
  ⟨"Return", [("expression", .obj (named "x" 3 "7:1:0").members), ("id", .int 2), ("nodeType", .str "Return"),
    ("src", .str "0:9:0")], false, none⟩

/-- A value with a node inside an object that is none. -/
def hint : Json := .obj [("wrapped", .obj (named "y" 4 "3:1:0").members)]

def hinted : RawNode := { returning with members := returning.members.insert "futureHint" hint }

def unitOf (statement : RawNode) : RawNode :=
  ⟨"SourceUnit", [("absolutePath", .str "A.sol"), ("id", .int 1), ("nodeType", .str "SourceUnit"),
    ("nodes", .arr [.obj statement.members]), ("src", .str "0:9:0")], false, none⟩

def returningSource : SourceTree := ⟨0, ⟨"/p/A.sol"⟩, .obj (unitOf returning).members⟩

def hintedSource : SourceTree := ⟨0, ⟨"/p/A.sol"⟩, .obj (unitOf hinted).members⟩

theorem exists_buildFile_returningSource : ∃ arena registry', buildFile returningSource {} = (.ok arena, registry') := by
  have htree : (RawTree.ofJson? returningSource.ast).map (fun tree ↦ (tree.raw.tag, tree.preorder.map (·.raw))) =
      some ("SourceUnit", [unitOf returning, returning, named "x" 3 "7:1:0"]) := by
    with_unfolding_all rfl
  have hnodes : (lowerAll? 0 [unitOf returning, returning, named "x" 3 "7:1:0"]).map (·.map Node.id) =
      some [1, 2, 3] := by
    rfl
  exact exists_buildFile_of_ids htree hnodes (by decide)

theorem exists_buildFile_hintedSource : ∃ arena registry', buildFile hintedSource {} = (.ok arena, registry') := by
  have htree : (RawTree.ofJson? hintedSource.ast).map (fun tree ↦ (tree.raw.tag, tree.preorder.map (·.raw))) =
      some ("SourceUnit", [unitOf hinted, hinted, named "x" 3 "7:1:0", named "y" 4 "3:1:0"]) := by
    with_unfolding_all rfl
  have hnodes : (lowerAll? 0 [unitOf hinted, hinted, named "x" 3 "7:1:0", named "y" 4 "3:1:0"]).map (·.map Node.id) =
      some [1, 2, 3, 4] := by
    rfl
  exact exists_buildFile_of_ids htree hnodes (by decide)

def returnSchema : Schema := { slots := [.optional "expression"] }

theorem not_holdsOutside_returning : ¬ HoldsOutside returnSchema returning.members := by
  rintro ⟨member, hmember, hkey, hslot, hholds⟩
  rw [holdsNode_iff] at hholds
  have hmembers : member ∈ [("expression", .obj (named "x" 3 "7:1:0").members), ("id", .int 2),
    ("nodeType", .str "Return"), ("src", .str "0:9:0")] := hmember
  simp only [List.mem_cons, List.not_mem_nil, or_false] at hmembers
  rcases hmembers with rfl | rfl | rfl | rfl
  · cases hslot
  · simp [grow] at hholds
  · exact hkey rfl
  · simp [grow] at hholds

/-- The test for the expression is an error once the hint is there, and was none before. -/
theorem hint_fails_slot_tests : ∃ arena registry' arena' registry'' i',
    buildFile returningSource {} = (.ok arena, registry') ∧ buildFile hintedSource {} = (.ok arena', registry'') ∧
      (rawNodes hintedSource)[i']? = some hinted ∧
      eval arena' (.slot "expression" true) i' = .error (.unnamedSlots "Return" "expression") ∧
      eval arena' (.slot "expression" true) i' ≠ eval arena (.slot "expression" true) 1 := by
  obtain ⟨arena, registry', h⟩ := exists_buildFile_returningSource
  obtain ⟨arena', registry'', h'⟩ := exists_buildFile_hintedSource
  have hnormal : returningSource.ast.normalize = returningSource.ast := rfl
  have hkeys : returningSource.ast.KeysAscend := hnormal ▸ keysAscend_normalize returningSource.ast
  have hraw : (rawNodes returningSource)[1]? = some returning := by
    with_unfolding_all rfl
  have hschema : Schema.find? returning.tag = some returnSchema := rfl
  have hreaches : Reaches returningSource.ast [.key "nodes", .item 0] := .inside rfl rfl (.inside rfl rfl (.here _))
  have hholds : HoldsNode hint := .inside List.mem_cons_self (.here rfl)
  have hput : { returningSource with ast := returningSource.ast.put [.key "nodes", .item 0] (.obj hinted.members) } =
      hintedSource := rfl
  obtain ⟨-, hall⟩ := unlisted_member_fails_slot_tests h hkeys hraw rfl hschema
  obtain ⟨i', hraw', -, heval⟩ := hall _ hreaches rfl "futureHint" hint rfl rfl hholds {} registry'' arena' (hput ▸ h')
  obtain ⟨herror, hiff⟩ := heval "expression" true
  exact ⟨arena, registry', arena', registry'', i', h, h', hraw', herror,
    fun hsame ↦ not_holdsOutside_returning (hiff.mp hsame)⟩

end SolAudit.Match
