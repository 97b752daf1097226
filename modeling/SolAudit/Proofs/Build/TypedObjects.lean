import SolAudit.Proofs.Build.Discovery
import SolAudit.Proofs.Build.WellFormed

/-!
# Nodes and typed objects

The builder visits the raw tree of a document in pre-order and makes one node at each visit. In a document
without legacy objects the visits pass the typed places in pre-order, and the parent of a visit is the visit of the
nearest typed place around (`forall₂_visits`). So the nodes of the arena are the typed objects of the document.
-/

namespace SolAudit.Build

open Ast Json

/-- A visit is that of a place of a document: it has the raw node of the place, and its parent is the position of
the nearest typed place around, in a list of places. -/
def VisitsPlace (json : Json) (list : List Address) (visit : RawTree.Visit) (place : Address) : Prop :=
  (json.follow? place).bind RawNode.ofJson? = some visit.raw ∧
    visit.parent.bind (list[·]?) = enclosing? json place

/-- The tree of a value is that of a typed object, with the trees of the ordered children below it. -/
theorem ofJson?_inv {json : Json} (hkeys : json.KeysAscend) (hlegacy : NoLegacy json) {raw : RawNode}
    {slot : Option String} {children : List RawTree} (h : RawTree.ofJson? json = some (.node raw slot children)) :
    RawNode.ofJson? json = some raw ∧ slot = none ∧ isTypedAt json [] = true ∧
      List.Forall₂ (Grows json) (orderedChildren json) children := by
  have hnot : isLegacy json = false := hlegacy [] json (follow?_nil json)
  have htyped : isTypedAt json [] = true := by
    by_contra huntyped
    rw [RawTree.ofJson?, ofJson?_of_untyped hnot (Bool.not_eq_true _ ▸ huntyped)] at h
    cases h
  obtain ⟨members, tag, rfl, htag⟩ := exists_members_of_typed htyped
  rw [ofJson?_of_typed hnot htag] at h
  cases h
  refine ⟨?_, rfl, htyped, forall₂_childrenOf hkeys hlegacy htag⟩
  rw [RawNode.ofJson?, members?, Option.bind_some, ofMembers?_eq hnot, htag]
  rfl

section Visits

variable {json : Json} {list : List Address}

mutual

/-- The visits of the tree at a place pass the places of the tree, where these stand in the list from the position
of the first visit on. -/
theorem forall₂_visits (hkeys : json.KeysAscend) (hlegacy : NoLegacy json) : ∀ (tree : RawTree)
    {parent : Option Nat} {address : Address} {inner : Json} {before after : List Address},
    json.follow? address = some inner → RawTree.ofJson? inner = some (unslotted tree) →
      list = before ++ ((preorder inner).map (address ++ ·) ++ after) →
      parent.bind (list[·]?) = enclosing? json address →
      List.Forall₂ (VisitsPlace json list) (tree.visits parent before.length)
        ((preorder inner).map (address ++ ·))
  | .node raw slot children, parent, address, inner, before, after, hinner, htree, hlist, hparent => by
    obtain ⟨hraw, -, -, hchildren⟩ :=
      ofJson?_inv (hkeys.follow hinner) (hlegacy.follow hinner) htree
    rw [preorder_eq, List.map_cons, List.append_nil] at hlist ⊢
    rw [RawTree.visits]
    refine .cons ⟨?_, hparent⟩ ?_
    · rw [hinner, Option.bind_some, hraw]
    · have hlist' : list = (before ++ [address]) ++
          (((orderedChildren inner).flatMap (preorderAt inner)).map (address ++ ·) ++ after) := by
        rw [hlist, List.append_assoc, List.cons_append, List.singleton_append]
      have hself : list[before.length]? = some address := by
        rw [hlist, List.getElem?_append_right (Nat.le_refl _), Nat.sub_self]
        rfl
      have hbelow := forall₂_visitsBelow hkeys hlegacy children hinner hchildren (List.Subset.refl _) hlist' hself
      rwa [List.length_append, List.length_singleton] at hbelow

theorem forall₂_visitsBelow (hkeys : json.KeysAscend) (hlegacy : NoLegacy json) : ∀ (trees : List RawTree)
    {parent : Nat} {address : Address} {inner : Json} {children before after : List Address},
    json.follow? address = some inner → List.Forall₂ (Grows inner) children trees →
      children ⊆ orderedChildren inner →
      list = before ++ ((children.flatMap (preorderAt inner)).map (address ++ ·) ++ after) →
      list[parent]? = some address →
      List.Forall₂ (VisitsPlace json list) (RawTree.visitsBelow parent before.length trees)
        ((children.flatMap (preorderAt inner)).map (address ++ ·))
  | [], _, _, _, _, _, _, _, .nil, _, _, _ => by
    rw [RawTree.visitsBelow, List.flatMap_nil, List.map_nil]
    exact .nil
  | tree :: rest, parent, address, inner, child :: children, before, after, hinner, .cons htree hrest, hsubset,
      hlist, hparent => by
    obtain ⟨innermost, hchild, htree⟩ := Option.bind_eq_some_iff.mp htree
    have hplaces : (preorderAt inner child).map (address ++ ·) =
        (preorder innermost).map (address ++ child ++ ·) := by
      rw [preorderAt, hchild, List.map_map]
      simp [Function.comp_def]
    have hfollow : json.follow? (address ++ child) = some innermost := by
      rw [follow?_append, hinner, Option.bind_some, hchild]
    have henclosing : (some parent).bind (list[·]?) = enclosing? json (address ++ child) := by
      have hnearest := (mem_orderedChildren (hsubset List.mem_cons_self)).2.1
      rw [Option.bind_some, hparent, enclosing?_append hinner hnearest, List.append_nil]
    rw [List.flatMap_cons, List.map_append, hplaces] at hlist ⊢
    rw [List.append_assoc] at hlist
    have hfirst := forall₂_visits hkeys hlegacy tree hfollow htree hlist henclosing
    have hlength : (tree.visits (some parent) before.length).length = (preorder innermost).length := by
      rw [hfirst.length_eq, List.length_map]
    rw [RawTree.visitsBelow]
    apply List.rel_append hfirst
    have hrest' := forall₂_visitsBelow hkeys hlegacy rest hinner hrest
      (fun _ hmem ↦ hsubset (List.mem_cons_of_mem _ hmem)) (hlist.trans (List.append_assoc _ _ _).symm) hparent
    rwa [List.length_append, List.length_map, ← hlength] at hrest'

end

end Visits

theorem tag_of_kind {raw : RawNode} {schema : Option Schema} {kind : Kind} (h : raw.kind schema = .ok kind) :
    kind.tag = raw.tag := by
  cases schema with
  | none =>
    cases h
    rfl
  | some schema =>
    rw [RawNode.kind] at h
    cases hfields : raw.readAll schema.fields with
    | error fault =>
      rw [hfields] at h
      cases h
    | ok fields =>
      rw [hfields] at h
      cases h
      rfl

/-- What a node has from the object that it was made of: its type, its range and the id that the object gives. -/
structure Describes (object : Json) (node : Node) : Prop where
  tag : typeOf? object = some node.kind.tag
  src : node.src = ((object.get? "src").bind Json.string?).getD ""
  /-- Only a node of an unknown type may lack a range. -/
  src_known : (Schema.find? node.kind.tag).isSome = true → (object.get? "src").bind Json.string? = some node.src
  id : ∀ id, (object.get? "id").bind Json.id? = some id → node.id = id

theorem describes_of_lowers {object : Json} (hlegacy : isLegacy object = false) {raw : RawNode}
    (hraw : RawNode.ofJson? object = some raw) {registry : Registry} {node : Node}
    (h : Lowers registry raw node) : Describes object node := by
  have htyped : isTypedAt object [] = true := by
    by_contra huntyped
    rw [ofJson?_of_untyped hlegacy (Bool.not_eq_true _ ▸ huntyped)] at hraw
    cases hraw
  obtain ⟨members, tag, rfl, htag⟩ := exists_members_of_typed htyped
  rw [RawNode.ofJson?, members?, Option.bind_some, ofMembers?_eq hlegacy, htag] at hraw
  cases hraw
  have hkind : node.kind.tag = tag := tag_of_kind h.kind
  subst hkind
  have hsrc := h.src
  refine ⟨htag, ?_, ?_, ?_⟩
  · split at hsrc
    · have hfound : ((obj members).get? "src").bind string? = some node.src := hsrc
      rw [hfound, Option.getD_some]
    · exact (Option.some.inj hsrc).symm
  · intro hknown
    rw [if_pos hknown] at hsrc
    exact hsrc
  · intro id hid
    have htake := h.id
    have hgiven : RawNode.id? ⟨node.kind.tag, members, false, none⟩ = some id := hid
    rw [takeId, hgiven] at htake
    exact (Except.ok.inj htake).symm

/-- Where no object is a legacy one, the nodes of a file that is built are the typed objects of its document, each
once: the places of the nodes are the pre-order of the typed places, every node has type, range and id from its
object, and its parent is the node of the nearest typed object around. -/
theorem buildFile_nodes_are_typed_objects {source : SourceTree} {registry registry' : Registry} {arena : Arena}
    (h : buildFile source registry = (.ok arena, registry')) (hkeys : source.ast.KeysAscend)
    (hlegacy : NoLegacy source.ast) :
    let places := preorder source.ast
    places.length = arena.size ∧ places.Nodup ∧
      (∀ address, address ∈ places ↔ isTypedAt source.ast address = true) ∧
      ∀ i node, arena.node? i = some node → ∃ address object, places[i]? = some address ∧
        source.ast.follow? address = some object ∧ Describes object node ∧
        (arena.parent? i).bind (places[·]?) = enclosing? source.ast address := by
  intro places
  obtain ⟨tree, progress, htree, -, hsteps, rfl, rfl⟩ := buildFile_eq_ok_iff.mp h
  obtain ⟨raw, slot, children⟩ := tree
  obtain ⟨-, rfl, htyped, -⟩ := ofJson?_inv hkeys hlegacy htree
  have hvisits : List.Forall₂ (VisitsPlace source.ast places) (RawTree.node raw none children).preorder places := by
    have hlist : places = [] ++ ((preorder source.ast).map ([] ++ ·) ++ []) := by simp [places]
    have hroot : (none : Option Nat).bind (places[·]?) = enclosing? source.ast [] := rfl
    have hall := forall₂_visits hkeys hlegacy (.node raw none children) (follow?_nil _) htree hlist hroot
    simpa [places, RawTree.preorder] using hall
  have hsize : progress.arena.size = places.length := by
    rw [size_steps _ hsteps, ← hvisits.length_eq]
    exact Nat.zero_add _
  refine ⟨hsize.symm, nodup_preorder hkeys, fun _ ↦ mem_preorder hkeys htyped, ?_⟩
  obtain ⟨nodes, hnodes, -, hlowers⟩ := exists_nodes_steps _ hsteps
  intro i node hnode
  have hlt : i < places.length := hsize ▸ (Array.getElem?_eq_some_iff.mp hnode).1
  have hbare : nodes[i]? = some node.bare := by
    have hget : (progress.arena.nodes.toList.map Node.bare)[i]? = some node.bare := by
      rw [List.getElem?_map, Array.getElem?_toList]
      exact congrArg (Option.map Node.bare) hnode
    rw [hnodes] at hget
    exact hget
  have hvisit : i < (RawTree.node raw none children).preorder.length := hvisits.length_eq ▸ hlt
  obtain ⟨hraw, hparent⟩ := hvisits.get hvisit hlt
  obtain ⟨object, hobject, hraw⟩ := Option.bind_eq_some_iff.mp hraw
  refine ⟨places[i], object, List.getElem?_eq_getElem hlt, hobject, ?_, ?_⟩
  · obtain ⟨hlt', hnode'⟩ := List.getElem?_eq_some_iff.mp hbare
    obtain ⟨registry', hlowers⟩ := hlowers.get hvisit hlt'
    rw [List.get_eq_getElem, List.get_eq_getElem, hnode'] at hlowers
    have hdescribes := describes_of_lowers (hlegacy _ _ hobject) hraw hlowers
    exact ⟨hdescribes.tag, hdescribes.src, hdescribes.src_known, hdescribes.id⟩
  · have hparents : progress.arena.finish.parent? i =
        ((RawTree.node raw none children).preorder.get ⟨i, hvisit⟩).parent := by
      have htable := parents_steps _ hsteps
      rw [Arena.parent?, ← Array.getElem?_toList, Arena.finish, htable]
      simp [start, List.getElem?_eq_getElem hvisit]
    rw [hparents]
    exact hparent

/-- In the slot of a source unit document order counts: the assembly comes before the pragma, which has the lower
offset. -/
theorem assemblySource_nodes_are_typed_objects : ∃ arena registry',
    buildFile assemblySource {} = (.ok arena, registry') ∧ assemblySource.ast.KeysAscend ∧
      NoLegacy assemblySource.ast ∧
      preorder assemblySource.ast = [[], [.key "nodes", .item 0], [.key "nodes", .item 0, .key "AST"],
        [.key "nodes", .item 0, .key "AST", .key "statements", .item 0], [.key "nodes", .item 1]] ∧
      arena.size = 5 ∧
      ∀ i node, arena.node? i = some node → ∃ address object, (preorder assemblySource.ast)[i]? = some address ∧
        assemblySource.ast.follow? address = some object ∧ Describes object node ∧
        (arena.parent? i).bind ((preorder assemblySource.ast)[·]?) = enclosing? assemblySource.ast address := by
  have hnormal : assemblySource.ast.normalize = assemblySource.ast := rfl
  have hkeys : assemblySource.ast.KeysAscend := hnormal ▸ keysAscend_normalize assemblySource.ast
  have hlegacy : NoLegacy assemblySource.ast := by
    have hall : (assemblySource.ast.places.all fun address ↦
        (assemblySource.ast.follow? address).all fun inner ↦ !isLegacy inner) = true := by
      with_unfolding_all rfl
    intro address inner hinner
    have hplace := (mem_places hkeys).mpr (Option.isSome_of_eq_some hinner)
    have hnot := List.all_eq_true.mp hall address hplace
    rw [hinner, Option.all_some] at hnot
    simpa using hnot
  have horder : preorder assemblySource.ast = [[], [.key "nodes", .item 0], [.key "nodes", .item 0, .key "AST"],
      [.key "nodes", .item 0, .key "AST", .key "statements", .item 0], [.key "nodes", .item 1]] := by
    with_unfolding_all rfl
  obtain ⟨arena, registry', hbuild⟩ := exists_buildFile_assemblySource
  obtain ⟨hsize, -, -, hnodes⟩ := buildFile_nodes_are_typed_objects hbuild hkeys hlegacy
  refine ⟨arena, registry', hbuild, hkeys, hlegacy, horder, ?_, hnodes⟩
  rw [← hsize, horder]
  rfl

end SolAudit.Build
