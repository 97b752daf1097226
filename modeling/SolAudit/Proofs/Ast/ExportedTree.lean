import SolAudit.Ast.Export
import SolAudit.Proofs.Ast.Tree
import SolAudit.Proofs.Json.Address
import SolAudit.Proofs.Json.Members

/-!
# Exported trees

The objects of an exported tree, read in pre-order through their lists of children, are those of the nodes of the
arena, position by position, and each stands below the object of its parent (`entries_toJson`). An object tells
everything of its node as long as the fields of the node have names of their own (`exports_ofMembers`), so the edges of
the arena can be read off the listing (`edgesIn_entries`).
-/

namespace SolAudit.Ast

/-- The keys that do not come from the fields of a node. -/
def generalKeys : List String := ["nodeType", "id", "src", "typeString", "slot", "children"]

/-- The names under which the fields of a node are exported. -/
def Kind.names (kind : Kind) : List String := kind.fields.filterMap fun (field, _) ↦ field.exported

/-- No field of a node is exported under the name of another or under a general key. -/
structure Kind.NamesApart (kind : Kind) : Prop where
  nodup : kind.names.Nodup
  apart : ∀ name ∈ kind.names, name ∉ generalKeys

/-- An object tells of a node that is reached through a slot: its type tag, id, range, type and slot, each of its
exported fields, and besides nothing but the list of its children. -/
structure Exports (object : Json) (node : Node) (slot : Option String) : Prop where
  nodeType : object.get? "nodeType" = some (.str node.kind.tag)
  id : object.get? "id" = some (.int node.id)
  src : object.get? "src" = some (.str node.src)
  typeString : object.get? "typeString" = node.typeString.map .str
  slot : object.get? "slot" = slot.map .str
  field : ∀ field value name, (field, value) ∈ node.kind.fields → field.exported = some name →
    object.get? name = some value.toJson
  keys : ∀ key, (object.get? key).isSome = true → key ∈ generalKeys ∨ key ∈ node.kind.names

/-- The objects in the list of children. -/
def childObjects (object : Json) : List Json := ((object.get? "children").bind Json.items?).getD []

/-- What is exported of a node apart from its kind. -/
def Node.general (node : Node) (slot : Option String) (children : List Json) : Json.Members :=
  [("nodeType", .str node.kind.tag), ("id", .int node.id), ("src", .str node.src)] ++
    (node.typeString.map fun s ↦ ("typeString", Json.str s)).toList ++
    (slot.map fun s ↦ ("slot", Json.str s)).toList ++ [("children", .arr children)]

section

variable {node : Node} {slot : Option String} {children : List Json}

theorem members_eq : node.members slot children = node.kind.members ++ node.general slot children := by
  simp only [Node.members, Node.general, List.append_assoc]

theorem keys_general : ((node.general slot children).map Prod.fst).Sublist generalKeys := by
  cases hts : node.typeString <;> cases slot <;> simp [Node.general, generalKeys, hts]

theorem Kind.keys_members (kind : Kind) : kind.members.map Prod.fst = "nodeType" :: kind.names := by
  rw [Kind.members, List.map_cons, List.map_filterMap, Kind.names]
  congr 1
  apply List.filterMap_congr
  rintro ⟨field, value⟩ -
  simp only
  cases field.exported <;> rfl

theorem Kind.NamesApart.nodup_keys {kind : Kind} (h : kind.NamesApart) : (kind.members.map Prod.fst).Nodup := by
  rw [Kind.keys_members, List.nodup_cons]
  exact ⟨fun hmem ↦ h.apart _ hmem (by decide), h.nodup⟩

/-- The general keys are what they are for any fields, and the fields are found under all other keys. -/
theorem get?_members (h : node.kind.NamesApart) (key : String) :
    (Json.ofMembers (node.members slot children)).get? key =
      ((node.general slot children).get? key).or (node.kind.members.get? key) := by
  have hgeneral : ((node.general slot children).map Prod.fst).Nodup := keys_general.nodup (by decide)
  rw [members_eq, Json.ofMembers, Json.get?, Json.members?, Option.bind_some,
    Json.Members.get?_sort_append _ hgeneral, Json.Members.get?_sort h.nodup_keys]

theorem exports_ofMembers (h : node.kind.NamesApart) :
    Exports (Json.ofMembers (node.members slot children)) node slot := by
  have hmissing {key : String} (hkey : key ∈ generalKeys) (hne : key ≠ "nodeType") :
      node.kind.members.get? key = none := by
    rw [Json.Members.get?_eq_none_iff, Kind.keys_members, List.mem_cons, not_or]
    exact ⟨hne, fun hmem ↦ h.apart key hmem hkey⟩
  constructor
  · rw [get?_members h]
    rfl
  · rw [get?_members h]
    rfl
  · rw [get?_members h]
    rfl
  · rw [get?_members h, hmissing (by decide) (by decide), Option.or_none]
    cases hts : node.typeString <;> cases slot <;> simp [Node.general, Json.Members.get?, hts]
  · rw [get?_members h, hmissing (by decide) (by decide), Option.or_none]
    cases hts : node.typeString <;> cases slot <;> simp [Node.general, Json.Members.get?, hts]
  · intro field value name hmem hname
    have hkey : name ∈ node.kind.names := List.mem_filterMap.mpr ⟨(field, value), hmem, hname⟩
    have hgeneral : (node.general slot children).get? name = none := by
      rw [Json.Members.get?_eq_none_iff]
      exact fun hin ↦ h.apart name hkey (keys_general.subset hin)
    have hmember : (name, value.toJson) ∈ node.kind.members := by
      refine List.mem_cons_of_mem _ (List.mem_filterMap.mpr ⟨(field, value), hmem, ?_⟩)
      simp only [hname, Option.map_some]
    rw [get?_members h, hgeneral, Option.none_or]
    exact Json.Members.get?_of_mem h.nodup_keys hmember
  · intro key hkey
    obtain ⟨value, hvalue⟩ := Option.isSome_iff_exists.mp hkey
    rw [get?_members h, Option.or_eq_some_iff] at hvalue
    rcases hvalue with hvalue | ⟨-, hvalue⟩
    · exact .inl (keys_general.subset (List.mem_map_of_mem (Json.Members.mem_of_get? hvalue)))
    · have hmem : key ∈ node.kind.members.map Prod.fst := List.mem_map_of_mem (Json.Members.mem_of_get? hvalue)
      rw [Kind.keys_members, List.mem_cons] at hmem
      rcases hmem with rfl | hmem
      · exact .inl (by decide)
      · exact .inr hmem

theorem childObjects_ofMembers (h : node.kind.NamesApart) :
    childObjects (Json.ofMembers (node.members slot children)) = children := by
  have hchildren : (node.general slot children).get? "children" = some (.arr children) := by
    cases hts : node.typeString <;> cases slot <;> simp [Node.general, Json.Members.get?, hts]
  rw [childObjects, get?_members h, hchildren]
  rfl

end

/-! ## Listings -/

theorem sizeOf_childObjects_le (object : Json) : sizeOf (childObjects object) ≤ sizeOf object := by
  have hpos : 1 ≤ sizeOf object := by
    cases object <;> simp
  rw [childObjects]
  cases hget : (object.get? "children").bind Json.items? with
  | none => exact hpos
  | some items =>
    obtain ⟨value, hvalue, hitems⟩ := Option.bind_eq_some_iff.mp hget
    cases value with
    | arr list =>
      cases hitems
      have hpart : (Json.Step.key "children", Json.arr items) ∈ object.parts :=
        Json.mem_parts_of_child? (Json.get?_eq_child? object "children" ▸ hvalue)
      have hlt := Json.sizeOf_lt_of_mem_parts hpart
      rw [Json.arr.sizeOf_spec] at hlt
      rw [Option.getD_some]
      omega
    | _ => cases hitems

/-- An object of an exported tree, with the position of the object in whose list of children it stands. -/
structure Entry where
  object : Json
  parent : Option Nat

/-- The slot that an object tells of. -/
def Entry.slot (entry : Entry) : Option String := (entry.object.get? "slot").bind Json.string?

mutual

/-- An object with those below it in pre-order, where the object has the position `next`. -/
def listing (parent : Option Nat) (next : Nat) (object : Json) : List Entry :=
  ⟨object, parent⟩ :: listingBelow next (next + 1) (childObjects object)
termination_by 2 * sizeOf object + 1
decreasing_by
  have := sizeOf_childObjects_le object
  omega

def listingBelow (parent next : Nat) : List Json → List Entry
  | [] => []
  | object :: rest =>
    let first := listing (some parent) next object
    first ++ listingBelow parent (next + first.length) rest
termination_by objects => 2 * sizeOf objects
decreasing_by
  all_goals
    rw [List.cons.sizeOf_spec]
    omega

end

/-- All objects of an exported tree in pre-order. -/
def entries (json : Json) : List Entry := listing none 0 json

/-- The edges that a listing shows below a position. -/
def edgesIn (list : List Entry) (position : Nat) : List Edge :=
  list.zipIdx.filterMap fun (entry, child) ↦
    if entry.parent = some position then some ⟨entry.slot, child⟩ else none

namespace Arena

variable {arena : Arena}

/-- What a listing should show at a position. -/
def entry (arena : Arena) (position : Nat) : Entry :=
  ⟨arena.nodeJson position (arena.edgeSlot? position), arena.parent? position⟩

namespace WellFormed

/-- Edges lead forward, so the export never stops short. -/
theorem nodeJson_eq (h : arena.WellFormed) {position : Nat} {node : Node} (hnode : arena.node? position = some node)
    (slot : Option String) :
    arena.nodeJson position slot =
      Json.ofMembers (node.members slot
        ((arena.children position).map fun edge ↦ arena.nodeJson edge.node edge.slot)) := by
  have hchildren : arena.children position = node.children.toList := by
    rw [children, hnode]
  have hedges : (node.children.toList.map fun edge ↦
      if position < edge.node then arena.nodeJson edge.node edge.slot else .null) =
        (arena.children position).map fun edge ↦ arena.nodeJson edge.node edge.slot := by
    rw [hchildren]
    apply List.map_congr_left
    intro edge hedge
    rw [← hchildren] at hedge
    exact if_pos (h.parent_lt edge.node position ((h.edge_iff position edge.node).mp (List.mem_map_of_mem hedge)))
  rw [nodeJson]
  split
  · rename_i hnone
    cases hnone.symm.trans hnode
  · rename_i other hother
    cases hother.symm.trans hnode
    rw [hedges]

/-- The objects of some children, each with those below it, when these children and what stands below them fill a
range of positions. -/
theorem listingBelow_eq {position : Nat} (edges : List Edge) : ∀ {next count : Nat},
    edges.flatMap (fun edge ↦ edge.node :: arena.descendants edge.node) = List.range' next count →
      (∀ edge ∈ edges, listing (some position) edge.node (arena.nodeJson edge.node edge.slot) =
        (edge.node :: arena.descendants edge.node).map arena.entry) →
      listingBelow position next (edges.map fun edge ↦ arena.nodeJson edge.node edge.slot) =
        (List.range' next count).map arena.entry := by
  induction edges with
  | nil =>
    intro next count hrange _
    rw [← hrange, List.map_nil, listingBelow, List.flatMap_nil, List.map_nil]
  | cons edge rest ih =>
    intro next count hrange hlisting
    rw [← hrange]
    rw [List.flatMap_cons, List.cons_append] at hrange ⊢
    cases count with
    | zero => cases hrange
    | succ count =>
      rw [List.range'_succ] at hrange
      obtain ⟨rfl, htail⟩ := List.cons.inj hrange
      have hrest : (rest.flatMap fun edge ↦ edge.node :: arena.descendants edge.node) =
          List.range' (edge.node + 1 + (arena.descendants edge.node).length)
            (count - (arena.descendants edge.node).length) := by
        have hdrop := congrArg (List.drop (arena.descendants edge.node).length) htail
        rwa [List.drop_left, List.drop_range', Nat.mul_one] at hdrop
      have hbelow := ih hrest fun other hother ↦ hlisting other (List.mem_cons_of_mem _ hother)
      rw [List.map_cons, listingBelow, hlisting edge List.mem_cons_self, List.length_map, List.length_cons,
        show edge.node + ((arena.descendants edge.node).length + 1) =
          edge.node + 1 + (arena.descendants edge.node).length by omega, hbelow, ← hrest, ← List.map_append,
        List.cons_append]

/-- The listing of a node shows the node and then, position by position, what stands below it. -/
theorem listing_nodeJson (h : arena.WellFormed) (hnames : ∀ i node, arena.node? i = some node → node.kind.NamesApart)
    (position : Nat) (hlt : position < arena.size) :
    listing (arena.parent? position) position (arena.nodeJson position (arena.edgeSlot? position)) =
      (position :: arena.descendants position).map arena.entry := by
  induction hmeasure : arena.size - position using Nat.strong_induction_on generalizing position with
  | h measure ih =>
    obtain ⟨node, hnode⟩ := exists_node? hlt
    have hchildren : childObjects (arena.nodeJson position (arena.edgeSlot? position)) =
        (arena.children position).map fun edge ↦ arena.nodeJson edge.node edge.slot := by
      rw [h.nodeJson_eq hnode, childObjects_ofMembers (hnames position node hnode)]
    have hbelow : ∀ edge ∈ arena.children position,
        listing (some position) edge.node (arena.nodeJson edge.node edge.slot) =
          (edge.node :: arena.descendants edge.node).map arena.entry := by
      intro edge hedge
      have hparent := (h.edge_iff position edge.node).mp (List.mem_map_of_mem hedge)
      have hforward := h.parent_lt edge.node position hparent
      have hwithin := h.lt_size hparent
      rw [← hparent, ← h.edgeSlot?_eq hedge]
      exact ih (arena.size - edge.node) (by omega) edge.node hwithin rfl
    have hrange : (arena.children position).flatMap (fun edge ↦ edge.node :: arena.descendants edge.node) =
        arena.descendants position := by
      rw [h.descendants_eq position, List.flatMap_map]
    rw [listing, hchildren, listingBelow_eq (arena.children position) hrange hbelow]
    rfl

theorem toJson_eq (h : arena.WellFormed) : arena.toJson = arena.nodeJson 0 none := by
  rw [toJson, h.root?_eq]

/-- The listing of the export shows the positions of the arena in order. -/
theorem entries_toJson (h : arena.WellFormed) (hnames : ∀ i node, arena.node? i = some node → node.kind.NamesApart) :
    entries arena.toJson = (List.range arena.size).map arena.entry := by
  have hlisting := h.listing_nodeJson hnames 0 h.nonempty
  rw [h.parent?_zero, h.edgeSlot?_zero, ← h.range_size_eq] at hlisting
  rw [entries, h.toJson_eq, hlisting]

/-- The children of a node are the positions that have it as their parent. -/
theorem children_eq (h : arena.WellFormed) (position : Nat) :
    arena.children position =
      ((List.range arena.size).filter fun i ↦ arena.parent? i = some position).map fun child ↦
        ⟨arena.edgeSlot? child, child⟩ := by
  have hnodes : (arena.children position).map Edge.node =
      (List.range arena.size).filter fun i ↦ arena.parent? i = some position := by
    apply (h.edges_ascending position).eq_of_mem_iff (List.pairwise_lt_range.filter _)
    intro child
    rw [h.edge_iff, List.mem_filter, List.mem_range, decide_eq_true_iff, iff_and_self]
    exact h.lt_size
  rw [← hnodes, List.map_map]
  refine (List.map_id _).symm.trans (List.map_congr_left ?_)
  intro edge hedge
  rw [Function.comp_apply, h.edgeSlot?_eq hedge, id_eq]

/-- The object at a position tells of the node there and of its slot. -/
theorem exports_nodeJson (h : arena.WellFormed) {position : Nat} {node : Node}
    (hnode : arena.node? position = some node) (hnames : node.kind.NamesApart) :
    Exports (arena.entry position).object node (arena.edgeSlot? position) := by
  rw [entry, h.nodeJson_eq hnode]
  exact exports_ofMembers hnames

/-- The listing of the export shows the ids of the arena in order. -/
theorem ids_entries (h : arena.WellFormed) (hnames : ∀ i node, arena.node? i = some node → node.kind.NamesApart) :
    ((entries arena.toJson).map fun entry ↦ entry.object.get? "id") = arena.ids.map fun id ↦ some (.int id) := by
  rw [h.entries_toJson hnames, ids, List.map_map, List.map_map]
  apply List.ext_getElem
  · simp [size]
  · intro i hi _
    rw [List.length_map, List.length_range] at hi
    have hnode : arena.node? i = some arena.nodes[i] := Array.getElem?_eq_getElem hi
    rw [List.getElem_map, List.getElem_map, List.getElem_range, Array.getElem_toList]
    exact (h.exports_nodeJson hnode (hnames i _ hnode)).id

/-- The listing of the export shows every edge of the arena with its slot. -/
theorem edgesIn_entries (h : arena.WellFormed) (hnames : ∀ i node, arena.node? i = some node → node.kind.NamesApart)
    (position : Nat) : edgesIn (entries arena.toJson) position = arena.children position := by
  have hentries : ((List.range arena.size).map arena.entry).zipIdx =
      (List.range arena.size).map fun i ↦ (arena.entry i, i) := by
    apply List.ext_getElem
    · simp
    · intro i _ _
      simp
  rw [h.entries_toJson hnames, h.children_eq, edgesIn, hentries, List.filterMap_map, ← List.filterMap_eq_map,
    ← List.filterMap_eq_filter, List.filterMap_filterMap]
  apply List.filterMap_congr
  intro i hi
  obtain ⟨node, hnode⟩ := exists_node? (List.mem_range.mp hi)
  have hslot : (arena.entry i).slot = arena.edgeSlot? i := by
    rw [Entry.slot, (h.exports_nodeJson hnode (hnames i node hnode)).slot]
    cases arena.edgeSlot? i <;> rfl
  have hparent : (arena.entry i).parent = arena.parent? i := rfl
  simp only [Function.comp_apply, hslot, hparent, Option.guard, decide_eq_true_eq]
  split <;> rfl

end WellFormed

end Arena

end SolAudit.Ast
