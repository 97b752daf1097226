import SolAudit.Proofs.Build.Subtrees
import SolAudit.Proofs.Build.TypedObjects

/-!
# Kinds and slots of built nodes

The schema of its type fixes which fields a node has (`regular_of_buildFile`), and the slots of the edges below it
(`slot_of_buildFile`).
-/

namespace SolAudit.Ast

/-- A kind has the fields that the schema of its type lists. A kind of an unknown type has its tag alone. -/
def Kind.Regular (kind : Kind) : Prop :=
  match Schema.find? kind.tag with
  | some schema => kind.fields.map Prod.fst = schema.fields
  | none => kind = Kind.unknown kind.tag

end SolAudit.Ast

namespace SolAudit.Build

open Ast RawTree

theorem map_fst_readAll {raw : RawNode} (fields : List Field) : ∀ {values : List (Field × FieldValue)},
    raw.readAll fields = .ok values → values.map Prod.fst = fields := by
  induction fields with
  | nil =>
    intro values h
    cases h
    rfl
  | cons field rest ih =>
    intro values h
    rw [RawNode.readAll] at h
    cases hvalue : raw.read field with
    | error fault =>
      rw [hvalue] at h
      cases h
    | ok value =>
      cases hrest : raw.readAll rest with
      | error fault =>
        rw [hvalue, hrest] at h
        cases h
      | ok later =>
        rw [hvalue, hrest] at h
        cases h
        rw [List.map_cons, ih hrest]

theorem regular_of_kind {raw : RawNode} {kind : Kind} (h : raw.kind (Schema.find? raw.tag) = .ok kind) :
    kind.Regular := by
  cases hschema : Schema.find? raw.tag with
  | none =>
    rw [hschema] at h
    cases h
    simp only [Kind.Regular, Kind.unknown, hschema]
  | some schema =>
    rw [hschema, RawNode.kind] at h
    cases hfields : raw.readAll schema.fields with
    | error fault =>
      rw [hfields] at h
      cases h
    | ok fields =>
      rw [hfields] at h
      cases h
      rw [Kind.Regular, hschema]
      exact map_fst_readAll schema.fields hfields

/-- A child stands in a slot of the schema or in none. -/
theorem slot_of_mem_childrenOf {raw : RawNode} {members : Json.Members} {child : RawTree} {name : String}
    (h : child ∈ childrenOf raw (growMembers members)) (hname : child.slot = some name) :
    ∃ schema, Schema.find? raw.tag = some schema ∧ name ∈ schema.slots.map Slot.name := by
  have houtside (pick : String → Bool) (hchild : child ∈ outside (growMembers members) pick) : False := by
    rw [outside, sortByOffset, List.mem_mergeSort, growMembers_eq] at hchild
    obtain ⟨growth, hgrowth, hchild⟩ := List.mem_flatMap.mp hchild
    obtain ⟨member, -, rfl⟩ := List.mem_map.mp (List.mem_filter.mp hgrowth).1
    cases (slot_of_mem_found hchild).symm.trans hname
  rw [childrenOf] at h
  split at h
  · rw [growths_get?] at h
    cases hmember : members.get? "children" with
    | none => simp [hmember] at h
    | some value =>
      simp only [hmember, Option.map_some] at h
      cases (slot_of_mem_found (items_subset_found value h)).symm.trans hname
  · split at h
    · exact (houtside _ h).elim
    · rename_i schema hschema
      rcases List.mem_append.mp h with h | h
      · obtain ⟨slot, hslot, h⟩ := List.mem_flatMap.mp h
        obtain ⟨⟨raw', slot', children⟩, -, rfl⟩ := List.mem_map.mp h
        cases hname
        exact ⟨schema, hschema, List.mem_map_of_mem hslot⟩
      · exact (houtside _ h).elim

section

variable {source : SourceTree} {registry registry' : Registry} {arena : Arena}

theorem regular_of_buildFile (h : buildFile source registry = (.ok arena, registry')) {i : Nat} {node : Node}
    (hnode : arena.node? i = some node) : node.kind.Regular := by
  obtain ⟨tree, -, hplants⟩ := plants_of_buildFile h
  have hlt : i < tree.subtrees.length := by
    rw [hplants.length]
    exact (Array.getElem?_eq_some_iff.mp hnode).1
  obtain ⟨other, registry'', hother, hlowers⟩ := hplants.node i _ (List.getElem?_eq_getElem hlt)
  cases hnode.symm.trans hother
  exact regular_of_kind hlowers.kind

/-- The slot of an edge is one that the schema of the node above it lists. -/
theorem slot_of_buildFile (h : buildFile source registry = (.ok arena, registry')) {i : Nat} {node : Node}
    {edge : Edge} (hnode : arena.node? i = some node) (hedge : edge ∈ arena.children i) {name : String}
    (hname : edge.slot = some name) :
    ∃ schema, Schema.find? node.kind.tag = some schema ∧ name ∈ schema.slots.map Slot.name := by
  obtain ⟨tree, htree, hplants⟩ := plants_of_buildFile h
  have hlt : i < tree.subtrees.length := by
    rw [hplants.length]
    exact (Array.getElem?_eq_some_iff.mp hnode).1
  have hsub := List.getElem?_eq_getElem hlt
  obtain ⟨other, registry'', hother, hlowers⟩ := hplants.node i _ hsub
  cases hnode.symm.trans hother
  have htag : node.kind.tag = tree.subtrees[i].raw.tag := tag_of_kind hlowers.kind
  have hedges := hplants.edges i _ hsub
  obtain ⟨k, hk, rfl⟩ := List.mem_iff_getElem.mp hedge
  have hk' : k < tree.subtrees[i].children.length := hedges.length_eq ▸ hk
  have hslot := (hedges.get hk hk').1
  have hnatural := natural_of_mem_subtrees htree (List.getElem_mem hlt)
  have hchild : tree.subtrees[i].children[k] ∈
      childrenOf tree.subtrees[i].raw (growMembers tree.subtrees[i].raw.members) :=
    hnatural.children ▸ List.getElem_mem hk'
  rw [htag]
  exact slot_of_mem_childrenOf hchild (hslot.symm.trans hname)

end

end SolAudit.Build
