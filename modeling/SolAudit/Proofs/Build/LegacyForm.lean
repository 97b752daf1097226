import SolAudit.Proofs.Build.TypedObjects
import SolAudit.Proofs.Json.Members
import SolAudit.Proofs.Outcome

/-!
# Legacy form

A tree in the flattened encoding has a legacy form (`legacyForm`): each node names its type in `name`, keeps its id and
its range, has its other members as attributes and the legacy forms of its children in a list. The two are built side by
side. A field is read from the members in the one and from the attributes in the other (`lookup_legacyNode`), the trees
are visited in the same order (`forall₂_visits_legacyTree`), and a step of one run goes with a step of the other
(`exists_steps_legacy`).
-/

namespace SolAudit.Build

open Ast

/-- The members that stand beside the attributes in the legacy encoding. -/
def headKeys : List String := ["nodeType", "id", "src"]

namespace RawNode

def otherMembers (raw : RawNode) : Json.Members := raw.members.filter fun (key, _) ↦ key ∉ headKeys

/-- The members of a legacy node, from a flattened one and the legacy forms of its children. -/
def legacyMembers (raw : RawNode) (children : List Json) : Json.Members :=
  [("attributes", .obj raw.otherMembers), ("children", .arr children)] ++
    ((raw.members.get? "id").map fun id ↦ ("id", id)).toList ++ [("name", .str raw.tag)] ++
    ((raw.members.get? "src").map fun src ↦ ("src", src)).toList

def legacyNode (raw : RawNode) (children : List Json) : RawNode where
  tag := raw.tag
  members := raw.legacyMembers children
  legacy := true
  attributes := some raw.otherMembers

end RawNode

namespace RawTree

mutual

/-- The legacy form of a tree. -/
def legacyForm : RawTree → Json
  | .node raw _ children => .obj (raw.legacyMembers (legacyForms children))

def legacyForms : List RawTree → List Json
  | [] => []
  | tree :: rest => legacyForm tree :: legacyForms rest

end

mutual

/-- The raw tree of the legacy form. -/
def legacyTree : RawTree → RawTree
  | .node raw _ children => .node (raw.legacyNode (legacyForms children)) none (legacyTrees children)

def legacyTrees : List RawTree → List RawTree
  | [] => []
  | tree :: rest => legacyTree tree :: legacyTrees rest

end

end RawTree

/-- The legacy form of a document. -/
def legacyOf (json : Json) : Json :=
  match RawTree.ofJson? json with
  | some tree => tree.legacyForm
  | none => json

/-! ## Reading the legacy form -/

namespace RawNode

variable (raw : RawNode) (children : List Json)

theorem get?_legacyMembers_nodeType : (raw.legacyMembers children).get? "nodeType" = none := by
  unfold legacyMembers
  cases raw.members.get? "id" <;> cases raw.members.get? "src" <;> rfl

theorem get?_legacyMembers_name : (raw.legacyMembers children).get? "name" = some (.str raw.tag) := by
  unfold legacyMembers
  cases raw.members.get? "id" <;> cases raw.members.get? "src" <;> rfl

theorem id?_legacyNode : (raw.legacyNode children).id? = raw.id? := by
  unfold id? legacyNode legacyMembers
  cases raw.members.get? "id" <;> cases raw.members.get? "src" <;> rfl

theorem src?_legacyNode : (raw.legacyNode children).src? = raw.src? := by
  unfold src? legacyNode legacyMembers
  cases raw.members.get? "id" <;> cases raw.members.get? "src" <;> rfl

theorem ofMembers?_legacyMembers :
    RawNode.ofMembers? (raw.legacyMembers children) = some (raw.legacyNode children) := by
  have hattributes : (raw.legacyMembers children).get? "attributes" = some (.obj raw.otherMembers) := rfl
  rw [RawNode.ofMembers?, get?_legacyMembers_nodeType, get?_legacyMembers_name, hattributes]
  rfl

end RawNode

namespace RawTree

theorem childrenOf_legacyNode (raw : RawNode) (children : List Json) :
    childrenOf (raw.legacyNode children) (growMembers (raw.legacyMembers children)) = (growItems children).items := by
  have hgrowth : Growths.get? (growMembers (raw.legacyMembers children)) "children" = some (grow (.arr children)) := by
    rw [growMembers_eq]
    rfl
  have hlegacy : (raw.legacyNode children).legacy = true := rfl
  rw [childrenOf, hlegacy, if_pos rfl, hgrowth]
  simp only [grow]

theorem isSome_ofJson?_legacyForm (tree : RawTree) : (RawNode.ofJson? tree.legacyForm).isSome = true := by
  obtain ⟨raw, slot, children⟩ := tree
  rw [legacyForm, RawNode.ofJson?, Json.members?, Option.bind_some, RawNode.ofMembers?_legacyMembers]
  rfl

mutual

theorem found_grow_legacyForm : ∀ tree : RawTree, (grow tree.legacyForm).found = [tree.legacyTree]
  | .node raw slot children => by
    have hchildren := items_growItems_legacyForms children
    rw [legacyForm, grow, RawNode.ofMembers?_legacyMembers]
    simp only [childrenOf_legacyNode, hchildren, legacyTree]

theorem items_growItems_legacyForms : ∀ trees : List RawTree,
    (growItems (legacyForms trees)).items = legacyTrees trees
  | [] => by rw [legacyForms, growItems, legacyTrees]
  | tree :: rest => by
    have hfirst := found_grow_legacyForm tree
    have hrest := items_growItems_legacyForms rest
    rw [legacyForms, growItems, legacyTrees]
    simp only [isSome_ofJson?_legacyForm, if_true, hfirst, hrest, List.singleton_append]

end

/-- The legacy form reads as the tree it was made for. -/
theorem ofJson?_legacyForm (tree : RawTree) : RawTree.ofJson? tree.legacyForm = some tree.legacyTree := by
  rw [RawTree.ofJson?, if_pos (isSome_ofJson?_legacyForm tree), found_grow_legacyForm]
  rfl

/-- A visit of a tree and the visit of its legacy form. -/
structure Visit.Mirrors (visit visit' : Visit) : Prop where
  raw : ∃ children, visit'.raw = visit.raw.legacyNode children
  parent : visit'.parent = visit.parent
  slot : visit'.slot = none

mutual

theorem forall₂_visits_legacyTree : ∀ (tree : RawTree) (parent : Option Nat) (next : Nat),
    List.Forall₂ Visit.Mirrors (tree.visits parent next) (tree.legacyTree.visits parent next)
  | .node raw slot children, parent, next => by
    rw [legacyTree, visits, visits]
    exact .cons ⟨⟨_, rfl⟩, rfl, rfl⟩ (forall₂_visitsBelow_legacyTrees children next (next + 1))

theorem forall₂_visitsBelow_legacyTrees : ∀ (trees : List RawTree) (parent next : Nat),
    List.Forall₂ Visit.Mirrors (visitsBelow parent next trees) (visitsBelow parent next (legacyTrees trees))
  | [], parent, next => by
    rw [legacyTrees, visitsBelow]
    exact .nil
  | tree :: rest, parent, next => by
    have hfirst := forall₂_visits_legacyTree tree (some parent) next
    rw [legacyTrees, visitsBelow, visitsBelow]
    rw [← hfirst.length_eq]
    exact List.rel_append hfirst (forall₂_visitsBelow_legacyTrees rest parent _)

end

end RawTree

/-- The keys that older compilers used in the nodes of a type. -/
def olderKeys (tag : String) : List String :=
  ["member_name", "hexvalue"] ++ (if tag = "Identifier" then ["value"] else []) ++
    (if tag = "Literal" then ["token"] else [])

/-- No typed object has a key of older compilers. -/
def NoOlderKeys (json : Json) : Prop :=
  ∀ (address : Json.Address) (members : Json.Members) (tag : String), json.follow? address = some (.obj members) →
    typeOf? (.obj members) = some tag → ∀ key ∈ olderKeys tag, members.get? key = none

/-- Keys of members that no field is read from. -/
def unreadKeys : List String := "typeString" :: headKeys

theorem mem_olderKeys {tag key older : String} (h : RawNode.olderKey? tag key = some older)
    (hkey : key ≠ "typeString") : older ∈ olderKeys tag := by
  unfold RawNode.olderKey? at h
  unfold olderKeys
  split_ifs at h <;> simp_all

namespace RawNode

/-- A node of the flattened encoding without keys of older compilers. -/
structure Flat (raw : RawNode) : Prop where
  legacy : raw.legacy = false
  older : ∀ key ∈ olderKeys raw.tag, raw.members.get? key = none

/-- The value at a key is the same in the legacy form. -/
theorem lookup_legacyNode {raw : RawNode} (h : raw.Flat) (children : List Json) {key : String}
    (hkey : key ∉ unreadKeys) : (raw.legacyNode children).lookup key = raw.lookup key := by
  have hhead : key ∉ headKeys := fun hmem ↦ hkey (List.mem_cons_of_mem _ hmem)
  have hattributes : raw.otherMembers.get? key = raw.members.get? key := by
    rw [otherMembers, Json.Members.get?_filter fun key ↦ decide (key ∉ headKeys), if_pos (decide_eq_true hhead)]
  have hflat : raw.lookup key = raw.members.get? key := by
    rw [lookup, h.legacy]
    rfl
  rw [hflat, lookup]
  simp only [legacyNode, if_true, hattributes]
  cases hget : raw.members.get? key with
  | some value => rfl
  | none =>
    cases holder : olderKey? raw.tag key with
    | none => rfl
    | some older =>
      have hmem := mem_olderKeys holder fun htype ↦ hkey (htype ▸ List.mem_cons_self)
      have hnone : raw.otherMembers.get? older = none := by
        rw [otherMembers, Json.Members.get?_filter fun key ↦ decide (key ∉ headKeys), h.older older hmem, ite_self]
      simpa using hnone

/-- Two nodes of one type with the same values at the keys that fields are read from. -/
structure SameFields (raw raw' : RawNode) : Prop where
  tag : raw'.tag = raw.tag
  get : ∀ key, key ∉ unreadKeys → raw'.get? key = raw.get? key

theorem Flat.sameFields {raw : RawNode} (h : raw.Flat) (children : List Json) :
    raw.SameFields (raw.legacyNode children) where
  tag := rfl
  get := by
    intro key hkey
    rw [get?, lookup_legacyNode h children hkey, ← get?]

/-- The readings that look beyond the fields of a node, for the name of a modifier or of a type. -/
def looksElsewhere (reading : Reading) : Bool := reading == .modifierName || reading == .typeName

namespace SameFields

variable {raw raw' : RawNode} {key : String}

theorem text (h : raw.SameFields raw') (hkey : key ∉ unreadKeys) : raw'.text? key = raw.text? key := by
  rw [text?, h.get key hkey, ← text?]

theorem flag (h : raw.SameFields raw') (hkey : key ∉ unreadKeys) (fallback : Bool) :
    raw'.flagOr key fallback = raw.flagOr key fallback := by
  rw [flagOr, h.get key hkey, ← flagOr]

theorem word (h : raw.SameFields raw') (hkey : key ∉ unreadKeys) (vocabulary : Vocabulary) :
    raw'.word? key vocabulary = raw.word? key vocabulary := by
  rw [word?, word?, h.get key hkey]

theorem wordOr (h : raw.SameFields raw') (hkey : key ∉ unreadKeys) (vocabulary : Vocabulary)
    (fallback : Except FieldFault String) :
    raw'.wordOr key vocabulary fallback = raw.wordOr key vocabulary fallback := by
  rw [RawNode.wordOr, RawNode.wordOr, h.word hkey]

theorem functionKind (h : raw.SameFields raw') : raw'.functionKind = raw.functionKind := by
  rw [RawNode.functionKind, RawNode.functionKind, h.wordOr (by decide), h.flag (by decide), h.text (by decide)]

theorem stateMutability (h : raw.SameFields raw') : raw'.stateMutability = raw.stateMutability := by
  have hpayable : "payable" ∉ unreadKeys := by decide
  have hconstant : "constant" ∉ unreadKeys := by decide
  rw [RawNode.stateMutability, RawNode.stateMutability, h.wordOr (by decide), h.get _ hpayable, h.get _ hconstant,
    h.flag hpayable, h.flag hconstant]

theorem callKind (h : raw.SameFields raw') : raw'.callKind = raw.callKind := by
  rw [RawNode.callKind, RawNode.callKind, h.wordOr (by decide), h.flag (by decide), h.flag (by decide)]

theorem mutability (h : raw.SameFields raw') : raw'.mutability = raw.mutability := by
  rw [RawNode.mutability, RawNode.mutability, h.wordOr (by decide), h.flag (by decide)]

theorem read (h : raw.SameFields raw') {field : Field} (hkey : field.key ∉ unreadKeys)
    (hhere : looksElsewhere field.reading = false) : raw'.read field = raw.read field := by
  obtain ⟨key, reading, exported, asked, labels⟩ := field
  simp only at hkey hhere
  cases reading with
  | modifierName => cases hhere
  | typeName => cases hhere
  | _ =>
    simp only [RawNode.read, texts, symbols, h.tag, h.get key hkey, h.text hkey, h.flag hkey, h.word hkey,
      h.wordOr hkey, h.functionKind, h.stateMutability, h.callKind, h.mutability]

/-- A reading that looks elsewhere always gives a value. -/
theorem exists_read (h : raw.SameFields raw') {field : Field} (hkey : field.key ∉ unreadKeys) {value : FieldValue}
    (hread : raw.read field = .ok value) :
    ∃ value', raw'.read field = .ok value' ∧ (looksElsewhere field.reading = false → value' = value) := by
  cases hreading : looksElsewhere field.reading with
  | false => exact ⟨value, (h.read hkey hreading).trans hread, fun _ ↦ rfl⟩
  | true =>
    rw [looksElsewhere, Bool.or_eq_true, beq_iff_eq, beq_iff_eq] at hreading
    rcases hreading with hreading | hreading
    · exact ⟨_, by rw [RawNode.read, hreading], fun hnot ↦ by cases hnot⟩
    · exact ⟨_, by rw [RawNode.read, hreading], fun hnot ↦ by cases hnot⟩

theorem exists_readAll (h : raw.SameFields raw') {fields : List Field}
    (hkeys : ∀ field ∈ fields, field.key ∉ unreadKeys) :
    ∀ {values : List (Field × FieldValue)}, raw.readAll fields = .ok values →
      ∃ values', raw'.readAll fields = .ok values' ∧
        ((∀ field ∈ fields, looksElsewhere field.reading = false) → values' = values) := by
  induction fields with
  | nil =>
    intro values hread
    exact ⟨values, hread, fun _ ↦ rfl⟩
  | cons field rest ih =>
    intro values hread
    obtain ⟨hkey, hkeys⟩ := List.forall_mem_cons.mp hkeys
    obtain ⟨value, hvalue, hread⟩ := Outcome.bind_eq_ok.mp hread
    obtain ⟨later, hlater, hread⟩ := Outcome.bind_eq_ok.mp hread
    cases hread
    obtain ⟨value', hvalue', hsame⟩ := h.exists_read hkey hvalue
    obtain ⟨later', hlater', hsame'⟩ := ih hkeys hlater
    refine ⟨(field, value') :: later', ?_, ?_⟩
    · rw [RawNode.readAll, hvalue', hlater']
      rfl
    · intro hhere
      obtain ⟨hfield, hrest⟩ := List.forall_mem_cons.mp hhere
      rw [hsame hfield, hsame' hrest]

end SameFields

/-- The types with a field that looks beyond the fields of a node. -/
def namedElsewhere : List String := ["ModifierInvocation", "UserDefinedTypeName"]

theorem table_reads_fields : ∀ entry ∈ Schema.table, ∀ field ∈ entry.2.fields,
    field.key ∉ unreadKeys ∧ (looksElsewhere field.reading = true → entry.1 ∈ namedElsewhere) := by
  decide

theorem SameFields.exists_kind {raw raw' : RawNode} (h : raw.SameFields raw') {kind : Kind}
    (hkind : raw.kind (Schema.find? raw.tag) = .ok kind) :
    ∃ kind', raw'.kind (Schema.find? raw'.tag) = .ok kind' ∧ kind'.tag = kind.tag ∧
      (kind.tag ∉ namedElsewhere → kind' = kind) := by
  rw [h.tag]
  cases hschema : Schema.find? raw.tag with
  | none =>
    rw [hschema] at hkind
    cases hkind
    exact ⟨_, by rw [RawNode.kind, h.tag], rfl, fun _ ↦ rfl⟩
  | some schema =>
    rw [hschema, RawNode.kind] at hkind
    have hfields := table_reads_fields (raw.tag, schema) (mem_table_of_find? hschema)
    cases hread : raw.readAll schema.fields with
    | error fault =>
      rw [hread] at hkind
      cases hkind
    | ok values =>
      rw [hread] at hkind
      cases hkind
      obtain ⟨values', hread', hsame⟩ := h.exists_readAll (fun field hfield ↦ (hfields field hfield).1) hread
      refine ⟨⟨raw.tag, values'⟩, ?_, rfl, ?_⟩
      · rw [RawNode.kind, hread', h.tag]
        rfl
      · intro htag
        rw [hsame]
        intro field hfield
        exact Bool.not_eq_true _ ▸ fun helsewhere ↦ htag ((hfields field hfield).2 helsewhere)

end RawNode

/-- A node and the node of the legacy form, which differ in slots, in what the compiler tells of the type of an
expression, and in names that are not read from fields. -/
structure MirrorsNode (node node' : Node) : Prop where
  id : node'.id = node.id
  src : node'.src = node.src
  tag : node'.kind.tag = node.kind.tag
  kind : node.kind.tag ∉ RawNode.namedElsewhere → node'.kind = node.kind
  children : node'.children = node.children.map fun edge ↦ { edge with slot := none }

theorem takeId_legacyNode (registry : Registry) (raw : RawNode) (children : List Json) (known : Bool) :
    takeId registry (raw.legacyNode children) known = takeId registry raw known := by
  rw [takeId, takeId, RawNode.id?_legacyNode]

/-- A node that is accepted is accepted in the legacy form, where no slot is required. -/
theorem Lowers.legacy {registry : Registry} {raw : RawNode} {node : Node} (h : Lowers registry raw node)
    (hflat : raw.Flat) (children : List Json) :
    ∃ node', Lowers registry (raw.legacyNode children) node' ∧ MirrorsNode node node' ∧
      registry.after (raw.legacyNode children) node' = registry.after raw node := by
  obtain ⟨kind', hkind', htag, hsame⟩ := (hflat.sameFields children).exists_kind h.kind
  refine ⟨⟨node.id, node.src, kind', (raw.legacyNode children).typeString?, #[]⟩, ?_, ?_, ?_⟩
  · exact {
      kind := hkind'
      id := by
        rw [takeId_legacyNode]
        exact h.id
      fresh := h.fresh
      src := by
        rw [RawNode.src?_legacyNode]
        exact h.src
      slots := rfl
      typeString := rfl
      children := rfl }
  · refine ⟨rfl, rfl, htag, hsame, ?_⟩
    rw [h.children, Array.map_empty]
  · rw [Registry.after, Registry.after, takeId_legacyNode]
    rfl

/-- An arena and the arena of the legacy form. -/
structure MirrorsArena (arena arena' : Arena) : Prop where
  size : arena'.size = arena.size
  node : ∀ i node, arena.node? i = some node → ∃ node', arena'.node? i = some node' ∧ MirrorsNode node node'
  parents : arena'.parents = arena.parents
  ends : arena'.ends = arena.ends
  fileIndex : arena'.fileIndex = arena.fileIndex
  path : arena'.path = arena.path

theorem node?_push_eq (arena : Arena) (parent : Option Nat) (slot : Option String) (node : Node) (i : Nat) :
    (arena.push parent slot node).node? i = (if i = arena.size then some node else arena.node? i).map fun n ↦
      if parent = some i then { n with children := n.children.push ⟨slot, arena.size⟩ } else n := by
  have hpushed : (arena.nodes.push node)[i]? = if i = arena.size then some node else arena.node? i := by
    rw [Array.getElem?_push]
    rfl
  rw [← hpushed]
  cases parent with
  | none => simp [Arena.push, Arena.node?, Arena.addEdge]
  | some p =>
    simp only [Arena.push, Arena.node?, Arena.addEdge, Array.getElem?_modify]
    by_cases hp : p = i
    · simp [hp, Arena.size]
    · simp [hp]

namespace MirrorsNode

theorem addChild {node node' : Node} (h : MirrorsNode node node') (slot : Option String) (position : Nat) :
    MirrorsNode { node with children := node.children.push ⟨slot, position⟩ }
      { node' with children := node'.children.push ⟨none, position⟩ } where
  id := h.id
  src := h.src
  tag := h.tag
  kind := h.kind
  children := by rw [h.children, Array.map_push]

end MirrorsNode

namespace MirrorsArena

variable {arena arena' : Arena}

/-- Pushing a node and its mirror below the same parent keeps arenas mirrors. -/
theorem push (h : MirrorsArena arena arena') {node node' : Node} (hnode : MirrorsNode node node')
    (parent : Option Nat) (slot : Option String) :
    MirrorsArena (arena.push parent slot node) (arena'.push parent none node') where
  size := by rw [Arena.size_push, Arena.size_push, h.size]
  node := by
    intro i pushed hpushed
    rw [node?_push_eq] at hpushed ⊢
    obtain ⟨before, hbefore, rfl⟩ := Option.map_eq_some_iff.mp hpushed
    obtain ⟨before', hbefore', hmirrors⟩ : ∃ before', (if i = arena'.size then some node' else arena'.node? i) =
        some before' ∧ MirrorsNode before before' := by
      rw [h.size]
      split at hbefore
      · rename_i hi
        cases hbefore
        exact ⟨node', if_pos hi, hnode⟩
      · rename_i hi
        rw [if_neg hi]
        exact h.node i before hbefore
    rw [hbefore']
    refine ⟨_, rfl, ?_⟩
    by_cases hparent : parent = some i
    · simp only [hparent, if_true, h.size]
      exact hmirrors.addChild slot arena.size
    · simp only [hparent, if_false]
      exact hmirrors
  parents := by simp only [Arena.push, h.parents]
  ends := by
    have hsize : arena'.nodes.size = arena.nodes.size := h.size
    simp only [Arena.push, h.ends, hsize]
  fileIndex := h.fileIndex
  path := h.path

theorem finish (h : MirrorsArena arena arena') : MirrorsArena arena.finish arena'.finish where
  size := h.size
  node := h.node
  parents := h.parents
  ends := by
    have hsize : arena'.nodes.size = arena.nodes.size := h.size
    simp only [Arena.finish, h.parents, h.ends, hsize]
  fileIndex := h.fileIndex
  path := h.path

end MirrorsArena

/-- A step that succeeds goes with a step of the legacy form, and the ids in use stay the same. -/
theorem exists_step_legacy {file : Path} {progress progress' next : Progress} {visit visit' : RawTree.Visit}
    (hvisit : visit.Mirrors visit') (hflat : visit.raw.Flat) (harena : MirrorsArena progress.arena progress'.arena)
    (hregistry : progress'.registry = progress.registry) (h : step file progress visit = (.ok (), next)) :
    ∃ next', step file progress' visit' = (.ok (), next') ∧ MirrorsArena next.arena next'.arena ∧
      next'.registry = next.registry := by
  obtain ⟨node, hlowers, rfl⟩ := exists_lowers_of_step h
  obtain ⟨⟨children, hraw⟩, hparent, hslot⟩ := hvisit
  obtain ⟨node', hlowers', hnode, hafter⟩ := hlowers.legacy hflat children
  refine ⟨⟨progress'.arena.push visit'.parent visit'.slot node', progress'.registry.after visit'.raw node'⟩, ?_, ?_, ?_⟩
  · apply step_of_lowers
    rwa [hregistry, hraw]
  · rw [hparent, hslot]
    exact harena.push hnode visit.parent visit.slot
  · rw [hregistry, hraw]
    exact hafter

theorem exists_steps_legacy {file : Path} {visits visits' : List RawTree.Visit}
    (hvisits : List.Forall₂ RawTree.Visit.Mirrors visits visits') :
    ∀ {progress progress' final : Progress}, (∀ visit ∈ visits, visit.raw.Flat) →
      MirrorsArena progress.arena progress'.arena → progress'.registry = progress.registry →
      steps file progress visits = (.ok (), final) →
      ∃ final', steps file progress' visits' = (.ok (), final') ∧ MirrorsArena final.arena final'.arena ∧
        final'.registry = final.registry := by
  induction hvisits with
  | nil =>
    intro progress progress' final _ harena hregistry h
    cases h
    exact ⟨progress', rfl, harena, hregistry⟩
  | cons hvisit _ ih =>
    intro progress progress' final hflat harena hregistry h
    obtain ⟨hfirst, hrest⟩ := List.forall_mem_cons.mp hflat
    obtain ⟨middle, hstep, hsteps⟩ := steps_cons_eq_ok_iff.mp h
    obtain ⟨middle', hstep', harena', hregistry'⟩ := exists_step_legacy hvisit hfirst harena hregistry hstep
    obtain ⟨final', hsteps', hfinal⟩ := ih hrest harena' hregistry' hsteps
    exact ⟨final', steps_cons_eq_ok_iff.mpr ⟨middle', hstep', hsteps'⟩, hfinal⟩

/-! ## Files -/

theorem eq_of_ofJson? {object : Json} (hlegacy : isLegacy object = false) {raw : RawNode}
    (h : RawNode.ofJson? object = some raw) :
    object = .obj raw.members ∧ typeOf? object = some raw.tag ∧ raw.legacy = false := by
  have htyped : isTypedAt object [] = true := by
    by_contra huntyped
    rw [ofJson?_of_untyped hlegacy (Bool.not_eq_true _ ▸ huntyped)] at h
    cases h
  obtain ⟨members, tag, rfl, htag⟩ := exists_members_of_typed htyped
  rw [RawNode.ofJson?, Json.members?, Option.bind_some, ofMembers?_eq hlegacy, htag] at h
  cases h
  exact ⟨rfl, htag, rfl⟩

/-- The nodes on the way through a document without legacy objects are flat. -/
theorem flat_of_mem_preorder {json : Json} (hkeys : json.KeysAscend) (hlegacy : NoLegacy json)
    (holder : NoOlderKeys json) {tree : RawTree} (htree : RawTree.ofJson? json = some tree) {visit : RawTree.Visit}
    (h : visit ∈ tree.preorder) : visit.raw.Flat := by
  obtain ⟨raw, slot, children⟩ := tree
  obtain ⟨-, rfl, -, -⟩ := ofJson?_inv hkeys hlegacy htree
  have hlist : preorder json = [] ++ ((preorder json).map ([] ++ ·) ++ []) := by simp
  have hroot : (none : Option Nat).bind ((preorder json)[·]?) = enclosing? json [] := rfl
  have hvisits := forall₂_visits hkeys hlegacy (.node raw none children) (Json.follow?_nil _) htree hlist hroot
  obtain ⟨i, hi, rfl⟩ := List.mem_iff_getElem.mp h
  obtain ⟨hraw, -⟩ := hvisits.get hi (hvisits.length_eq ▸ hi)
  obtain ⟨object, hobject, hraw⟩ := Option.bind_eq_some_iff.mp hraw
  obtain ⟨hmembers, htag, hflat⟩ := eq_of_ofJson? (hlegacy _ _ hobject) hraw
  subst hmembers
  exact ⟨hflat, holder _ _ _ hobject htag⟩

/-- Where no object is a legacy one and no key is one of older compilers, a document that is built is also built from
its legacy form, with the same ids in use afterwards. -/
theorem exists_buildFile_legacyOf {source : SourceTree} {registry registry' : Registry} {arena : Arena}
    (h : buildFile source registry = (.ok arena, registry')) (hkeys : source.ast.KeysAscend)
    (hlegacy : NoLegacy source.ast) (holder : NoOlderKeys source.ast) :
    ∃ arena', buildFile { source with ast := legacyOf source.ast } registry = (.ok arena', registry') ∧
      MirrorsArena arena arena' := by
  obtain ⟨tree, progress, htree, htag, hsteps, rfl, rfl⟩ := buildFile_eq_ok_iff.mp h
  have hform : RawTree.ofJson? (legacyOf source.ast) = some tree.legacyTree := by
    rw [legacyOf, htree]
    exact tree.ofJson?_legacyForm
  have htag' : tree.legacyTree.raw.tag = "SourceUnit" := by
    rw [← htag]
    obtain ⟨raw, slot, children⟩ := tree
    rw [RawTree.legacyTree]
    rfl
  have hstart : MirrorsArena (start source registry).arena (start source registry).arena := by
    refine ⟨rfl, ?_, rfl, rfl, rfl, rfl⟩
    intro i node hnode
    simp [start, Arena.node?] at hnode
  obtain ⟨progress', hsteps', harena, hregistry⟩ := exists_steps_legacy (tree.forall₂_visits_legacyTree none 0)
    (fun visit hvisit ↦ flat_of_mem_preorder hkeys hlegacy holder htree hvisit) hstart rfl hsteps
  refine ⟨progress'.arena.finish, ?_, harena.finish⟩
  exact buildFile_eq_ok_iff.mpr ⟨tree.legacyTree, progress', hform, htag', hsteps', rfl, hregistry.symm⟩

/-- Where no object is a legacy one and no key is one of older compilers, a document and its legacy form are built
alike: with the same ids in use afterwards, and at each position with the same id, type, range, parent and children. No
child of the legacy form stands in a slot. The nodes have the same fields, except for the name of a modifier that is
invoked and of a type. -/
theorem legacyForm_builds_same_arena {source : SourceTree} {registry registry' : Registry} {arena : Arena}
    (h : buildFile source registry = (.ok arena, registry')) (hkeys : source.ast.KeysAscend)
    (hlegacy : NoLegacy source.ast) (holder : NoOlderKeys source.ast) :
    ∃ arena', buildFile { source with ast := legacyOf source.ast } registry = (.ok arena', registry') ∧
      arena'.size = arena.size ∧ arena'.parents = arena.parents ∧
      ∀ i node, arena.node? i = some node → ∃ node', arena'.node? i = some node' ∧ node'.id = node.id ∧
        node'.kind.tag = node.kind.tag ∧ node'.src = node.src ∧
        node'.children = node.children.map (fun edge ↦ ⟨none, edge.node⟩) ∧
        (node.kind.tag ∉ ["ModifierInvocation", "UserDefinedTypeName"] → node'.kind = node.kind) := by
  obtain ⟨arena', hbuild, hmirrors⟩ := exists_buildFile_legacyOf h hkeys hlegacy holder
  refine ⟨arena', hbuild, hmirrors.size, hmirrors.parents, ?_⟩
  intro i node hnode
  obtain ⟨node', hnode', hmirror⟩ := hmirrors.node i node hnode
  exact ⟨node', hnode', hmirror.id, hmirror.tag, hmirror.src, hmirror.children, hmirror.kind⟩

theorem assemblySource_builds_same_arena : ∃ arena registry', buildFile assemblySource {} = (.ok arena, registry') ∧
    assemblySource.ast.KeysAscend ∧ NoLegacy assemblySource.ast ∧ NoOlderKeys assemblySource.ast ∧
    (legacyOf assemblySource.ast).get? "name" = some (.str "SourceUnit") ∧
    ∃ arena', buildFile { assemblySource with ast := legacyOf assemblySource.ast } {} = (.ok arena', registry') ∧
      arena'.size = arena.size ∧ arena'.parents = arena.parents := by
  have hnormal : assemblySource.ast.normalize = assemblySource.ast := rfl
  have hkeys : assemblySource.ast.KeysAscend := hnormal ▸ Json.keysAscend_normalize assemblySource.ast
  have hlegacy : NoLegacy assemblySource.ast := by
    intro address inner hinner
    have hnot := Json.all_of_all_places (p := fun inner ↦ !isLegacy inner) hkeys (by with_unfolding_all rfl) hinner
    simpa using hnot
  have holder : NoOlderKeys assemblySource.ast := by
    intro address members tag hmembers htag key hkey
    have hnone := Json.all_of_all_places (p := fun inner ↦ (typeOf? inner).all fun tag ↦ (olderKeys tag).all fun key ↦
      (inner.get? key).isNone) hkeys (by with_unfolding_all rfl) hmembers
    rw [htag, Option.all_some, List.all_eq_true] at hnone
    exact Option.isNone_iff_eq_none.mp (hnone key hkey)
  have hname : (legacyOf assemblySource.ast).get? "name" = some (.str "SourceUnit") := by
    with_unfolding_all rfl
  obtain ⟨arena, registry', hbuild⟩ := exists_buildFile_assemblySource
  obtain ⟨arena', hbuild', hsize, hparents, -⟩ := legacyForm_builds_same_arena hbuild hkeys hlegacy holder
  exact ⟨arena, registry', hbuild, hkeys, hlegacy, holder, hname, arena', hbuild', hsize, hparents⟩

end SolAudit.Build
