import SolAudit.Proofs.Build.NullFields

/-!
# What null members hide

Taking the null members out of a tree does not change what is built of it, unless a node has a value that a `null`
hides. Where a field that must be there is hidden, the tree is not built although it could be without the `null`
(`HidesRequired`). Where a text that may be missing is hidden, the node is built without it, and where the exported
symbols are themselves a node, they are built with names that are no longer there (`AltersFields`). Nothing else makes a
difference (`pruned_builds_alike_iff`).
-/

namespace SolAudit.Ast

/-- The value of the field must be there. -/
def Reading.required : Reading → Bool
  | .text => true
  | .word _ => true
  | _ => false

/-- The readings of fields that older compilers may have written under another key. -/
def Reading.renamed : Reading → Bool
  | .text => true
  | .word _ => true
  | .optionalText => true
  | _ => false

/-- The keys from which the value of a field is read. -/
def Field.lookups (field : Field) : List String :=
  match field.reading with
  | .functionKind => ["kind", "isConstructor", "name"]
  | .stateMutability => ["stateMutability", "payable", "constant"]
  | .callKind => ["kind", "type_conversion", "isStructConstructorCall"]
  | .mutability => ["mutability", "constant"]
  | .isConstant => ["mutability", "constant"]
  | .typeName => ["name"]
  | .modifierName => []
  | .tag => []
  | _ => [field.key]

end SolAudit.Ast

namespace SolAudit.Build

open Ast Json RawTree

namespace RawNode

/-- The fields of nodes of the type. -/
def fields (raw : RawNode) : List Field := ((Schema.find? raw.tag).map Schema.fields).getD []

/-- Pruning changes the value of the field, which is read before as well. -/
def Alters (raw : RawNode) (field : Field) : Prop :=
  match field.reading with
  | .optionalText => ((raw.masked? field.key).bind string?).isSome = true
  | .symbols => raw.DropsSymbols field.key
  | _ => False

/-- A field that must be there is not, because a `null` hides its value. -/
def HidesRequired (raw : RawNode) : Prop :=
  ∃ field ∈ raw.fields, field.reading.required = true ∧ (raw.masked? field.key).isSome = true

/-- A `null` hides a text that may be missing, or stands for one of the exported symbols. -/
def AltersFields (raw : RawNode) : Prop :=
  ((raw.masked? "typeString").bind string?).isSome = true ∨ ∃ field ∈ raw.fields, raw.Alters field

theorem table_olderKeys : ∀ entry ∈ Schema.table, ∀ field ∈ entry.2.fields,
    field.reading.renamed = true ∨ ∀ key ∈ field.lookups, olderKey? entry.1 key = none := by
  decide

theorem table_symbols : ∀ entry ∈ Schema.table, ∀ field ∈ entry.2.fields,
    field.reading = .symbols → field.key ≠ "attributes" := by
  decide

section Field

variable {raw : RawNode} {field : Field}

theorem exists_entry_of_mem_fields (hfield : field ∈ raw.fields) :
    ∃ schema, (raw.tag, schema) ∈ Schema.table ∧ field ∈ schema.fields := by
  unfold fields at hfield
  cases hschema : Schema.find? raw.tag with
  | none =>
    rw [hschema] at hfield
    cases hfield
  | some schema =>
    rw [hschema] at hfield
    exact ⟨schema, mem_table_of_find? hschema, hfield⟩

/-- Where a field that must be there is not hidden, only a text that may be missing can be. -/
theorem masked?_of_mem_lookups (hfield : field ∈ raw.fields)
    (hshown : field.reading.required = true → raw.masked? field.key = none) (hreading : field.reading ≠ .optionalText) :
    ∀ key ∈ field.lookups, raw.masked? key = none := by
  obtain ⟨schema, hentry, hfield⟩ := exists_entry_of_mem_fields hfield
  rcases table_olderKeys _ hentry field hfield with hrenamed | hnone
  · obtain ⟨fieldKey, reading, exported, asked, labels⟩ := field
    intro key hkey
    cases reading with
    | text => exact List.mem_singleton.mp hkey ▸ hshown rfl
    | word vocabulary => exact List.mem_singleton.mp hkey ▸ hshown rfl
    | optionalText => exact absurd rfl hreading
    | _ => cases hrenamed
  · exact fun key hkey ↦ masked?_of_olderKey? (hnone key hkey)

theorem masked?_of_gives (hrequired : field.reading.required = true) (hgives : raw.gives field = true) :
    raw.masked? field.key = none := by
  by_contra hsome
  have hnone := get?_of_masked? (Option.isSome_iff_ne_none.mpr hsome)
  unfold gives at hgives
  cases hreading : field.reading with
  | text => simp [hreading, text?, hnone] at hgives
  | word vocabulary => simp [hreading, hnone] at hgives
  | _ =>
    rw [hreading] at hrequired
    cases hrequired

end Field

section Shown

variable {raw : RawNode} {field : Field} (h : raw.Keyed) (hkeys : ∀ key ∈ field.lookups, raw.masked? key = none)

include h hkeys

theorem gives_pruned : raw.pruned.gives field = raw.gives field := by
  obtain ⟨key, reading, exported, asked, labels⟩ := field
  cases reading with
  | text => exact congrArg Option.isSome (h.text?_pruned (hkeys key List.mem_cons_self))
  | word vocabulary => exact h.isSome_get?_pruned (hkeys key List.mem_cons_self)
  | stateMutability =>
    simp only [Field.lookups, List.forall_mem_cons] at hkeys
    obtain ⟨hmutability, hpayable, hconstant, -⟩ := hkeys
    simp only [gives, h.isSome_get?_pruned hmutability, h.isSome_get?_pruned hpayable, h.isSome_get?_pruned hconstant]
  | _ => rfl

theorem spells_pruned : raw.pruned.spells field = raw.spells field := by
  obtain ⟨key, reading, exported, asked, labels⟩ := field
  cases reading with
  | word vocabulary => exact h.all_has_pruned (hkeys _ List.mem_cons_self) vocabulary
  | optionalWord vocabulary => exact h.all_has_pruned (hkeys _ List.mem_cons_self) vocabulary
  | wordOr vocabulary fallback => exact h.all_has_pruned (hkeys _ List.mem_cons_self) vocabulary
  | functionKind => exact h.all_has_pruned (hkeys _ List.mem_cons_self) _
  | stateMutability => exact h.all_has_pruned (hkeys _ List.mem_cons_self) _
  | callKind => exact h.all_has_pruned (hkeys _ List.mem_cons_self) _
  | mutability => exact h.all_has_pruned (hkeys _ List.mem_cons_self) _
  | isConstant => exact h.all_has_pruned (hkeys _ List.mem_cons_self) _
  | _ => rfl

/-- Where no value is hidden a field is read again as it was. -/
theorem read_pruned (hspells : raw.spells field = true) (hsymbols : field.reading ≠ .symbols) :
    raw.pruned.read field = raw.read field := by
  obtain ⟨key, reading, exported, asked, labels⟩ := field
  cases reading with
  | text => simp only [read, h.text?_pruned (hkeys key List.mem_cons_self)]
  | optionalText => simp only [read, h.text?_pruned (hkeys key List.mem_cons_self)]
  | textOr fallback => simp only [read, h.text?_pruned (hkeys key List.mem_cons_self)]
  | flag fallback => simp only [read, h.flagOr_pruned (hkeys key List.mem_cons_self)]
  | optionalId =>
    simp only [read, h.bind_get?_pruned (hkeys key List.mem_cons_self) fun _ _ hreads ↦ hreads.id]
  | texts separator => simp only [read, h.texts_pruned (hkeys key List.mem_cons_self)]
  | word vocabulary => simp only [read, h.wordOr_pruned (hkeys key List.mem_cons_self) hspells]
  | optionalWord vocabulary => simp only [read, h.word?_pruned (hkeys key List.mem_cons_self) hspells]
  | wordOr vocabulary fallback => simp only [read, h.wordOr_pruned (hkeys key List.mem_cons_self) hspells]
  | functionKind =>
    simp only [Field.lookups, List.forall_mem_cons] at hkeys
    obtain ⟨hkind, hconstructor, hname, -⟩ := hkeys
    simp only [read, functionKind, h.wordOr_pruned hkind hspells, h.flagOr_pruned hconstructor, h.text?_pruned hname]
  | stateMutability =>
    simp only [Field.lookups, List.forall_mem_cons] at hkeys
    obtain ⟨hmutability, hpayable, hconstant, -⟩ := hkeys
    simp only [read, stateMutability, h.wordOr_pruned hmutability hspells, ← Option.not_isSome,
      h.isSome_get?_pruned hpayable, h.isSome_get?_pruned hconstant, h.flagOr_pruned hpayable,
      h.flagOr_pruned hconstant]
  | callKind =>
    simp only [Field.lookups, List.forall_mem_cons] at hkeys
    obtain ⟨hkind, hconversion, hstruct, -⟩ := hkeys
    simp only [read, callKind, h.wordOr_pruned hkind hspells, h.flagOr_pruned hconversion, h.flagOr_pruned hstruct]
  | mutability =>
    simp only [Field.lookups, List.forall_mem_cons] at hkeys
    obtain ⟨hmutability, hconstant, -⟩ := hkeys
    simp only [read, mutability, h.wordOr_pruned hmutability hspells, h.flagOr_pruned hconstant]
  | isConstant =>
    simp only [Field.lookups, List.forall_mem_cons] at hkeys
    obtain ⟨hmutability, hconstant, -⟩ := hkeys
    simp only [read, mutability, h.wordOr_pruned hmutability hspells, h.flagOr_pruned hconstant]
  | modifierName => simp only [read, h.invokedName?_pruned]
  | typeName => simp only [read, h.typeName?_pruned (hkeys "name" List.mem_cons_self)]
  | symbols => exact absurd rfl hsymbols
  | tag => rfl

end Shown

section Fields

variable {raw : RawNode} {field : Field} (h : raw.Keyed) (hfield : field ∈ raw.fields)

include h hfield

/-- A field passes its checks exactly if it does in the pruned node and must not be there or is not hidden. -/
theorem checks_pruned_iff : raw.gives field = true ∧ raw.spells field = true ↔
    (raw.pruned.gives field = true ∧ raw.pruned.spells field = true) ∧
      ¬(field.reading.required = true ∧ (raw.masked? field.key).isSome = true) := by
  by_cases hoptional : field.reading = .optionalText
  · simp [gives, spells, hoptional, Reading.required, Reading.vocabulary?]
  constructor
  · rintro ⟨hgives, hspells⟩
    have hshown (hrequired : field.reading.required = true) := masked?_of_gives hrequired hgives
    have hkeys := masked?_of_mem_lookups hfield hshown hoptional
    rw [gives_pruned h hkeys, spells_pruned h hkeys]
    refine ⟨⟨hgives, hspells⟩, ?_⟩
    rintro ⟨hrequired, hsome⟩
    rw [hshown hrequired] at hsome
    cases hsome
  · rintro ⟨hchecks, hnot⟩
    have hshown (hrequired : field.reading.required = true) : raw.masked? field.key = none :=
      Option.not_isSome_iff_eq_none.mp fun hsome ↦ hnot ⟨hrequired, hsome⟩
    have hkeys := masked?_of_mem_lookups hfield hshown hoptional
    rwa [gives_pruned h hkeys, spells_pruned h hkeys] at hchecks

/-- A field that passes its checks is read again as it was, unless pruning alters it. -/
theorem read_pruned_iff (hgives : raw.gives field = true) (hspells : raw.spells field = true) :
    raw.pruned.read field = raw.read field ↔ ¬raw.Alters field := by
  have hshown (hrequired : field.reading.required = true) := masked?_of_gives hrequired hgives
  by_cases hoptional : field.reading = .optionalText
  · simp only [read, Alters, hoptional]
    rw [← h.text?_pruned_iff]
    simp
  have hkeys := masked?_of_mem_lookups hfield hshown hoptional
  by_cases hsymbols : field.reading = .symbols
  · obtain ⟨schema, hentry, hmem⟩ := exists_entry_of_mem_fields hfield
    have hattributes := table_symbols _ hentry field hmem hsymbols
    have hkey : raw.masked? field.key = none := hkeys field.key (by simp [Field.lookups, hsymbols])
    simp only [read, Alters, hsymbols]
    rw [← h.symbols_pruned_iff hkey hattributes]
    simp
  · have hnot : ¬raw.Alters field := by
      unfold Alters
      split
      · exact fun _ ↦ hoptional ‹_›
      · exact fun _ ↦ hsymbols ‹_›
      · exact not_false
    exact iff_of_true (read_pruned h hkeys hspells hsymbols) hnot

end Fields

/-! ## Nodes -/

/-- The conditions that are not on fields. -/
def otherConditions (raw : RawNode) : List Condition :=
  match Schema.find? raw.tag with
  | some schema => .identified :: .located :: if raw.legacy then [] else Condition.ofSlots schema.slots
  | none => []

theorem meets_iff (raw : RawNode) : raw.Meets ↔
    (∀ field ∈ raw.fields, raw.gives field = true ∧ raw.spells field = true) ∧
      ∀ condition ∈ raw.otherConditions, condition.holds raw = true := by
  have hfields (fields : List Field) : (∀ condition ∈ Condition.ofFields fields, condition.holds raw = true) ↔
      ∀ field ∈ fields, raw.gives field = true ∧ raw.spells field = true := by
    simp only [Condition.ofFields, List.mem_flatMap]
    constructor
    · intro hall field hfield
      exact ⟨hall (.given field) ⟨field, hfield, by simp⟩, hall (.known field) ⟨field, hfield, by simp⟩⟩
    · rintro hall condition ⟨field, hfield, hcondition⟩
      rcases List.mem_pair.mp hcondition with rfl | rfl
      · exact (hall field hfield).1
      · exact (hall field hfield).2
  unfold Meets beforeId afterId fields otherConditions
  cases Schema.find? raw.tag with
  | none => simp
  | some schema =>
    simp only [Option.map_some, Option.getD_some, List.forall_mem_append, List.forall_mem_cons, hfields]
    tauto

section Node

variable {raw : RawNode} (h : raw.Keyed)

include h

theorem fills_pruned (slot : Slot) : raw.pruned.fills slot = raw.fills slot := by
  have hnull (value : Json) : (pruneAt raw.legacy slot.name value).isNull = value.isNull := (readsAs_pruneAt _ _ _).null
  rw [fills, fills, get?_pruned_members h.nodup, Option.filter_map, Option.isSome_map]
  simp [Function.comp_def, hnull, Option.filter_filter]

theorem holds_pruned {condition : Condition} (hcondition : condition ∈ raw.otherConditions) :
    condition.holds raw.pruned = condition.holds raw := by
  unfold otherConditions at hcondition
  split at hcondition
  · rcases List.mem_cons.mp hcondition with rfl | hcondition
    · exact congrArg Option.isSome (id?_pruned h.nodup)
    rcases List.mem_cons.mp hcondition with rfl | hcondition
    · exact congrArg Option.isSome (src?_pruned h.nodup)
    split at hcondition
    · cases hcondition
    · obtain ⟨slot, -, rfl⟩ := List.mem_map.mp hcondition
      exact fills_pruned h slot
  · cases hcondition

/-- A node meets its conditions exactly if the pruned node does and no field that must be there is hidden. -/
theorem meets_pruned_iff : raw.Meets ↔ raw.pruned.Meets ∧ ¬raw.HidesRequired := by
  have hothers : (∀ condition ∈ raw.pruned.otherConditions, condition.holds raw.pruned = true) ↔
      ∀ condition ∈ raw.otherConditions, condition.holds raw = true :=
    forall₂_congr fun condition hcondition ↦ by rw [holds_pruned h hcondition]
  have hfields : (∀ field ∈ raw.fields, raw.gives field = true ∧ raw.spells field = true) ↔
      (∀ field ∈ raw.pruned.fields, raw.pruned.gives field = true ∧ raw.pruned.spells field = true) ∧
        ¬raw.HidesRequired := by
    have hsame : raw.pruned.fields = raw.fields := rfl
    rw [hsame, HidesRequired, not_exists, ← forall_and]
    apply forall_congr'
    intro field
    by_cases hfield : field ∈ raw.fields
    · simpa [hfield] using checks_pruned_iff h hfield
    · simp [hfield]
  rw [meets_iff, meets_iff, hfields, hothers]
  tauto

end Node

/-- Where all fields can be read, two nodes are read alike exactly if each of the fields is. -/
theorem readAll_eq_iff {raw other : RawNode} {fields : List Field}
    (hread : ∀ field ∈ fields, ∃ value, raw.read field = .ok value)
    (hread' : ∀ field ∈ fields, ∃ value, other.read field = .ok value) :
    other.readAll fields = raw.readAll fields ↔ ∀ field ∈ fields, other.read field = raw.read field := by
  have hok (raw : RawNode) (fields : List Field) (hread : ∀ field ∈ fields, ∃ value, raw.read field = .ok value) :
      ∃ values, raw.readAll fields = .ok values := by
    induction fields with
    | nil => exact ⟨[], rfl⟩
    | cons field rest ih =>
      obtain ⟨⟨value, hvalue⟩, hrest⟩ := List.forall_mem_cons.mp hread
      obtain ⟨values, hvalues⟩ := ih hrest
      exact ⟨(field, value) :: values, by rw [readAll, hvalue, hvalues]; rfl⟩
  induction fields with
  | nil => simp [readAll]
  | cons field rest ih =>
    obtain ⟨⟨value, hvalue⟩, hrest⟩ := List.forall_mem_cons.mp hread
    obtain ⟨⟨value', hvalue'⟩, hrest'⟩ := List.forall_mem_cons.mp hread'
    obtain ⟨values, hvalues⟩ := hok raw rest hrest
    obtain ⟨values', hvalues'⟩ := hok other rest hrest'
    have hfirst : raw.readAll (field :: rest) = .ok ((field, value) :: values) := by
      rw [readAll, hvalue, hvalues]
      rfl
    have hfirst' : other.readAll (field :: rest) = .ok ((field, value') :: values') := by
      rw [readAll, hvalue', hvalues']
      rfl
    have hlater := ih hrest hrest'
    rw [hvalues, hvalues', Except.ok.injEq] at hlater
    rw [List.forall_mem_cons, hfirst, hfirst', hvalue, hvalue']
    simp only [Except.ok.injEq, List.cons.injEq, Prod.mk.injEq, true_and]
    exact and_congr_right fun _ ↦ hlater

theorem exists_read {raw : RawNode} {field : Field} (hgives : raw.gives field = true)
    (hspells : raw.spells field = true) : ∃ value, raw.read field = .ok value := by
  have herror := raw.error?_read field
  rw [broken?_of_field, if_pos hgives, if_pos hspells] at herror
  cases hread : raw.read field with
  | error fault =>
    rw [hread] at herror
    cases herror
  | ok value => exact ⟨value, rfl⟩

section Node

variable {raw : RawNode} (h : raw.Keyed) (hmeets : raw.Meets)

include h hmeets

theorem kind_pruned_iff : raw.pruned.kind (Schema.find? raw.tag) = raw.kind (Schema.find? raw.tag) ↔
    ∀ field ∈ raw.fields, ¬raw.Alters field := by
  have hchecks := ((meets_iff raw).mp hmeets).1
  have hchecks' := ((meets_iff raw.pruned).mp ((meets_pruned_iff h).mp hmeets).1).1
  have hread : ∀ field ∈ raw.fields, ∃ value, raw.read field = .ok value :=
    fun field hfield ↦ exists_read (hchecks field hfield).1 (hchecks field hfield).2
  have hread' : ∀ field ∈ raw.fields, ∃ value, raw.pruned.read field = .ok value :=
    fun field hfield ↦ exists_read (hchecks' field hfield).1 (hchecks' field hfield).2
  have hall := readAll_eq_iff hread hread'
  have hfields : (∀ field ∈ raw.fields, raw.pruned.read field = raw.read field) ↔
      ∀ field ∈ raw.fields, ¬raw.Alters field :=
    forall₂_congr fun field hfield ↦ read_pruned_iff h hfield (hchecks field hfield).1 (hchecks field hfield).2
  rw [← hfields, ← hall]
  unfold fields
  cases Schema.find? raw.tag with
  | none => exact iff_of_true rfl rfl
  | some schema =>
    rw [kind, kind, tag_pruned, Option.map_some, Option.getD_some]
    cases raw.readAll schema.fields <;> cases raw.pruned.readAll schema.fields <;> simp

end Node

end RawNode

section Node

variable {raw : RawNode} (h : raw.Keyed)

include h

theorem missingSlot?_pruned (schema : Option Schema) : raw.pruned.missingSlot? schema = raw.missingSlot? schema := by
  have hfills (slot : Slot) :
      ((raw.pruned.members.get? slot.name).filter fun v ↦ !v.isNull).isNone =
        ((raw.members.get? slot.name).filter fun v ↦ !v.isNull).isNone := by
    rw [← Option.not_isSome, ← Option.not_isSome]
    exact congrArg not (RawNode.fills_pruned h slot)
  have hlegacy : raw.pruned.legacy = raw.legacy := rfl
  unfold RawNode.missingSlot?
  simp only [hfills, hlegacy]

/-- The node of a raw node that meets its conditions stays the same exactly if pruning does not alter its fields. -/
theorem lower?_pruned_iff (hmeets : raw.Meets) (last : Int) :
    lower? last raw.pruned = lower? last raw ↔ ¬raw.AltersFields := by
  have hkind := RawNode.kind_pruned_iff h hmeets
  have htype := h.typeString?_pruned_iff
  have hfields : ¬raw.AltersFields ↔ raw.pruned.typeString? = raw.typeString? ∧
      raw.pruned.kind (Schema.find? raw.tag) = raw.kind (Schema.find? raw.tag) := by
    rw [hkind, htype, RawNode.AltersFields, not_or, not_exists]
    simp only [not_and]
  rw [hfields]
  constructor
  · intro hsame
    obtain ⟨node, hnode⟩ := (exists_lower?_iff last raw).mpr hmeets
    have hlowers := lowers_of_lower? hnode
    have hlowers' := lowers_of_lower? (hsame.trans hnode)
    exact ⟨hlowers'.typeString.symm.trans hlowers.typeString, hlowers'.kind.trans hlowers.kind.symm⟩
  · rintro ⟨htype, hkind⟩
    simp only [lower?, RawNode.tag_pruned, hkind, htype, id?_pruned h.nodup, src?_pruned h.nodup, missingSlot?_pruned h]

theorem takeId_pruned (registry : Registry) (known : Bool) :
    takeId registry raw.pruned known = takeId registry raw known := by
  rw [takeId, takeId, id?_pruned h.nodup]

theorem idAfter?_pruned (last : Int) : raw.pruned.idAfter? last = raw.idAfter? last := by
  rw [RawNode.idAfter?, RawNode.idAfter?, RawNode.lacksId, RawNode.lacksId, id?_pruned h.nodup, raw.tag_pruned]

theorem numberAfter_pruned (last : Int) : numberAfter last raw.pruned = numberAfter last raw := by
  rw [numberAfter, numberAfter, id?_pruned h.nodup, raw.tag_pruned]

end Node

section Nodes

variable {raws : List RawNode}

theorem idsFrom_pruned (h : ∀ raw ∈ raws, raw.Keyed) : ∀ last : Int,
    idsFrom last (raws.map RawNode.pruned) = idsFrom last raws := by
  induction raws with
  | nil => exact fun _ ↦ rfl
  | cons raw rest ih =>
    obtain ⟨hfirst, hrest⟩ := List.forall_mem_cons.mp h
    intro last
    rw [List.map_cons, idsFrom, idsFrom, idAfter?_pruned hfirst, numberAfter_pruned hfirst, ih hrest]

/-- Nodes pass exactly if they do without null members and no field that must be there is hidden. -/
theorem passes_pruned_iff (h : ∀ raw ∈ raws, raw.Keyed) (registry : Registry) :
    Passes registry raws ↔ Passes registry (raws.map RawNode.pruned) ∧ ∀ raw ∈ raws, ¬raw.HidesRequired := by
  have hids := idsFrom_pruned h registry.lastSynthetic
  have hmeets (raw : RawNode) (hraw : raw ∈ raws) := RawNode.meets_pruned_iff (h raw hraw)
  constructor
  · rintro ⟨hall, hnodup, hfresh⟩
    refine ⟨⟨?_, hids ▸ hnodup, hids ▸ hfresh⟩, fun raw hraw ↦ ((hmeets raw hraw).mp (hall raw hraw)).2⟩
    exact List.forall_mem_map.mpr fun raw hraw ↦ ((hmeets raw hraw).mp (hall raw hraw)).1
  · rintro ⟨⟨hall, hnodup, hfresh⟩, hshown⟩
    refine ⟨fun raw hraw ↦ ?_, hids ▸ hnodup, hids ▸ hfresh⟩
    exact (hmeets raw hraw).mpr ⟨List.forall_mem_map.mp hall raw hraw, hshown raw hraw⟩

/-- Where the same nodes are made without null members, pruning alters no fields. -/
theorem not_altersFields_of_lowerAll? (h : ∀ raw ∈ raws, raw.Keyed) : ∀ {last : Int} {nodes : List Node},
    lowerAll? last raws = some nodes → lowerAll? last (raws.map RawNode.pruned) = some nodes →
      ∀ raw ∈ raws, ¬raw.AltersFields := by
  induction raws with
  | nil =>
    intro last nodes _ _ raw hraw
    cases hraw
  | cons raw rest ih =>
    obtain ⟨hfirst, hrest⟩ := List.forall_mem_cons.mp h
    intro last nodes hall hall'
    obtain ⟨node, later, hnode, hlater, rfl⟩ := lowerAll?_cons_eq_some_iff.mp hall
    obtain ⟨node', later', hnode', hlater', hsame⟩ := lowerAll?_cons_eq_some_iff.mp hall'
    obtain ⟨rfl, rfl⟩ := List.cons.inj hsame
    rw [numberAfter_pruned hfirst] at hlater'
    have hmeets := (exists_lower?_iff last raw).mp ⟨node, hnode⟩
    exact List.forall_mem_cons.mpr
      ⟨(lower?_pruned_iff hfirst hmeets last).mp (hnode'.trans hnode.symm), ih hrest hlater hlater'⟩

end Nodes

/-- A step that succeeds makes the same node without null members, where these alter no fields. -/
theorem step_pruned {file : Path} {progress progress' : Progress} {visit : Visit} (hkeyed : visit.raw.Keyed)
    (halters : ¬visit.raw.AltersFields) (h : step file progress visit = (.ok (), progress')) :
    step file progress visit.pruned = (.ok (), progress') := by
  obtain ⟨node, hlowers, rfl⟩ := exists_lowers_of_step h
  obtain ⟨hnode, hfresh⟩ := lowers_iff.mp hlowers
  have hmeets := (exists_lower?_iff _ visit.raw).mp ⟨node, hnode⟩
  have hsame := (lower?_pruned_iff hkeyed hmeets progress.registry.lastSynthetic).mpr halters
  refine step_eq_ok_iff.mpr ⟨node, lowers_iff.mpr ⟨hsame.trans hnode, hfresh⟩, ?_⟩
  rw [Visit.pruned, Registry.after, Registry.after, RawNode.tag_pruned, takeId_pruned hkeyed]

theorem steps_pruned {file : Path} {visits : List Visit}
    (hvisits : ∀ visit ∈ visits, visit.raw.Keyed ∧ ¬visit.raw.AltersFields) : ∀ {progress final : Progress},
    steps file progress visits = (.ok (), final) → steps file progress (visits.map Visit.pruned) = (.ok (), final) := by
  induction visits with
  | nil => exact fun h ↦ h
  | cons visit rest ih =>
    obtain ⟨⟨hkeyed, halters⟩, hrest⟩ := List.forall_mem_cons.mp hvisits
    intro progress final h
    obtain ⟨middle, hstep, hsteps⟩ := steps_cons_eq_ok_iff.mp h
    exact steps_cons_eq_ok_iff.mpr ⟨middle, step_pruned hkeyed halters hstep, ih hrest hsteps⟩

/-! ## Files -/

section File

variable {source : SourceTree} (hkeys : source.ast.KeysAscend)

include hkeys

theorem keyed_of_mem_rawNodes {raw : RawNode} (h : raw ∈ rawNodes source) : raw.Keyed := by
  obtain ⟨hkeys, hown⟩ := keysAscend_of_mem_rawNodes hkeys h
  exact ⟨hown, hkeys⟩

theorem isSourceUnit_pruned : source.pruned.IsSourceUnit ↔ source.IsSourceUnit := by
  unfold SourceTree.IsSourceUnit
  rw [SourceTree.pruned, ofJson?_prune hkeys]
  cases RawNode.ofJson? source.ast with
  | none => simp
  | some raw => simp [RawNode.pruned]

omit hkeys in
theorem lowerAll?_rawNodes {registry registry' : Registry} {arena : Arena}
    (h : buildFile source registry = (.ok arena, registry')) :
    lowerAll? registry.lastSynthetic (rawNodes source) = some (arena.nodes.toList.map Node.bare) := by
  have hnodes := lowerAll?_of_buildFile h
  cases htree : RawTree.ofJson? source.ast with
  | none =>
    rw [htree] at hnodes
    cases hnodes
  | some tree =>
    rw [htree] at hnodes
    rw [rawNodes_eq_preorder htree]
    exact hnodes

theorem buildFile_pruned_iff {registry registry' : Registry} {arena : Arena}
    (h : buildFile source registry = (.ok arena, registry')) :
    (buildFile source.pruned registry).1 = .ok arena ↔ ∀ raw ∈ rawNodes source, ¬raw.AltersFields := by
  have hkeyed : ∀ raw ∈ rawNodes source, raw.Keyed := fun raw hraw ↦ keyed_of_mem_rawNodes hkeys hraw
  constructor
  · intro h'
    have hnodes := lowerAll?_rawNodes h
    have hnodes' := lowerAll?_rawNodes (Prod.ext h' rfl)
    rw [rawNodes_pruned hkeys] at hnodes'
    exact not_altersFields_of_lowerAll? hkeyed hnodes hnodes'
  · intro halters
    obtain ⟨tree, progress, htree, htag, hsteps, harena, hregistry⟩ := buildFile_eq_ok_iff.mp h
    have htree' : RawTree.ofJson? source.pruned.ast = some tree.pruned := by
      rw [ofJson?_pruned hkeys, htree, Option.map_some]
    have htag' : tree.pruned.raw.tag = "SourceUnit" := by
      rw [RawTree.raw_pruned]
      exact htag
    have hvisits : ∀ visit ∈ tree.preorder, visit.raw.Keyed ∧ ¬visit.raw.AltersFields := by
      intro visit hvisit
      have hraw : visit.raw ∈ rawNodes source := by
        rw [rawNodes_eq_preorder htree]
        exact List.mem_map_of_mem hvisit
      exact ⟨hkeyed _ hraw, halters _ hraw⟩
    have hsteps' := steps_pruned hvisits hsteps
    rw [← RawTree.preorder_pruned] at hsteps'
    exact congrArg Prod.fst (buildFile_eq_ok_iff.mpr ⟨tree.pruned, progress, htree', htag', hsteps', harena, hregistry⟩)

end File

/-- Whatever the ids in use, a source is built exactly if it is built without its null members and no node of it hides a
field that must be there behind a `null`. A source that is built gives the same arena without its null members exactly
if no node of it hides a text that may be missing, and none exports symbols in an object that is itself a node and has
`null` for one of them. -/
theorem pruned_builds_alike_iff {source : SourceTree} (hkeys : source.ast.KeysAscend) (registry : Registry) :
    ((∃ arena, (buildFile source registry).1 = .ok arena) ↔
      (∃ arena, (buildFile source.pruned registry).1 = .ok arena) ∧ ∀ raw ∈ rawNodes source, ¬raw.HidesRequired) ∧
    ∀ arena, (buildFile source registry).1 = .ok arena →
      ((buildFile source.pruned registry).1 = .ok arena ↔ ∀ raw ∈ rawNodes source, ¬raw.AltersFields) := by
  have hkeyed : ∀ raw ∈ rawNodes source, raw.Keyed := fun raw hraw ↦ keyed_of_mem_rawNodes hkeys hraw
  refine ⟨?_, fun arena h ↦ buildFile_pruned_iff hkeys (Prod.ext h rfl)⟩
  rw [exists_arena_iff_passes, exists_arena_iff_passes, isSourceUnit_pruned hkeys, rawNodes_pruned hkeys,
    passes_pruned_iff hkeyed registry, and_assoc]

/-- An identifier with the name under the older key, and `null` under the key of today. -/
def hiddenIdentifier : RawNode :=
  ⟨"Identifier", [("attributes", .obj [("name", .null), ("value", .str "msg")]), ("id", .int 2),
    ("name", .str "Identifier"), ("src", .str "1:3:0")], true, some [("name", .null), ("value", .str "msg")]⟩

def hidingUnit : RawNode where
  tag := "SourceUnit"
  members := [("attributes", .obj [("absolutePath", .str "A.sol")]), ("children", .arr [.obj hiddenIdentifier.members]),
    ("id", .int 1), ("name", .str "SourceUnit"), ("src", .str "0:9:0")]
  legacy := true
  attributes := some [("absolutePath", .str "A.sol")]

def hidingSource : SourceTree := ⟨0, ⟨"/p/A.sol"⟩, .obj hidingUnit.members⟩

/-- The file is built without the `null`, and not with it. -/
theorem hidingSource_builds_without_nulls : hidingSource.ast.KeysAscend ∧
    (¬∃ arena, (buildFile hidingSource {}).1 = .ok arena) ∧
    (∃ arena, (buildFile hidingSource.pruned {}).1 = .ok arena) ∧
    ∃ raw ∈ rawNodes hidingSource, raw.HidesRequired := by
  have hnormal : hidingSource.ast.normalize = hidingSource.ast := rfl
  have hkeys : hidingSource.ast.KeysAscend := hnormal ▸ Json.keysAscend_normalize hidingSource.ast
  have hraws : rawNodes hidingSource = [hidingUnit, hiddenIdentifier] := by
    with_unfolding_all rfl
  have hhides : hiddenIdentifier.HidesRequired := ⟨Field.ofLabel "name", List.mem_cons_self, rfl, rfl⟩
  have hmem : hiddenIdentifier ∈ rawNodes hidingSource := by
    rw [hraws]
    exact List.mem_cons_of_mem _ List.mem_cons_self
  have htree : (RawTree.ofJson? hidingSource.pruned.ast).map (fun tree ↦ (tree.raw.tag, tree.preorder.map (·.raw))) =
      some ("SourceUnit", [hidingUnit.pruned, hiddenIdentifier.pruned]) := by
    with_unfolding_all rfl
  have hnodes : (lowerAll? 0 [hidingUnit.pruned, hiddenIdentifier.pruned]).map (·.map Node.id) = some [1, 2] := by
    with_unfolding_all rfl
  obtain ⟨arena, registry', h⟩ := exists_buildFile_of_ids htree hnodes (by decide)
  refine ⟨hkeys, ?_, ⟨arena, congrArg Prod.fst h⟩, hiddenIdentifier, hmem, hhides⟩
  intro hbuilt
  exact ((pruned_builds_alike_iff hkeys {}).1.mp hbuilt).2 hiddenIdentifier hmem hhides

end SolAudit.Build
