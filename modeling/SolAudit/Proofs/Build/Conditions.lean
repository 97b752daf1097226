import SolAudit.Proofs.Build.Collisions
import SolAudit.Proofs.Outcome

/-!
# Conditions of nodes

What a node must meet by itself is a list of conditions (`beforeId`, `afterId`), in the order in which they are looked
at: the fields, the id, the range and the slots that the schema of its type asks for. Between the id and the range
stands the one condition that depends on other nodes, that the id is new. So the error of a node is that of the first
condition that does not hold (`refusal?`), and the error of a file is that of its first node in pre-order that is
refused, where the nodes are those of the raw tree, whether or not they can be built.
-/

namespace SolAudit.Ast

/-- The words that a field may have as its value. -/
def Reading.vocabulary? : Reading → Option Vocabulary
  | .word vocabulary => some vocabulary
  | .optionalWord vocabulary => some vocabulary
  | .wordOr vocabulary _ => some vocabulary
  | .functionKind => some .functionKind
  | .stateMutability => some .stateMutability
  | .callKind => some .functionCallKind
  | .mutability => some .mutability
  | .isConstant => some .mutability
  | _ => none

/-- The key under which the value of a field is looked up. -/
def Field.source (field : Field) : String :=
  match field.reading with
  | .functionKind => "kind"
  | .callKind => "kind"
  | .stateMutability => "stateMutability"
  | .mutability => "mutability"
  | .isConstant => "mutability"
  | _ => field.key

/-- The value is a text that is one of the words. -/
def Vocabulary.has (vocabulary : Vocabulary) : Json → Bool
  | .str text => text ∈ vocabulary.words
  | _ => false

end SolAudit.Ast

namespace SolAudit.Build

open Ast Outcome

/-- What a node of a known type must meet. -/
inductive Condition where
  /-- A field is there if it must be. -/
  | given (field : Field)
  /-- A field that is there is one of its words, if it has a vocabulary. -/
  | known (field : Field)
  | identified
  | located
  | filled (slot : Slot)

namespace RawNode

/-- A field that must be there is. The mutability of a function may also be told by its flags. -/
def gives (raw : RawNode) (field : Field) : Bool :=
  match field.reading with
  | .text => (raw.text? field.key).isSome
  | .word _ => (raw.get? field.key).isSome
  | .stateMutability =>
    (raw.get? "stateMutability").isSome || (raw.get? "payable").isSome || (raw.get? "constant").isSome
  | _ => true

/-- A value that should be a word is one, if it is there. -/
def spells (raw : RawNode) (field : Field) : Bool :=
  match field.reading.vocabulary? with
  | some vocabulary => (raw.get? field.source).all vocabulary.has
  | none => true

/-- A slot that is there and not null. -/
def fills (raw : RawNode) (slot : Slot) : Bool := ((raw.members.get? slot.name).filter fun v ↦ !v.isNull).isSome

end RawNode

namespace Condition

def holds (raw : RawNode) : Condition → Bool
  | .given field => raw.gives field
  | .known field => raw.spells field
  | .identified => raw.id?.isSome
  | .located => raw.src?.isSome
  | .filled slot => raw.fills slot

/-- A value as errors show it. -/
def shown : Json → String
  | .str text => text
  | value => value.compress

/-- What is wrong with a node for which the condition does not hold. -/
def fault (raw : RawNode) : Condition → FieldFault
  | .given field => .missing field.source
  | .known field => .invalid field.source (((raw.get? field.source).map shown).getD "")
  | .identified => .missing "id"
  | .located => .missing "src"
  | .filled slot => .missing slot.name

def error (file : Path) (raw : RawNode) (condition : Condition) : BuildError := .ofFault file raw (condition.fault raw)

/-- The conditions on fields, two for each. -/
def ofFields (fields : List Field) : List Condition := fields.flatMap fun field ↦ [.given field, .known field]

/-- The conditions on slots, one for each that is required. -/
def ofSlots (slots : List Slot) : List Condition := (slots.filter (·.required)).map .filled

end Condition

namespace RawNode

/-- The conditions that are looked at before the id is used. -/
def beforeId (raw : RawNode) : List Condition :=
  match Schema.find? raw.tag with
  | some schema => Condition.ofFields schema.fields ++ [.identified]
  | none => []

/-- The conditions that are looked at afterwards. The legacy encoding has no slots. -/
def afterId (raw : RawNode) : List Condition :=
  match Schema.find? raw.tag with
  | some schema => .located :: if raw.legacy then [] else Condition.ofSlots schema.slots
  | none => []

/-- A node of a known type meets all of its conditions; a node of an unknown type has none. -/
def Meets (raw : RawNode) : Prop := ∀ condition ∈ raw.beforeId ++ raw.afterId, condition.holds raw = true

/-- The first condition that does not hold. -/
def broken? (raw : RawNode) (conditions : List Condition) : Option Condition := conditions.find? fun c ↦ !c.holds raw

/-- The id of a node: its own, or the next number if it may lack one. -/
def idAfter? (last : Int) (raw : RawNode) : Option Int := if raw.lacksId then some (last - 1) else raw.id?

end RawNode

/-- The ids of nodes in the order of the nodes. -/
def idsFrom (last : Int) : List RawNode → List Int
  | [] => []
  | raw :: rest => (raw.idAfter? last).toList ++ idsFrom (numberAfter last raw) rest

/-- Every node meets its conditions, and the ids are distinct and new. -/
structure Passes (registry : Registry) (raws : List RawNode) : Prop where
  meets : ∀ raw ∈ raws, raw.Meets
  nodup : (idsFrom registry.lastSynthetic raws).Nodup
  fresh : ∀ id ∈ idsFrom registry.lastSynthetic raws, registry.contains id = false

/-- The error of a node, given the ids in use and the last number. -/
def refusal? (file : Path) (used : Int → Bool) (last : Int) (raw : RawNode) : Option BuildError :=
  ((raw.broken? raw.beforeId).map (·.error file raw)).or
    ((((raw.idAfter? last).filter used).map fun id ↦ .duplicateId file id raw.tag).or
      ((raw.broken? raw.afterId).map (·.error file raw)))

namespace RawNode

variable {raw : RawNode}

@[simp]
theorem broken?_append (first second : List Condition) :
    raw.broken? (first ++ second) = (raw.broken? first).or (raw.broken? second) :=
  List.find?_append

theorem broken?_cons (condition : Condition) (rest : List Condition) :
    raw.broken? (condition :: rest) = if condition.holds raw then raw.broken? rest else some condition := by
  unfold broken?
  cases hholds : condition.holds raw <;> simp [hholds]

theorem broken?_eq_none_iff {conditions : List Condition} :
    raw.broken? conditions = none ↔ ∀ condition ∈ conditions, condition.holds raw = true := by
  simp [broken?]

theorem word?_of_get? {key : String} {vocabulary : Vocabulary} {value : Json} (h : raw.get? key = some value) :
    raw.word? key vocabulary =
      if vocabulary.has value then .ok (some (Condition.shown value))
      else .error (.invalid key (Condition.shown value)) := by
  rw [word?, h]
  cases value with
  | str text =>
    simp only [Vocabulary.parse, Vocabulary.has, Condition.shown, decide_eq_true_eq]
    by_cases hword : text ∈ vocabulary.words <;> simp [hword]
  | _ => rfl

theorem error?_word? (key : String) (vocabulary : Vocabulary) :
    error? (raw.word? key vocabulary) =
      match raw.get? key with
      | some value => if vocabulary.has value then none else some (.invalid key (Condition.shown value))
      | none => none := by
  cases hget : raw.get? key with
  | none =>
    rw [word?, hget]
    rfl
  | some value =>
    rw [word?_of_get? hget]
    cases hword : vocabulary.has value <;> simp [hword]

/-- Reading a word fails if a value is there that is no word, or if none is there and the rule for it fails. -/
theorem error?_wordOr (key : String) (vocabulary : Vocabulary) (fallback : Except FieldFault String) :
    error? (raw.wordOr key vocabulary fallback) =
      match raw.get? key with
      | some value => if vocabulary.has value then none else some (.invalid key (Condition.shown value))
      | none => error? fallback := by
  unfold wordOr
  cases hget : raw.get? key with
  | none =>
    rw [word?, hget]
    rfl
  | some value =>
    rw [word?_of_get? hget]
    cases hword : vocabulary.has value <;> simp [hword, bind, Except.bind]

theorem broken?_of_field (field : Field) :
    (raw.broken? [.given field, .known field]).map (·.fault raw) =
      if raw.gives field then
        if raw.spells field then none
        else some (.invalid field.source (((raw.get? field.source).map Condition.shown).getD ""))
      else some (.missing field.source) := by
  cases hgives : raw.gives field <;> cases hspells : raw.spells field <;>
    simp [broken?, Condition.holds, Condition.fault, hgives, hspells]

theorem error?_stateMutability :
    error? raw.stateMutability =
      match raw.get? "stateMutability" with
      | some value =>
        if Vocabulary.stateMutability.has value then none
        else some (.invalid "stateMutability" (Condition.shown value))
      | none =>
        if (raw.get? "payable").isSome || (raw.get? "constant").isSome then none
        else some (.missing "stateMutability") := by
  unfold stateMutability
  rw [error?_wordOr]
  cases raw.get? "stateMutability" with
  | some value => rfl
  | none =>
    cases raw.get? "payable" <;> cases raw.get? "constant" <;> cases raw.flagOr "payable" false <;>
      cases raw.flagOr "constant" false <;> rfl

theorem error?_read (field : Field) :
    error? (raw.read field) = (raw.broken? [.given field, .known field]).map (·.fault raw) := by
  rw [broken?_of_field]
  unfold read gives spells Field.source Reading.vocabulary?
  cases hreading : field.reading with
  | text => cases htext : raw.text? field.key <;> simp [htext]
  | word vocabulary =>
    rw [error?_map, error?_wordOr]
    cases raw.get? field.key <;> simp
  | optionalWord vocabulary =>
    rw [error?_map, error?_word?]
    cases raw.get? field.key <;> simp
  | wordOr vocabulary fallback =>
    rw [error?_map, error?_wordOr]
    cases raw.get? field.key <;> simp
  | functionKind =>
    rw [error?_map, functionKind, error?_wordOr]
    cases raw.get? "kind" <;> simp
  | callKind =>
    rw [error?_map, callKind, error?_wordOr]
    cases raw.get? "kind" <;> simp
  | mutability =>
    rw [error?_map, mutability, error?_wordOr]
    cases raw.get? "mutability" <;> simp
  | isConstant =>
    rw [error?_map, mutability, error?_wordOr]
    cases raw.get? "mutability" <;> simp
  | stateMutability =>
    rw [error?_map, error?_stateMutability]
    cases raw.get? "stateMutability" <;> simp
  | _ => rfl

theorem error?_readAll (fields : List Field) :
    error? (raw.readAll fields) = (raw.broken? (Condition.ofFields fields)).map (·.fault raw) := by
  induction fields with
  | nil => rfl
  | cons field rest ih =>
    have hsplit : Condition.ofFields (field :: rest) = [.given field, .known field] ++ Condition.ofFields rest := rfl
    rw [hsplit, broken?_append, Option.map_or, ← error?_read, ← ih, readAll]
    apply error?_bind
    intro value _
    rw [bind_pure_comp, error?_map]

/-- The fields of a known type; an unknown type has none. -/
theorem error?_kind (schema : Option Schema) :
    error? (raw.kind schema) =
      (raw.broken? (schema.elim [] fun schema ↦ Condition.ofFields schema.fields)).map (·.fault raw) := by
  cases schema with
  | none => rfl
  | some schema =>
    rw [kind, error?_map, error?_readAll]
    rfl

theorem broken?_ofSlots (slots : List Slot) :
    raw.broken? (Condition.ofSlots slots) =
      (slots.find? fun slot ↦ slot.required && !raw.fills slot).map Condition.filled := by
  rw [broken?, Condition.ofSlots, List.find?_map, List.find?_filter]
  congr 2
  funext slot
  simp [Condition.holds]

theorem map_missingSlot? (schema : Schema) :
    (raw.missingSlot? (some schema)).map FieldFault.missing =
      (raw.broken? (if raw.legacy then [] else Condition.ofSlots schema.slots)).map (·.fault raw) := by
  unfold missingSlot?
  cases raw.legacy with
  | true => rfl
  | false =>
    simp only [Bool.false_eq_true, if_false, broken?_ofSlots, Option.map_map, fills, Option.not_isSome]
    rfl

end RawNode

/-! ## One node -/

section

variable {file : Path} {raw : RawNode} {progress : Progress} {visit : RawTree.Visit}

theorem toOption_takeId (registry : Registry) (raw : RawNode) :
    (takeId registry raw (Schema.find? raw.tag).isSome).1.toOption = raw.idAfter? registry.lastSynthetic := by
  unfold takeId RawNode.idAfter? RawNode.lacksId
  cases raw.id? <;> cases Schema.find? raw.tag <;> rfl

/-- The conditions before the id is used are that the fields can be read and that there is an id. -/
theorem map_error_beforeId (registry : Registry) :
    (raw.broken? raw.beforeId).map (·.error file raw) =
      ((error? (raw.kind (Schema.find? raw.tag))).map (.ofFault file raw)).or
        ((error? (takeId registry raw (Schema.find? raw.tag).isSome).1).map (.ofFault file raw)) := by
  rw [RawNode.error?_kind, Option.map_map]
  unfold RawNode.beforeId takeId
  cases Schema.find? raw.tag with
  | none => cases raw.id? <;> rfl
  | some schema =>
    rw [RawNode.broken?_append, Option.map_or]
    congr 1
    cases hid : raw.id? <;> simp [RawNode.broken?, Condition.holds, Condition.error, Condition.fault, hid]

/-- The conditions afterwards are that there is a range and that no required slot is missing. -/
theorem map_error_afterId :
    (raw.broken? raw.afterId).map (·.error file raw) =
      (if (Schema.find? raw.tag).isSome && raw.src?.isNone then some (.ofFault file raw (.missing "src"))
        else none).or
      ((raw.missingSlot? (Schema.find? raw.tag)).map (.ofFault file raw <| .missing ·)) := by
  unfold RawNode.afterId
  cases Schema.find? raw.tag with
  | none =>
    unfold RawNode.missingSlot?
    cases raw.legacy <;> rfl
  | some schema =>
    have hslots := congrArg (Option.map (BuildError.ofFault file raw)) (raw.map_missingSlot? schema)
    rw [Option.map_map, Option.map_map] at hslots
    rw [RawNode.broken?_cons]
    cases hsrc : raw.src? with
    | none => simp [Condition.holds, Condition.error, Condition.fault, hsrc]
    | some src =>
      simp only [Condition.holds, hsrc, Option.isSome_some, if_true, Option.isNone_some, Bool.and_false,
        Bool.false_eq_true, if_false, Option.none_or]
      exact hslots.symm

/-- A step fails with the first of five errors. -/
theorem error?_step_eq : error? (step file progress visit).1 =
    ((error? (visit.raw.kind (Schema.find? visit.raw.tag))).map (.ofFault file visit.raw)).or
      (((error? (takeId progress.registry visit.raw (Schema.find? visit.raw.tag).isSome).1).map
        (.ofFault file visit.raw)).or
      ((((takeId progress.registry visit.raw (Schema.find? visit.raw.tag).isSome).1.toOption.filter
        progress.registry.contains).map fun id ↦ .duplicateId file id visit.raw.tag).or
      ((if (Schema.find? visit.raw.tag).isSome && visit.raw.src?.isNone then
        some (.ofFault file visit.raw (.missing "src")) else none).or
      ((visit.raw.missingSlot? (Schema.find? visit.raw.tag)).map (.ofFault file visit.raw <| .missing ·))))) := by
  have hseen := seen_takeId progress.registry visit.raw (Schema.find? visit.raw.tag).isSome
  unfold step
  simp only
  cases visit.raw.kind (Schema.find? visit.raw.tag) with
  | error e => rfl
  | ok kind =>
    cases htake : takeId progress.registry visit.raw (Schema.find? visit.raw.tag).isSome with
    | mk result registry =>
      rw [htake] at hseen
      cases result with
      | error e => rfl
      | ok id =>
        have hcontains : registry.contains id = progress.registry.contains id := by
          rw [Registry.contains, hseen, Registry.contains]
        cases hused : progress.registry.contains id with
        | true => simp [hcontains, hused, Except.toOption, Option.filter_some]
        | false =>
          simp only [hcontains, hused, Except.toOption, Option.filter_some]
          cases Schema.find? visit.raw.tag <;> cases visit.raw.src? <;> cases visit.raw.missingSlot? _ <;> simp

/-- A step fails exactly with the error that the conditions give. -/
theorem error?_step : error? (step file progress visit).1 =
    refusal? file progress.registry.contains progress.registry.lastSynthetic visit.raw := by
  rw [error?_step_eq, refusal?, map_error_beforeId progress.registry, map_error_afterId, toOption_takeId, Option.or_assoc]

theorem exists_step_eq_ok_iff : (∃ progress', step file progress visit = (.ok (), progress')) ↔
    refusal? file progress.registry.contains progress.registry.lastSynthetic visit.raw = none := by
  rw [← error?_step]
  cases step file progress visit with
  | mk result progress' => cases result <;> simp

theorem step_eq_error_iff {e : BuildError} : (∃ progress', step file progress visit = (.error e, progress')) ↔
    refusal? file progress.registry.contains progress.registry.lastSynthetic visit.raw = some e := by
  rw [← error?_step]
  cases step file progress visit with
  | mk result progress' => cases result <;> simp

/-- A node is refused exactly if it does not meet its conditions or its id is in use. -/
theorem refusal?_eq_none_iff {used : Int → Bool} {last : Int} :
    refusal? file used last raw = none ↔ raw.Meets ∧ ∀ id, raw.idAfter? last = some id → used id = false := by
  unfold refusal? RawNode.Meets
  rw [Option.or_eq_none_iff, Option.or_eq_none_iff, Option.map_eq_none_iff, Option.map_eq_none_iff,
    Option.map_eq_none_iff, RawNode.broken?_eq_none_iff, RawNode.broken?_eq_none_iff, List.forall_mem_append,
    Option.filter_eq_none_iff]
  simp only [Bool.not_eq_true]
  tauto

end

/-- A node is accepted exactly if it meets its conditions and its id is new. -/
theorem exists_lowers_iff (registry : Registry) (raw : RawNode) : (∃ node, Lowers registry raw node) ↔
    raw.Meets ∧ ∀ id, raw.idAfter? registry.lastSynthetic = some id → registry.contains id = false := by
  let progress : Progress := ⟨{ fileIndex := 0, path := ⟨""⟩ }, registry⟩
  have hstep : (∃ progress', step ⟨""⟩ progress ⟨raw, none, none⟩ = (.ok (), progress')) ↔ _ :=
    exists_step_eq_ok_iff.trans refusal?_eq_none_iff
  rw [← hstep]
  constructor
  · rintro ⟨node, hlowers⟩
    exact ⟨_, step_of_lowers hlowers⟩
  · rintro ⟨progress', h⟩
    obtain ⟨node, hlowers, -⟩ := exists_lowers_of_step h
    exact ⟨node, hlowers⟩

theorem exists_lower?_iff (last : Int) (raw : RawNode) : (∃ node, lower? last raw = some node) ↔ raw.Meets := by
  constructor
  · rintro ⟨node, hlower⟩
    exact ((exists_lowers_iff _ raw).mp ⟨node, lowers_of_lower? hlower⟩).1
  · intro hmeets
    obtain ⟨node, hlowers⟩ := (exists_lowers_iff { lastSynthetic := last } raw).mpr
      ⟨hmeets, fun _ _ ↦ Std.HashSet.contains_empty⟩
    exact ⟨node, (lowers_iff.mp hlowers).1⟩

theorem idAfter?_of_lower? {last : Int} {raw : RawNode} {node : Node} (h : lower? last raw = some node) :
    raw.idAfter? last = some node.id := by
  have hid := (lowers_of_lower? h).id
  have htake := toOption_takeId { lastSynthetic := last } raw
  rw [hid] at htake
  exact htake.symm

theorem exists_lowerAll?_iff (raws : List RawNode) : ∀ last : Int,
    (∃ nodes, lowerAll? last raws = some nodes) ↔ ∀ raw ∈ raws, raw.Meets := by
  induction raws with
  | nil =>
    intro last
    simp [lowerAll?]
  | cons raw rest ih =>
    intro last
    rw [List.forall_mem_cons, ← exists_lower?_iff last raw, ← ih (numberAfter last raw)]
    simp only [lowerAll?_cons_eq_some_iff]
    constructor
    · rintro ⟨nodes, node, later, hnode, hlater, -⟩
      exact ⟨⟨node, hnode⟩, later, hlater⟩
    · rintro ⟨⟨node, hnode⟩, later, hlater⟩
      exact ⟨node :: later, node, later, hnode, hlater, rfl⟩

theorem map_id_of_lowerAll? {raws : List RawNode} : ∀ {last : Int} {nodes : List Node},
    lowerAll? last raws = some nodes → nodes.map Node.id = idsFrom last raws := by
  induction raws with
  | nil =>
    intro last nodes h
    cases h
    rfl
  | cons raw rest ih =>
    intro last nodes h
    obtain ⟨node, later, hnode, hlater, rfl⟩ := lowerAll?_cons_eq_some_iff.mp h
    rw [List.map_cons, ih hlater, idsFrom, idAfter?_of_lower? hnode]
    rfl

section

variable {file : Path} {source : SourceTree} {registry : Registry} {progress progress' : Progress}

theorem exists_steps_iff_passes (visits : List RawTree.Visit) :
    (∃ progress', steps file progress visits = (.ok (), progress')) ↔
      Passes progress.registry (visits.map (·.raw)) := by
  rw [exists_steps_eq_ok_iff]
  constructor
  · rintro ⟨nodes, hnodes, hnodup, hnew⟩
    have hids := map_id_of_lowerAll? hnodes
    refine ⟨(exists_lowerAll?_iff _ _).mp ⟨nodes, hnodes⟩, hids ▸ hnodup, ?_⟩
    rw [← hids, List.forall_mem_map]
    exact hnew
  · rintro ⟨hmeets, hnodup, hnew⟩
    obtain ⟨nodes, hnodes⟩ := (exists_lowerAll?_iff _ _).mpr hmeets
    rw [← map_id_of_lowerAll? hnodes] at hnodup hnew
    exact ⟨nodes, hnodes, hnodup, List.forall_mem_map.mp hnew⟩

/-- After the first nodes of a file, the ids in use are those before and those of the nodes. -/
theorem contains_of_steps {visits : List RawTree.Visit}
    (h : steps file (start source registry) visits = (.ok (), progress)) (id : Int) :
    progress.registry.contains id =
      (registry.contains id || (idsFrom registry.lastSynthetic (visits.map (·.raw))).contains id) := by
  obtain ⟨nodes, harena, hnodes, -⟩ := exists_nodes_steps visits h
  have hids : progress.arena.ids = idsFrom registry.lastSynthetic (visits.map (·.raw)) :=
    calc progress.arena.ids
        = (progress.arena.nodes.toList.map Node.bare).map Node.id := by rw [List.map_map]; rfl
      _ = nodes.map Node.id := by rw [harena]; rfl
      _ = idsFrom registry.lastSynthetic (visits.map (·.raw)) := map_id_of_lowerAll? hnodes
  have hcontains := ((tracks_start source registry).steps visits h).contains_iff id
  rw [hids] at hcontains
  rw [Bool.eq_iff_iff, hcontains, Bool.or_eq_true, List.contains_iff_mem]

/-- A list of steps fails with the error of the first that fails. -/
theorem exists_of_steps_eq_error {e : BuildError} (visits : List RawTree.Visit) : ∀ {progress : Progress},
    steps file progress visits = (.error e, progress') →
      ∃ before visit after middle, visits = before ++ visit :: after ∧
        steps file progress before = (.ok (), middle) ∧ step file middle visit = (.error e, progress') := by
  induction visits with
  | nil =>
    intro progress h
    cases h
  | cons visit rest ih =>
    intro progress h
    rw [steps] at h
    split at h
    · rename_i e' middle hstep
      cases h
      exact ⟨[], visit, rest, progress, rfl, rfl, hstep⟩
    · rename_i middle hstep
      obtain ⟨before, visit', after, later, rfl, hbefore, hfails⟩ := ih h
      exact ⟨visit :: before, visit', after, later, rfl, steps_cons_eq_ok_iff.mpr ⟨middle, hstep, hbefore⟩, hfails⟩

/-! ## Files -/

/-- The value at the root is a node that stands for a source file. -/
def SourceTree.IsSourceUnit (source : SourceTree) : Prop :=
  ∃ raw, RawNode.ofJson? source.ast = some raw ∧ raw.tag = "SourceUnit"

/-- An id is in use once some nodes of a file are built. -/
def Registry.usedAfter (registry : Registry) (raws : List RawNode) (id : Int) : Bool :=
  registry.contains id || (idsFrom registry.lastSynthetic raws).contains id

theorem isSourceUnit_iff :
    source.IsSourceUnit ↔ ∃ tree, RawTree.ofJson? source.ast = some tree ∧ tree.raw.tag = "SourceUnit" := by
  unfold SourceTree.IsSourceUnit
  rw [ofJson?_eq]
  cases RawNode.ofJson? source.ast with
  | none => simp
  | some raw => simp [treeOf, RawTree.raw]

theorem buildFile_of_not_isSourceUnit (h : ¬source.IsSourceUnit) (registry : Registry) :
    buildFile source registry = (.error (.invalidRoot source.path (rootName source.ast)), registry) := by
  have hnone : ((RawTree.ofJson? source.ast).filter fun tree ↦ tree.raw.tag == "SourceUnit") = none := by
    rw [Option.filter_eq_none_iff]
    intro tree htree htag
    exact h (isSourceUnit_iff.mpr ⟨tree, htree, beq_iff_eq.mp htag⟩)
  rw [buildFile, hnone]

theorem exists_steps_of_buildFile_error {tree : RawTree} {e : BuildError}
    (htree : RawTree.ofJson? source.ast = some tree) (htag : tree.raw.tag = "SourceUnit")
    (h : (buildFile source registry).1 = .error e) :
    ∃ progress, steps source.path (start source registry) tree.preorder = (.error e, progress) := by
  have hroot : (tree.raw.tag == "SourceUnit") = true := beq_iff_eq.mpr htag
  rw [buildFile, htree, Option.filter_some, if_pos hroot] at h
  simp only at h
  rw [← start] at h
  split at h
  · cases h
  · rename_i e' progress hsteps
    cases h
    exact ⟨progress, hsteps⟩

theorem exists_arena_iff_passes :
    (∃ arena, (buildFile source registry).1 = .ok arena) ↔
      source.IsSourceUnit ∧ Passes registry (rawNodes source) := by
  constructor
  · rintro ⟨arena, h⟩
    obtain ⟨tree, progress, htree, htag, hsteps, -, -⟩ := buildFile_eq_ok_iff.mp (Prod.ext h rfl)
    have hpasses := (exists_steps_iff_passes tree.preorder).mp ⟨progress, hsteps⟩
    rw [rawNodes_eq_preorder htree]
    exact ⟨isSourceUnit_iff.mpr ⟨tree, htree, htag⟩, hpasses⟩
  · rintro ⟨hunit, hpasses⟩
    obtain ⟨tree, htree, htag⟩ := isSourceUnit_iff.mp hunit
    rw [rawNodes_eq_preorder htree] at hpasses
    obtain ⟨progress, hsteps⟩ : ∃ progress,
        steps source.path (start source registry) tree.preorder = (.ok (), progress) :=
      (exists_steps_iff_passes tree.preorder).mpr hpasses
    have hbuild := buildFile_eq_ok_iff.mpr ⟨tree, progress, htree, htag, hsteps, rfl, rfl⟩
    exact ⟨_, congrArg Prod.fst hbuild⟩

/-- After the first nodes of a file, a node is refused by the ids and the numbers that these nodes have. -/
theorem step_eq_error_iff_after {before : List RawTree.Visit} {visit : RawTree.Visit} {e : BuildError}
    (hbefore : steps file (start source registry) before = (.ok (), progress)) :
    (∃ progress', step file progress visit = (.error e, progress')) ↔
      refusal? file (registry.usedAfter (before.map (·.raw)))
        ((before.map (·.raw)).foldl numberAfter registry.lastSynthetic) visit.raw = some e := by
  have hused : progress.registry.contains = registry.usedAfter (before.map (·.raw)) := by
    funext id
    exact contains_of_steps hbefore id
  have hlast : progress.registry.lastSynthetic = (before.map (·.raw)).foldl numberAfter registry.lastSynthetic :=
    lastSynthetic_of_steps before hbefore
  rw [step_eq_error_iff, hused, hlast]

/-- A source unit fails with the error of its first node that is refused. -/
theorem buildFile_error_iff_of_isSourceUnit (hunit : source.IsSourceUnit) {e : BuildError} :
    (buildFile source registry).1 = .error e ↔
      ∃ before raw after, rawNodes source = before ++ raw :: after ∧ Passes registry before ∧
        refusal? source.path (registry.usedAfter before) (before.foldl numberAfter registry.lastSynthetic) raw =
          some e := by
  obtain ⟨tree, htree, htag⟩ := isSourceUnit_iff.mp hunit
  rw [rawNodes_eq_preorder htree]
  constructor
  · intro h
    obtain ⟨progress, hsteps⟩ := exists_steps_of_buildFile_error htree htag h
    obtain ⟨before, visit, after, middle, hvisits, hbefore, hfails⟩ := exists_of_steps_eq_error _ hsteps
    refine ⟨before.map (·.raw), visit.raw, after.map (·.raw), by rw [hvisits, List.map_append, List.map_cons], ?_, ?_⟩
    · exact (exists_steps_iff_passes before).mp ⟨middle, hbefore⟩
    · exact (step_eq_error_iff_after hbefore).mp ⟨progress, hfails⟩
  · rintro ⟨first, raw, last, hsplit, hpasses, hfails⟩
    obtain ⟨before, others, hvisits, rfl, hothers⟩ := List.map_eq_append_iff.mp hsplit
    obtain ⟨visit, after, rfl, rfl, rfl⟩ := List.map_eq_cons_iff.mp hothers
    obtain ⟨middle, hbefore⟩ : ∃ middle, steps source.path (start source registry) before = (.ok (), middle) :=
      (exists_steps_iff_passes before).mpr hpasses
    obtain ⟨progress', hstep⟩ := (step_eq_error_iff_after hbefore).mpr hfails
    exact congrArg Prod.fst (buildFile_eq_error_of_step htree htag hvisits hbefore hstep)

end

/-- A file is built exactly if its root is a source unit, every node of its raw tree meets its conditions, and the ids
of the nodes are distinct and new. Otherwise it fails for its root, or with the error of the first node in pre-order that
does not meet its conditions or has an id in use. -/
theorem buildFile_reports_first_refusal (source : SourceTree) (registry : Registry) :
    ((∃ arena, (buildFile source registry).1 = .ok arena) ↔
      source.IsSourceUnit ∧ Passes registry (rawNodes source)) ∧
    ∀ e, (buildFile source registry).1 = .error e ↔
      ¬source.IsSourceUnit ∧ e = .invalidRoot source.path (rootName source.ast) ∨
      source.IsSourceUnit ∧ ∃ before raw after, rawNodes source = before ++ raw :: after ∧ Passes registry before ∧
        refusal? source.path (registry.usedAfter before) (before.foldl numberAfter registry.lastSynthetic) raw =
          some e := by
  refine ⟨exists_arena_iff_passes, ?_⟩
  intro e
  by_cases hunit : source.IsSourceUnit
  · rw [buildFile_error_iff_of_isSourceUnit hunit]
    simp [hunit]
  · rw [buildFile_of_not_isSourceUnit hunit]
    simp [hunit, eq_comm]

-- The name is looked at before the range, which is missing as well.
example : refusal? ⟨"/p/A.sol"⟩ (fun _ ↦ false) 0 ⟨"Identifier", [("id", .int 7)], false, none⟩ =
    some (.missingField ⟨"/p/A.sol"⟩ (some 7) "Identifier" "name") := by
  rfl

end SolAudit.Build
