import SolAudit.Proofs.Disk
import SolAudit.Proofs.Template.Bundled
import SolAudit.Proofs.Template.Dispatch
import SolAudit.Proofs.Template.Grammar
import SolAudit.Proofs.Template.Loading
import SolAudit.Proofs.Text.Blank

/-!
# What the checks of a load establish

A template that joins a set has passed the check of its parts, and its predicates have been compiled. What is compiled is
never an empty list and is made of what is compiled, so there is no empty list at any depth (`Compiles.inside`). Together
with the names, which are new when a template is added, and the table of kinds, this is what every user of a loaded set
may rely on.
-/

namespace SolAudit.Template

open Outcome

namespace Predicate

/-- The predicates that a predicate is made of. -/
def parts : Predicate → List Predicate
  | .field .. => []
  | .slot .. => []
  | .child pattern => pattern.predicates
  | .descendant pattern => pattern.predicates
  | .ancestor pattern => pattern.predicates
  | .all list => list
  | .any list => list
  | .not inner => [inner]

/-- A predicate stands in another at some depth, or is that one. -/
inductive Inside : Predicate → Predicate → Prop
  | self (p : Predicate) : Inside p p
  | part {p q r : Predicate} (hpart : q ∈ r.parts) (hinside : Inside p q) : Inside p r

end Predicate

/-- A predicate that comes from one that is written. -/
def Compiles (p : Predicate) : Prop := ∃ raw, RawPredicate.compile raw = .ok p

namespace RawPredicate

theorem compiles_of_compileAll {raws : List RawPredicate} {list : List Predicate}
    (h : compileAll raws = .ok list) : ∀ p ∈ list, Compiles p := by
  intro p hp
  rw [compileAll_eq_mapM] at h
  obtain ⟨raw, -, hraw⟩ := (mem_mapM_iff h).mp hp
  exact ⟨raw, hraw⟩

theorem ne_nil_of_compileAll {raws : List RawPredicate} {list : List Predicate} (h : compileAll raws = .ok list)
    (hne : raws ≠ []) : list ≠ [] := by
  obtain ⟨raw, rest, rfl⟩ := List.exists_cons_of_ne_nil hne
  rw [compileAll_eq_mapM, mapM_cons_eq_ok] at h
  obtain ⟨first, later, -, -, rfl⟩ := h
  exact List.cons_ne_nil first later

end RawPredicate

/-- What is compiled is no empty list, and is made of what is compiled. -/
theorem Compiles.inv {p : Predicate} (h : Compiles p) :
    (p ≠ .all [] ∧ p ≠ .any []) ∧ ∀ q ∈ p.parts, Compiles q := by
  obtain ⟨raw, h⟩ := h
  rw [RawPredicate.compile_eq_ok_iff] at h
  cases h with
  | equals | oneOf | found | given | slot => simp [Predicate.parts]
  | child hpattern | descendant hpattern | ancestor hpattern =>
    have hlist := (RawPredicate.compilePattern_eq_ok_iff.mp hpattern).2.2
    exact ⟨by simp, RawPredicate.compiles_of_compileAll hlist⟩
  | all hne hlist | any hne hlist =>
    refine ⟨?_, RawPredicate.compiles_of_compileAll hlist⟩
    simpa using RawPredicate.ne_nil_of_compileAll hlist hne
  | not hinner => simpa [Predicate.parts] using ⟨_, hinner⟩

/-- No list inside what is compiled is empty, at whatever depth it stands. -/
theorem Compiles.inside {p r : Predicate} (hr : Compiles r) (hinside : p.Inside r) : p ≠ .all [] ∧ p ≠ .any [] := by
  induction hinside with
  | self => exact hr.inv.1
  | part hpart _ ih => exact ih (hr.inv.2 _ hpart)

/-! ## Templates -/

/-- What a template that passes the check has from the one that is written, and what was checked of it. -/
structure Checked (raw : RawTemplate) (file : String) (template : Template) : Prop where
  name : notBlank? raw.name = some template.name
  description : notBlank? raw.description = some template.description
  references : template.references = raw.references ∧ allBlank raw.references = false
  actionItems : template.actionItems = raw.actionItems ∧ allBlank raw.actionItems = false
  spec : ∃ spec, raw.spec = some spec ∧ RawMatch.compile spec = .ok template.spec
  sourceFile : template.sourceFile = file

theorem checked_of_check {raw : RawTemplate} {file : String} {template : Template}
    (h : raw.check file = .ok template) : Checked raw file template := by
  rw [RawTemplate.check] at h
  split at h
  case h_2 => cases h
  case h_1 name hname =>
  split at h
  case h_2 => cases h
  case h_1 description hdescription =>
  split at h
  case h_2 => cases h
  case h_1 text htext =>
  obtain ⟨severity, -, h⟩ := bind_eq_ok.mp h
  dsimp only at h
  split at h
  case isTrue => cases h
  case isFalse hreferences =>
  split at h
  case isTrue => cases h
  case isFalse hitems =>
  split at h
  case h_2 => cases h
  case h_1 spec hspec =>
  obtain ⟨compiled, hcompile, h⟩ := bind_eq_ok.mp h
  cases h
  exact ⟨hname, hdescription, ⟨rfl, Bool.eq_false_iff.mpr hreferences⟩, ⟨rfl, Bool.eq_false_iff.mpr hitems⟩,
    ⟨spec, hspec, mapError_eq_ok.mp hcompile⟩, rfl⟩

/-- A template with all that a user of it may rely on. -/
structure Complete (template : Template) : Prop where
  name : Text.NotBlank template.name
  description : Text.NotBlank template.description
  references : ∃ text ∈ template.references, Text.NotBlank text
  actionItems : ∃ text ∈ template.actionItems, Text.NotBlank text
  kinds : template.spec.kinds ≠ []
  lists : ∀ r ∈ template.spec.predicates, ∀ p : Predicate, p.Inside r → p ≠ .all [] ∧ p ≠ .any []

theorem notBlank_of_notBlank? {raw : Option String} {text : String} (h : notBlank? raw = some text) :
    Text.NotBlank text := by
  rw [← Text.isBlankText_eq_false_iff]
  simpa using (Option.filter_eq_some_iff.mp h).2

theorem exists_of_allBlank {texts : List String} (h : allBlank texts = false) :
    ∃ text ∈ texts, Text.NotBlank text := by
  simp only [← Text.isBlankText_eq_false_iff]
  simpa [allBlank] using h

theorem Checked.complete {raw : RawTemplate} {file : String} {template : Template}
    (h : Checked raw file template) : Complete template := by
  obtain ⟨spec, -, hcompile⟩ := h.spec
  obtain ⟨hne, hkinds, hlist⟩ := RawMatch.compile_eq_ok_iff.mp hcompile
  exact {
    name := notBlank_of_notBlank? h.name
    description := notBlank_of_notBlank? h.description
    references := h.references.1 ▸ exists_of_allBlank h.references.2
    actionItems := h.actionItems.1 ▸ exists_of_allBlank h.actionItems.2
    kinds := hkinds ▸ hne
    lists := fun r hr p hinside ↦ (RawPredicate.compiles_of_compileAll hlist r hr).inside hinside }

theorem complete_of_load {disk : Disk} {sources : List Source} {set : TemplateSet}
    (h : load disk sources = .ok set) : ∀ template ∈ set.templates, Complete template := by
  refine (load_induction (P := fun templates ↦ ∀ template ∈ templates, Complete template) (by simp) ?_ h).2
  intro loaded raw file template hloaded hcheck _
  rw [List.forall_mem_append]
  exact ⟨hloaded, by simpa using (checked_of_check hcheck).complete⟩

/-- In a loaded set no two templates share a name, every template is complete, and the table holds under every kind the
positions of exactly the templates that list it, in ascending order. -/
theorem loaded_templates_are_complete {disk : Disk} {sources : List Source} {set : TemplateSet}
    (h : load disk sources = .ok set) :
    (set.templates.map Template.name).Nodup ∧ (∀ template ∈ set.templates, Complete template) ∧
    ∀ kind, (set.positionsFor kind).Pairwise (· < ·) ∧
      ∀ position, position ∈ set.positionsFor kind ↔
        ∃ template, set.get? position = some template ∧ kind ∈ template.spec.kinds := by
  refine ⟨nodup_names_of_load h, complete_of_load h, ?_⟩
  intro kind
  rw [load_eq_ofTemplates h]
  exact ⟨TemplateSet.pairwise_positionsFor _ kind, fun position ↦ TemplateSet.mem_positionsFor⟩

/-- A document with a template that lists a kind twice and has a blank action item before a proper one. -/
def loopsDocument : String :=
  "\x7b\"templates\": [\x7b\"name\": \"loops\", \"description\": \"d\", \"severity\": \"Low\",
    \"references\": [\"r\"], \"action_items\": [\" \", \"a\"],
    \"match\": \x7b\"kinds\": [\"ForStatement\", \"Block\", \"ForStatement\"],
      \"where\": [\x7b\"not\": \x7b\"any\": [\x7b\"slot\": \"condition\"\x7d]\x7d\x7d]\x7d\x7d]\x7d"

def loopsKinds : List String := ["ForStatement", "Block", "ForStatement"]

/-- The directory t holds one template file. -/
abbrev HoldsFile (disk : Disk) (content : String) : Prop :=
  disk.Holds ⟨"/t"⟩ ["t"] (.dir [("a.json", .file content.toUTF8)])

section

variable {disk : Disk} {content : String} (hdir : HoldsFile disk content)
include hdir

theorem holds_of_holdsFile : disk.Holds ⟨"/t/a.json"⟩ ["t", "a.json"] (.file content.toUTF8) where
  absolute := by with_unfolding_all rfl
  steps := by with_unfolding_all rfl
  plain := by decide
  at? := Entry.at?_concat hdir.at? "a.json"
  noLink _ := Entry.noConfusion

theorem templateFiles_of_holdsFile : templateFiles disk ⟨"/t"⟩ = .ok [(⟨"/t/a.json"⟩, .json)] := by
  have hjoin : (Path.mk "/t").join ⟨"a.json"⟩ = ⟨"/t/a.json"⟩ := by with_unfolding_all rfl
  have hname : isVersionControl ⟨"/t"⟩ = false ∧ isVersionControl ⟨"/t/a.json"⟩ = false := by
    constructor <;> with_unfolding_all rfl
  have hother : (Path.mk "/t/a.json").same ⟨"/t"⟩ = false := by with_unfolding_all rfl
  have hformat : FileFormat.ofPath? ⟨"/t/a.json"⟩ = some .json := by with_unfolding_all rfl
  have hfiles : Walk.filesBelow disk ⟨"/t"⟩ isVersionControl = .ok [⟨"/t/a.json"⟩] := by
    simp only [Walk.filesBelow, Walk.visit, Disk.linkEntry, hdir.entryAt, Walk.visitQueue, Walk.children, Walk.byName,
      List.mergeSort_singleton, List.map_cons, List.map_nil, List.nil_append, List.any_nil, List.any_cons, hjoin, hname,
      hother, Bool.or_self, Bool.false_eq_true, if_false, bind_pure_comp, id_map', StateT.run_modify, map_pure]
    rfl
  simp [templateFiles, Disk.isDir, Disk.entry, hdir.entryAt, hfiles, hformat, bind, Except.bind, pure, Except.pure]

/-- What the file holds is left open, so that finding it does not depend on how long it is. -/
theorem load_of_holdsFile : load disk [.dir ⟨"/t"⟩] = do
    let raws ← readDocument .json "a.json" content
    return .ofTemplates (← addTemplates "a.json" [] 0 raws) := by
  have hlabel : (Path.mk "/t/a.json").below ⟨"/t"⟩ = "a.json" := by with_unfolding_all rfl
  simp only [load, addSource, templateFiles_of_holdsFile hdir, addFile, (holds_of_holdsFile hdir).readText, hlabel,
    List.foldlM_cons, List.foldlM_nil, mapError_ok, bind, Except.bind, pure, Except.pure]
  cases readDocument .json "a.json" content with
  | error e => rfl
  | ok raws =>
    dsimp only
    cases addTemplates "a.json" [] 0 raws <;> rfl

/-- A document with one complete template is loaded as that template. -/
theorem exists_load_of_holdsFile (name : String) (test : RawMatch → Bool)
    (hread : ((readDocument .json "a.json" content).toOption.any fun raws ↦ raws.length == 1 &&
      raws.all fun raw ↦ raw.isComplete && (raw.name == some name && raw.spec.any test)) = true) :
    ∃ set, load disk [.dir ⟨"/t"⟩] = .ok set ∧
      ∃ template, set.templates = [template] ∧ template.name = name ∧ template.sourceFile = "a.json" ∧
        ∃ spec, test spec = true ∧ RawMatch.compile spec = .ok template.spec := by
  obtain ⟨raws, hraws, hread⟩ := (Option.any_eq_true _ _).mp hread
  obtain ⟨hlength, hread⟩ : raws.length = 1 ∧ _ := by simpa using hread
  obtain ⟨raw, rfl⟩ := List.length_eq_one_iff.mp hlength
  obtain ⟨hcomplete, hname, spec, hspec, htest⟩ : raw.isComplete = true ∧ raw.name = some name ∧
      ∃ spec, raw.spec = some spec ∧ test spec = true := by
    simpa [Option.any_eq_true] using hread
  obtain ⟨template, hcheck, hchecks⟩ := exists_check_of_isComplete hcomplete "a.json"
  refine ⟨.ofTemplates [template], ?_, template, rfl, ?_, (checked_of_check hcheck).sourceFile, spec, htest, ?_⟩
  · rw [load_of_holdsFile hdir, toOption_eq_some_iff.mp hraws]
    simp [addTemplates, hcheck, bind, Except.bind, pure, Except.pure]
  · exact Option.some.inj (hchecks.name.symm.trans hname)
  · obtain ⟨written, hwritten, hcompile⟩ := hchecks.spec
    cases hwritten.symm.trans hspec
    exact hcompile

end

set_option maxRecDepth 4000 in
theorem exists_load_loops_of_holdsFile {disk : Disk} (hdir : HoldsFile disk loopsDocument) :
    ∃ set, load disk [.dir ⟨"/t"⟩] = .ok set ∧
      ∃ template, set.templates = [template] ∧ template.name = "loops" ∧ template.sourceFile = "a.json" ∧
        template.spec.kinds = loopsKinds := by
  obtain ⟨set, hload, template, htemplates, hname, hfile, spec, hkinds, hcompile⟩ :=
    exists_load_of_holdsFile hdir "loops" (·.kinds == loopsKinds) (by
      have hchars : loopsDocument.toList = _ := String.toList_ofList
      rw [readDocument, Text.isBlankText, FileFormat.read?, Json.parseRaw, Json.parseWithin, hchars]
      decide)
  refine ⟨set, hload, template, htemplates, hname, hfile, ?_⟩
  rw [(RawMatch.compile_eq_ok_iff.mp hcompile).2.1]
  exact beq_iff_eq.mp hkinds

/-- A disk with one template file. -/
def templateDisk (content : String) : Disk := ⟨.dir [("t", .dir [("a.json", .file content.toUTF8)])], []⟩

theorem holdsFile_templateDisk (content : String) : HoldsFile (templateDisk content) content :=
  ⟨by with_unfolding_all rfl, by with_unfolding_all rfl, by decide, rfl, fun _ ↦ Entry.noConfusion⟩

theorem exists_load_loops : ∃ set, load (templateDisk loopsDocument) [.dir ⟨"/t"⟩] = .ok set ∧
    ∃ template, set.templates = [template] ∧ template.name = "loops" ∧ template.sourceFile = "a.json" ∧
      template.spec.kinds = loopsKinds :=
  exists_load_loops_of_holdsFile (holdsFile_templateDisk loopsDocument)

/-- The kind that the template lists twice leads to it once. -/
theorem loops_found_once : ∃ set, load (templateDisk loopsDocument) [.dir ⟨"/t"⟩] = .ok set ∧
    (∀ template ∈ set.templates, Complete template) ∧ set.positionsFor "ForStatement" = [0] := by
  obtain ⟨set, hload, template, htemplates, -, -, hkinds⟩ := exists_load_loops
  obtain ⟨-, hcomplete, htable⟩ := loaded_templates_are_complete hload
  obtain ⟨hascending, hmem⟩ := htable "ForStatement"
  refine ⟨set, hload, hcomplete, List.perm_singleton.mp ?_⟩
  rw [List.perm_ext_iff_of_nodup (hascending.imp Nat.ne_of_lt) (List.nodup_singleton 0)]
  intro position
  rw [hmem, TemplateSet.get?, htemplates, List.mem_singleton]
  constructor
  · rintro ⟨found, hfound, -⟩
    simpa using (List.getElem?_eq_some_iff.mp hfound).1
  · rintro rfl
    exact ⟨template, rfl, by simp [hkinds, loopsKinds]⟩

end SolAudit.Template
