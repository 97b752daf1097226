import Mathlib.Data.List.Nodup
import SolAudit.Proofs.Outcome
import SolAudit.Template.Load

/-!
# The bundled templates load

On every disk the bundled documents load, each template of them under its own name. The one check of a template
that reads a large table is that of the severity, whose names are looked up in lower case; the table leaves
lower-case letters alone.
-/

namespace SolAudit

namespace Text

/-- What holds of the shifts of a row and of those of the rows after it holds of all. -/
theorem all_ofTable_cons {p : CharShift → Bool} {line : String} {lines : List String} {cs : List Char}
    (hline : line.toList = cs)
    (hrow : ((splitChars ' ' cs).filter fun word ↦ !word.isEmpty).all (fun word ↦ p (.ofWord word)) = true)
    (hrest : (CharShift.ofTable lines).all p = true) : (CharShift.ofTable (line :: lines)).all p = true := by
  subst hline
  rw [CharShift.ofTable, List.flatMap_cons, List.map_append, List.all_append, Bool.and_eq_true]
  refine ⟨?_, hrest⟩
  rwa [List.all_map]

theorem lowerShifts_around_lowerCase :
    lowerShifts.all (fun shift ↦ shift.last < 'a'.toNat || 'z'.toNat < shift.first) = true := by
  rw [lowerShifts]
  repeat
    refine all_ofTable_cons String.toList_ofList ?_ ?_
    · decide +kernel
  rfl

theorem lowerChar_of_lowerCase {c : Char} (ha : 'a' ≤ c) (hz : c ≤ 'z') : lowerChar c = c := by
  have ha' : 'a'.toNat ≤ c.toNat := ha
  have hz' : c.toNat ≤ 'z'.toNat := hz
  have hnone : lowerShifts.find? (fun shift ↦ shift.applies c.toNat) = none := by
    rw [List.find?_eq_none]
    intro shift hshift happlies
    have haround := List.all_eq_true.mp lowerShifts_around_lowerCase shift hshift
    simp only [CharShift.applies, Bool.and_eq_true, Bool.or_eq_true, decide_eq_true_eq] at happlies haround
    omega
  unfold lowerChar
  simp only [hnone]

/-- The first shift of a table stands first in its first row. -/
theorem head?_ofTable_cons {line : String} {lines : List String} {cs : List Char} {shift : CharShift}
    (hline : line.toList = cs)
    (hrow : ((splitChars ' ' cs).filter fun word ↦ !word.isEmpty).head?.map CharShift.ofWord = some shift) :
    (CharShift.ofTable (line :: lines)).head? = some shift := by
  subst hline
  obtain ⟨word, hword, rfl⟩ := Option.map_eq_some_iff.mp hrow
  rw [CharShift.ofTable, List.flatMap_cons, List.head?_map, List.head?_append, CharSet.words, hword]
  rfl

theorem lowerChar_of_upperCase {c : Char} (ha : 'A' ≤ c) (hz : c ≤ 'Z') : lowerChar c = Char.ofNat (c.toNat + 32) := by
  have ha' : 'A'.toNat ≤ c.toNat := ha
  have hz' : c.toNat ≤ 'Z'.toNat := hz
  have hhead : lowerShifts.head? = some ⟨'A'.toNat, 'Z'.toNat, 1, 32⟩ := by
    rw [lowerShifts]
    exact head?_ofTable_cons String.toList_ofList (by decide)
  obtain ⟨rest, hshifts⟩ := List.head?_eq_some_iff.mp hhead
  have hfirst : lowerShifts.find? (fun shift ↦ shift.applies c.toNat) = some ⟨'A'.toNat, 'Z'.toNat, 1, 32⟩ := by
    rw [hshifts, List.find?_cons_of_pos]
    simpa [CharShift.applies, Nat.mod_one] using ⟨ha', hz'⟩
  unfold lowerChar
  simp only [hfirst]
  rfl

end Text

namespace Severity

theorem parse_name (severity : Severity) : parse severity.name = .ok severity := by
  have hlower (c : Char) (ha : 'a' ≤ c) (hz : c ≤ 'z') : Text.lowerChar c = c :=
    Text.lowerChar_of_lowerCase ha hz
  have hL : Text.lowerChar 'L' = 'l' := Text.lowerChar_of_upperCase (by decide) (by decide)
  have hM : Text.lowerChar 'M' = 'm' := Text.lowerChar_of_upperCase (by decide) (by decide)
  have hH : Text.lowerChar 'H' = 'h' := Text.lowerChar_of_upperCase (by decide) (by decide)
  cases severity <;> simp [parse, name, Text.toLower, Text.lowerAfter, hlower, hL, hM, hH]

end Severity

namespace Template

open Outcome

/-- A template with all its parts, a known severity and a match that compiles. -/
def RawTemplate.isComplete (raw : RawTemplate) : Bool :=
  (notBlank? raw.name).isSome && (notBlank? raw.description).isSome &&
    (raw.severity.any fun text ↦ Severity.all.any (·.name == text)) &&
    !allBlank raw.references && !allBlank raw.actionItems &&
    raw.spec.any fun spec ↦ (RawMatch.compile spec).toOption.isSome

/-- What a template has from the one that is written: its name, and the compiled match. -/
structure ChecksTo (raw : RawTemplate) (template : Template) : Prop where
  name : raw.name = some template.name
  spec : ∃ spec, raw.spec = some spec ∧ RawMatch.compile spec = .ok template.spec

theorem exists_check_of_isComplete {raw : RawTemplate} (h : raw.isComplete = true) (file : String) :
    ∃ template, raw.check file = .ok template ∧ ChecksTo raw template := by
  obtain ⟨name, description, severity, references, actionItems, spec⟩ := raw
  simp only [RawTemplate.isComplete, Bool.and_eq_true, Option.isSome_iff_exists, Option.any_eq_true,
    List.any_eq_true, beq_iff_eq, Bool.not_eq_true'] at h
  obtain ⟨⟨⟨⟨⟨⟨name', hname⟩, ⟨description', hdescription⟩⟩, ⟨text, rfl, severity', -, rfl⟩⟩, hreferences⟩,
    hitems⟩, ⟨spec', rfl, compiled, hcompile⟩⟩ := h
  have hcompile : RawMatch.compile spec' = .ok compiled := by
    revert hcompile
    cases RawMatch.compile spec' <;> simp [Except.toOption]
  have hname' : name = some name' := (Option.filter_eq_some_iff.mp hname).1
  refine ⟨⟨name', description', severity', references, actionItems, compiled, file⟩, ?_,
    ⟨hname', spec', rfl, hcompile⟩⟩
  simp [RawTemplate.check, hname, hdescription, Severity.parse_name, hreferences, hitems, hcompile,
    bind, Except.bind, pure, Except.pure]

/-- A text whose first character is not blank is not blank, whatever comes after it. -/
def Starts (text : String) : Prop := ∃ c cs, text.toList = c :: cs ∧ Text.isBlank c = false

theorem Starts.append {text : String} (h : Starts text) (more : String) : Starts (text ++ more) := by
  obtain ⟨c, cs, htext, hc⟩ := h
  exact ⟨c, cs ++ more.toList, by rw [String.toList_append, htext, List.cons_append], hc⟩

theorem Starts.isBlankText {text : String} (h : Starts text) : Text.isBlankText text = false := by
  obtain ⟨c, cs, htext, hc⟩ := h
  rw [Text.isBlankText, htext, List.all_cons, hc, Bool.false_and]

theorem isComplete_of_starts {name description severity reference item : String}
    {references items : List String} {spec : RawMatch} (hname : Starts name)
    (hdescription : Starts description) (hseverity : Severity.all.any (·.name == severity) = true)
    (hreference : Starts reference) (hitem : Starts item)
    (hspec : (RawMatch.compile spec).toOption.isSome = true) :
    (RawTemplate.mk name description severity (reference :: references) (item :: items) spec).isComplete =
      true := by
  simpa [RawTemplate.isComplete, notBlank?, allBlank, hname.isBlankText, hdescription.isBlankText,
    hreference.isBlankText, hitem.isBlankText, hspec] using hseverity

theorem isComplete_bundled : ∀ document ∈ Bundled.documents, ∀ raw ∈ document.2, raw.isComplete = true := by
  simp only [Bundled.documents, List.forall_mem_cons, List.not_mem_nil, false_implies, implies_true, and_true]
  refine ⟨?_, ?_, ?_, ?_, ?_, ?_, ?_, ?_⟩
  all_goals
    exact isComplete_of_starts ⟨_, _, String.toList_ofList, rfl⟩
      (Starts.append ⟨_, _, String.toList_ofList, rfl⟩ _) (by decide) ⟨_, _, String.toList_ofList, rfl⟩
      ⟨_, _, String.toList_ofList, rfl⟩ (by decide +kernel)

/-- The names of loaded templates, as templates that are written have them. -/
def names (templates : List Template) : List (Option String) := templates.map fun template ↦ some template.name

theorem names_eq_of_checksTo {raws : List RawTemplate} {templates : List Template}
    (h : List.Forall₂ ChecksTo raws templates) : raws.map RawTemplate.name = names templates := by
  induction h with
  | nil => rfl
  | cons hfirst _ ih => rw [List.map_cons, ih, hfirst.name, names, names, List.map_cons]

theorem exists_checksTo_of_mem {raws : List RawTemplate} {templates : List Template}
    (h : List.Forall₂ ChecksTo raws templates) {raw : RawTemplate} (hraw : raw ∈ raws) :
    ∃ template ∈ templates, ChecksTo raw template := by
  induction h with
  | nil => cases hraw
  | cons hfirst _ ih =>
    rcases List.mem_cons.mp hraw with rfl | hraw
    · exact ⟨_, List.mem_cons_self, hfirst⟩
    · obtain ⟨template, htemplate, hchecks⟩ := ih hraw
      exact ⟨template, List.mem_cons_of_mem _ htemplate, hchecks⟩

theorem exists_addTemplates (file : String) (raws : List RawTemplate)
    (hcomplete : ∀ raw ∈ raws, raw.isComplete = true) : ∀ (loaded : List Template) (position : Nat),
      (names loaded ++ raws.map RawTemplate.name).Nodup →
      ∃ added, addTemplates file loaded position raws = .ok (loaded ++ added) ∧
        List.Forall₂ ChecksTo raws added := by
  induction raws with
  | nil =>
    intro loaded position _
    exact ⟨[], by rw [addTemplates, List.append_nil], .nil⟩
  | cons raw rest ih =>
    intro loaded position hnodup
    obtain ⟨template, hcheck, hfirst⟩ := exists_check_of_isComplete (hcomplete raw List.mem_cons_self) file
    have hnames : names (loaded ++ [template]) ++ rest.map RawTemplate.name =
        names loaded ++ (raw :: rest).map RawTemplate.name := by
      simp [names, hfirst.name]
    obtain ⟨added, hadded, hrest⟩ := ih (fun other hother ↦ hcomplete other (List.mem_cons_of_mem _ hother))
      (loaded ++ [template]) (position + 1) (hnames ▸ hnodup)
    have hnew : (loaded.any fun t ↦ t.name == template.name) = false := by
      rw [List.any_eq_false]
      intro t ht hsame
      have hmem : some template.name ∈ names loaded := by
        rw [← beq_iff_eq.mp hsame]
        exact List.mem_map_of_mem ht
      exact (List.nodup_append.mp hnodup).2.2 _ hmem _ (by simp [hfirst.name]) rfl
    refine ⟨template :: added, ?_, .cons hfirst hrest⟩
    rw [← List.append_cons] at hadded
    simp only [addTemplates, hcheck, mapError_ok, bind, Except.bind, hnew]
    exact hadded

theorem exists_foldlM_addTemplates (documents : List (String × List RawTemplate))
    (hcomplete : ∀ document ∈ documents, ∀ raw ∈ document.2, raw.isComplete = true) :
    ∀ loaded : List Template, (names loaded ++ (documents.flatMap Prod.snd).map RawTemplate.name).Nodup →
      ∃ added, documents.foldlM (fun loaded (label, raws) ↦ addTemplates label loaded 0 raws) loaded =
          .ok (loaded ++ added) ∧
        List.Forall₂ ChecksTo (documents.flatMap Prod.snd) added := by
  induction documents with
  | nil =>
    intro loaded _
    exact ⟨[], by rw [List.foldlM_nil, List.append_nil]; rfl, .nil⟩
  | cons document rest ih =>
    obtain ⟨label, raws⟩ := document
    intro loaded hnodup
    rw [List.flatMap_cons, List.map_append, ← List.append_assoc] at hnodup
    obtain ⟨added, hadded, hfirst⟩ := exists_addTemplates label raws
      (hcomplete (label, raws) List.mem_cons_self) loaded 0 (List.nodup_append.mp hnodup).1
    have hnames : names loaded ++ raws.map RawTemplate.name = names (loaded ++ added) := by
      rw [names_eq_of_checksTo hfirst, names, names, names, List.map_append]
    obtain ⟨later, hlater, hrest⟩ := ih
      (fun other hother ↦ hcomplete other (List.mem_cons_of_mem _ hother)) (loaded ++ added) (hnames ▸ hnodup)
    refine ⟨added ++ later, ?_, ?_⟩
    · rw [← List.append_assoc]
      simp only [List.foldlM_cons, hadded]
      exact hlater
    · rw [List.flatMap_cons]
      exact List.rel_append hfirst hrest

/-- The bundled templates load, one of each written one, whatever is on the disk. -/
theorem exists_load_bundled (disk : Disk) :
    ∃ set, load disk [.bundled] = .ok set ∧
      List.Forall₂ ChecksTo (Bundled.documents.flatMap Prod.snd) set.templates := by
  obtain ⟨templates, htemplates, hchecks⟩ := exists_foldlM_addTemplates Bundled.documents
    isComplete_bundled [] (by decide)
  refine ⟨.ofTemplates templates, ?_, hchecks⟩
  rw [load, List.foldlM_cons, addSource, htemplates]
  rfl

end Template

end SolAudit
