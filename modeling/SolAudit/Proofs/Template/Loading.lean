import Mathlib.Data.List.Nodup
import SolAudit.Proofs.Outcome
import SolAudit.Template.Load

/-!
# Loaded templates

Whatever the sources are, a load adds one checked template after the other, each under a new name. What holds of
no templates and is kept by such an addition therefore holds of every loaded set (`load_induction`); in
particular no two templates of a set share a name.
-/

namespace SolAudit.Template

open Outcome

/-- What is kept by adding a checked template under a new name. -/
def KeptByAdding (P : List Template → Prop) : Prop :=
  ∀ (loaded : List Template) (raw : RawTemplate) (file : String) (template : Template),
    P loaded → raw.check file = .ok template → (∀ t ∈ loaded, t.name ≠ template.name) →
      P (loaded ++ [template])

theorem addTemplates_induction {P : List Template → Prop} (hkept : KeptByAdding P) (file : String)
    (raws : List RawTemplate) : ∀ {loaded result : List Template} {position : Nat}, P loaded →
      addTemplates file loaded position raws = .ok result → P result := by
  induction raws with
  | nil =>
    intro loaded result position hloaded h
    cases h
    exact hloaded
  | cons raw rest ih =>
    intro loaded result position hloaded h
    rw [addTemplates] at h
    obtain ⟨template, hcheck, h⟩ := bind_eq_ok.mp h
    by_cases hused : loaded.any fun t ↦ t.name == template.name
    · simp only [hused, if_true] at h
      cases h
    · simp only [hused] at h
      have hnew : ∀ t ∈ loaded, t.name ≠ template.name := by simpa using hused
      exact ih (hkept loaded raw file template hloaded (mapError_eq_ok.mp hcheck) hnew) h

theorem addFile_induction {P : List Template → Prop} (hkept : KeptByAdding P) {disk : Disk} {dir : Path}
    {loaded result : List Template} {file : Path × FileFormat} (hloaded : P loaded)
    (h : addFile disk dir loaded file = .ok result) : P result := by
  obtain ⟨content, -, h⟩ := bind_eq_ok.mp h
  obtain ⟨raws, -, h⟩ := bind_eq_ok.mp h
  exact addTemplates_induction hkept _ raws hloaded h

theorem addSource_induction {P : List Template → Prop} (hkept : KeptByAdding P) {disk : Disk}
    {loaded result : List Template} {source : Source} (hloaded : P loaded)
    (h : addSource disk loaded source = .ok result) : P result := by
  cases source with
  | bundled =>
    rw [addSource] at h
    generalize Bundled.documents = documents at h
    refine foldlM_induction documents ?_ hloaded h
    intro loaded document result hloaded h
    exact addTemplates_induction hkept document.1 document.2 hloaded h
  | dir dir =>
    obtain ⟨files, -, h⟩ := bind_eq_ok.mp h
    refine foldlM_induction files ?_ hloaded h
    intro loaded file result hloaded h
    exact addFile_induction hkept hloaded h

/-- A loaded set is the set of a list of templates that came about by adding checked templates. -/
theorem load_induction {P : List Template → Prop} (hnil : P []) (hkept : KeptByAdding P) {disk : Disk}
    {sources : List Source} {set : TemplateSet} (h : load disk sources = .ok set) :
    set = TemplateSet.ofTemplates set.templates ∧ P set.templates := by
  obtain ⟨templates, hfold, h⟩ := bind_eq_ok.mp h
  have hset : set = TemplateSet.ofTemplates templates := by
    cases h
    rfl
  have hP : P templates := by
    refine foldlM_induction sources ?_ hnil hfold
    intro loaded source result hloaded h
    exact addSource_induction hkept hloaded h
  subst hset
  exact ⟨rfl, hP⟩

theorem load_eq_ofTemplates {disk : Disk} {sources : List Source} {set : TemplateSet}
    (h : load disk sources = .ok set) : set = TemplateSet.ofTemplates set.templates :=
  (load_induction (P := fun _ ↦ True) trivial (fun _ _ _ _ _ _ _ ↦ trivial) h).1

theorem nodup_names_of_load {disk : Disk} {sources : List Source} {set : TemplateSet}
    (h : load disk sources = .ok set) : (set.templates.map Template.name).Nodup := by
  refine (load_induction (P := fun templates ↦ (templates.map Template.name).Nodup) List.nodup_nil ?_ h).2
  intro loaded raw file template hloaded _ hnew
  rw [List.map_append, List.map_singleton, ← List.concat_eq_append]
  apply hloaded.concat
  rintro hmem
  obtain ⟨t, ht, hname⟩ := List.mem_map.mp hmem
  exact hnew t ht hname

end SolAudit.Template
