import SolAudit.Proofs.Match.Placement
import SolAudit.Proofs.Template.Offers

/-!
# Adding templates

In a set with more templates, positions shift and the lists of the table mix old templates with new ones, and these
positions are what matches are sorted by and put into buckets by. None of this shows in a run: what a template finds
depends on the template alone, so templates that follow others add their insights after those of the others
(`run_ofTemplates_append`).
-/

namespace SolAudit.Match

open Ast Build Template

theorem insightsOf_append (found : Template → List Finding) (templates more : List Template) :
    insightsOf found (templates ++ more) = insightsOf found templates ++ insightsOf found more :=
  List.filterMap_append

theorem run_ofTemplates_append (arenas : List Arena) (templates more : List Template) (resolver : Source.Resolver) :
    (run arenas (.ofTemplates (templates ++ more)) resolver).1 =
      (run arenas (.ofTemplates templates) resolver).1 ++ (run arenas (.ofTemplates more) resolver).1 := by
  calc
    _ = naiveInsights arenas (templates ++ more) resolver := run_ofTemplates ..
    _ = naiveInsights arenas templates resolver ++ naiveInsights arenas more resolver := by
      simp only [naiveInsights_eq, insightsOf_append]
    _ = _ := by rw [run_ofTemplates, run_ofTemplates]

/-- The insights of sources put together are those of the first, followed by those of the second. -/
theorem run_load_append {disk : Disk} {a b : List Template.Source} {set setA setB : TemplateSet}
    (ha : load disk a = .ok setA) (hb : load disk b = .ok setB) (hab : load disk (a ++ b) = .ok set)
    (arenas : List Arena) (resolver : Source.Resolver) :
    (run arenas set resolver).1 = (run arenas setA resolver).1 ++ (run arenas setB resolver).1 := by
  have hset := load_eq_ofTemplates hab
  rw [templates_append ha hb hab] at hset
  rw [hset, run_ofTemplates_append, ← load_eq_ofTemplates ha, ← load_eq_ofTemplates hb]

theorem exists_load_bundled_loops : ∃ set setA setB,
    load (templateDisk loopsDocument) [.bundled] = .ok setA ∧
    load (templateDisk loopsDocument) [.dir ⟨"/t"⟩] = .ok setB ∧
    load (templateDisk loopsDocument) ([.bundled] ++ [.dir ⟨"/t"⟩]) = .ok set := by
  obtain ⟨setA, ha, hchecks⟩ := exists_load_bundled (templateDisk loopsDocument)
  obtain ⟨setB, hb, template, htemplates, hname, -⟩ := exists_load_loops
  have hnew : "loops" ∉ setA.templates.map Template.name := by
    have hraws : some "loops" ∉ (Bundled.documents.flatMap Prod.snd).map RawTemplate.name := by decide
    rw [names_eq_of_checksTo hchecks, names] at hraws
    simpa using hraws
  have hdisjoint : (setA.templates.map Template.name).Disjoint (setB.templates.map Template.name) := by
    simpa [htemplates, hname] using hnew
  exact ⟨_, setA, setB, ha, hb, load_append_of_disjoint ha hb hdisjoint⟩

/-- A directory with one template is added to the bundled templates. -/
theorem run_bundled_loops : ∃ set setA setB,
    load (templateDisk loopsDocument) [.bundled] = .ok setA ∧
    load (templateDisk loopsDocument) [.dir ⟨"/t"⟩] = .ok setB ∧
    load (templateDisk loopsDocument) ([.bundled] ++ [.dir ⟨"/t"⟩]) = .ok set ∧
    (run (build [tiedSource]).roots set (.ofTable .empty)).1 =
      (run (build [tiedSource]).roots setA (.ofTable .empty)).1 ++
        (run (build [tiedSource]).roots setB (.ofTable .empty)).1 := by
  obtain ⟨set, setA, setB, ha, hb, hab⟩ := exists_load_bundled_loops
  exact ⟨set, setA, setB, ha, hb, hab, run_load_append ha hb hab (build [tiedSource]).roots (.ofTable .empty)⟩

end SolAudit.Match
