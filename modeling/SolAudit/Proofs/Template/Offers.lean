import SolAudit.Proofs.Template.Checking

/-!
# What sources offer

Which templates a source holds, and where an error stands between them, does not depend on the templates that are
loaded already. So a source is a list of offers: checked templates, and errors in the places where they are met. A load
takes one offer after the other, with no regard to the documents, files and directories that they come from
(`load_eq_foldlM_take`), and it succeeds exactly if every offer is a template and no two have one name
(`load_eq_ok_iff`). Sources put together offer one after the other what each of them offers, and all that can go wrong
with them, beyond what goes wrong with each, is a name that both use.
-/

namespace SolAudit.Template

open Outcome

/-- A checked template, or the error that stands in its place. -/
abbrev Offer := Except LoadError Template

/-- The template of an offer joins those before, under a new name. -/
def take (loaded : List Template) : Offer → Except LoadError (List Template)
  | .error e => .error e
  | .ok template =>
    if template.name ∈ loaded.map Template.name then .error (.duplicateName template.name template.sourceFile)
    else .ok (loaded ++ [template])

/-- The templates of a document, from a position on. -/
def documentOffers (file : String) (position : Nat) (raws : List RawTemplate) : List Offer :=
  (raws.zipIdx position).map fun (raw, n) ↦
    (raw.check file).mapError fun fault ↦ .refused file (raw.label n) fault

/-- The offers of what is found, or the error in the place of all of them. -/
def offersOf {α : Type} (found : Except LoadError α) (offers : α → List Offer) : List Offer :=
  match found with
  | .ok a => offers a
  | .error e => [.error e]

def fileOffers (disk : Disk) (dir : Path) (file : Path × FileFormat) : List Offer :=
  offersOf ((disk.readText file.1).mapError (.unreadable file.1)) fun content ↦
    offersOf (readDocument file.2 (file.1.below dir) content) (documentOffers (file.1.below dir) 0)

def Source.offers (disk : Disk) : Source → List Offer
  | .bundled => Bundled.documents.flatMap fun (label, raws) ↦ documentOffers label 0 raws
  | .dir path => offersOf (templateFiles disk path) fun files ↦ files.flatMap (fileOffers disk path)

theorem any_name_iff {templates : List Template} {name : String} :
    (templates.any fun t ↦ t.name == name) = true ↔ name ∈ templates.map Template.name := by
  simp

theorem addTemplates_eq (file : String) (raws : List RawTemplate) :
    ∀ (loaded : List Template) (position : Nat),
      addTemplates file loaded position raws = (documentOffers file position raws).foldlM take loaded := by
  induction raws with
  | nil => intro loaded position; rfl
  | cons raw rest ih =>
    intro loaded position
    have hoffers : documentOffers file position (raw :: rest) =
        (raw.check file).mapError (.refused file (raw.label position)) :: documentOffers file (position + 1) rest := rfl
    rw [addTemplates, hoffers, List.foldlM_cons]
    cases hcheck : raw.check file with
    | error fault => rfl
    | ok template =>
      -- An offer does not carry the document that an error is about, but its template does.
      have hfile : template.sourceFile = file := (checked_of_check hcheck).sourceFile
      by_cases hused : template.name ∈ loaded.map Template.name
      · simp only [mapError_ok, take, any_name_iff.mpr hused, hused, if_true, hfile, bind, Except.bind]
      · have hnew : (loaded.any fun t ↦ t.name == template.name) = false :=
          Bool.eq_false_iff.mpr (mt any_name_iff.mp hused)
        simp only [mapError_ok, take, hnew, hused, Bool.false_eq_true, if_false, bind, Except.bind, ih]

theorem foldlM_offersOf {α : Type} (found : Except LoadError α) (offers : α → List Offer) (loaded : List Template) :
    (offersOf found offers).foldlM take loaded = found >>= fun a ↦ (offers a).foldlM take loaded := by
  cases found <;> rfl

theorem addFile_eq (disk : Disk) (dir : Path) (loaded : List Template) (file : Path × FileFormat) :
    addFile disk dir loaded file = (fileOffers disk dir file).foldlM take loaded := by
  simp only [addFile, fileOffers, foldlM_offersOf, addTemplates_eq]

theorem addSource_eq (disk : Disk) (loaded : List Template) (source : Source) :
    addSource disk loaded source = (source.offers disk).foldlM take loaded := by
  cases source with
  | bundled => simp only [addSource, Source.offers, foldlM_flatMap, addTemplates_eq]
  | dir path =>
    have haddFile : addFile disk path = fun loaded file ↦ (fileOffers disk path file).foldlM take loaded := by
      funext loaded file
      exact addFile_eq disk path loaded file
    simp only [addSource, Source.offers, foldlM_offersOf, foldlM_flatMap, haddFile]

theorem load_eq_foldlM_take (disk : Disk) (sources : List Source) :
    load disk sources = ((sources.flatMap (Source.offers disk)).foldlM take []).map .ofTemplates := by
  have haddSource : addSource disk = fun loaded source ↦ (Source.offers disk source).foldlM take loaded := by
    funext loaded source
    exact addSource_eq disk loaded source
  rw [load, haddSource, ← foldlM_flatMap]
  cases (sources.flatMap (Source.offers disk)).foldlM take [] <;> rfl

/-! ## When it succeeds -/

/-- No two templates have one name. -/
abbrev DistinctNames (templates : List Template) : Prop := (templates.map Template.name).Nodup

theorem distinctNames_append {templates more : List Template} : DistinctNames (templates ++ more) ↔
    DistinctNames templates ∧ DistinctNames more ∧
      (templates.map Template.name).Disjoint (more.map Template.name) := by
  rw [DistinctNames, List.map_append, List.nodup_append']

theorem take_eq_ok_iff {loaded next : List Template} (hloaded : DistinctNames loaded) {offer : Offer} :
    take loaded offer = .ok next ↔
      ∃ template, offer = .ok template ∧ next = loaded ++ [template] ∧ DistinctNames next := by
  cases offer with
  | error e => simp [take]
  | ok template =>
    have hnames : DistinctNames (loaded ++ [template]) ↔ template.name ∉ loaded.map Template.name := by
      have hone : DistinctNames [template] := List.nodup_singleton _
      simp [distinctNames_append, hloaded, hone]
    by_cases hused : template.name ∈ loaded.map Template.name
    · simp only [take, hused, if_true, reduceCtorEq, Except.ok.injEq, false_iff]
      rintro ⟨other, rfl, rfl, hnext⟩
      exact hnames.mp hnext hused
    · simp only [take, hused, if_false, Except.ok.injEq]
      constructor
      · rintro rfl
        exact ⟨template, rfl, rfl, hnames.mpr hused⟩
      · rintro ⟨other, rfl, rfl, -⟩
        rfl

theorem foldlM_take_eq_ok_iff {offers : List Offer} : ∀ {loaded result : List Template}, DistinctNames loaded →
    (offers.foldlM take loaded = .ok result ↔
      ∃ added, offers = added.map .ok ∧ result = loaded ++ added ∧ DistinctNames result) := by
  induction offers with
  | nil =>
    intro loaded result hloaded
    constructor
    · intro h
      cases h
      exact ⟨[], rfl, (List.append_nil loaded).symm, hloaded⟩
    · rintro ⟨added, hadded, rfl, -⟩
      rw [List.map_eq_nil_iff.mp hadded.symm, List.append_nil]
      rfl
  | cons offer rest ih =>
    intro loaded result hloaded
    rw [List.foldlM_cons, bind_eq_ok]
    constructor
    · rintro ⟨next, hnext, hrest⟩
      obtain ⟨template, rfl, rfl, hnames⟩ := (take_eq_ok_iff hloaded).mp hnext
      obtain ⟨later, rfl, rfl, hresult⟩ := (ih hnames).mp hrest
      exact ⟨template :: later, rfl, (List.append_cons ..).symm, hresult⟩
    · rintro ⟨added, hadded, rfl, hresult⟩
      obtain ⟨template, later, rfl, rfl, rfl⟩ := List.map_eq_cons_iff.mp hadded.symm
      rw [List.append_cons] at hresult ⊢
      have hnames : DistinctNames (loaded ++ [template]) := (distinctNames_append.mp hresult).1
      exact ⟨loaded ++ [template], (take_eq_ok_iff hloaded).mpr ⟨template, rfl, rfl, hnames⟩,
        (ih hnames).mpr ⟨later, rfl, rfl, hresult⟩⟩

/-- Where templates that can be loaded by themselves meet loaded ones, the first whose name is in use ends the load. -/
theorem foldlM_take_of_used {loaded added : List Template} (hloaded : DistinctNames loaded)
    (hadded : DistinctNames added) {template : Template} (hfind : added.find? (fun t ↦ loaded.any (·.name == t.name)) = some template) :
    (added.map Except.ok).foldlM take loaded = .error (.duplicateName template.name template.sourceFile) := by
  obtain ⟨hused, before, after, rfl, hbefore⟩ := List.find?_eq_some_iff_append.mp hfind
  -- What stands before the first name in use is taken without an error.
  have hnames : DistinctNames (loaded ++ before) := by
    refine distinctNames_append.mpr ⟨hloaded, (distinctNames_append.mp hadded).1, ?_⟩
    intro name hname hmem
    obtain ⟨t, ht, rfl⟩ := List.mem_map.mp hmem
    have hfree := hbefore t ht
    rw [any_name_iff.mpr hname] at hfree
    cases hfree
  have hfold := (foldlM_take_eq_ok_iff hloaded).mpr ⟨before, rfl, rfl, hnames⟩
  have htake : take (loaded ++ before) (.ok template) = .error (.duplicateName template.name template.sourceFile) := by
    rw [take, if_pos]
    rw [List.map_append]
    exact List.mem_append_left _ (any_name_iff.mp hused)
  rw [List.map_append, List.foldlM_append, hfold, List.map_cons]
  simp only [List.foldlM_cons, bind, Except.bind, htake]

theorem foldlM_take_nil_eq_ok_iff {offers : List Offer} {result : List Template} :
    offers.foldlM take [] = .ok result ↔ offers = result.map .ok ∧ DistinctNames result := by
  have hnil : DistinctNames [] := List.nodup_nil
  rw [foldlM_take_eq_ok_iff hnil]
  simp only [List.nil_append]
  constructor
  · rintro ⟨added, hoffers, rfl, hnames⟩
    exact ⟨hoffers, hnames⟩
  · rintro ⟨hoffers, hnames⟩
    exact ⟨result, hoffers, rfl, hnames⟩

/-- A load succeeds exactly if all that is offered is a template and no two have one name. -/
theorem load_eq_ok_iff {disk : Disk} {sources : List Source} {set : TemplateSet} :
    load disk sources = .ok set ↔
      ∃ templates, sources.flatMap (Source.offers disk) = templates.map .ok ∧ DistinctNames templates ∧
        set = .ofTemplates templates := by
  rw [load_eq_foldlM_take, map_eq_ok]
  simp only [foldlM_take_nil_eq_ok_iff, and_assoc, @eq_comm _ set]

theorem load_append_of_disjoint {disk : Disk} {a b : List Source} {setA setB : TemplateSet}
    (ha : load disk a = .ok setA) (hb : load disk b = .ok setB)
    (hdisjoint : (setA.templates.map Template.name).Disjoint (setB.templates.map Template.name)) :
    load disk (a ++ b) = .ok (.ofTemplates (setA.templates ++ setB.templates)) := by
  obtain ⟨templatesA, hoffersA, hnamesA, rfl⟩ := load_eq_ok_iff.mp ha
  obtain ⟨templatesB, hoffersB, hnamesB, rfl⟩ := load_eq_ok_iff.mp hb
  refine load_eq_ok_iff.mpr ⟨templatesA ++ templatesB, ?_, ?_, rfl⟩
  · rw [List.flatMap_append, hoffersA, hoffersB, List.map_append]
  · exact distinctNames_append.mpr ⟨hnamesA, hnamesB, hdisjoint⟩

/-- If sources put together load, so do the first and the second, without a name in common. -/
theorem exists_of_load_append {disk : Disk} {a b : List Source} {set : TemplateSet}
    (h : load disk (a ++ b) = .ok set) :
    ∃ setA setB, load disk a = .ok setA ∧ load disk b = .ok setB ∧
      (setA.templates.map Template.name).Disjoint (setB.templates.map Template.name) ∧
      set.templates = setA.templates ++ setB.templates := by
  obtain ⟨templates, hoffers, hnames, rfl⟩ := load_eq_ok_iff.mp h
  rw [List.flatMap_append] at hoffers
  obtain ⟨templatesA, templatesB, rfl, hoffersA, hoffersB⟩ := List.map_eq_append_iff.mp hoffers.symm
  obtain ⟨hnamesA, hnamesB, hdisjoint⟩ := distinctNames_append.mp hnames
  exact ⟨.ofTemplates templatesA, .ofTemplates templatesB,
    load_eq_ok_iff.mpr ⟨templatesA, hoffersA.symm, hnamesA, rfl⟩,
    load_eq_ok_iff.mpr ⟨templatesB, hoffersB.symm, hnamesB, rfl⟩, hdisjoint, rfl⟩

theorem templates_append {disk : Disk} {a b : List Source} {set setA setB : TemplateSet}
    (ha : load disk a = .ok setA) (hb : load disk b = .ok setB) (h : load disk (a ++ b) = .ok set) :
    set.templates = setA.templates ++ setB.templates := by
  obtain ⟨setA', setB', ha', hb', -, htemplates⟩ := exists_of_load_append h
  cases ha.symm.trans ha'
  cases hb.symm.trans hb'
  exact htemplates

theorem load_append_of_error {disk : Disk} {a : List Source} {e : LoadError} (h : load disk a = .error e)
    (b : List Source) : load disk (a ++ b) = .error e := by
  rw [load_eq_foldlM_take] at h ⊢
  rw [List.flatMap_append, List.foldlM_append]
  cases hfold : (a.flatMap (Source.offers disk)).foldlM take [] with
  | ok templates =>
    rw [hfold] at h
    cases h
  | error e' =>
    rw [hfold] at h
    cases h
    rfl

theorem load_append_of_used {disk : Disk} {a b : List Source} {setA setB : TemplateSet} {template : Template}
    (ha : load disk a = .ok setA) (hb : load disk b = .ok setB)
    (hfind : setB.templates.find? (fun t ↦ setA.templates.any (·.name == t.name)) = some template) :
    load disk (a ++ b) = .error (.duplicateName template.name template.sourceFile) := by
  obtain ⟨templatesA, hoffersA, hnamesA, rfl⟩ := load_eq_ok_iff.mp ha
  obtain ⟨templatesB, hoffersB, hnamesB, rfl⟩ := load_eq_ok_iff.mp hb
  have hfold : (templatesA.map Except.ok).foldlM take [] = .ok templatesA :=
    foldlM_take_nil_eq_ok_iff.mpr ⟨rfl, hnamesA⟩
  have hused : (templatesB.map Except.ok).foldlM take templatesA = _ := foldlM_take_of_used hnamesA hnamesB hfind
  rw [load_eq_foldlM_take, List.flatMap_append, hoffersA, hoffersB, List.foldlM_append, hfold]
  simp only [bind, Except.bind, hused]
  rfl

/-- Sources put together load exactly if the first and the second do and have no name in common, and their templates
then follow each other. Otherwise an error of the first stands, and a name in common is reported for the first template
of the second that has one. -/
theorem load_append (disk : Disk) (a b : List Source) :
    ((∃ set, load disk (a ++ b) = .ok set) ↔
      ∃ setA setB, load disk a = .ok setA ∧ load disk b = .ok setB ∧
        (setA.templates.map Template.name).Disjoint (setB.templates.map Template.name)) ∧
    (∀ set setA setB, load disk (a ++ b) = .ok set → load disk a = .ok setA → load disk b = .ok setB →
      set.templates = setA.templates ++ setB.templates) ∧
    (∀ e, load disk a = .error e → load disk (a ++ b) = .error e) ∧
    ∀ setA setB, load disk a = .ok setA → load disk b = .ok setB →
      ¬(setA.templates.map Template.name).Disjoint (setB.templates.map Template.name) →
        ∃ template, setB.templates.find? (fun t ↦ setA.templates.any (·.name == t.name)) = some template ∧
          load disk (a ++ b) = .error (.duplicateName template.name template.sourceFile) := by
  refine ⟨⟨?_, ?_⟩, ?_, ?_, ?_⟩
  · rintro ⟨set, h⟩
    obtain ⟨setA, setB, ha, hb, hdisjoint, -⟩ := exists_of_load_append h
    exact ⟨setA, setB, ha, hb, hdisjoint⟩
  · rintro ⟨setA, setB, ha, hb, hdisjoint⟩
    exact ⟨_, load_append_of_disjoint ha hb hdisjoint⟩
  · intro set setA setB h ha hb
    exact templates_append ha hb h
  · intro e h
    exact load_append_of_error h b
  · intro setA setB ha hb hshared
    have hfound : (setB.templates.find? fun t ↦ setA.templates.any (·.name == t.name)).isSome := by
      simp only [List.Disjoint, not_forall] at hshared
      obtain ⟨name, hnameA, hnameB, -⟩ := hshared
      obtain ⟨template, htemplate, rfl⟩ := List.mem_map.mp hnameB
      rw [List.find?_isSome]
      exact ⟨template, htemplate, any_name_iff.mpr hnameA⟩
    obtain ⟨template, hfind⟩ := Option.isSome_iff_exists.mp hfound
    exact ⟨template, hfind, load_append_of_used ha hb hfind⟩

/-- A directory that is given twice is refused at its first template. -/
theorem load_loops_twice : load (templateDisk loopsDocument) ([.dir ⟨"/t"⟩] ++ [.dir ⟨"/t"⟩]) =
    .error (.duplicateName "loops" "a.json") := by
  obtain ⟨set, hload, template, htemplates, hname, hfile, -⟩ := exists_load_loops
  have hshared : ¬(set.templates.map Template.name).Disjoint (set.templates.map Template.name) := by
    simp [htemplates]
  obtain ⟨-, -, -, hduplicate⟩ := load_append (templateDisk loopsDocument) [.dir ⟨"/t"⟩] [.dir ⟨"/t"⟩]
  obtain ⟨first, hfirst, hload⟩ := hduplicate set set hload hload hshared
  have hsame : first = template := by
    simpa [htemplates] using (List.mem_of_find?_eq_some hfirst)
  rw [hload, hsame, hname, hfile]

end SolAudit.Template
