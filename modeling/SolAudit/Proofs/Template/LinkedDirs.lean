import SolAudit.Proofs.Walk
import SolAudit.Proofs.Template.Checking

/-!
# Directories behind links

Whether a path is a directory is asked of what a link at its end leads to, and a walk does not follow such a link. So a
path that is a link to a directory is accepted, and nothing is read below it (`load_of_skipped`). Apart from that, and
from version control data, what a load gives depends on the place of the directory and not on the path to it.
-/

namespace SolAudit.Template

open Outcome

/-- Why nothing below a path is read: it is named as version control data, or it is a link. -/
inductive Skipped (disk : Disk) (dir : Path) : Prop
  | versionControl (h : dir.fileName? = some ".git")
  | link {target : String} (h : disk.linkEntry dir = .ok (.link target))

/-- An error as it is seen from a directory. -/
def LoadError.seenFrom (dir : Path) : LoadError → LoadError
  | .unreadable path cause => .unreadable ⟨path.below dir⟩ cause
  | error => error

/-- A load of each directory gives the same templates in the same order, or fails in the same way at the same file. -/
def LoadAlike (disk : Disk) (dir other : Path) : Prop :=
  (load disk [.dir dir]).mapError (LoadError.seenFrom dir) =
    (load disk [.dir other]).mapError (LoadError.seenFrom other)

theorem mapError_foldlM_congr {ε α β γ : Type} {g g' : ε → ε} {f : β → α → Except ε β} {f' : β → γ → Except ε β}
    {l : List α} {l' : List γ} (h : List.Forall₂ (fun a c ↦ ∀ b, (f b a).mapError g = (f' b c).mapError g') l l')
    (b : β) : (l.foldlM f b).mapError g = (l'.foldlM f' b).mapError g' := by
  induction h generalizing b with
  | nil => rfl
  | cons ha _ ih =>
    rw [List.foldlM_cons, List.foldlM_cons]
    exact mapError_bind_congr (ha b) ih

theorem mapError_addTemplates (dir : Path) (file : String) (raws : List RawTemplate) (loaded : List Template)
    (position : Nat) : (addTemplates file loaded position raws).mapError (LoadError.seenFrom dir) =
      addTemplates file loaded position raws := by
  induction raws generalizing loaded position with
  | nil => rfl
  | cons raw rest ih =>
    rw [addTemplates]
    cases raw.check file with
    | error fault => rfl
    | ok template =>
      simp only [mapError_ok, bind, Except.bind]
      split
      · rfl
      · exact ih _ _

theorem mapError_readDocument (dir : Path) (format : FileFormat) (file content : String) :
    (readDocument format file content).mapError (LoadError.seenFrom dir) = readDocument format file content := by
  rw [readDocument]
  split
  · rfl
  · split <;> rfl

theorem isVersionControl_join (a b : Path) (name : String) (hname : Path.IsName name) :
    isVersionControl (a.join ⟨name⟩) = isVersionControl (b.join ⟨name⟩) := by
  rw [isVersionControl, isVersionControl, a.fileName?_join hname, b.fileName?_join hname]

/-- The template files among those of given names below a directory. -/
def knownAmong (dir : Path) (found : List (List String)) : List (List String × FileFormat) :=
  found.filterMap fun names ↦ (FileFormat.ofPath? (dir.descend names)).map fun format ↦ (names, format)

/-- Those files in the order of their paths. -/
def knownBelow (dir : Path) (found : List (List String)) : List (List String × FileFormat) :=
  (knownAmong dir found).mergeSort fun a b ↦ (dir.descend a.1).notAfter (dir.descend b.1)

theorem mem_of_mem_knownAmong {dir : Path} {found : List (List String)} {file : List String × FileFormat}
    (h : file ∈ knownAmong dir found) : file.1 ∈ found := by
  obtain ⟨names, hnames, hfile⟩ := List.mem_filterMap.mp h
  obtain ⟨format, -, rfl⟩ := Option.map_eq_some_iff.mp hfile
  exact hnames

theorem mem_of_mem_knownBelow {dir : Path} {found : List (List String)} {file : List String × FileFormat}
    (h : file ∈ knownBelow dir found) : file.1 ∈ found :=
  mem_of_mem_knownAmong (List.mem_mergeSort.mp h)

theorem templateFiles_eq {disk : Disk} {dir : Path} {found : List (List String)} (hdir : disk.isDir dir = true)
    (hfiles : Walk.filesBelow disk dir isVersionControl = .ok (found.map dir.descend)) :
    templateFiles disk dir = .ok ((knownBelow dir found).map fun (names, format) ↦ (dir.descend names, format)) := by
  have hsort := List.map_mergeSort
    (r := fun a b : List String × FileFormat ↦ (dir.descend a.1).notAfter (dir.descend b.1))
    (s := fun a b : Path × FileFormat ↦ a.1.notAfter b.1) (f := fun (names, format) ↦ (dir.descend names, format))
    (l := knownAmong dir found) fun _ _ _ _ ↦ rfl
  rw [knownBelow, hsort, knownAmong, List.map_filterMap]
  simp [templateFiles, hdir, hfiles, bind, Except.bind, pure, Except.pure, Function.comp_def, List.filterMap_map]

theorem mergeSort_congr {α : Type} {r s : α → α → Bool} {l : List α} (h : ∀ a ∈ l, ∀ b ∈ l, r a b = s a b) :
    l.mergeSort r = l.mergeSort s := by
  have hmap := List.map_mergeSort (f := id) h
  rwa [List.map_id, List.map_id] at hmap

/-- The notation of a file is known from its name. -/
theorem ofPath?_descend (dir other : Path) {names : List String} (hne : names ≠ [])
    (hnames : ∀ name ∈ names, Path.IsName name) :
    FileFormat.ofPath? (dir.descend names) = FileFormat.ofPath? (other.descend names) := by
  obtain ⟨front, name, hconcat⟩ := (List.eq_nil_or_concat names).resolve_left hne
  rw [List.concat_eq_append] at hconcat
  have hname := hnames name (by simp [hconcat])
  have hfile : (dir.descend names).fileName? = (other.descend names).fileName? := by
    rw [hconcat, dir.fileName?_descend_concat front hname, other.fileName?_descend_concat front hname]
  rw [FileFormat.ofPath?, FileFormat.ofPath?, Path.extension?_congr hfile]

/-- Which files are known, and in what order, does not depend on the directory that they are below. -/
theorem knownBelow_congr (dir other : Path) {found : List (List String)}
    (hfound : ∀ names ∈ found, names ≠ [] ∧ ∀ name ∈ names, Path.IsName name) :
    knownBelow dir found = knownBelow other found := by
  have hknown : knownAmong dir found = knownAmong other found :=
    List.filterMap_congr fun names hmem ↦ by
      rw [ofPath?_descend dir other (hfound names hmem).1 (hfound names hmem).2]
  have hnames : ∀ file ∈ knownAmong other found, ∀ name ∈ file.1, Path.IsName name := fun _ hfile ↦
    (hfound _ (mem_of_mem_knownAmong hfile)).2
  rw [knownBelow, knownBelow, hknown]
  apply mergeSort_congr
  intro a ha b hb
  exact congrArg (!·) (Path.less_descend dir other (hnames b hb) (hnames a ha))

theorem mapError_addFile {disk : Disk} {dir other : Path} {names : List String}
    (hnames : ∀ name ∈ names, Path.IsName name)
    (hread : disk.readText (dir.descend names) = disk.readText (other.descend names)) (format : FileFormat)
    (loaded : List Template) :
    (addFile disk dir loaded (dir.descend names, format)).mapError (LoadError.seenFrom dir) =
      (addFile disk other loaded (other.descend names, format)).mapError (LoadError.seenFrom other) := by
  have hlabel := dir.below_descend hnames
  have hlabel' := other.below_descend hnames
  simp only [addFile, hread, hlabel, hlabel']
  apply mapError_bind_congr
  · cases disk.readText (other.descend names) with
    | error cause => simp [LoadError.seenFrom, hlabel, hlabel']
    | ok content => rfl
  · intro content
    apply mapError_bind_congr
    · rw [mapError_readDocument, mapError_readDocument]
    · intro raws
      rw [mapError_addTemplates, mapError_addTemplates]

/-! ## Directories -/

theorem load_dir {disk : Disk} {dir : Path} {files : List (Path × FileFormat)}
    (h : templateFiles disk dir = .ok files) :
    load disk [.dir dir] = files.foldlM (addFile disk dir) [] >>= fun templates ↦ return .ofTemplates templates := by
  simp only [load, addSource, List.foldlM_cons, List.foldlM_nil, bind_assoc, pure_bind, h]
  rfl

section

variable {disk : Disk} {dir other : Path}

theorem exists_found (hroot : disk.root.WellFormed) (hdir : disk.isDir dir = true) : ∃ found,
    Walk.LevelOrder disk isVersionControl dir found ∧
      templateFiles disk dir = .ok ((knownBelow dir found).map fun (names, format) ↦ (dir.descend names, format)) := by
  obtain ⟨place, entries, hplace, hat⟩ := Disk.isDir_iff.mp hdir
  have hstart : ∃ top, disk.linkEntry dir = .ok top := by
    rcases Disk.locate_false_of_true hplace with hlocate | ⟨target, hlink⟩
    · exact ⟨_, Disk.entryAt_eq_ok_iff.mpr ⟨place, hlocate, hat⟩⟩
    · exact ⟨_, hlink⟩
  obtain ⟨top, hstart⟩ := hstart
  obtain ⟨found, hfound, hcalls⟩ := Walk.exists_levelOrder hroot hstart isVersionControl
  exact ⟨found, hfound, templateFiles_eq hdir hcalls.filesBelow_eq⟩

theorem load_of_skipped (hroot : disk.root.WellFormed) (hdir : disk.isDir dir = true) (h : Skipped disk dir) :
    load disk [.dir dir] = .ok (.ofTemplates []) := by
  obtain ⟨found, hfound, hfiles⟩ := exists_found hroot hdir
  have hnone : ∀ names, ¬ Walk.Reaches disk isVersionControl dir names := by
    intro names
    cases h with
    | versionControl hname => exact Walk.not_reaches_of_excluded (beq_iff_eq.mpr hname)
    | link hlink => exact Walk.not_reaches_of_link hlink
  have hempty : found = [] :=
    List.eq_nil_iff_forall_not_mem.mpr fun names hmem ↦ hnone names ((hfound.mem_iff names).mp hmem)
  have hknown : knownBelow dir [] = [] := List.mergeSort_nil
  rw [load_dir hfiles, hempty, hknown]
  rfl

theorem loadAlike_of_files {known : List (List String × FileFormat)}
    (hfiles : templateFiles disk dir = .ok (known.map fun (names, format) ↦ (dir.descend names, format)))
    (hfiles' : templateFiles disk other = .ok (known.map fun (names, format) ↦ (other.descend names, format)))
    (hknown : ∀ file ∈ known, (∀ name ∈ file.1, Path.IsName name) ∧
      disk.readText (dir.descend file.1) = disk.readText (other.descend file.1)) : LoadAlike disk dir other := by
  rw [LoadAlike, load_dir hfiles, load_dir hfiles']
  apply mapError_bind_congr
  · apply mapError_foldlM_congr
    rw [List.forall₂_map_left_iff, List.forall₂_map_right_iff, List.forall₂_same]
    intro file hfile loaded
    exact mapError_addFile (hknown file hfile).1 (hknown file hfile).2 file.2 loaded
  · intro templates
    rfl

/-- What is not skipped is entered. -/
theorem locate_of_not_skipped {place : List String} (hplace : disk.locate true dir = .ok place)
    (h : ¬ Skipped disk dir) : disk.locate false dir = .ok place ∧ isVersionControl dir = false := by
  refine ⟨?_, ?_⟩
  · rcases Disk.locate_false_of_true hplace with hlocate | ⟨target, hlink⟩
    · exact hlocate
    · exact absurd (.link hlink) h
  · rw [isVersionControl, beq_eq_false_iff_ne]
    exact fun hname ↦ h (.versionControl hname)

theorem loadAlike_of_not_skipped (hroot : disk.root.WellFormed) (hdir : disk.isDir dir = true)
    (hplace : disk.locate true dir = disk.locate true other) (h : ¬ Skipped disk dir) (h' : ¬ Skipped disk other) :
    LoadAlike disk dir other := by
  obtain ⟨place, entries, hlast, hat⟩ := Disk.isDir_iff.mp hdir
  have hlast' := hplace.symm.trans hlast
  have hother : disk.isDir other = true := Disk.isDir_iff.mpr ⟨place, entries, hlast', hat⟩
  obtain ⟨hlocate, hentered⟩ := locate_of_not_skipped hlast h
  obtain ⟨hlocate', hentered'⟩ := locate_of_not_skipped hlast' h'
  obtain ⟨found, hfound, hfiles⟩ := exists_found hroot hdir
  obtain ⟨found', hfound', hfiles'⟩ := exists_found hroot hother
  have hsame : found = found' := by
    apply hfound.eq_of_reaches_iff hfound'
    intro names
    constructor
    · exact Walk.Reaches.of_place hroot isVersionControl_join hlocate hlocate' hentered'
    · exact Walk.Reaches.of_place hroot isVersionControl_join hlocate' hlocate hentered
  subst hsame
  have hnames : ∀ names ∈ found, names ≠ [] ∧ (∀ name ∈ names, Path.IsName name) ∧
      disk.readText (dir.descend names) = disk.readText (other.descend names) := by
    intro names hmem
    obtain ⟨hbelow, content, hfile⟩ := ((hfound.mem_iff names).mp hmem).locate hroot hlocate
    obtain ⟨hbelow', -⟩ := ((hfound'.mem_iff names).mp hmem).locate hroot hlocate'
    have hread := Disk.locate_true_of_false hbelow hfile fun _ ↦ Entry.noConfusion
    have hread' := Disk.locate_true_of_false hbelow' hfile fun _ ↦ Entry.noConfusion
    refine ⟨?_, ?_, ?_⟩
    · rintro rfl
      rw [List.append_nil, hat] at hfile
      cases hfile
    · exact fun name hname ↦ hroot.isName_of_at? hfile name (List.mem_append_right place hname)
    · simp only [Disk.readText, Disk.readBytes, Disk.entry, Disk.entryAt, hread, hread']
  have hknown : knownBelow dir found = knownBelow other found :=
    knownBelow_congr dir other fun names hmem ↦ ⟨(hnames names hmem).1, (hnames names hmem).2.1⟩
  exact loadAlike_of_files hfiles (hknown ▸ hfiles') fun file hfile ↦ (hnames file.1 (mem_of_mem_knownBelow hfile)).2

/-- Directories at one place, however they are spelled, are loaded alike if both or neither are skipped. A directory
that is skipped is loaded as the empty set, and so as another spelling of it only where that has no templates either. -/
theorem loadAlike_iff_skipped (hroot : disk.root.WellFormed) (hdir : disk.isDir dir = true)
    (hplace : disk.locate true dir = disk.locate true other) :
    (Skipped disk dir → load disk [.dir dir] = .ok (.ofTemplates [])) ∧
    (LoadAlike disk dir other ↔ ((Skipped disk dir ↔ Skipped disk other) ∨
      load disk [.dir dir] = .ok (.ofTemplates []) ∧ load disk [.dir other] = .ok (.ofTemplates []))) := by
  obtain ⟨place, entries, hlast, hat⟩ := Disk.isDir_iff.mp hdir
  have hother : disk.isDir other = true := Disk.isDir_iff.mpr ⟨place, entries, hplace.symm.trans hlast, hat⟩
  refine ⟨load_of_skipped hroot hdir, ?_⟩
  by_cases h : Skipped disk dir
  · have hload := load_of_skipped hroot hdir h
    by_cases h' : Skipped disk other
    · simp [LoadAlike, h, h', hload, load_of_skipped hroot hother h']
    · simp [LoadAlike, h, h', hload, eq_comm (a := Except.ok _), mapError_eq_ok]
  · by_cases h' : Skipped disk other
    · have hload := load_of_skipped hroot hother h'
      simp [LoadAlike, h, h', hload, mapError_eq_ok]
    · simp [h, h', loadAlike_of_not_skipped hroot hdir hplace h h']

end

/-- A directory with one template file, and a link to it. -/
def linkedDisk (content : String) : Disk :=
  ⟨.dir [("t", .dir [("a.json", .file content.toUTF8)]), ("lnk", .link "t")], []⟩

theorem wellFormed_linkedDisk (content : String) : (linkedDisk content).root.WellFormed := by
  have hnames : ∀ name ∈ ["a.json", "t", "lnk"], Path.IsName name := by decide
  obtain ⟨hfile, hnames⟩ := List.forall_mem_cons.mp hnames
  have hinner : (Entry.dir [("a.json", .file content.toUTF8)]).WellFormed :=
    .dir (List.nodup_singleton _) (List.forall_mem_singleton.mpr hfile) (List.forall_mem_singleton.mpr (.file _))
  refine .dir (by simp) hnames ?_
  rw [List.forall_mem_cons, List.forall_mem_singleton]
  exact ⟨hinner, .link "t"⟩

theorem holdsFile_linkedDisk (content : String) : HoldsFile (linkedDisk content) content :=
  { holdsFile_templateDisk content with at? := rfl }

/-- The link stands for itself, or for the directory where it is followed. -/
theorem locate_link (content : String) : (linkedDisk content).locate false ⟨"/lnk"⟩ = .ok ["lnk"] ∧
    (linkedDisk content).locate true ⟨"/lnk"⟩ = .ok ["t"] := by
  have hpaths : (Disk.steps "/lnk" = ["lnk"] ∧ (Path.mk "/lnk").isAbsolute = true) ∧
      Disk.steps "t" = ["t"] ∧ "t".startsWith "/" = false := by
    refine ⟨⟨?_, ?_⟩, ?_, ?_⟩ <;> with_unfolding_all rfl
  obtain ⟨⟨hsteps, habsolute⟩, htarget, hrelative⟩ := hpaths
  rw [Disk.locate_eq_ok_iff (by decide), Disk.locate_eq_ok_iff (by decide), hsteps, habsolute]
  refine ⟨.lastLink rfl (by decide) (by decide) rfl rfl, .link rfl (by decide) (by decide) rfl rfl ?_⟩
  rw [htarget, hrelative, List.append_nil]
  exact .entry rfl (by decide) (by decide) rfl (fun _ ↦ Entry.noConfusion) (.done _ _)

/-- The template of the directory is lost where the load goes through the link. -/
theorem link_loses_templates :
    (linkedDisk loopsDocument).isDir ⟨"/lnk"⟩ = true ∧
    (linkedDisk loopsDocument).locate true ⟨"/lnk"⟩ = (linkedDisk loopsDocument).locate true ⟨"/t"⟩ ∧
    load (linkedDisk loopsDocument) [.dir ⟨"/lnk"⟩] = .ok (.ofTemplates []) ∧
    (∃ set, load (linkedDisk loopsDocument) [.dir ⟨"/t"⟩] = .ok set ∧
      ∃ template, set.templates = [template] ∧ template.name = "loops") ∧
    ¬ LoadAlike (linkedDisk loopsDocument) ⟨"/lnk"⟩ ⟨"/t"⟩ := by
  have hholds := holdsFile_linkedDisk loopsDocument
  have hdir : (linkedDisk loopsDocument).isDir ⟨"/lnk"⟩ = true := Disk.isDir_iff.mpr ⟨_, _, (locate_link _).2, rfl⟩
  have hplace : (linkedDisk loopsDocument).locate true ⟨"/lnk"⟩ = (linkedDisk loopsDocument).locate true ⟨"/t"⟩ :=
    (locate_link _).2.trans (hholds.locate true).symm
  have hskipped : Skipped (linkedDisk loopsDocument) ⟨"/lnk"⟩ :=
    .link (Disk.entryAt_eq_ok_iff.mpr ⟨["lnk"], (locate_link _).1, rfl⟩)
  have hentered : ¬ Skipped (linkedDisk loopsDocument) ⟨"/t"⟩ := by
    rintro (hname | hlink)
    · exact absurd hname (by decide +kernel)
    · cases (hholds.entryAt false).symm.trans hlink
  obtain ⟨set, hload, template, htemplates, hname, -, -⟩ := exists_load_loops_of_holdsFile hholds
  obtain ⟨hempty, halike⟩ := loadAlike_iff_skipped (wellFormed_linkedDisk loopsDocument) hdir hplace
  refine ⟨hdir, hplace, hempty hskipped, ⟨set, hload, template, htemplates, hname⟩, ?_⟩
  rw [halike]
  rintro (h | ⟨-, hother⟩)
  · exact hentered (h.mp hskipped)
  · cases hload.symm.trans hother
    cases htemplates

end SolAudit.Template
