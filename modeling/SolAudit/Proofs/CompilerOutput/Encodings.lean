import SolAudit.Match.Run
import SolAudit.Proofs.CompilerOutput.Collecting
import SolAudit.Proofs.CompilerOutput.Compilation
import SolAudit.Proofs.Text.Decimal

/-!
# Encodings of a compilation

Every document that writes a compilation gives the same trees and the same table (`Encoding.canonicalOf_document`): the
trees of the files in index order, and every file at its index. The keys of a document stand in key order, so its
claims come in an order that has nothing to do with the indexes; what counts is that they are the claims of the files
(`Compilation.Covers`).
-/

namespace SolAudit

theorem map_zipIdx_eq {α β : Type} {f : α × Nat → β} {g : α → β} (l : List α)
    (h : ∀ a ∈ l, ∀ place, f (a, place) = g a) : l.zipIdx.map f = l.map g := by
  conv_rhs => rw [← List.zipIdx_map_fst 0 l, List.map_map]
  apply List.map_congr_left
  rintro ⟨a, place⟩ hmem
  exact h a (List.fst_mem_of_mem_zipIdx hmem) place

theorem idxOf?_of_getElem? {α : Type} [BEq α] [LawfulBEq α] {l : List α} (hnodup : l.Nodup) {place : Nat} {a : α}
    (h : l[place]? = some a) : l.idxOf? a = some place := by
  obtain ⟨hplace, rfl⟩ := List.getElem?_eq_some_iff.mp h
  refine List.idxOf?_eq_some_iff.mpr ⟨hplace, rfl, ?_⟩
  intro other hother hsame
  exact absurd (hnodup.getElem_inj_iff.mp hsame) (Nat.ne_of_lt hother)

end SolAudit

namespace SolAudit.CompilerOutput

open Build (SourceTree)

namespace CompiledFile

def claim (file : CompiledFile) : Claim := ⟨file.index, file.key, file.tree.map .obj⟩

def bareClaim (file : CompiledFile) : Claim := ⟨file.index, file.key, none⟩

variable {file : CompiledFile} {treeKey : String} {id : Option Json}

theorem get?_entry_id (h : treeKey ≠ "id") : (file.entry treeKey id).get? "id" = id := by
  unfold entry
  cases file.tree <;> cases id <;> simp [Json.get?, Json.members?, Json.Members.get?, h]

theorem get?_entry_tree (h : treeKey ≠ "id") : (file.entry treeKey id).get? treeKey = file.tree.map .obj := by
  unfold entry
  cases file.tree <;> cases id <;> simp [Json.get?, Json.members?, Json.Members.get?, h.symm]

theorem get?_entry_other {key : String} (htree : treeKey ≠ key) (hid : key ≠ "id") :
    (file.entry treeKey id).get? key = none := by
  unfold entry
  cases file.tree <;> cases id <;> simp [Json.get?, Json.members?, Json.Members.get?, htree, hid.symm]

theorem treeKey_ne_id (lower : String → Bool) (file : CompiledFile) : file.treeKey lower ≠ "id" := by
  unfold CompiledFile.treeKey
  split <;> decide

theorem combinedTree?_entry (lower : String → Bool) :
    combinedTree? (file.entry (file.treeKey lower) id) = file.tree.map .obj := by
  have htree : (file.entry (file.treeKey lower) id).get? (file.treeKey lower) = file.tree.map .obj :=
    get?_entry_tree (treeKey_ne_id lower file)
  unfold combinedTree?
  by_cases hlower : lower file.key = true
  · have hkey : file.treeKey lower = "ast" := by simp [CompiledFile.treeKey, hlower]
    rw [hkey] at htree ⊢
    rw [get?_entry_other (by decide) (by decide), htree]
  · have hkey : file.treeKey lower = "AST" := by simp [CompiledFile.treeKey, hlower]
    rw [hkey] at htree ⊢
    rw [htree]
    cases hnone : file.tree with
    | none =>
      rw [Option.map_none]
      exact get?_entry_other (by decide) (by decide)
    | some members => rfl

theorem entryIndex?_entry (h : treeKey ≠ "id") (index : Nat) :
    entryIndex? (file.entry treeKey (some (.nat index))) = some index := by
  rw [entryIndex?, get?_entry_id h]
  simp [Json.nat, Json.index?]

theorem at?_entry (position : Nat) : (file.entry treeKey id).at? position = none := rfl

end CompiledFile

namespace Compilation

variable (compilation : Compilation)

/-- Entries for files stand in some order of the files. -/
theorem exists_members_entries (entered : CompiledFile → Bool) (entry : CompiledFile → Json) :
    ∃ files : List CompiledFile, files.Perm (compilation.files.filter entered) ∧
      (compilation.entries entered entry).members? = some (files.map fun file ↦ (file.key, entry file)) := by
  have hnodup : ((compilation.files.filter entered).map CompiledFile.key).Nodup :=
    compilation.nodup_keys.sublist (List.filter_sublist.map _)
  obtain ⟨files, hperm, hsort⟩ := Json.Members.exists_sort_eq (f := fun file ↦ (file.key, entry file)) hnodup
  exact ⟨files, hperm, congrArg some hsort⟩

theorem nodup_keys_contents : ((compilation.files.filterMap CompiledFile.contentEntry?).map Prod.fst).Nodup := by
  rw [List.map_filterMap]
  refine compilation.nodup_keys.sublist (filterMap_sublist_map ?_ _)
  intro file key hkey
  cases hcontent : file.content <;> simp_all [CompiledFile.contentEntry?]

/-- The text of a file is found under its key. -/
theorem content_input {file : CompiledFile} (h : file ∈ compilation.files) :
    (compilation.input.path? ["sources", file.key, "content"]).bind Json.string? = file.content := by
  have hperm := Json.Members.sort_perm compilation.nodup_keys_contents
  have hget : (Json.Members.sort (compilation.files.filterMap CompiledFile.contentEntry?)).get? file.key =
      file.content.map fun content ↦ .obj [("content", .str content)] := by
    cases hcontent : file.content with
    | some content =>
      apply Json.Members.get?_of_mem ((hperm.map _).nodup_iff.mpr compilation.nodup_keys_contents)
      apply hperm.mem_iff.mpr
      exact List.mem_filterMap.mpr ⟨file, h, by simp [CompiledFile.contentEntry?, hcontent]⟩
    | none =>
      -- An entry with the same key would be one of the same file.
      rw [Option.map_none, Json.Members.get?_eq_none_iff]
      intro hmem
      obtain ⟨entry, hentry, hkey⟩ := List.mem_map.mp hmem
      obtain ⟨other, hother, hentry⟩ := List.mem_filterMap.mp (hperm.mem_iff.mp hentry)
      obtain ⟨content, hsome, rfl⟩ := Option.map_eq_some_iff.mp hentry
      rw [eq_of_key hother h hkey, hcontent] at hsome
      cases hsome
  have hpath : compilation.input.path? ["sources", file.key, "content"] =
      ((Json.Members.sort (compilation.files.filterMap CompiledFile.contentEntry?)).get? file.key).bind fun inner ↦
        (inner.get? "content").bind some := rfl
  rw [hpath, hget]
  cases file.content <;> rfl

theorem perm_byIndex : compilation.byIndex.Perm compilation.files := List.mergeSort_perm _ _

/-- Where the indexes are the places of a list, each file stands at its index. -/
theorem zipIdx_byIndex (h : (compilation.files.map CompiledFile.index).Perm (List.range compilation.files.length)) :
    (compilation.byIndex.map CompiledFile.key).zipIdx =
      compilation.byIndex.map fun file ↦ (file.key, file.index) := by
  have hindexes : compilation.byIndex.map CompiledFile.index = List.range compilation.files.length := by
    refine ((compilation.perm_byIndex.map _).trans h).eq_of_pairwise ?_
      (pairwise_lt_mergeSort compilation.nodup_indexes) List.pairwise_lt_range
    intro a b _ _ hlt hgt
    exact absurd hgt (Nat.lt_asymm hlt)
  rw [List.zipIdx_eq_zip_range', List.length_map, compilation.perm_byIndex.length_eq, ← List.range_eq_range',
    ← hindexes, List.zip_map']

/-- Claims are those of the files: each file has one, and the trees are those of the files. -/
structure Covers (compilation : Compilation) (made : List Claim) : Prop where
  of_claim : ∀ claim ∈ made, ∃ file ∈ compilation.files, claim.index = file.index ∧ claim.key = file.key
  of_file : ∀ file ∈ compilation.files, ∃ claim ∈ made, claim.index = file.index ∧ claim.key = file.key
  sources : ∀ root, (made.filterMap (Claim.source? root)).Perm (compilation.files.filterMap (CompiledFile.source? root))

variable {compilation}

theorem source?_claim (root : Path) (file : CompiledFile) : file.claim.source? root = file.source? root := by
  unfold CompiledFile.claim Claim.source? CompiledFile.source?
  cases file.tree <;> rfl

/-- Files that are claimed alone and files that are claimed with their trees: no file is left out, and no tree. -/
structure Complete (compilation : Compilation) (bare : List CompiledFile) (kept : CompiledFile → Bool) : Prop where
  subset : ∀ file ∈ bare, file ∈ compilation.files
  tree : ∀ file ∈ compilation.files, file.tree.isSome = true → kept file = true
  all : ∀ file ∈ compilation.files, kept file = false → file ∈ bare

theorem complete_nil : compilation.Complete [] fun _ ↦ true where
  subset := fun _ hfile ↦ absurd hfile List.not_mem_nil
  tree := fun _ _ _ ↦ rfl
  all := fun _ _ hnot ↦ absurd hnot (by decide)

theorem complete_entered {bare : List CompiledFile} (hperm : bare.Perm compilation.files) (kept : String → Bool) :
    compilation.Complete bare (·.entered kept) where
  subset := fun _ hfile ↦ hperm.mem_iff.mp hfile
  tree := by
    intro file _ htree
    rw [CompiledFile.entered, htree, Bool.true_or]
  all := fun _ hfile _ ↦ hperm.mem_iff.mpr hfile

/-- A file that is not kept has no entry, as no other file has its key. -/
theorem Complete.unlisted {bare files : List CompiledFile} {kept : CompiledFile → Bool}
    (h : compilation.Complete bare kept) (hperm : files.Perm (compilation.files.filter kept)) :
    compilation.Complete (bare.filter fun file ↦ file.key ∉ files.map CompiledFile.key) kept where
  subset := fun file hfile ↦ h.subset file (List.mem_of_mem_filter hfile)
  tree := h.tree
  all := by
    intro file hfile hnot
    refine List.mem_filter.mpr ⟨h.all file hfile hnot, ?_⟩
    rw [decide_eq_true_eq]
    intro hmem
    obtain ⟨other, hother, hkey⟩ := List.mem_map.mp hmem
    obtain ⟨hother, hkept⟩ := List.mem_filter.mp (hperm.mem_iff.mp hother)
    rw [eq_of_key hother hfile hkey, hnot] at hkept
    cases hkept

/-- The files that are not kept have no tree. -/
theorem Complete.filterMap_source? {bare : List CompiledFile} {kept : CompiledFile → Bool}
    (h : compilation.Complete bare kept) (root : Path) :
    (compilation.files.filter kept).filterMap (CompiledFile.source? root) =
      compilation.files.filterMap (CompiledFile.source? root) := by
  rw [List.filterMap_filter]
  apply List.filterMap_congr
  intro file hfile
  split
  · rfl
  · rename_i hnot
    have hnone : file.tree = none := by
      rw [← Option.not_isSome_iff_eq_none]
      exact fun hsome ↦ hnot (h.tree file hfile hsome)
    rw [CompiledFile.source?, hnone, Option.map_none]

theorem Complete.covers {bare entered : List CompiledFile} {kept : CompiledFile → Bool}
    (h : compilation.Complete bare kept) (hentered : entered.Perm (compilation.files.filter kept)) :
    compilation.Covers (bare.map CompiledFile.bareClaim ++ entered.map CompiledFile.claim) where
  of_claim := by
    intro claim hclaim
    rcases List.mem_append.mp hclaim with hclaim | hclaim
    · obtain ⟨file, hfile, rfl⟩ := List.mem_map.mp hclaim
      exact ⟨file, h.subset file hfile, rfl, rfl⟩
    · obtain ⟨file, hfile, rfl⟩ := List.mem_map.mp hclaim
      exact ⟨file, List.mem_of_mem_filter (hentered.mem_iff.mp hfile), rfl, rfl⟩
  of_file := by
    intro file hfile
    cases hcase : kept file with
    | false => exact ⟨_, List.mem_append_left _ (List.mem_map_of_mem (h.all file hfile hcase)), rfl, rfl⟩
    | true =>
      have hmem : file ∈ entered := hentered.mem_iff.mpr (List.mem_filter.mpr ⟨hfile, hcase⟩)
      exact ⟨_, List.mem_append_right _ (List.mem_map_of_mem hmem), rfl, rfl⟩
  sources := by
    intro root
    have hbare : (bare.map CompiledFile.bareClaim).filterMap (Claim.source? root) = [] := by
      simp [CompiledFile.bareClaim, Claim.source?]
    calc ((bare.map CompiledFile.bareClaim ++ entered.map CompiledFile.claim).filterMap (Claim.source? root))
      _ = entered.filterMap (CompiledFile.source? root) := by
        rw [List.filterMap_append, hbare, List.nil_append, List.filterMap_map]
        congr 1
        funext file
        exact source?_claim root file
      List.Perm _ ((compilation.files.filter kept).filterMap (CompiledFile.source? root)) := hentered.filterMap _
      _ = compilation.files.filterMap (CompiledFile.source? root) := h.filterMap_source? root

/-- What a document gives whose claims are those of the files. -/
theorem Covers.canonicalOf_eq {made : List Claim} (h : compilation.Covers made) {doc : Json} {shape : Shape}
    (hshape : detect? doc = some shape) (hclaims : claims doc shape = made.map .ok)
    (hcontent : ∀ file ∈ compilation.files, contentOf? doc file.key = file.content) (root : Path) :
    canonicalOf doc root = .ok ⟨shape, compilation.sources root, compilation.table root⟩ := by
  rw [canonicalOf_eq_ok_iff]
  refine ⟨made, hshape, hclaims, ?_, ?_, ?_, ?_⟩
  · intro a ha b hb hindex
    obtain ⟨first, hfirst, hia, hka⟩ := h.of_claim a ha
    obtain ⟨second, hsecond, hib, hkb⟩ := h.of_claim b hb
    rw [hka, hkb, eq_of_index hfirst hsecond (by rw [← hia, ← hib, hindex])]
  · refine (mergeSort_eq_of_perm (h.sources root) ?_).symm
    rw [List.map_filterMap]
    refine compilation.nodup_indexes.sublist (filterMap_sublist_map ?_ _)
    intro file index hindex
    cases htree : file.tree <;> simp_all [CompiledFile.source?]
  · apply pairwise_lt_mergeSort
    rw [List.map_map]
    exact compilation.nodup_indexes
  · intro index file
    have hfile (claim : Claim) (compiled : CompiledFile) (hcompiled : compiled ∈ compilation.files)
        (hindex : claim.index = compiled.index) (hkey : claim.key = compiled.key) :
        compiled.tableEntry root = (claim.index, fileAt doc root claim.key) := by
      rw [CompiledFile.tableEntry, fileAt, hindex, hkey, hcontent compiled hcompiled]
    rw [table, List.mem_mergeSort, List.mem_map]
    constructor
    · rintro ⟨compiled, hcompiled, hentry⟩
      obtain ⟨claim, hclaim, hindex, hkey⟩ := h.of_file compiled hcompiled
      rw [hfile claim compiled hcompiled hindex hkey, Prod.mk.injEq] at hentry
      exact ⟨claim, hclaim, hentry⟩
    · rintro ⟨claim, hclaim, hentry⟩
      obtain ⟨compiled, hcompiled, hindex, hkey⟩ := h.of_claim claim hclaim
      exact ⟨compiled, hcompiled, by rw [hfile claim compiled hcompiled hindex hkey, hentry.1, hentry.2]⟩

end Compilation

/-! ## Reading documents -/

namespace Encoding

variable {compilation : Compilation}

theorem contentOf?_document (e : Encoding) {file : CompiledFile} (h : file ∈ compilation.files) :
    contentOf? (e.document compilation) file.key = file.content := by
  have hinput : (e.document compilation).get? "input" = some compilation.input := by cases e <;> rfl
  rw [← compilation.content_input h, contentOf?, Json.path?, hinput, Option.bind_some]

/-- A file with a tree is found among the entries. -/
theorem any_entries {files : List CompiledFile} {kept : CompiledFile → Bool} {entry : CompiledFile → Json}
    {p : Json → Bool} (hperm : files.Perm (compilation.files.filter kept))
    (h : ∀ file ∈ compilation.files, file.tree.isSome = true → kept file = true ∧ p (entry file) = true) :
    ((files.map fun file ↦ (file.key, entry file)).any fun (_, entry) ↦ p entry) = true := by
  obtain ⟨file, hfile, htree⟩ := compilation.exists_tree
  obtain ⟨hkept, hp⟩ := h file hfile htree
  rw [List.any_map, List.any_eq_true]
  exact ⟨file, hperm.mem_iff.mpr (List.mem_filter.mpr ⟨hfile, hkept⟩), hp⟩

/-- The claims of combined JSON: the files that are listed and have no entry, then the entries. -/
theorem combinedClaims_eq {doc : Json} {files listed : List CompiledFile} {entry : CompiledFile → Json}
    (hsources : (doc.get? "sources").bind Json.members? = some (files.map fun file ↦ (file.key, entry file)))
    (hclaim : ∀ file ∈ files, ∀ place, combinedClaim (sourceList doc) place file.key (entry file) = file.claim)
    (hlisted : (sourceList doc).zipIdx = listed.map fun file ↦ (file.key, file.index)) :
    combinedClaims doc =
      ((listed.filter fun file ↦ file.key ∉ files.map CompiledFile.key).map CompiledFile.bareClaim ++
        files.map CompiledFile.claim).map .ok := by
  have hget (key : String) : (Json.Members.get? key (files.map fun file ↦ (file.key, entry file))).isNone =
      decide (key ∉ files.map CompiledFile.key) := by
    rw [Bool.eq_iff_iff, Option.isNone_iff_eq_none, Json.Members.get?_eq_none_iff, List.map_map, decide_eq_true_eq]
    rfl
  rw [combinedClaims, hsources]
  simp only [hlisted, hget]
  rw [List.map_append, List.zipIdx_map, List.filter_map]
  simp only [List.map_map]
  congr 1
  apply map_zipIdx_eq
  intro file hfile place
  exact congrArg Except.ok (hclaim file hfile place)

/-- Combined JSON with entries for the files that `kept` names and a list of the others at their places. -/
theorem canonicalOf_combinedJson {doc : Json} {kept : CompiledFile → Bool} {entry : CompiledFile → Json}
    {listed : List CompiledFile} (root : Path) (hfoundry : isFoundry doc = false) (hhardhat : isHardhat doc = false)
    (hcontent : ∀ file ∈ compilation.files, contentOf? doc file.key = file.content)
    (hsources : (doc.get? "sources").bind Json.members? = (compilation.entries kept entry).members?)
    (hclaim : ∀ file ∈ compilation.files, ∀ place,
      combinedClaim (sourceList doc) place file.key (entry file) = file.claim)
    (hlisted : (sourceList doc).zipIdx = listed.map fun file ↦ (file.key, file.index))
    (hcomplete : compilation.Complete listed kept) :
    canonicalOf doc root = .ok ⟨.combinedJson, compilation.sources root, compilation.table root⟩ := by
  obtain ⟨files, hperm, hentries⟩ := compilation.exists_members_entries kept entry
  rw [hentries] at hsources
  have hcombined : isCombined doc = true := by
    rw [isCombined, hsources]
    apply any_entries (p := fun entry ↦ (combinedTree? entry).isSome) hperm
    intro file hfile hsome
    have hsame : combinedTree? (entry file) = file.tree.map .obj := congrArg Claim.tree (hclaim file hfile 0)
    exact ⟨hcomplete.tree file hfile hsome, by rwa [hsame, Option.isSome_map]⟩
  have hshape : detect? doc = some .combinedJson := by
    rw [detect?, hfoundry, hhardhat, hcombined]
    rfl
  have hclaims : claims doc .combinedJson =
      ((listed.filter fun file ↦ file.key ∉ files.map CompiledFile.key).map CompiledFile.bareClaim ++
        files.map CompiledFile.claim).map .ok := by
    refine combinedClaims_eq hsources ?_ hlisted
    intro file hfile
    exact hclaim file (List.mem_of_mem_filter (hperm.mem_iff.mp hfile))
  exact ((hcomplete.unlisted hperm).covers hperm).canonicalOf_eq hshape hclaims hcontent root

theorem canonicalOf_combined (lower : String → Bool) (root : Path) :
    canonicalOf ((combined lower).document compilation) root =
      .ok ⟨.combinedJson, compilation.sources root, compilation.table root⟩ := by
  refine canonicalOf_combinedJson root rfl rfl (fun _ ↦ contentOf?_document _) rfl ?_ rfl Compilation.complete_nil
  intro file _ place
  rw [combinedClaim, CompiledFile.entryIndex?_entry (file.treeKey_ne_id lower), CompiledFile.combinedTree?_entry]
  rfl

theorem canonicalOf_listed {lower kept : String → Bool} (hfits : (listed lower kept).Fits compilation) (root : Path) :
    canonicalOf ((listed lower kept).document compilation) root =
      .ok ⟨.combinedJson, compilation.sources root, compilation.table root⟩ := by
  have hlist : sourceList ((listed lower kept).document compilation) = compilation.byIndex.map CompiledFile.key := by
    have hitems : sourceList ((listed lower kept).document compilation) =
        ((compilation.byIndex.map CompiledFile.key).map Json.str).filterMap Json.string? := rfl
    rw [hitems, List.filterMap_map]
    exact List.filterMap_some
  have hplaces := compilation.zipIdx_byIndex hfits
  refine canonicalOf_combinedJson root rfl rfl (fun _ ↦ contentOf?_document _) rfl ?_ (hlist ▸ hplaces)
    (Compilation.complete_entered compilation.perm_byIndex kept)
  intro file hfile place
  have hindex : (compilation.byIndex.map CompiledFile.key).idxOf? file.key = some file.index := by
    have hmem : (file.key, file.index) ∈ (compilation.byIndex.map CompiledFile.key).zipIdx := by
      rw [hplaces]
      exact List.mem_map.mpr ⟨file, compilation.perm_byIndex.mem_iff.mpr hfile, rfl⟩
    exact idxOf?_of_getElem? ((compilation.perm_byIndex.map _).nodup_iff.mpr compilation.nodup_keys)
      (List.mem_zipIdx_iff_getElem?.mp hmem)
  rw [combinedClaim, entryIndex?, CompiledFile.get?_entry_id (file.treeKey_ne_id lower),
    CompiledFile.combinedTree?_entry, hlist, hindex]
  rfl

theorem canonicalOf_hardhat (version : String) (root : Path) :
    canonicalOf ((hardhat version).document compilation) root =
      .ok ⟨.hardhatBuildInfo, compilation.sources root, compilation.table root⟩ := by
  obtain ⟨files, hperm, hentries⟩ := compilation.exists_members_entries (fun _ ↦ true) fun file ↦
    file.entry "ast" (some (.nat file.index))
  have hsources : outputSources? ((hardhat version).document compilation) =
      some (files.map fun file ↦ (file.key, file.entry "ast" (some (.nat file.index)))) := by
    rw [← hentries]
    rfl
  have hfoundry : isFoundry ((hardhat version).document compilation) = false := by
    have hids : ((hardhat version).document compilation).get? "source_id_to_path" = none := rfl
    rw [isFoundry, hids, hsources]
    simp [versionedFile?, CompiledFile.at?_entry]
  have hhardhat : isHardhat ((hardhat version).document compilation) = true := by
    have hformat : (((hardhat version).document compilation).get? "_format").bind Json.string? =
      some (hardhatFormat ++ version) := rfl
    rw [isHardhat, hformat]
    simp
  have hshape : detect? ((hardhat version).document compilation) = some .hardhatBuildInfo := by
    rw [detect?, hfoundry, hhardhat]
    rfl
  have hclaims : claims ((hardhat version).document compilation) .hardhatBuildInfo =
      (([] : List CompiledFile).map CompiledFile.bareClaim ++ files.map CompiledFile.claim).map .ok := by
    rw [claims, hardhatClaims, hsources]
    simp only
    rw [List.map_nil, List.nil_append, List.map_map, List.map_map]
    apply List.map_congr_left
    intro file _
    have hne : "ast" ≠ "id" := by decide
    simp only [Function.comp_apply, CompiledFile.entryIndex?_entry hne, CompiledFile.get?_entry_tree hne]
    rfl
  exact (Compilation.complete_nil.covers hperm).canonicalOf_eq hshape hclaims (fun _ ↦ contentOf?_document _) root

/-- Build info with numbered files and entries for the files that `kept` names. -/
theorem canonicalOf_foundryBuildInfo {doc : Json} {kept : CompiledFile → Bool} {entry : CompiledFile → Json}
    {numbered : List CompiledFile} (root : Path) (hfoundry : isFoundry doc = true)
    (hcontent : ∀ file ∈ compilation.files, contentOf? doc file.key = file.content)
    (hsources : outputSources? doc = (compilation.entries kept entry).members?)
    (hnumbered : numberedFiles doc = .ok (numbered.map fun file ↦ (file.index, file.key)))
    (hclaim : ∀ file ∈ compilation.files, foundryClaim? (numbered.map fun file ↦ (file.index, file.key)) file.key
      (entry file) = some (.ok file.claim))
    (hcomplete : compilation.Complete numbered kept) :
    canonicalOf doc root = .ok ⟨.foundryBuildInfo, compilation.sources root, compilation.table root⟩ := by
  obtain ⟨files, hperm, hentries⟩ := compilation.exists_members_entries kept entry
  have hshape : detect? doc = some .foundryBuildInfo := by
    rw [detect?, hfoundry]
    rfl
  have hclaims : claims doc .foundryBuildInfo =
      (numbered.map CompiledFile.bareClaim ++ files.map CompiledFile.claim).map .ok := by
    rw [claims, foundryClaims, hnumbered]
    simp only
    rw [hsources, hentries, List.map_append, List.map_map, List.map_map, List.map_map]
    congr 1
    rw [Option.getD_some, List.filterMap_map, ← List.filterMap_eq_map (f := Except.ok ∘ CompiledFile.claim)]
    apply List.filterMap_congr
    intro file hfile
    exact hclaim file (List.mem_of_mem_filter (hperm.mem_iff.mp hfile))
  exact (hcomplete.covers hperm).canonicalOf_eq hshape hclaims hcontent root

theorem canonicalOf_versioned (root : Path) : canonicalOf (versioned.document compilation) root =
    .ok ⟨.foundryBuildInfo, compilation.sources root, compilation.table root⟩ := by
  refine canonicalOf_foundryBuildInfo root ?_ (fun _ ↦ contentOf?_document _) rfl rfl ?_ Compilation.complete_nil
  · obtain ⟨files, hperm, hentries⟩ := compilation.exists_members_entries (fun _ ↦ true) fun file ↦
      .arr [.obj [("source_file", file.entry "ast" (some (.nat file.index)))]]
    have hsources : outputSources? (versioned.document compilation) = some (files.map fun file ↦
        (file.key, .arr [.obj [("source_file", file.entry "ast" (some (.nat file.index)))]])) := by
      rw [← hentries]
      rfl
    rw [isFoundry, hsources, Bool.or_eq_true]
    exact .inr (any_entries (p := fun entry ↦ (versionedFile? entry).isSome) hperm fun _ _ _ ↦ ⟨rfl, rfl⟩)
  · intro file _
    have hne : "ast" ≠ "id" := by decide
    have hfile : versionedFile? (.arr [.obj [("source_file", file.entry "ast" (some (.nat file.index)))]]) =
      some (file.entry "ast" (some (.nat file.index))) := rfl
    have hnumber : numberOf? [] file.key = none := rfl
    simp only [foundryClaim?, hfile, List.map_nil, hnumber, Option.map_some, CompiledFile.entryIndex?_entry hne,
      CompiledFile.get?_entry_tree hne]
    rfl

theorem numberOf?_of_mem {numbered : List (Nat × String)} (hnodup : (numbered.map Prod.snd).Nodup) {index : Nat}
    {key : String} (h : (index, key) ∈ numbered) : numberOf? numbered key = some index := by
  have hsome : (numbered.reverse.find? fun file ↦ file.2 == key).isSome = true := by
    rw [List.find?_isSome]
    exact ⟨(index, key), List.mem_reverse.mpr h, beq_self_eq_true key⟩
  obtain ⟨found, hfound⟩ := Option.isSome_iff_exists.mp hsome
  have hkey : found.2 = key := by simpa using List.find?_some hfound
  have hmem : found ∈ numbered := List.mem_reverse.mp (List.mem_of_find?_eq_some hfound)
  rw [numberOf?, hfound, List.inj_on_of_nodup_map hnodup hmem h hkey]
  rfl

/-- The files of the map from indexes, in the order in which they are numbered. -/
theorem exists_numberedFiles (own : String → Option Json) (kept : String → Bool) :
    ∃ files : List CompiledFile, files.Perm compilation.files ∧
      numberedFiles ((numbered own kept).document compilation) = .ok (files.map fun file ↦ (file.index, file.key)) := by
  have hids : (compilation.files.map fun file ↦ toString file.index).Nodup := by
    refine List.Nodup.map_on ?_ compilation.nodup_indexes.of_map
    intro a ha b hb hsame
    have hread := Text.unsigned?_toString (compilation.index_lt a ha)
    rw [hsame, Text.unsigned?_toString (compilation.index_lt b hb)] at hread
    exact Compilation.eq_of_index ha hb (Option.some.inj hread).symm
  obtain ⟨entered, hperm, hsort⟩ := Json.Members.exists_sort_eq
    (f := fun file : CompiledFile ↦ (toString file.index, .str file.key)) hids
  have hmembers : (((numbered own kept).document compilation).get? "source_id_to_path").bind Json.members? =
      some (entered.map fun file ↦ (toString file.index, .str file.key)) := congrArg some hsort
  have hread : (entered.map fun file ↦ (toString file.index, Json.str file.key)).mapM
      (fun (id, file) ↦ numberedFile id file) = .ok (entered.map fun file ↦ (file.index, file.key)) := by
    rw [List.mapM_map]
    apply Outcome.mapM_eq_pure
    intro file hfile
    have hindex := Text.unsigned?_toString (compilation.index_lt file (hperm.mem_iff.mp hfile))
    simp only [Function.comp_apply, numberedFile, hindex, Json.string?]
    rfl
  have hsorted : (sortNumbered (entered.map fun file ↦ (file.index, file.key))).Perm
      (entered.map fun file ↦ (file.index, file.key)) := List.mergeSort_perm _ _
  obtain ⟨files, hfiles, hnumbered⟩ := exists_map_of_perm hsorted
  refine ⟨files, hfiles.trans hperm, ?_⟩
  rw [numberedFiles, hmembers]
  simp only
  rw [hread, ← hnumbered]
  rfl

theorem canonicalOf_numbered (own : String → Option Json) (kept : String → Bool) (root : Path) :
    canonicalOf ((numbered own kept).document compilation) root =
      .ok ⟨.foundryBuildInfo, compilation.sources root, compilation.table root⟩ := by
  obtain ⟨files, hperm, hnumbered⟩ := exists_numberedFiles own kept
  refine canonicalOf_foundryBuildInfo root rfl (fun _ ↦ contentOf?_document _) rfl hnumbered ?_
    (Compilation.complete_entered hperm kept)
  intro file hfile
  have hnumber : numberOf? (files.map fun file ↦ (file.index, file.key)) file.key = some file.index := by
    apply numberOf?_of_mem
    · rw [List.map_map]
      exact (hperm.map _).nodup_iff.mpr compilation.nodup_keys
    · exact List.mem_map.mpr ⟨file, hperm.mem_iff.mpr hfile, rfl⟩
  have htree : (file.entry "ast" (own file.key)).get? "ast" = file.tree.map .obj :=
    CompiledFile.get?_entry_tree (by decide)
  unfold foundryClaim?
  simp only [hnumber]
  rw [CompiledFile.claim, ← htree]
  rfl

/-- A document gives the normal form of the compilation that it writes. -/
theorem canonicalOf_document {e : Encoding} (hfits : e.Fits compilation) (root : Path) :
    canonicalOf (e.document compilation) root =
      .ok ⟨e.shape, compilation.sources root, compilation.table root⟩ := by
  cases e with
  | combined lower => exact canonicalOf_combined lower root
  | listed lower kept => exact canonicalOf_listed hfits root
  | hardhat version => exact canonicalOf_hardhat version root
  | numbered own kept => exact canonicalOf_numbered own kept root
  | versioned => exact canonicalOf_versioned root

end Encoding

/-- Every document that writes a compilation is read, and gives the trees and the table of its normal form. So two such
documents give the same trees, the same table, the same arenas and failures, and the same insights. -/
theorem encodings_agree (compilation : Compilation) (root : Path) (e e' : Encoding) (h : e.Fits compilation)
    (h' : e'.Fits compilation) :
    ∃ canonical canonical', canonicalOf (e.document compilation) root = .ok canonical ∧
      canonicalOf (e'.document compilation) root = .ok canonical' ∧
      canonical.shape = e.shape ∧ canonical'.shape = e'.shape ∧
      canonical.sources = compilation.sources root ∧ canonical'.sources = compilation.sources root ∧
      canonical.table = compilation.table root ∧ canonical'.table = compilation.table root ∧
      Build.build canonical.sources = Build.build canonical'.sources ∧
      ∀ (set : TemplateSet) (disk : Disk),
        Match.run (Build.build canonical.sources).roots set (.ofDisk canonical.table disk) =
          Match.run (Build.build canonical'.sources).roots set (.ofDisk canonical'.table disk) := by
  have hfirst := Encoding.canonicalOf_document h root
  have hsecond := Encoding.canonicalOf_document h' root
  refine ⟨_, _, hfirst, hsecond, rfl, rfl, rfl, rfl, rfl, rfl, rfl, ?_⟩
  intro set disk
  rfl

/-- A file without a tree, and keys that ascend in another order than the indexes. -/
def threeFiles : Compilation where
  files := [
    { key := "lib/Math.sol", index := 1, tree := some [("nodeType", .str "SourceUnit")], content := none },
    { key := "Token.sol", index := 0, tree := some [("nodeType", .str "SourceUnit")], content := some "struct S {}" },
    { key := "Abi.sol", index := 2, tree := none, content := some "" }]
  nodup_keys := by decide
  nodup_indexes := by decide
  index_lt := by decide
  exists_tree := ⟨_, List.mem_cons_self, rfl⟩

theorem threeFiles_encodings_agree :
    (Encoding.listed (· == "Token.sol") fun _ ↦ false).Fits threeFiles ∧ Encoding.versioned.Fits threeFiles ∧
      ∃ canonical canonical',
        canonicalOf ((Encoding.listed (· == "Token.sol") fun _ ↦ false).document threeFiles) ⟨"/p"⟩ = .ok canonical ∧
        canonicalOf (Encoding.versioned.document threeFiles) ⟨"/p"⟩ = .ok canonical' ∧
        canonical.sources = canonical'.sources ∧ canonical.table = canonical'.table := by
  have hlisted : (Encoding.listed (· == "Token.sol") fun _ ↦ false).Fits threeFiles := by
    unfold Encoding.Fits
    decide
  obtain ⟨canonical, canonical', h, h', -, -, hsources, hsources', htable, htable', -⟩ :=
    encodings_agree threeFiles ⟨"/p"⟩ _ .versioned hlisted trivial
  exact ⟨hlisted, trivial, canonical, canonical', h, h', hsources.trans hsources'.symm, htable.trans htable'.symm⟩

end SolAudit.CompilerOutput
