import SolAudit.Proofs.CompilerOutput.Accounting

/-!
# Indexes of files

What a document says of the indexes of its files, for each shape where the shape says it (`Assigns`). These are the
claims of the document (`mem_made_iff`), and there is no fault in them if all its indexes can be read
(`exists_claims_of_readable`).
-/

namespace SolAudit.CompilerOutput

open Build (SourceTree)

/-- The object with an entry for each file. -/
def entries? (doc : Json) : Shape → Option Json.Members
  | .combinedJson => (doc.get? "sources").bind Json.members?
  | .hardhatBuildInfo => (doc.path? ["output", "sources"]).bind Json.members?
  | .foundryBuildInfo => (doc.path? ["output", "sources"]).bind Json.members?

/-- The file of an entry, which may be a list of files by compiler version: the first one then. -/
def fileOf? : Shape → Json → Option Json
  | .foundryBuildInfo, .arr versions => versions[0]?.bind fun version ↦ version.get? "source_file"
  | _, entry => some entry

/-- What stands where the tree of a file should. -/
def treeOf? : Shape → Json → Option Json
  | .combinedJson, file => (file.get? "AST").or (file.get? "ast")
  | .hardhatBuildInfo, file => file.get? "ast"
  | .foundryBuildInfo, file => file.get? "ast"

/-- The entries of the map from indexes to files. -/
def numbers (doc : Json) : Json.Members := ((doc.get? "source_id_to_path").bind Json.members?).getD []

/-- The map has a file at an index. -/
def Numbers (doc : Json) (index : Nat) (key : String) : Prop :=
  ∃ id, (id, .str key) ∈ numbers doc ∧ Text.unsigned? Text.indexBound id.toList = some index

/-- The source list has a file at an index, where only its texts count. -/
def Listed (doc : Json) (index : Nat) (key : String) : Prop :=
  ∃ items, doc.get? "sourceList" = some (.arr items) ∧ (items.filterMap Json.string?)[index]? = some key

/-- A file says what its index is. -/
def Says (file : Json) (index : Nat) : Prop := file.get? "id" = some (.int index)

/-- The index of an entry: its own one, its first place in the source list or its place among the entries; in a
document with a map from indexes to files, the greatest index of its file there and else its own one. -/
inductive EntryIndex (doc : Json) (place : Nat) (key : String) (file : Json) : Shape → Nat → Prop where
  | own {index : Nat} (hown : Says file index) : EntryIndex doc place key file .combinedJson index
  | listed {index : Nat} (hown : ∀ other, ¬ Says file other) (hlist : Listed doc index key)
      (hfirst : ∀ other, Listed doc other key → index ≤ other) : EntryIndex doc place key file .combinedJson index
  | placed (hown : ∀ other, ¬ Says file other) (hnone : ∀ other, ¬ Listed doc other key) :
      EntryIndex doc place key file .combinedJson place
  | given {index : Nat} (hown : Says file index) : EntryIndex doc place key file .hardhatBuildInfo index
  | numbered {index : Nat} (hnumber : Numbers doc index key)
      (hgreatest : ∀ other, Numbers doc other key → other ≤ index) : EntryIndex doc place key file .foundryBuildInfo index
  | unnumbered {index : Nat} (hnone : ∀ other, ¬ Numbers doc other key) (hown : Says file index) :
      EntryIndex doc place key file .foundryBuildInfo index

/-- An index for a key, with what stands where its tree should: that of an entry, of a file in the map from indexes to
files, or of a listed file without entry. -/
inductive Assigns (doc : Json) : Shape → Claim → Prop where
  | entry {shape : Shape} {entries : Json.Members} {place : Nat} {key : String} {entry file : Json} {index : Nat}
      (hentries : entries? doc shape = some entries) (hentry : entries[place]? = some (key, entry))
      (hfile : fileOf? shape entry = some file) (hindex : EntryIndex doc place key file shape index) :
      Assigns doc shape ⟨index, key, treeOf? shape file⟩
  | numbered {index : Nat} {key : String} (h : Numbers doc index key) :
      Assigns doc .foundryBuildInfo ⟨index, key, none⟩
  | listed {entries : Json.Members} {index : Nat} {key : String} (hentries : entries? doc .combinedJson = some entries)
      (hlist : Listed doc index key) (hnone : entries.get? key = none) :
      Assigns doc .combinedJson ⟨index, key, none⟩

/-- Every index that the document is to say can be read. -/
structure Readable (doc : Json) (shape : Shape) : Prop where
  numbers : shape = .foundryBuildInfo → ∀ member ∈ numbers doc,
    (∃ index, Text.unsigned? Text.indexBound member.1.toList = some index) ∧ ∃ key, member.2 = .str key
  entries : ∀ entries, entries? doc shape = some entries → ∀ place key entry file,
    entries[place]? = some (key, entry) → fileOf? shape entry = some file →
      ∃ index, EntryIndex doc place key file shape index

variable {doc : Json}

theorem entryIndex?_eq_some_iff {file : Json} {index : Nat} : entryIndex? file = some index ↔ Says file index := by
  rw [entryIndex?, Option.bind_eq_some_iff, Says]
  constructor
  · rintro ⟨id, hid, hindex⟩
    cases id with
    | int n =>
      obtain ⟨hnonneg, heq⟩ := Option.ite_none_right_eq_some.mp hindex
      rw [hid, ← Int.toNat_of_nonneg hnonneg, Option.some.inj heq]
    | _ => cases hindex
  · intro hid
    exact ⟨_, hid, by simp [Json.index?]⟩

theorem entryIndex?_eq_none_iff {file : Json} : entryIndex? file = none ↔ ∀ index, ¬ Says file index := by
  simp only [← entryIndex?_eq_some_iff, Option.eq_none_iff_forall_ne_some, ne_eq]

theorem listed_iff {index : Nat} {key : String} : Listed doc index key ↔ (sourceList doc)[index]? = some key := by
  rw [Listed, sourceList]
  constructor
  · rintro ⟨items, hitems, hkey⟩
    simpa [hitems, Json.items?] using hkey
  · intro hkey
    cases hlist : doc.get? "sourceList" with
    | none => simp [hlist] at hkey
    | some list =>
      cases list with
      | arr items => exact ⟨items, rfl, by simpa [hlist, Json.items?] using hkey⟩
      | _ => simp [hlist, Json.items?] at hkey

theorem idxOf?_sourceList_eq_some_iff {index : Nat} {key : String} : (sourceList doc).idxOf? key = some index ↔
    Listed doc index key ∧ ∀ other, Listed doc other key → index ≤ other := by
  simp only [List.idxOf?_eq_some_iff, listed_iff, List.getElem?_eq_some_iff]
  constructor
  · rintro ⟨hlt, hkey, hfirst⟩
    refine ⟨⟨hlt, hkey⟩, ?_⟩
    rintro other ⟨hless, hother⟩
    by_contra hle
    exact hfirst other (Nat.lt_of_not_le hle) hother
  · rintro ⟨⟨hlt, hkey⟩, hfirst⟩
    refine ⟨hlt, hkey, ?_⟩
    intro other hless hother
    exact Nat.not_lt.mpr (hfirst other ⟨hless.trans hlt, hother⟩) hless

theorem idxOf?_sourceList_eq_none_iff {key : String} :
    (sourceList doc).idxOf? key = none ↔ ∀ other, ¬ Listed doc other key := by
  simp only [List.idxOf?_eq_none_iff, List.mem_iff_getElem?, listed_iff, not_exists]

theorem entryIndex_combinedJson_iff {place index : Nat} {key : String} {entry : Json} :
    EntryIndex doc place key entry .combinedJson index ↔
      (combinedClaim (sourceList doc) place key entry).index = index := by
  rw [combinedClaim]
  constructor
  · intro h
    cases h with
    | own hown => simp [entryIndex?_eq_some_iff.mpr hown]
    | listed hown hlist hfirst =>
      simp [entryIndex?_eq_none_iff.mpr hown, idxOf?_sourceList_eq_some_iff.mpr ⟨hlist, hfirst⟩]
    | placed hown hnone => simp [entryIndex?_eq_none_iff.mpr hown, idxOf?_sourceList_eq_none_iff.mpr hnone]
  · intro h
    cases hown : entryIndex? entry with
    | some own =>
      simp only [hown] at h
      exact .own (entryIndex?_eq_some_iff.mp (h ▸ hown))
    | none =>
      simp only [hown] at h
      cases hlist : (sourceList doc).idxOf? key with
      | some first =>
        rw [hlist, Option.getD_some] at h
        obtain ⟨hfirst, hleast⟩ := idxOf?_sourceList_eq_some_iff.mp (h ▸ hlist)
        exact .listed (entryIndex?_eq_none_iff.mp hown) hfirst hleast
      | none =>
        rw [hlist, Option.getD_none] at h
        exact h ▸ .placed (entryIndex?_eq_none_iff.mp hown) (idxOf?_sourceList_eq_none_iff.mp hlist)

theorem combinedClaim_eq (list : List String) (place : Nat) (key : String) (entry : Json) :
    combinedClaim list place key entry =
      ⟨(combinedClaim list place key entry).index, key, treeOf? .combinedJson entry⟩ := by
  simp only [combinedClaim, combinedTree?, treeOf?]
  cases entry.get? "AST" with
  | none => rfl
  | some tree => rfl

theorem entryIndex_hardhatBuildInfo_iff {place index : Nat} {key : String} {entry : Json} :
    EntryIndex doc place key entry .hardhatBuildInfo index ↔ entryIndex? entry = some index := by
  rw [entryIndex?_eq_some_iff]
  constructor
  · rintro ⟨⟩
    assumption
  · exact .given

theorem mem_sortNumbered {files : List (Nat × String)} {file : Nat × String} :
    file ∈ sortNumbered files ↔ file ∈ files :=
  List.mem_mergeSort

theorem pairwise_sortNumbered (files : List (Nat × String)) :
    (sortNumbered files).Pairwise fun a b ↦ a.1 ≤ b.1 := by
  have hsorted : (sortNumbered files).Pairwise fun a b ↦ a.1 < b.1 || (a.1 == b.1 && !decide (b.2 < a.2)) := by
    apply List.pairwise_mergeSort
    · intro a b c hab hbc
      simp only [Bool.or_eq_true, Bool.and_eq_true, decide_eq_true_eq, beq_iff_eq, Bool.not_eq_true',
        decide_eq_false_iff_not, not_lt] at hab hbc ⊢
      rcases hab with hab | ⟨hab, hkey⟩
      · rcases hbc with hbc | ⟨hbc, -⟩ <;> exact .inl (by omega)
      · rcases hbc with hbc | ⟨hbc, hkey'⟩
        · exact .inl (by omega)
        · exact .inr ⟨hab.trans hbc, hkey.trans hkey'⟩
    · intro a b
      simp only [Bool.or_eq_true, Bool.and_eq_true, decide_eq_true_eq, beq_iff_eq, Bool.not_eq_true',
        decide_eq_false_iff_not, not_lt]
      rcases Nat.lt_trichotomy a.1 b.1 with hlt | heq | hgt
      · exact .inl (.inl hlt)
      · exact (le_total a.2 b.2).imp (fun h ↦ .inr ⟨heq, h⟩) fun h ↦ .inr ⟨heq.symm, h⟩
      · exact .inr (.inl hgt)
  apply hsorted.imp
  intro a b hab
  simp only [Bool.or_eq_true, Bool.and_eq_true, decide_eq_true_eq, beq_iff_eq] at hab
  omega

/-- A file has the greatest of its indexes. -/
theorem numberOf?_eq_some_iff {files : List (Nat × String)} (hsorted : files.Pairwise fun a b ↦ a.1 ≤ b.1) {key : String}
    {index : Nat} : numberOf? files key = some index ↔
      (index, key) ∈ files ∧ ∀ other, (other, key) ∈ files → other ≤ index := by
  have hgreatest {found : Nat} (h : numberOf? files key = some found) :
      (found, key) ∈ files ∧ ∀ other, (other, key) ∈ files → other ≤ found := by
    obtain ⟨⟨index, name⟩, hfind, rfl⟩ := Option.map_eq_some_iff.mp h
    obtain ⟨hname, later, earlier, hsplit, hlater⟩ := List.find?_eq_some_iff_append.mp hfind
    cases beq_iff_eq.mp hname
    have hfiles : files = earlier.reverse ++ (index, name) :: later.reverse := by
      rw [← List.reverse_reverse files, hsplit]
      simp
    rw [hfiles] at hsorted ⊢
    refine ⟨List.mem_append_right _ List.mem_cons_self, ?_⟩
    intro other hother
    rcases List.mem_append.mp hother with hother | hother
    · exact (List.pairwise_append.mp hsorted).2.2 _ hother _ List.mem_cons_self
    · rcases List.mem_cons.mp hother with heq | hother
      · cases heq
        exact Nat.le_refl _
      · simpa using hlater _ (List.mem_reverse.mp hother)
  constructor
  · exact hgreatest
  · rintro ⟨hmem, hmax⟩
    have hsome : (numberOf? files key).isSome = true := by
      rw [numberOf?, Option.isSome_map, List.find?_isSome]
      exact ⟨(index, key), List.mem_reverse.mpr hmem, beq_self_eq_true key⟩
    obtain ⟨found, hfound⟩ := Option.isSome_iff_exists.mp hsome
    obtain ⟨hmem', hmax'⟩ := hgreatest hfound
    rw [hfound, Nat.le_antisymm (hmax found hmem') (hmax' index hmem)]

theorem numberOf?_eq_none_iff {files : List (Nat × String)} {key : String} :
    numberOf? files key = none ↔ ∀ other, (other, key) ∉ files := by
  rw [numberOf?, Option.map_eq_none_iff, List.find?_eq_none]
  constructor
  · intro h other hmem
    exact h _ (List.mem_reverse.mpr hmem) (beq_self_eq_true key)
  · rintro h ⟨other, name⟩ hmem hname
    cases beq_iff_eq.mp hname
    exact h other (List.mem_reverse.mp hmem)

theorem numberedFile_eq_ok_iff {id : String} {file : Json} {index : Nat} {key : String} :
    numberedFile id file = .ok (index, key) ↔ Text.unsigned? Text.indexBound id.toList = some index ∧ file = .str key := by
  rw [numberedFile]
  cases Text.unsigned? Text.indexBound id.toList with
  | none => simp
  | some number => cases file <;> simp [Json.string?]

theorem numberedFiles_eq :
    numberedFiles doc = sortNumbered <$> (numbers doc).mapM fun (id, file) ↦ numberedFile id file := by
  have hnil : sortNumbered [] = [] := List.mergeSort_nil
  rw [numberedFiles, numbers]
  cases (doc.get? "source_id_to_path").bind Json.members? with
  | none => exact congrArg Except.ok hnil.symm
  | some ids => rfl

theorem numberedFiles_eq_ok_iff {files : List (Nat × String)} : numberedFiles doc = .ok files ↔
    ∃ list, ((numbers doc).mapM fun (id, file) ↦ numberedFile id file) = .ok list ∧ files = sortNumbered list := by
  rw [numberedFiles_eq]
  cases (numbers doc).mapM fun (id, file) ↦ numberedFile id file with
  | error fault => simp [Functor.map, Except.map]
  | ok list => simp [Functor.map, Except.map, @eq_comm _ files]

/-- The map is read exactly if every entry of it has a number and a string. -/
theorem exists_numberedFiles_iff : (∃ files, numberedFiles doc = .ok files) ↔ ∀ member ∈ numbers doc,
    (∃ index, Text.unsigned? Text.indexBound member.1.toList = some index) ∧ ∃ key, member.2 = .str key := by
  have hread : (∃ files, numberedFiles doc = .ok files) ↔
      ∃ list, ((numbers doc).mapM fun (id, file) ↦ numberedFile id file) = .ok list := by
    simp only [numberedFiles_eq_ok_iff]
    constructor
    · rintro ⟨files, list, hlist, -⟩
      exact ⟨list, hlist⟩
    · rintro ⟨list, hlist⟩
      exact ⟨_, list, hlist, rfl⟩
  rw [hread, Outcome.exists_mapM_iff]
  refine forall₂_congr fun member _ ↦ ?_
  simp only [Prod.exists, numberedFile_eq_ok_iff]
  constructor
  · rintro ⟨index, key, hindex, hkey⟩
    exact ⟨⟨index, hindex⟩, key, hkey⟩
  · rintro ⟨⟨index, hindex⟩, key, hkey⟩
    exact ⟨index, key, hindex, hkey⟩

/-- The files of a map that is read. -/
theorem mem_numberedFiles {files : List (Nat × String)} (h : numberedFiles doc = .ok files) {index : Nat}
    {key : String} : (index, key) ∈ files ↔ Numbers doc index key := by
  obtain ⟨list, hlist, rfl⟩ := numberedFiles_eq_ok_iff.mp h
  rw [mem_sortNumbered, Outcome.mem_mapM_iff hlist, Numbers]
  constructor
  · rintro ⟨⟨id, file⟩, hmem, hfile⟩
    obtain ⟨hindex, rfl⟩ := numberedFile_eq_ok_iff.mp hfile
    exact ⟨id, hmem, hindex⟩
  · rintro ⟨id, hmem, hindex⟩
    exact ⟨(id, .str key), hmem, numberedFile_eq_ok_iff.mpr ⟨hindex, rfl⟩⟩

theorem pairwise_numberedFiles {files : List (Nat × String)} (h : numberedFiles doc = .ok files) :
    files.Pairwise fun a b ↦ a.1 ≤ b.1 := by
  obtain ⟨list, -, rfl⟩ := numberedFiles_eq_ok_iff.mp h
  exact pairwise_sortNumbered list

theorem entryIndex_foundryBuildInfo_iff {files : List (Nat × String)} (h : numberedFiles doc = .ok files)
    {place index : Nat} {key : String} {file : Json} : EntryIndex doc place key file .foundryBuildInfo index ↔
      (match numberOf? files key with
        | some index => some index
        | none => entryIndex? file) = some index := by
  have hsome {number : Nat} : numberOf? files key = some number ↔
      Numbers doc number key ∧ ∀ other, Numbers doc other key → other ≤ number := by
    simp only [numberOf?_eq_some_iff (pairwise_numberedFiles h), mem_numberedFiles h]
  have hnone : numberOf? files key = none ↔ ∀ other, ¬ Numbers doc other key := by
    simp only [numberOf?_eq_none_iff, mem_numberedFiles h]
  constructor
  · intro hindex
    cases hindex with
    | numbered hnumber hgreatest => rw [hsome.mpr ⟨hnumber, hgreatest⟩]
    | unnumbered hnot hown => rw [hnone.mpr hnot, entryIndex?_eq_some_iff.mpr hown]
  · intro hindex
    cases hnumber : numberOf? files key with
    | some number =>
      rw [hnumber] at hindex
      cases hindex
      exact .numbered (hsome.mp hnumber).1 (hsome.mp hnumber).2
    | none =>
      rw [hnumber] at hindex
      exact .unnumbered (hnone.mp hnumber) (entryIndex?_eq_some_iff.mp hindex)

/-- A key that the map has at one index only is given that index. -/
theorem entryIndex_iff_of_numbers {key : String} {number : Nat} (h : ∀ index, Numbers doc index key ↔ index = number)
    {place index : Nat} {file : Json} : EntryIndex doc place key file .foundryBuildInfo index ↔ index = number := by
  constructor
  · intro hindex
    cases hindex with
    | numbered hnumber => exact (h index).mp hnumber
    | unnumbered hnone => exact absurd ((h number).mpr rfl) (hnone number)
  · rintro rfl
    exact .numbered ((h _).mpr rfl) fun other hother ↦ ((h other).mp hother).le

/-! ## Claims -/

theorem mem_combinedClaims_iff {claim : Claim} : .ok claim ∈ combinedClaims doc ↔ Assigns doc .combinedJson claim := by
  rw [combinedClaims]
  cases hsources : (doc.get? "sources").bind Json.members? with
  | none =>
    have hnone : entries? doc .combinedJson = none := hsources
    constructor
    · intro h
      cases List.mem_singleton.mp h
    · intro h
      cases h with
      | entry hentries => cases hnone.symm.trans hentries
      | listed hentries => cases hnone.symm.trans hentries
  | some sources =>
    have hentries : entries? doc .combinedJson = some sources := hsources
    rw [List.mem_append]
    constructor
    · rintro (h | h)
      · obtain ⟨⟨key, index⟩, hmem, hclaim⟩ := List.mem_map.mp h
        obtain ⟨hlist, hnone⟩ := List.mem_filter.mp hmem
        cases hclaim
        have hlisted : Listed doc index key := listed_iff.mpr (List.mem_zipIdx_iff_getElem?.mp hlist)
        exact .listed hentries hlisted (Option.isNone_iff_eq_none.mp hnone)
      · obtain ⟨⟨⟨key, entry⟩, place⟩, hmem, hclaim⟩ := List.mem_map.mp h
        cases hclaim
        rw [combinedClaim_eq]
        exact .entry hentries (List.mem_zipIdx_iff_getElem?.mp hmem) rfl (entryIndex_combinedJson_iff.mpr rfl)
    · intro h
      cases h with
      | @entry _ entries place key entry file index hsome hentry hfile hindex =>
        cases hentries.symm.trans hsome
        cases hfile
        right
        refine List.mem_map.mpr ⟨((key, entry), place), List.mem_zipIdx_iff_getElem?.mpr hentry, ?_⟩
        rw [← entryIndex_combinedJson_iff.mp hindex, ← combinedClaim_eq]
      | @listed entries index key hsome hlist hnone =>
        cases hentries.symm.trans hsome
        left
        have hplace : (key, index) ∈ (sourceList doc).zipIdx := List.mem_zipIdx_iff_getElem?.mpr (listed_iff.mp hlist)
        refine List.mem_map.mpr ⟨(key, index), List.mem_filter.mpr ⟨hplace, ?_⟩, rfl⟩
        exact Option.isNone_iff_eq_none.mpr hnone

theorem mem_hardhatClaims_iff {claim : Claim} :
    .ok claim ∈ hardhatClaims doc ↔ Assigns doc .hardhatBuildInfo claim := by
  rw [hardhatClaims]
  cases hsources : outputSources? doc with
  | none =>
    have hnone : entries? doc .hardhatBuildInfo = none := hsources
    constructor
    · intro h
      cases List.mem_singleton.mp h
    · intro h
      cases h with
      | entry hentries => cases hnone.symm.trans hentries
  | some sources =>
    have hentries : entries? doc .hardhatBuildInfo = some sources := hsources
    constructor
    · intro h
      obtain ⟨⟨key, entry⟩, hmem, hclaim⟩ := List.mem_map.mp h
      obtain ⟨place, hplace⟩ := List.mem_iff_getElem?.mp hmem
      simp only at hclaim
      split at hclaim
      · rename_i index hindex
        cases hclaim
        exact .entry hentries hplace rfl (.given (entryIndex?_eq_some_iff.mp hindex))
      · cases hclaim
    · intro h
      cases h with
      | @entry _ entries place key entry file index hsome hentry hfile hindex =>
        cases hentries.symm.trans hsome
        cases hfile
        refine List.mem_map.mpr ⟨(key, entry), List.mem_of_getElem? hentry, ?_⟩
        simp only [entryIndex_hardhatBuildInfo_iff.mp hindex]
        rfl

theorem foundryClaim?_eq (files : List (Nat × String)) (key : String) (entry : Json) :
    foundryClaim? files key entry = (fileOf? .foundryBuildInfo entry).map fun file ↦
      match (match numberOf? files key with
        | some index => some index
        | none => entryIndex? file) with
      | some index => .ok ⟨index, key, treeOf? .foundryBuildInfo file⟩
      | none => .error (.noFileId key) := by
  cases entry <;> rfl

theorem foundryClaim?_eq_ok_iff {files : List (Nat × String)} (h : numberedFiles doc = .ok files) {key : String}
    {entry : Json} {claim : Claim} (place : Nat) : foundryClaim? files key entry = some (.ok claim) ↔
      ∃ file index, fileOf? .foundryBuildInfo entry = some file ∧
        EntryIndex doc place key file .foundryBuildInfo index ∧
        claim = ⟨index, key, treeOf? .foundryBuildInfo file⟩ := by
  simp only [entryIndex_foundryBuildInfo_iff h, foundryClaim?_eq, Option.map_eq_some_iff]
  constructor
  · rintro ⟨file, hfile, hclaim⟩
    split at hclaim
    · rename_i index hindex
      cases hclaim
      exact ⟨file, index, hfile, hindex, rfl⟩
    · cases hclaim
  · rintro ⟨file, index, hfile, hindex, rfl⟩
    refine ⟨file, hfile, ?_⟩
    rw [hindex]

theorem mem_foundryClaims_iff {files : List (Nat × String)} (h : numberedFiles doc = .ok files) {claim : Claim} :
    .ok claim ∈ foundryClaims doc ↔ Assigns doc .foundryBuildInfo claim := by
  rw [foundryClaims, h]
  simp only [List.mem_append]
  constructor
  · rintro (hclaim | hclaim)
    · obtain ⟨⟨index, key⟩, hmem, heq⟩ := List.mem_map.mp hclaim
      cases heq
      exact .numbered ((mem_numberedFiles h).mp hmem)
    · obtain ⟨⟨key, entry⟩, hmem, hclaim⟩ := List.mem_filterMap.mp hclaim
      cases hsources : outputSources? doc with
      | none =>
        rw [hsources] at hmem
        cases hmem
      | some sources =>
        rw [hsources, Option.getD_some] at hmem
        obtain ⟨place, hplace⟩ := List.mem_iff_getElem?.mp hmem
        obtain ⟨file, index, hfile, hindex, rfl⟩ := (foundryClaim?_eq_ok_iff h place).mp hclaim
        exact .entry hsources hplace hfile hindex
  · intro hclaim
    cases hclaim with
    | @entry _ entries place key entry file index hsome hentry hfile hindex =>
      have hsources : outputSources? doc = some entries := hsome
      right
      rw [hsources, Option.getD_some]
      exact List.mem_filterMap.mpr ⟨(key, entry), List.mem_of_getElem? hentry,
        (foundryClaim?_eq_ok_iff h place).mpr ⟨file, index, hfile, hindex, rfl⟩⟩
    | @numbered index key hnumber =>
      left
      exact List.mem_map.mpr ⟨(index, key), (mem_numberedFiles h).mpr hnumber, rfl⟩

theorem exists_numberedFiles_of_claims {made : List Claim} (h : claims doc .foundryBuildInfo = made.map .ok) :
    ∃ files, numberedFiles doc = .ok files := by
  cases hfiles : numberedFiles doc with
  | ok files => exact ⟨files, rfl⟩
  | error fault =>
    rw [claims, foundryClaims, hfiles] at h
    have hmem : .error fault ∈ made.map (Except.ok : Claim → Except Malformed Claim) := h ▸ List.mem_singleton_self _
    obtain ⟨claim, -, hclaim⟩ := List.mem_map.mp hmem
    cases hclaim

/-- Where the claims of a document have no fault, they are what it says of its indexes. -/
theorem mem_made_iff {shape : Shape} {made : List Claim} (h : claims doc shape = made.map .ok) {claim : Claim} :
    claim ∈ made ↔ Assigns doc shape claim := by
  have hmem : claim ∈ made ↔ .ok claim ∈ claims doc shape := by
    rw [h, List.mem_map_of_injective fun _ _ heq ↦ Except.ok.inj heq]
  rw [hmem]
  cases shape with
  | combinedJson => exact mem_combinedClaims_iff
  | hardhatBuildInfo => exact mem_hardhatClaims_iff
  | foundryBuildInfo =>
    obtain ⟨files, hfiles⟩ := exists_numberedFiles_of_claims h
    exact mem_foundryClaims_iff hfiles

theorem exists_made_iff {list : Claims} : (∃ made : List Claim, list = made.map .ok) ↔ ∀ fault, .error fault ∉ list := by
  constructor
  · rintro ⟨made, rfl⟩ fault hfault
    obtain ⟨claim, -, hclaim⟩ := List.mem_map.mp hfault
    cases hclaim
  · intro h
    induction list with
    | nil => exact ⟨[], rfl⟩
    | cons first rest ih =>
      obtain ⟨made, rfl⟩ := ih fun fault hfault ↦ h fault (List.mem_cons_of_mem _ hfault)
      cases first with
      | ok claim => exact ⟨claim :: made, rfl⟩
      | error fault => exact absurd List.mem_cons_self (h fault)

/-- A fault of an entry, where the map can be read, is that it has no index. -/
theorem foundryClaim?_eq_error_iff {files : List (Nat × String)} (h : numberedFiles doc = .ok files) {key : String}
    {entry : Json} (place : Nat) : (∃ fault, foundryClaim? files key entry = some (.error fault)) ↔
      ∃ file, fileOf? .foundryBuildInfo entry = some file ∧
        ¬ ∃ index, EntryIndex doc place key file .foundryBuildInfo index := by
  simp only [entryIndex_foundryBuildInfo_iff h, foundryClaim?_eq, Option.map_eq_some_iff]
  constructor
  · rintro ⟨fault, file, hfile, hclaim⟩
    refine ⟨file, hfile, ?_⟩
    rintro ⟨index, hindex⟩
    rw [hindex] at hclaim
    cases hclaim
  · rintro ⟨file, hfile, hnone⟩
    refine ⟨.noFileId key, file, hfile, ?_⟩
    split
    · rename_i index hindex
      exact absurd ⟨index, hindex⟩ hnone
    · rfl

theorem error_mem_hardhatClaims_iff {entries : Json.Members} (h : entries? doc .hardhatBuildInfo = some entries) :
    (∃ fault, .error fault ∈ hardhatClaims doc) ↔ ∃ key entry, (key, entry) ∈ entries ∧ entryIndex? entry = none := by
  have hsources : outputSources? doc = some entries := h
  rw [hardhatClaims, hsources]
  constructor
  · rintro ⟨fault, hfault⟩
    obtain ⟨⟨key, entry⟩, hmem, hclaim⟩ := List.mem_map.mp hfault
    simp only at hclaim
    split at hclaim
    · cases hclaim
    · rename_i hnone
      exact ⟨key, entry, hmem, hnone⟩
  · rintro ⟨key, entry, hmem, hnone⟩
    refine ⟨.noFileId key, List.mem_map.mpr ⟨(key, entry), hmem, ?_⟩⟩
    simp only [hnone]

theorem readable_of_claims {shape : Shape} {made : List Claim} (h : claims doc shape = made.map .ok) :
    Readable doc shape := by
  have hfault := exists_made_iff.mp ⟨made, h⟩
  cases shape with
  | combinedJson => exact ⟨nofun, fun _ _ place key entry file _ _ ↦ ⟨_, entryIndex_combinedJson_iff.mpr rfl⟩⟩
  | hardhatBuildInfo =>
    refine ⟨nofun, ?_⟩
    intro entries hentries place key entry file hentry hfile
    cases hfile
    cases hindex : entryIndex? entry with
    | some index => exact ⟨index, .given (entryIndex?_eq_some_iff.mp hindex)⟩
    | none =>
      obtain ⟨fault, hmem⟩ := (error_mem_hardhatClaims_iff hentries).mpr
        ⟨key, entry, List.mem_of_getElem? hentry, hindex⟩
      exact absurd hmem (hfault fault)
  | foundryBuildInfo =>
    obtain ⟨files, hfiles⟩ := exists_numberedFiles_of_claims h
    refine ⟨fun _ ↦ exists_numberedFiles_iff.mp ⟨files, hfiles⟩, ?_⟩
    intro entries hentries place key entry file hentry hfile
    by_contra hnone
    obtain ⟨fault, hclaim⟩ := (foundryClaim?_eq_error_iff hfiles place).mpr ⟨file, hfile, hnone⟩
    have hsources : outputSources? doc = some entries := hentries
    refine hfault fault ?_
    rw [claims, foundryClaims, hfiles, hsources]
    exact List.mem_append_right _ (List.mem_filterMap.mpr ⟨(key, entry), List.mem_of_getElem? hentry, hclaim⟩)

/-- A document with entries whose indexes can be read has no fault in its claims. -/
theorem exists_claims_of_readable {shape : Shape} {entries : Json.Members} (hentries : entries? doc shape = some entries)
    (h : Readable doc shape) : ∃ made : List Claim, claims doc shape = made.map .ok := by
  rw [exists_made_iff]
  intro fault hfault
  cases shape with
  | combinedJson =>
    have hsources : (doc.get? "sources").bind Json.members? = some entries := hentries
    rw [claims, combinedClaims, hsources] at hfault
    simp at hfault
  | hardhatBuildInfo =>
    obtain ⟨key, entry, hmem, hnone⟩ := (error_mem_hardhatClaims_iff hentries).mp ⟨fault, hfault⟩
    obtain ⟨place, hplace⟩ := List.mem_iff_getElem?.mp hmem
    obtain ⟨index, hindex⟩ := h.entries entries hentries place key entry entry hplace rfl
    cases hnone.symm.trans (entryIndex_hardhatBuildInfo_iff.mp hindex)
  | foundryBuildInfo =>
    obtain ⟨files, hfiles⟩ := exists_numberedFiles_iff.mpr (h.numbers rfl)
    have hsources : outputSources? doc = some entries := hentries
    rw [claims, foundryClaims, hfiles, hsources] at hfault
    rcases List.mem_append.mp hfault with hfault | hfault
    · obtain ⟨file, -, heq⟩ := List.mem_map.mp hfault
      cases heq
    · obtain ⟨⟨key, entry⟩, hmem, hclaim⟩ := List.mem_filterMap.mp hfault
      obtain ⟨place, hplace⟩ := List.mem_iff_getElem?.mp hmem
      obtain ⟨file, hfile, hnone⟩ := (foundryClaim?_eq_error_iff hfiles place).mp ⟨fault, hclaim⟩
      exact hnone (h.entries entries hentries place key entry file hplace hfile)

end SolAudit.CompilerOutput
