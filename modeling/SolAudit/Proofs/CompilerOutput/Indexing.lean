import SolAudit.Proofs.Build.Discovery
import SolAudit.Proofs.CompilerOutput.Assignments

/-!
# Documents by index

A document that is read lists the tree of every entry that has one, once and in strictly ascending index order, and its
table holds every file at the index that the document assigns to it. A document with entries is read if its indexes
can be read and none is assigned to two keys (`indexes_stand_for_one_key`).
-/

namespace SolAudit.CompilerOutput

open Build (SourceTree)

/-- The document assigns an index to a key. -/
def Assigned (doc : Json) (shape : Shape) (index : Nat) (key : String) : Prop :=
  ∃ tree, Assigns doc shape ⟨index, key, tree⟩

/-- An index is assigned to two keys. -/
def SharesIndex (doc : Json) (shape : Shape) : Prop :=
  ∃ index key key', key ≠ key' ∧ Assigned doc shape index key ∧ Assigned doc shape index key'

/-- An entry has a syntax tree. -/
def HasTree (doc : Json) (shape : Shape) (key : String) : Prop :=
  ∃ entries entry file members, entries? doc shape = some entries ∧ (key, entry) ∈ entries ∧
    fileOf? shape entry = some file ∧ treeOf? shape file = some (.obj members)

/-- What the table is to hold for a key. -/
structure IsFileOf (doc : Json) (root : Path) (key : String) (file : Source.File) : Prop where
  path : file.path = root.join ⟨key⟩
  content : ∀ text, file.content = some text ↔ doc.path? ["input", "sources", key, "content"] = some (.str text)

/-- A source is that of the entry of a key: it has its tree, its index and its path, which is also in the table. -/
structure Lists (doc : Json) (root : Path) (canonical : Canonical) (key : String) (source : SourceTree) : Prop where
  entry : ∃ entries place entry file, entries? doc canonical.shape = some entries ∧
    entries[place]? = some (key, entry) ∧ fileOf? canonical.shape entry = some file ∧
    treeOf? canonical.shape file = some source.ast ∧ EntryIndex doc place key file canonical.shape source.index
  path : source.path = root.join ⟨key⟩
  held : canonical.table.path? source.index = some source.path

variable {doc : Json} {root : Path}

theorem isFileOf_iff {key : String} {file : Source.File} : IsFileOf doc root key file ↔ file = fileAt doc root key := by
  have hcontent (text : String) : contentOf? doc key = some text ↔
      doc.path? ["input", "sources", key, "content"] = some (.str text) := by
    rw [contentOf?]
    cases doc.path? ["input", "sources", key, "content"] with
    | none => simp
    | some value => cases value <;> simp [Json.string?]
  constructor
  · intro h
    obtain ⟨path, content⟩ := file
    obtain ⟨rfl, htext⟩ := h
    rw [fileAt, Source.File.mk.injEq]
    refine ⟨rfl, Option.ext fun text ↦ ?_⟩
    rw [htext, hcontent]
  · rintro rfl
    exact ⟨rfl, hcontent⟩

/-- The elements of a list that give something go with what they give. -/
theorem forall₂_filter_filterMap {α β : Type} (f : α → Option β) (l : List α) :
    List.Forall₂ (fun a b ↦ a ∈ l ∧ f a = some b) (l.filter fun a ↦ (f a).isSome) (l.filterMap f) := by
  induction l with
  | nil => exact .nil
  | cons a rest ih =>
    have hrest := ih.imp fun x y ⟨hx, hy⟩ ↦ (⟨List.mem_cons_of_mem a hx, hy⟩ : x ∈ a :: rest ∧ f x = some y)
    rw [List.filterMap_cons, List.filter_cons]
    cases hfa : f a with
    | none => exact hrest
    | some b => exact .cons ⟨List.mem_cons_self, hfa⟩ hrest

section Gathered

variable {made : List Claim} {canonical : Canonical}

theorem table_get?_eq_some_iff (h : Gathers doc root made canonical) {index : Nat} {file : Source.File} :
    canonical.table.get? index = some file ↔
      ∃ key, Assigned doc canonical.shape index key ∧ IsFileOf doc root key file := by
  have hmem : canonical.table.get? index = some file ↔ (index, file) ∈ canonical.table.files := by
    constructor
    · exact Json.mem_of_lookup
    · exact Json.lookup_of_mem (h.ascending.imp Nat.ne_of_lt)
  rw [hmem, h.mem_table]
  constructor
  · rintro ⟨claim, hclaim, rfl, rfl⟩
    exact ⟨claim.key, ⟨claim.tree, (mem_made_iff h.claims).mp hclaim⟩, isFileOf_iff.mpr rfl⟩
  · rintro ⟨key, ⟨tree, hassigns⟩, hfile⟩
    exact ⟨_, (mem_made_iff h.claims).mpr hassigns, rfl, (isFileOf_iff.mp hfile).symm⟩

theorem not_sharesIndex_iff {shape : Shape} (h : claims doc shape = made.map .ok) :
    ¬ SharesIndex doc shape ↔ Agree made := by
  constructor
  · intro hshares a ha b hb hindex
    by_contra hne
    refine hshares ⟨a.index, a.key, b.key, hne, ⟨a.tree, (mem_made_iff h).mp ha⟩, b.tree, ?_⟩
    rw [hindex]
    exact (mem_made_iff h).mp hb
  · rintro hagree ⟨index, key, key', hne, ⟨tree, hassigns⟩, tree', hassigns'⟩
    exact hne (hagree _ ((mem_made_iff h).mpr hassigns) _ ((mem_made_iff h).mpr hassigns') rfl)

theorem hasTree_iff {shape : Shape} (h : claims doc shape = made.map .ok) (root : Path) {key : String} :
    HasTree doc shape key ↔ ∃ claim ∈ made, claim.key = key ∧ (claim.source? root).isSome = true := by
  constructor
  · rintro ⟨entries, entry, file, members, hentries, hmem, hfile, htree⟩
    obtain ⟨place, hplace⟩ := List.mem_iff_getElem?.mp hmem
    obtain ⟨index, hindex⟩ := (readable_of_claims h).entries entries hentries place key entry file hplace hfile
    refine ⟨_, (mem_made_iff h).mpr (.entry hentries hplace hfile hindex), rfl, ?_⟩
    rw [Claim.source?, htree]
    rfl
  · rintro ⟨claim, hclaim, rfl, hsome⟩
    obtain ⟨source, hsource⟩ := Option.isSome_iff_exists.mp hsome
    obtain ⟨members, htree, -⟩ := source?_eq_some_iff.mp hsource
    cases (mem_made_iff h).mp hclaim with
    | @entry _ entries place key entry file index hentries hentry hfile hindex =>
      exact ⟨entries, entry, file, members, hentries, List.mem_of_getElem? hentry, hfile, htree⟩
    | numbered => cases htree
    | listed => cases htree

theorem lists_of_mem_made (h : Gathers doc root made canonical) {claim : Claim} (hclaim : claim ∈ made)
    {source : SourceTree} (hsource : claim.source? root = some source) : Lists doc root canonical claim.key source := by
  have hassigns := (mem_made_iff h.claims).mp hclaim
  obtain ⟨members, htree, rfl⟩ := source?_eq_some_iff.mp hsource
  refine ⟨?_, rfl, ?_⟩
  · generalize canonical.shape = shape at hassigns
    cases hassigns with
    | @entry _ entries place key entry file index hentries hentry hfile hindex =>
      exact ⟨entries, place, entry, file, hentries, hentry, hfile, htree, hindex⟩
    | numbered => cases htree
    | listed => cases htree
  · have hget : canonical.table.get? claim.index = some (fileAt doc root claim.key) :=
      (table_get?_eq_some_iff h).mpr ⟨claim.key, ⟨claim.tree, hassigns⟩, isFileOf_iff.mpr rfl⟩
    rw [Source.Table.path?, hget]
    rfl

/-- The sources of a document are those of the keys whose entries have a tree. -/
theorem exists_keys_of_gathers (hkeys : doc.KeysAscend) (h : Gathers doc root made canonical) :
    ∃ keys : List String, keys.Nodup ∧ (∀ key, key ∈ keys ↔ HasTree doc canonical.shape key) ∧
      List.Forall₂ (Lists doc root canonical) keys canonical.sources := by
  let treed := made.filter fun claim ↦ (claim.source? root).isSome
  let sorted := treed.mergeSort fun a b ↦ a.index ≤ b.index
  have hperm : sorted.Perm treed := List.mergeSort_perm _ _
  refine ⟨sorted.map Claim.key, ?_, ?_, ?_⟩
  · rw [(hperm.map Claim.key).nodup_iff, List.Nodup, List.pairwise_map, List.pairwise_filter]
    have hdistinct := nodup_treeKeys hkeys canonical.shape
    rw [h.claims, List.filterMap_map, List.Nodup, List.pairwise_filterMap] at hdistinct
    apply hdistinct.imp
    intro a b hne ha hb
    have htree {claim : Claim} (hclaim : (claim.source? root).isSome = true) :
        treeKey? (.ok claim) = some claim.key := by
      obtain ⟨source, hsource⟩ := Option.isSome_iff_exists.mp hclaim
      obtain ⟨members, htree, -⟩ := source?_eq_some_iff.mp hsource
      simp [treeKey?, htree]
    exact hne a.key (htree ha) b.key (htree hb)
  · intro key
    rw [hasTree_iff h.claims root, (hperm.map Claim.key).mem_iff, List.mem_map]
    simp only [treed, List.mem_filter]
    constructor
    · rintro ⟨claim, ⟨hclaim, hsome⟩, hkey⟩
      exact ⟨claim, hclaim, hkey, hsome⟩
    · rintro ⟨claim, hclaim, hkey, hsome⟩
      exact ⟨claim, ⟨hclaim, hsome⟩, hkey⟩
  · -- Sorting the claims and sorting the trees made of them goes by the same indexes.
    have htrees := forall₂_filter_filterMap (Claim.source? root) made
    have hindex : ∀ (claim : Claim) (source : SourceTree), claim ∈ made ∧ claim.source? root = some source →
        claim.index = source.index := by
      rintro claim source ⟨-, hsource⟩
      obtain ⟨members, -, rfl⟩ := source?_eq_some_iff.mp hsource
      rfl
    rw [List.forall₂_map_left_iff, h.sources]
    apply (Build.forall₂_mergeSort hindex htrees).imp
    rintro claim source ⟨hclaim, hsource⟩
    exact lists_of_mem_made h hclaim hsource

end Gathered

/-- In a document that is read, the trees stand in strictly ascending index order; they are the trees of the entries
that have one, each once, and their paths are in the table. The table holds at each index the file of the key that it
is assigned to, with its text if the document has one. All indexes can be read, and none is assigned to two keys. A
document of a shape whose entries are there and whose indexes can be read fails only if one is. -/
theorem indexes_stand_for_one_key (hkeys : doc.KeysAscend) (root : Path) :
    (∀ canonical, canonicalOf doc root = .ok canonical →
      detect? doc = some canonical.shape ∧ (canonical.sources.map SourceTree.index).Pairwise (· < ·) ∧
      (∃ keys : List String, keys.Nodup ∧ (∀ key, key ∈ keys ↔ HasTree doc canonical.shape key) ∧
        List.Forall₂ (Lists doc root canonical) keys canonical.sources) ∧
      Readable doc canonical.shape ∧
      (∀ index file, canonical.table.get? index = some file ↔
        ∃ key, Assigned doc canonical.shape index key ∧ IsFileOf doc root key file) ∧
      ¬ SharesIndex doc canonical.shape) ∧
    ∀ shape, detect? doc = some shape → (entries? doc shape).isSome = true → Readable doc shape →
      ¬ SharesIndex doc shape → ∃ canonical, canonicalOf doc root = .ok canonical := by
  constructor
  · intro canonical h
    obtain ⟨made, hgathers⟩ := gathers_of_canonicalOf h
    exact ⟨hgathers.detects, pairwise_index_sources hkeys h, exists_keys_of_gathers hkeys hgathers,
      readable_of_claims hgathers.claims, fun _ _ ↦ table_get?_eq_some_iff hgathers,
      (not_sharesIndex_iff hgathers.claims).mpr hgathers.agree⟩
  · intro shape hshape hentries hreadable hshares
    obtain ⟨entries, hentries⟩ := Option.isSome_iff_exists.mp hentries
    obtain ⟨made, hclaims⟩ := exists_claims_of_readable hentries hreadable
    obtain ⟨out, hcollect⟩ : ∃ out, collect doc root {} (made.map .ok) = .ok out :=
      (collects_nil doc root).exists_collect ((not_sharesIndex_iff hclaims).mp hshares)
    rw [canonicalOf, hshape]
    simp only [hclaims, hcollect]
    exact ⟨_, rfl⟩

def unitTree : Json := .obj [("nodeType", .str "SourceUnit")]

/-- A file with a tree, a file that only the map from indexes to files has, and an entry without file. -/
def numberedDocument : Json :=
  .obj [("input", .obj [("sources", .obj [("C.sol", .obj [("content", .str "c")])])]),
    ("output", .obj [("sources", .obj [("A.sol", .obj [("ast", unitTree)]), ("B.sol", .arr [.obj []])])]),
    ("source_id_to_path", .obj [("0", .str "A.sol"), ("2", .str "C.sol")])]

theorem numbers_numberedDocument_iff {index : Nat} {key : String} :
    Numbers numberedDocument index key ↔ (index = 0 ∧ key = "A.sol") ∨ (index = 2 ∧ key = "C.sol") := by
  have hnumbers : numbers numberedDocument = [("0", .str "A.sol"), ("2", .str "C.sol")] := rfl
  have hzero : Text.unsigned? Text.indexBound "0".toList = some 0 := rfl
  have htwo : Text.unsigned? Text.indexBound "2".toList = some 2 := rfl
  rw [Numbers, hnumbers]
  constructor
  · rintro ⟨id, hmem, hindex⟩
    simp only [List.mem_cons, Prod.mk.injEq, Json.str.injEq, List.not_mem_nil, or_false] at hmem
    rcases hmem with ⟨rfl, rfl⟩ | ⟨rfl, rfl⟩
    · exact .inl ⟨Option.some.inj (hindex.symm.trans hzero), rfl⟩
    · exact .inr ⟨Option.some.inj (hindex.symm.trans htwo), rfl⟩
  · rintro (⟨rfl, rfl⟩ | ⟨rfl, rfl⟩)
    · exact ⟨"0", List.mem_cons_self, hzero⟩
    · exact ⟨"2", List.mem_cons_of_mem _ List.mem_cons_self, htwo⟩

theorem entryIndex_numberedDocument_iff {place index : Nat} {file : Json} :
    EntryIndex numberedDocument place "A.sol" file .foundryBuildInfo index ↔ index = 0 :=
  entryIndex_iff_of_numbers fun index ↦ by simp [numbers_numberedDocument_iff]

theorem entries?_numberedDocument : entries? numberedDocument .foundryBuildInfo =
    some [("A.sol", .obj [("ast", unitTree)]), ("B.sol", .arr [.obj []])] := rfl

/-- Only the first entry has a file. -/
theorem key_of_entry_numberedDocument {entries : Json.Members} {place : Nat} {key : String} {entry file : Json}
    (hentries : entries? numberedDocument .foundryBuildInfo = some entries) (hentry : entries[place]? = some (key, entry))
    (hfile : fileOf? .foundryBuildInfo entry = some file) : key = "A.sol" := by
  cases entries?_numberedDocument.symm.trans hentries
  have hmem := List.mem_of_getElem? hentry
  simp only [List.mem_cons, Prod.mk.injEq, List.not_mem_nil, or_false] at hmem
  rcases hmem with ⟨rfl, -⟩ | ⟨-, rfl⟩
  · rfl
  · have hnone : fileOf? .foundryBuildInfo (.arr [.obj []]) = none := rfl
    cases hnone.symm.trans hfile

theorem assigned_numberedDocument {index : Nat} {key : String}
    (h : Assigned numberedDocument .foundryBuildInfo index key) :
    (index = 0 ∧ key = "A.sol") ∨ (index = 2 ∧ key = "C.sol") := by
  obtain ⟨tree, h⟩ := h
  cases h with
  | entry hentries hentry hfile hindex =>
    cases key_of_entry_numberedDocument hentries hentry hfile
    exact .inl ⟨entryIndex_numberedDocument_iff.mp hindex, rfl⟩
  | numbered hnumber => exact numbers_numberedDocument_iff.mp hnumber

theorem numberedDocument_by_index : numberedDocument.KeysAscend ∧
    ∃ canonical, canonicalOf numberedDocument ⟨"/p"⟩ = .ok canonical ∧
      (∃ keys, List.Forall₂ (Lists numberedDocument ⟨"/p"⟩ canonical) keys canonical.sources ∧ "A.sol" ∈ keys) ∧
      ∃ file, canonical.table.get? 2 = some file ∧ IsFileOf numberedDocument ⟨"/p"⟩ "C.sol" file := by
  have hnormal : numberedDocument.normalize = numberedDocument := rfl
  have hkeys : numberedDocument.KeysAscend := hnormal ▸ Json.keysAscend_normalize numberedDocument
  have hshape : detect? numberedDocument = some .foundryBuildInfo := rfl
  have hreadable : Readable numberedDocument .foundryBuildInfo := by
    constructor
    · intro _ member hmember
      have hmem : member ∈ [("0", .str "A.sol"), ("2", .str "C.sol")] := hmember
      simp only [List.mem_cons, List.not_mem_nil, or_false] at hmem
      rcases hmem with rfl | rfl
      · exact ⟨⟨0, rfl⟩, _, rfl⟩
      · exact ⟨⟨2, rfl⟩, _, rfl⟩
    · intro entries hentries place key entry file hentry hfile
      cases key_of_entry_numberedDocument hentries hentry hfile
      exact ⟨0, entryIndex_numberedDocument_iff.mpr rfl⟩
  have hshares : ¬ SharesIndex numberedDocument .foundryBuildInfo := by
    rintro ⟨index, key, key', hne, hfirst, hsecond⟩
    rcases assigned_numberedDocument hfirst with ⟨rfl, rfl⟩ | ⟨rfl, rfl⟩
    · rcases assigned_numberedDocument hsecond with ⟨-, rfl⟩ | ⟨hindex, -⟩
      · exact hne rfl
      · cases hindex
    · rcases assigned_numberedDocument hsecond with ⟨hindex, -⟩ | ⟨-, rfl⟩
      · cases hindex
      · exact hne rfl
  obtain ⟨hread, hexists⟩ := indexes_stand_for_one_key hkeys ⟨"/p"⟩
  obtain ⟨canonical, hcanonical⟩ := hexists _ hshape rfl hreadable hshares
  obtain ⟨hdetects, -, ⟨keys, -, htrees, hlists⟩, -, htable, -⟩ := hread canonical hcanonical
  have hsame : canonical.shape = .foundryBuildInfo := Option.some.inj (hdetects.symm.trans hshape)
  rw [hsame] at htrees htable
  refine ⟨hkeys, canonical, hcanonical, ⟨keys, hlists, (htrees "A.sol").mpr ?_⟩, fileAt numberedDocument ⟨"/p"⟩ "C.sol",
    (htable 2 _).mpr ⟨"C.sol", ⟨none, .numbered ?_⟩, isFileOf_iff.mpr rfl⟩, isFileOf_iff.mpr rfl⟩
  · exact ⟨_, _, _, _, entries?_numberedDocument, List.mem_cons_self, rfl, rfl⟩
  · exact numbers_numberedDocument_iff.mpr (.inr ⟨rfl, rfl⟩)

/-- An index whose file is not a text. -/
def pathlessDocument : Json :=
  .obj [("output", .obj [("sources", .obj [("A.sol", .obj [("ast", unitTree)])])]),
    ("source_id_to_path", .obj [("0", .str "A.sol"), ("1", .null)])]

theorem numbers_pathlessDocument_iff {index : Nat} {key : String} :
    Numbers pathlessDocument index key ↔ index = 0 ∧ key = "A.sol" := by
  have hnumbers : numbers pathlessDocument = [("0", .str "A.sol"), ("1", .null)] := rfl
  have hzero : Text.unsigned? Text.indexBound "0".toList = some 0 := rfl
  rw [Numbers, hnumbers]
  constructor
  · rintro ⟨id, hmem, hindex⟩
    simp only [List.mem_cons, Prod.mk.injEq, Json.str.injEq, reduceCtorEq, and_false, List.not_mem_nil, or_false] at hmem
    obtain ⟨rfl, rfl⟩ := hmem
    exact ⟨Option.some.inj (hindex.symm.trans hzero), rfl⟩
  · rintro ⟨rfl, rfl⟩
    exact ⟨"0", List.mem_cons_self, hzero⟩

theorem key_of_entry_pathlessDocument {entries : Json.Members} {place : Nat} {key : String} {entry : Json}
    (hentries : entries? pathlessDocument .foundryBuildInfo = some entries)
    (hentry : entries[place]? = some (key, entry)) : key = "A.sol" := by
  have hsources : entries? pathlessDocument .foundryBuildInfo = some [("A.sol", .obj [("ast", unitTree)])] := rfl
  cases hsources.symm.trans hentries
  have hmem := List.mem_of_getElem? hentry
  simp only [List.mem_cons, Prod.mk.injEq, List.not_mem_nil, or_false] at hmem
  exact hmem.1

theorem key_of_assigned_pathlessDocument {index : Nat} {key : String}
    (h : Assigned pathlessDocument .foundryBuildInfo index key) : key = "A.sol" := by
  obtain ⟨tree, h⟩ := h
  cases h with
  | entry hentries hentry => exact key_of_entry_pathlessDocument hentries hentry
  | numbered hnumber => exact (numbers_pathlessDocument_iff.mp hnumber).2

/-- A tree that is shadowed by the key that comes first. -/
def shadowedDocument : Json :=
  .obj [("sources", .obj [("A.sol", .obj [("AST", .null), ("ast", unitTree), ("id", .int 0)])])]

/-- A source list in a shape whose entries have ids of their own. -/
def listingDocument : Json :=
  .obj [("_format", .str "hh-sol-build-info-1"),
    ("output", .obj [("sources", .obj [("A.sol", .obj [("ast", unitTree), ("id", .int 0)])])]),
    ("sourceList", .arr [.str "A.sol", .str "B.sol"])]

/-- A document may be refused though its indexes can be read and stand for one key each, an entry may have a tree that
is not listed, and the files of a source list are not in the table in every shape. -/
theorem indexing_has_exceptions :
    (detect? pathlessDocument = some .foundryBuildInfo ∧ (entries? pathlessDocument .foundryBuildInfo).isSome = true ∧
      (∀ member ∈ numbers pathlessDocument, ∃ index, Text.unsigned? Text.indexBound member.1.toList = some index) ∧
      (∀ entries, entries? pathlessDocument .foundryBuildInfo = some entries → ∀ place key entry file,
        entries[place]? = some (key, entry) → fileOf? .foundryBuildInfo entry = some file →
          ∃ index, EntryIndex pathlessDocument place key file .foundryBuildInfo index) ∧
      ¬ SharesIndex pathlessDocument .foundryBuildInfo ∧
      canonicalOf pathlessDocument ⟨"/p"⟩ = .error (.noPath "1")) ∧
    (shadowedDocument.path? ["sources", "A.sol", "ast"] = some unitTree ∧
      (canonicalOf shadowedDocument ⟨"/p"⟩).map (·.sources) = .ok []) ∧
    (Listed listingDocument 1 "B.sol" ∧ listingDocument.path? ["output", "sources", "B.sol"] = none ∧
      (canonicalOf listingDocument ⟨"/p"⟩).map (·.table.get? 1) = .ok none) := by
  refine ⟨⟨rfl, rfl, ?_, ?_, ?_, rfl⟩, ⟨rfl, by with_unfolding_all rfl⟩,
    ⟨⟨_, rfl, rfl⟩, rfl, by with_unfolding_all rfl⟩⟩
  · intro member hmember
    have hmem : member ∈ [("0", .str "A.sol"), ("1", .null)] := hmember
    simp only [List.mem_cons, List.not_mem_nil, or_false] at hmem
    rcases hmem with rfl | rfl
    · exact ⟨0, rfl⟩
    · exact ⟨1, rfl⟩
  · intro entries hentries place key entry file hentry _
    cases key_of_entry_pathlessDocument hentries hentry
    exact ⟨0, (entryIndex_iff_of_numbers fun index ↦ by simp [numbers_pathlessDocument_iff]).mpr rfl⟩
  · rintro ⟨index, key, key', hne, hfirst, hsecond⟩
    exact hne ((key_of_assigned_pathlessDocument hfirst).trans (key_of_assigned_pathlessDocument hsecond).symm)

end SolAudit.CompilerOutput
