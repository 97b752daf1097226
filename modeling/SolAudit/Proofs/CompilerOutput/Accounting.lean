import SolAudit.Proofs.Build.Numbering
import SolAudit.Proofs.CompilerOutput.Encodings

/-!
# Accounting for sources

A document lists a tree for each key at most once, and no index stands for two keys. So the trees of a document have
distinct indexes and stand in strictly ascending index order (`pairwise_index_sources`), and so do the files that are
built from them.
-/

namespace SolAudit.CompilerOutput

open Ast Build

/-- The key for which a claim lists something as a tree. -/
def treeKey? : Except Malformed Claim → Option String
  | .ok claim => if claim.tree.isSome then some claim.key else none
  | .error _ => none

/-- Claims made of the entries of a list, each for the key of its entry, list trees for these keys at most. -/
theorem treeKeys_sublist {α : Type} (key : α → String) {claim? : α → Option (Except Malformed Claim)}
    (hkey : ∀ a claim, claim? a = some (.ok claim) → claim.key = key a) (entries : List α) :
    ((entries.filterMap claim?).filterMap treeKey?).Sublist (entries.map key) := by
  rw [List.filterMap_filterMap]
  apply filterMap_sublist_map
  intro a listed hlisted
  obtain ⟨claim, hclaim, htree⟩ := Option.bind_eq_some_iff.mp hlisted
  cases claim with
  | error fault => cases htree
  | ok claim =>
    rw [treeKey?] at htree
    split at htree
    · rw [← hkey a claim hclaim, Option.some.inj htree]
    · cases htree

theorem treeKeys_map_sublist {α : Type} (key : α → String) {claim : α → Except Malformed Claim}
    (hkey : ∀ a made, claim a = .ok made → made.key = key a) (entries : List α) :
    ((entries.map claim).filterMap treeKey?).Sublist (entries.map key) := by
  rw [← List.filterMap_eq_map]
  apply treeKeys_sublist key
  intro a made hmade
  exact hkey a made (Option.some.inj hmade)

/-- Claims without trees list no tree. -/
theorem treeKeys_eq_nil {α : Type} {claim : α → Claim} (htree : ∀ a, (claim a).tree = none) (entries : List α) :
    (entries.map fun a ↦ (.ok (claim a) : Except Malformed Claim)).filterMap treeKey? = [] := by
  rw [List.filterMap_eq_nil_iff]
  intro entry hentry
  obtain ⟨a, -, rfl⟩ := List.mem_map.mp hentry
  simp [treeKey?, htree]

theorem key_of_foundryClaim? {numbered : List (Nat × String)} {key : String} {entry : Json} {made : Claim}
    (h : foundryClaim? numbered key entry = some (.ok made)) : made.key = key := by
  obtain ⟨file, -, hmade⟩ := Option.map_eq_some_iff.mp h
  cases hnumber : numberOf? numbered key with
  | some index =>
    simp only [hnumber] at hmade
    cases hmade
    rfl
  | none =>
    simp only [hnumber] at hmade
    split at hmade
    · cases hmade
      rfl
    · cases hmade

/-- A document lists no two trees for one key. -/
theorem nodup_treeKeys {doc : Json} (hkeys : doc.KeysAscend) (shape : Shape) :
    ((claims doc shape).filterMap treeKey?).Nodup := by
  cases shape with
  | combinedJson =>
    rw [claims, combinedClaims]
    split
    · exact List.nodup_nil
    · rename_i sources hsources
      have hnodup : (sources.map Prod.fst).Nodup := by
        apply hkeys.nodup_path ["sources"]
        simpa [Json.path?] using hsources
      rw [← List.zipIdx_map_fst 0 sources, List.map_map] at hnodup
      rw [List.filterMap_append, treeKeys_eq_nil fun _ ↦ rfl, List.nil_append]
      refine hnodup.sublist (treeKeys_map_sublist _ ?_ _)
      rintro ⟨⟨key, entry⟩, place⟩ made hmade
      cases hmade
      rfl
  | hardhatBuildInfo =>
    rw [claims, hardhatClaims]
    split
    · exact List.nodup_nil
    · rename_i sources hsources
      refine (hkeys.nodup_path _ hsources).sublist (treeKeys_map_sublist _ ?_ _)
      rintro ⟨key, entry⟩ made hmade
      simp only at hmade
      split at hmade
      · cases hmade
        rfl
      · cases hmade
  | foundryBuildInfo =>
    rw [claims, foundryClaims]
    split
    · exact List.nodup_nil
    · rename_i numbered _
      simp only
      rw [List.filterMap_append, treeKeys_eq_nil fun _ ↦ rfl, List.nil_append]
      cases hsources : outputSources? doc with
      | none => exact List.nodup_nil
      | some sources =>
        refine (hkeys.nodup_path _ hsources).sublist (treeKeys_sublist _ ?_ _)
        rintro ⟨key, entry⟩ made hmade
        exact key_of_foundryClaim? hmade

theorem source?_eq_some_iff {root : Path} {claim : Claim} {source : SourceTree} :
    claim.source? root = some source ↔ ∃ members, claim.tree = some (.obj members) ∧
      source = ⟨claim.index, root.join ⟨claim.key⟩, .obj members⟩ := by
  unfold Claim.source?
  split
  · rename_i members htree
    simp [htree, eq_comm]
  · rename_i hnone
    constructor
    · intro h
      cases h
    · rintro ⟨members, htree, -⟩
      exact absurd htree (hnone members)

/-- The trees of a document stand in strictly ascending index order. -/
theorem pairwise_index_sources {doc : Json} {root : Path} {canonical : Canonical} (hkeys : doc.KeysAscend)
    (h : canonicalOf doc root = .ok canonical) : (canonical.sources.map SourceTree.index).Pairwise (· < ·) := by
  obtain ⟨made, hgathers⟩ := gathers_of_canonicalOf h
  have hdistinct := nodup_treeKeys hkeys canonical.shape
  rw [hgathers.claims, List.filterMap_map, List.Nodup, List.pairwise_filterMap] at hdistinct
  -- Two claims that list trees have different keys, so they have different indexes.
  have hindexes : (made.filterMap (Claim.source? root)).Pairwise fun a b ↦ a.index ≠ b.index := by
    rw [List.pairwise_filterMap]
    refine hdistinct.imp_of_mem ?_
    intro a b ha hb hne first hfirst second hsecond hindex
    obtain ⟨members, htree, rfl⟩ := source?_eq_some_iff.mp hfirst
    obtain ⟨members', htree', rfl⟩ := source?_eq_some_iff.mp hsecond
    refine hne a.key ?_ b.key ?_ (hgathers.agree a ha b hb hindex)
    · simp [treeKey?, htree]
    · simp [treeKey?, htree']
  rw [hgathers.sources]
  apply pairwise_lt_mergeSort
  rwa [List.Nodup, List.pairwise_map]

/-- Where sources stand in strictly ascending index order, so do the files that are built: a root has the index of its
source, and leaving failures out keeps the order. -/
theorem pairwise_fileIndex_roots {sources : List SourceTree}
    (h : (sources.map SourceTree.index).Pairwise (· < ·)) :
    ((build sources).roots.map Arena.fileIndex).Pairwise (· < ·) := by
  have hcalls : (calls {} sources).Pairwise fun a b ↦ a.source.index < b.source.index := by
    rwa [← map_source_calls sources {}, List.map_map, List.pairwise_map] at h
  have hroot : ∀ call ∈ calls {} sources, ∀ arena, call.arena? = some arena →
      arena.fileIndex = call.source.index := by
    intro call hcall arena harena
    have hbuild := buildFile_of_mem_calls hcall
    rw [Call.arena?_eq_some_iff.mp harena] at hbuild
    exact (file_of_buildFile hbuild).1
  rw [build, roots_buildFrom, List.pairwise_map, List.pairwise_filterMap]
  refine hcalls.imp_of_mem ?_
  intro a b ha hb hlt first hfirst second hsecond
  rw [hroot a ha first hfirst, hroot b hb second hsecond]
  exact hlt

/-- Whatever document is read, every source of it has one call, in source order: it gives a root with the index and
the path of the source, or a failure with its path. The roots stand in strictly ascending index order, and all node
ids of a run are distinct. After any run that starts with no ids in use, the ids in use are those of the arenas that
its calls gave. -/
theorem build_accounts_for_sources {doc : Json} {root : Path} {canonical : Canonical} (hkeys : doc.KeysAscend)
    (h : canonicalOf doc root = .ok canonical) :
    let run := calls {} canonical.sources
    let output := build canonical.sources
    run.map Call.source = canonical.sources ∧
      (∀ call ∈ run, buildFile call.source call.before = (call.result, call.after) ∧
        (∀ arena, call.result = .ok arena → arena.fileIndex = call.source.index ∧ arena.path = call.source.path) ∧
        ∀ e, call.result = .error e → e.file = call.source.path) ∧
      output.roots = run.filterMap Call.arena? ∧ output.failures = run.filterMap Call.error? ∧
      (output.roots.map Arena.fileIndex).Pairwise (· < ·) ∧
      (output.roots.flatMap Arena.ids).Nodup ∧
      ∀ (sources : List SourceTree) (id : Int), (registryAfter {} sources).contains id = true ↔
        ∃ call ∈ calls {} sources, ∃ arena, call.result = .ok arena ∧ id ∈ arena.ids := by
  intro run output
  have hroots : output.roots = run.filterMap Call.arena? := roots_buildFrom {} canonical.sources
  have hfailures : output.failures = run.filterMap Call.error? := failures_buildFrom {} canonical.sources
  have hids : (output.roots.flatMap Arena.ids).Nodup := nodup_ids_build canonical.sources
  have hcalls : ∀ call ∈ run, buildFile call.source call.before = (call.result, call.after) :=
    fun _ hcall ↦ buildFile_of_mem_calls hcall
  refine ⟨map_source_calls canonical.sources {}, ?_, hroots, hfailures, ?_, hids, ?_⟩
  · intro call hcall
    refine ⟨hcalls call hcall, ?_, ?_⟩
    · intro arena hresult
      exact file_of_buildFile (hresult ▸ hcalls call hcall)
    · intro e hresult
      exact file_of_buildFile_error (hresult ▸ hcalls call hcall)
  · exact pairwise_fileIndex_roots (pairwise_index_sources hkeys h)
  · intro sources id
    rw [contains_registryAfter_iff]
    simp [Registry.contains]

/-- A file that fails and one after it, listed the other way round. -/
def failingCompilation : Compilation where
  files := [⟨"/p/B.sol", 1, some followingUnit.members, none⟩, ⟨"/p/A.sol", 0, some brokenUnit.members, some ""⟩]
  nodup_keys := by decide
  nodup_indexes := by decide
  index_lt := by decide
  exists_tree := ⟨_, List.mem_cons_self, rfl⟩

theorem failingCompilation_accounted :
    ((Encoding.hardhat "-1").document failingCompilation).KeysAscend ∧
      ∃ canonical, canonicalOf ((Encoding.hardhat "-1").document failingCompilation) ⟨"/p"⟩ = .ok canonical ∧
        canonical.sources = [brokenSource, followingSource] ∧
        (calls {} canonical.sources).map Call.source = canonical.sources ∧
        ((build canonical.sources).roots.map Arena.fileIndex).Pairwise (· < ·) ∧
        ((build canonical.sources).roots.flatMap Arena.ids).Nodup := by
  have hfollowing : (Json.obj followingUnit.members).normalize = .obj followingUnit.members := rfl
  have hbroken : (Json.obj brokenUnit.members).normalize = .obj brokenUnit.members := rfl
  have htrees : failingCompilation.TreesAscend := by
    intro file hfile members hmembers
    simp only [failingCompilation, List.mem_cons, List.not_mem_nil, or_false] at hfile
    rcases hfile with rfl | rfl
    · cases hmembers
      exact hfollowing ▸ Json.keysAscend_normalize _
    · cases hmembers
      exact hbroken ▸ Json.keysAscend_normalize _
  have hkeys : ((Encoding.hardhat "-1").document failingCompilation).KeysAscend :=
    Encoding.keysAscend_document htrees nofun
  have hfits : (Encoding.hardhat "-1").Fits failingCompilation := trivial
  have hcanonical := Encoding.canonicalOf_document hfits ⟨"/p"⟩
  have hsources : failingCompilation.sources ⟨"/p"⟩ = [brokenSource, followingSource] := by
    have hjoin (key : String) (h : Path.isAbsolute ⟨key⟩ = true) : Path.join ⟨"/p"⟩ ⟨key⟩ = ⟨key⟩ := by
      rw [Path.join, h, Bool.true_or, if_pos rfl]
    have htrees : failingCompilation.files.filterMap (CompiledFile.source? ⟨"/p"⟩) =
        [followingSource, brokenSource] := by
      have hfirst := hjoin "/p/A.sol" (by simp [Path.isAbsolute])
      have hsecond := hjoin "/p/B.sol" (by simp [Path.isAbsolute])
      simp only [failingCompilation, List.filterMap_cons, List.filterMap_nil, CompiledFile.source?, Option.map_some,
        hfirst, hsecond]
      rfl
    rw [Compilation.sources, htrees]
    simp [List.mergeSort, brokenSource, followingSource]
  obtain ⟨hcalls, -, -, -, hindexes, hids, -⟩ := build_accounts_for_sources hkeys hcanonical
  exact ⟨hkeys, _, hcanonical, hsources, hcalls, hindexes, hids⟩

end SolAudit.CompilerOutput
