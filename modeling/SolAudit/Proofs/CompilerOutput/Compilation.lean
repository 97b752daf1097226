import SolAudit.CompilerOutput.Canonical
import SolAudit.Proofs.Json.Members

/-!
# Compilations

The files of a compiler run, the trees and the table that reading should give of them, and the documents in which they
may be written (`Encoding.document`). The keys of a document ascend if those of the trees do
(`Encoding.keysAscend_document`), so it is one that can be read.
-/

namespace SolAudit.CompilerOutput

open Build (SourceTree)

/-- What a compiler tells of a file. -/
structure CompiledFile where
  key : String
  index : Nat
  tree : Option Json.Members
  content : Option String

/-- The files of a compiler run, at least one of them with a tree. -/
structure Compilation where
  files : List CompiledFile
  nodup_keys : (files.map CompiledFile.key).Nodup
  nodup_indexes : (files.map CompiledFile.index).Nodup
  index_lt : ∀ file ∈ files, file.index < Text.indexBound
  exists_tree : ∃ file ∈ files, file.tree.isSome = true

namespace CompiledFile

def source? (root : Path) (file : CompiledFile) : Option SourceTree :=
  file.tree.map fun members ↦ { index := file.index, path := root.join ⟨file.key⟩, ast := .obj members }

def tableEntry (root : Path) (file : CompiledFile) : Nat × Source.File :=
  (file.index, { path := root.join ⟨file.key⟩, content := file.content })

end CompiledFile

namespace Compilation

/-- The trees of the files, in index order. -/
def sources (compilation : Compilation) (root : Path) : List SourceTree :=
  (compilation.files.filterMap (CompiledFile.source? root)).mergeSort fun a b ↦ a.index ≤ b.index

/-- Every file at its index. -/
def table (compilation : Compilation) (root : Path) : Source.Table :=
  ⟨(compilation.files.map (CompiledFile.tableEntry root)).mergeSort fun a b ↦ a.1 ≤ b.1⟩

end Compilation

theorem Compilation.eq_of_key {compilation : Compilation} {a b : CompiledFile} (ha : a ∈ compilation.files)
    (hb : b ∈ compilation.files) (h : a.key = b.key) : a = b :=
  List.inj_on_of_nodup_map compilation.nodup_keys ha hb h

theorem Compilation.eq_of_index {compilation : Compilation} {a b : CompiledFile} (ha : a ∈ compilation.files)
    (hb : b ∈ compilation.files) (h : a.index = b.index) : a = b :=
  List.inj_on_of_nodup_map compilation.nodup_indexes ha hb h

/-- A way to write a compilation as a document. -/
inductive Encoding where
  /-- Each entry has its index. A tree stands under the lower case key in the files that `lower` names. -/
  | combined (lower : String → Bool)
  /-- The files are listed in index order. A file without a tree has an entry if `kept` names it. -/
  | listed (lower kept : String → Bool)
  | hardhat (version : String)
  /-- The indexes are keys. An entry may have an index of its own, which does not count. -/
  | numbered (own : String → Option Json) (kept : String → Bool)
  /-- Each entry is a list of files by compiler version. -/
  | versioned

namespace CompiledFile

def entry (treeKey : String) (id : Option Json) (file : CompiledFile) : Json :=
  .obj ((file.tree.map fun members ↦ (treeKey, .obj members)).toList ++ (id.map fun id ↦ ("id", id)).toList)

def treeKey (lower : String → Bool) (file : CompiledFile) : String := if lower file.key then "ast" else "AST"

/-- The entry of a text. -/
def contentEntry? (file : CompiledFile) : Option (String × Json) :=
  file.content.map fun content ↦ (file.key, .obj [("content", .str content)])

/-- An entry for a tree or for a key that `kept` names. -/
def entered (kept : String → Bool) (file : CompiledFile) : Bool := file.tree.isSome || kept file.key

end CompiledFile

namespace Compilation

variable (compilation : Compilation)

/-- The texts of the files. -/
def input : Json := .obj [("sources", .ofMembers (compilation.files.filterMap CompiledFile.contentEntry?))]

/-- The object with an entry for each of the files that `entered` names. -/
def entries (entered : CompiledFile → Bool) (entry : CompiledFile → Json) : Json :=
  .ofMembers ((compilation.files.filter entered).map fun file ↦ (file.key, entry file))

/-- The files in index order. -/
def byIndex : List CompiledFile := compilation.files.mergeSort fun a b ↦ a.index ≤ b.index

end Compilation

namespace Encoding

def document (compilation : Compilation) : Encoding → Json
  | .combined lower =>
    .obj [("input", compilation.input),
      ("sources", compilation.entries (fun _ ↦ true) fun file ↦
        file.entry (file.treeKey lower) (some (.nat file.index)))]
  | .listed lower kept =>
    .obj [("input", compilation.input),
      ("sourceList", .ofStrings (compilation.byIndex.map CompiledFile.key)),
      ("sources", compilation.entries (·.entered kept) fun file ↦ file.entry (file.treeKey lower) none)]
  | .hardhat version =>
    .obj [("_format", .str (hardhatFormat ++ version)), ("input", compilation.input),
      ("output", .obj [("sources",
        compilation.entries (fun _ ↦ true) fun file ↦ file.entry "ast" (some (.nat file.index)))])]
  | .numbered own kept =>
    .obj [("input", compilation.input),
      ("output", .obj [("sources",
        compilation.entries (·.entered kept) fun file ↦ file.entry "ast" (own file.key))]),
      ("source_id_to_path", .ofMembers (compilation.files.map fun file ↦ (toString file.index, .str file.key)))]
  | .versioned =>
    .obj [("input", compilation.input),
      ("output", .obj [("sources", compilation.entries (fun _ ↦ true) fun file ↦
        .arr [.obj [("source_file", file.entry "ast" (some (.nat file.index)))]])])]

def shape : Encoding → Shape
  | .combined _ | .listed _ _ => .combinedJson
  | .hardhat _ => .hardhatBuildInfo
  | .numbered _ _ | .versioned => .foundryBuildInfo

/-- A list without indexes serves where the indexes are the places of the list. -/
def Fits (compilation : Compilation) : Encoding → Prop
  | .listed _ _ => (compilation.files.map CompiledFile.index).Perm (List.range compilation.files.length)
  | _ => True

end Encoding

namespace Compilation

/-- In the trees of the files keys ascend. -/
def TreesAscend (compilation : Compilation) : Prop :=
  ∀ file ∈ compilation.files, ∀ members, file.tree = some members → (Json.obj members).KeysAscend

variable {compilation : Compilation}

theorem keysAscend_input : compilation.input.KeysAscend := by
  apply Json.keysAscend_singleton
  apply Json.keysAscend_ofMembers
  intro member hmember
  obtain ⟨file, -, hfile⟩ := List.mem_filterMap.mp hmember
  obtain ⟨content, -, rfl⟩ := Option.map_eq_some_iff.mp hfile
  exact Json.keysAscend_singleton _ (Json.keysAscend_str content)

theorem keysAscend_entries (kept : CompiledFile → Bool) {entry : CompiledFile → Json}
    (h : ∀ file ∈ compilation.files, (entry file).KeysAscend) : (compilation.entries kept entry).KeysAscend := by
  apply Json.keysAscend_ofMembers
  intro member hmember
  obtain ⟨file, hfile, rfl⟩ := List.mem_map.mp hmember
  exact h file (List.mem_of_mem_filter hfile)

end Compilation

namespace CompiledFile

variable {file : CompiledFile}

theorem treeKey_lt_id (lower : String → Bool) (file : CompiledFile) : file.treeKey lower < "id" := by
  unfold treeKey
  split <;> decide

theorem keysAscend_entry {treeKey : String} (hkey : treeKey < "id") {id : Option Json}
    (htree : ∀ members, file.tree = some members → (Json.obj members).KeysAscend)
    (hid : ∀ own, id = some own → own.KeysAscend) : (file.entry treeKey id).KeysAscend := by
  unfold entry
  apply Json.keysAscend_obj
  · refine (List.pairwise_pair.mpr hkey).sublist ?_
    cases file.tree <;> cases id <;> simp
  · intro member hmember
    rcases List.mem_append.mp hmember with hmember | hmember
    · obtain ⟨members, hmembers, rfl⟩ := Option.map_eq_some_iff.mp (Option.mem_toList.mp hmember)
      exact htree members hmembers
    · obtain ⟨own, hown, rfl⟩ := Option.map_eq_some_iff.mp (Option.mem_toList.mp hmember)
      exact hid own hown

theorem keysAscend_entry_index {treeKey : String} (hkey : treeKey < "id")
    (htree : ∀ members, file.tree = some members → (Json.obj members).KeysAscend) :
    (file.entry treeKey (some (.nat file.index))).KeysAscend := by
  apply keysAscend_entry hkey htree
  intro own hown
  cases hown
  exact Json.keysAscend_nat file.index

end CompiledFile

namespace Encoding

/-- The indexes of their own that entries have. -/
def own? : Encoding → String → Option Json
  | .numbered own _ => own
  | _ => fun _ ↦ none

/-- A document has its keys in ascending order if the trees have theirs. -/
theorem keysAscend_document {compilation : Compilation} (htrees : compilation.TreesAscend) {e : Encoding}
    (hown : ∀ key own, e.own? key = some own → own.KeysAscend) : (e.document compilation).KeysAscend := by
  have hast : "ast" < "id" := by decide
  have hinput : compilation.input.KeysAscend := Compilation.keysAscend_input
  cases e with
  | combined lower =>
    have hkeys : ["input", "sources"].Pairwise (· < ·) := by decide
    have hsources := compilation.keysAscend_entries (fun _ ↦ true) fun file hfile ↦
      CompiledFile.keysAscend_entry_index (file.treeKey_lt_id lower) (htrees file hfile)
    exact Json.keysAscend_obj hkeys (by simpa using ⟨hinput, hsources⟩)
  | listed lower kept =>
    have hkeys : ["input", "sourceList", "sources"].Pairwise (· < ·) := by decide
    have hlist := Json.keysAscend_ofStrings (compilation.byIndex.map CompiledFile.key)
    have hsources := compilation.keysAscend_entries (·.entered kept)
      fun file hfile ↦ @CompiledFile.keysAscend_entry file _ (file.treeKey_lt_id lower) none (htrees file hfile) nofun
    exact Json.keysAscend_obj hkeys (by simpa using ⟨hinput, hlist, hsources⟩)
  | hardhat version =>
    have hkeys : ["_format", "input", "output"].Pairwise (· < ·) := by decide
    have hformat := Json.keysAscend_str (hardhatFormat ++ version)
    have hsources := compilation.keysAscend_entries (fun _ ↦ true)
      fun file hfile ↦ CompiledFile.keysAscend_entry_index hast (htrees file hfile)
    have houtput := Json.keysAscend_singleton "sources" hsources
    exact Json.keysAscend_obj hkeys (by simpa using ⟨hformat, hinput, houtput⟩)
  | numbered own kept =>
    have hkeys : ["input", "output", "source_id_to_path"].Pairwise (· < ·) := by decide
    have hsources := compilation.keysAscend_entries (·.entered kept) fun file hfile ↦
      CompiledFile.keysAscend_entry hast (htrees file hfile) (hown file.key)
    have houtput := Json.keysAscend_singleton "sources" hsources
    have hids : (Json.ofMembers (compilation.files.map fun file ↦
        (toString file.index, .str file.key))).KeysAscend := by
      apply Json.keysAscend_ofMembers
      intro member hmember
      obtain ⟨file, -, rfl⟩ := List.mem_map.mp hmember
      exact Json.keysAscend_str file.key
    exact Json.keysAscend_obj hkeys (by simpa using ⟨hinput, houtput, hids⟩)
  | versioned =>
    have hkeys : ["input", "output"].Pairwise (· < ·) := by decide
    have hversions (file : CompiledFile) (hfile : file ∈ compilation.files) :
        (Json.arr [.obj [("source_file", file.entry "ast" (some (.nat file.index)))]]).KeysAscend := by
      have hentry := CompiledFile.keysAscend_entry_index hast (htrees file hfile)
      exact Json.keysAscend_arr (List.forall_mem_singleton.mpr (Json.keysAscend_singleton _ hentry))
    have houtput := Json.keysAscend_singleton "sources" (compilation.keysAscend_entries (fun _ ↦ true) hversions)
    exact Json.keysAscend_obj hkeys (by simpa using ⟨hinput, houtput⟩)

end Encoding

end SolAudit.CompilerOutput
