import Mathlib.Data.List.Sort
import SolAudit.CompilerOutput.Canonical
import SolAudit.Proofs.Outcome

/-!
# Collecting claims

Claims are taken one after the other. What they have given so far is told by the claims alone (`Collects`): the
table holds the file of each claim once, in index order, and the trees stand in the order of the claims. Taking claims
fails only where one index stands for two keys (`Collects.exists_collect`), so a document is read if and only if its
claims have no fault and agree (`canonicalOf_eq_ok_iff`).
-/

namespace SolAudit

theorem pairwise_mergeSort_le {α : Type} (f : α → Nat) (l : List α) :
    (l.mergeSort fun a b ↦ f a ≤ f b).Pairwise fun a b ↦ f a ≤ f b := by
  have hsorted := @List.pairwise_mergeSort α (fun a b ↦ decide (f a ≤ f b))
    (fun a b c hab hbc ↦ by simp only [decide_eq_true_eq] at *; omega)
    (fun a b ↦ by simp only [Bool.or_eq_true, decide_eq_true_eq]; omega) l
  simpa only [decide_eq_true_eq] using hsorted

/-- Lists with the same elements are sorted alike where the elements have distinct numbers. -/
theorem mergeSort_eq_of_perm {α : Type} {f : α → Nat} {l l' : List α} (hperm : l.Perm l') (hnodup : (l'.map f).Nodup) :
    (l.mergeSort fun a b ↦ f a ≤ f b) = l'.mergeSort fun a b ↦ f a ≤ f b := by
  have hsame : (l.mergeSort fun a b ↦ f a ≤ f b).Perm (l'.mergeSort fun a b ↦ f a ≤ f b) :=
    ((List.mergeSort_perm _ _).trans hperm).trans (List.mergeSort_perm _ _).symm
  refine hsame.eq_of_pairwise ?_ (pairwise_mergeSort_le f l) (pairwise_mergeSort_le f l')
  intro a b ha hb hab hba
  have ha' : a ∈ l' := hperm.mem_iff.mp ((List.mergeSort_perm _ _).mem_iff.mp ha)
  have hb' : b ∈ l' := (List.mergeSort_perm _ _).mem_iff.mp hb
  exact List.inj_on_of_nodup_map hnodup ha' hb' (Nat.le_antisymm hab hba)

/-- Elements with distinct numbers are sorted in strictly ascending order. -/
theorem pairwise_lt_mergeSort {α : Type} {f : α → Nat} {l : List α} (hnodup : (l.map f).Nodup) :
    ((l.mergeSort fun a b ↦ f a ≤ f b).map f).Pairwise (· < ·) := by
  have hsorted : ((l.mergeSort fun a b ↦ f a ≤ f b).map f).Nodup :=
    ((List.mergeSort_perm _ _).map f).nodup_iff.mpr hnodup
  rw [List.Nodup, List.pairwise_map] at hsorted
  rw [List.pairwise_map]
  exact ((pairwise_mergeSort_le f l).and hsorted).imp fun h ↦ Nat.lt_of_le_of_ne h.1 h.2

/-- What is made of some elements of a list stands in the list of what all of them would give. -/
theorem filterMap_sublist_map {α β : Type} {f : α → Option β} {g : α → β} (h : ∀ a b, f a = some b → b = g a)
    (l : List α) : (l.filterMap f).Sublist (l.map g) := by
  induction l with
  | nil => exact List.Sublist.refl _
  | cons a rest ih =>
    rw [List.filterMap_cons, List.map_cons]
    cases hfa : f a with
    | none => exact ih.cons _
    | some b =>
      rw [h a b hfa]
      exact ih.cons_cons _

end SolAudit

namespace SolAudit.Source.Table

theorem mem_place {index : Nat} {file : File} {files : List (Nat × File)} {entry : Nat × File} :
    entry ∈ place index file files ↔ entry = (index, file) ∨ entry ∈ files := by
  induction files with
  | nil => simp [place]
  | cons first rest ih =>
    obtain ⟨i, f⟩ := first
    rw [place]
    split
    · exact List.mem_cons
    · rw [List.mem_cons, ih, List.mem_cons]
      tauto

/-- Putting a file at a new index keeps the indexes ascending. -/
theorem pairwise_place {index : Nat} {file : File} {files : List (Nat × File)}
    (hnew : ∀ entry ∈ files, entry.1 ≠ index) (h : (files.map Prod.fst).Pairwise (· < ·)) :
    ((place index file files).map Prod.fst).Pairwise (· < ·) := by
  induction files with
  | nil => exact List.pairwise_singleton _ _
  | cons first rest ih =>
    obtain ⟨i, f⟩ := first
    obtain ⟨hfirst, hrest⟩ := List.pairwise_cons.mp h
    rw [place]
    split
    · rename_i hlt
      refine List.pairwise_cons.mpr ⟨?_, h⟩
      intro other hother
      rcases List.mem_cons.mp hother with rfl | hother
      · exact hlt
      · exact Nat.lt_trans hlt (hfirst other hother)
    · rename_i hnot
      have hne : i ≠ index := hnew (i, f) List.mem_cons_self
      refine List.pairwise_cons.mpr ⟨?_, ih (fun entry hentry ↦ hnew entry (List.mem_cons_of_mem _ hentry)) hrest⟩
      intro other hother
      obtain ⟨entry, hentry, rfl⟩ := List.mem_map.mp hother
      rcases mem_place.mp hentry with rfl | hentry
      · simp only
        omega
      · exact hfirst entry.1 (List.mem_map_of_mem hentry)

theorem insert_of_new {table : Table} {index : Nat} (hnew : ∀ entry ∈ table.files, entry.1 ≠ index) (file : File) :
    table.insert index file = ⟨place index file table.files⟩ := by
  have hnone : table.get? index = none := by
    rw [get?, List.lookup_eq_none_iff]
    intro entry hentry
    simpa using (hnew entry hentry).symm
  rw [insert, insert?, hnone]
  rfl

/-- Two tables with ascending indexes and the same entries are one. -/
theorem eq_of_mem_iff {first second : Table} (hfirst : (first.files.map Prod.fst).Pairwise (· < ·))
    (hsecond : (second.files.map Prod.fst).Pairwise (· < ·))
    (h : ∀ entry, entry ∈ first.files ↔ entry ∈ second.files) : first = second := by
  rw [List.pairwise_map] at hfirst hsecond
  have hne {a b : Nat × File} (hlt : a.1 < b.1) : a ≠ b := fun heq ↦ Nat.ne_of_lt hlt (heq ▸ rfl)
  have hperm : first.files.Perm second.files := (List.perm_ext_iff_of_nodup (hfirst.imp hne) (hsecond.imp hne)).mpr h
  have hfiles : first.files = second.files := by
    apply hperm.eq_of_pairwise _ hfirst hsecond
    intro a b _ _ hlt hgt
    exact absurd hgt (Nat.lt_asymm hlt)
  obtain ⟨files⟩ := first
  exact congrArg Table.mk hfiles

end SolAudit.Source.Table

namespace SolAudit.CompilerOutput

open Build (SourceTree)

/-- The file that a document holds for a key. -/
def fileAt (doc : Json) (root : Path) (key : String) : Source.File where
  path := root.join ⟨key⟩
  content := contentOf? doc key

/-- The tree that a claim lists, if an object stands where it should. -/
def Claim.source? (root : Path) (claim : Claim) : Option SourceTree :=
  match claim.tree with
  | some (.obj members) => some { index := claim.index, path := root.join ⟨claim.key⟩, ast := .obj members }
  | _ => none

/-- No index is claimed for two keys. -/
def Agree (made : List Claim) : Prop :=
  ∀ a ∈ made, ∀ b ∈ made, a.index = b.index → a.key = b.key

/-- What claims have given. -/
structure Collects (doc : Json) (root : Path) (made : List Claim) (out : Collection) : Prop where
  claimed_iff : ∀ index key, out.claimed.lookup index = some key ↔
    ∃ claim ∈ made, claim.index = index ∧ claim.key = key
  sources : out.sources.reverse = made.filterMap (Claim.source? root)
  ascending : (out.table.files.map Prod.fst).Pairwise (· < ·)
  mem_table : ∀ index file, (index, file) ∈ out.table.files ↔
    ∃ claim ∈ made, claim.index = index ∧ fileAt doc root claim.key = file

variable {doc : Json} {root : Path} {made : List Claim} {out out' : Collection} {claim : Claim}

theorem collects_nil (doc : Json) (root : Path) : Collects doc root [] {} where
  claimed_iff := by simp
  sources := rfl
  ascending := List.Pairwise.nil
  mem_table := by simp [Source.Table.empty]

theorem exists_mem_concat {α : Type} {p : α → Prop} {l : List α} {a : α} :
    (∃ x ∈ l ++ [a], p x) ↔ (∃ x ∈ l, p x) ∨ p a := by
  simp [or_and_right, exists_or]

namespace Collects

theorem agree (h : Collects doc root made out) : Agree made := by
  intro a ha b hb hindex
  have hfirst := (h.claimed_iff a.index a.key).mpr ⟨a, ha, rfl, rfl⟩
  have hsecond := (h.claimed_iff a.index b.key).mpr ⟨b, hb, hindex.symm, rfl⟩
  rw [hfirst] at hsecond
  exact Option.some.inj hsecond

/-- Taking a claim again adds no file. -/
theorem again (h : Collects doc root made out) (hclaimed : out.claimed.lookup claim.index = some claim.key) :
    Collects doc root (made ++ [claim]) { out with sources := (claim.source? root).toList ++ out.sources } where
  claimed_iff := by
    intro index key
    rw [h.claimed_iff, exists_mem_concat]
    refine ⟨.inl, ?_⟩
    rintro (hmade | ⟨rfl, rfl⟩)
    · exact hmade
    · exact (h.claimed_iff _ _).mp hclaimed
  sources := by
    rw [List.reverse_append, h.sources, List.filterMap_append]
    cases hsource : claim.source? root <;> simp [hsource]
  ascending := h.ascending
  mem_table := by
    intro index file
    rw [h.mem_table, exists_mem_concat]
    refine ⟨.inl, ?_⟩
    rintro (hmade | ⟨rfl, rfl⟩)
    · exact hmade
    · obtain ⟨other, hother, hindex, hkey⟩ := (h.claimed_iff _ _).mp hclaimed
      exact ⟨other, hother, hindex, by rw [hkey]⟩

/-- Taking a claim of a new index adds its file. -/
theorem new (h : Collects doc root made out) (hnew : out.claimed.lookup claim.index = none) :
    Collects doc root (made ++ [claim]) {
      claimed := (claim.index, claim.key) :: out.claimed
      table := out.table.insert claim.index (fileAt doc root claim.key)
      sources := (claim.source? root).toList ++ out.sources } := by
  have hindex : ∀ other ∈ made, other.index ≠ claim.index := by
    intro other hother hsame
    have hclaimed := (h.claimed_iff claim.index other.key).mpr ⟨other, hother, hsame, rfl⟩
    rw [hnew] at hclaimed
    cases hclaimed
  have htable : ∀ entry ∈ out.table.files, entry.1 ≠ claim.index := by
    rintro ⟨index, file⟩ hentry
    obtain ⟨other, hother, rfl, -⟩ := (h.mem_table index file).mp hentry
    exact hindex other hother
  constructor
  · intro index key
    rw [List.lookup_cons, exists_mem_concat]
    by_cases hsame : index = claim.index
    · subst hsame
      have hnone : ¬∃ other ∈ made, other.index = claim.index ∧ other.key = key := by
        rintro ⟨other, hother, hsame, -⟩
        exact hindex other hother hsame
      simp [hnone]
    · have hne : (index == claim.index) = false := by simpa using hsame
      rw [hne, h.claimed_iff]
      simp [Ne.symm hsame]
  · rw [List.reverse_append, h.sources, List.filterMap_append]
    cases hsource : claim.source? root <;> simp [hsource]
  · rw [Source.Table.insert_of_new htable]
    exact Source.Table.pairwise_place htable h.ascending
  · intro index file
    rw [Source.Table.insert_of_new htable, Source.Table.mem_place, h.mem_table, exists_mem_concat, Prod.mk.injEq,
      or_comm, eq_comm (a := index), eq_comm (a := file)]

end Collects

/-- Listing the tree of a claim changes the trees only. -/
theorem addTree_eq (out : Collection) (root : Path) (claim : Claim) :
    out.addTree claim (root.join ⟨claim.key⟩) =
      { out with sources := (claim.source? root).toList ++ out.sources } := by
  unfold Collection.addTree Claim.source?
  cases claim.tree with
  | none => rfl
  | some tree => cases tree <;> rfl

/-- What taking a claim does, by what its index stands for so far. -/
theorem add_eq (out : Collection) (doc : Json) (root : Path) (claim : Claim) :
    out.add doc root claim =
      match out.claimed.lookup claim.index with
      | some key =>
        if key == claim.key then .ok { out with sources := (claim.source? root).toList ++ out.sources }
        else .error (.sharedIndex claim.index key claim.key)
      | none =>
        .ok {
          claimed := (claim.index, claim.key) :: out.claimed
          table := out.table.insert claim.index (fileAt doc root claim.key)
          sources := (claim.source? root).toList ++ out.sources } := by
  unfold Collection.add
  simp only [addTree_eq]
  rfl

namespace Collects

theorem add (h : Collects doc root made out) (hadd : out.add doc root claim = .ok out') :
    Collects doc root (made ++ [claim]) out' := by
  rw [add_eq] at hadd
  split at hadd
  · rename_i key hkey
    split at hadd
    · rename_i hsame
      cases hadd
      exact h.again (by rw [hkey, beq_iff_eq.mp hsame])
    · cases hadd
  · rename_i hnew
    cases hadd
    exact h.new hnew

/-- A claim is taken if no claim before gave its index to another key. -/
theorem exists_add (h : Collects doc root made out)
    (hagree : ∀ other ∈ made, other.index = claim.index → other.key = claim.key) :
    ∃ out', out.add doc root claim = .ok out' := by
  rw [add_eq]
  split
  · rename_i key hkey
    obtain ⟨other, hother, hindex, rfl⟩ := (h.claimed_iff _ _).mp hkey
    rw [if_pos (beq_iff_eq.mpr (hagree other hother hindex))]
    exact ⟨_, rfl⟩
  · exact ⟨_, rfl⟩

/-- A list of claims that is taken has no fault, and gives what its claims give after those before. -/
theorem collect {list : Claims} : ∀ {made : List Claim} {out : Collection}, Collects doc root made out →
    CompilerOutput.collect doc root out list = .ok out' →
      ∃ more, list = more.map .ok ∧ Collects doc root (made ++ more) out' := by
  induction list with
  | nil =>
    intro made out h hcollect
    cases hcollect
    exact ⟨[], rfl, by rwa [List.append_nil]⟩
  | cons first rest ih =>
    intro made out h hcollect
    cases first with
    | error fault => cases hcollect
    | ok claim =>
      obtain ⟨middle, hadd, hrest⟩ := Outcome.bind_eq_ok.mp hcollect
      obtain ⟨more, rfl, hmore⟩ := ih (h.add hadd) hrest
      exact ⟨claim :: more, rfl, by rwa [List.append_assoc] at hmore⟩

/-- Claims that agree are taken. -/
theorem exists_collect {more : List Claim} : ∀ {made : List Claim} {out : Collection}, Collects doc root made out →
    Agree (made ++ more) → ∃ out', CompilerOutput.collect doc root out (more.map .ok) = .ok out' := by
  induction more with
  | nil =>
    intro made out _ _
    exact ⟨out, rfl⟩
  | cons claim rest ih =>
    intro made out h hagree
    obtain ⟨middle, hadd⟩ := h.exists_add fun other hother ↦
      hagree other (List.mem_append_left _ hother) claim (List.mem_append_right _ List.mem_cons_self)
    obtain ⟨out', hrest⟩ := ih (h.add hadd) (by rwa [List.append_assoc])
    exact ⟨out', Outcome.bind_eq_ok.mpr ⟨middle, hadd, hrest⟩⟩

end Collects

/-- What a document gives, by the claims that it makes: the trees of the claims in index order, and a table with the
file of each claim. -/
structure Gathers (doc : Json) (root : Path) (made : List Claim) (canonical : Canonical) : Prop where
  detects : detect? doc = some canonical.shape
  claims : claims doc canonical.shape = made.map .ok
  agree : Agree made
  sources : canonical.sources = (made.filterMap (Claim.source? root)).mergeSort fun a b ↦ a.index ≤ b.index
  ascending : (canonical.table.files.map Prod.fst).Pairwise (· < ·)
  mem_table : ∀ index file, (index, file) ∈ canonical.table.files ↔
    ∃ claim ∈ made, claim.index = index ∧ fileAt doc root claim.key = file

theorem gathers_of_canonicalOf {canonical : Canonical} (h : canonicalOf doc root = .ok canonical) :
    ∃ made, Gathers doc root made canonical := by
  unfold canonicalOf at h
  split at h
  · cases h
  · rename_i shape hshape
    obtain ⟨out, hcollect, hcanonical⟩ := Outcome.bind_eq_ok.mp h
    obtain ⟨made, hclaims, hout⟩ := (collects_nil doc root).collect hcollect
    cases hcanonical
    exact ⟨made, hshape, hclaims, hout.agree, by rw [← List.nil_append made, ← hout.sources],
      hout.ascending, hout.mem_table⟩

/-- A document whose claims have no fault and agree is read, and what it gives is told by its claims. -/
theorem canonicalOf_eq_ok_iff {canonical : Canonical} :
    canonicalOf doc root = .ok canonical ↔ ∃ made, Gathers doc root made canonical := by
  refine ⟨gathers_of_canonicalOf, ?_⟩
  rintro ⟨made, hgathers⟩
  obtain ⟨out, hcollect⟩ : ∃ out, collect doc root {} (made.map .ok) = .ok out :=
    (collects_nil doc root).exists_collect hgathers.agree
  obtain ⟨other, hother⟩ : ∃ other, canonicalOf doc root = .ok other := by
    rw [canonicalOf, hgathers.detects]
    simp only [hgathers.claims, hcollect]
    exact ⟨_, rfl⟩
  obtain ⟨made', hgathers'⟩ := gathers_of_canonicalOf hother
  have hshape : other.shape = canonical.shape :=
    Option.some.inj (hgathers'.detects.symm.trans hgathers.detects)
  have hmade : made' = made := by
    have hclaims := hgathers'.claims
    rw [hshape, hgathers.claims] at hclaims
    exact (List.map_injective_iff.mpr (fun _ _ heq ↦ Except.ok.inj heq) hclaims).symm
  subst hmade
  have htable : other.table = canonical.table := by
    apply Source.Table.eq_of_mem_iff hgathers'.ascending hgathers.ascending
    rintro ⟨index, file⟩
    rw [hgathers'.mem_table, hgathers.mem_table]
  obtain ⟨shape, sources, table⟩ := canonical
  rw [hother]
  obtain ⟨shape', sources', table'⟩ := other
  rw [Except.ok.injEq, Canonical.mk.injEq]
  exact ⟨hshape, hgathers'.sources.trans hgathers.sources.symm, htable⟩

end SolAudit.CompilerOutput
