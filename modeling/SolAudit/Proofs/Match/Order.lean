import Mathlib.Data.List.Sort
import SolAudit.Match.Run

/-!
# The order of findings

Matches of a file are sorted by template and, within a template, by place. The sort is stable, so picking the
matches of one template out of the sorted list gives the same as sorting the matches of that template by place
(`filterMap_mergeSort_notAfter`); nothing is assumed about node ids. No range starts after the offset as which a
malformed one counts.
-/

namespace SolAudit

/-- A list splits in only one way into elements that fail a test and elements that pass it. -/
theorem eq_of_append_eq_append {α : Type} {q : α → Bool} {a b a' b' : List α} (h : a ++ b = a' ++ b')
    (ha : ∀ x ∈ a, !q x) (hb : ∀ x ∈ b, q x) (ha' : ∀ x ∈ a', !q x) (hb' : ∀ x ∈ b', q x) :
    a = a' ∧ b = b' := by
  have hfront : a = a' := by
    have hfilter := congrArg (List.filter fun x ↦ !q x) h
    have hnil : b.filter (fun x ↦ !q x) = [] := List.filter_eq_nil_iff.mpr fun x hx ↦ by simp [hb x hx]
    have hnil' : b'.filter (fun x ↦ !q x) = [] := List.filter_eq_nil_iff.mpr fun x hx ↦ by simp [hb' x hx]
    rwa [List.filter_append, List.filter_append, List.filter_eq_self.mpr ha, List.filter_eq_self.mpr ha',
      hnil, hnil', List.append_nil, List.append_nil] at hfilter
  subst hfront
  exact ⟨rfl, List.append_cancel_left h⟩

/-- A stable sort and a choice of elements can be done in either order. -/
theorem filter_mergeSort {α : Type} {le : α → α → Bool}
    (htrans : ∀ a b c, le a b → le b c → le a c) (htotal : ∀ a b, le a b || le b a)
    (p : α → Bool) (l : List α) : (l.mergeSort le).filter p = (l.filter p).mergeSort le := by
  induction l with
  | nil => simp
  | cons a l ih =>
    obtain ⟨before, after, hcons, hrest, hbefore⟩ := List.mergeSort_cons htrans htotal a l
    rw [hrest] at ih
    rw [hcons]
    by_cases hp : p a
    · -- In both lists `a` stands between the elements that do not come after it and the others.
      obtain ⟨before', after', hcons', hrest', hbefore'⟩ :=
        List.mergeSort_cons htrans htotal a (l.filter p)
      have hafter : ∀ b ∈ after, le a b := by
        have hsorted := List.pairwise_mergeSort htrans htotal (a :: l)
        rw [hcons, List.pairwise_append, List.pairwise_cons] at hsorted
        exact hsorted.2.1.1
      have hafter' : ∀ b ∈ after', le a b := by
        have hsorted := List.pairwise_mergeSort htrans htotal (a :: l.filter p)
        rw [hcons', List.pairwise_append, List.pairwise_cons] at hsorted
        exact hsorted.2.1.1
      have hsame : before.filter p ++ after.filter p = before' ++ after' := by
        rw [← List.filter_append, ih, hrest']
      obtain ⟨hfst, hsnd⟩ := eq_of_append_eq_append hsame
        (fun b hb ↦ hbefore b (List.mem_filter.mp hb).1) (fun b hb ↦ hafter b (List.mem_filter.mp hb).1)
        hbefore' hafter'
      rw [List.filter_cons_of_pos hp, hcons', List.filter_append, List.filter_cons_of_pos hp, hfst, hsnd]
    · rw [List.filter_cons_of_neg hp, List.filter_append, List.filter_cons_of_neg hp,
        ← List.filter_append, ih]

namespace Match

/-- By offset, then by node. -/
def findingNotAfter (a b : Finding) : Bool :=
  a.offset < b.offset || (a.offset == b.offset && a.nodeId ≤ b.nodeId)

theorem findingNotAfter_iff {a b : Finding} :
    findingNotAfter a b = true ↔
      a.offset < b.offset ∨ a.offset = b.offset ∧ a.nodeId ≤ b.nodeId := by
  simp [findingNotAfter]

theorem notAfter_iff {a b : FileMatch} :
    notAfter a b = true ↔ a.1 < b.1 ∨ a.1 = b.1 ∧ findingNotAfter a.2 b.2 = true := by
  simp [notAfter, findingNotAfter]

theorem findingNotAfter_trans (a b c : Finding) (hab : findingNotAfter a b) (hbc : findingNotAfter b c) :
    findingNotAfter a c := by
  rw [findingNotAfter_iff] at *
  omega

theorem findingNotAfter_total (a b : Finding) : findingNotAfter a b || findingNotAfter b a := by
  rw [Bool.or_eq_true, findingNotAfter_iff, findingNotAfter_iff]
  omega

theorem notAfter_trans (a b c : FileMatch) (hab : notAfter a b) (hbc : notAfter b c) : notAfter a c := by
  rw [notAfter_iff] at *
  rcases hab with hab | ⟨hab, hab'⟩ <;> rcases hbc with hbc | ⟨hbc, hbc'⟩
  · exact .inl (by omega)
  · exact .inl (by omega)
  · exact .inl (by omega)
  · exact .inr ⟨by omega, findingNotAfter_trans _ _ _ hab' hbc'⟩

theorem notAfter_total (a b : FileMatch) : notAfter a b || notAfter b a := by
  rw [Bool.or_eq_true, notAfter_iff, notAfter_iff]
  rcases Nat.lt_trichotomy a.1 b.1 with h | h | h
  · exact .inl (.inl h)
  · rcases Bool.or_eq_true _ _ ▸ findingNotAfter_total a.2 b.2 with hf | hf
    · exact .inl (.inr ⟨h, hf⟩)
    · exact .inr (.inr ⟨h.symm, hf⟩)
  · exact .inr (.inl h)

/-- The matches of one template, in the order of the sorted file, are its findings sorted by place. -/
theorem filterMap_mergeSort_notAfter (t : Nat) (matched : List FileMatch) :
    ((matched.mergeSort notAfter).filterMap fun (u, finding) ↦ if u == t then some finding else none) =
      (matched.filterMap fun (u, finding) ↦ if u == t then some finding else none).mergeSort
        findingNotAfter := by
  have hpick (l : List FileMatch) :
      (l.filterMap fun (u, finding) ↦ if u == t then some finding else none) =
        (l.filter fun m ↦ m.1 == t).map Prod.snd := by
    rw [← List.filterMap_eq_map, List.filterMap_filter]
    rfl
  rw [hpick, hpick, filter_mergeSort notAfter_trans notAfter_total]
  apply List.map_mergeSort
  intro a ha b hb
  have hat : a.1 = t := by simpa using (List.mem_filter.mp ha).2
  have hbt : b.1 = t := by simpa using (List.mem_filter.mp hb).2
  rw [Bool.eq_iff_iff, notAfter_iff, hat, hbt]
  simp

end Match

namespace Source.Range

theorem offsetOf_of_malformed {text : String} (h : ofChars? text.toList = none) :
    offsetOf text = Text.lastIndex := by
  rw [offsetOf, h]

theorem offsetOf_of_range {text : String} {range : Range} (h : ofChars? text.toList = some range) :
    offsetOf text = range.offset := by
  rw [offsetOf, h]

/-- No range starts after the offset of the malformed ones. -/
theorem offsetOf_le_lastIndex (text : String) : offsetOf text ≤ Text.lastIndex := by
  rw [offsetOf]
  split
  · rename_i range h
    rw [ofChars?] at h
    split at h
    · obtain ⟨offset, hoffset, h⟩ := Option.bind_eq_some_iff.mp h
      obtain ⟨length, -, h⟩ := Option.bind_eq_some_iff.mp h
      obtain ⟨index, -, h⟩ := Option.bind_eq_some_iff.mp h
      cases h
      have hbound : offset < Text.indexBound := by
        simpa using (Option.filter_eq_some_iff.mp hoffset).2
      exact Nat.le_sub_one_of_lt hbound
    · cases h
  · exact Nat.le_refl _

end Source.Range

end SolAudit
