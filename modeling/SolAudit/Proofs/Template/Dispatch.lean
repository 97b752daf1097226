import Mathlib.Data.List.Nodup
import SolAudit.Template.Set

/-!
# The dispatch table of a template set

The table is filled template by template, and a kind that a template repeats is entered once, because only the
last position under a kind is looked at and positions come in ascending order. `positionsFor_ofTemplates` says
what the table holds without mentioning how it is filled: under every kind, the positions of the templates that
list the kind.
-/

namespace SolAudit.Template.Dispatch

/-- Adding changes only what stands under the kind that is added to. -/
theorem find_add (position : Nat) (dispatch : Dispatch) (kind asked : String) :
    (add position dispatch kind).find asked =
      if kind = asked ∧ (dispatch.find asked).getLast? ≠ some position
      then dispatch.find asked ++ [position] else dispatch.find asked := by
  induction dispatch with
  | nil => by_cases h : kind = asked <;> simp [add, find, h]
  | cons entry rest ih =>
    obtain ⟨k, positions⟩ := entry
    by_cases hk : k = kind
    · by_cases ha : kind = asked
      · by_cases hlast : positions.getLast? = some position <;> simp [add, find, hk, ha, hlast]
      · simp [add, find, hk, ha]
    · by_cases ha : k = asked
      · have hne : kind ≠ asked := fun h ↦ hk (ha.trans h.symm)
        simp [add, find, ha, hne, Ne.symm hne]
      · simpa [add, find, hk, ha] using ih

/-- The kinds of one template enter its position at most once, however often a kind is repeated. -/
theorem find_foldl_add (position : Nat) (kinds : List String) (dispatch : Dispatch) (asked : String)
    (hnew : (dispatch.find asked).getLast? ≠ some position) :
    (kinds.foldl (add position) dispatch).find asked =
      dispatch.find asked ++ if asked ∈ kinds then [position] else [] := by
  -- Once the position is last under the asked kind, further kinds of the template change nothing there.
  have hkept (kinds : List String) : ∀ dispatch : Dispatch,
      (dispatch.find asked).getLast? = some position →
      (kinds.foldl (add position) dispatch).find asked = dispatch.find asked := by
    induction kinds with
    | nil => intro dispatch _; rfl
    | cons kind rest ih =>
      intro dispatch hlast
      have hstep : (add position dispatch kind).find asked = dispatch.find asked := by
        rw [find_add, if_neg (fun h ↦ h.2 hlast)]
      rw [List.foldl_cons, ih _ (hstep ▸ hlast), hstep]
  induction kinds generalizing dispatch with
  | nil => simp
  | cons kind rest ih =>
    rw [List.foldl_cons]
    by_cases hkind : kind = asked
    · have hstep : (add position dispatch kind).find asked = dispatch.find asked ++ [position] := by
        rw [find_add, if_pos ⟨hkind, hnew⟩]
      rw [hkept rest _ (by rw [hstep]; simp), hstep, if_pos (by simp [hkind])]
    · have hstep : (add position dispatch kind).find asked = dispatch.find asked := by
        rw [find_add, if_neg (fun h ↦ hkind h.1)]
      rw [ih _ (hstep ▸ hnew), hstep]
      simp [Ne.symm hkind]

/-- The table after further templates, as long as it holds only positions before them. -/
theorem find_addAll (asked : String) (templates : List Template) :
    ∀ (dispatch : Dispatch) (start : Nat), (∀ p ∈ dispatch.find asked, p < start) →
      (dispatch.addAll start templates).find asked =
        dispatch.find asked ++
          ((templates.zipIdx start).filter fun (t, _) ↦ decide (asked ∈ t.spec.kinds)).map Prod.snd := by
  induction templates with
  | nil => intro dispatch start _; simp [addAll]
  | cons template rest ih =>
    intro dispatch start hbefore
    have hnew : (dispatch.find asked).getLast? ≠ some start := by
      intro hlast
      exact Nat.lt_irrefl start (hbefore start (List.mem_of_getLast? hlast))
    have hfold := find_foldl_add start template.spec.kinds dispatch asked hnew
    have hbound : ∀ p ∈ (template.spec.kinds.foldl (add start) dispatch).find asked, p < start + 1 := by
      intro p hp
      rw [hfold, List.mem_append] at hp
      rcases hp with hp | hp
      · exact Nat.lt_succ_of_lt (hbefore p hp)
      · split at hp <;> simp_all
    rw [addAll, ih _ _ hbound, hfold]
    by_cases hkind : asked ∈ template.spec.kinds <;> simp [hkind]

end SolAudit.Template.Dispatch

namespace SolAudit.TemplateSet

/-- Under a kind, the table holds the positions of the templates that list the kind, in load order. -/
theorem positionsFor_ofTemplates (templates : List Template) (kind : String) :
    (ofTemplates templates).positionsFor kind =
      (templates.zipIdx.filter fun (t, _) ↦ decide (kind ∈ t.spec.kinds)).map Prod.snd := by
  have h := Template.Dispatch.find_addAll kind templates [] 0 (by simp [Template.Dispatch.find])
  simpa [ofTemplates, positionsFor, Template.Dispatch.find] using h

theorem mem_positionsFor {templates : List Template} {kind : String} {position : Nat} :
    position ∈ (ofTemplates templates).positionsFor kind ↔
      ∃ template, templates[position]? = some template ∧ kind ∈ template.spec.kinds := by
  simp [positionsFor_ofTemplates, List.mem_filter, List.mem_zipIdx_iff_getElem?]

/-- Positions ascend, also where a template repeats the kind. -/
theorem pairwise_positionsFor (templates : List Template) (kind : String) :
    ((ofTemplates templates).positionsFor kind).Pairwise (· < ·) := by
  rw [positionsFor_ofTemplates]
  have hsnd : (templates.zipIdx.map Prod.snd).Pairwise (· < ·) := by
    rw [List.zipIdx_map_snd]
    exact List.pairwise_lt_range'
  exact hsnd.sublist (List.filter_sublist.map Prod.snd)

theorem nodup_positionsFor (templates : List Template) (kind : String) :
    ((ofTemplates templates).positionsFor kind).Nodup :=
  (pairwise_positionsFor templates kind).imp Nat.ne_of_lt

end SolAudit.TemplateSet
