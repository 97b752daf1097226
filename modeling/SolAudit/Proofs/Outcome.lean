/-!
# Computations that may fail

How a chain of steps in `Except` comes to succeed: every step did, and what holds at the start and is kept by
each step holds at the end.
-/

namespace SolAudit.Outcome

theorem bind_eq_ok {ε α β : Type} {x : Except ε α} {f : α → Except ε β} {b : β} :
    x >>= f = .ok b ↔ ∃ a, x = .ok a ∧ f a = .ok b := by
  cases x with
  | error e => simp [bind, Except.bind]
  | ok a => simp [bind, Except.bind]

@[simp]
theorem mapError_ok {ε ε' α : Type} (f : ε → ε') (a : α) : (Except.ok a).mapError f = .ok a := rfl

@[simp]
theorem mapError_error {ε ε' α : Type} (f : ε → ε') (e : ε) :
    (Except.error e : Except ε α).mapError f = .error (f e) := rfl

theorem mapError_eq_ok {ε ε' α : Type} {x : Except ε α} {f : ε → ε'} {a : α} :
    x.mapError f = .ok a ↔ x = .ok a := by
  cases x <;> simp

theorem map_eq_ok {ε α β : Type} {x : Except ε α} {f : α → β} {b : β} :
    x.map f = .ok b ↔ ∃ a, x = .ok a ∧ f a = b := by
  cases x <;> simp [Except.map]

theorem toOption_eq_some_iff {ε α : Type} {x : Except ε α} {a : α} : x.toOption = some a ↔ x = .ok a := by
  cases x <;> simp [Except.toOption]

/-- The error of a computation that fails. -/
def error? {ε α : Type} : Except ε α → Option ε
  | .error e => some e
  | .ok _ => none

@[simp]
theorem error?_error {ε α : Type} (e : ε) : error? (.error e : Except ε α) = some e := rfl

@[simp]
theorem error?_ok {ε α : Type} (a : α) : error? (.ok a : Except ε α) = none := rfl

@[simp]
theorem error?_map {ε α β : Type} (f : α → β) (x : Except ε α) : error? (f <$> x) = error? x := by
  cases x <;> rfl

theorem error?_bind {ε α β : Type} {x : Except ε α} {f : α → Except ε β} {later : Option ε}
    (h : ∀ a, x = .ok a → error? (f a) = later) : error? (x >>= f) = (error? x).or later := by
  cases x with
  | error e => rfl
  | ok a => exact h a rfl

theorem mapError_bind_congr {ε α β : Type} {g g' : ε → ε} {x x' : Except ε α} {f f' : α → Except ε β}
    (hx : x.mapError g = x'.mapError g') (hf : ∀ a, (f a).mapError g = (f' a).mapError g') :
    (x >>= f).mapError g = (x' >>= f').mapError g' := by
  cases x with
  | error e =>
    cases x' with
    | error e' => exact congrArg Except.error (Except.error.inj hx)
    | ok a' => cases hx
  | ok a =>
    cases x' with
    | error e' => cases hx
    | ok a' =>
      cases Except.ok.inj hx
      exact hf a

/-- What holds at the start of a fold and is kept by each of its steps holds at its end. -/
theorem foldlM_induction {ε α β : Type} {f : β → α → Except ε β} {P : β → Prop} (items : List α)
    (hstep : ∀ b a b', P b → f b a = .ok b' → P b') :
    ∀ {b b' : β}, P b → items.foldlM f b = .ok b' → P b' := by
  induction items with
  | nil =>
    intro b b' hb h
    cases h
    exact hb
  | cons item rest ih =>
    intro b b' hb h
    rw [List.foldlM_cons] at h
    obtain ⟨next, hnext, hrest⟩ := bind_eq_ok.mp h
    exact ih (hstep _ _ _ hb hnext) hrest

/-- A fold over lists put together is a fold of folds. -/
theorem foldlM_flatMap {ε α β γ : Type} {f : β → γ → Except ε β} {g : α → List γ} (items : List α) (b : β) :
    (items.flatMap g).foldlM f b = items.foldlM (fun b item ↦ (g item).foldlM f b) b := by
  induction items generalizing b with
  | nil => rfl
  | cons item rest ih => simp only [List.flatMap_cons, List.foldlM_append, List.foldlM_cons, ih]

theorem mapM_eq_pure {m : Type → Type} [Monad m] [LawfulMonad m] {α β : Type} {f : α → m β} {g : α → β} {l : List α}
    (h : ∀ a ∈ l, f a = pure (g a)) : l.mapM f = pure (l.map g) := by
  induction l with
  | nil => rfl
  | cons a rest ih =>
    obtain ⟨ha, hrest⟩ := List.forall_mem_cons.mp h
    rw [List.mapM_cons, ha, ih hrest, pure_bind, pure_bind, List.map_cons]

theorem mapM_cons_eq_ok {ε α β : Type} {f : α → Except ε β} {a : α} {rest : List α} {l' : List β} :
    (a :: rest).mapM f = .ok l' ↔ ∃ b later, f a = .ok b ∧ rest.mapM f = .ok later ∧ l' = b :: later := by
  rw [List.mapM_cons, bind_eq_ok]
  simp only [bind_eq_ok, pure, Except.pure, Except.ok.injEq]
  constructor
  · rintro ⟨b, hb, later, hlater, rfl⟩
    exact ⟨b, later, hb, hlater, rfl⟩
  · rintro ⟨b, later, hb, hlater, rfl⟩
    exact ⟨b, hb, later, hlater, rfl⟩

/-- The results of a list are those of its elements. -/
theorem mem_mapM_iff {ε α β : Type} {f : α → Except ε β} {l : List α} : ∀ {l' : List β}, l.mapM f = .ok l' →
    ∀ {b : β}, b ∈ l' ↔ ∃ a ∈ l, f a = .ok b := by
  induction l with
  | nil =>
    intro l' h b
    cases h
    simp
  | cons a rest ih =>
    intro l' h b
    obtain ⟨first, later, hfirst, hlater, rfl⟩ := mapM_cons_eq_ok.mp h
    simp [ih hlater, hfirst, eq_comm]

theorem exists_mapM_iff {ε α β : Type} {f : α → Except ε β} {l : List α} :
    (∃ l', l.mapM f = .ok l') ↔ ∀ a ∈ l, ∃ b, f a = .ok b := by
  induction l with
  | nil => simp [pure, Except.pure]
  | cons a rest ih =>
    rw [List.forall_mem_cons, ← ih]
    simp only [mapM_cons_eq_ok]
    constructor
    · rintro ⟨l', b, later, hb, hlater, -⟩
      exact ⟨⟨b, hb⟩, later, hlater⟩
    · rintro ⟨⟨b, hb⟩, later, hlater⟩
      exact ⟨b :: later, b, later, hb, hlater, rfl⟩

end SolAudit.Outcome
