import SourceCensus.Journal.Run

/-! # Outcomes -/

namespace SourceCensus

universe u v w

variable {ε : Type u} {α β : Type v}

@[simp] theorem ok_bind (a : α) (f : α → Except ε β) : (Except.ok a >>= f) = f a := rfl

@[simp] theorem map_ok (a : α) (f : α → β) : f <$> (Except.ok a : Except ε α) = .ok (f a) := rfl

@[simp] theorem pure_eq_ok (a : α) : (pure a : Except ε α) = .ok a := rfl

theorem bind_eq_ok_iff {x : Except ε α} {f : α → Except ε β} {b : β} :
    (x >>= f) = .ok b ↔ ∃ a, x = .ok a ∧ f a = .ok b := by
  cases x with
  | error => simp [bind, Except.bind]
  | ok a => simp

/-- A run over a list whose items have no effects has none. -/
theorem mapM_eq_pure {m : Type v → Type u} [Monad m] [LawfulMonad m] {γ : Type w} {xs : List γ}
    {f : γ → m α} {g : γ → α} (h : ∀ x ∈ xs, f x = pure (g x)) : xs.mapM f = pure (xs.map g) := by
  induction xs with
  | nil => rfl
  | cons x xs ih =>
    have hx := h x (by simp)
    have hxs := ih fun y hy => h y (by simp [hy])
    simp [List.mapM_cons, hx, hxs]

/-- A run over a list succeeds when every item does, and gives the values of the items in order. -/
theorem mapM_eq_ok {γ : Type w} {xs : List γ} {f : γ → Except ε α} {g : γ → α}
    (h : ∀ x ∈ xs, f x = .ok (g x)) : xs.mapM f = .ok (xs.map g) :=
  mapM_eq_pure h

/-- A run over a list succeeds when every item does, and its values are as the items give them. -/
theorem exists_mapM_ok {γ : Type w} {xs : List γ} {f : γ → Except ε α} {p : α → Prop}
    (h : ∀ x ∈ xs, ∃ a, f x = .ok a ∧ p a) : ∃ values, xs.mapM f = .ok values ∧ ∀ a ∈ values, p a := by
  induction xs with
  | nil => exact ⟨[], rfl, by simp⟩
  | cons x xs ih =>
    obtain ⟨a, ha, hp⟩ := h x List.mem_cons_self
    obtain ⟨values, hvalues, hall⟩ := ih fun y hy => h y (List.mem_cons_of_mem x hy)
    exact ⟨a :: values, by simp [List.mapM_cons, ha, hvalues], List.forall_mem_cons.mpr ⟨hp, hall⟩⟩

theorem exists_mapM {γ : Type w} {xs : List γ} {f : γ → Except ε α} (h : ∀ x ∈ xs, ∃ a, f x = .ok a) :
    ∃ values, xs.mapM f = .ok values :=
  (exists_mapM_ok fun x hx => (h x hx).imp fun _ ha => And.intro ha trivial).imp fun _ => And.left

/-- A sequence of computations succeeds when the first one does and the second one does whatever the
first one gives. -/
theorem exists_bind {x : Except ε α} {f : α → Except ε β} (hx : ∃ a, x = .ok a)
    (hf : ∀ a, x = .ok a → ∃ b, f a = .ok b) : ∃ b, (x >>= f) = .ok b := by
  obtain ⟨a, rfl⟩ := hx
  exact hf a rfl

namespace Run

instance : LawfulMonad (Run ε) := LawfulMonad.mk' (Run ε)
  (by
    rintro _ ⟨notices, outcome⟩
    cases outcome <;> simp [Functor.map, Run.bind])
  (by
    intro _ _ a f
    simp [bind, Run.bind])
  (by
    rintro _ _ _ ⟨notices, outcome⟩ f g
    cases outcome with
    | error e => simp [bind, Run.bind]
    | ok a => cases h : (f a).outcome <;> simp [bind, Run.bind, h])

@[simp] theorem outcome_map (r : Run ε α) (f : α → β) : (f <$> r).outcome = f <$> r.outcome := by
  rw [← bind_pure_comp, outcome_bind]
  cases r.outcome <;> rfl

theorem ofExcept_ok (a : α) : (ofExcept (.ok a) : Run ε α) = pure a := rfl

theorem noteIf_false (notice : Notice) : (noteIf false notice : Run ε Unit) = pure () := rfl

/-- A run that ends in a result hands on its notices to the run after it. -/
theorem notices_bind {r : Run ε α} {a : α} (h : r.outcome = .ok a) (f : α → Run ε β) :
    (r >>= f).notices = r.notices ++ (f a).notices := by
  change (Run.bind r f).notices = _
  rw [Run.bind, h]

end Run

end SourceCensus
