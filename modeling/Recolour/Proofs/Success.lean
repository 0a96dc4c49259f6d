/-!
# Computations that succeed

A sequence of computations succeeds exactly when each of them does, with or without a state
that is handed on.  A computation whose errors are reworded succeeds exactly when it does
itself.
-/

namespace Recolour

variable {ε ε' σ α β : Type}

theorem bind_eq_ok_iff {x : Except ε α} {f : α → Except ε β} {b : β} :
  x >>= f = .ok b ↔ ∃ a, x = .ok a ∧ f a = .ok b
  := by
  cases x with
  | ok a => simp [bind, Except.bind]
  | error error => simp [bind, Except.bind]

theorem pure_eq_ok_iff {a b : α} :
  (pure a : Except ε α) = .ok b ↔ b = a
  := by
  simp [pure, Except.pure, eq_comm]

theorem mapError_eq_ok_iff {x : Except ε α} {f : ε → ε'} {a : α} :
  x.mapError f = .ok a ↔ x = .ok a
  := by
  cases x with
  | ok b =>
    constructor
    · rintro ⟨⟩
      rfl
    · rintro ⟨⟩
      rfl
  | error error =>
    constructor
    · rintro ⟨⟩
    · rintro ⟨⟩

theorem toOption_eq_some_iff {x : Except ε α} {a : α} :
  x.toOption = some a ↔ x = .ok a
  := by
  cases x with
  | ok b => simp [Except.toOption]
  | error error => simp [Except.toOption]

theorem run_bind_eq_ok_iff {x : ExceptT ε (StateM σ) α} {f : α → ExceptT ε (StateM σ) β} {b : β}
    {before after : σ} :
  (x >>= f).run.run before = (.ok b, after)
    ↔ ∃ a between, x.run.run before = (.ok a, between) ∧ (f a).run.run between = (.ok b, after)
  := by
  have hrun : (x >>= f).run.run before = match x.run.run before with
      | (.ok a, between) => (f a).run.run between
      | (.error error, between) => (.error error, between) := by
    simp only [ExceptT.run_bind, StateT.run_bind]
    rcases x.run.run before with ⟨_ | a, between⟩ <;> rfl
  rw [hrun]
  obtain ⟨answer, between⟩ := x.run.run before
  cases answer with
  | ok a =>
    constructor
    · intro h
      exact ⟨a, between, rfl, h⟩
    · rintro ⟨_, _, ⟨⟩, h⟩
      apply h
  | error error =>
    constructor
    · rintro ⟨⟩
    · rintro ⟨_, _, ⟨⟩, _⟩

theorem eq_of_fst_eq {a : α} {x : α × σ} (h : x.1 = a) :
  x = (a, x.2)
  := by
  rw [← h]

theorem eq_ok_of_toOption {a : α} {x : Except ε α × σ} (h : x.1.toOption = some a) :
  x = (.ok a, x.2)
  := by
  rw [toOption_eq_some_iff] at h
  rw [← h]

end Recolour
