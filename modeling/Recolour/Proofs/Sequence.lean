import Mathlib.Data.List.Forall2
import Recolour.Proofs.Success

/-!
# Sequences of computations

Computations that are made one after another all succeed, or end in the error of the first that
fails.  What they give may be joined on the way or at the end.
-/

namespace Recolour

variable {ε ε' α β γ : Type}

theorem bind_eq_error_iff {x : Except ε α} {f : α → Except ε β} {error : ε} :
  x >>= f = .error error ↔ x = .error error ∨ ∃ a, x = .ok a ∧ f a = .error error
  := by
  cases x with
  | ok a => simp [bind, Except.bind]
  | error error => simp [bind, Except.bind]

theorem run_bind_eq_error_iff {σ : Type} {x : ExceptT ε (StateM σ) α}
    {f : α → ExceptT ε (StateM σ) β} {error : ε} {before after : σ} :
  (x >>= f).run.run before = (.error error, after)
    ↔ x.run.run before = (.error error, after) ∨
      ∃ a between, x.run.run before = (.ok a, between) ∧
        (f a).run.run between = (.error error, after)
  := by
  rw [ExceptT.run_bind, StateT.run_bind]
  obtain ⟨cause | a, between⟩ := x.run.run before
  · constructor
    · rintro ⟨⟩
      left
      rfl
    · rintro (⟨⟨⟩⟩ | ⟨_, _, ⟨⟩, _⟩)
      rfl
  · constructor
    · intro h
      right
      exact ⟨a, between, rfl, h⟩
    · rintro (⟨⟨⟩⟩ | ⟨_, _, ⟨⟩, h⟩)
      apply h

/-- A sequence ends where its first computation fails, and else as the second does. -/
theorem run_bind_eq_iff {σ : Type} {x : ExceptT ε (StateM σ) α}
    {f : α → ExceptT ε (StateM σ) β} {result : Except ε β} {before after : σ} :
  (x >>= f).run.run before = (result, after)
    ↔ (∃ error, x.run.run before = (.error error, after) ∧ result = .error error) ∨
      ∃ a between, x.run.run before = (.ok a, between) ∧
        (f a).run.run between = (result, after)
  := by
  cases result with
  | ok b =>
    rw [run_bind_eq_ok_iff]
    constructor
    · exact Or.inr
    · rintro (⟨error, -, ⟨⟩⟩ | h)
      exact h
  | error error =>
    rw [run_bind_eq_error_iff]
    apply or_congr_left
    constructor
    · intro h
      exact ⟨error, h, rfl⟩
    · rintro ⟨_, h, ⟨⟩⟩
      exact h

theorem mapError_eq_error_iff {x : Except ε α} {f : ε → ε'} {error : ε'} :
  x.mapError f = .error error ↔ ∃ cause, x = .error cause ∧ error = f cause
  := by
  cases x with
  | ok a =>
    constructor
    · rintro ⟨⟩
    · rintro ⟨_, ⟨⟩, _⟩
  | error cause =>
    constructor
    · rintro ⟨⟩
      exact ⟨cause, rfl, rfl⟩
    · rintro ⟨_, ⟨⟩, rfl⟩
      rfl

theorem map_eq_ok_iff {x : Except ε α} {f : α → β} {b : β} :
  x.map f = .ok b ↔ ∃ a, x = .ok a ∧ b = f a
  := by
  cases x with
  | ok a => simp [Except.map, eq_comm]
  | error error => simp [Except.map]

theorem exists_map_eq_ok_iff {x : Except ε α} {f : α → β} :
  (∃ b, x.map f = .ok b) ↔ ∃ a, x = .ok a
  := by
  cases x with
  | ok a => simp [Except.map]
  | error error => simp [Except.map]

theorem map_bind_eq (x : Except ε α) (f : α → β) (g : β → Except ε γ) :
  x.map f >>= g = x >>= fun a => g (f a)
  := by
  cases x <;> rfl

theorem map_eq_error_iff {x : Except ε α} {f : α → β} {error : ε} :
  x.map f = .error error ↔ x = .error error
  := by
  cases x with
  | ok a => simp [Except.map]
  | error cause => simp [Except.map]

theorem mapM_eq_ok_iff {f : α → Except ε β} {xs : List α} {ys : List β} :
  xs.mapM f = .ok ys ↔ List.Forall₂ (fun x y => f x = .ok y) xs ys
  := by
  induction xs generalizing ys with
  | nil => simp [pure_eq_ok_iff]
  | cons x xs ih =>
    simp only [List.mapM_cons, bind_eq_ok_iff, pure_eq_ok_iff, ih, List.forall₂_cons_left_iff]
    constructor
    · rintro ⟨y, hy, rest, hrest, rfl⟩
      exact ⟨y, rest, hy, hrest, rfl⟩
    · rintro ⟨y, rest, hy, hrest, rfl⟩
      exact ⟨y, hy, rest, hrest, rfl⟩

theorem exists_of_mem_left {R : α → β → Prop} {xs : List α} {ys : List β}
    (h : List.Forall₂ R xs ys) {x : α} (hx : x ∈ xs) :
  ∃ y ∈ ys, R x y
  := by
  obtain ⟨place, rfl⟩ := List.mem_iff_get.mp hx
  have hplace : place < ys.length := h.length_eq ▸ place.2
  exact ⟨ys.get ⟨place, hplace⟩, List.get_mem _ _, h.get place.2 hplace⟩

theorem exists_of_mem_right {R : α → β → Prop} {xs : List α} {ys : List β}
    (h : List.Forall₂ R xs ys) {y : β} (hy : y ∈ ys) :
  ∃ x ∈ xs, R x y
  := by
  have hflip : List.Forall₂ (flip R) ys xs := h.flip
  exact exists_of_mem_left hflip hy

theorem exists_mapM_eq_ok_iff {f : α → Except ε β} {xs : List α} :
  (∃ ys, xs.mapM f = .ok ys) ↔ ∀ x ∈ xs, ∃ y, f x = .ok y
  := by
  induction xs with
  | nil => simp [pure_eq_ok_iff]
  | cons x xs ih =>
    rw [List.forall_mem_cons, ← ih]
    simp only [List.mapM_cons, bind_eq_ok_iff, pure_eq_ok_iff]
    constructor
    · rintro ⟨_, y, hy, rest, hrest, -⟩
      exact ⟨⟨y, hy⟩, rest, hrest⟩
    · rintro ⟨⟨y, hy⟩, rest, hrest⟩
      exact ⟨_, y, hy, rest, hrest, rfl⟩

/-- The error is that of the first computation that fails, and all before it succeed. -/
theorem mapM_eq_error_iff {f : α → Except ε β} {xs : List α} {error : ε} :
  xs.mapM f = .error error ↔
    ∃ before x behind, xs = before ++ x :: behind ∧ (∀ earlier ∈ before, ∃ y, f earlier = .ok y) ∧
      f x = .error error
  := by
  induction xs with
  | nil => simp [pure, Except.pure]
  | cons x xs ih =>
    rw [List.mapM_cons, bind_eq_error_iff]
    constructor
    · rintro (hx | ⟨y, hy, hrest⟩)
      · exact ⟨[], x, xs, rfl, by simp, hx⟩
      · rw [bind_eq_error_iff, ih] at hrest
        obtain ⟨before, first, behind, rfl, hbefore, hfirst⟩ | ⟨_, _, ⟨⟩⟩ := hrest
        refine ⟨x :: before, first, behind, rfl, ?_, hfirst⟩
        rw [List.forall_mem_cons]
        exact ⟨⟨y, hy⟩, hbefore⟩
    · rintro ⟨before, first, behind, hsplit, hbefore, hfirst⟩
      cases before with
      | nil =>
        obtain ⟨rfl, rfl⟩ := List.cons.inj hsplit
        left
        exact hfirst
      | cons earlier before =>
        obtain ⟨rfl, rfl⟩ := List.cons.inj hsplit
        rw [List.forall_mem_cons] at hbefore
        obtain ⟨⟨y, hy⟩, hbefore⟩ := hbefore
        right
        use y, hy
        rw [bind_eq_error_iff, ih]
        left
        exact ⟨before, first, behind, rfl, hbefore, hfirst⟩

/-- To join answers as they come is to join them at the end. -/
theorem foldlM_eq_map_mapM (join : γ → β → γ) (f : α → Except ε β) (xs : List α) (start : γ) :
  xs.foldlM (fun sofar x => return join sofar (← f x)) start =
    (xs.mapM f).map fun ys => ys.foldl join start
  := by
  induction xs generalizing start with
  | nil => rfl
  | cons x xs ih =>
    rw [List.foldlM_cons, List.mapM_cons]
    cases f x with
    | error error => rfl
    | ok y =>
      apply (ih (join start y)).trans
      change _ = ((xs.mapM f).bind fun rest => .ok (y :: rest)).map _
      cases xs.mapM f <;> rfl

end Recolour
