import Recolour.Command.Basic
import Recolour.Proofs.Sequence
import Recolour.Proofs.Session

/-!
# Answers in a session

Many computations in a session only read: they leave the files, the working directory and the
input as they are, and what they answer depends on nothing else. What they write to the output
and what they report do not count. The answer of a sequence of such computations is the sequence
of their answers.
-/

namespace Recolour

variable {α β γ : Type}

/-- What an action in a session ends in. -/
def Session.answer (session : Session) (x : Session.Action α) : Except Error α :=
  (x.run.run session).1

/-- Two sessions have the same files, the same working directory and the same input. -/
structure Session.Agrees (session other : Session) : Prop where
  tree : other.tree = session.tree
  base : other.base = session.base
  input : other.input = session.input

namespace Session.Agrees

variable {session other third : Session} {paths : List String}

theorem refl (session : Session) :
  session.Agrees session
  := ⟨rfl, rfl, rfl⟩

theorem symm (h : session.Agrees other) :
  other.Agrees session
  := ⟨h.tree.symm, h.base.symm, h.input.symm⟩

theorem trans (h : session.Agrees other) (h' : other.Agrees third) :
  session.Agrees third
  := ⟨h'.tree.trans h.tree, h'.base.trans h.base, h'.input.trans h.input⟩

theorem changesOnly (h : session.Agrees other) (paths : List String) :
  session.ChangesOnly paths other
  where
    base := h.base
    isWellFormed := by
      rw [h.tree]
      exact id
    directory := by simp [h.tree]
    file := by simp [h.tree]

end Session.Agrees

/-- A computation reads the files, the working directory and the input, and changes none of
them. -/
def OnlyReads (x : StateM Session α) : Prop :=
  ∀ session other : Session, session.Agrees other →
    (x.run other).1 = (x.run session).1 ∧ session.Agrees (x.run other).2

namespace OnlyReads

variable {session other : Session}

theorem of_forall {x : StateM Session α} (f : FileTree → Location → List UInt8 → α)
    (h : ∀ session : Session, (x.run session).1 = f session.tree session.base session.input ∧
      session.Agrees (x.run session).2) :
  OnlyReads x
  := by
  intro session other hagrees
  rw [(h other).1, (h session).1, hagrees.tree, hagrees.base, hagrees.input]
  exact ⟨rfl, hagrees.trans (h other).2⟩

theorem answer_eq {x : Session.Action α} (h : OnlyReads x.run) (hagrees : session.Agrees other) :
  other.answer x = session.answer x
  := (h session other hagrees).1

/-! ### Sequences -/

theorem bind {x : StateM Session α} {f : α → StateM Session β} (hx : OnlyReads x)
    (hf : ∀ a, OnlyReads (f a)) :
  OnlyReads (x >>= f)
  := by
  intro session other hagrees
  obtain ⟨hanswer, hother⟩ := hx session other hagrees
  have hsession := (hx session session (.refl session)).2
  simp only [StateT.run_bind]
  change ((f (x.run other).1).run (x.run other).2).1 =
      ((f (x.run session).1).run (x.run session).2).1 ∧
    session.Agrees ((f (x.run other).1).run (x.run other).2).2
  rw [hanswer]
  obtain ⟨hbetween, hafter⟩ := hf (x.run session).1 _ _ (hsession.symm.trans hother)
  exact ⟨hbetween, hsession.trans hafter⟩

theorem run_bind {x : Session.Action α} {f : α → Session.Action β} (hx : OnlyReads x.run)
    (hf : ∀ a, OnlyReads (f a).run) :
  OnlyReads (x >>= f).run
  := by
  rw [ExceptT.run_bind]
  apply hx.bind
  intro answer
  cases answer with
  | ok a => apply hf
  | error error => exact of_forall (fun _ _ _ => .error error) fun session => ⟨rfl, .refl session⟩

theorem run_pure (a : α) :
  OnlyReads (pure a : Session.Action α).run
  := of_forall (fun _ _ _ => .ok a) fun session => ⟨rfl, .refl session⟩

theorem run_throw (error : Error) :
  OnlyReads (throw error : Session.Action α).run
  := of_forall (fun _ _ _ => .error error) fun session => ⟨rfl, .refl session⟩

theorem run_foldlM {f : β → α → Session.Action β} (hf : ∀ b a, OnlyReads (f b a).run)
    (xs : List α) (start : β) :
  OnlyReads (xs.foldlM f start).run
  := by
  induction xs generalizing start with
  | nil => apply run_pure
  | cons x xs ih =>
    rw [List.foldlM_cons]
    apply run_bind (hf start x)
    intro next
    apply ih

/-! ### Operations of the host -/

theorem read (path : String) :
  OnlyReads (Host.read path : StateM Session (Except Refusal (List UInt8)))
  := of_forall (fun tree base _ => tree.read base path) fun session => ⟨rfl, .refl session⟩

theorem settle (result : Except Error α) :
  OnlyReads (Command.settle result : Session.Action α).run
  := of_forall (fun _ _ _ => result) fun session => ⟨rfl, .refl session⟩

theorem say (text : Terminal → String) :
  OnlyReads (Command.say text : Session.Action Unit).run
  := of_forall (fun _ _ _ => .ok ()) fun _ => ⟨rfl, rfl, rfl, rfl⟩

theorem shown (path : String) :
  OnlyReads (Command.shown path : Session.Action String).run
  := of_forall (fun _ base _ => .ok (Path.display ("/" ++ "/".intercalate base) path))
    fun session => ⟨rfl, .refl session⟩

theorem isKind (kind : FileKind) (path : String) :
  OnlyReads (Command.isKind kind path : Session.Action Bool).run
  := of_forall (fun tree base _ => .ok (tree.kind? base path == some kind))
    fun session => ⟨rfl, .refl session⟩

theorem lift {x : StateM Session α} (h : OnlyReads x) :
  OnlyReads (ExceptT.lift x : Session.Action α).run
  := fun session other hagrees =>
    ⟨congrArg Except.ok (h session other hagrees).1, (h session other hagrees).2⟩

theorem readText (doing path : String) :
  OnlyReads (Recolour.readText doing path : Session.Action String).run
  := by
  rw [Recolour.readText]
  apply run_bind (read path).lift
  intro answer
  split
  · apply run_throw
  · split
    · apply run_pure
    · apply run_throw

theorem attempt (doing path : String) {operation : StateM Session (Except Refusal α)}
    (h : OnlyReads operation) :
  OnlyReads (Command.attempt doing path operation).run
  := by
  apply run_bind h.lift
  intro answer
  cases answer with
  | ok a => apply run_pure
  | error refusal => apply run_throw

end OnlyReads

/-! ### Answers of sequences -/

theorem Session.answer_pure (session : Session) (a : α) :
  session.answer (pure a) = .ok a
  := rfl

theorem Session.answer_bind_of_run {session between : Session} {x : Session.Action α}
    {f : α → Session.Action β} {a : α} (h : x.run.run session = (.ok a, between)) :
  session.answer (x >>= f) = between.answer (f a)
  := by
  rw [answer, ExceptT.run_bind, StateT.run_bind, h]
  rfl

theorem Session.answer_bind {session : Session} {x : Session.Action α}
    {f : α → Session.Action β} (hx : OnlyReads x.run) (hf : ∀ a, OnlyReads (f a).run) :
  session.answer (x >>= f) = session.answer x >>= fun a => session.answer (f a)
  := by
  have hagrees := (hx session session (.refl session)).2
  rw [answer, answer, ExceptT.run_bind, StateT.run_bind]
  generalize x.run.run session = result at *
  obtain ⟨a | error, between⟩ := result
  · rfl
  · apply (hf _).answer_eq hagrees

theorem Session.answer_foldlM {session : Session} {f : β → α → Session.Action β}
    (hf : ∀ b a, OnlyReads (f b a).run) (xs : List α) (start : β) :
  session.answer (xs.foldlM f start) = xs.foldlM (fun b a => session.answer (f b a)) start
  := by
  induction xs generalizing start with
  | nil => rfl
  | cons x xs ih =>
    rw [List.foldlM_cons, List.foldlM_cons, answer_bind (hf start x)]
    · simp only [ih]
    · intro next
      apply OnlyReads.run_foldlM hf

/-- Joining what some actions give is joining their answers. -/
theorem Session.answer_join {session : Session} {f : α → Session.Action β}
    (hf : ∀ a, OnlyReads (f a).run) (join : γ → β → γ) (xs : List α) (start : γ) :
  session.answer (xs.foldlM (fun sofar x => return join sofar (← f x)) start) =
    (xs.mapM fun x => session.answer (f x)).map fun ys => ys.foldl join start
  := by
  have hstep : ∀ sofar x, OnlyReads (do return join sofar (← f x) : Session.Action γ).run := by
    intro sofar x
    apply OnlyReads.run_bind (hf x)
    intro y
    apply OnlyReads.run_pure
  rw [answer_foldlM hstep, ← foldlM_eq_map_mapM]
  congr 1
  funext sofar x
  apply answer_bind (hf x)
  intro y
  apply OnlyReads.run_pure

end Recolour
