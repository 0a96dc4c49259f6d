import Recolour.Error
import Recolour.Proofs.FileTree
import Recolour.Session

/-!
# What changes in a session

A computation in a session changes the files at certain paths and no others when it takes no
directory away and leaves every file as it is that stands elsewhere. Each operation of the host
changes no file but the one it writes, and sequences and loops change what their steps change.
Nothing is said of how they end, so all this holds of computations that fail as well.
-/

namespace Recolour

variable {α β : Type}

/-- A computation in a session that may end in an error. -/
abbrev Session.Action (α : Type) : Type :=
  ExceptT Error (StateM Session) α

/-- Between two sessions no file changes but those at the paths, and no directory goes. -/
structure Session.ChangesOnly (paths : List String) (before after : Session) : Prop where
  base : after.base = before.base
  isWellFormed : before.tree.IsWellFormed → after.tree.IsWellFormed
  directory : ∀ location, before.tree.get? location = some .directory →
    after.tree.get? location = some .directory
  file : ∀ location, (∀ path ∈ paths, location ≠ Path.place before.base path) →
    ∀ content, after.tree.get? location = some (.file content) ↔
      before.tree.get? location = some (.file content)

namespace Session.ChangesOnly

variable {paths more : List String} {before between after : Session} {path : String}
  {content : List UInt8}

theorem refl (paths : List String) (session : Session) :
  session.ChangesOnly paths session
  := ⟨rfl, id, fun _ h => h, fun _ _ _ => Iff.rfl⟩

theorem trans (h : before.ChangesOnly paths between) (h' : between.ChangesOnly paths after) :
  before.ChangesOnly paths after
  where
    base := h'.base.trans h.base
    isWellFormed := h'.isWellFormed ∘ h.isWellFormed
    directory location hlocation := h'.directory location (h.directory location hlocation)
    file location hlocation content := by
      rw [h'.file location (by rwa [h.base]), h.file location hlocation]

theorem mono (h : before.ChangesOnly paths after) (hmore : paths ⊆ more) :
  before.ChangesOnly more after
  where
    base := h.base
    isWellFormed := h.isWellFormed
    directory := h.directory
    file location hlocation := h.file location fun path hpath => hlocation path (hmore hpath)

/-- A file that none of the paths leads to is read as before. -/
theorem read (h : before.ChangesOnly paths after)
    (hplace : ∀ other ∈ paths, Path.place before.base path ≠ Path.place before.base other)
    (hread : before.tree.read before.base path = .ok content) :
  after.tree.read after.base path = .ok content
  := by
  rw [FileTree.read_eq_ok_iff] at hread ⊢
  rw [h.base, h.file _ hplace]
  exact ⟨FileTree.locate_mono h.directory hread.1, hread.2⟩

end Session.ChangesOnly

theorem Session.run_change (f : FileTree → Location → Except Refusal FileTree)
    (session : Session) :
  (change f).run session =
    match f session.tree session.base with
    | .ok tree => (.ok (), { session with tree })
    | .error refusal => (.error refusal, session)
  := by
  rw [change, StateT.run_bind]
  change (match f session.tree session.base with
    | .ok tree => do set { session with tree }; return .ok ()
    | .error refusal => return .error refusal :
      StateM Session (Except Refusal Unit)).run session = _
  cases f session.tree session.base <;> rfl

/-- A computation changes no file but those at the paths, whether it succeeds or not. -/
def ChangesOnly (paths : List String) (x : StateM Session α) : Prop :=
  ∀ session : Session, session.ChangesOnly paths (x.run session).2

namespace ChangesOnly

variable {paths more : List String} {path : String}

theorem of_run {x : StateM Session α} {a : α} {before after : Session} (h : ChangesOnly paths x)
    (hrun : x.run before = (a, after)) :
  before.ChangesOnly paths after
  := by
  have hbefore := h before
  rwa [hrun] at hbefore

theorem of_unchanged {x : StateM Session α} (h : ∀ session : Session, (x.run session).2 = session) :
  ChangesOnly paths x
  := by
  intro session
  rw [h]
  apply Session.ChangesOnly.refl

theorem mono {x : StateM Session α} (h : ChangesOnly paths x) (hmore : paths ⊆ more) :
  ChangesOnly more x
  := fun session => (h session).mono hmore

theorem bind {x : StateM Session α} {f : α → StateM Session β} (hx : ChangesOnly paths x)
    (hf : ∀ a, ChangesOnly paths (f a)) :
  ChangesOnly paths (x >>= f)
  := fun session => (hx session).trans (hf _ _)

theorem run_bind {x : Session.Action α} {f : α → Session.Action β} (hx : ChangesOnly paths x.run)
    (hf : ∀ a, ChangesOnly paths (f a).run) :
  ChangesOnly paths (x >>= f).run
  := by
  rw [ExceptT.run_bind]
  apply hx.bind
  intro answer
  cases answer with
  | ok a => apply hf
  | error error => exact of_unchanged fun _ => rfl

theorem run_forM {xs : List α} {f : α → Session.Action Unit}
    (hf : ∀ x ∈ xs, ChangesOnly paths (f x).run) :
  ChangesOnly paths (xs.forM f).run
  := by
  induction xs with
  | nil => exact of_unchanged fun _ => rfl
  | cons x xs ih =>
    rw [List.forall_mem_cons] at hf
    exact run_bind hf.1 fun _ => ih hf.2

/-! ### Operations of the host -/

theorem change {f : FileTree → Location → Except Refusal FileTree}
    (h : ∀ session : Session, ∀ tree, f session.tree session.base = .ok tree →
      session.ChangesOnly paths { session with tree }) :
  ChangesOnly paths (Session.change f)
  := by
  intro session
  rw [Session.run_change]
  split
  case h_1 tree hf => apply h session tree hf
  case h_2 => apply Session.ChangesOnly.refl

theorem makeDirectory (path : String) :
  ChangesOnly paths (Host.makeDirectory path : StateM Session (Except Refusal Unit))
  := by
  apply change
  intro session tree h
  obtain ⟨place, -, hget, htree⟩ := FileTree.makeDirectory_eq_ok_iff.mp h
  constructor
  case base => rfl
  case isWellFormed => exact fun hsession => hsession.makeDirectory h
  case directory =>
    intro location hlocation
    rw [htree, FileTree.get?_put_of_directory (by simp [hget]) hlocation]
  case file =>
    intro location _ content
    rw [htree]
    by_cases hplace : location = place
    · have hne : place ≠ [] := by
        rintro rfl
        simp [FileTree.get?_nil] at hget
      rw [hplace, FileTree.get?_put_self hne, hget]
      simp
    · rw [FileTree.get?_put_of_ne hplace]

theorem write (path : String) (content : List UInt8) :
  ChangesOnly [path] (Host.write path content : StateM Session (Except Refusal Unit))
  := by
  apply change
  intro session tree h
  obtain ⟨-, -, hget, htree⟩ := FileTree.write_eq_ok_iff.mp h
  constructor
  case base => rfl
  case isWellFormed => exact fun hsession => hsession.write h
  case directory =>
    intro location hlocation
    rw [htree, FileTree.get?_put_of_directory hget hlocation]
  case file =>
    intro location hlocation content
    rw [htree, FileTree.get?_put_of_ne (hlocation path (by simp))]

theorem create (path : String) :
  ChangesOnly [path] (Host.create path : StateM Session (Except Refusal Unit))
  := write path []

end ChangesOnly

end Recolour
