import Recolour.Command.Run
import Recolour.Proofs.Encoding
import Recolour.Proofs.Running
import Recolour.Proofs.Sequence
import Recolour.Proofs.Session

/-!
# Writing images

A command that writes an image changes no file but the one at the path it is given, also when it
fails. Unless an operation on files fails before, what the encoder wrote is read at that path, and
the command ends as the encoder did.
-/

namespace Recolour.Command

variable {α : Type} {path doing : String} {paths : List String} {session after : Session}
  {format : Format} {options : EncoderOptions} {image : Image} {library : Library}

/-! ### How the steps end -/

theorem run_settle_eq_ok_iff {result : Except Error α} {a : α} :
  (settle result : Session.Action α).run.run session = (.ok a, after) ↔
    result = .ok a ∧ session = after
  := Prod.mk.injEq .. ▸ Iff.rfl

theorem run_settle_eq_error_iff {result : Except Error α} {error : Error} :
  (settle result : Session.Action α).run.run session = (.error error, after) ↔
    result = .error error ∧ session = after
  := Prod.mk.injEq .. ▸ Iff.rfl

theorem run_lift_eq_ok_iff {operation : StateM Session α} {a : α} :
  (liftM operation : Session.Action α).run.run session = (.ok a, after) ↔
    operation.run session = (a, after)
  := by
  change (Except.ok (operation.run session).1, (operation.run session).2) = _ ↔ _
  obtain ⟨answer, between⟩ := operation.run session
  constructor
  · rintro ⟨⟩
    rfl
  · rintro ⟨⟩
    rfl

theorem run_attempt (doing path : String) (operation : StateM Session (Except Refusal α))
    (session : Session) :
  (attempt doing path operation).run.run session =
    ((operation.run session).1.mapError fun refusal =>
      .file path (doing ++ ": " ++ refusal.message), (operation.run session).2)
  := by
  have hlift : (ExceptT.lift operation : Session.Action _).run.run session =
    (.ok (operation.run session).1, (operation.run session).2) := rfl
  change ((ExceptT.lift operation : Session.Action _) >>= _).run.run session = _
  rw [ExceptT.run_bind, StateT.run_bind, hlift]
  obtain ⟨answer, between⟩ := operation.run session
  cases answer <;> rfl

theorem run_attempt_eq_ok_iff {operation : StateM Session (Except Refusal α)} {a : α} :
  (attempt doing path operation).run.run session = (.ok a, after) ↔
    operation.run session = (.ok a, after)
  := by
  rw [run_attempt]
  apply Prod.ext_iff.trans
  dsimp only
  rw [mapError_eq_ok_iff]
  constructor
  · rintro ⟨hok, hafter⟩
    exact Prod.ext hok hafter
  · intro hrun
    exact ⟨congrArg Prod.fst hrun, congrArg Prod.snd hrun⟩

theorem run_attempt_eq_error_iff {operation : StateM Session (Except Refusal α)} {error : Error} :
  (attempt doing path operation).run.run session = (.error error, after) ↔
    ∃ refusal, operation.run session = (.error refusal, after) ∧
      error = .file path (doing ++ ": " ++ refusal.message)
  := by
  rw [run_attempt]
  apply Prod.ext_iff.trans
  dsimp only
  rw [mapError_eq_error_iff]
  constructor
  · rintro ⟨⟨refusal, hrefusal, herror⟩, hafter⟩
    exact ⟨refusal, Prod.ext hrefusal hafter, herror⟩
  · rintro ⟨refusal, hrun, herror⟩
    exact ⟨⟨refusal, congrArg Prod.fst hrun, herror⟩, congrArg Prod.snd hrun⟩

/-! ### What the steps change -/

theorem changesOnly_settle (result : Except Error α) :
  ChangesOnly paths (settle result : Session.Action α).run
  := .of_unchanged fun _ => rfl

theorem changesOnly_shown (path : String) :
  ChangesOnly paths (shown path : Session.Action String).run
  := .of_unchanged fun _ => rfl

theorem changesOnly_say (text : Terminal → String) :
  ChangesOnly paths (say text : Session.Action Unit).run
  := fun _ => ⟨rfl, id, fun _ h => h, fun _ _ _ => Iff.rfl⟩

theorem changesOnly_attempt (doing path : String)
    {operation : StateM Session (Except Refusal α)} (h : ChangesOnly paths operation) :
  ChangesOnly paths (attempt doing path operation).run
  := by
  have hlift : ChangesOnly paths (ExceptT.lift operation : Session.Action _).run :=
    fun session => h session
  apply ChangesOnly.run_bind hlift
  intro answer
  cases answer <;> exact .of_unchanged fun _ => rfl

theorem changesOnly_settleFor (answer : Except Refusal Unit) :
  ChangesOnly paths (makeDirectories.settleFor path answer : StateM Session _)
  := by
  cases answer with
  | ok done => exact .of_unchanged fun _ => rfl
  | error refusal =>
    rw [makeDirectories.settleFor]
    apply ChangesOnly.bind
    · exact .of_unchanged fun _ => rfl
    · intro kind
      split <;> exact .of_unchanged fun _ => rfl

theorem changesOnly_makeDirectories (ancestors : List String) :
  ChangesOnly paths (makeDirectories ancestors : StateM Session _)
  := by
  induction ancestors with
  | nil => exact .of_unchanged fun _ => rfl
  | cons path above ih =>
    rw [makeDirectories]
    split
    · exact .of_unchanged fun _ => rfl
    · apply (ChangesOnly.makeDirectory path).bind
      intro answer
      split
      · exact .of_unchanged fun _ => rfl
      · apply ih.bind
        intro answer
        split
        · exact .of_unchanged fun _ => rfl
        · apply (ChangesOnly.makeDirectory path).bind
          intro answer
          apply changesOnly_settleFor
      · apply changesOnly_settleFor

theorem changesOnly_readImage (library : Library) (path : String) :
  ChangesOnly paths (readImage library path : Session.Action Image).run
  := by
  rw [readImage]
  apply ChangesOnly.run_bind
  · apply changesOnly_attempt
    exact .of_unchanged fun _ => rfl
  · intro bytes
    split <;> exact .of_unchanged fun _ => rfl

theorem changesOnly_fillFile (path : String) (written : Written Error) :
  ChangesOnly [path] (fillFile path written : Session.Action Unit).run
  := by
  rw [fillFile]
  apply ChangesOnly.run_bind (changesOnly_attempt _ _ (ChangesOnly.create path))
  intro done
  have hwrite : ChangesOnly [path] (ExceptT.lift (Host.write path written.bytes) :
      Session.Action (Except Refusal Unit)).run :=
    fun session => ChangesOnly.write path written.bytes session
  apply ChangesOnly.run_bind hwrite
  intro answer
  apply ChangesOnly.run_bind (changesOnly_settle _)
  intro done
  apply changesOnly_attempt
  exact .of_unchanged fun _ => rfl

/-- An image is written after the directory of its path is made, which changes no file and fails
as an operation on files. -/
theorem exists_writeImage_eq (path : String) (format : Format) (options : EncoderOptions)
    (image : Image) :
  ∃ prepare : Session.Action Unit, ChangesOnly [] prepare.run ∧
    (∀ session error after, prepare.run.run session = (.error error, after) →
      ∃ detail, error = .file path detail) ∧
    writeImage path format options image =
      prepare >>= fun _ => fillFile path (format.encode options image)
  := by
  rw [writeImage]
  split
  · refine ⟨_, changesOnly_attempt _ _ (changesOnly_makeDirectories _), ?_, rfl⟩
    intro session error after h
    obtain ⟨refusal, -, rfl⟩ := run_attempt_eq_error_iff.mp h
    exact ⟨_, rfl⟩
  · refine ⟨pure (), .of_unchanged fun _ => rfl, ?_, rfl⟩
    rintro session error after ⟨⟩

theorem changesOnly_writeImage (path : String) (format : Format) (options : EncoderOptions)
    (image : Image) :
  ChangesOnly [path] (writeImage path format options image : Session.Action Unit).run
  := by
  obtain ⟨prepare, hprepare, -, hwrite⟩ := exists_writeImage_eq path format options image
  rw [hwrite]
  apply ChangesOnly.run_bind (hprepare.mono (List.nil_subset _))
  intro done
  apply changesOnly_fillFile

theorem Job.changesOnly_paint (job : Job) (image : Image) (label : String) (format : Format)
    (output : Option String) :
  ChangesOnly output.toList (job.paint image label format output : Session.Action Unit).run
  := by
  rw [paint]
  apply ChangesOnly.run_bind (changesOnly_say _)
  intro done
  apply ChangesOnly.run_bind (changesOnly_settle _)
  intro execution
  cases output with
  | some path =>
    apply ChangesOnly.run_bind (changesOnly_writeImage _ _ _ _)
    intro done
    apply ChangesOnly.run_bind (changesOnly_shown _)
    intro target
    apply changesOnly_say
  | none =>
    have hwrite (bytes : List UInt8) : ChangesOnly [] (ExceptT.lift (Host.writeOutput bytes) :
        Session.Action Unit).run :=
      fun _ => ⟨rfl, id, fun _ h => h, fun _ _ _ => Iff.rfl⟩
    apply ChangesOnly.run_bind (hwrite _)
    intro done
    apply changesOnly_settle

/-! ### Reading an image -/

theorem run_readImage_eq_ok_iff :
  (readImage library path : Session.Action Image).run.run session = (.ok image, after) ↔
    (∃ content, session.tree.read session.base path = .ok content ∧
      library.readFile path content = .ok image) ∧ session = after
  := by
  rw [readImage, run_bind_eq_ok_iff]
  simp only [run_attempt_eq_ok_iff]
  constructor
  · rintro ⟨content, between, hread, h⟩
    obtain ⟨hcontent, rfl⟩ := Prod.mk.inj hread
    cases hdecode : library.readFile path content with
    | error detail =>
      rw [hdecode] at h
      cases h
    | ok decoded =>
      rw [hdecode] at h
      obtain ⟨⟩ := h
      exact ⟨⟨content, hcontent, hdecode⟩, rfl⟩
  · rintro ⟨⟨content, hread, hdecode⟩, rfl⟩
    use content, session
    rw [hdecode]
    exact ⟨Prod.ext hread rfl, rfl⟩

/-! ### Writing an image -/

/-- A change of the tree that is refused changes nothing. -/
theorem run_change_eq_iff {f : FileTree → Location → Except Refusal FileTree}
    {answer : Except Refusal Unit} :
  (Session.change f).run session = (answer, after) ↔
    (∃ tree, f session.tree session.base = .ok tree ∧ answer = .ok () ∧
      after = { session with tree }) ∨
    ∃ refusal, f session.tree session.base = .error refusal ∧ answer = .error refusal ∧
      after = session
  := by
  rw [Session.run_change]
  cases f session.tree session.base with
  | ok tree =>
    constructor
    · rintro ⟨⟩
      left
      exact ⟨tree, rfl, rfl, rfl⟩
    · rintro (⟨_, ⟨⟩, rfl, rfl⟩ | ⟨_, ⟨⟩, _⟩)
      rfl
  | error refusal =>
    constructor
    · rintro ⟨⟩
      right
      exact ⟨refusal, rfl, rfl, rfl⟩
    · rintro (⟨_, ⟨⟩, _⟩ | ⟨_, ⟨⟩, rfl, rfl⟩)
      rfl

/-- Where a file was made something may be written, and is read back. -/
theorem run_write_of_create {created : Session} {bytes : List UInt8} {answer : Except Refusal Unit}
    (hcreate : (Host.create path : StateM Session (Except Refusal Unit)).run session =
      (.ok (), created))
    (hwrite : (Host.write path bytes : StateM Session (Except Refusal Unit)).run created =
      (answer, after)) :
  answer = .ok () ∧ after.tree.read after.base path = .ok bytes
  := by
  obtain ⟨tree, htree, -, rfl⟩ | ⟨_, _, ⟨⟩, _⟩ := run_change_eq_iff.mp hcreate
  obtain ⟨last, hlast⟩ := FileTree.exists_write_of_write htree bytes
  obtain ⟨other, hother, rfl, rfl⟩ | ⟨refusal, hrefusal, _, _⟩ := run_change_eq_iff.mp hwrite
  · exact ⟨rfl, FileTree.read_of_write hother⟩
  · rw [hlast] at hrefusal
    cases hrefusal

/-- A file is not made, and nothing changes, or what the encoder wrote is in it. -/
theorem run_fillFile_eq {written : Written Error} {result : Except Error Unit}
    (h : (fillFile path written : Session.Action Unit).run.run session = (result, after)) :
  (after = session ∧ ∃ detail, result = .error (.file path detail)) ∨
    result = written.outcome ∧ after.tree.read after.base path = .ok written.bytes
  := by
  rw [fillFile, run_bind_eq_iff] at h
  obtain ⟨error, hcreate, rfl⟩ | ⟨_, created, hcreate, h⟩ := h
  · obtain ⟨refusal, hrefusal, rfl⟩ := run_attempt_eq_error_iff.mp hcreate
    obtain ⟨_, _, ⟨⟩, _⟩ | ⟨_, _, _, rfl⟩ := run_change_eq_iff.mp hrefusal
    left
    exact ⟨rfl, _, rfl⟩
  · rw [run_attempt_eq_ok_iff] at hcreate
    rw [run_bind_eq_iff] at h
    obtain ⟨_, ⟨⟩, _⟩ | ⟨answer, filled, hwrite, h⟩ := h
    rw [run_lift_eq_ok_iff] at hwrite
    obtain ⟨rfl, hread⟩ := run_write_of_create hcreate hwrite
    right
    rw [run_bind_eq_iff] at h
    obtain ⟨error, hsettle, rfl⟩ | ⟨_, between, hsettle, hlast⟩ := h
    · obtain ⟨houtcome, rfl⟩ := run_settle_eq_error_iff.mp hsettle
      exact ⟨houtcome.symm, hread⟩
    · obtain ⟨houtcome, rfl⟩ := run_settle_eq_ok_iff.mp hsettle
      obtain ⟨⟩ := hlast
      exact ⟨houtcome.symm, hread⟩

/-- An operation on files fails, and no file changes, or what the encoder wrote of the image is in
the file. -/
theorem run_writeImage_eq {result : Except Error Unit}
    (h : (writeImage path format options image : Session.Action Unit).run.run session =
      (result, after)) :
  (session.ChangesOnly [] after ∧ ∃ detail, result = .error (.file path detail)) ∨
    result = (format.encode options image).outcome ∧
      after.tree.read after.base path = .ok (format.encode options image).bytes
  := by
  obtain ⟨prepare, hprepare, hfile, hwrite⟩ := exists_writeImage_eq path format options image
  rw [hwrite, run_bind_eq_iff] at h
  obtain ⟨error, herror, rfl⟩ | ⟨_, prepared, hrun, h⟩ := h
  · obtain ⟨detail, rfl⟩ := hfile _ _ _ herror
    left
    exact ⟨hprepare.of_run herror, detail, rfl⟩
  · obtain ⟨rfl, hdetail⟩ | hfilled := run_fillFile_eq h
    · left
      exact ⟨hprepare.of_run hrun, hdetail⟩
    · right
      exact hfilled

namespace Job

variable {job : Job}

/-- A job fails by an operation on files, and no file changes, or it ends as the encoder does, and
what that wrote is in the file at the output. -/
theorem run_paint_eq {label : String} {output : Option String} {result : Except Error Unit}
    (h : (job.paint image label format output : Session.Action Unit).run.run session =
      (result, after)) :
  ∃ x, job.program.run job.byRows image = .ok x ∧
    ((session.ChangesOnly [] after ∧ ∃ path detail, result = .error (.file path detail)) ∨
      result = (format.encode job.options x.image).outcome ∧
        ∀ path ∈ output,
          after.tree.read after.base path = .ok (format.encode job.options x.image).bytes)
  := by
  have hexecution := job.program.run_eq_execution job.byRows image
  refine ⟨_, hexecution, ?_⟩
  rw [paint, run_bind_eq_iff] at h
  obtain ⟨_, ⟨⟩, _⟩ | ⟨_, mapping, hsay, h⟩ := h
  have hmapping : session.ChangesOnly [] mapping := (changesOnly_say _).of_run hsay
  rw [run_bind_eq_iff, hexecution] at h
  obtain ⟨_, ⟨⟩, _⟩ | ⟨x, between, hx, h⟩ := h
  obtain ⟨⟨⟩, rfl⟩ := run_settle_eq_ok_iff.mp hx
  cases output with
  | some path =>
    rw [run_bind_eq_iff] at h
    obtain ⟨error, hwrite, rfl⟩ | ⟨_, written, hwrite, hreport⟩ := h
    · obtain ⟨hafter, detail, herror⟩ | ⟨houtcome, hread⟩ := run_writeImage_eq hwrite
      · left
        exact ⟨hmapping.trans hafter, path, detail, herror⟩
      · right
        refine ⟨houtcome, ?_⟩
        rintro _ ⟨⟩
        exact hread
    · obtain ⟨-, detail, ⟨⟩⟩ | ⟨houtcome, hread⟩ := run_writeImage_eq hwrite
      right
      have hends : result = .ok () := (congrArg Prod.fst hreport).symm
      have hsaid : written.ChangesOnly [] after := by
        apply ChangesOnly.of_run _ hreport
        apply ChangesOnly.run_bind (changesOnly_shown path)
        intro target
        apply changesOnly_say
      refine ⟨hends.trans houtcome, ?_⟩
      rintro _ ⟨⟩
      apply hsaid.read (by simp) hread
  | none =>
    rw [run_bind_eq_iff] at h
    obtain ⟨_, ⟨⟩, _⟩ | ⟨_, printed, hprint, hsettle⟩ := h
    right
    refine ⟨(congrArg Prod.fst hsettle).symm, ?_⟩
    rintro _ ⟨⟩

/-- What a job makes of the content of the file at a path, written in a format to its end. -/
def encoding? (job : Job) (format : Format) (path : String) (content : List UInt8) :
    Option (List UInt8) := do
  let image ← (job.library.readFile path content).toOption
  let execution ← (job.program.run job.byRows image).toOption
  let written := format.encode job.options execution.image
  if written.error?.isNone then some written.bytes else none

theorem encoding?_eq_some_iff {content bytes : List UInt8} :
  job.encoding? format path content = some bytes ↔
    ∃ image execution, job.library.readFile path content = .ok image ∧
      job.program.run job.byRows image = .ok execution ∧
      format.encode job.options execution.image = .whole bytes
  := by
  simp only [encoding?, Option.bind_eq_bind, Option.bind_eq_some_iff, toOption_eq_some_iff,
    exists_and_left, Written.eq_whole_iff, Option.isNone_iff_eq_none, Option.ite_none_right_eq_some,
    Option.some.injEq]

theorem read_of_paint {label : String}
    (h : (job.paint image label format (some path) : Session.Action Unit).run.run session =
      (.ok (), after)) :
  ∃ execution bytes, job.program.run job.byRows image = .ok execution ∧
    format.encode job.options execution.image = .whole bytes ∧
    after.tree.read after.base path = .ok bytes
  := by
  obtain ⟨x, hx, ⟨-, _, _, ⟨⟩⟩ | ⟨houtcome, hread⟩⟩ := run_paint_eq h
  exact ⟨x, _, hx, Written.outcome_eq_ok_iff.mp houtcome.symm, hread path rfl⟩

end Job

end Recolour.Command
