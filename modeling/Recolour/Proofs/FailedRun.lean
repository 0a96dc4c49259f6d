import Recolour.Proofs.Recipe.Ingredient
import Recolour.Proofs.Reporting
import Recolour.Proofs.Running
import Recolour.Proofs.Writing

/-!
# Runs that fail

A run on a single image first finds out what to paint: its settings, its program, the image and
the format.  All this only reads.  Then it paints, and the file at its output is emptied before
the image is encoded.  So a run that fails changes no file, unless it is the encoder that
refuses the image: then the file at the output, which may be the input itself, holds what the
encoder wrote before, and nothing else.
-/

namespace Recolour

open Command

/-! ### Finding out -/

namespace Session

variable {α β γ : Type} {session : Session}

/-- The action finds out `answer` without changing anything, and goes on with `rest`. -/
def Continues (session : Session) (x : Action β) (answer : Except Error α) (rest : α → Action β) :
    Prop :=
  ∀ start, session.Agrees start → ∃ between, session.Agrees between ∧
    x.run.run start = (settle answer >>= rest : Action β).run.run between

namespace Continues

variable {x : Action γ} {f : γ → Action β} {g : γ → Except Error α} {rest : α → Action β}

theorem of_eq {y : Action β} {a : α} (h : y = rest a) :
  session.Continues y (.ok a) rest
  := by
  intro start hstart
  subst h
  exact ⟨start, hstart, rfl⟩

theorem throw (error : Error) :
  session.Continues (MonadExcept.throw error : Action β) (.error error) rest
  := fun start hstart => ⟨start, hstart, rfl⟩

/-- An action that only reads is found out first. -/
theorem bind (hx : OnlyReads x.run)
    (hf : ∀ c, session.answer x = .ok c → session.Continues (f c) (g c) rest) :
  session.Continues (x >>= f) (session.answer x >>= g) rest
  := by
  intro start hstart
  have hanswer := hx.answer_eq hstart
  have hafter := (hx session start hstart).2
  rw [← hanswer] at hf ⊢
  rw [answer] at hf ⊢
  rw [ExceptT.run_bind, StateT.run_bind]
  generalize x.run.run start = result at *
  obtain ⟨error | c, between⟩ := result
  · exact ⟨between, hafter, rfl⟩
  · apply hf c rfl between hafter

/-- An action that only reads and has an answer is left behind. -/
theorem after {c : γ} {answer : Except Error α} (hx : OnlyReads x.run)
    (hanswer : session.answer x = .ok c) (hf : session.Continues (f c) answer rest) :
  session.Continues (x >>= f) answer rest
  := by
  have hbind : session.Continues (x >>= f) (session.answer x >>= fun _ => answer) rest := by
    apply bind hx
    intro other hother
    obtain rfl := Except.ok.inj (hanswer.symm.trans hother)
    apply hf
  rwa [hanswer] at hbind

/-- What goes on with finding out more has found out both. -/
theorem trans {x : Action β} {answer : Except Error γ} {more : γ → Except Error α}
    (hx : session.Continues x answer f)
    (hf : ∀ c, answer = .ok c → session.Continues (f c) (more c) rest) :
  session.Continues x (answer >>= more) rest
  := by
  intro start hstart
  obtain ⟨between, hbetween, hrun⟩ := hx start hstart
  rw [hrun]
  cases answer with
  | error error => exact ⟨between, hbetween, rfl⟩
  | ok c => apply hf c rfl between hbetween

theorem settle {result : Except Error γ} (hf : ∀ c, session.Continues (f c) (g c) rest) :
  session.Continues (Command.settle result >>= f) (result >>= g) rest
  := bind (OnlyReads.settle result) fun c _ => hf c

end Continues

end Session

theorem OnlyReads.readInput :
  OnlyReads (ExceptT.lift Host.readInput : Session.Action (List UInt8)).run
  := of_forall (fun _ _ input => .ok input) fun session => ⟨rfl, .refl session⟩

theorem Registry.mem_of_get {registry : Registry} {name : String} {format : Format}
    (h : registry.get name = .ok format) :
  format ∈ registry.formats
  := by
  rw [get] at h
  split at h
  case h_1 hfind =>
    obtain rfl := Except.ok.inj h
    apply List.mem_of_find?_eq_some hfind
  case h_2 => cases h

namespace Command

variable {session : Session} {library : Library}

theorem onlyReads_readImage (library : Library) (path : String) :
  OnlyReads (readImage library path : Session.Action Image).run
  := by
  rw [readImage]
  apply OnlyReads.run_bind (OnlyReads.attempt _ _ (OnlyReads.read path))
  intro bytes
  split
  · apply OnlyReads.run_pure
  · apply OnlyReads.run_throw

theorem answer_isKind (session : Session) (kind : FileKind) (path : String) :
  session.answer (isKind kind path) = .ok (session.tree.kind? session.base path == some kind)
  := rfl

theorem onlyReads_load (library : Library) (path : String) :
  OnlyReads (Settings.load library path : Session.Action Settings).run
  := by
  rw [Settings.load]
  apply OnlyReads.run_bind (OnlyReads.readText _ path)
  intro text
  apply OnlyReads.settle

theorem onlyReads_discover (library : Library) (path : Option String) :
  OnlyReads (Settings.discover library path : Session.Action Settings).run
  := by
  cases path with
  | some path => apply onlyReads_load
  | none =>
    apply OnlyReads.run_bind (OnlyReads.isKind .file _)
    intro found
    split
    · apply onlyReads_load
    · apply OnlyReads.run_pure

/-! ### Painting -/

namespace Run

/-- What a run on a single image paints, and how. -/
structure Painting where
  job : Job
  image : Image
  label : String
  format : Format

/-- The settings and the program that a run finds. -/
def prepared (library : Library) (run : Run) (session : Session) :
    Except Error (Settings × Program) := do
  let settings ← session.answer (Settings.discover library run.settings)
  let program ← session.answer (run.recipe.program settings)
  if program.lines.isEmpty then .error emptyProgram else return (settings, program)

/-- Before it looks at its input a run only reads. -/
theorem continues_prepared (library : Library) (run : Run) (session : Session) :
  session.Continues (run.execute library) (run.prepared library session) fun found =>
    run.carryOut library found.1 found.2
  := by
  rw [execute, prepared]
  apply Session.Continues.bind (onlyReads_discover _ _)
  intro settings _
  rw [executeUnder]
  have hshadowed := Session.run_forM_reporting (f := fun name =>
    (say (·.statusLine .warning "Ignoring"
      ("preset `" ++ name ++ "` in " ++ Settings.fileName ++ " (a builtin has that name)")) :
      Session.Action Unit)) (fun name session => rfl) settings.shadowed
  apply Session.Continues.after (OnlyReads.of_reporting hshadowed)
    (congrArg Prod.fst (hshadowed session))
  apply Session.Continues.bind (OnlyReads.recipe _ _)
  intro program _
  dsimp only
  split
  · apply Session.Continues.throw
  · have hreport := run_reportLines program
    apply Session.Continues.after (OnlyReads.of_reporting hreport)
      (congrArg Prod.fst (hreport session))
    exact Session.Continues.of_eq rfl

/-- The image that a run on a single image starts from, with its name. -/
def source (library : Library) (run : Run) (session : Session) : Except Error (Image × String) :=
  match run.input with
  | some input =>
    (session.answer (readImage library input)).map fun image =>
      (image, Path.display session.workingDirectory input)
  | none => (Image.decode library session.input).map fun image => (image, "<stdin>")

/-- What a run on a single image finds out before it paints. -/
def painting (library : Library) (run : Run) (session : Session) : Except Error Painting := do
  let settings ← session.answer (Settings.discover library run.settings)
  let program ← session.answer (run.recipe.program settings)
  if program.lines.isEmpty then .error emptyProgram
  else do
    let (image, label) ← run.source library session
    let format ← run.singleFormat settings (.builtin library)
    return ⟨run.job library settings program, image, label, format⟩

/-- The encoder refuses what the run makes of its image, and has written some bytes before. -/
def Refuses (library : Library) (run : Run) (session : Session) (error : Error)
    (bytes : List UInt8) : Prop :=
  ∃ painting x, run.painting library session = .ok painting
    ∧ painting.job.program.run painting.job.byRows painting.image = .ok x
    ∧ painting.format.encode painting.job.options x.image = ⟨bytes, some error⟩

theorem painting_eq_bind (library : Library) (run : Run) (session : Session) :
  run.painting library session = run.prepared library session >>= fun found =>
    run.source library session >>= fun source =>
      run.singleFormat found.1 (.builtin library) >>= fun format =>
        return ⟨run.job library found.1 found.2, source.1, source.2, format⟩
  := by
  rw [painting, prepared, bind_assoc]
  apply bind_congr
  intro settings
  rw [bind_assoc]
  apply bind_congr
  intro program
  split <;> rfl

/-- Before it paints a run on a single image only reads. -/
theorem continues_execute {run : Run}
    (hsingle : ∀ input ∈ run.input, session.tree.kind? session.base input ≠ some .directory) :
  session.Continues (run.execute library) (run.painting library session) fun painting =>
    painting.job.paint painting.image painting.label painting.format run.output
  := by
  rw [painting_eq_bind]
  apply (continues_prepared library run session).trans
  rintro ⟨settings, program⟩ -
  rw [carryOut, source]
  cases hinput : run.input with
  | none =>
    dsimp only
    rw [map_bind_eq]
    apply Session.Continues.after (OnlyReads.readInput) rfl
    apply Session.Continues.settle
    intro image
    apply Session.Continues.settle
    intro format
    exact Session.Continues.of_eq rfl
  | some input =>
    have hkind : session.answer (isKind .directory input) = .ok false := by
      rw [answer_isKind]
      simpa using hsingle input hinput
    dsimp only
    rw [map_bind_eq]
    apply Session.Continues.after (OnlyReads.isKind _ _) hkind
    apply Session.Continues.bind (onlyReads_readImage library input)
    intro image _
    apply Session.Continues.settle
    intro format
    apply Session.Continues.after (OnlyReads.shown input) rfl
    exact Session.Continues.of_eq rfl

theorem singleFormat_mem {run : Run} {settings : Settings} {registry : Registry} {format : Format}
    (h : run.singleFormat settings registry = .ok format) :
  format ∈ registry.formats
  := by
  rw [singleFormat] at h
  split at h
  · apply Registry.mem_of_get h
  case h_2 hpath =>
    obtain rfl := Except.ok.inj h
    obtain ⟨path, -, hforPath⟩ := Option.bind_eq_some_iff.mp hpath
    obtain ⟨extension, -, hfind⟩ := Option.bind_eq_some_iff.mp hforPath
    apply List.mem_of_find?_eq_some hfind
  · apply Registry.mem_of_get h

theorem format_mem_builtin {run : Run} {painting : Painting}
    (h : run.painting library session = .ok painting) :
  painting.format ∈ (Registry.builtin library).formats
  := by
  rw [Run.painting] at h
  simp only [bind_eq_ok_iff] at h
  obtain ⟨settings, -, program, -, h⟩ := h
  split at h
  · cases h
  · simp only [bind_eq_ok_iff, pure_eq_ok_iff] at h
    obtain ⟨_, -, format, hformat, rfl⟩ := h
    apply singleFormat_mem hformat

/-- What the encoder of a run wrote before it refused the image is the same whatever the refusal. -/
theorem Refuses.unique {run : Run} {error other : Error} {bytes more : List UInt8}
    (h : run.Refuses library session error bytes)
    (hother : run.Refuses library session other more) :
  bytes = more
  := by
  obtain ⟨painting, x, hpainting, hx, hencode⟩ := h
  obtain ⟨painting', x', hpainting', hx', hencode'⟩ := hother
  obtain rfl := Except.ok.inj (hpainting.symm.trans hpainting')
  obtain rfl := Except.ok.inj (hx.symm.trans hx')
  exact congrArg Written.bytes (hencode.symm.trans hencode')

/-- The encoder of PNM files writes nothing when it refuses the name of a variant. -/
theorem Refuses.eq_nil {run : Run} {error : Error} {bytes : List UInt8} {painting : Painting}
    (h : run.Refuses library session error bytes)
    (hpainting : run.painting library session = .ok painting)
    (hformat : painting.format = Pnm.format library)
    (hname : Pnm.variantName painting.job.options ∉ ["p2", "p3", "p5", "p6"]) :
  bytes = []
  := by
  obtain ⟨other, x, hother, -, hencode⟩ := h
  obtain rfl := Except.ok.inj (hpainting.symm.trans hother)
  rw [hformat, Pnm.encode_of_not_mem library x.image hname] at hencode
  exact (congrArg Written.bytes hencode).symm

/-- A run that fails changes no file, or its encoder refuses the image and what it wrote before is
in the output. -/
theorem refuses_or_not {run : Run} {final : Session} {error : Error}
    (hsingle : ∀ input ∈ run.input, session.tree.kind? session.base input ≠ some .directory)
    (hrun : (run.execute library : Session.Action Unit).run.run session = (.error error, final)) :
  ((∀ bytes, ¬run.Refuses library session error bytes) ∧ session.ChangesOnly [] final) ∨
    ∃ bytes, run.Refuses library session error bytes ∧
      session.ChangesOnly run.output.toList final ∧
      ∀ path ∈ run.output, final.tree.read final.base path = .ok bytes
  := by
  obtain ⟨between, hbetween, hexecute⟩ := continues_execute hsingle session (.refl session)
  rw [hrun] at hexecute
  cases hpainting : run.painting library session with
  | error cause =>
    rw [hpainting] at hexecute
    have hends : (Except.error error, final) = (Except.error cause, between) := hexecute
    obtain ⟨⟩ := hends
    left
    constructor
    · rintro bytes ⟨painting, x, hother, -⟩
      rw [hpainting] at hother
      cases hother
    · apply hbetween.changesOnly
  | ok painting =>
    rw [hpainting] at hexecute
    have hpaint : (painting.job.paint painting.image painting.label painting.format run.output :
        Session.Action Unit).run.run between = (.error error, final) := hexecute.symm
    have hchanges := (Job.changesOnly_paint _ _ _ _ _).of_run hpaint
    obtain ⟨x, hx, ⟨hafter, path, detail, herror⟩ | ⟨houtcome, hread⟩⟩ := Job.run_paint_eq hpaint
    · left
      constructor
      · rintro bytes ⟨other, x, hother, -, hencode⟩
        obtain rfl := Except.ok.inj (hpainting.symm.trans hother)
        -- the error of an encoder is never that of a file operation
        obtain ⟨_, rfl⟩ := error_of_encode (format_mem_builtin hpainting)
          (congrArg Written.error? hencode)
        cases herror
      · apply (hbetween.changesOnly []).trans hafter
    · right
      have hencode := Written.outcome_eq_error_iff.mp houtcome.symm
      exact ⟨_, ⟨painting, x, hpainting, hx, hencode⟩, (hbetween.changesOnly _).trans hchanges,
        hread⟩

/-- Where a file at each of some paths is found as it was, no file has changed. -/
theorem changesOnly_nil_iff {paths : List String} {final : Session} {bytes : List UInt8}
    (h : session.ChangesOnly paths final)
    (hread : ∀ path ∈ paths, final.tree.read final.base path = .ok bytes) :
  session.ChangesOnly [] final ↔ ∀ path ∈ paths,
    session.tree.get? (Path.place session.base path) = some (.file bytes)
  := by
  have hfound : ∀ path ∈ paths,
      final.tree.get? (Path.place session.base path) = some (.file bytes) := by
    intro path hpath
    rw [← h.base]
    apply (FileTree.read_eq_ok_iff.mp (hread path hpath)).2
  constructor
  · intro hall path hpath
    rw [← hall.file _ (by simp), hfound path hpath]
  · intro hbefore
    refine ⟨h.base, h.isWellFormed, h.directory, ?_⟩
    intro location _ content
    by_cases hlocation : ∃ path ∈ paths, location = Path.place session.base path
    · obtain ⟨path, hpath, rfl⟩ := hlocation
      rw [hfound path hpath, hbefore path hpath]
    · apply h.file
      intro path hpath hplace
      apply hlocation
      exact ⟨path, hpath, hplace⟩

/-- A run on a single image that fails changes no file unless the encoder refuses the image.  If it
does, the file at the output, and no other, is changed: it holds what the encoder wrote before.  So
all files stay as they are exactly if the encoder does not refuse the image, there is no output to a
file, or the file held just that before.  The encoder of PNM files has written nothing when it
refuses the name of a variant. -/
theorem execute_spares_files {run : Run} {final : Session} {error : Error}
    (hsingle : ∀ input ∈ run.input, session.tree.kind? session.base input ≠ some .directory)
    (hrun : (run.execute library : Session.Action Unit).run.run session = (.error error, final)) :
  ((∀ bytes, ¬run.Refuses library session error bytes) → session.ChangesOnly [] final)
    ∧ (∀ bytes, run.Refuses library session error bytes →
      session.ChangesOnly run.output.toList final
        ∧ ∀ path ∈ run.output, final.tree.read final.base path = .ok bytes)
    ∧ (session.ChangesOnly [] final ↔ ∀ bytes, run.Refuses library session error bytes →
      ∀ path ∈ run.output, session.tree.get? (Path.place session.base path) = some (.file bytes))
    ∧ ∀ painting bytes, run.painting library session = .ok painting →
      painting.format = Pnm.format library →
      Pnm.variantName painting.job.options ∉ ["p2", "p3", "p5", "p6"] →
      run.Refuses library session error bytes → bytes = []
  := by
  have hnil : ∀ painting bytes, run.painting library session = .ok painting →
      painting.format = Pnm.format library →
      Pnm.variantName painting.job.options ∉ ["p2", "p3", "p5", "p6"] →
      run.Refuses library session error bytes → bytes = [] :=
    fun painting bytes hpainting hformat hname h => h.eq_nil hpainting hformat hname
  obtain ⟨hrefuses, hchanges⟩ | ⟨written, hrefuses, hchanges, hread⟩ :=
    refuses_or_not hsingle hrun
  · refine ⟨fun _ => hchanges, ?_, ?_, hnil⟩
    · intro bytes h
      exact absurd h (hrefuses bytes)
    · apply iff_of_true hchanges
      intro bytes h
      exact absurd h (hrefuses bytes)
  · refine ⟨fun hnot => absurd hrefuses (hnot written), ?_, ?_, hnil⟩
    · intro bytes h
      rw [h.unique hrefuses]
      exact ⟨hchanges, hread⟩
    · rw [changesOnly_nil_iff hchanges (by simpa using hread)]
      constructor
      · intro hbefore bytes h path hpath
        rw [h.unique hrefuses]
        apply hbefore path (Option.mem_toList.mpr hpath)
      · intro hbefore path hpath
        apply hbefore written hrefuses path (Option.mem_toList.mp hpath)

/-- A session with two images of one pixel. -/
def twoPixels : Session :=
  .start ((FileTree.empty.put ["a.ppm"] (.file (Utf8.encode "P3 1 1 255 1 2 3".toList))).put
    ["b.ppm"] (.file (Utf8.encode "P3 1 1 255 4 5 6".toList))) [] []

/-- A run that makes an image black and asks for a variant that no encoder knows. -/
def blacken (output : String) : Run where
  input := some "a.ppm"
  recipe := ⟨[], none, [], ["? ? ? ? 0 0 0 ?"], none⟩
  output := some output
  format := none
  options := some "format:p9"
  sequential := true
  settings := none

/-- The refusal of the variant. -/
def badVariant : Error :=
  .image "invalid pnm format \"p9\"; expected p2, p3, p5 or p6"

/-- The image at the output is lost, and no other. -/
theorem execute_empties_output :
  ∃ final, ((blacken "b.ppm").execute .plain : Session.Action Unit).run.run twoPixels =
      (.error badVariant, final)
    ∧ (∀ input ∈ (blacken "b.ppm").input,
      twoPixels.tree.kind? twoPixels.base input ≠ some .directory)
    ∧ (blacken "b.ppm").Refuses .plain twoPixels badVariant []
    ∧ twoPixels.ChangesOnly ["b.ppm"] final
    ∧ final.tree.read final.base "b.ppm" = .ok []
  := by
  have hsingle : ∀ input ∈ (blacken "b.ppm").input,
      twoPixels.tree.kind? twoPixels.base input ≠ some .directory := by
    rintro _ ⟨⟩
    decide +kernel
  obtain ⟨final, hrun, hempty, hfound⟩ : ∃ final,
      ((blacken "b.ppm").execute .plain : Session.Action Unit).run.run twoPixels =
        (.error badVariant, final) ∧
      final.tree.read final.base "b.ppm" = .ok [] ∧
      final.tree.get? ["b.ppm"] = some (.file []) :=
    ⟨_, eq_of_fst_eq (by decide +kernel), by decide +kernel, by decide +kernel⟩
  obtain ⟨hspared, hwritten, -⟩ := execute_spares_files hsingle hrun
  have hrefuses : ∃ bytes, (blacken "b.ppm").Refuses .plain twoPixels badVariant bytes := by
    by_contra hnot
    have hfile := (hspared (not_exists.mp hnot)).file ["b.ppm"] (by simp) []
    have hbefore : ¬twoPixels.tree.get? ["b.ppm"] = some (.file []) := by decide +kernel
    exact hbefore (hfile.mp hfound)
  obtain ⟨bytes, hrefuses⟩ := hrefuses
  obtain ⟨hchanges, hread⟩ := hwritten bytes hrefuses
  obtain rfl : [] = bytes := Except.ok.inj (hempty.symm.trans (hread "b.ppm" rfl))
  exact ⟨final, hrun, hsingle, hrefuses, hchanges, hempty⟩

/-- An image that is written over itself is lost when the encoder refuses it. -/
theorem execute_empties_input :
  ∃ final, ((blacken "a.ppm").execute .plain : Session.Action Unit).run.run twoPixels =
      (.error badVariant, final)
    ∧ twoPixels.tree.read twoPixels.base "a.ppm" = .ok (Utf8.encode "P3 1 1 255 1 2 3".toList)
    ∧ final.tree.read final.base "a.ppm" = .ok []
  := by
  have hrun := eq_of_fst_eq (x := ((blacken "a.ppm").execute .plain : Session.Action Unit).run.run
    twoPixels) (a := .error badVariant) (by decide +kernel)
  exact ⟨_, hrun, by decide +kernel, by decide +kernel⟩

end Run

end Command

end Recolour
