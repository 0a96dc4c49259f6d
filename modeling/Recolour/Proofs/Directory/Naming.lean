import Recolour.Proofs.Directory.Writes
import Recolour.Proofs.Text.Case

/-!
# Names of what a directory run writes

A file that is written for an image stands below the output directory where the image stands below
the input, under a name with the same stem. Its extension is that of the image, or the first one of
the format asked for, and either way it stands for the format the file is in.
-/

namespace Recolour.Command

namespace Job

variable {library : Library} {directory output last name : String} {front names : List String}
  {format : Option Format}

/-! ### Targets -/

theorem forPath?_pathBelow_concat (registry : Registry) (hname : Path.IsName name) :
  registry.forPath? (pathBelow directory (front ++ [name])) =
    ((Path.splitExtension name.toList).2.map String.ofList).bind fun extension =>
      registry.formats.find? (·.hasExtension extension)
  := by
  rw [Registry.forPath?, pathBelow_concat, Path.extension?_join hname]

/-- The target of an image has the parent and the stem of the image, and is a path of the format
asked for, or of the one of the image. -/
theorem exists_target_eq (hformat : ∀ f ∈ format, f ∈ (Registry.builtin library).formats)
    (hnames : AreNames (front ++ [last])) {source : Format}
    (hsource : (Registry.builtin library).forPath? (pathBelow directory (front ++ [last])) =
      some source) :
  ∃ name, Path.IsName name ∧ Path.stem name = Path.stem last ∧
    target output format (front ++ [last]) = pathBelow output (front ++ [name]) ∧
    (Registry.builtin library).forPath? (pathBelow output (front ++ [name])) =
      some (format.getD source)
  := by
  have hlast := (areNames_concat_iff.mp hnames).2
  rw [target_eq hformat hnames]
  cases format with
  | none =>
    rw [forPath?_pathBelow_concat _ hlast] at hsource
    refine ⟨last, hlast, rfl, rfl, ?_⟩
    rw [forPath?_pathBelow_concat _ hlast, hsource, Option.getD_none]
  | some format =>
    obtain ⟨extension, hhead, hne, hslash, hdot, hfind⟩ :=
      exists_extension_of_mem (hformat format rfl)
    have hname := hlast.rename hne hslash
    refine ⟨Path.rename extension last, hname, Path.stem_rename hlast hne hdot, ?_, ?_⟩
    · rw [targetNames_some hhead, List.modifyLast_concat]
    · rw [forPath?_pathBelow_concat _ hname, Path.splitExtension_rename hlast hne hdot,
        Option.map_some, Option.bind_some, String.ofList_toList, hfind, Option.getD_some]

/-- A path that names an image below the input directory and the format it is written in. It leads
below the output directory to the place that the image has below the input, under a name with the
same stem, and is a path of the format asked for, or else of the one that the image has by its
extension in any letter case. -/
structure IsNamed (library : Library) (session : Session) (input output : String)
    (format : Option Format) (path : String) (front : List String) (last name : String)
    (source : Format) : Prop where
  image : ∃ content, session.tree.get? (Path.place session.base input ++ (front ++ [last])) =
    some (.file content)
  source_eq : (Registry.builtin library).forPath? (pathBelow input (front ++ [last])) = some source
  spelling : ∃ extension, Path.extension? (pathBelow input (front ++ [last])) = some extension ∧
    ∃ spelling ∈ source.extensions, Text.foldCase spelling = Text.foldCase extension
  path_eq : path = pathBelow output (front ++ [name])
  place_eq : Path.place session.base path = Path.place session.base output ++ (front ++ [name])
  stem_eq : Path.stem name = Path.stem last
  format_eq : (Registry.builtin library).forPath? path = some (format.getD source)

theorem spelling_of_forPath? {registry : Registry} {path : String} {source : Format}
    (h : registry.forPath? path = some source) :
  ∃ extension, Path.extension? path = some extension ∧
    ∃ spelling ∈ source.extensions, Text.foldCase spelling = Text.foldCase extension
  := by
  obtain ⟨extension, hextension, hfind⟩ := Option.bind_eq_some_iff.mp h
  have hhas := List.find?_some hfind
  obtain ⟨spelling, hspelling, hsame⟩ := List.any_eq_true.mp hhas
  exact ⟨extension, hextension, spelling, hspelling, Text.sameFolded_iff.mp hsame⟩

/-- The target of every image of a directory is named for it. -/
theorem isNamed_target {session : Session} {input : String} {image : List String × Format}
    (output : String) (htree : session.tree.IsWellFormed)
    (hdirectory : session.tree.get? (Path.place session.base input) = some .directory)
    (hformat : ∀ f ∈ format, f ∈ (Registry.builtin library).formats)
    (himage : image ∈ Job.images (.builtin library)
      (session.tree.filesUnder (Path.place session.base input))) :
  ∃ front last name, image.1 = front ++ [last] ∧
    IsNamed library session input output format (target output format image.1) front last name
      image.2
  := by
  rw [mem_images_filesUnder_iff (.builtin library) input htree hdirectory] at himage
  obtain ⟨⟨content, hget⟩, hsource⟩ := himage
  have hnames := areNames_of_get? htree hdirectory hget
  obtain ⟨names, source⟩ := image
  dsimp only at hget hsource hnames ⊢
  obtain ⟨front, last, rfl, -⟩ := exists_concat hnames
  obtain ⟨name, hname, hstem, htarget, hforPath⟩ := exists_target_eq hformat hnames hsource
  use front, last, name, rfl
  rw [htarget]
  constructor
  case image => exact ⟨content, hget⟩
  case source_eq => apply hsource
  case spelling => apply spelling_of_forPath? hsource
  case path_eq => rfl
  case place_eq =>
    apply place_pathBelow
    have hfront := (areNames_concat_iff.mp hnames).1
    apply (areNames_concat_iff.mpr ⟨hfront, hname⟩).isName
  case stem_eq => apply hstem
  case format_eq => apply hforPath

theorem mem_formats_of_mapM {registry : Registry} {requested : Option String}
    (h : requested.mapM registry.get = .ok format) :
  ∀ f ∈ format, f ∈ registry.formats
  := by
  cases requested with
  | none =>
    obtain ⟨⟩ := h
    simp
  | some name =>
    obtain ⟨found, hfound, rfl⟩ := map_eq_ok_iff.mp h
    rintro f ⟨⟩
    apply Registry.mem_of_get hfound

end Job

namespace Run

variable {library : Library} {run : Run} {session final : Session} {input output : String}
  {format : Option Format} {result : Except Error Unit}

/-! ### Runs -/

theorem job_registry (run : Run) (library : Library) (settings : Settings) (program : Program) :
  (run.job library settings program).registry = .builtin library
  := by
  rw [job]

theorem paints_of_executeDirectory {job : Job} (houtput : run.output = some output)
    (hformat : run.format.mapM job.registry.get = .ok format)
    (hrun : (run.executeDirectory job input : Session.Action Unit).run.run session =
      (result, final)) :
  job.Paints input output format
    (Job.images job.registry (session.tree.filesUnder (Path.place session.base input)))
    session final result
  := by
  rw [executeDirectory, houtput] at hrun
  dsimp only at hrun
  rw [hformat, run_bind_eq_iff] at hrun
  obtain ⟨_, ⟨⟩, _⟩ | ⟨_, between, ⟨⟩, hrun⟩ := hrun
  rw [run_bind_eq_iff] at hrun
  obtain ⟨error, hpaint, rfl⟩ | ⟨count, painted, hpaint, hsay⟩ := hrun
  · exact (Job.paints_of_paintDirectory hpaint).extend (f := fun _ => ()) (.refl _ _) (.refl _ _)
  · obtain rfl : result = .ok () := (congrArg Prod.fst hsay).symm
    apply (Job.paints_of_paintDirectory hpaint).extend (f := fun _ => ()) (.refl _ _)
    apply (changesOnly_say _).of_run hsay

/-- Before it goes through a directory a run only reads. -/
theorem continues_executeDirectory (hinput : run.input = some input)
    (hdirectory : session.tree.kind? session.base input = some .directory) :
  session.Continues (run.execute library) (run.prepared library session) fun found =>
    run.executeDirectory (run.job library found.1 found.2) input
  := by
  rw [← bind_pure (run.prepared library session)]
  apply (continues_prepared library run session).trans
  rintro ⟨settings, program⟩ -
  have hkind : session.answer (isKind .directory input) = .ok true := by
    rw [answer_isKind]
    simpa using hdirectory
  rw [carryOut, hinput]
  dsimp only
  apply Session.Continues.after (OnlyReads.isKind _ _) hkind
  exact Session.Continues.of_eq rfl

/-- A run on a directory writes the images of the directory. -/
theorem paints_of_execute (hinput : run.input = some input) (houtput : run.output = some output)
    (hdirectory : session.tree.kind? session.base input = some .directory)
    (hformat : run.format.mapM (Registry.builtin library).get = .ok format)
    (hrun : (run.execute library : Session.Action Unit).run.run session = (result, final)) :
  (session.ChangesOnly [] final ∧ ∃ error, result = .error error) ∨
    ∃ settings program, run.prepared library session = .ok (settings, program) ∧
      (run.job library settings program).Paints input output format
        (Job.images (.builtin library) (session.tree.filesUnder (Path.place session.base input)))
        session final result
  := by
  obtain ⟨between, hbetween, hexecute⟩ :=
    continues_executeDirectory hinput hdirectory session (.refl session)
  rw [hrun] at hexecute
  cases hprepared : run.prepared library session with
  | error error =>
    rw [hprepared] at hexecute
    obtain ⟨⟩ := hexecute
    left
    exact ⟨hbetween.changesOnly [], error, rfl⟩
  | ok found =>
    rw [hprepared] at hexecute
    right
    rw [← job_registry run library found.1 found.2] at hformat
    have hpaints := (paints_of_executeDirectory houtput hformat hexecute.symm).extend (f := id)
      (hbetween.changesOnly []) (.refl _ _)
    rw [hbetween.tree, hbetween.base, Except.map_id, job_registry] at hpaints
    exact ⟨found.1, found.2, rfl, hpaints⟩

/-- Every file that a run on a directory writes is written for an image below the input directory:
it lies below the output directory where the image lies below the input, under a name with the same
stem, and its path is one of the format that it is in, which is the one asked for or else that of
the image.  So is every file that stands there in the end and did not at first, and if the run
succeeds, then one is written for every image. -/
theorem execute_names_tell_formats (htree : session.tree.IsWellFormed)
    (hinput : run.input = some input) (houtput : run.output = some output)
    (hdirectory : session.tree.kind? session.base input = some .directory)
    (hformat : run.format.mapM (Registry.builtin library).get = .ok format)
    (hrun : (run.execute library : Session.Action Unit).run.run session = (result, final)) :
  ∃ writes, session.Writes writes final
    ∧ (∀ location content, final.tree.get? location = some (.file content) →
      session.Holds writes location content)
    ∧ (∀ path content, (path, content) ∈ writes → ∃ front last name source settings program,
      Job.IsNamed library session input output format path front last name source
        ∧ run.prepared library session = .ok (settings, program)
        ∧ (run.job library settings program).IsFor input output format session writes result
          (front ++ [last], source) (path, content))
    ∧ (result = .ok () → ∀ names source content,
      session.tree.get? (Path.place session.base input ++ names) = some (.file content) →
      (Registry.builtin library).forPath? (Job.pathBelow input names) = some source →
      ∃ written, (Job.target output format names, written) ∈ writes)
  := by
  have hplace := (FileTree.kind?_eq_directory_iff.mp hdirectory).2
  have hbuiltin := Job.mem_formats_of_mapM hformat
  obtain ⟨hnothing, error, rfl⟩ | ⟨settings, program, hprepared, done, writes, hpart, hwrites,
    hdone, hall⟩ := paints_of_execute hinput houtput hdirectory hformat hrun
  · refine ⟨[], .nil hnothing, fun location content => (Session.Writes.nil hnothing).holds, ?_, ?_⟩
    · rintro path content ⟨⟩
    · rintro ⟨⟩
  · refine ⟨writes, hwrites, fun location content => hwrites.holds, ?_, ?_⟩
    · intro path content hwrite
      obtain ⟨image, himage, hfor⟩ := exists_of_mem_right hdone hwrite
      obtain ⟨front, last, name, hnames, hnamed⟩ := Job.isNamed_target output htree hplace
        hbuiltin (hpart.subset himage)
      obtain rfl : path = _ := hfor.1
      use front, last, name, image.2, settings, program
      rw [← hnames]
      exact ⟨hnamed, hprepared, hfor⟩
    · intro hresult names source content hget hsource
      have himage : (names, source) ∈ done := by
        rw [hall ⟨(), hresult⟩, Job.mem_images_filesUnder_iff (.builtin library) input htree
          hplace]
        exact ⟨⟨content, hget⟩, hsource⟩
      obtain ⟨⟨path, written⟩, hwrite, htarget, -⟩ := exists_of_mem_left hdone himage
      obtain rfl : path = _ := htarget
      exact ⟨written, hwrite⟩

/-- A session with two images of one pixel, one of them in a directory of its own and under a name
with two dots, the other under a name that starts with one. -/
def photos : Session :=
  .start
    ((((FileTree.empty.put ["photos"] .directory).put ["photos", ".sky.pgm"]
      (.file (Utf8.encode "P2 1 1 255 7".toList))).put ["photos", "trip"] .directory).put
      ["photos", "trip", "sea.v1.PPM"] (.file (Utf8.encode "P3 1 1 255 1 2 3".toList))) [] []

/-- A run that makes all photos black and writes them as PNM files. -/
def darken : Run where
  input := some "photos"
  recipe := ⟨[], none, [], ["? ? ? ? 0 0 0 ?"], none⟩
  output := some "out"
  format := some "PNM"
  options := none
  sequential := true
  settings := none

/-- For each of the photos a file is written, under its stem and with the first extension of PNM
files. -/
theorem execute_names_photos :
  ∃ final writes, (darken.execute .plain : Session.Action Unit).run.run photos = (.ok (), final)
    ∧ photos.Writes writes final
    ∧ (∀ path content, (path, content) ∈ writes →
      (Registry.builtin .plain).forPath? path = some (Pnm.format .plain))
    ∧ (∃ content, ("out/.sky.pnm", content) ∈ writes)
    ∧ ∃ content, ("out/trip/sea.v1.pnm", content) ∈ writes
  := by
  have htree : photos.tree.IsWellFormed := by decide +kernel
  have hdirectory : photos.tree.kind? photos.base "photos" = some .directory := by decide +kernel
  have hformat : darken.format.mapM (Registry.builtin .plain).get =
      .ok (some (Pnm.format .plain)) := rfl
  obtain ⟨final, hrun⟩ : ∃ final,
      (darken.execute .plain : Session.Action Unit).run.run photos = (.ok (), final) :=
    ⟨_, eq_ok_of_toOption (by decide +kernel)⟩
  obtain ⟨writes, hwrites, -, hnamed, hall⟩ :=
    execute_names_tell_formats htree rfl rfl hdirectory hformat hrun
  refine ⟨final, writes, hrun, hwrites, ?_, ?_, ?_⟩
  · intro path content hwrite
    obtain ⟨front, last, name, source, settings, program, hnamed, -⟩ := hnamed path content hwrite
    apply hnamed.format_eq
  · have htarget : Job.target "out" (some (Pnm.format .plain)) [".sky.pgm"] = "out/.sky.pnm" := by
      decide +kernel
    rw [← htarget]
    apply hall rfl [".sky.pgm"] (Pnm.format .plain) (Utf8.encode "P2 1 1 255 7".toList)
    · decide +kernel
    · rfl
  · have htarget : Job.target "out" (some (Pnm.format .plain)) ["trip", "sea.v1.PPM"] =
        "out/trip/sea.v1.pnm" := by
      decide +kernel
    rw [← htarget]
    apply hall rfl ["trip", "sea.v1.PPM"] (Pnm.format .plain)
      (Utf8.encode "P3 1 1 255 1 2 3".toList)
    · decide +kernel
    · rfl

end Run

end Recolour.Command
