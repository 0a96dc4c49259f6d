import Mathlib.Data.Finset.Card
import Recolour.Plain
import Recolour.Proofs.Directory.Target
import Recolour.Proofs.Writing

/-!
# Deliveries of a directory run

A run over a directory takes the images below it one after the other. An image is found at its
target in the end if it was still there at its turn and nothing was written over its target
later. So a run that succeeds delivers every image of a directory apart from the output if all
targets differ, and when two images have one target only the later of them is found.
-/

namespace Recolour.Command.Job

variable {job : Job} {directory output : String} {format : Option Format}
  {session start final : Session} {count : Nat}

/-! ### One image -/

theorem changesOnly_paintFile (job : Job) (directory output : String) (format : Option Format)
    (image : List String × Format) :
  ChangesOnly [target output format image.1]
    (job.paintFile directory output format image : Session.Action Unit).run
  := by
  rw [paintFile]
  apply ChangesOnly.run_bind (changesOnly_readImage _ _)
  intro image
  apply ChangesOnly.run_bind (changesOnly_shown _)
  intro label
  apply changesOnly_paint job image label _ (some _)

theorem read_of_paintFile {image : List String × Format}
    (h : (job.paintFile directory output format image : Session.Action Unit).run.run start =
      (.ok (), final)) :
  ∃ content bytes, start.tree.read start.base (pathBelow directory image.1) = .ok content ∧
    job.encoding? (format.getD image.2) (pathBelow directory image.1) content = some bytes ∧
    final.tree.read final.base (target output format image.1) = .ok bytes
  := by
  rw [paintFile, run_bind_eq_ok_iff] at h
  obtain ⟨decoded, between, hdecoded, h⟩ := h
  rw [run_readImage_eq_ok_iff] at hdecoded
  obtain ⟨⟨content, hread, hdecode⟩, rfl⟩ := hdecoded
  rw [run_bind_eq_ok_iff] at h
  obtain ⟨label, between, -, h⟩ := h
  obtain ⟨execution, bytes, hexecution, hbytes, hwritten⟩ := read_of_paint h
  use content, bytes, hread
  rw [encoding?_eq_some_iff]
  exact ⟨⟨decoded, execution, hdecode, hexecution, hbytes⟩, hwritten⟩

/-! ### All images -/

variable {registry : Registry} {files : List (List String)} {location : Location}
  {tree : FileTree} {images : List (List String × Format)}

theorem mem_images_iff {image : List String × Format} :
  image ∈ Job.images registry files ↔
    image.1 ∈ files ∧ registry.forPath? (pathBelow "" image.1) = some image.2
  := by
  rw [Job.images, List.mem_filterMap]
  constructor
  · rintro ⟨names, hfile, himage⟩
    rw [Option.map_eq_some_iff] at himage
    obtain ⟨format, hformat, rfl⟩ := himage
    exact ⟨hfile, hformat⟩
  · rintro ⟨hfile, hformat⟩
    exact ⟨image.1, hfile, by rw [hformat]; rfl⟩

theorem pairwise_images (registry : Registry) (hfiles : files.Nodup) :
  (Job.images registry files).Pairwise fun image other => image.1 ≠ other.1
  := by
  rw [Job.images, List.pairwise_filterMap]
  apply hfiles.imp
  intro names other hne image himage image' himage'
  rw [Option.map_eq_some_iff] at himage himage'
  obtain ⟨format, -, rfl⟩ := himage
  obtain ⟨format', -, rfl⟩ := himage'
  apply hne

theorem areNames_of_get? {names : List String} (htree : tree.IsWellFormed)
    (hdirectory : tree.get? location = some .directory) {content : List UInt8}
    (hget : tree.get? (location ++ names) = some (.file content)) :
  AreNames names
  := by
  constructor
  · rintro rfl
    rw [List.append_nil, hdirectory] at hget
    cases hget
  · apply htree.isName
    rw [hget]
    simp

/-- The images of a directory are the files below it with the extension of a format. -/
theorem mem_images_filesUnder_iff (registry : Registry) (directory : String)
    (htree : tree.IsWellFormed) (hdirectory : tree.get? location = some .directory)
    (image : List String × Format) :
  image ∈ Job.images registry (tree.filesUnder location) ↔
    (∃ content, tree.get? (location ++ image.1) = some (.file content)) ∧
      registry.forPath? (pathBelow directory image.1) = some image.2
  := by
  rw [mem_images_iff, htree.mem_filesUnder_iff]
  apply and_congr_right
  rintro ⟨content, hget⟩
  have hnames := areNames_of_get? htree hdirectory hget
  rw [Registry.forPath?, Registry.forPath?, extension?_pathBelow hnames]

theorem changesOnly_forM (images : List (List String × Format)) :
  ChangesOnly (images.map fun image => target output format image.1)
    (images.forM (job.paintFile directory output format) : Session.Action Unit).run
  := by
  apply ChangesOnly.run_forM
  intro image himage
  apply (changesOnly_paintFile job directory output format image).mono
  intro path hpath
  rw [List.mem_singleton.mp hpath, List.mem_map]
  exact ⟨image, himage, rfl⟩

/-- A run over a directory fails before its first image, or ends as the images do one after the
other. -/
theorem exists_forM_of_paintDirectory {result : Except Error Nat}
    (hrun : (job.paintDirectory directory output format : Session.Action Nat).run.run session =
      (result, final)) :
  (session.ChangesOnly [] final ∧ ∃ error, result = .error error) ∨
    ∃ location start ended, session.tree.locate session.base directory = .ok location ∧
      session.tree.get? location = some .directory ∧ session.ChangesOnly [] start ∧
      ((Job.images job.registry (session.tree.filesUnder location)).forM
        (job.paintFile directory output format) : Session.Action Unit).run.run start =
          (ended, final) ∧
      result = ended.map fun _ =>
        (Job.images job.registry (session.tree.filesUnder location)).length
  := by
  rw [paintDirectory, run_bind_eq_iff] at hrun
  obtain ⟨error, hfiles, rfl⟩ | ⟨files, between, hfiles, hrun⟩ := hrun
  · left
    constructor
    · apply (changesOnly_attempt "Failed to walk directory" directory _).of_run hfiles
      exact .of_unchanged fun _ => rfl
    · exact ⟨error, rfl⟩
  · right
    rw [run_attempt_eq_ok_iff] at hfiles
    obtain ⟨hbelow, rfl⟩ := Prod.mk.inj hfiles
    obtain ⟨location, hlocate, hdirectory, rfl⟩ := FileTree.filesBelow_eq_ok_iff.mp hbelow
    use location
    dsimp only at hrun
    generalize Job.images job.registry (session.tree.filesUnder location) = images at hrun ⊢
    have hpaint {start : Session} (h : (do
          images.forM (job.paintFile directory output format)
          return images.length : Session.Action Nat).run.run start = (result, final)) :
        ∃ ended, (images.forM (job.paintFile directory output format) :
          Session.Action Unit).run.run start = (ended, final) ∧
            result = ended.map fun _ => images.length := by
      rw [run_bind_eq_iff] at h
      obtain ⟨error, hforM, rfl⟩ | ⟨_, painted, hforM, hcount⟩ := h
      · exact ⟨.error error, hforM, rfl⟩
      · obtain ⟨⟩ := hcount
        exact ⟨.ok (), hforM, rfl⟩
    split at hrun
    · rw [run_bind_eq_iff] at hrun
      obtain ⟨_, ⟨⟩, _⟩ | ⟨place, shown, hshown, hrun⟩ := hrun
      rw [run_bind_eq_iff] at hrun
      obtain ⟨_, ⟨⟩, _⟩ | ⟨_, start, hstart, hrun⟩ := hrun
      obtain ⟨ended, hforM, hresult⟩ := hpaint hrun
      refine ⟨start, ended, hlocate, hdirectory, ?_, hforM, hresult⟩
      apply ((changesOnly_shown directory).of_run hshown).trans
      apply (changesOnly_say _).of_run hstart
    · obtain ⟨ended, hforM, hresult⟩ := hpaint hrun
      exact ⟨session, ended, hlocate, hdirectory, .refl _ _, hforM, hresult⟩

theorem of_run_paintDirectory
    (hrun : (job.paintDirectory directory output format : Session.Action Nat).run.run session =
      (.ok count, final)) :
  ∃ location start, session.tree.locate session.base directory = .ok location ∧
    session.tree.get? location = some .directory ∧ session.ChangesOnly [] start ∧
    ((Job.images job.registry (session.tree.filesUnder location)).forM
      (job.paintFile directory output format) : Session.Action Unit).run.run start =
        (.ok (), final) ∧
    count = (Job.images job.registry (session.tree.filesUnder location)).length
  := by
  obtain ⟨-, error, ⟨⟩⟩ | ⟨location, start, ended, hlocate, hdirectory, hstart, hforM, hcount⟩ :=
    exists_forM_of_paintDirectory hrun
  obtain ⟨_, rfl, hlength⟩ := map_eq_ok_iff.mp hcount.symm
  exact ⟨location, start, hlocate, hdirectory, hstart, hforM, hlength⟩

/-! ### Arrival -/

/-- At the end the target of an image holds what the job makes of the image at the start. -/
def Arrives (job : Job) (directory output : String) (format : Option Format)
    (session final : Session) (image : List String × Format) : Prop :=
  ∃ content bytes, session.tree.read session.base (pathBelow directory image.1) = .ok content ∧
    job.encoding? (format.getD image.2) (pathBelow directory image.1) content = some bytes ∧
    final.tree.read final.base (target output format image.1) = .ok bytes

theorem arrives_iff {image : List String × Format} :
  job.Arrives directory output format session final image ↔
    (session.tree.read session.base (pathBelow directory image.1)).toOption.bind
        (job.encoding? (format.getD image.2) (pathBelow directory image.1)) ≠ none ∧
      (final.tree.read final.base (target output format image.1)).toOption =
        (session.tree.read session.base (pathBelow directory image.1)).toOption.bind
          (job.encoding? (format.getD image.2) (pathBelow directory image.1))
  := by
  simp only [Arrives, ← toOption_eq_some_iff]
  constructor
  · rintro ⟨content, bytes, hread, hencoding, hfound⟩
    rw [hread, Option.bind_some, hencoding, hfound]
    simp
  · rintro ⟨hsome, hfound⟩
    obtain ⟨bytes, hbytes⟩ := Option.ne_none_iff_exists'.mp hsome
    rw [hbytes] at hfound
    obtain ⟨content, hread, hencoding⟩ := Option.bind_eq_some_iff.mp hbytes
    exact ⟨content, bytes, hread, hencoding, hfound⟩

instance (image : List String × Format) :
    Decidable (job.Arrives directory output format session final image) :=
  decidable_of_iff' _ arrives_iff

/-- No image stands where the target of an image leads. -/
def Spares (base : Location) (directory output : String) (format : Option Format)
    (images : List (List String × Format)) : Prop :=
  ∀ image ∈ images, ∀ other ∈ images,
    Path.place base (pathBelow directory other.1) ≠
      Path.place base (target output format image.1)

/-- An image arrives if none before it is written over it and none behind it over its target. -/
theorem arrives_of_forM {before behind : List (List String × Format)}
    {image : List String × Format} (hstart : session.ChangesOnly [] start)
    (hrun : ((before ++ image :: behind).forM (job.paintFile directory output format) :
      Session.Action Unit).run.run start = (.ok (), final))
    (hread : ∃ content, session.tree.read session.base (pathBelow directory image.1) = .ok content)
    (hbefore : ∀ other ∈ before, Path.place session.base (pathBelow directory image.1) ≠
      Path.place session.base (target output format other.1))
    (hbehind : ∀ other ∈ behind, Path.place session.base (target output format image.1) ≠
      Path.place session.base (target output format other.1)) :
  job.Arrives directory output format session final image
  := by
  rw [List.forM_eq_forM, List.forM_append, run_bind_eq_ok_iff] at hrun
  obtain ⟨_, reached, hreached, hrun⟩ := hrun
  rw [List.forM_cons, run_bind_eq_ok_iff] at hrun
  obtain ⟨_, painted, hpainted, hrun⟩ := hrun
  have hfirst : session.ChangesOnly (before.map fun other => target output format other.1)
      reached :=
    (hstart.mono (List.nil_subset _)).trans ((changesOnly_forM before).of_run hreached)
  have hthis := (changesOnly_paintFile job directory output format image).of_run hpainted
  have hlast := (changesOnly_forM behind).of_run hrun
  obtain ⟨content, hcontent⟩ := hread
  obtain ⟨found, bytes, hfound, hbytes, hwritten⟩ := read_of_paintFile hpainted
  -- At its turn the image is what it was at the start.
  have hsame : found = content := by
    have hreached := hfirst.read (List.forall_mem_map.mpr hbefore) hcontent
    rw [hreached, Except.ok.injEq] at hfound
    exact hfound.symm
  use content, bytes, hcontent
  rw [← hsame]
  use hbytes
  apply hlast.read _ hwritten
  rw [hthis.base, hfirst.base, List.forall_mem_map]
  apply hbehind

theorem nodup_of_card_toFinset {paths : List String} (h : paths.toFinset.card = paths.length) :
  paths.Nodup
  := by
  rw [List.card_toFinset] at h
  rw [← List.dedup_eq_self]
  apply (List.dedup_sublist paths).eq_of_length h

section Names

variable (hformat : ∀ f ∈ format, f ∈ (Registry.builtin job.library).formats)
  (hnames : ∀ image ∈ images, AreNames image.1)

include hformat hnames

theorem spares_of_apart {base : Location}
    (hinput : ¬Path.place base directory <+: Path.place base output)
    (houtput : ¬Path.place base output <+: Path.place base directory) :
  Spares base directory output format images
  := by
  intro image himage other hother
  apply place_pathBelow_ne_place_target hformat hinput houtput (hnames image himage)
    (hnames other hother)

/-- All targets differ if the images keep their formats, and otherwise if all stems do. -/
theorem nodup_targets_iff
    (hdistinct : images.Pairwise fun image other => image.1 ≠ other.1) :
  (images.map fun image => target output format image.1).Nodup ↔
    format = none ∨ (images.map fun image => stemNames image.1).Nodup
  := by
  rw [List.Nodup, List.pairwise_map, List.Nodup, List.pairwise_map]
  cases format with
  | none =>
    refine iff_of_true ?_ (Or.inl rfl)
    apply hdistinct.imp_of_mem
    intro image other himage hother hne
    rw [ne_eq, target_eq_iff hformat (hnames image himage) (hnames other hother)]
    apply hne
  | some format =>
    rw [or_iff_right (by simp)]
    apply List.Pairwise.iff_of_mem
    intro image other himage hother
    have himage := hnames image himage
    have hother := hnames other hother
    rw [ne_eq, target_eq_iff hformat himage hother,
      targetNames_some_eq_iff (hformat format rfl) himage hother]

variable (hread : ∀ image ∈ images, ∃ content,
    session.tree.read session.base (pathBelow directory image.1) = .ok content)
  (hstart : session.ChangesOnly [] start)
  (hrun : (images.forM (job.paintFile directory output format) : Session.Action Unit).run.run
    start = (.ok (), final))
  (hspares : Spares session.base directory output format images)

include hread hstart hrun hspares

/-- An image arrives if no later one has its target. -/
theorem arrives_of_last {before behind : List (List String × Format)}
    {image : List String × Format} (hsplit : images = before ++ image :: behind)
    (hlast : ∀ other ∈ behind, target output format other.1 ≠ target output format image.1) :
  job.Arrives directory output format session final image
  := by
  have himage : image ∈ images := by simp [hsplit]
  apply arrives_of_forM hstart (hsplit ▸ hrun) (hread image himage)
  · intro other hother
    apply hspares other (by simp [hsplit, hother]) image himage
  · intro other hother
    have hvalid := hnames other (by simp [hsplit, hother])
    rw [ne_eq, place_target_eq_iff hformat (hnames image himage) hvalid,
      ← target_eq_iff hformat (hnames image himage) hvalid]
    exact (hlast other hother).symm

/-- All images arrive, each in a file of its own, exactly if no two have the same target. -/
theorem forall_arrives_iff :
  (∀ image ∈ images, job.Arrives directory output format session final image) ∧
      (images.map fun image => target output format image.1).toFinset.card = images.length ↔
    (images.map fun image => target output format image.1).Nodup
  := by
  constructor
  · rintro ⟨-, hcard⟩
    apply nodup_of_card_toFinset
    rw [hcard, List.length_map]
  · intro hnodup
    constructor
    · intro image himage
      obtain ⟨before, behind, hsplit⟩ := List.append_of_mem himage
      apply arrives_of_last hformat hnames hread hstart hrun hspares hsplit
      intro other hother hsame
      rw [hsplit, List.map_append, List.map_cons] at hnodup
      have hcons := List.nodup_cons.mp hnodup.of_append_right
      apply hcons.1
      rw [List.mem_map]
      exact ⟨other, hother, hsame⟩
    · rw [List.toFinset_card_of_nodup hnodup, List.length_map]

end Names

/-- When a run over a directory succeeds, it has painted every image below the directory and
changed no file but their targets. If no image stands at a target, as when neither directory
lies in the other, then an image is found at its target unless a later one has the same target;
and all are, each in a file of its own, exactly if the images keep their formats or no two of
them differ in the extension alone. -/
theorem paintDirectory_delivers (htree : session.tree.IsWellFormed)
    (hformat : ∀ f ∈ format, f ∈ (Registry.builtin job.library).formats)
    (hrun : (job.paintDirectory directory output format : Session.Action Nat).run.run session =
      (.ok count, final)) :
  ∃ location images, session.tree.locate session.base directory = .ok location ∧
    Job.images job.registry (session.tree.filesUnder location) = images ∧
    (∀ image, image ∈ images ↔
      (∃ content, session.tree.get? (location ++ image.1) = some (.file content)) ∧
        job.registry.forPath? (pathBelow directory image.1) = some image.2) ∧
    count = images.length ∧
    session.ChangesOnly (images.map fun image => target output format image.1) final ∧
    (¬Path.place session.base directory <+: Path.place session.base output →
      ¬Path.place session.base output <+: Path.place session.base directory →
      Spares session.base directory output format images) ∧
    (Spares session.base directory output format images →
      (∀ before image behind, images = before ++ image :: behind →
        (∀ other ∈ behind, target output format other.1 ≠ target output format image.1) →
        job.Arrives directory output format session final image) ∧
      ((∀ image ∈ images, job.Arrives directory output format session final image) ∧
        (images.map fun image => target output format image.1).toFinset.card = count ↔
          format = none ∨ (images.map fun image => stemNames image.1).Nodup))
  := by
  obtain ⟨location, start, hlocate, hdirectory, hstart, hforM, hcount⟩ :=
    of_run_paintDirectory hrun
  have hmem := mem_images_filesUnder_iff job.registry directory htree hdirectory
  have hdistinct := pairwise_images job.registry (session.tree.nodup_filesUnder location)
  generalize himages : Job.images job.registry (session.tree.filesUnder location) = images at *
  have hnames : ∀ image ∈ images, AreNames image.1 := by
    intro image himage
    obtain ⟨⟨content, hget⟩, -⟩ := (hmem image).mp himage
    apply areNames_of_get? htree hdirectory hget
  have hread : ∀ image ∈ images, ∃ content,
      session.tree.read session.base (pathBelow directory image.1) = .ok content := by
    intro image himage
    obtain ⟨⟨content, hget⟩, -⟩ := (hmem image).mp himage
    exact ⟨content, read_pathBelow htree hlocate hget⟩
  refine ⟨location, images, hlocate, himages, hmem, hcount, ?_, ?_, ?_⟩
  · apply (hstart.mono (List.nil_subset _)).trans
    apply (changesOnly_forM images).of_run hforM
  · apply spares_of_apart hformat hnames
  · intro hspares
    constructor
    · intro before image behind hsplit hlast
      apply arrives_of_last hformat hnames hread hstart hforM hspares hsplit hlast
    · rw [hcount, forall_arrives_iff hformat hnames hread hstart hforM hspares,
        nodup_targets_iff hformat hnames hdistinct]

/-! ### Two images -/

/-- A session with a directory of two images of one pixel, a grey and a coloured one. -/
def twoImages (grey coloured : String) : Session :=
  .start
    (((FileTree.empty.put ["in"] .directory).put ["in", grey]
      (.file (Utf8.encode "P2 1 1 255 7".toList))).put ["in", coloured]
      (.file (Utf8.encode "P3 1 1 255 1 2 3".toList))) [] []

/-- A job that makes every colour brighter by one. -/
def brighter : Job where
  library := .plain
  program := .parse "-e" "? ? ? ?  +1 +1 +1 ?"
  byRows := false
  registry := .builtin .plain
  options := .empty

/-- Two images with stems of their own are both delivered. -/
theorem paintDirectory_two_stems :
  ∃ final,
    (brighter.paintDirectory "in" "out" (some (Pnm.format .plain)) : Session.Action Nat).run.run
      (twoImages "a.pgm" "b.ppm") = (.ok 2, final) ∧
    ∀ image ∈ [(["a.pgm"], Pnm.format .plain), (["b.ppm"], Pnm.format .plain)],
      brighter.Arrives "in" "out" (some (Pnm.format .plain)) (twoImages "a.pgm" "b.ppm") final image
  := by
  have htree : (twoImages "a.pgm" "b.ppm").tree.IsWellFormed := by decide +kernel
  have hformat : ∀ f ∈ some (Pnm.format .plain),
      f ∈ (Registry.builtin brighter.library).formats := by
    simp [Registry.builtin_formats, brighter]
  have hrun := eq_ok_of_toOption (a := 2)
    (x := (brighter.paintDirectory "in" "out" (some (Pnm.format .plain)) :
      Session.Action Nat).run.run (twoImages "a.pgm" "b.ppm")) (by decide +kernel)
  refine ⟨_, hrun, ?_⟩
  obtain ⟨location, images, hlocate, himages, -, -, -, happart, hdelivered⟩ :=
    paintDirectory_delivers htree hformat hrun
  obtain rfl := FileTree.place_of_locate hlocate
  obtain rfl : [(["a.pgm"], Pnm.format .plain), (["b.ppm"], Pnm.format .plain)] = images := himages
  have hspares := happart (by decide +kernel) (by decide +kernel)
  exact ((hdelivered hspares).2.mpr (Or.inr (by decide +kernel))).1

/-- Of two images with one stem only the second is delivered, and yet both are counted. -/
theorem paintDirectory_one_stem :
  ∃ final,
    (brighter.paintDirectory "in" "out" (some (Pnm.format .plain)) : Session.Action Nat).run.run
      (twoImages "a.pgm" "a.ppm") = (.ok 2, final) ∧
    (twoImages "a.pgm" "a.ppm").tree.IsWellFormed ∧
    ¬Path.place [] "in" <+: Path.place [] "out" ∧
    Job.images brighter.registry ((twoImages "a.pgm" "a.ppm").tree.filesUnder ["in"]) =
      [(["a.pgm"], Pnm.format .plain), (["a.ppm"], Pnm.format .plain)] ∧
    ¬brighter.Arrives "in" "out" (some (Pnm.format .plain)) (twoImages "a.pgm" "a.ppm") final
      (["a.pgm"], Pnm.format .plain)
  := by
  have hrun := eq_ok_of_toOption (a := 2)
    (x := (brighter.paintDirectory "in" "out" (some (Pnm.format .plain)) :
      Session.Action Nat).run.run (twoImages "a.pgm" "a.ppm")) (by decide +kernel)
  exact ⟨_, hrun, by decide +kernel, by decide +kernel, rfl, by decide +kernel⟩

end Recolour.Command.Job
