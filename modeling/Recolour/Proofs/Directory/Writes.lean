import Recolour.Proofs.Directory.Delivery
import Recolour.Proofs.FailedRun

/-!
# What a directory run writes

`Session.Writes` lists what is written between two sessions, file by file. A run over a directory
takes its images in order and writes one file for each, until it fails; what it writes for an image
is what the encoder makes of what the program makes of it, and if the encoder stops before the end
then so does the run.
-/

namespace Recolour

open Command

/-- Between two sessions the files at some paths are written, one after the other and each with
the content that stands by its path. No other file changes, and no directory goes. -/
inductive Session.Writes : Session → List (String × List UInt8) → Session → Prop
  | nil {before after : Session} (h : before.ChangesOnly [] after) : Writes before [] after
  | cons {before between after : Session} {path : String} {content : List UInt8}
      {rest : List (String × List UInt8)} (h : before.ChangesOnly [path] between)
      (hread : between.tree.read between.base path = .ok content)
      (hrest : Writes between rest after) : Writes before ((path, content) :: rest) after

/-- The file at a location has the content at first, or after one of the writes. -/
def Session.Holds (session : Session) (writes : List (String × List UInt8))
    (location : Location) (content : List UInt8) : Prop :=
  session.tree.get? location = some (.file content) ∨
    ∃ path, (path, content) ∈ writes ∧ location = Path.place session.base path

namespace Session

variable {before between after : Session} {path : String} {content written : List UInt8}
  {writes more : List (String × List UInt8)} {location : Location}

theorem Holds.of_changesOnly (h : before.ChangesOnly [] between)
    (hbetween : between.Holds writes location content) :
  before.Holds writes location content
  := by
  rw [Holds, h.base] at hbetween
  obtain hget | hwritten := hbetween
  · left
    apply (h.file location (by simp) content).mp hget
  · right
    exact hwritten

theorem Holds.cons (h : before.ChangesOnly [path] between)
    (hread : between.tree.read between.base path = .ok written)
    (hbetween : between.Holds writes location content) :
  before.Holds ((path, written) :: writes) location content
  := by
  rw [Holds, h.base] at hbetween
  obtain hget | ⟨other, hother, hplace⟩ := hbetween
  · by_cases hplace : location = Path.place before.base path
    · right
      -- what is found there is what was read right after the write
      have hwritten := (FileTree.read_eq_ok_iff.mp hread).2
      rw [h.base, ← hplace, hget, Option.some.injEq, Entry.file.injEq] at hwritten
      rw [hwritten]
      exact ⟨path, List.mem_cons_self, hplace⟩
    · left
      apply (h.file location (by simpa using hplace) content).mp hget
  · right
    exact ⟨other, List.mem_cons_of_mem _ hother, hplace⟩

namespace Writes

theorem single (h : before.ChangesOnly [path] after)
    (hread : after.tree.read after.base path = .ok content) :
  before.Writes [(path, content)] after
  := cons h hread (nil (.refl _ _))

theorem of_changesOnly (h : before.ChangesOnly [] between) (hwrites : between.Writes writes after) :
  before.Writes writes after
  := by
  cases hwrites with
  | nil hafter => exact nil (h.trans hafter)
  | cons hafter hread hrest => exact cons ((h.mono (List.nil_subset _)).trans hafter) hread hrest

theorem append (h : before.Writes writes between) (hmore : between.Writes more after) :
  before.Writes (writes ++ more) after
  := by
  induction h with
  | nil h => exact of_changesOnly h hmore
  | cons h hread _ ih => exact cons h hread (ih hmore)

theorem base (h : before.Writes writes after) :
  after.base = before.base
  := by
  induction h with
  | nil h => exact h.base
  | cons h _ _ ih => exact ih.trans h.base

theorem holds_append (h : before.Writes writes between)
    (hmore : between.Holds more location content) :
  before.Holds (writes ++ more) location content
  := by
  induction h with
  | nil h => exact .of_changesOnly h hmore
  | cons h hread _ ih => exact .cons h hread (ih hmore)

/-- A file that stands there in the end was written, or it stood there before. -/
theorem holds (h : before.Writes writes after)
    (hget : after.tree.get? location = some (.file content)) :
  before.Holds writes location content
  := by
  have hafter : after.Holds [] location content := Or.inl hget
  have hbefore := h.holds_append hafter
  rwa [List.append_nil] at hbefore

end Writes

end Session

namespace Command.Job

/-- The content is what the encoder of a format writes of what the program makes of an image. The
error of the encoder, if it has one, is how the run ends. -/
def Leaves {α : Type} (job : Job) (format : Format) (image : Image) (content : List UInt8)
    (result : Except Error α) : Prop :=
  ∃ x, job.program.run job.byRows image = .ok x ∧
    (format.encode job.options x.image).bytes = content ∧
    ∀ error, (format.encode job.options x.image).error? = some error → result = .error error

variable {job : Job} {directory output : String} {format : Option Format}
  {session start final : Session} {α β : Type}

theorem Leaves.mono {encoding : Format} {image : Image} {content : List UInt8}
    {result : Except Error α} {other : Except Error β}
    (h : job.Leaves encoding image content result)
    (herror : ∀ error, result = .error error → other = .error error) :
  job.Leaves encoding image content other
  := by
  obtain ⟨x, hx, hcontent, hends⟩ := h
  refine ⟨x, hx, hcontent, ?_⟩
  intro error hstops
  apply herror error (hends error hstops)

/-! ### One image -/

/-- To paint an image to a path is to write the file there, or to fail before. -/
theorem writes_of_paint {image : Image} {label path : String} {encoding : Format}
    {result : Except Error Unit}
    (hrun : (job.paint image label encoding (some path) : Session.Action Unit).run.run start =
      (result, final)) :
  (∃ content, start.Writes [(path, content)] final ∧ job.Leaves encoding image content result) ∨
    start.ChangesOnly [] final ∧ ∃ error, result = .error error
  := by
  have hchanges := (changesOnly_paint job image label encoding (some path)).of_run hrun
  obtain ⟨x, hx, ⟨hafter, _, _, rfl⟩ | ⟨houtcome, hread⟩⟩ := run_paint_eq hrun
  · right
    exact ⟨hafter, _, rfl⟩
  · left
    refine ⟨_, .single hchanges (hread path rfl), x, hx, rfl, ?_⟩
    intro error hstops
    rw [houtcome, Written.outcome, hstops]

/-- The write is for the image under some names: it goes to its target, and leaves there what the
program makes of the image as it was at first or after one of the writes. -/
def IsFor (job : Job) (directory output : String) (format : Option Format) (session : Session)
    (writes : List (String × List UInt8)) (result : Except Error α)
    (image : List String × Format) (write : String × List UInt8) : Prop :=
  write.1 = target output format image.1 ∧
    ∃ original decoded,
      session.Holds writes (Path.place session.base (pathBelow directory image.1)) original ∧
      job.library.readFile (pathBelow directory image.1) original = .ok decoded ∧
      job.Leaves (format.getD image.2) decoded write.2 result

variable {writes more : List (String × List UInt8)}

theorem writes_of_paintFile {image : List String × Format} {result : Except Error Unit}
    (hrun : (job.paintFile directory output format image : Session.Action Unit).run.run start =
      (result, final)) :
  (∃ write, start.Writes [write] final ∧
      job.IsFor directory output format start [write] result image write) ∨
    start.ChangesOnly [] final ∧ ∃ error, result = .error error
  := by
  rw [paintFile, run_bind_eq_iff] at hrun
  obtain ⟨error, hread, rfl⟩ | ⟨decoded, between, hread, hrun⟩ := hrun
  · right
    exact ⟨(changesOnly_readImage _ _).of_run hread, error, rfl⟩
  · obtain ⟨⟨original, horiginal, hdecode⟩, rfl⟩ := run_readImage_eq_ok_iff.mp hread
    rw [run_bind_eq_iff] at hrun
    obtain ⟨_, ⟨⟩, _⟩ | ⟨label, between, ⟨⟩, hrun⟩ := hrun
    obtain ⟨content, hwrites, hleaves⟩ | hfails := writes_of_paint hrun
    · left
      have hheld := (FileTree.read_eq_ok_iff.mp horiginal).2
      exact ⟨_, hwrites, rfl, original, decoded, Or.inl hheld, hdecode, hleaves⟩
    · right
      exact hfails

/-! ### All images -/

theorem IsFor.mono {image : List String × Format} {write : String × List UInt8}
    {result : Except Error α} {other : Except Error β}
    (h : job.IsFor directory output format start writes result image write)
    (hbase : start.base = session.base)
    (hholds : ∀ location content, start.Holds writes location content →
      session.Holds more location content)
    (herror : ∀ error, result = .error error → other = .error error) :
  job.IsFor directory output format session more other image write
  := by
  obtain ⟨htarget, original, decoded, horiginal, hdecode, hleaves⟩ := h
  rw [hbase] at horiginal
  exact ⟨htarget, original, decoded, hholds _ _ horiginal, hdecode, hleaves.mono herror⟩

/-- Between two sessions the images are written in order, one write for each, up to the first that
fails, and all of them if none does. -/
def Paints (job : Job) (directory output : String) (format : Option Format)
    (images : List (List String × Format)) (session final : Session)
    (result : Except Error α) : Prop :=
  ∃ done writes, done <+: images ∧ session.Writes writes final ∧
    List.Forall₂ (job.IsFor directory output format session writes result) done writes ∧
    ((∃ a, result = .ok a) → done = images)

variable {images : List (List String × Format)}

theorem Paints.of_error {error : Error} (h : session.ChangesOnly [] final) :
  job.Paints directory output format images session final (.error error : Except Error α)
  := by
  refine ⟨[], [], List.nil_prefix, .nil h, .nil, ?_⟩
  rintro ⟨a, ⟨⟩⟩

/-- What changes no file may be done before the images and after them. -/
theorem Paints.extend {last : Session} {result : Except Error α} {f : α → β}
    (h : job.Paints directory output format images start final result)
    (hstart : session.ChangesOnly [] start) (hlast : final.ChangesOnly [] last) :
  job.Paints directory output format images session last (result.map f)
  := by
  obtain ⟨done, writes, hpart, hwrites, hdone, hall⟩ := h
  refine ⟨done, writes, hpart, ?_, ?_, ?_⟩
  · have hafter := (Session.Writes.of_changesOnly hstart hwrites).append (.nil hlast)
    rwa [List.append_nil] at hafter
  · apply hdone.imp
    intro image write hfor
    apply hfor.mono hstart.base
    · intro location content
      apply Session.Holds.of_changesOnly hstart
    · rintro error rfl
      rfl
  · intro hok
    apply hall
    rwa [exists_map_eq_ok_iff] at hok

/-- The images are written if the first of them is and then the others are. -/
theorem Paints.cons {between : Session} {image : List String × Format}
    {write : String × List UInt8} {result : Except Error α}
    (hwrites : start.Writes [write] between)
    (hfor : job.IsFor directory output format start [write] (.ok () : Except Error Unit) image
      write)
    (h : job.Paints directory output format images between final result) :
  job.Paints directory output format (image :: images) start final result
  := by
  obtain ⟨painted, rest, hpart, hrest, hpainted, hall⟩ := h
  refine ⟨image :: painted, write :: rest, ?_, hwrites.append hrest, .cons ?_ ?_, ?_⟩
  · rwa [List.prefix_cons_inj]
  · apply hfor.mono rfl
    · rintro location content (hget | ⟨path, hpath, hplace⟩)
      · exact Or.inl hget
      · exact Or.inr ⟨path, List.mem_append_left rest hpath, hplace⟩
    · rintro error ⟨⟩
  · apply hpainted.imp
    intro image write hfor
    apply hfor.mono hwrites.base
    · intro location content
      apply hwrites.holds_append
    · exact fun error => id
  · intro hok
    rw [hall hok]

/-- The images are written in order, until one fails. -/
theorem paints_of_forM {result : Except Error Unit}
    (hrun : (images.forM (job.paintFile directory output format) : Session.Action Unit).run.run
      start = (result, final)) :
  job.Paints directory output format images start final result
  := by
  induction images generalizing start with
  | nil =>
    obtain ⟨⟩ := hrun
    exact ⟨[], [], List.prefix_refl _, .nil (.refl _ _), .nil, fun _ => rfl⟩
  | cons image images ih =>
    rw [List.forM_eq_forM, List.forM_cons, run_bind_eq_iff] at hrun
    obtain ⟨error, hhead, rfl⟩ | ⟨done, between, hhead, htail⟩ := hrun
    · obtain ⟨write, hwrites, hfor⟩ | ⟨hafter, -⟩ := writes_of_paintFile hhead
      -- what was left at the target of a failed image is the last write
      · refine ⟨[image], [write], by simp, hwrites, .cons hfor .nil, ?_⟩
        rintro ⟨done, ⟨⟩⟩
      · exact .of_error hafter
    · obtain ⟨write, hwrites, hfor⟩ | ⟨-, error, ⟨⟩⟩ := writes_of_paintFile hhead
      apply Paints.cons hwrites hfor (ih htail)

/-- A run over a directory writes the images that it found there at first. -/
theorem paints_of_paintDirectory {result : Except Error Nat}
    (hrun : (job.paintDirectory directory output format : Session.Action Nat).run.run session =
      (result, final)) :
  job.Paints directory output format
    (Job.images job.registry (session.tree.filesUnder (Path.place session.base directory)))
    session final result
  := by
  obtain ⟨hchanges, error, rfl⟩ | ⟨location, start, ended, hlocate, -, hstart, hforM, rfl⟩ :=
    exists_forM_of_paintDirectory hrun
  · exact .of_error hchanges
  · obtain rfl := FileTree.place_of_locate hlocate
    exact (paints_of_forM hforM).extend hstart (.refl _ _)

end Command.Job

end Recolour
