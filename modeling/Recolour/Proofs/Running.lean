import Mathlib.Data.List.Induction
import Recolour.Execution
import Recolour.Proofs.Painting

/-!
# A run is a fold of recolouring

Every run ends.  Its image is the given image with each pixel recoloured by the expressions of
the program in order, and its counts are those of the lines of the program.  The two images of
a run keep one size, so no expression is ever refused, and what the scratch image held never
shows.
-/

namespace Recolour

/-- A pixel recoloured by some expressions, the first one first. -/
def Expression.recolourAll (steps : List Expression) (p : Pixel) : Pixel :=
  steps.foldl (fun q e => e.recolour q) p

namespace Expression

theorem recolourAll_append (steps more : List Expression) (p : Pixel) :
  recolourAll (steps ++ more) p = recolourAll more (recolourAll steps p)
  := List.foldl_append

end Expression

variable {image : Image}

/-! ### Buffers -/

/-- Any number of expressions, one after another. -/
def Buffers.steps (byRows : Bool) (steps : List Expression) (buffers : Buffers) :
    Except Error Buffers :=
  steps.foldlM (fun sofar e => sofar.step byRows e) buffers

/-- Buffers hold what some expressions make of an image: the current image is the recoloured
one, and the scratch image has its size. -/
structure Buffers.IsAfter (image : Image) (steps : List Expression) (buffers : Buffers) :
    Prop where
  current_eq : buffers.current = image.map (Expression.recolourAll steps)
  sameSize : buffers.scratch.SameSize buffers.current

namespace Buffers.IsAfter

theorem nil {scratch : Image} (hsize : scratch.SameSize image) :
  Buffers.IsAfter image [] ⟨image, scratch⟩
  := by
  constructor
  · apply (Image.map_id image).symm
  · apply hsize

theorem ofImage (image : Image) :
  Buffers.IsAfter image [] (Buffers.ofImage image)
  := nil (Image.sameSize_blank image)

/-- One expression more. -/
theorem step {steps : List Expression} {buffers : Buffers}
    (h : Buffers.IsAfter image steps buffers) (byRows : Bool) (e : Expression) :
  ∃ next, buffers.step byRows e = .ok next ∧ Buffers.IsAfter image (steps ++ [e]) next
  := by
  use ⟨buffers.current.map e.recolour, buffers.current⟩
  constructor
  · rw [Buffers.step, Image.paint_eq_map byRows e h.sameSize.symm]
  · constructor
    · simp only [h.current_eq, Image.map_map]
      congr 1
      funext p
      rw [Expression.recolourAll_append]
      rfl
    · exact ⟨rfl, rfl⟩

/-- Any number of expressions more. -/
theorem steps {before : List Expression} {buffers : Buffers}
    (h : Buffers.IsAfter image before buffers) (byRows : Bool) (after : List Expression) :
  ∃ last, buffers.steps byRows after = .ok last
    ∧ Buffers.IsAfter image (before ++ after) last
  := by
  induction after generalizing before buffers with
  | nil =>
    use buffers, rfl
    simpa using h
  | cons e after ih =>
    obtain ⟨next, hnext, hafter⟩ := h.step byRows e
    obtain ⟨last, hlast, h'⟩ := ih hafter
    use last
    constructor
    · rw [Buffers.steps, List.foldlM_cons, hnext]
      apply hlast
    · simpa using h'

end Buffers.IsAfter

/-- A step makes the current image the recoloured one. -/
theorem Buffers.exists_step (byRows : Bool) (e : Expression) {buffers : Buffers}
    (hsize : buffers.scratch.SameSize buffers.current) :
  ∃ next, buffers.step byRows e = .ok next ∧ next.current = buffers.current.map e.recolour
  := by
  obtain ⟨next, hstep, hafter⟩ := (IsAfter.nil hsize).step byRows e
  use next, hstep
  apply hafter.current_eq

/-! ### Lines -/

/-- A run stands where some lines of its program bring it. -/
structure Progress.IsAfter (image : Image) (lines : List Line) (progress : Progress) :
    Prop where
  buffers : progress.buffers.IsAfter image (lines.filterMap Line.expression?)
  applied : progress.applied = lines.countP fun line => line.expression?.isSome
  skipped : progress.skipped = lines.countP Line.isSkipped
  rejected : progress.rejected = lines.filter fun line => line.error?.isSome

namespace Progress.IsAfter

theorem start (image : Image) :
  Progress.IsAfter image [] (Progress.start image)
  := by
  constructor
  · apply Buffers.IsAfter.ofImage
  · rfl
  · rfl
  · rfl

/-- One line more. An expression is painted and counted, any other line leaves the buffers
alone. -/
theorem advance {lines : List Line} {progress : Progress}
    (h : Progress.IsAfter image lines progress) (byRows : Bool) (line : Line) :
  ∃ next, progress.advance byRows line = .ok next
    ∧ Progress.IsAfter image (lines ++ [line]) next
  := by
  cases houtcome : line.outcome with
  | expression e =>
    obtain ⟨buffers, hstep, hafter⟩ := h.buffers.step byRows e
    use { progress with buffers, applied := progress.applied + 1 }
    constructor
    · rw [Progress.advance, houtcome]
      simp only [hstep]
      rfl
    · constructor
      · simpa [Line.expression?, houtcome] using hafter
      · simp [h.applied, Line.expression?, houtcome]
      · simp [h.skipped, Line.isSkipped, houtcome]
      · simp [h.rejected, Line.error?, houtcome]
  | ignored tokens =>
    use { progress with skipped := progress.skipped + if 0 < tokens then 1 else 0 }
    constructor
    · rw [Progress.advance, houtcome]
      by_cases htokens : 0 < tokens
      · simp only [if_pos htokens]
        rfl
      · simp only [if_neg htokens]
        rfl
    · constructor
      · simpa [Line.expression?, houtcome] using h.buffers
      · simp [h.applied, Line.expression?, houtcome]
      · simp [h.skipped, Line.isSkipped, houtcome, List.countP_cons]
      · simp [h.rejected, Line.error?, houtcome]
  | rejected error =>
    use { progress with rejected := progress.rejected ++ [line] }
    constructor
    · rw [Progress.advance, houtcome]
      rfl
    · constructor
      · simpa [Line.expression?, houtcome] using h.buffers
      · simp [h.applied, Line.expression?, houtcome]
      · simp [h.skipped, Line.isSkipped, houtcome]
      · simp [h.rejected, Line.error?, houtcome]

/-- All lines, one after another. -/
theorem exists_run (byRows : Bool) (lines : List Line) (image : Image) :
  ∃ progress, lines.foldlM (Progress.advance byRows) (Progress.start image) = .ok progress
    ∧ Progress.IsAfter image lines progress
  := by
  induction lines using List.reverseRecOn with
  | nil => exact ⟨Progress.start image, rfl, start image⟩
  | append_singleton lines line ih =>
    obtain ⟨progress, hrun, hafter⟩ := ih
    obtain ⟨next, hnext, h'⟩ := hafter.advance byRows line
    use next
    constructor
    · rw [List.foldlM_append, hrun]
      simp only [List.foldlM_cons, List.foldlM_nil]
      apply (bind_pure _).trans hnext
    · apply h'

end Progress.IsAfter

/-! ### Runs -/

/-- The run of a program ends with the recoloured image. -/
theorem Program.exists_run (byRows : Bool) (p : Program) (image : Image) :
  ∃ x, p.run byRows image = .ok x ∧ x.image = image.map (Expression.recolourAll p.expressions)
    ∧ x.applied = p.lines.countP (fun line => line.expression?.isSome)
    ∧ x.skipped = p.lines.countP Line.isSkipped ∧ x.rejected = p.rejected
  := by
  obtain ⟨progress, hrun, h⟩ := Progress.IsAfter.exists_run byRows p.lines image
  use progress.finish
  constructor
  · rw [Program.run, hrun]
    rfl
  · use h.buffers.current_eq, h.applied, h.skipped, h.rejected

/-- What a program makes of an image and of its lines. -/
def Program.execution (p : Program) (image : Image) : Execution where
  image := image.map (Expression.recolourAll p.expressions)
  applied := p.lines.countP fun line => line.expression?.isSome
  skipped := p.lines.countP Line.isSkipped
  rejected := p.rejected

theorem Program.run_eq_execution (byRows : Bool) (p : Program) (image : Image) :
  p.run byRows image = .ok (p.execution image)
  := by
  obtain ⟨⟨_, _, _, _⟩, hrun, rfl, rfl, rfl, rfl⟩ := p.exists_run byRows image
  apply hrun

/-- Every run ends, with the pixels of the image folded through the expressions of the program
and with the counts of its lines.  On the way every step is taken between images of one size,
and the current image is the same whatever the scratch image held at first. -/
theorem Program.run_eq_fold (byRows : Bool) (p : Program) (image : Image) :
  (∃ x, p.run byRows image = .ok x ∧ x.image.SameSize image
      ∧ (∀ i < image.width, ∀ j < image.height,
        x.image.get i j = p.expressions.foldl (fun q e => e.recolour q) (image.get i j))
      ∧ x.applied = p.lines.countP (fun line => line.expression?.isSome)
      ∧ x.skipped = p.lines.countP Line.isSkipped ∧ x.rejected = p.rejected)
    ∧ ∀ steps : List Expression,
      (∃ buffers, (Buffers.ofImage image).steps byRows steps = .ok buffers
        ∧ buffers.current.SameSize image ∧ buffers.scratch.SameSize image)
      ∧ ∀ scratch : Image, scratch.SameSize image →
        (Buffers.steps byRows steps ⟨image, scratch⟩).map Buffers.current
          = ((Buffers.ofImage image).steps byRows steps).map Buffers.current
  := by
  constructor
  · obtain ⟨x, hrun, himage, hcounts⟩ := p.exists_run byRows image
    use x, hrun
    rw [himage]
    use Image.sameSize_map _ image
    constructor
    · intro i hi j hj
      apply Image.get_map _ image hi hj
    · apply hcounts
  · intro steps
    obtain ⟨buffers, hsteps, hafter⟩ := (Buffers.IsAfter.ofImage image).steps byRows steps
    have hcurrent : buffers.current.SameSize image := by
      rw [hafter.current_eq]
      apply Image.sameSize_map
    constructor
    · use buffers, hsteps, hcurrent
      apply hafter.sameSize.trans hcurrent
    · intro scratch hscratch
      obtain ⟨buffers', hsteps', hafter'⟩ := (Buffers.IsAfter.nil hscratch).steps byRows steps
      rw [hsteps, hsteps']
      simp only [Except.map, hafter.current_eq, hafter'.current_eq]

/-- A program of two expressions, a skipped and a rejected line, on two pixels. -/
theorem Program.run_mixed_lines :
  (∃ x, Program.run true
      ⟨[⟨"m", 1, "", .expression ⟨.wildcard, .gray (.literal 9)⟩⟩, ⟨"m", 2, "", .ignored 3⟩,
        ⟨"m", 3, "", .rejected (.parse "" none)⟩,
        ⟨"m", 4, "", .expression ⟨.gray (.literal 9), ⟨.wildcard, .named .alpha, .wildcard,
          .literal 0⟩⟩⟩]⟩ ⟨2, 1, #[1, 2, 3, 4, 5, 6, 7, 8], rfl⟩ = .ok x
      ∧ x.image.get 1 0 = ⟨9, 8, 9, 0⟩ ∧ x.applied = 2 ∧ x.skipped = 1
      ∧ x.rejected = [⟨"m", 3, "", .rejected (.parse "" none)⟩])
    ∧ (Buffers.steps true [⟨.wildcard, .gray (.literal 9)⟩]
        ⟨⟨1, 1, #[1, 2, 3, 4], rfl⟩, ⟨1, 1, #[5, 6, 7, 8], rfl⟩⟩).map Buffers.current
      = ((Buffers.ofImage ⟨1, 1, #[1, 2, 3, 4], rfl⟩).steps true
        [⟨.wildcard, .gray (.literal 9)⟩]).map Buffers.current
  := by
  constructor
  · obtain ⟨⟨x, hrun, -, hget, happlied, hskipped, hrejected⟩, -⟩ := Program.run_eq_fold true
      ⟨[⟨"m", 1, "", .expression ⟨.wildcard, .gray (.literal 9)⟩⟩, ⟨"m", 2, "", .ignored 3⟩,
        ⟨"m", 3, "", .rejected (.parse "" none)⟩,
        ⟨"m", 4, "", .expression ⟨.gray (.literal 9), ⟨.wildcard, .named .alpha, .wildcard,
          .literal 0⟩⟩⟩]⟩ ⟨2, 1, #[1, 2, 3, 4, 5, 6, 7, 8], rfl⟩
    use x, hrun
    rw [hget 1 (by decide) 0 (by decide), happlied, hskipped, hrejected]
    decide
  · apply (Program.run_eq_fold true ⟨[]⟩ ⟨1, 1, #[1, 2, 3, 4], rfl⟩).2 _ |>.2
    exact ⟨rfl, rfl⟩

end Recolour
