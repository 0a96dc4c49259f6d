import Recolour.Image.Painting
import Recolour.Program

/-!
# Running a program

Expressions run in program order, each on the image the one before it left.  Two images of
one size are enough: every expression is painted from the current image into the scratch
image, and the two change places.  Lines that are no expressions are counted and touch
neither.
-/

namespace Recolour

/-- The two images of a run. -/
structure Buffers where
  /-- The image the next expression reads. -/
  current : Image
  /-- The image the next expression is painted into. -/
  scratch : Image

namespace Buffers

/-- An image with a scratch image of its size. -/
def ofImage (image : Image) : Buffers :=
  ⟨image, Image.blank image.width image.height⟩

/-- Paint an expression and make the result the current image. -/
def step (byRows : Bool) (e : Expression) (buffers : Buffers) : Except Error Buffers :=
  match Image.paint byRows e buffers.current buffers.scratch with
  | (.ok (), painted) => .ok ⟨painted, buffers.current⟩
  | (.error error, _) => .error error

end Buffers

/-- What a run made of an image and of the lines of its program. -/
structure Execution where
  image : Image
  /-- The number of expressions. -/
  applied : Nat
  /-- The number of lines with tokens that are no expressions. -/
  skipped : Nat
  /-- The rejected lines, in program order. -/
  rejected : List Line

/-- A run that has come to some line of its program. -/
structure Progress where
  buffers : Buffers
  applied : Nat
  skipped : Nat
  rejected : List Line

namespace Progress

/-- A run that has not begun. -/
def start (image : Image) : Progress :=
  ⟨Buffers.ofImage image, 0, 0, []⟩

/-- A run one line further. -/
def advance (byRows : Bool) (progress : Progress) (line : Line) : Except Error Progress :=
  match line.outcome with
  | .expression e => do
    let buffers ← progress.buffers.step byRows e
    return { progress with buffers, applied := progress.applied + 1 }
  | .ignored tokens =>
    return if 0 < tokens then { progress with skipped := progress.skipped + 1 } else progress
  | .rejected _ =>
    return { progress with rejected := progress.rejected ++ [line] }

/-- The end of a run. -/
def finish (progress : Progress) : Execution :=
  ⟨progress.buffers.current, progress.applied, progress.skipped, progress.rejected⟩

end Progress

/-- Run a program on an image, painting by rows or by single pixels. -/
def Program.run (byRows : Bool) (p : Program) (image : Image) : Except Error Execution := do
  let progress ← p.lines.foldlM (Progress.advance byRows) (Progress.start image)
  return progress.finish

end Recolour
