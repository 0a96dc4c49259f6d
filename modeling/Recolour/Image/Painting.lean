import Recolour.Error
import Recolour.Image
import Recolour.Recolouring

/-!
# Painting

To paint an expression is to write every pixel of a source image, recoloured, into a
destination of the same size.  `paintPixels` goes from pixel to pixel by its coordinates.
`paintRows` cuts the samples of both images into rows, which do not depend on one another,
and each row into pixels.  A destination of another size is refused and stays as it is.
-/

namespace Recolour.Image

/-- The refusal to paint `source` into `destination`, if their sizes differ. -/
def sizeFault? (source destination : Image) : Option Error :=
  if source.width = destination.width ∧ source.height = destination.height then none
  else some (.apply ("destination is " ++ toString destination.width ++ "x"
    ++ toString destination.height ++ " but source is " ++ toString source.width ++ "x"
    ++ toString source.height))

/-- One row of the destination painted pixel by pixel through its coordinates. -/
def paintLine (e : Expression) (source : Image) (y : Nat) (destination : Image) : Image :=
  (List.range source.width).foldl
    (fun out x => out.set x y (e.recolour (source.get x y))) destination

/-- Paint an expression pixel by pixel. The answer comes with the destination as it is
afterwards. -/
def paintPixels (e : Expression) (source destination : Image) : Except Error Unit × Image :=
  match sizeFault? source destination with
  | some fault => (.error fault, destination)
  | none =>
    (.ok (), (List.range source.height).foldl (fun out y => paintLine e source y out) destination)

/-- A row of destination samples in which every pixel gives way to the recoloured source
pixel at its place. -/
def paintRow (e : Expression) : List UInt8 → List UInt8 → List UInt8
  | _ :: _ :: _ :: _ :: destination, red :: green :: blue :: alpha :: source =>
    (e.recolour ⟨red, green, blue, alpha⟩).samples ++ paintRow e destination source
  | destination, _ => destination

/-- Destination samples painted in rows of `size` samples. -/
def paintChunks (e : Expression) (size : Nat) (destination source : List UInt8) : List UInt8 :=
  if size = 0 ∨ destination = [] then destination
  else
    paintRow e (destination.take size) (source.take size)
      ++ paintChunks e size (destination.drop size) (source.drop size)
termination_by destination.length
decreasing_by
  rename_i h
  have := List.length_pos_iff.mpr (not_or.mp h).2
  have := Nat.pos_of_ne_zero (not_or.mp h).1
  simp only [List.length_drop]
  omega

theorem length_paintRow (e : Expression) (destination source : List UInt8) :
  (paintRow e destination source).length = destination.length
  := by
  fun_induction paintRow e destination source with
  | case1 _ _ _ _ _ _ _ _ _ _ ih =>
    simp only [List.length_append, ih, Pixel.samples, List.length_cons, List.length_nil]
    omega
  | case2 => rfl

theorem length_paintChunks (e : Expression) (size : Nat) (destination source : List UInt8) :
  (paintChunks e size destination source).length = destination.length
  := by
  fun_induction paintChunks e size destination source with
  | case1 => rfl
  | case2 _ _ _ ih =>
    simp only [List.length_append, length_paintRow, ih, List.length_take, List.length_drop]
    omega

/-- Paint an expression row by row. The answer comes with the destination as it is
afterwards. -/
def paintRows (e : Expression) (source destination : Image) : Except Error Unit × Image :=
  match sizeFault? source destination with
  | some fault => (.error fault, destination)
  | none =>
    (.ok (), { destination with
      samples := (paintChunks e (4 * source.width) destination.samples.toList
        source.samples.toList).toArray
      size_samples := by simp [length_paintChunks, destination.size_samples] })

/-- Paint an expression, by rows or by single pixels. -/
def paint (byRows : Bool) (e : Expression) (source destination : Image) :
    Except Error Unit × Image :=
  if byRows then paintRows e source destination else paintPixels e source destination

end Recolour.Image
