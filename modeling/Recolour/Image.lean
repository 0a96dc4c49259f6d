import Recolour.Pixel

/-!
# Images

An image is a rectangle of pixels, held as one array of samples: row after row from the top,
pixel after pixel from the left, and the four samples of a pixel in plane order.  Width and
height may be zero.
-/

namespace Recolour

/-- A rectangle of pixels. -/
structure Image where
  width : Nat
  height : Nat
  samples : Array UInt8
  size_samples : samples.size = 4 * (width * height)

namespace Image

/-- The image of the given size with all samples zero. -/
def blank (width height : Nat) : Image where
  width
  height
  samples := Array.replicate (4 * (width * height)) 0
  size_samples := Array.size_replicate

/-- The image with the given samples, if their number fits its size. -/
def ofSamples? (width height : Nat) (samples : Array UInt8) : Option Image :=
  if h : samples.size = 4 * (width * height) then some ⟨width, height, samples, h⟩ else none

/-- The position in the array of the first sample of a pixel. -/
def offset (image : Image) (x y : Nat) : Nat :=
  4 * (y * image.width + x)

/-- The pixel in column `x` and row `y`. -/
def get (image : Image) (x y : Nat) : Pixel :=
  let i := image.offset x y
  ⟨image.samples.getD i 0, image.samples.getD (i + 1) 0, image.samples.getD (i + 2) 0,
    image.samples.getD (i + 3) 0⟩

/-- The image with the pixel in column `x` and row `y` replaced. -/
def set (image : Image) (x y : Nat) (p : Pixel) : Image :=
  let i := image.offset x y
  { image with
    samples := (((image.samples.setIfInBounds i p.red).setIfInBounds (i + 1) p.green).setIfInBounds
      (i + 2) p.blue).setIfInBounds (i + 3) p.alpha
    size_samples := by simp [image.size_samples] }

/-- The pixels of an image in reading order. -/
def pixels (image : Image) : List Pixel :=
  (List.range image.height).flatMap fun y => (List.range image.width).map fun x => image.get x y

end Image

end Recolour
