/-!
# Pixels

A pixel holds four samples of eight bits: red, green, blue and alpha.  A `Plane` names one
of the four, in images as in rules, and `Plane.all` lists them in the order R, G, B, A.
-/

namespace Recolour

/-- One of the four sample planes of an image. -/
inductive Plane where
  | red
  | green
  | blue
  | alpha
  deriving DecidableEq

namespace Plane

/-- The planes in their fixed order. -/
def all : List Plane := [.red, .green, .blue, .alpha]

/-- The letter by which messages name a plane. -/
def letter : Plane → String
  | .red => "R"
  | .green => "G"
  | .blue => "B"
  | .alpha => "A"

end Plane

/-- A colour with its opacity, eight bits a sample. -/
structure Pixel where
  red : UInt8
  green : UInt8
  blue : UInt8
  alpha : UInt8
  deriving DecidableEq

namespace Pixel

/-- The sample of a pixel in a plane. -/
def get (p : Pixel) : Plane → UInt8
  | .red => p.red
  | .green => p.green
  | .blue => p.blue
  | .alpha => p.alpha

/-- The pixel with the sample `f i` in every plane `i`. -/
def ofPlanes (f : Plane → UInt8) : Pixel :=
  ⟨f .red, f .green, f .blue, f .alpha⟩

/-- The four samples in plane order. -/
def samples (p : Pixel) : List UInt8 :=
  [p.red, p.green, p.blue, p.alpha]

/-- The opaque pixel of a colour. -/
def rgb (red green blue : UInt8) : Pixel :=
  ⟨red, green, blue, 255⟩

/-- The pixel all of whose samples are zero. -/
def transparent : Pixel := ⟨0, 0, 0, 0⟩

/-- Opaque black. -/
def black : Pixel := rgb 0 0 0

/-- Opaque white. -/
def white : Pixel := rgb 255 255 255

instance : Inhabited Pixel := ⟨transparent⟩

/-- The smallest of the three colour samples. -/
def least (p : Pixel) : UInt8 :=
  min (min p.red p.green) p.blue

/-- The largest of the three colour samples. -/
def greatest (p : Pixel) : UInt8 :=
  max (max p.red p.green) p.blue

end Pixel

end Recolour
