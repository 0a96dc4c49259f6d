import Recolour.Pixel.Transfer

/-!
# Gray metrics

The metrics of a pixel are the gray values a rule may refer to: the average of its colours,
the midpoint of the smallest and the largest, and the luminosity.  Sums are taken in sixteen
bits, where three samples and the rounding term always fit.
-/

namespace Recolour

/-- The gray values of a pixel. -/
structure Metrics where
  /-- The average of the three colours, rounded to nearest. -/
  average : UInt8
  /-- The midpoint of the smallest and the largest colour, a half rounded up. -/
  lightness : UInt8
  /-- The sample for the weighted light of the three colours. -/
  luminosity : UInt8
  /-- The average again, under the name by which tokens reach it. -/
  mean : UInt8
  deriving DecidableEq

namespace Metrics

/-- The metrics that stand in where none is read. -/
def zero : Metrics := ⟨0, 0, 0, 0⟩

/-- The metrics of a pixel. A third part of a whole number is never half way between two
others, so adding one before dividing rounds the average to nearest. -/
def of (p : Pixel) : Metrics :=
  let average := ((p.red.toUInt16 + p.green.toUInt16 + p.blue.toUInt16 + 1) / 3).toUInt8
  { average
    lightness := ((p.least.toUInt16 + p.greatest.toUInt16 + 1) / 2).toUInt8
    luminosity := p.luminosity
    mean := average }

end Metrics

end Recolour
