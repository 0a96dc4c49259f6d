import Recolour.Pixel

/-!
# Samples of opaque images

An image without alpha is a list of gray values, or of colours by three samples each.
-/

namespace Recolour.Plain

/-- The gray value of a pixel: its samples weighed in hundred-millionths by the luminance of
the three primaries, and the nearest whole number to the sum. -/
def luma (p : Pixel) : UInt8 :=
  UInt8.ofNat ((21264781 * p.red.toNat + 71517915 * p.green.toNat + 7217304 * p.blue.toNat
    + 50000000) / 100000000)

/-- The samples of the opaque pixels that gray values make. -/
def graySamples (samples : List UInt8) : List UInt8 :=
  samples.flatMap fun s => [s, s, s, 255]

/-- The samples of the opaque pixels that colours make. -/
def colorSamples : List UInt8 → List UInt8
  | red :: green :: blue :: rest => red :: green :: blue :: 255 :: colorSamples rest
  | _ => []

end Recolour.Plain
