import Recolour.Pixel

/-!
# Linear light and luminosity

An eight-bit sample stands for an amount of light on the sRGB curve, which is linear near
black and a power above.  `linearize` gives the amount of light of a sample, between 0 and 1,
and `encodeLinear` the sample nearest to an amount.  The luminosity of a pixel is the sample
for the weighted sum of the light of its three colours: weighing the samples themselves
would be off by up to a fifth.
-/

namespace Recolour

/-- The amount of light a sample stands for. -/
def linearize (sample : UInt8) : Float :=
  let v := sample.toFloat / 255.0
  if v ≤ 0.04045 then v * (1.0 / 12.92)
  else Float.pow (v * (1.0 / 1.055) + 0.055 / 1.055) 2.4

/-- The nearest sample for an amount of light; what lies outside 0 to 1 goes to the nearer
end, and no amount at all to 0. -/
def encodeLinear (light : Float) : UInt8 :=
  let v := if light < 0.0 then 0.0 else if light > 1.0 then 1.0 else light
  let encoded :=
    if v ≤ 0.0031308 then 12.92 * v
    else Float.pow v (1.0 / 2.4) * 1.055 - 0.055
  (encoded * 255.0 + 0.5).toUInt8

/-- The light of red in the luminosity. -/
def redWeight : Float := 0.212655

/-- The light of green in the luminosity. -/
def greenWeight : Float := 0.715158

/-- The light of blue in the luminosity. -/
def blueWeight : Float := 0.072187

/-- The sample for the weighted light of the three colours. -/
def Pixel.luminosity (p : Pixel) : UInt8 :=
  encodeLinear (redWeight * linearize p.red + greenWeight * linearize p.green
    + blueWeight * linearize p.blue)

end Recolour
