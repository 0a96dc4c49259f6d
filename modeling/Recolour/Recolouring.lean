import Recolour.Pixel.Metrics
import Recolour.Rounding
import Recolour.Rule

/-!
# Recolouring a pixel

A match rule accepts a pixel when each of its channels accepts the sample of its plane.  An
expression recolours the pixels its match rule accepts: every plane is produced from the
source pixel, never from a plane already produced.  Arithmetic stops at 0 and at 255.
-/

namespace Recolour

/-- The number accepts a sample. Arithmetic has no meaning here and counts as equality. -/
def Number.accepts (n : Number) (sample : UInt8) : Bool :=
  match n.operator with
  | .less => sample < n.value
  | .lessEq => sample ≤ n.value
  | .greater => sample > n.value
  | .greaterEq => sample ≥ n.value
  | .none | .add | .sub => sample == n.value

/-- The channel accepts a sample. A reference has no meaning here and accepts all. -/
def Channel.accepts (c : Channel) (sample : UInt8) : Bool :=
  match c with
  | .wildcard | .named _ => true
  | .number n => n.accepts sample

/-- Every channel of the rule accepts the sample of its plane. -/
def Rule.accepts (r : Rule) (p : Pixel) : Bool :=
  r.red.accepts p.red && r.green.accepts p.green && r.blue.accepts p.blue
    && r.alpha.accepts p.alpha

/-- The value of a reference for a pixel with the given metrics. -/
def Reference.value (reference : Reference) (p : Pixel) (metrics : Metrics) : UInt8 :=
  match reference with
  | .red => p.red
  | .green => p.green
  | .blue => p.blue
  | .alpha => p.alpha
  | .average => metrics.average
  | .lightness => metrics.lightness
  | .luminosity => metrics.luminosity
  | .mean => metrics.mean

/-- The sum of two samples, at most 255. -/
def addSaturating (s t : UInt8) : UInt8 :=
  UInt8.ofNat (min 255 (s.toNat + t.toNat))

/-- The difference of two samples, at least 0. -/
def subSaturating (s t : UInt8) : UInt8 :=
  UInt8.ofNat (s.toNat - t.toNat)

/-- A percentage of a sample, taken in floating point from left to right, rounded to the
nearest whole number with a half going up, and at most 255. -/
def percentOf (sample percent : UInt8) : UInt8 :=
  UInt8.ofNat (min 255 (nearestNat (sample.toFloat * 0.01 * percent.toFloat)))

/-- The amount a number stands for when it is applied to a sample. -/
def Number.amount (n : Number) (sample : UInt8) : UInt8 :=
  if n.percentage then percentOf sample n.value else n.value

/-- The sample a number produces from a sample. Comparisons have no meaning here and count as
no operator. -/
def Number.produce (n : Number) (sample : UInt8) : UInt8 :=
  match n.operator with
  | .add => addSaturating sample (n.amount sample)
  | .sub => subSaturating sample (n.amount sample)
  | _ => n.amount sample

/-- The sample a channel produces in a plane where the source pixel has `sample`. -/
def Channel.produce (c : Channel) (sample : UInt8) (p : Pixel) (metrics : Metrics) : UInt8 :=
  match c with
  | .wildcard => sample
  | .named reference => reference.value p metrics
  | .number n => n.produce sample

/-- The pixel a rule produces from a pixel with the given metrics. -/
def Rule.produce (r : Rule) (p : Pixel) (metrics : Metrics) : Pixel where
  red := r.red.produce p.red p metrics
  green := r.green.produce p.green p metrics
  blue := r.blue.produce p.blue p metrics
  alpha := r.alpha.produce p.alpha p metrics

/-- The pixel an expression makes of a pixel: itself if the match rule does not accept it,
else what the produce rule makes of it. The metrics are computed only for a rule that reads
one. -/
def Expression.recolour (e : Expression) (p : Pixel) : Pixel :=
  if e.filter.accepts p then
    e.formula.produce p (if e.formula.needsMetrics then Metrics.of p else Metrics.zero)
  else p

end Recolour
