import Recolour.Proofs.Assembly
import Recolour.Proofs.Recolouring

/-!
# Black and white

The preset for black and white measures the light of a pixel once.  It makes the pixel gray, with
its luminosity as red, and then makes the dark grays black and the light ones white by comparing red
with 128.  Black is not light and white is not dark, so neither comparison catches what the other
one has made.  All this holds whatever the luminosity is: `Expression.recolourBy` takes the metrics
of pixels from any measure.
-/

namespace Recolour

variable {measure : Pixel → Metrics} {p : Pixel}

/-! ### Other measures -/

namespace Expression

/-- The pixel an expression makes of a pixel if the metrics of pixels are those of a measure. -/
def recolourBy (measure : Pixel → Metrics) (e : Expression) (p : Pixel) : Pixel :=
  if e.filter.accepts p then e.formula.produce p (measure p) else p

theorem recolourBy_of :
  recolourBy Metrics.of = recolour
  := by
  funext e p
  apply Pixel.ext_get
  intro plane
  rw [get_recolour_eq_ite, recolourBy]
  split
  · apply Rule.get_produce
  · rfl

/-- A pixel recoloured by some expressions, the first one first, under a measure. -/
def recolourAllBy (measure : Pixel → Metrics) (steps : List Expression) (p : Pixel) : Pixel :=
  steps.foldl (fun q e => e.recolourBy measure q) p

theorem recolourAllBy_of :
  recolourAllBy Metrics.of = recolourAll
  := by
  funext steps p
  rw [recolourAllBy, recolourBy_of, recolourAll]

end Expression

/-! ### Grays -/

/-- The pixel with one sample for its three colours. -/
def Pixel.withGray (p : Pixel) (gray : UInt8) : Pixel :=
  ⟨gray, gray, gray, p.alpha⟩

namespace Preset

/-- A gray pass puts the metric in the place of the three colours. -/
theorem recolourBy_grayOf (metric : Reference) :
  (grayOf metric).recolourBy measure p = p.withGray (metric.value p (measure p))
  := rfl

/-- A threshold asks for red alone. -/
theorem accepts_threshold (operator : Operator) (value : UInt8) :
  (threshold operator value).filter.accepts p = Number.accepts ⟨operator, 128, false⟩ p.red
  := by
  simp only [Rule.accepts, threshold, Channel.accepts, Bool.and_true]

theorem recolourBy_threshold (operator : Operator) (value gray : UInt8) :
  (threshold operator value).recolourBy measure (p.withGray gray) =
    p.withGray (if Number.accepts ⟨operator, 128, false⟩ gray then value else gray)
  := by
  rw [Expression.recolourBy, accepts_threshold, Pixel.withGray]
  split
  · rfl
  · rfl

/-- The three passes decide by the luminosity of the pixel they start from. -/
theorem recolourAllBy_blackWhite :
  Expression.recolourAllBy measure
      [grayOf .luminosity, threshold .less 0, threshold .greaterEq 255] p =
    p.withGray (if 128 ≤ (measure p).luminosity then 255 else 0)
  := by
  simp only [Expression.recolourAllBy, List.foldl_cons, List.foldl_nil, recolourBy_grayOf,
    recolourBy_threshold]
  rw [Reference.value]
  congr 1
  by_cases hlight : 128 ≤ (measure p).luminosity
  · have hdark : ¬(measure p).luminosity < 128 := UInt8.not_lt.mpr hlight
    simp [Number.accepts, hlight, hdark]
  · have hdark : (measure p).luminosity < 128 := UInt8.not_le.mp hlight
    simp [Number.accepts, hlight, hdark]

/-- A threshold catches nothing that another one has made of what it caught. -/
theorem not_accepts_recolourBy_threshold {operator other : Operator} {value : UInt8}
    (h : Number.accepts ⟨other, 128, false⟩ value = false) (gray : UInt8) :
  ¬((threshold operator value).filter.accepts p = true
    ∧ (threshold other gray).filter.accepts
      ((threshold operator value).recolourBy measure p) = true)
  := by
  rintro ⟨hcaught, hagain⟩
  rw [Expression.recolourBy, if_pos hcaught, accepts_threshold] at hagain
  exact absurd hagain (Bool.eq_false_iff.mp h)

end Preset

/-! ### Images -/

namespace Program

variable {source : String} {expressions : List Expression}

theorem exists_outcome_of_mem_ofExpressions {line : Line}
    (h : line ∈ (ofExpressions source expressions).lines) :
  ∃ e, line.outcome = .expression e
  := by
  obtain ⟨⟨e, number⟩, -, rfl⟩ := List.mem_map.mp h
  use e

/-- A program of expressions applies all of them and has no other lines. -/
theorem execution_ofExpressions (image : Image) :
  (ofExpressions source expressions).execution image =
    ⟨image.map (Expression.recolourAll expressions), expressions.length, 0, []⟩
  := by
  have happlied : (ofExpressions source expressions).lines.countP
      (fun line => line.expression?.isSome) = expressions.length := by
    rw [← List.length_filterMap_eq_countP, ← Program.expressions, expressions_ofExpressions]
  have hskipped : (ofExpressions source expressions).lines.countP Line.isSkipped = 0 := by
    rw [List.countP_eq_zero]
    intro line hline
    obtain ⟨e, he⟩ := exists_outcome_of_mem_ofExpressions hline
    simp [Line.isSkipped, he]
  have hrejected : (ofExpressions source expressions).rejected = [] := by
    rw [rejected, List.filter_eq_nil_iff]
    intro line hline
    obtain ⟨e, he⟩ := exists_outcome_of_mem_ofExpressions hline
    simp [Line.error?, he]
  rw [execution, expressions_ofExpressions, happlied, hskipped, hrejected]

end Program

/-- The preset for black and white applies three expressions and makes a pixel white if its
luminosity is 128 or more, and black if it is less, with its own alpha.  It would do so with any
other measure for the metrics of pixels, and what one of its thresholds has caught is not caught by
the other one. -/
theorem Preset.blackWhite_thresholds :
  ∃ preset gray dark light, builtin? "black-white" = some preset
    ∧ preset.expressions = [gray, dark, light]
    ∧ (∀ byRows image, preset.program.run byRows image = .ok
      ⟨image.map fun p => if 128 ≤ (Metrics.of p).luminosity then ⟨255, 255, 255, p.alpha⟩
        else ⟨0, 0, 0, p.alpha⟩, 3, 0, []⟩)
    ∧ Expression.recolourBy Metrics.of = Expression.recolour
    ∧ ∀ (measure : Pixel → Metrics) (p : Pixel),
      Expression.recolourAllBy measure preset.expressions p =
          (if 128 ≤ (measure p).luminosity then ⟨255, 255, 255, p.alpha⟩ else ⟨0, 0, 0, p.alpha⟩)
        ∧ ¬(dark.filter.accepts p ∧ light.filter.accepts (dark.recolourBy measure p))
        ∧ ¬(light.filter.accepts p ∧ dark.filter.accepts (light.recolourBy measure p))
  := by
  have hpixel : ∀ (measure : Pixel → Metrics) p,
      Expression.recolourAllBy measure builtins[4].expressions p =
        if 128 ≤ (measure p).luminosity then ⟨255, 255, 255, p.alpha⟩ else ⟨0, 0, 0, p.alpha⟩ := by
    intro measure p
    apply recolourAllBy_blackWhite.trans
    split
    · rfl
    · rfl
  use builtins[4], grayOf .luminosity, threshold .less 0, threshold .greaterEq 255, rfl, rfl
  refine ⟨?_, Expression.recolourBy_of, ?_⟩
  · intro byRows image
    rw [Program.run_eq_execution, program, Program.execution_ofExpressions,
      ← Expression.recolourAllBy_of, funext (hpixel Metrics.of)]
    rfl
  · intro measure p
    use hpixel measure p
    constructor
    · apply not_accepts_recolourBy_threshold rfl
    · apply not_accepts_recolourBy_threshold rfl

end Recolour
