import Mathlib.Algebra.Order.Round
import Mathlib.Data.Rat.Floor
import Mathlib.Tactic.Linarith
import Recolour.Proofs.Metrics
import Recolour.Proofs.Thresholding

/-!
# Grays from means

Three presets make a pixel gray by a mean of its colours: two by their average, one by the midpoint
of the smallest and the largest.  Both means are the exact ones, rounded to a whole number.  They
lie between the colours, do not depend on their order and keep a gray as it is.  So each of these
presets has nothing left to change in what it made itself, and does not tell images apart whose
pixels have the same colours in another order.
-/

namespace Recolour

/-! ### Nearest whole numbers -/

/-- No other whole number is as near to `x` as `m` is. -/
def IsNearest (x : ℚ) (m : ℤ) : Prop :=
  ∀ n : ℤ, n ≠ m → |x - m| < |x - n|

theorem isNearest_of_abs_lt {x : ℚ} {m : ℤ} (h : |x - m| < 1 / 2) :
  IsNearest x m
  := by
  intro n hn
  have hapart : (1 : ℚ) ≤ |(n : ℚ) - m| := by
    exact_mod_cast Int.one_le_abs (sub_ne_zero.mpr hn)
  have htriangle := abs_sub_le (n : ℚ) x m
  rw [abs_sub_comm (n : ℚ) x] at htriangle
  linarith

theorem isNearest_third {n m : ℕ} (hlow : 3 * m ≤ n + 1) (hhigh : n ≤ 3 * m + 1) :
  IsNearest ((n : ℚ) / 3) m
  := by
  have hlow : 3 * (m : ℚ) ≤ n + 1 := by exact_mod_cast hlow
  have hhigh : (n : ℚ) ≤ 3 * m + 1 := by exact_mod_cast hhigh
  apply isNearest_of_abs_lt
  rw [Int.cast_natCast, abs_lt]
  constructor
  · linarith
  · linarith

theorem round_div_two (n : ℕ) :
  round ((n : ℚ) / 2) = ((n + 1) / 2 : ℕ)
  := by
  rw [round_eq, ← add_div]
  exact_mod_cast Rat.floor_natCast_div_natCast (n + 1) 2

/-! ### The colours of a pixel -/

namespace Pixel

variable {p q : Pixel} {s : UInt8}

/-- The three colours of a pixel. -/
def colors (p : Pixel) : List UInt8 :=
  [p.red, p.green, p.blue]

theorem sum_colors (p : Pixel) :
  (p.colors.map UInt8.toNat).sum = p.red.toNat + p.green.toNat + p.blue.toNat
  := by
  simp only [colors, List.map_cons, List.map_nil, List.sum_cons, List.sum_nil]
  omega

theorem le_least_iff :
  s ≤ p.least ↔ ∀ color ∈ p.colors, s ≤ color
  := by
  simp only [colors, List.forall_mem_cons, List.not_mem_nil, false_implies, implies_true, and_true,
    UInt8.le_iff_toNat_le, toNat_least]
  omega

theorem greatest_le_iff :
  p.greatest ≤ s ↔ ∀ color ∈ p.colors, color ≤ s
  := by
  simp only [colors, List.forall_mem_cons, List.not_mem_nil, false_implies, implies_true, and_true,
    UInt8.le_iff_toNat_le, toNat_greatest]
  omega

/-- The pixels have the same colours, perhaps in another order, and one alpha. -/
def SameColors (p q : Pixel) : Prop :=
  p.colors.Perm q.colors ∧ p.alpha = q.alpha

instance (p q : Pixel) : Decidable (p.SameColors q) :=
  inferInstanceAs (Decidable (_ ∧ _))

theorem least_congr (h : p.colors.Perm q.colors) :
  p.least = q.least
  := by
  have hiff : ∀ s, s ≤ p.least ↔ s ≤ q.least := by
    intro s
    simp only [le_least_iff, h.mem_iff]
  apply UInt8.le_antisymm
  · apply (hiff _).mp (UInt8.le_refl _)
  · apply (hiff _).mpr (UInt8.le_refl _)

theorem greatest_congr (h : p.colors.Perm q.colors) :
  p.greatest = q.greatest
  := by
  have hiff : ∀ s, p.greatest ≤ s ↔ q.greatest ≤ s := by
    intro s
    simp only [greatest_le_iff, h.mem_iff]
  apply UInt8.le_antisymm
  · apply (hiff _).mpr (UInt8.le_refl _)
  · apply (hiff _).mp (UInt8.le_refl _)

end Pixel

/-! ### The two means -/

namespace Metrics

variable {p q : Pixel}

/-- The means of a pixel are what they are for whole numbers, with nothing lost in words of sixteen
or of eight bits, and they lie between the smallest and the largest colour. -/
structure AreMeans (p : Pixel) : Prop where
  sum : (p.red.toUInt16 + p.green.toUInt16 + p.blue.toUInt16 + 1).toNat =
    p.red.toNat + p.green.toNat + p.blue.toNat + 1
  average : (of p).average.toNat = (p.red.toNat + p.green.toNat + p.blue.toNat + 1) / 3
  average_nearest : IsNearest ((p.red.toNat + p.green.toNat + p.blue.toNat : ℕ) / 3)
    (of p).average.toNat
  average_between : p.least ≤ (of p).average ∧ (of p).average ≤ p.greatest
  ends : (p.least.toUInt16 + p.greatest.toUInt16 + 1).toNat =
    p.least.toNat + p.greatest.toNat + 1
  lightness : (of p).lightness.toNat = (p.least.toNat + p.greatest.toNat + 1) / 2
  lightness_round : (of p).lightness.toNat =
    round (((p.least.toNat + p.greatest.toNat : ℕ) : ℚ) / 2)
  lightness_between : p.least ≤ (of p).lightness ∧ (of p).lightness ≤ p.greatest

theorem areMeans (p : Pixel) :
  AreMeans p
  := by
  have hred := p.red.toNat_lt
  have hgreen := p.green.toNat_lt
  have hblue := p.blue.toNat_lt
  have hleast := p.least.toNat_lt
  have hgreatest := p.greatest.toNat_lt
  have haverage := toNat_average_of p
  have hlightness : (of p).lightness.toNat = (p.least.toNat + p.greatest.toNat + 1) / 2 := by
    rw [toNat_lightness_of, Pixel.toNat_least, Pixel.toNat_greatest]
  constructor
  case sum =>
    simp
    omega
  case average => apply haverage
  case average_nearest =>
    apply isNearest_third
    · omega
    · omega
  case average_between =>
    simp only [UInt8.le_iff_toNat_le, haverage, Pixel.toNat_least, Pixel.toNat_greatest]
    omega
  case ends =>
    simp
    omega
  case lightness => apply hlightness
  case lightness_round => rw [round_div_two, hlightness]
  case lightness_between =>
    simp only [UInt8.le_iff_toNat_le, hlightness]
    simp only [Pixel.toNat_least, Pixel.toNat_greatest]
    omega

theorem average_congr (h : p.colors.Perm q.colors) :
  (of p).average = (of q).average
  := by
  rw [← UInt8.toNat_inj, toNat_average_of, toNat_average_of, ← p.sum_colors, ← q.sum_colors,
    (h.map UInt8.toNat).sum_eq]

theorem lightness_congr (h : p.colors.Perm q.colors) :
  (of p).lightness = (of q).lightness
  := by
  rw [← UInt8.toNat_inj, (areMeans p).lightness, (areMeans q).lightness, Pixel.least_congr h,
    Pixel.greatest_congr h]

theorem average_withGray (p : Pixel) (gray : UInt8) :
  (of (p.withGray gray)).average = gray
  := by
  rw [← UInt8.toNat_inj, toNat_average_of, Pixel.withGray]
  simp only
  omega

theorem lightness_withGray (p : Pixel) (gray : UInt8) :
  (of (p.withGray gray)).lightness = gray
  := by
  rw [← UInt8.toNat_inj, toNat_lightness_of, Pixel.withGray]
  simp only
  omega

end Metrics

/-! ### Gray passes -/

/-- The references to a mean of the colours. -/
def Reference.means : List Reference := [.average, .lightness, .mean]

namespace Reference

variable {reference : Reference} {p q : Pixel}

/-- The mean of a gray is the gray. -/
theorem value_withGray (href : reference ∈ means) (gray : UInt8) :
  reference.value (p.withGray gray) (Metrics.of (p.withGray gray)) = gray
  := by
  simp only [means, List.mem_cons, List.not_mem_nil, or_false] at href
  obtain rfl | rfl | rfl := href
  · apply Metrics.average_withGray
  · apply Metrics.lightness_withGray
  · apply Metrics.average_withGray

/-- A mean does not depend on the order of the colours. -/
theorem value_congr (href : reference ∈ means) (h : p.colors.Perm q.colors) :
  reference.value p (Metrics.of p) = reference.value q (Metrics.of q)
  := by
  simp only [means, List.mem_cons, List.not_mem_nil, or_false] at href
  obtain rfl | rfl | rfl := href
  · apply Metrics.average_congr h
  · apply Metrics.lightness_congr h
  · apply Metrics.average_congr h

end Reference

/-- The images have one size and at each place pixels with the same colours, perhaps in another
order, and one alpha. -/
def Image.SameColors (image other : Image) : Prop :=
  image.SameSize other
    ∧ ∀ x < image.width, ∀ y < image.height, (image.get x y).SameColors (other.get x y)

instance (image other : Image) : Decidable (image.SameColors other) :=
  inferInstanceAs (Decidable (_ ∧ _))

theorem Image.map_congr_sameColors {f : Pixel → Pixel} (hf : ∀ {p q}, p.SameColors q → f p = f q)
    {image other : Image} (h : image.SameColors other) :
  image.map f = other.map f
  := by
  obtain ⟨hsize, hpixels⟩ := h
  apply ext_get
  · exact ⟨hsize.1, hsize.2⟩
  · intro x hx y hy
    rw [get_map f image hx hy, get_map f other (hsize.1 ▸ hx) (hsize.2 ▸ hy)]
    apply hf (hpixels x hx y hy)

namespace Preset

variable {metric : Reference}

/-- What a single gray pass makes of an image. -/
def grayed (metric : Reference) (image : Image) : Image :=
  image.map fun p => p.withGray (metric.value p (Metrics.of p))

theorem run_grayOf (metric : Reference) (source : String) (byRows : Bool) (image : Image) :
  (Program.ofExpressions source [grayOf metric]).run byRows image =
    .ok ⟨grayed metric image, 1, 0, []⟩
  := by
  rw [Program.run_eq_execution, Program.execution_ofExpressions, ← Expression.recolourAllBy_of]
  rfl

theorem grayed_grayed (hmetric : metric ∈ Reference.means) (image : Image) :
  grayed metric (grayed metric image) = grayed metric image
  := by
  rw [grayed, grayed, Image.map_map]
  congr 1
  funext p
  rw [Reference.value_withGray hmetric]
  rfl

theorem grayed_congr (hmetric : metric ∈ Reference.means) {image other : Image}
    (h : image.SameColors other) :
  grayed metric image = grayed metric other
  := by
  apply Image.map_congr_sameColors _ h
  rintro p q ⟨hcolors, halpha⟩
  rw [Reference.value_congr hmetric hcolors, Pixel.withGray, Pixel.withGray, halpha]

/-- The presets for grays from means are exact: each makes every pixel the gray of its mean, with
the pixel's own alpha, and the two for the average make the same of every image.  Each of them
makes the same again of what it has made, and the same of every image with the colours of the
pixels in another order. -/
theorem grays_project :
  ∃ average lightness mean, builtin? "grayscale-average" = some average
    ∧ builtin? "grayscale-lightness" = some lightness ∧ builtin? "grayscale-mean" = some mean
    ∧ (∀ p : Pixel, Metrics.AreMeans p)
    ∧ (∀ byRows image,
      average.program.run byRows image = .ok
          ⟨image.map fun p =>
            ⟨(Metrics.of p).average, (Metrics.of p).average, (Metrics.of p).average, p.alpha⟩,
            1, 0, []⟩
        ∧ mean.program.run byRows image = average.program.run byRows image
        ∧ lightness.program.run byRows image = .ok
          ⟨image.map fun p =>
            ⟨(Metrics.of p).lightness, (Metrics.of p).lightness, (Metrics.of p).lightness, p.alpha⟩,
            1, 0, []⟩)
    ∧ ∀ preset ∈ [average, lightness, mean], ∀ byRows image,
      ∃ x, preset.program.run byRows image = .ok x ∧ ∀ byRows',
        preset.program.run byRows' x.image = .ok x
          ∧ ∀ other, image.SameColors other → preset.program.run byRows' other = .ok x
  := by
  use builtins[1], builtins[2], builtins[3], rfl, rfl, rfl, Metrics.areMeans
  constructor
  · intro byRows image
    use run_grayOf .average _ byRows image
    constructor
    · apply (run_grayOf .mean _ byRows image).trans
      symm
      apply run_grayOf .average _ byRows image
    · apply run_grayOf .lightness _ byRows image
  · intro preset hpreset byRows image
    have hgray : ∃ metric ∈ Reference.means, preset.expressions = [grayOf metric] := by
      simp only [List.mem_cons, List.not_mem_nil, or_false] at hpreset
      obtain rfl | rfl | rfl := hpreset
      · exact ⟨.average, by decide, rfl⟩
      · exact ⟨.lightness, by decide, rfl⟩
      · exact ⟨.mean, by decide, rfl⟩
    obtain ⟨metric, hmetric, hexpressions⟩ := hgray
    rw [program, hexpressions]
    use ⟨grayed metric image, 1, 0, []⟩, run_grayOf metric _ byRows image
    intro byRows'
    constructor
    · rw [run_grayOf, grayed_grayed hmetric]
    · intro other hother
      rw [run_grayOf, grayed_congr hmetric hother]

/-- Two pixels and the same with their colours in another order. -/
theorem grays_project_two_pixels :
  ∃ lightness x, builtin? "grayscale-lightness" = some lightness
    ∧ Image.SameColors ⟨2, 1, #[0, 255, 2, 7, 10, 20, 31, 0], rfl⟩
      ⟨2, 1, #[255, 2, 0, 7, 31, 10, 20, 0], rfl⟩
    ∧ lightness.program.run true ⟨2, 1, #[0, 255, 2, 7, 10, 20, 31, 0], rfl⟩ = .ok x
    ∧ lightness.program.run false ⟨2, 1, #[255, 2, 0, 7, 31, 10, 20, 0], rfl⟩ = .ok x
    ∧ x.image.get 0 0 = ⟨128, 128, 128, 7⟩ ∧ x.image.get 1 0 = ⟨21, 21, 21, 0⟩
  := by
  obtain ⟨_, lightness, _, -, hlightness, -, -, hrun, hproject⟩ := grays_project
  have hcolors : Image.SameColors ⟨2, 1, #[0, 255, 2, 7, 10, 20, 31, 0], rfl⟩
      ⟨2, 1, #[255, 2, 0, 7, 31, 10, 20, 0], rfl⟩ := by
    decide
  obtain ⟨x, hx, hagain⟩ := hproject lightness (by simp) true
    ⟨2, 1, #[0, 255, 2, 7, 10, 20, 31, 0], rfl⟩
  use lightness, x, hlightness, hcolors, hx, (hagain false).2 _ hcolors
  obtain rfl := Except.ok.inj ((hrun _ _).2.2.symm.trans hx)
  constructor
  · decide +kernel
  · decide +kernel

end Preset

end Recolour
