import Recolour.Proofs.Metrics
import Recolour.Proofs.Percentage
import Recolour.Proofs.Reading.RoundTrip
import Recolour.Proofs.Running

/-!
# Brighter images stay brighter

Pixels and images of one size are ordered sample by sample.  Whatever a channel produces it
produces monotonically, as long as it does not read the luminosity, which no token names.  So a
program that recolours every pixel keeps the order of two images.

The case with an argument in it is a sample less a percentage of itself.  Below one hundred per
cent a share grows by no more than the sample does, since it is a whole number nearest to the
exact one.  From one hundred per cent on nothing is left of the sample.
-/

namespace Recolour

/-! ### Shares -/

section

variable {s t v : Nat}

theorem computedShare_mono (hle : s ≤ t) (ht : t < 256) (hv : v < 256) :
  computedShare s v ≤ computedShare t v
  := by
  obtain ⟨-, hhigh⟩ := computedShare_bounds (Nat.lt_of_le_of_lt hle ht) hv
  obtain ⟨hlow, -⟩ := computedShare_bounds ht hv
  obtain rfl | hlt := Nat.eq_or_lt_of_le hle
  · apply Nat.le_refl
  · obtain rfl | hpos := Nat.eq_zero_or_pos v
    · omega
    · have hproduct : s * v < t * v := Nat.mul_lt_mul_of_pos_right hlt hpos
      omega

/-- From one hundred per cent on, the share of a sample is no less than the sample. -/
theorem le_computedShare (hs : s < 256) (hv : v < 256) (hlarge : 100 ≤ v) :
  s ≤ computedShare s v
  := by
  obtain ⟨hlow, -⟩ := computedShare_bounds hs hv
  have hproduct : s * 100 ≤ s * v := Nat.mul_le_mul_left s hlarge
  omega

/-- Below one hundred per cent, a share grows by no more than the sample. -/
theorem computedShare_add_le {d : Nat} (ht : s + d < 256) (hsmall : v < 100) :
  computedShare (s + d) v ≤ computedShare s v + d
  := by
  have hv : v < 256 := Nat.lt_trans hsmall (by decide)
  obtain ⟨hlow, -⟩ := computedShare_bounds (Nat.lt_of_le_of_lt (Nat.le_add_right s d) ht) hv
  obtain ⟨-, hhigh⟩ := computedShare_bounds ht hv
  have hproduct : d * v ≤ d * 99 := Nat.mul_le_mul_left d (Nat.le_of_lt_succ hsmall)
  rw [Nat.add_mul] at hhigh
  obtain rfl | hpos := Nat.eq_zero_or_pos d
  · rw [Nat.add_zero, Nat.add_zero]
  · omega

/-- What is left of a sample without a share of it is monotone in the sample. -/
theorem sub_computedShare_mono (hle : s ≤ t) (ht : t < 256) (hv : v < 256) :
  s - computedShare s v ≤ t - computedShare t v
  := by
  obtain hsmall | hlarge := Nat.lt_or_ge v 100
  · obtain ⟨d, rfl⟩ := Nat.exists_eq_add_of_le hle
    have hgrowth := computedShare_add_le ht hsmall
    omega
  · have hnothing := le_computedShare (Nat.lt_of_le_of_lt hle ht) hv hlarge
    omega

end

/-! ### Numbers -/

theorem Operator.applyTo_mono (operator : Operator) {s t amount amount' : Nat} (hsample : s ≤ t)
    (hamount : amount ≤ amount') (hrest : s - amount ≤ t - amount') :
  operator.applyTo s amount ≤ operator.applyTo t amount'
  := by
  cases operator <;> simp only [applyTo] <;> omega

namespace Number

variable (n : Number)

/-- The amount a number stands for before it is cut down to a sample. -/
def share (sample : Nat) : Nat :=
  if n.percentage then computedShare sample n.value.toNat else n.value.toNat

theorem toNat_produce_eq_applyTo_share (sample : UInt8) :
  (n.produce sample).toNat = n.operator.applyTo sample.toNat (n.share sample.toNat)
  := by
  have hamount : (n.amount sample).toNat = min 255 (n.share sample.toNat) := by
    rw [amount, share]
    split
    · apply toNat_percentOf_eq_min
    · apply (Nat.min_eq_right (Nat.le_of_lt_succ n.value.toNat_lt)).symm
  rw [toNat_produce_eq_applyTo, hamount,
    Operator.applyTo_min _ (Nat.le_of_lt_succ sample.toNat_lt)]

theorem produce_mono {s t : UInt8} (h : s ≤ t) :
  n.produce s ≤ n.produce t
  := by
  have hle := UInt8.le_iff_toNat_le.mp h
  have ht := t.toNat_lt
  have hv := n.value.toNat_lt
  rw [UInt8.le_iff_toNat_le, toNat_produce_eq_applyTo_share, toNat_produce_eq_applyTo_share]
  apply Operator.applyTo_mono _ hle
  · rw [share, share]
    split
    · apply computedShare_mono hle ht hv
    · apply Nat.le_refl
  · rw [share, share]
    split
    · apply sub_computedShare_mono hle ht hv
    · apply Nat.sub_le_sub_right hle

theorem le_produce {n : Number} (h : n.operator = .add) (sample : UInt8) :
  sample ≤ n.produce sample
  := by
  have hsample := sample.toNat_lt
  rw [UInt8.le_iff_toNat_le, toNat_produce_eq_applyTo, h, Operator.applyTo]
  omega

theorem produce_le {n : Number} (h : n.operator = .sub) (sample : UInt8) :
  n.produce sample ≤ sample
  := by
  rw [UInt8.le_iff_toNat_le, toNat_produce_eq_applyTo, h, Operator.applyTo]
  apply Nat.sub_le

end Number

/-! ### Pixels -/

/-- Pixels are ordered sample by sample. -/
instance : LE Pixel where
  le p q := ∀ plane, p.get plane ≤ q.get plane

theorem Pixel.le_iff {p q : Pixel} :
  p ≤ q ↔ ∀ plane ∈ Plane.all, p.get plane ≤ q.get plane
  := by
  simp only [Plane.mem_all, forall_const]
  rfl

instance (p q : Pixel) : Decidable (p ≤ q) :=
  decidable_of_iff' _ Pixel.le_iff

theorem Reference.value_mono {reference : Reference} (href : reference ≠ .luminosity)
    {p q : Pixel} (h : p ≤ q) :
  reference.value p (Metrics.of p) ≤ reference.value q (Metrics.of q)
  := by
  have hred := UInt8.le_iff_toNat_le.mp (h .red)
  have hgreen := UInt8.le_iff_toNat_le.mp (h .green)
  have hblue := UInt8.le_iff_toNat_le.mp (h .blue)
  simp only [Pixel.get] at hred hgreen hblue
  rw [UInt8.le_iff_toNat_le]
  cases reference with
  | red => apply hred
  | green => apply hgreen
  | blue => apply hblue
  | alpha => apply UInt8.le_iff_toNat_le.mp (h .alpha)
  | average =>
    simp only [value, Metrics.toNat_average_of]
    omega
  | lightness =>
    simp only [value, Metrics.toNat_lightness_of]
    omega
  | luminosity => apply absurd rfl href
  | mean =>
    simp only [value, Metrics.toNat_mean_of]
    omega

theorem Channel.produce_mono {c : Channel} (hc : c ≠ .named .luminosity) {p q : Pixel}
    (h : p ≤ q) (plane : Plane) :
  c.produce (p.get plane) p (Metrics.of p) ≤ c.produce (q.get plane) q (Metrics.of q)
  := by
  cases c with
  | wildcard => apply h plane
  | named reference =>
    apply Reference.value_mono _ h
    rintro rfl
    apply hc rfl
  | number n => apply n.produce_mono (h plane)

namespace Expression

variable {e : Expression} {p q : Pixel}

theorem recolour_mono (hfilter : e.filter = .wildcard)
    (hformula : ∀ plane, e.formula.get plane ≠ .named .luminosity) (h : p ≤ q) :
  e.recolour p ≤ e.recolour q
  := by
  have haccepts : ∀ p, e.filter.accepts p = true := by
    rw [hfilter]
    intro p
    rfl
  intro plane
  rw [get_recolour_eq_ite, get_recolour_eq_ite, if_pos (haccepts p), if_pos (haccepts q)]
  apply Channel.produce_mono (hformula plane) h

theorem recolourAll_mono {steps : List Expression} (hfilter : ∀ e ∈ steps, e.filter = .wildcard)
    (hformula : ∀ e ∈ steps, ∀ plane, e.formula.get plane ≠ .named .luminosity) (h : p ≤ q) :
  recolourAll steps p ≤ recolourAll steps q
  := by
  induction steps generalizing p q with
  | nil => apply h
  | cons e steps ih =>
    rw [List.forall_mem_cons] at hfilter hformula
    apply ih hfilter.2 hformula.2 (recolour_mono hfilter.1 hformula.1 h)

/-- Adding never darkens a sample, be the pixel accepted or not. -/
theorem le_get_recolour {plane : Plane} {n : Number} (hnumber : e.formula.get plane = .number n)
    (hadd : n.operator = .add) :
  p.get plane ≤ (e.recolour p).get plane
  := by
  rw [get_recolour_eq_ite, hnumber]
  split
  · apply n.le_produce hadd
  · apply UInt8.le_refl

/-- Subtracting never brightens a sample, be the pixel accepted or not. -/
theorem get_recolour_le {plane : Plane} {n : Number} (hnumber : e.formula.get plane = .number n)
    (hsub : n.operator = .sub) :
  (e.recolour p).get plane ≤ p.get plane
  := by
  rw [get_recolour_eq_ite, hnumber]
  split
  · apply n.produce_le hsub
  · apply UInt8.le_refl

end Expression

/-! ### Images -/

/-- Images of one size are ordered sample by sample. -/
instance : LE Image where
  le image other := image.SameSize other
    ∧ ∀ x < image.width, ∀ y < image.height, image.get x y ≤ other.get x y

instance (image other : Image) : Decidable (image ≤ other) :=
  inferInstanceAs (Decidable (_ ∧ _))

theorem Image.map_mono {f : Pixel → Pixel} (hf : ∀ {p q}, p ≤ q → f p ≤ f q) {image other : Image}
    (h : image ≤ other) :
  image.map f ≤ other.map f
  := by
  obtain ⟨⟨hwidth, hheight⟩, hpixels⟩ := h
  refine ⟨⟨hwidth, hheight⟩, ?_⟩
  intro x hx y hy
  rw [get_map f image hx hy, get_map f other (hwidth ▸ hx) (hheight ▸ hy)]
  apply hf (hpixels x hx y hy)

/-! ### Runs -/

/-- A channel that is read is not the luminosity. -/
theorem Expression.HasTokens.get_formula_ne {e : Expression} (h : e.HasTokens) (plane : Plane) :
  e.formula.get plane ≠ .named .luminosity
  := by
  have hmem : e.formula.get plane ∈ e.formula.channels := by
    cases plane <;> simp [Rule.get, Rule.channels]
  apply h _ (List.mem_append_right _ hmem) .luminosity (by decide)

/-- If every expression of a text recolours every pixel, then the run on a brighter image ends
with the brighter image.  In each step of any run, what is added to a sample does not darken it
and what is subtracted does not brighten it. -/
theorem Program.run_mono (source text : String) :
  ((∀ e ∈ (parse source text).expressions, e.filter = .wildcard) →
      ∀ image other : Image, image ≤ other → ∀ byRows byRows',
        ∃ x y, (parse source text).run byRows image = .ok x
          ∧ (parse source text).run byRows' other = .ok y ∧ x.image ≤ y.image)
    ∧ ∀ (byRows : Bool) (e : Expression) (buffers : Buffers),
      buffers.scratch.SameSize buffers.current →
      ∃ next, buffers.step byRows e = .ok next ∧ next.current.SameSize buffers.current
        ∧ ∀ i < buffers.current.width, ∀ j < buffers.current.height, ∀ plane n,
          e.formula.get plane = .number n →
            (n.operator = .add →
              (buffers.current.get i j).get plane ≤ (next.current.get i j).get plane)
            ∧ (n.operator = .sub →
              (next.current.get i j).get plane ≤ (buffers.current.get i j).get plane)
  := by
  constructor
  · intro hfilter image other hle byRows byRows'
    obtain ⟨x, hx, himage, -⟩ := exists_run byRows (parse source text) image
    obtain ⟨y, hy, hother, -⟩ := exists_run byRows' (parse source text) other
    have hformula : ∀ e ∈ (parse source text).expressions, ∀ plane,
        e.formula.get plane ≠ .named .luminosity :=
      fun e he => (Expression.HasTokens.of_mem_parse he).get_formula_ne
    use x, y, hx, hy
    rw [himage, hother]
    apply Image.map_mono (Expression.recolourAll_mono hfilter hformula) hle
  · intro byRows e buffers hsize
    obtain ⟨next, hstep, hcurrent⟩ := buffers.exists_step byRows e hsize
    use next, hstep
    rw [hcurrent]
    use Image.sameSize_map _ _
    intro i hi j hj plane n hnumber
    rw [Image.get_map _ _ hi hj]
    exact ⟨Expression.le_get_recolour hnumber, Expression.get_recolour_le hnumber⟩

/-- Two lines with all kinds of channels on two images of two pixels, and a step that adds to
red and subtracts more than there is from blue. -/
theorem Program.run_mono_two_lines :
  (∃ x y, (parse "m" "? ? ? ?  +50% -30% #m 99\n? ? ? ?  130% ? -7 #g").run true
        ⟨1, 2, #[1, 2, 3, 4, 200, 100, 0, 5], rfl⟩ = .ok x
      ∧ (parse "m" "? ? ? ?  +50% -30% #m 99\n? ? ? ?  130% ? -7 #g").run false
        ⟨1, 2, #[1, 3, 9, 4, 255, 101, 0, 8], rfl⟩ = .ok y ∧ x.image ≤ y.image)
    ∧ ∃ next, (Buffers.ofImage ⟨1, 1, #[1, 2, 3, 4], rfl⟩).step true
        ⟨.wildcard, ⟨.number ⟨.add, 50, true⟩, .wildcard, .number ⟨.sub, 200, true⟩, .wildcard⟩⟩
          = .ok next
      ∧ 1 ≤ (next.current.get 0 0).red ∧ (next.current.get 0 0).blue ≤ 3
  := by
  obtain ⟨hrun, hstep⟩ := Program.run_mono "m"
    "? ? ? ?  +50% -30% #m 99\n? ? ? ?  130% ? -7 #g"
  constructor
  · apply hrun (by decide +kernel) _ _ (by decide +kernel)
  · obtain ⟨next, hnext, -, hget⟩ := hstep true
      ⟨.wildcard, ⟨.number ⟨.add, 50, true⟩, .wildcard, .number ⟨.sub, 200, true⟩, .wildcard⟩⟩
      (Buffers.ofImage ⟨1, 1, #[1, 2, 3, 4], rfl⟩) ⟨rfl, rfl⟩
    use next, hnext
    constructor
    · apply (hget 0 (by decide) 0 (by decide) .red _ rfl).1 rfl
    · apply (hget 0 (by decide) 0 (by decide) .blue _ rfl).2 rfl

end Recolour
