import Recolour.Proofs.Legality
import Recolour.Proofs.Image
import Recolour.Recolouring

/-!
# Recolouring plane by plane

A rule accepts a pixel when it does so in every plane, and what it produces in a plane depends
on the channel of that plane and on the source pixel alone.  The metrics of the pixel are left
out where no channel reads one.  `Expression.evaluate` leaves nothing out, and recolours every
pixel alike.
-/

namespace Recolour

namespace Rule

/-! ### Planes -/

theorem accepts_eq_all (r : Rule) (p : Pixel) :
  r.accepts p = Plane.all.all fun plane => (r.get plane).accepts (p.get plane)
  := by
  simp only [accepts, Plane.all, List.all_cons, List.all_nil, Bool.and_true, Bool.and_assoc]
  rfl

theorem accepts_iff {r : Rule} {p : Pixel} :
  r.accepts p = true ↔ ∀ plane, (r.get plane).accepts (p.get plane) = true
  := by
  simp only [accepts_eq_all, List.all_eq_true, Plane.mem_all, forall_const]

theorem get_produce (r : Rule) (p : Pixel) (metrics : Metrics) (plane : Plane) :
  (r.produce p metrics).get plane = (r.get plane).produce (p.get plane) p metrics
  := by
  cases plane <;> rfl

theorem needsMetrics_iff {r : Rule} :
  r.needsMetrics = true ↔ ∃ plane, (r.get plane).needsMetrics = true
  := by
  simp only [needsMetrics, channels, List.any_cons, List.any_nil, Bool.or_false, Bool.or_eq_true]
  constructor
  · rintro (hred | hgreen | hblue | halpha)
    · use .red, hred
    · use .green, hgreen
    · use .blue, hblue
    · use .alpha, halpha
  · rintro ⟨plane, h⟩
    cases plane with
    | red => exact .inl h
    | green => exact .inr (.inl h)
    | blue => exact .inr (.inr (.inl h))
    | alpha => exact .inr (.inr (.inr h))

end Rule

theorem Pixel.get_ofPlanes (f : Plane → UInt8) (plane : Plane) :
  (ofPlanes f).get plane = f plane
  := by
  cases plane <;> rfl

/-! ### Metrics -/

/-- A channel needs the metrics exactly if they can make a difference to what it produces. -/
theorem Channel.needsMetrics_iff {c : Channel} :
  c.needsMetrics = true ↔
    ∃ sample p metrics metrics', c.produce sample p metrics ≠ c.produce sample p metrics'
  := by
  constructor
  · intro h
    use 0, .black, .zero, ⟨1, 1, 1, 1⟩
    cases c with
    | wildcard => cases h
    | number n => cases h
    | named reference =>
      revert h
      cases reference <;> decide
  · rintro ⟨sample, p, metrics, metrics', hdiffer⟩
    cases c with
    | wildcard => exact absurd rfl hdiffer
    | number n => exact absurd rfl hdiffer
    | named reference =>
      cases reference with
      | red => exact absurd rfl hdiffer
      | green => exact absurd rfl hdiffer
      | blue => exact absurd rfl hdiffer
      | alpha => exact absurd rfl hdiffer
      | average => rfl
      | lightness => rfl
      | luminosity => rfl
      | mean => rfl

/-- Any metrics do for a rule that needs none. -/
theorem Rule.produce_congr {r : Rule} (h : r.needsMetrics = false) (p : Pixel)
    (metrics metrics' : Metrics) :
  r.produce p metrics = r.produce p metrics'
  := by
  apply Pixel.ext_get
  intro plane
  rw [get_produce, get_produce]
  apply Decidable.byContradiction
  intro hdiffer
  have hneeds : r.needsMetrics = true :=
    needsMetrics_iff.mpr ⟨plane, Channel.needsMetrics_iff.mpr ⟨_, _, _, _, hdiffer⟩⟩
  simp [h] at hneeds

/-! ### Expressions -/

namespace Expression

/-- The pixel an expression makes of a pixel, with nothing left out: the pixel itself if some
channel of the match rule does not accept its sample, else what the channels of the produce
rule make of the pixel and of all its metrics. -/
def evaluate (e : Expression) (p : Pixel) : Pixel :=
  if Plane.all.any fun plane => !(e.filter.get plane).accepts (p.get plane) then p
  else .ofPlanes fun plane => (e.formula.get plane).produce (p.get plane) p (Metrics.of p)

theorem get_recolour_eq_ite (e : Expression) (p : Pixel) (plane : Plane) :
  (e.recolour p).get plane
    = if e.filter.accepts p then (e.formula.get plane).produce (p.get plane) p (Metrics.of p)
      else p.get plane
  := by
  rw [recolour]
  split
  · rw [← Rule.get_produce]
    cases hneeds : e.formula.needsMetrics with
    | true => rfl
    | false => rw [Rule.produce_congr hneeds _ _ (Metrics.of p)]
  · rfl

theorem get_evaluate (e : Expression) (p : Pixel) (plane : Plane) :
  (e.evaluate p).get plane
    = if e.filter.accepts p then (e.formula.get plane).produce (p.get plane) p (Metrics.of p)
      else p.get plane
  := by
  rw [evaluate, ← List.not_all_eq_any_not, ← Rule.accepts_eq_all]
  cases e.filter.accepts p with
  | true => apply Pixel.get_ofPlanes
  | false => rfl

/-- Leaving out the metrics makes no difference, and what a pixel becomes in a plane is the same
whatever the expression makes of it in the other planes. -/
theorem recolour_eq_evaluate (e : Expression) (p : Pixel) :
  e.recolour p = e.evaluate p
    ∧ ∀ (formula : Rule) (plane : Plane), formula.get plane = e.formula.get plane →
      ((Expression.mk e.filter formula).recolour p).get plane = (e.recolour p).get plane
  := by
  constructor
  · apply Pixel.ext_get
    intro plane
    rw [get_recolour_eq_ite, get_evaluate]
  · intro formula plane hchannel
    rw [get_recolour_eq_ite, get_recolour_eq_ite, hchannel]

/-- Red and blue change places with the mean of the source pixel between them, and red becomes
the same if nothing is made of blue. -/
theorem recolour_swapped :
  (Expression.mk .wildcard ⟨.named .blue, .named .mean, .named .red, .wildcard⟩).evaluate
      ⟨1, 2, 60, 4⟩ = ⟨60, 21, 1, 4⟩
    ∧ ((Expression.mk .wildcard ⟨.named .blue, .wildcard, .wildcard, .wildcard⟩).recolour
      ⟨1, 2, 60, 4⟩).red = 60
  := by
  obtain ⟨hequal, hplane⟩ := recolour_eq_evaluate
    ⟨.wildcard, ⟨.named .blue, .named .mean, .named .red, .wildcard⟩⟩ ⟨1, 2, 60, 4⟩
  constructor
  · rw [← hequal]
    rfl
  · apply (hplane ⟨.named .blue, .wildcard, .wildcard, .wildcard⟩ .red rfl).trans
    rfl

end Expression

end Recolour
