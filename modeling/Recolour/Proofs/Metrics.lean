import Recolour.Pixel.Metrics

/-!
# Metrics as whole numbers

The sums of a metric fit in sixteen bits and the metric in eight, so the average and the
lightness are the quotients that their definitions spell, with nothing lost on the way.
-/

namespace Recolour

/-! ### The smallest and the largest colour -/

theorem toNat_min (s t : UInt8) :
  (min s t).toNat = min s.toNat t.toNat
  := by
  change (if s ≤ t then s else t).toNat = _
  split
  · rename_i h
    rw [UInt8.le_iff_toNat_le] at h
    omega
  · rename_i h
    rw [UInt8.le_iff_toNat_le] at h
    omega

theorem toNat_max (s t : UInt8) :
  (max s t).toNat = max s.toNat t.toNat
  := by
  change (if s ≤ t then t else s).toNat = _
  split
  · rename_i h
    rw [UInt8.le_iff_toNat_le] at h
    omega
  · rename_i h
    rw [UInt8.le_iff_toNat_le] at h
    omega

theorem Pixel.toNat_least (p : Pixel) :
  p.least.toNat = min (min p.red.toNat p.green.toNat) p.blue.toNat
  := by
  rw [least, toNat_min, toNat_min]

theorem Pixel.toNat_greatest (p : Pixel) :
  p.greatest.toNat = max (max p.red.toNat p.green.toNat) p.blue.toNat
  := by
  rw [greatest, toNat_max, toNat_max]

/-! ### The metrics -/

namespace Metrics

theorem toNat_average_of (p : Pixel) :
  (of p).average.toNat = (p.red.toNat + p.green.toNat + p.blue.toNat + 1) / 3
  := by
  have hred := p.red.toNat_lt
  have hgreen := p.green.toNat_lt
  have hblue := p.blue.toNat_lt
  simp [of]
  omega

theorem toNat_mean_of (p : Pixel) :
  (of p).mean.toNat = (p.red.toNat + p.green.toNat + p.blue.toNat + 1) / 3
  := toNat_average_of p

theorem toNat_lightness_of (p : Pixel) :
  (of p).lightness.toNat
    = (min (min p.red.toNat p.green.toNat) p.blue.toNat
      + max (max p.red.toNat p.green.toNat) p.blue.toNat + 1) / 2
  := by
  have hleast := p.least.toNat_lt
  have hgreatest := p.greatest.toNat_lt
  rw [← p.toNat_least, ← p.toNat_greatest]
  simp [of]
  omega

end Metrics

end Recolour
