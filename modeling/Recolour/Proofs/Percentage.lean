import Recolour.Proofs.Doubles
import Recolour.Proofs.Legality
import Recolour.Proofs.Recolouring

/-!
# Percentages

A percentage of a sample is meant to be rounded half up.  It is computed in doubles, with a
product by the double nearest to one hundredth, so it is rounded twice before it is rounded to
a whole number.  The error stays far below a hundredth, hence only a share half way between two
whole numbers can go wrong.  Seven of these ties do, and come out lower by one: `lowered` lists
them, and `Expression.recolour_percentage` says what becomes of a sample in any case.
-/

namespace Recolour

/-! ### The computed percentage -/

/-- One hundredth of a sample as it is computed, in units of `2 ^ -59`. -/
def hundredths (sample : Nat) : Nat :=
  roundSignificand (sample * hundredth)

/-- A percentage of a sample as it is computed, in units of `2 ^ -59`. -/
def scaled (sample percent : Nat) : Nat :=
  roundSignificand (hundredths sample * percent)

/-- The amount the specification asks for: the percentage of a sample, rounded half up. -/
def exactShare (sample percent : Nat) : Nat :=
  (2 * (sample * percent) + 100) / 200

section

variable {sample percent : UInt8}

theorem two_pow_le_hundredths (h : 0 < sample.toNat) :
  2 ^ 52 ≤ sample.toNat * hundredth ∧ 2 ^ 52 ≤ hundredths sample.toNat
    ∧ hundredths sample.toNat < 2 ^ 62
  := by
  have hlt := sample.toNat_lt
  have hlarge : 1 * 2 ^ 52 ≤ sample.toNat * hundredth := by
    rw [hundredth]
    omega
  have hrounded := le_roundSignificand hlarge (by decide) hlarge
  have herror := (roundSignificand_bounds (sample.toNat * hundredth)).2
  rw [← hundredths, hundredth] at herror
  refine ⟨hlarge, hrounded, ?_⟩
  omega

theorem denotes_hundredths (h : 0 < sample.toNat) :
  Denotes (sample.toFloat * 0.01) (hundredths sample.toNat * 2 ^ 52) (-111)
  := by
  have hlt := sample.toNat_lt
  obtain ⟨hlarge, -⟩ := two_pow_le_hundredths h
  have hbound : sample.toNat * 2 ^ 52 * hundredth < 2 ^ 900 := by
    rw [hundredth]
    omega
  rw [hundredths, ← roundSignificand_mul_two_pow hlarge, Nat.mul_right_comm]
  apply (denotes_toFloat h).mul denotes_hundredth (by decide) (by decide) hbound

theorem denotes_scaled (hsample : 0 < sample.toNat) (hpercent : 0 < percent.toNat) :
  Denotes (sample.toFloat * 0.01 * percent.toFloat)
    (scaled sample.toNat percent.toNat * 2 ^ 104) (-163)
  := by
  have hlt := percent.toNat_lt
  obtain ⟨-, hlow, hhigh⟩ := two_pow_le_hundredths hsample
  have hlarge : 2 ^ 52 ≤ hundredths sample.toNat * percent.toNat :=
    Nat.le_trans hlow (Nat.le_mul_of_pos_right _ hpercent)
  have hregroup : hundredths sample.toNat * 2 ^ 52 * (percent.toNat * 2 ^ 52)
      = hundredths sample.toNat * percent.toNat * 2 ^ 104 := by
    ring
  have hbound : hundredths sample.toNat * percent.toNat * 2 ^ 104 < 2 ^ 900 := by
    have hproduct := Nat.mul_lt_mul_of_lt_of_lt hhigh hlt
    omega
  rw [scaled, ← roundSignificand_mul_two_pow hlarge, ← hregroup]
  apply (denotes_hundredths hsample).mul (denotes_toFloat hpercent) (by decide) (by decide)
  rw [hregroup]
  apply hbound

/-- The percentage of a sample is computed by rounding twice to 53 bits. -/
theorem nearestNat_product (sample percent : UInt8) :
  nearestNat (sample.toFloat * 0.01 * percent.toFloat)
    = (2 * scaled sample.toNat percent.toNat + 2 ^ 59) / 2 ^ 60
  := by
  have hzero : nearestNat (0 : UInt8).toFloat = (2 * 0 + 2 ^ 59) / 2 ^ 60 := rfl
  obtain hsample | hsample := Nat.eq_zero_or_pos sample.toNat
  · obtain rfl := UInt8.toNat_inj.mp (hsample.trans UInt8.toNat_zero.symm)
    rw [denotes_hundredth.zero_mul, zero_mul_toFloat, hzero, scaled, hundredths, hsample,
      Nat.zero_mul, roundSignificand_zero, Nat.zero_mul, roundSignificand_zero]
  · obtain hpercent | hpercent := Nat.eq_zero_or_pos percent.toNat
    · obtain rfl := UInt8.toNat_inj.mp (hpercent.trans UInt8.toNat_zero.symm)
      rw [(denotes_hundredths hsample).mul_zero, hzero, hpercent, scaled,
        Nat.mul_zero (hundredths sample.toNat), roundSignificand_zero]
    · rw [(denotes_scaled hsample hpercent).nearestNat_eq (t := 163)]
      omega

/-- The computed percentage of a sample, rounded half up. -/
def computedShare (sample percent : Nat) : Nat :=
  (2 * scaled sample percent + 2 ^ 59) / 2 ^ 60

theorem toNat_percentOf_eq_min (sample percent : UInt8) :
  (percentOf sample percent).toNat = min 255 (computedShare sample.toNat percent.toNat)
  := by
  have hbyte : min 255 (computedShare sample.toNat percent.toNat) < 256 := by omega
  rw [percentOf, nearestNat_product, ← computedShare, UInt8.toNat_ofNat_of_lt' hbyte]

end

/-! ### Where the computed percentage is exact -/

/-- The pairs of a sample and a percentage whose exact share lies half way between two whole
numbers and is computed to be less. -/
def lowered : List (Nat × Nat) :=
  [(29, 50), (58, 25), (205, 30), (205, 50), (205, 90), (205, 110), (207, 50)]

variable {c v : Nat}

/-- The computed percentage is off by far less than the hundredth of a unit. -/
theorem scaled_bounds (hc : c < 256) (hv : v < 256) :
  c * v * 2 ^ 59 ≤ 100 * scaled c v + 2 ^ 24 ∧ 100 * scaled c v ≤ c * v * 2 ^ 59 + 2 ^ 24
  := by
  obtain ⟨hlow, hhigh⟩ := roundSignificand_bounds (c * hundredth)
  obtain ⟨hlow', hhigh'⟩ := roundSignificand_bounds (hundredths c * v)
  rw [← hundredths] at hlow hhigh
  rw [← scaled] at hlow' hhigh'
  have hproduct : c * v ≤ 255 * 255 := Nat.mul_le_mul (Nat.le_of_lt_succ hc) (Nat.le_of_lt_succ hv)
  have hlowScaled := Nat.mul_le_mul_right v hlow
  have hhighScaled := Nat.mul_le_mul_right v hhigh
  have hregroup : c * hundredth * v = c * v * 5764607523034235 := by
    rw [hundredth]
    ring
  simp only [Nat.add_mul, Nat.mul_assoc (2 ^ 53), hregroup] at hlowScaled hhighScaled
  omega

/-- The computed share is a whole number nearest to the exact percentage. -/
theorem computedShare_bounds (hc : c < 256) (hv : v < 256) :
  c * v ≤ 100 * computedShare c v + 50 ∧ 100 * computedShare c v ≤ c * v + 50
  := by
  obtain ⟨hlow, hhigh⟩ := scaled_bounds hc hv
  rw [computedShare]
  omega

/-- Only what lies half way between two whole numbers can be rounded to the wrong one. -/
theorem computedShare_eq (hc : c < 256) (hv : v < 256) :
  computedShare c v
    = exactShare c v - if c * v % 100 = 50 ∧ 100 * scaled c v < c * v * 2 ^ 59 then 1 else 0
  := by
  obtain ⟨hlow, hhigh⟩ := scaled_bounds hc hv
  rw [exactShare, computedShare]
  generalize c * v = product at *
  generalize scaled c v = computed at *
  obtain ⟨whole, rest, hrest, rfl⟩ : ∃ whole rest, rest < 100 ∧ product = 100 * whole + rest :=
    ⟨_, _, Nat.mod_lt product (by decide), (Nat.div_add_mod product 100).symm⟩
  obtain hbelow | rfl | habove := Nat.lt_trichotomy rest 50
  · have hexact : (2 * (100 * whole + rest) + 100) / 200 = whole := by omega
    have hcomputed : (2 * computed + 2 ^ 59) / 2 ^ 60 = whole := by omega
    rw [if_neg (by omega), hexact, hcomputed, Nat.sub_zero]
  · have hexact : (2 * (100 * whole + 50) + 100) / 200 = whole + 1 := by omega
    by_cases hlost : 100 * computed < (100 * whole + 50) * 2 ^ 59
    · have hcomputed : (2 * computed + 2 ^ 59) / 2 ^ 60 = whole := by omega
      rw [if_pos ⟨by omega, hlost⟩, hexact, hcomputed, Nat.add_sub_cancel]
    · have hcomputed : (2 * computed + 2 ^ 59) / 2 ^ 60 = whole + 1 := by omega
      rw [if_neg fun h => hlost h.2, hexact, hcomputed, Nat.sub_zero]
  · have hexact : (2 * (100 * whole + rest) + 100) / 200 = whole + 1 := by omega
    have hcomputed : (2 * computed + 2 ^ 59) / 2 ^ 60 = whole + 1 := by omega
    rw [if_neg (by omega), hexact, hcomputed, Nat.sub_zero]

/-- A tie is kept for the samples whose computed hundredth is not below the exact one. -/
theorem tie_kept (hc : c < 256) (hv : v < 256) (htie : c * v % 100 = 50)
    (h : c * 2 ^ 59 ≤ 100 * hundredths c) :
  c * v * 2 ^ 59 ≤ 100 * scaled c v
  := by
  have hproduct : c * v ≤ 255 * 255 := Nat.mul_le_mul (Nat.le_of_lt_succ hc) (Nat.le_of_lt_succ hv)
  have hscaled := Nat.mul_le_mul_right v h
  rw [Nat.mul_right_comm, Nat.mul_assoc 100] at hscaled
  rw [scaled]
  generalize c * v = product at *
  generalize hundredths c * v = n at *
  obtain ⟨t, rfl⟩ : ∃ t, product = 50 * t := ⟨product / 50, by omega⟩
  have hregroup : 50 * t * 2 ^ 59 = 100 * (t * 2 ^ 58) := by ring
  rw [hregroup] at hscaled ⊢
  have hhalf : t * 2 ^ 58 ≤ n := Nat.le_of_mul_le_mul_left hscaled (by decide)
  have hfew : t < 2 ^ 53 := by omega
  have hlarge : 2 ^ 52 ≤ n := by omega
  apply Nat.mul_le_mul_left 100 (le_roundSignificand hlarge hfew hhalf)

/-- A percentage has a tie with the sample only if it is a multiple of this. -/
def tieStep (sample : Nat) : Nat :=
  50 / Nat.gcd sample 50

theorem tieStep_dvd (htie : c * v % 100 = 50) :
  tieStep c ∣ v
  := by
  have hfifty : 50 ∣ c * v := by omega
  have hgcd := Nat.dvd_gcd hfifty (Nat.dvd_mul_right 50 v)
  rw [Nat.gcd_mul_right] at hgcd
  have hpos : 0 < Nat.gcd c 50 := Nat.gcd_pos_of_pos_right c (by decide)
  apply (Nat.div_dvd_iff_dvd_mul (Nat.gcd_dvd_right c 50) hpos).mpr hgcd

/-- Below 256 all ties are kept but the lowered ones. -/
theorem ties_kept :
  ∀ c ∈ List.range 256, 100 * hundredths c < c * 2 ^ 59
    → ∀ i ∈ List.range (255 / tieStep c + 1), c * (tieStep c * i) % 100 = 50
    → c * (tieStep c * i) ≤ 25450 → (c, tieStep c * i) ∉ lowered
    → c * (tieStep c * i) * 2 ^ 59 ≤ 100 * scaled c (tieStep c * i)
  := by
  decide +kernel

theorem ties_lowered :
  ∀ pair ∈ lowered, pair.1 * pair.2 % 100 = 50
    ∧ 100 * scaled pair.1 pair.2 < pair.1 * pair.2 * 2 ^ 59
  := by
  decide +kernel

theorem lost_iff (hc : c < 256) (hv : v < 256) (hle : c * v ≤ 25450) :
  c * v % 100 = 50 ∧ 100 * scaled c v < c * v * 2 ^ 59 ↔ (c, v) ∈ lowered
  := by
  constructor
  · rintro ⟨htie, hlost⟩
    have hlost := Nat.not_le.mpr hlost
    by_contra hmem
    by_cases hkept : c * 2 ^ 59 ≤ 100 * hundredths c
    · apply hlost (tie_kept hc hv htie hkept)
    · obtain ⟨i, rfl⟩ := tieStep_dvd htie
      have hpos : 0 < tieStep c := Nat.pos_of_ne_zero fun h => by simp [h] at htie
      have hi : i < 255 / tieStep c + 1 := by
        rw [Nat.lt_succ_iff, Nat.le_div_iff_mul_le hpos, Nat.mul_comm]
        apply Nat.le_of_lt_succ hv
      apply hlost (ties_kept c (List.mem_range.mpr hc) (Nat.not_le.mp hkept) i
        (List.mem_range.mpr hi) htie hle hmem)
  · intro hmem
    apply ties_lowered _ hmem

/-- The computed share of a sample is the exact one, less one for the lowered pairs. -/
theorem toNat_percentOf (sample percent : UInt8) :
  (percentOf sample percent).toNat
    = min 255 (exactShare sample.toNat percent.toNat
      - if (sample.toNat, percent.toNat) ∈ lowered then 1 else 0)
  := by
  have hc := sample.toNat_lt
  have hv := percent.toNat_lt
  rw [toNat_percentOf_eq_min, computedShare_eq hc hv]
  by_cases hle : sample.toNat * percent.toNat ≤ 25450
  · simp only [lost_iff hc hv hle]
  · have hsmall : ∀ pair ∈ lowered, pair.1 * pair.2 ≤ 25450 := by decide
    have hmem : (sample.toNat, percent.toNat) ∉ lowered := fun h => hle (hsmall _ h)
    rw [if_neg hmem, exactShare]
    split <;> omega

/-! ### What percentages produce -/

/-- The operator applied to a sample and an amount, stopping at 0 and at 255. -/
def Operator.applyTo : Operator → Nat → Nat → Nat
  | .add, sample, amount => min 255 (sample + amount)
  | .sub, sample, amount => sample - amount
  | _, _, amount => min 255 amount

/-- The pairs of a sample and a percentage for which the operator shows a lowered share. The
others are hidden by the bounds of a sample. -/
def Operator.misses : Operator → List (Nat × Nat)
  | .add => [(29, 50), (58, 25)]
  | .sub => [(29, 50), (58, 25), (205, 30), (205, 50), (205, 90), (207, 50)]
  | _ => lowered

theorem Operator.applyTo_min (operator : Operator) {sample : Nat} (h : sample ≤ 255)
    (amount : Nat) :
  operator.applyTo sample (min 255 amount) = operator.applyTo sample amount
  := by
  cases operator <;> simp only [applyTo] <;> omega

/-- A number applies its operator to the sample and to the amount that it stands for. -/
theorem Number.toNat_produce_eq_applyTo (n : Number) (sample : UInt8) :
  (n.produce sample).toNat = n.operator.applyTo sample.toNat (n.amount sample).toNat
  := by
  have hsample := sample.toNat_lt
  have hamount := (n.amount sample).toNat_lt
  have hadd : min 255 (sample.toNat + (n.amount sample).toNat) < 256 := by omega
  have hsub : sample.toNat - (n.amount sample).toNat < 256 := by omega
  rw [produce]
  cases n.operator <;> simp only [addSaturating, subSaturating, Operator.applyTo,
    UInt8.toNat_ofNat_of_lt' hadd, UInt8.toNat_ofNat_of_lt' hsub] <;> omega

theorem Number.toNat_produce {n : Number} (h : n.percentage = true) (sample : UInt8) :
  (n.produce sample).toNat
    = n.operator.applyTo sample.toNat (exactShare sample.toNat n.value.toNat
      - if (sample.toNat, n.value.toNat) ∈ lowered then 1 else 0)
  := by
  rw [toNat_produce_eq_applyTo, amount, if_pos h, toNat_percentOf,
    Operator.applyTo_min _ (Nat.le_of_lt_succ sample.toNat_lt)]

theorem Operator.applyTo_lowered_iff (operator : Operator) :
  ∀ pair ∈ lowered, operator.applyTo pair.1 (exactShare pair.1 pair.2 - 1)
      = operator.applyTo pair.1 (exactShare pair.1 pair.2)
    ↔ pair ∉ operator.misses
  := by
  cases operator <;> decide

theorem Operator.misses_subset (operator : Operator) :
  operator.misses ⊆ lowered
  := by
  cases operator <;> decide

theorem Expression.get_recolour {e : Expression} {p : Pixel} (h : e.filter.accepts p = true)
    {plane : Plane} {n : Number} (hnumber : e.formula.get plane = .number n) :
  (e.recolour p).get plane = n.produce (p.get plane)
  := by
  rw [get_recolour_eq_ite, if_pos h, hnumber, Channel.produce]

/-- What a percentage makes of a sample: the operator applied to the exact share, less one for
the lowered pairs.  So it is what the exact share gives unless the operator shows that the
share is lowered. -/
theorem Expression.recolour_percentage {e : Expression} {p : Pixel} {plane : Plane} {n : Number}
    (haccepts : e.filter.accepts p = true) (hnumber : e.formula.get plane = .number n)
    (hpercentage : n.percentage = true) :
  ((e.recolour p).get plane).toNat
      = n.operator.applyTo (p.get plane).toNat (exactShare (p.get plane).toNat n.value.toNat
        - if ((p.get plane).toNat, n.value.toNat) ∈ lowered then 1 else 0)
    ∧ (((e.recolour p).get plane).toNat
        = n.operator.applyTo (p.get plane).toNat (exactShare (p.get plane).toNat n.value.toNat)
      ↔ ((p.get plane).toNat, n.value.toNat) ∉ n.operator.misses)
  := by
  rw [get_recolour haccepts hnumber, Number.toNat_produce hpercentage]
  refine ⟨rfl, ?_⟩
  by_cases hmem : ((p.get plane).toNat, n.value.toNat) ∈ lowered
  · rw [if_pos hmem]
    apply n.operator.applyTo_lowered_iff _ hmem
  · rw [if_neg hmem, Nat.sub_zero]
    exact iff_of_true rfl fun h => hmem (n.operator.misses_subset h)

/-- The expression that sets every colour to a percentage of itself. -/
def Expression.scaling (percent : UInt8) : Expression :=
  ⟨.wildcard, .gray (.number ⟨.none, percent, true⟩)⟩

theorem Expression.recolour_half :
  ((scaling 50).recolour ⟨201, 0, 0, 255⟩).red.toNat = 101
  := by
  obtain ⟨hshare, -⟩ := @recolour_percentage (scaling 50) ⟨201, 0, 0, 255⟩ .red ⟨.none, 50, true⟩
    rfl rfl rfl
  apply hshare

/-- The half of 29 is lowered, though 29 parts of 50 are the same tie and are not. -/
theorem Expression.recolour_half_lowered :
  (scaling 50).IsLegal ∧ (scaling 50).filter.accepts ⟨29, 0, 0, 255⟩ = true
    ∧ ((scaling 50).recolour ⟨29, 0, 0, 255⟩).red.toNat = 14 ∧ min 255 (exactShare 29 50) = 15
    ∧ ((scaling 29).recolour ⟨50, 0, 0, 255⟩).red.toNat = 15
  := by
  have hred : ∀ percent sample, ((scaling percent).recolour ⟨sample, 0, 0, 255⟩).red
      = percentOf sample percent := fun _ _ => rfl
  simp only [hred, toNat_percentOf]
  decide

end Recolour
