/-!
# Rounding to the nearest whole number

A finite float that is not negative is `m * 2 ^ k` for whole numbers `m` and `k`, which its
bits spell out.  `nearestNat` rounds that value exactly, and a value half way between two
whole numbers goes to the larger one.
-/

namespace Recolour

/-- The whole number nearest to a finite float `x ≥ 0`, the larger one in a tie. -/
def nearestNat (x : Float) : Nat :=
  let bits := x.toBits.toNat
  let exponent := bits >>> 52 % 1 <<< 11
  let fraction := bits % 1 <<< 52
  let m := if exponent = 0 then fraction else fraction + 1 <<< 52
  let e := max exponent 1
  if 1075 ≤ e then m <<< (e - 1075)
  else (2 * m + 1 <<< (1075 - e)) >>> (1075 - e + 1)

end Recolour
