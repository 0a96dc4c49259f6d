/-!
# Numbers in bytes

File layouts hold numbers in a fixed number of bytes, the heaviest byte first or last.
-/

namespace Recolour.Bytes

/-- A number in `count` bytes, the lightest first. -/
def littleEndian (count n : Nat) : List UInt8 :=
  (List.range count).map fun i => UInt8.ofNat (n >>> (8 * i) % 256)

/-- A number in `count` bytes, the heaviest first. -/
def bigEndian (count n : Nat) : List UInt8 :=
  (littleEndian count n).reverse

/-- The number whose bytes are given, the heaviest first. -/
def ofBigEndian (bytes : List UInt8) : Nat :=
  bytes.foldl (fun n b => 256 * n + b.toNat) 0

/-- The number whose bytes are given, the lightest first. -/
def ofLittleEndian (bytes : List UInt8) : Nat :=
  ofBigEndian bytes.reverse

/-- The bytes of a text of ASCII characters. -/
def ofText (s : String) : List UInt8 :=
  s.toList.map fun c => UInt8.ofNat c.toNat

/-- A list cut into pieces of `size` elements, the last one perhaps shorter. -/
def pieces {α : Type} (size : Nat) (xs : List α) : List (List α) :=
  if size = 0 ∨ xs = [] then []
  else xs.take size :: pieces size (xs.drop size)
termination_by xs.length
decreasing_by
  rename_i h
  have := List.length_pos_iff.mpr (not_or.mp h).2
  have := Nat.pos_of_ne_zero (not_or.mp h).1
  simp only [List.length_drop]
  omega

end Recolour.Bytes
