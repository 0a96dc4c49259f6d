import Recolour.Format.Choice
import Recolour.Library
import Recolour.Proofs.Pixels
import Recolour.Text.Utf8

/-!
# PNM files

What a PNM file is, apart from any program that writes or reads one.  Its header is the digit of
the variant, the width, the height and the largest sample, which is always 255 here.  Its body are
the samples as bytes, or as decimal numerals with blanks between them.
-/

namespace Recolour.Pnm

namespace Variant

/-- The number of samples of a pixel. -/
def depth (variant : Variant) : Nat :=
  if variant.isGray then 1 else 3

/-- The digit in the header of a file. -/
def digit : Variant → UInt8
  | .textGray => 50
  | .textColor => 51
  | .binaryGray => 53
  | .binaryColor => 54

end Variant

variable {variant : Variant} {samples : List UInt8}

/-! ### Files -/

/-- The byte is white space. -/
def IsBlank (b : UInt8) : Prop :=
  9 ≤ b ∧ b ≤ 13 ∨ b = 32

instance : DecidablePred IsBlank :=
  fun b => inferInstanceAs (Decidable (9 ≤ b ∧ b ≤ 13 ∨ b = 32))

/-- The bytes of the decimal numeral of a number. -/
def numeral (n : Nat) : List UInt8 :=
  Utf8.encode (Nat.toDigits 10 n)

/-- The bytes are the numerals of the samples with blanks between them. -/
inductive IsText : List UInt8 → List UInt8 → Prop where
  | nil : IsText [] []
  | blank {samples bytes : List UInt8} {b : UInt8} (hb : IsBlank b) (h : IsText samples bytes) :
    IsText samples (b :: bytes)
  | sample {samples bytes : List UInt8} {b : UInt8} (sample : UInt8) (hb : IsBlank b)
      (h : IsText samples (b :: bytes)) :
    IsText (sample :: samples) (numeral sample.toNat ++ b :: bytes)

/-- The bytes after a header hold the samples. -/
def IsBody : Variant → List UInt8 → List UInt8 → Prop
  | .textGray, samples, body | .textColor, samples, body => IsText samples body
  | .binaryGray, samples, body | .binaryColor, samples, body => body = samples

/-- The bytes are a PNM file with the samples of an image of a size. -/
inductive IsFile (variant : Variant) (width height : Nat) (samples : List UInt8) :
    List UInt8 → Prop where
  | intro {a b c d : UInt8} {body : List UInt8} (ha : IsBlank a) (hb : IsBlank b) (hc : IsBlank c)
      (hd : IsBlank d) (hlength : samples.length = height * width * variant.depth)
      (hbody : IsBody variant samples body) :
    IsFile variant width height samples
      (80 :: variant.digit :: a :: (numeral width ++ b :: (numeral height
        ++ c :: (numeral 255 ++ d :: body))))

/-! ### Images -/

/-- The opaque pixels of colours, three samples each. -/
def solids : List UInt8 → List Pixel
  | red :: green :: blue :: rest => .rgb red green blue :: solids rest
  | _ => []

/-- The opaque pixels that the samples of a file make. -/
def pixels (variant : Variant) (samples : List UInt8) : List Pixel :=
  if variant.isGray then samples.map fun y => .rgb y y y else solids samples

theorem solids_flatMap (colors : List (UInt8 × UInt8 × UInt8)) :
  solids (colors.flatMap Library.samples) = colors.map fun (r, g, b) => .rgb r g b
  := by
  induction colors with
  | nil => rfl
  | cons color colors ih =>
    rw [List.flatMap_cons, List.map_cons, ← ih]
    rfl

theorem length_solids (samples : List UInt8) :
  (solids samples).length = samples.length / 3
  := by
  fun_induction solids samples with
  | case1 red green blue rest ih =>
    rw [List.length_cons, ih]
    simp only [List.length_cons]
    omega
  | case2 samples hshort =>
    obtain _ | ⟨_, _ | ⟨_, _ | ⟨_, _⟩⟩⟩ := samples
    · rfl
    · simp
    · simp
    · exact absurd rfl (hshort _ _ _ _)

theorem length_pixels {count : Nat} (hlength : samples.length = count * variant.depth) :
  (pixels variant samples).length = count
  := by
  by_cases hgray : variant.isGray = true
  · rw [Variant.depth, if_pos hgray, Nat.mul_one] at hlength
    rw [pixels, if_pos hgray, List.length_map, hlength]
  · rw [Variant.depth, if_neg hgray] at hlength
    rw [pixels, if_neg hgray, length_solids, hlength, Nat.mul_div_cancel _ (by decide)]

end Recolour.Pnm
