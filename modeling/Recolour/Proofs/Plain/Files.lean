import Recolour.Plain
import Recolour.Proofs.Metrics
import Recolour.Proofs.Pixels
import Recolour.Proofs.Plain.Words

/-!
# The plain library and PNM files

What the plain library writes of some samples is a PNM file, and every PNM file, whatever its
variant and its blanks, is read as the opaque image that its samples make.
-/

namespace Recolour.Plain

/-! ### Gray values -/

theorem toNat_luma (p : Pixel) :
  (luma p).toNat = (21264781 * p.red.toNat + 71517915 * p.green.toNat + 7217304 * p.blue.toNat
    + 50000000) / 100000000
  := by
  have hred := p.red.toNat_lt
  have hgreen := p.green.toNat_lt
  have hblue := p.blue.toNat_lt
  apply UInt8.toNat_ofNat_of_lt'
  change _ < 256
  omega

/-- The weights of the three colours make up a whole, so the gray value lies between them. -/
theorem luma_between (p : Pixel) :
  p.least ≤ luma p ∧ luma p ≤ p.greatest
  := by
  simp only [UInt8.le_iff_toNat_le, toNat_luma, Pixel.toNat_least, Pixel.toNat_greatest]
  omega

/-! ### Samples -/

theorem graySamples_eq (samples : List UInt8) :
  graySamples samples = (samples.map fun y => Pixel.rgb y y y).flatMap Pixel.samples
  := by
  rw [graySamples, List.flatMap_map]
  rfl

theorem colorSamples_eq (samples : List UInt8) :
  colorSamples samples = (Pnm.solids samples).flatMap Pixel.samples
  := by
  fun_induction Pnm.solids samples with
  | case1 red green blue rest ih =>
    rw [colorSamples, ih]
    rfl
  | case2 samples hshort =>
    rw [colorSamples, List.flatMap_nil]
    apply hshort

namespace Pnm

open Recolour.Pnm (IsBlank IsBody IsFile numeral pixels)

variable {variant : Pnm.Variant} {width height : Nat} {samples bytes : List UInt8}

/-! ### Writing -/

theorem encode_eq (variant : Pnm.Variant) (width height : Nat) (samples : List UInt8) :
  encode variant width height samples = 80 :: variant.digit :: 10 :: (numeral width
    ++ 32 :: (numeral height ++ 32 :: (numeral 255 ++ 10 ::
      if isText variant then Utf8.encode (textBody samples) else samples)))
  := by
  have hheader : (header variant width height).toList
      = ['P', digit variant, '\n'] ++ (Nat.toDigits 10 width ++ ([' ']
        ++ (Nat.toDigits 10 height ++ ([' '] ++ (Nat.toDigits 10 255 ++ ['\n']))))) := by
    have hlargest : Nat.toDigits 10 255 = ['2', '5', '5'] := by decide
    simp [header, hlargest]
  have hdigit : Utf8.encode ['P', digit variant, '\n'] = [80, variant.digit, 10] := by
    cases variant <;> rfl
  have hspace : Utf8.encode [' '] = [32] := rfl
  have hnewline : Utf8.encode ['\n'] = [10] := rfl
  rw [encode, hheader]
  simp only [Utf8.encode_append]
  rw [hdigit, hspace, hnewline]
  simp only [numeral, List.cons_append, List.nil_append, List.append_assoc]

/-- What is written of some samples is a PNM file. -/
theorem isFile_encode (hlength : samples.length = height * width * variant.depth) :
  IsFile variant width height samples (encode variant width height samples)
  := by
  rw [encode_eq]
  refine .intro (by decide) (by decide) (by decide) (by decide) hlength ?_
  cases variant with
  | textGray => apply isText_textBody
  | textColor => apply isText_textBody
  | binaryGray => rfl
  | binaryColor => rfl

/-! ### Reading -/

theorem readSamples_eq {body : List UInt8} (h : IsBody variant samples body) :
  readSamples variant samples.length body = some samples
  := by
  cases variant with
  | textGray => apply readNumerals_eq h
  | textColor => apply readNumerals_eq h
  | binaryGray =>
    obtain rfl : body = samples := h
    simp [readSamples, isText, takeExactly]
  | binaryColor =>
    obtain rfl : body = samples := h
    simp [readSamples, isText, takeExactly]

theorem rescale_whole (samples : List UInt8) :
  samples.map (rescale 255) = samples
  := by
  have hsame : rescale 255 = id := by
    funext sample
    rw [rescale, if_pos rfl, id_eq]
  rw [hsame, List.map_id]

/-- The image that the samples of a file make, if their number fits the size. -/
def picture? (variant : Pnm.Variant) (width height : Nat) (samples : List UInt8) : Option Image :=
  Image.ofSamples? width height ((pixels variant samples).flatMap Pixel.samples).toArray

theorem ofSamples?_eq_picture? :
  Image.ofSamples? width height
      (if variant.isGray then graySamples samples else colorSamples samples).toArray =
    picture? variant width height samples
  := by
  rw [picture?, pixels, graySamples_eq, colorSamples_eq]
  split <;> rfl

theorem decodeVariant_eq {a b c d : UInt8} {body : List UInt8} (ha : IsBlank a) (hb : IsBlank b)
    (hc : IsBlank c) (hd : IsBlank d) (hwidth : width < UInt32.size)
    (hheight : height < UInt32.size) (hlength : samples.length = height * width * variant.depth)
    (hbody : IsBody variant samples body) :
  decodeVariant variant (a :: (numeral width ++ b :: (numeral height
    ++ c :: (numeral 255 ++ d :: body)))) = picture? variant width height samples
  := by
  have hsamples := readSamples_eq hbody
  rw [hlength, Nat.mul_comm height, Pnm.Variant.depth] at hsamples
  rw [← ofSamples?_eq_picture?]
  simp only [decodeVariant, headerNumber_blank ha, headerNumber_numeral hwidth hb,
    headerNumber_numeral hheight hc, headerNumber_numeral (by decide : 255 < UInt32.size) hd,
    Option.bind_eq_bind, Option.bind_some, hsamples, rescale_whole]
  rfl

/-- A PNM file is read as the picture that its samples make. -/
theorem decode_eq (hwidth : width < UInt32.size) (hheight : height < UInt32.size)
    (h : IsFile variant width height samples bytes) :
  decode bytes = picture? variant width height samples
  := by
  obtain ⟨ha, hb, hc, hd, hlength, hbody⟩ := h
  rw [← decodeVariant_eq ha hb hc hd hwidth hheight hlength hbody]
  cases variant <;> rfl

/-- Only a PNM file starts with a capital P. -/
theorem readStream_eq_ok {rest : List UInt8} {image : Image}
    (h : decode (80 :: rest) = some image) :
  Library.plain.readStream (80 :: rest) = .ok image
  := by
  have hpng : Png.decode (80 :: rest) = none := by
    rw [Png.decode]
    rfl
  have hgif : Gif.decode (80 :: rest) = none := by
    rw [Gif.decode]
    rfl
  simp only [Library.plain, Reader.all, List.findSome?_cons, hpng, hgif, h, orElse]

theorem exists_readStream_eq (hwidth : width < UInt32.size) (hheight : height < UInt32.size)
    (h : IsFile variant width height samples bytes) :
  ∃ image, Library.plain.readStream bytes = .ok image ∧ image.width = width
    ∧ image.height = height ∧ image.pixels = pixels variant samples
  := by
  have hdecode := decode_eq hwidth hheight h
  obtain ⟨ha, hb, hc, hd, hlength, hbody⟩ := h
  obtain ⟨image, himage, hsize⟩ := Image.exists_ofSamples? (Pnm.length_pixels hlength)
  rw [picture?, himage] at hdecode
  exact ⟨image, readStream_eq_ok hdecode, hsize⟩

end Pnm

end Recolour.Plain
