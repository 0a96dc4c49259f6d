import Recolour.Proofs.Encoding
import Recolour.Proofs.Plain.Files

/-!
# PNM files are read back

A colour variant of a PNM file keeps the colours of an image, and a gray one its gray values.  So
the file of a variant is read back as the opaque image with these colours or gray values, and the
gray image has the same file again.  All this rests on what is taken for granted of the library:
that gray values lie between the colours, that it writes the samples of an image as a PNM file, and
that it reads a PNM file as the image that its samples make.
-/

namespace Recolour

namespace Library

/-! ### What is taken for granted -/

/-- The colour of a pixel without alpha is its three samples, and its gray value lies between
them. -/
structure KeepsColors (library : Library) : Prop where
  color_eq (p : Pixel) : library.color p = (p.red, p.green, p.blue)
  least_le_gray (p : Pixel) : p.least ≤ library.gray p
  gray_le_greatest (p : Pixel) : library.gray p ≤ p.greatest

/-- Samples for an image of a size are written to a PNM file. -/
def WritesPnm (library : Library) (width height : Nat) : Prop :=
  ∀ variant samples, samples.length = height * width * variant.depth →
    ∃ bytes, library.writePnm variant width height samples = .whole bytes
      ∧ Pnm.IsFile variant width height samples bytes

/-- A PNM file of a size is read as the opaque image that its samples make. -/
def ReadsPnm (library : Library) (width height : Nat) : Prop :=
  ∀ variant samples bytes, Pnm.IsFile variant width height samples bytes →
    ∃ image, library.readStream bytes = .ok image ∧ image.width = width
      ∧ image.height = height ∧ image.pixels = Pnm.pixels variant samples

theorem keepsColors_plain :
  plain.KeepsColors
  where
    color_eq _ := rfl
    least_le_gray p := (Plain.luma_between p).1
    gray_le_greatest p := (Plain.luma_between p).2

theorem writesPnm_plain (width height : Nat) :
  plain.WritesPnm width height
  := by
  intro variant samples hlength
  exact ⟨_, rfl, Plain.Pnm.isFile_encode hlength⟩

theorem readsPnm_plain {width height : Nat} (hwidth : width < UInt32.size)
    (hheight : height < UInt32.size) :
  plain.ReadsPnm width height
  := by
  intro variant samples bytes h
  apply Plain.Pnm.exists_readStream_eq hwidth hheight h

end Library

/-! ### Colours and gray values -/

/-- The colour of a pixel, with nothing to be seen through it. -/
def Pixel.solid (p : Pixel) : Pixel :=
  .rgb p.red p.green p.blue

/-- The gray value of a pixel in its three colours. -/
def Library.grayed (library : Library) (p : Pixel) : Pixel :=
  .rgb (library.gray p) (library.gray p) (library.gray p)

variable {library : Library} {image : Image}

/-- A gray pixel has the gray value of its colours. -/
theorem Library.KeepsColors.gray_gray (h : library.KeepsColors) (y : UInt8) :
  library.gray (.rgb y y y) = y
  := by
  have hleast := h.least_le_gray (.rgb y y y)
  have hgreatest := h.gray_le_greatest (.rgb y y y)
  rw [UInt8.le_iff_toNat_le, Pixel.toNat_least] at hleast
  rw [UInt8.le_iff_toNat_le, Pixel.toNat_greatest] at hgreatest
  rw [← UInt8.toNat_inj]
  simp only [Pixel.rgb] at hleast hgreatest ⊢
  omega

namespace Pnm

variable {variant : Variant} {options : EncoderOptions}

theorem length_samples (library : Library) (image : Image) (variant : Variant) :
  (samples library variant image).length = image.height * image.width * variant.depth
  := by
  rw [samples, Variant.depth]
  split
  · rw [Library.grays, List.length_map, Image.length_pixels, Nat.mul_one]
  · have hthree : ∀ p : Pixel, (Library.samples (library.color p)).length = 3 := fun _ => rfl
    rw [Library.colors, length_flatMap_of_forall hthree, Image.length_pixels]

/-- The samples of a colour variant make the colours of the image. -/
theorem pixels_samples_of_color (hcolor : variant.isGray = false) (h : library.KeepsColors) :
  pixels variant (samples library variant image) = (image.map Pixel.solid).pixels
  := by
  have hcolors : library.colors image =
      (image.pixels.map fun p => (p.red, p.green, p.blue)).flatMap Library.samples := by
    rw [Library.colors, List.flatMap_map]
    simp only [h.color_eq]
  rw [pixels, samples, if_neg (by simp [hcolor]), if_neg (by simp [hcolor]), hcolors,
    solids_flatMap, List.map_map, Image.pixels_map]
  rfl

/-- The samples of a gray variant make the gray values of the image. -/
theorem pixels_samples_of_gray (hgray : variant.isGray = true) :
  pixels variant (samples library variant image) = (image.map library.grayed).pixels
  := by
  rw [pixels, samples, if_pos hgray, if_pos hgray, Library.grays, List.map_map, Image.pixels_map]
  rfl

/-- The gray image has the gray values of the image. -/
theorem samples_map_grayed (hgray : variant.isGray = true) (h : library.KeepsColors) :
  samples library variant (image.map library.grayed) = samples library variant image
  := by
  rw [samples, samples, if_pos hgray, if_pos hgray, Library.grays, Library.grays, Image.pixels_map,
    List.map_map]
  apply List.map_congr_left
  intro p _
  apply h.gray_gray

/-! ### The format -/

/-- Under the name of a variant an image is written to a file, which is read back as the image that
its samples make. -/
theorem exists_file (hwrites : library.WritesPnm image.width image.height)
    (hreads : library.ReadsPnm image.width image.height) (h : variantName options = variant.name)
    {f : Pixel → Pixel}
    (hpixels : pixels variant (samples library variant image) = (image.map f).pixels) :
  ∃ bytes, (format library).encode options image = .whole bytes
    ∧ Image.decode library bytes = .ok (image.map f)
  := by
  obtain ⟨bytes, hwrite, hfile⟩ := hwrites variant _ (length_samples library image variant)
  obtain ⟨found, hread, hwidth, hheight, hfound⟩ := hreads variant _ bytes hfile
  obtain rfl : found = image.map f := Image.ext_pixels hwidth hheight (hfound.trans hpixels)
  refine ⟨bytes, ?_, ?_⟩
  · rw [encode_of_name library image h, hwrite]
    rfl
  · rw [Image.decode, hread]
    rfl

/-- A gray image is written to the file of the image whose gray values it has. -/
theorem encode_map_grayed (hgray : variant.isGray = true) (hkeeps : library.KeepsColors)
    (h : variantName options = variant.name) :
  (format library).encode options (image.map library.grayed) =
    (format library).encode options image
  := by
  rw [encode_of_name library _ h, encode_of_name library image h, samples_map_grayed hgray hkeeps]
  rfl

section Files

variable (hkeeps : library.KeepsColors) (hwrites : library.WritesPnm image.width image.height)
  (hreads : library.ReadsPnm image.width image.height)

include hkeeps hwrites hreads

theorem exists_color_file (variant : Variant) (h : variantName options = variant.name)
    (hcolor : variant.isGray = false) :
  ∃ bytes, (format library).encode options image = .whole bytes
    ∧ Image.decode library bytes = .ok (image.map Pixel.solid)
  := exists_file hwrites hreads h (pixels_samples_of_color hcolor hkeeps)

theorem exists_gray_file (variant : Variant) (h : variantName options = variant.name)
    (hgray : variant.isGray = true) :
  ∃ bytes, (format library).encode options image = .whole bytes
    ∧ Image.decode library bytes = .ok (image.map library.grayed)
    ∧ (format library).encode options (image.map library.grayed) = .whole bytes
  := by
  obtain ⟨bytes, hwrite, hread⟩ := exists_file hwrites hreads h (pixels_samples_of_gray hgray)
  exact ⟨bytes, hwrite, hread, (encode_map_grayed hgray hkeeps h).trans hwrite⟩

end Files

/-- An image of one pixel. -/
def dot : Image := .generate 1 1 fun _ _ => ⟨186, 127, 34, 255⟩

end Pnm

end Recolour
