import Mathlib.Data.List.Basic
import Recolour.Proofs.Painting

/-!
# Images as lists of pixels

The list of the pixels of an image, in reading order, determines an image of a given size.
-/

namespace Recolour

/-- Counting off a grid row by row. -/
theorem flatMap_range_map {α : Type} (g : Nat → Nat → α) (width height : Nat) :
  ((List.range height).flatMap fun y => (List.range width).map fun x => g x y)
    = (List.range (height * width)).map fun i => g (i % width) (i / width)
  := by
  induction height with
  | zero => rw [Nat.zero_mul]; rfl
  | succ height ih =>
    rw [List.range_succ, List.flatMap_append, ih, Nat.succ_mul, List.range_add, List.map_append,
      List.flatMap_singleton, List.map_map]
    congr 1
    apply List.map_congr_left
    intro x hx
    have hx := List.mem_range.mp hx
    rw [Function.comp_apply, cell_mod hx, cell_div hx]

theorem length_flatMap_of_forall {α β : Type} {f : α → List β} {count : Nat}
    (h : ∀ a, (f a).length = count) (xs : List α) :
  (xs.flatMap f).length = xs.length * count
  := by
  rw [List.length_flatMap, List.map_congr_left fun a _ => h a, List.map_const',
    List.sum_replicate_nat]

namespace Image

theorem pixelAt_flatMap_samples {ps : List Pixel} {i : Nat} (hi : i < ps.length) :
  pixelAt (ps.flatMap Pixel.samples) i = ps[i]
  := by
  induction ps generalizing i with
  | nil => simp at hi
  | cons p ps ih =>
    cases i with
    | zero => rfl
    | succ i =>
      have hfour : p.samples.length = 4 * 1 := rfl
      rw [List.flatMap_cons, pixelAt_append_right hfour (by omega), Nat.add_sub_cancel]
      apply ih

theorem length_flatMap_samples (ps : List Pixel) :
  (ps.flatMap Pixel.samples).length = ps.length * 4
  := by
  have hfour (p : Pixel) : p.samples.length = 4 := rfl
  apply length_flatMap_of_forall hfour

theorem pixels_eq (image : Image) :
  image.pixels = (List.range (image.height * image.width)).map fun i =>
    image.get (i % image.width) (i / image.width)
  := flatMap_range_map image.get image.width image.height

theorem length_pixels (image : Image) :
  image.pixels.length = image.height * image.width
  := by
  rw [pixels_eq, List.length_map, List.length_range]

theorem pixels_map (f : Pixel → Pixel) (image : Image) :
  (image.map f).pixels = image.pixels.map f
  := by
  rw [pixels, pixels, List.map_flatMap]
  apply List.flatMap_congr
  intro y hy
  rw [List.map_map]
  apply List.map_congr_left
  intro x hx
  apply get_map f image (List.mem_range.mp hx) (List.mem_range.mp hy)

/-- An image is read off its pixels. -/
theorem ofSamples?_pixels (image : Image) :
  ofSamples? image.width image.height (image.pixels.flatMap Pixel.samples).toArray = some image
  := by
  have hsize : (image.pixels.flatMap Pixel.samples).toArray.size
      = 4 * (image.width * image.height) := by
    rw [List.size_toArray, length_flatMap_samples, length_pixels, Nat.mul_comm image.height,
      Nat.mul_comm]
  rw [ofSamples?, dif_pos hsize, Option.some.injEq]
  have hsame : SameSize ⟨image.width, image.height, _, hsize⟩ image := ⟨rfl, rfl⟩
  apply ext_get hsame
  intro x hx y hy
  have hi : y * image.width + x < image.pixels.length := by
    rw [length_pixels, Nat.mul_comm image.height]
    apply cell_lt hx hy
  rw [get_eq_pixelAt]
  change pixelAt (image.pixels.flatMap Pixel.samples) (y * image.width + x) = _
  rw [pixelAt_flatMap_samples hi]
  simp only [pixels_eq, List.getElem_map, List.getElem_range, cell_mod hx, cell_div hx]

/-- A list of pixels is an image, if it is as long as the size asks for. -/
theorem exists_ofSamples? {width height : Nat} {ps : List Pixel}
    (hlength : ps.length = height * width) :
  ∃ image : Image, ofSamples? width height (ps.flatMap Pixel.samples).toArray = some image
    ∧ image.width = width ∧ image.height = height ∧ image.pixels = ps
  := by
  have hsize : (ps.flatMap Pixel.samples).toArray.size = 4 * (width * height) := by
    rw [List.size_toArray, length_flatMap_samples, hlength, Nat.mul_comm height, Nat.mul_comm]
  refine ⟨⟨width, height, _, hsize⟩, dif_pos hsize, rfl, rfl, ?_⟩
  apply List.ext_getElem
  · rw [length_pixels, hlength]
  · intro i _ hi
    simp only [pixels_eq, List.getElem_map, List.getElem_range, get_eq_pixelAt, Nat.div_add_mod']
    apply pixelAt_flatMap_samples hi

/-- An image is its size and its pixels. -/
theorem ext_pixels {image other : Image} (hwidth : image.width = other.width)
    (hheight : image.height = other.height) (hpixels : image.pixels = other.pixels) :
  image = other
  := by
  have himage := ofSamples?_pixels image
  rw [hwidth, hheight, hpixels, ofSamples?_pixels] at himage
  exact (Option.some.inj himage).symm

end Image

end Recolour
