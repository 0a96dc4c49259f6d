import Mathlib.Tactic.Use
import Recolour.Image

/-!
# Images pixel by pixel

An image is determined by its size and its pixels, and `Image.set` changes one pixel and no
other.  `Image.generate` is the image with given pixels, and `image.map f` is the image of the
same size with `f` applied to every pixel.
-/

namespace Recolour

/-- The place of a plane among the four samples of a pixel. -/
def Plane.index : Plane → Nat
  | .red => 0
  | .green => 1
  | .blue => 2
  | .alpha => 3

theorem Plane.index_lt (plane : Plane) :
  plane.index < 4
  := by
  cases plane <;> decide

/-- A pixel is determined by its samples. -/
theorem Pixel.ext_get {p q : Pixel} (h : ∀ plane, p.get plane = q.get plane) :
  p = q
  := by
  obtain ⟨red, green, blue, alpha⟩ := p
  obtain ⟨red', green', blue', alpha'⟩ := q
  obtain rfl : red = red' := h .red
  obtain rfl : green = green' := h .green
  obtain rfl : blue = blue' := h .blue
  obtain rfl : alpha = alpha' := h .alpha
  rfl

theorem Pixel.getD_samples (p : Pixel) (plane : Plane) :
  p.samples.getD plane.index 0 = p.get plane
  := by
  cases plane <;> rfl

theorem cell_mod {width x : Nat} (hx : x < width) (y : Nat) :
  (y * width + x) % width = x
  := by
  rw [Nat.mul_comm, Nat.mul_add_mod, Nat.mod_eq_of_lt hx]

theorem cell_div {width x : Nat} (hx : x < width) (y : Nat) :
  (y * width + x) / width = y
  := by
  have hpos : 0 < width := by omega
  rw [Nat.add_comm, Nat.add_mul_div_right _ _ hpos, Nat.div_eq_of_lt hx, Nat.zero_add]

/-- In a grid of `width` columns, the number `y * width + x` belongs to one column and row. -/
theorem cell_eq_iff {width x y a b : Nat} (hx : x < width) (ha : a < width) :
  b * width + a = y * width + x ↔ a = x ∧ b = y
  := by
  constructor
  · intro h
    constructor
    · rw [← cell_mod ha b, h, cell_mod hx]
    · rw [← cell_div ha b, h, cell_div hx]
  · rintro ⟨rfl, rfl⟩
    rfl

theorem cell_lt {width height x y : Nat} (hx : x < width) (hy : y < height) :
  y * width + x < width * height
  := by
  have h := Nat.mul_le_mul_right width (Nat.succ_le_of_lt hy)
  rw [Nat.succ_mul, Nat.mul_comm height] at h
  omega

namespace Image

/-- Two images have one size. -/
def SameSize (image other : Image) : Prop :=
  image.width = other.width ∧ image.height = other.height

instance (image other : Image) : Decidable (image.SameSize other) :=
  inferInstanceAs (Decidable (_ ∧ _))

theorem SameSize.symm {image other : Image} (h : image.SameSize other) :
  other.SameSize image
  := ⟨h.1.symm, h.2.symm⟩

theorem SameSize.trans {image other third : Image} (h : image.SameSize other)
    (h' : other.SameSize third) :
  image.SameSize third
  := ⟨h.1.trans h'.1, h.2.trans h'.2⟩

theorem sameSize_blank (image : Image) :
  (blank image.width image.height).SameSize image
  := ⟨rfl, rfl⟩

theorem get_get (image : Image) (x y : Nat) (plane : Plane) :
  (image.get x y).get plane = image.samples.getD (image.offset x y + plane.index) 0
  := by
  cases plane <;> rfl

theorem offset_lt (image : Image) {x y : Nat} (hx : x < image.width) (hy : y < image.height)
    (plane : Plane) :
  image.offset x y + plane.index < image.samples.size
  := by
  have hcell := cell_lt hx hy
  have hplane := plane.index_lt
  rw [image.size_samples, offset]
  omega

/-- Every sample belongs to a plane of a pixel. -/
theorem exists_offset (image : Image) {k : Nat} (hk : k < image.samples.size) :
  ∃ x < image.width, ∃ y < image.height, ∃ plane : Plane, k = image.offset x y + plane.index
  := by
  rw [image.size_samples] at hk
  have hpos : 0 < image.width := by
    apply Nat.pos_of_ne_zero
    intro h
    simp [h] at hk
  use k / 4 % image.width, Nat.mod_lt _ hpos, k / 4 / image.width
  constructor
  · apply Nat.div_lt_of_lt_mul
    omega
  · have hplane : ∃ plane : Plane, k % 4 = plane.index := by
      have h : k % 4 = 0 ∨ k % 4 = 1 ∨ k % 4 = 2 ∨ k % 4 = 3 := by omega
      obtain h | h | h | h := h
      · use .red, h
      · use .green, h
      · use .blue, h
      · use .alpha, h
    obtain ⟨plane, h⟩ := hplane
    use plane
    rw [offset, Nat.mul_comm (k / 4 / image.width), Nat.div_add_mod, ← h, Nat.div_add_mod]

/-- An image is determined by its size and its pixels. -/
theorem ext_get {image other : Image} (hsize : image.SameSize other)
    (h : ∀ x < image.width, ∀ y < image.height, image.get x y = other.get x y) :
  image = other
  := by
  obtain ⟨width, height, samples, hsamples⟩ := image
  obtain ⟨width', height', samples', hsamples'⟩ := other
  obtain ⟨rfl, rfl⟩ : width = width' ∧ height = height' := hsize
  have hequal : samples = samples' := by
    apply Array.ext
    · rw [hsamples, hsamples']
    · intro k hk hk'
      obtain ⟨x, hx, y, hy, plane, rfl⟩ := exists_offset ⟨width, height, samples, hsamples⟩ hk
      have hget := congrArg (·.get plane) (h x hx y hy)
      simp only [get_get, Array.getD_eq_getD_getElem?, offset] at hget
      simp only [offset] at hk hk' ⊢
      rw [Array.getElem?_eq_getElem hk, Array.getElem?_eq_getElem hk'] at hget
      apply hget
  subst hequal
  rfl

/-! ### Setting a pixel -/

@[simp]
theorem width_set (image : Image) (x y : Nat) (p : Pixel) :
  (image.set x y p).width = image.width
  := rfl

@[simp]
theorem height_set (image : Image) (x y : Nat) (p : Pixel) :
  (image.set x y p).height = image.height
  := rfl

/-- The samples of an image after a pixel is set: those of the pixel from its offset on, the
former ones elsewhere. -/
theorem getD_samples_set (image : Image) {x y : Nat} (hx : x < image.width)
    (hy : y < image.height) (p : Pixel) (k : Nat) :
  (image.set x y p).samples.getD k 0
    = if image.offset x y ≤ k ∧ k < image.offset x y + 4
      then p.samples.getD (k - image.offset x y) 0 else image.samples.getD k 0
  := by
  have hlast := image.offset_lt hx hy .alpha
  simp only [Plane.index] at hlast
  split
  · rename_i h
    have hcases : k = image.offset x y ∨ k = image.offset x y + 1 ∨ k = image.offset x y + 2
        ∨ k = image.offset x y + 3 := by omega
    obtain rfl | rfl | rfl | rfl := hcases
    all_goals
      simp [set, Pixel.samples, Array.getD_eq_getD_getElem?, Array.getElem?_setIfInBounds]
      rw [if_pos (by omega)]
      rfl
  · simp [set, Array.getD_eq_getD_getElem?, Array.getElem?_setIfInBounds]
    grind

/-- Setting a pixel changes that pixel and no other. -/
theorem get_set (image : Image) {x y a b : Nat} (hx : x < image.width) (hy : y < image.height)
    (ha : a < image.width) (p : Pixel) :
  (image.set x y p).get a b = if a = x ∧ b = y then p else image.get a b
  := by
  apply Pixel.ext_get
  intro plane
  have hplane := plane.index_lt
  rw [get_get, getD_samples_set image hx hy]
  by_cases h : b * image.width + a = y * image.width + x
  · have hoffset : (image.set x y p).offset a b = image.offset x y := congrArg (4 * ·) h
    rw [hoffset, if_pos (by omega), if_pos ((cell_eq_iff hx ha).mp h), Nat.add_sub_cancel_left,
      Pixel.getD_samples]
  · rw [if_neg, if_neg (mt (cell_eq_iff hx ha).mpr h), get_get]
    · rfl
    · simp only [offset, width_set]
      omega

/-! ### Images with given pixels -/

/-- The image of the given size with the pixel `f x y` in column `x` and row `y`. -/
def generate (width height : Nat) (f : Nat → Nat → Pixel) : Image where
  width
  height
  samples := Array.ofFn fun k : Fin (4 * (width * height)) =>
    (f (k / 4 % width) (k / 4 / width)).samples.getD (k % 4) 0
  size_samples := Array.size_ofFn

theorem get_generate {width height : Nat} (f : Nat → Nat → Pixel) {x y : Nat} (hx : x < width)
    (hy : y < height) :
  (generate width height f).get x y = f x y
  := by
  apply Pixel.ext_get
  intro plane
  have hplane := plane.index_lt
  have hcell := cell_lt hx hy
  have hk : 4 * (y * width + x) + plane.index < 4 * (width * height) := by omega
  have hdiv : (4 * (y * width + x) + plane.index) / 4 = y * width + x := by omega
  have hmod : (4 * (y * width + x) + plane.index) % 4 = plane.index := by omega
  rw [get_get]
  simp only [generate, offset, Array.getD_eq_getD_getElem?, Array.getElem?_ofFn, hk, dite_true,
    Option.getD_some, hdiv, hmod, cell_mod hx, cell_div hx]
  apply Pixel.getD_samples

/-- The image with a function applied to every pixel. -/
def map (f : Pixel → Pixel) (image : Image) : Image :=
  generate image.width image.height fun x y => f (image.get x y)

theorem sameSize_map (f : Pixel → Pixel) (image : Image) :
  (image.map f).SameSize image
  := ⟨rfl, rfl⟩

theorem get_map (f : Pixel → Pixel) (image : Image) {x y : Nat} (hx : x < image.width)
    (hy : y < image.height) :
  (image.map f).get x y = f (image.get x y)
  := get_generate _ hx hy

theorem map_id (image : Image) :
  image.map (fun p => p) = image
  := by
  apply ext_get (sameSize_map _ image)
  intro x hx y hy
  apply get_map _ image hx hy

theorem map_map (f g : Pixel → Pixel) (image : Image) :
  (image.map f).map g = image.map fun p => g (f p)
  := by
  have hsize : ((image.map f).map g).SameSize (image.map fun p => g (f p)) := ⟨rfl, rfl⟩
  apply ext_get hsize
  intro x hx y hy
  rw [get_map g (image.map f) hx hy, get_map f image hx hy, get_map _ image hx hy]

end Image

end Recolour
