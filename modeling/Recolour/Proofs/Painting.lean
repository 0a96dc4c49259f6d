import Mathlib.Data.List.GetD
import Recolour.Image.Painting
import Recolour.Proofs.Image

/-!
# Painting is recolouring every pixel

Into a destination of the size of the source, `paintPixels` and `paintRows` both write the
source with every pixel recoloured, whatever the destination held.  A destination of another
size they both refuse with the same error and leave as it was.

`PaintedWhere` is the invariant of the walk over coordinates, and `pixelAt` reads one pixel
out of a list of samples, by which the walk over rows of samples is followed.
-/

namespace Recolour.Image

variable {e : Expression} {source destination : Image}

/-- What holds at first and is kept by each round holds after all rounds. -/
theorem foldl_range {α : Type} {P : Nat → α → Prop} {f : α → Nat → α} {first : α} {n : Nat}
    (hfirst : P 0 first) (hround : ∀ k < n, ∀ out, P k out → P (k + 1) (f out k)) :
  P n ((List.range n).foldl f first)
  := by
  induction n with
  | zero => apply hfirst
  | succ n ih =>
    rw [List.range_succ, List.foldl_append]
    apply hround n (Nat.lt_succ_self n)
    apply ih
    intro k hk
    apply hround k (Nat.lt_succ_of_lt hk)

/-! ### Pixel by pixel -/

/-- An image has the size of the destination and the recoloured source pixel in every cell
that satisfies `done`. -/
structure PaintedWhere (e : Expression) (source destination : Image)
    (done : Nat → Nat → Prop) (out : Image) : Prop where
  sameSize : out.SameSize destination
  get_eq : ∀ x < destination.width, ∀ y < destination.height,
    done x y → out.get x y = e.recolour (source.get x y)

namespace PaintedWhere

variable {done : Nat → Nat → Prop} {out : Image}

theorem mono (h : PaintedWhere e source destination done out) {fewer : Nat → Nat → Prop}
    (hfewer : ∀ x < destination.width, ∀ y, fewer x y → done x y) :
  PaintedWhere e source destination fewer out
  := by
  constructor
  · apply h.sameSize
  · intro x hx y hy hdone
    apply h.get_eq x hx y hy (hfewer x hx y hdone)

/-- Setting a cell to its recoloured source pixel adds the cell to those that are done. -/
theorem set (h : PaintedWhere e source destination done out) {x y : Nat}
    (hx : x < destination.width) (hy : y < destination.height) :
  PaintedWhere e source destination (fun a b => done a b ∨ a = x ∧ b = y)
    (out.set x y (e.recolour (source.get x y)))
  := by
  obtain ⟨hwidth, hheight⟩ := h.sameSize
  constructor
  · apply h.sameSize
  · intro a ha b hb hdone
    rw [get_set out (by omega) (by omega) (by omega)]
    split
    · rename_i hcell
      rw [hcell.1, hcell.2]
    · rename_i hcell
      apply h.get_eq a ha b hb
      apply hdone.resolve_right hcell

/-- Painting row `y` after the rows above it. -/
theorem paintLine {y : Nat} (h : PaintedWhere e source destination (fun _ b => b < y) out)
    (hsize : source.SameSize destination) (hy : y < destination.height) :
  PaintedWhere e source destination (fun _ b => b < y + 1) (paintLine e source y out)
  := by
  have hwidth := hsize.1
  have hcolumns : PaintedWhere e source destination (fun a b => b < y ∨ b = y ∧ a < source.width)
      (Image.paintLine e source y out) := by
    apply foldl_range
      (P := fun n => PaintedWhere e source destination fun a b => b < y ∨ b = y ∧ a < n)
    · apply h.mono
      intro a _ b hdone
      omega
    · intro x hx out hout
      apply (hout.set (by omega) hy).mono
      intro a _ b hdone
      omega
  apply hcolumns.mono
  intro a ha b hdone
  omega

/-- All rows painted one after another. -/
theorem paintLines (hsize : source.SameSize destination) :
  PaintedWhere e source destination (fun _ _ => True)
    ((List.range source.height).foldl (fun out y => Image.paintLine e source y out) destination)
  := by
  have hheight := hsize.2
  have hrows : PaintedWhere e source destination (fun _ b => b < source.height)
      ((List.range source.height).foldl (fun out y => Image.paintLine e source y out)
        destination) := by
    apply foldl_range (P := fun n => PaintedWhere e source destination fun _ b => b < n)
    · constructor
      · exact ⟨rfl, rfl⟩
      · intro x _ y _ hy
        omega
    · intro y hy out hout
      apply hout.paintLine hsize
      omega
  constructor
  · apply hrows.sameSize
  · intro x hx y hy _
    apply hrows.get_eq x hx y hy
    omega

/-- When all cells are done, the image is the recoloured source. -/
theorem eq_map (h : PaintedWhere e source destination (fun _ _ => True) out)
    (hsize : source.SameSize destination) :
  out = source.map e.recolour
  := by
  have hout : out.SameSize source := h.sameSize.trans hsize.symm
  apply ext_get (hout.trans (sameSize_map _ source).symm)
  intro x hx y hy
  rw [hout.1] at hx
  rw [hout.2] at hy
  rw [get_map _ source hx hy]
  apply h.get_eq x (hsize.1 ▸ hx) y (hsize.2 ▸ hy) trivial

end PaintedWhere

/-! ### Row by row -/

/-- The pixel that begins at place `4 * i` of a list of samples. -/
def pixelAt (samples : List UInt8) (i : Nat) : Pixel :=
  ⟨samples.getD (4 * i) 0, samples.getD (4 * i + 1) 0, samples.getD (4 * i + 2) 0,
    samples.getD (4 * i + 3) 0⟩

theorem get_eq_pixelAt (image : Image) (x y : Nat) :
  image.get x y = pixelAt image.samples.toList (y * image.width + x)
  := by
  simp [get, pixelAt, offset, Array.getD_eq_getD_getElem?, List.getD_eq_getElem?_getD]

theorem pixelAt_append_left {samples : List UInt8} {i : Nat} (hi : 4 * i + 4 ≤ samples.length)
    (more : List UInt8) :
  pixelAt (samples ++ more) i = pixelAt samples i
  := by
  simp only [pixelAt]
  congr 1 <;> apply List.getD_append <;> omega

theorem pixelAt_append_right {samples : List UInt8} {n i : Nat} (hn : samples.length = 4 * n)
    (hi : n ≤ i) (more : List UInt8) :
  pixelAt (samples ++ more) i = pixelAt more (i - n)
  := by
  simp only [pixelAt]
  congr 1 <;> rw [List.getD_append_right _ _ _ _ (by omega)] <;> congr 1 <;> omega

theorem exists_four {samples : List UInt8} (h : 4 ≤ samples.length) :
  ∃ red green blue alpha rest, samples = red :: green :: blue :: alpha :: rest
  := by
  obtain _ | ⟨red, _ | ⟨green, _ | ⟨blue, _ | ⟨alpha, rest⟩⟩⟩⟩ := samples
  · simp at h
  · simp at h
  · simp at h
  · simp at h
  · use red, green, blue, alpha, rest

theorem pixelAt_paintRow (e : Expression) {destination source : List UInt8}
    (hlength : destination.length = source.length) {i : Nat} (hi : 4 * i + 4 ≤ source.length) :
  pixelAt (paintRow e destination source) i = e.recolour (pixelAt source i)
  := by
  fun_induction paintRow e destination source generalizing i with
  | case1 _ _ _ _ destination red green blue alpha source ih =>
    cases i with
    | zero => rfl
    | succ i =>
      rw [pixelAt_append_right (n := 1) rfl (by omega)]
      have hfour : [red, green, blue, alpha].length = 4 * 1 := rfl
      have h : pixelAt (red :: green :: blue :: alpha :: source) (i + 1) = pixelAt source i :=
        pixelAt_append_right hfour (by omega) source
      rw [h]
      apply ih
      · simpa using hlength
      · simp only [List.length_cons] at hi
        omega
  | case2 destination source hshort =>
    have hfour : 4 ≤ source.length := by omega
    obtain ⟨_, _, _, _, _, hsource⟩ := exists_four hfour
    obtain ⟨_, _, _, _, _, hdestination⟩ := exists_four (hlength ▸ hfour)
    apply absurd hsource
    apply hshort _ _ _ _ _ _ _ _ _ _ hdestination

/-- The rows are cut at whole pixels, so each pixel is painted in the row it lies in. -/
theorem pixelAt_paintChunks (e : Expression) {width n : Nat} (hwidth : 0 < width)
    {destination source : List UInt8} (hdestination : destination.length = 4 * n)
    (hsource : source.length = 4 * n) {i : Nat} (hi : i < n) :
  pixelAt (paintChunks e (4 * width) destination source) i = e.recolour (pixelAt source i)
  := by
  generalize hsize : 4 * width = size
  fun_induction paintChunks e size destination source generalizing n i with
  | case1 destination source hend =>
    exfalso
    obtain hend | rfl := hend
    · omega
    · simp at hdestination
      omega
  | case2 destination source hmore ih =>
    have hrow := length_paintRow e (destination.take size) (source.take size)
    rw [List.length_take] at hrow
    by_cases hfirst : i < width
    · have hshort : 4 * i + 4 ≤ (source.take size).length := by
        rw [List.length_take]
        omega
      rw [pixelAt_append_left (by omega), pixelAt_paintRow e (by simp; omega) hshort,
        ← pixelAt_append_left hshort (source.drop size), List.take_append_drop]
    · have htake : (source.take size).length = 4 * width := by
        rw [List.length_take]
        omega
      have hrest : pixelAt source i = pixelAt (source.drop size) (i - width) := by
        rw [← pixelAt_append_right htake (by omega), List.take_append_drop]
      rw [pixelAt_append_right (n := width) (by omega) (by omega), hrest]
      apply ih (n := n - width)
      · rw [List.length_drop]
        omega
      · rw [List.length_drop]
        omega
      · omega

/-! ### Both ways together -/

theorem sizeFault?_eq_none_iff :
  sizeFault? source destination = none ↔ source.SameSize destination
  := by
  simp [sizeFault?, SameSize]

theorem paintPixels_eq_map (e : Expression) (hsize : source.SameSize destination) :
  paintPixels e source destination = (.ok (), source.map e.recolour)
  := by
  rw [paintPixels, sizeFault?_eq_none_iff.mpr hsize]
  rw [← (PaintedWhere.paintLines hsize).eq_map hsize]

theorem paintRows_eq_map (e : Expression) (hsize : source.SameSize destination) :
  paintRows e source destination = (.ok (), source.map e.recolour)
  := by
  rw [paintRows, sizeFault?_eq_none_iff.mpr hsize]
  simp only [Prod.mk.injEq, true_and]
  apply ext_get
  · exact ⟨hsize.1.symm, hsize.2.symm⟩
  · intro x hx y hy
    rw [← hsize.1] at hx
    rw [← hsize.2] at hy
    rw [get_map _ source hx hy, get_eq_pixelAt, get_eq_pixelAt]
    simp only [← hsize.1]
    apply pixelAt_paintChunks (n := source.width * source.height)
    · omega
    · simp [destination.size_samples, hsize.1, hsize.2]
    · simp [source.size_samples]
    · apply cell_lt hx hy

/-- Painting into a destination of the size of the source. -/
theorem paint_eq_map (byRows : Bool) (e : Expression) (hsize : source.SameSize destination) :
  paint byRows e source destination = (.ok (), source.map e.recolour)
  := by
  cases byRows
  · apply paintPixels_eq_map e hsize
  · apply paintRows_eq_map e hsize

/-- The two ways of painting give the same answer and leave the same destination: the
recoloured source, whatever was there before, if the sizes agree, and otherwise the former
destination under one and the same error. -/
theorem paintPixels_eq_paintRows (e : Expression) (source destination : Image) :
  paintPixels e source destination = paintRows e source destination
    ∧ paintRows e source destination
      = if source.SameSize destination then (.ok (), source.map e.recolour)
        else (.error (.apply ("destination is " ++ toString destination.width ++ "x"
          ++ toString destination.height ++ " but source is " ++ toString source.width ++ "x"
          ++ toString source.height)), destination)
  := by
  by_cases hsize : source.SameSize destination
  · rw [if_pos hsize, paintPixels_eq_map e hsize, paintRows_eq_map e hsize]
    exact ⟨rfl, rfl⟩
  · have hfault : sizeFault? source destination
        = some (.apply ("destination is " ++ toString destination.width ++ "x"
          ++ toString destination.height ++ " but source is " ++ toString source.width ++ "x"
          ++ toString source.height)) := if_neg hsize
    rw [if_neg hsize, paintPixels, paintRows, hfault]
    exact ⟨rfl, rfl⟩

end Recolour.Image
