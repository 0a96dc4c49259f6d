import Recolour.Proofs.Legality
import Recolour.Proofs.Pixels
import Recolour.Proofs.Recolouring
import Recolour.Proofs.Running

/-!
# Planes that are not written

An expression whose produce rule has a wildcard in a plane leaves the samples of that plane as they
are, be a pixel accepted or not, and whatever becomes of the other planes.  So does any program of
such expressions, in all its steps.  A plane of an image is read off the array of its samples, at
every fourth place.
-/

namespace Recolour

/-! ### Planes of an image -/

namespace Image

/-- The samples of a plane in reading order. -/
def plane (image : Image) (plane : Plane) : List UInt8 :=
  (List.range (image.width * image.height)).map fun i =>
    image.samples.getD (4 * i + plane.index) 0

theorem plane_eq_map_pixels (image : Image) (plane : Plane) :
  image.plane plane = image.pixels.map fun p => p.get plane
  := by
  rw [Image.plane, pixels_eq, List.map_map, Nat.mul_comm image.height]
  apply List.map_congr_left
  intro i _
  rw [Function.comp_apply, get_get, offset, Nat.div_add_mod']

/-- A function that leaves a plane of every pixel as it is does so with images. -/
theorem plane_map {f : Pixel → Pixel} {plane : Plane} (hf : ∀ p, (f p).get plane = p.get plane)
    (image : Image) :
  (image.map f).plane plane = image.plane plane
  := by
  rw [plane_eq_map_pixels, plane_eq_map_pixels, pixels_map, List.map_map]
  apply List.map_congr_left
  intro p _
  apply hf

end Image

/-! ### Expressions -/

namespace Expression

variable {e : Expression} {steps : List Expression} {plane : Plane}

/-- The expression leaves the samples of a plane as they are. -/
def Keeps (plane : Plane) (e : Expression) : Prop :=
  e.formula.get plane = .wildcard

instance : Decidable (e.Keeps plane) :=
  inferInstanceAs (Decidable (_ = _))

theorem Keeps.get_recolour (h : e.Keeps plane) (p : Pixel) :
  (e.recolour p).get plane = p.get plane
  := by
  rw [get_recolour_eq_ite, h]
  split
  · rfl
  · rfl

theorem get_recolourAll (h : ∀ e ∈ steps, e.Keeps plane) (p : Pixel) :
  (recolourAll steps p).get plane = p.get plane
  := by
  induction steps generalizing p with
  | nil => rfl
  | cons e steps ih =>
    rw [List.forall_mem_cons] at h
    apply (ih h.2 (e.recolour p)).trans
    apply h.1.get_recolour

theorem recolourAll_eq_self (h : ∀ plane, ∀ e ∈ steps, e.Keeps plane) (p : Pixel) :
  recolourAll steps p = p
  := by
  apply Pixel.ext_get
  intro plane
  apply get_recolourAll (h plane)

end Expression

/-! ### Runs -/

namespace Program

/-- A run leaves every plane as it is that no expression of the program writes, and the whole image
if none writes any. -/
theorem run_keeps_planes (p : Program) (byRows : Bool) (image : Image) :
  ∃ x, p.run byRows image = .ok x ∧ x.image.SameSize image
    ∧ (∀ plane, (∀ e ∈ p.expressions, e.Keeps plane) →
      x.image.plane plane = image.plane plane)
    ∧ ((∀ plane, ∀ e ∈ p.expressions, e.Keeps plane) → x.image = image)
  := by
  obtain ⟨x, hrun, himage, -⟩ := p.exists_run byRows image
  use x, hrun
  rw [himage]
  use Image.sameSize_map _ image
  constructor
  · intro plane hkeeps
    apply Image.plane_map (Expression.get_recolourAll hkeeps)
  · intro hkeeps
    rw [funext (Expression.recolourAll_eq_self hkeeps)]
    apply Image.map_id

/-- Four lines, of which one is skipped and one is rejected, write all planes but blue, and a line
that only matches writes none. -/
theorem run_keeps_blue :
  (∃ x, (parse "m" "? ? ? ?  +50% #b ? 7\n1 2\n+1 ? ? ?  9 9 9 9\n<5 ? ? ?  9 -1 ? #r").run true
        ⟨2, 1, #[1, 2, 3, 4, 200, 100, 0, 5], rfl⟩ = .ok x
      ∧ x.image.plane .blue = [3, 0])
    ∧ ∃ x, (parse "m" "<5 ? ? ?  ? ? ? ?").run false ⟨1, 1, #[1, 2, 3, 4], rfl⟩ = .ok x
      ∧ x.image = ⟨1, 1, #[1, 2, 3, 4], rfl⟩
  := by
  constructor
  · obtain ⟨x, hrun, -, hplane, -⟩ := run_keeps_planes
      (parse "m" "? ? ? ?  +50% #b ? 7\n1 2\n+1 ? ? ?  9 9 9 9\n<5 ? ? ?  9 -1 ? #r") true
      ⟨2, 1, #[1, 2, 3, 4, 200, 100, 0, 5], rfl⟩
    use x, hrun
    apply (hplane .blue (by decide +kernel)).trans
    rfl
  · obtain ⟨x, hrun, -, -, hequal⟩ := run_keeps_planes (parse "m" "<5 ? ? ?  ? ? ? ?") false
      ⟨1, 1, #[1, 2, 3, 4], rfl⟩
    use x, hrun
    apply hequal
    intro plane
    cases plane <;> decide +kernel

end Program

end Recolour
