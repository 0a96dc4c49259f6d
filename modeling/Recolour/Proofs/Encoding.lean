import Recolour.Proofs.Registry

/-!
# What builtin formats write

An encoder of a builtin format stops with an error about the image and with no other.  The one of
PNM files does so before it writes anything if its options name no variant.
-/

namespace Recolour

variable {library : Library} {format : Format} {options : EncoderOptions} {error : Error}

/-! ### Ends of encoders -/

namespace Written

variable {ε : Type} {written : Written ε}

theorem eq_whole_iff {bytes : List UInt8} :
  written = .whole bytes ↔ written.error? = none ∧ written.bytes = bytes
  := by
  obtain ⟨bytes, error?⟩ := written
  simp [whole, and_comm]

theorem outcome_eq_ok_iff :
  written.outcome = .ok () ↔ written = .whole written.bytes
  := by
  obtain ⟨bytes, _ | error⟩ := written <;> simp [outcome, whole]

theorem outcome_eq_error_iff {error : ε} :
  written.outcome = .error error ↔ written = ⟨written.bytes, some error⟩
  := by
  obtain ⟨bytes, _ | other⟩ := written <;> simp [outcome]

end Written

/-! ### Builtin formats -/

theorem error_of_mapError {written : Written String}
    (h : (written.mapError Error.image).error? = some error) :
  ∃ detail, error = .image detail
  := by
  obtain ⟨detail, -, rfl⟩ := Option.map_eq_some_iff.mp h
  exact ⟨detail, rfl⟩

/-- An encoder that stops before the end does so with an error about the image. -/
theorem error_of_encode (hformat : format ∈ (Registry.builtin library).formats) {image : Image}
    (h : (format.encode options image).error? = some error) :
  ∃ detail, error = .image detail
  := by
  simp only [Registry.builtin_formats, List.mem_cons, List.not_mem_nil, or_false] at hformat
  obtain rfl | rfl | rfl | rfl := hformat
  · apply error_of_mapError h
  · apply error_of_mapError h
  · apply error_of_mapError h
  · simp only [Pnm.format] at h
    split at h
    · apply error_of_mapError h
    · obtain rfl := Option.some.inj h
      exact ⟨_, rfl⟩

/-- The first extension of a builtin format is a plain name, and no format before that one has
it. -/
theorem exists_extension_of_mem (hformat : format ∈ (Registry.builtin library).formats) :
  ∃ extension, format.extensions.head? = some extension ∧ extension ≠ "" ∧
    '/' ∉ extension.toList ∧ '.' ∉ extension.toList ∧
    (Registry.builtin library).formats.find? (·.hasExtension extension) = some format
  := by
  rw [Registry.builtin_formats] at hformat ⊢
  simp only [List.mem_cons, List.not_mem_nil, or_false] at hformat
  obtain rfl | rfl | rfl | rfl := hformat
  all_goals exact ⟨_, rfl, by decide, by decide, by decide, rfl⟩

/-! ### PNM files -/

namespace Pnm

variable {variant : Variant}

theorem ofName?_eq_some_iff {name : String} :
  Variant.ofName? name = some variant ↔ variant.name = name
  := by
  constructor
  · intro h
    simpa using List.find?_some h
  · rintro rfl
    cases variant <;> rfl

theorem encode_of_name (library : Library) (image : Image)
    (h : variantName options = variant.name) :
  (Pnm.format library).encode options image =
    (library.writePnm variant image.width image.height (samples library variant image)).mapError
      .image
  := by
  simp only [Pnm.format, ofName?_eq_some_iff.mpr h.symm]

theorem encode_of_not_mem (library : Library) (image : Image)
    (h : variantName options ∉ ["p2", "p3", "p5", "p6"]) :
  (Pnm.format library).encode options image = .refused (badVariant (variantName options))
  := by
  have hname : Variant.ofName? (variantName options) = none := by
    rw [Option.eq_none_iff_forall_ne_some]
    intro variant hvariant
    rw [← ofName?_eq_some_iff.mp hvariant] at h
    apply h
    cases variant <;> decide
  simp only [Pnm.format, hname]

end Pnm

end Recolour
