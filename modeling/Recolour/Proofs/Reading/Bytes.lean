import Recolour.Program
import Recolour.Proofs.Text.Utf8

/-!
# Programs as bytes

Cutting bytes into lines and decoding each gives the program that decoding the bytes and cutting
the text gives, and refuses exactly the bytes that are no encoding of a text.
-/

namespace Recolour.Program

theorem utf8EncodeChar_newline :
  String.utf8EncodeChar '\n' = [10]
  := rfl

theorem utf8EncodeChar_return :
  String.utf8EncodeChar '\r' = [13]
  := rfl

theorem ofBytes_encode (source text : String) :
  ofBytes source (Utf8.encode text.toList) = .ok (parse source text)
  := by
  have hlines : Text.linesBy 10 13 (Utf8.encode text.toList) =
      (Text.lines text.toList).map Utf8.encode :=
    Utf8.linesBy_encode utf8EncodeChar_newline utf8EncodeChar_return text.toList
  rw [ofBytes, Utf8.mapM_decode_eq_some_iff.mpr hlines, parse]

theorem ofBytes_of_forall_ne (source : String) {bytes : List UInt8}
    (h : ∀ text : String, bytes ≠ Utf8.encode text.toList) :
  ofBytes source bytes = .error (.stream invalidText)
  := by
  rw [ofBytes]
  cases hdecode : (Text.linesBy 10 13 bytes).mapM Utf8.decode with
  | none => rfl
  | some texts =>
    have hlines : ∀ line ∈ Text.linesBy 10 13 bytes, line ∈ Set.range Utf8.encode := by
      intro line hline
      rw [Utf8.mapM_decode_eq_some_iff.mp hdecode] at hline
      obtain ⟨text, _, rfl⟩ := List.mem_map.mp hline
      apply Set.mem_range_self
    obtain ⟨cs, hcs⟩ := Utf8.exists_eq_encode_of_linesBy utf8EncodeChar_newline
      utf8EncodeChar_return hlines
    exfalso
    apply h (String.ofList cs)
    rw [String.toList_ofList, hcs]

/-- Bytes spell a program just when they are the UTF-8 encoding of a text, and then it is the
program of the text; all other bytes are refused as no text. -/
theorem ofBytes_eq_iff (source : String) (bytes : List UInt8) :
  (∀ p, ofBytes source bytes = .ok p ↔
    ∃ text : String, bytes = Utf8.encode text.toList ∧ p = parse source text) ∧
  (∀ error, ofBytes source bytes = .error error ↔
    error = .stream invalidText ∧ ∀ text : String, bytes ≠ Utf8.encode text.toList)
  := by
  by_cases h : ∃ text : String, bytes = Utf8.encode text.toList
  case pos =>
    obtain ⟨text, rfl⟩ := h
    constructor
    · intro p
      constructor
      · intro hp
        rw [ofBytes_encode, Except.ok.injEq] at hp
        use text, rfl, hp.symm
      · rintro ⟨other, hother, rfl⟩
        rw [hother, ofBytes_encode]
    · intro error
      constructor
      · intro herror
        rw [ofBytes_encode] at herror
        cases herror
      · rintro ⟨-, hnone⟩
        exact absurd rfl (hnone text)
  case neg =>
    rw [not_exists] at h
    rw [ofBytes_of_forall_ne source h]
    constructor
    · intro p
      constructor
      · intro hp
        cases hp
      · rintro ⟨text, htext, -⟩
        exact absurd htext (h text)
    · intro error
      rw [Except.error.injEq, eq_comm]
      exact (and_iff_left h).symm

end Recolour.Program
