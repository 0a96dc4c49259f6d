import Mathlib.Data.Set.List
import Recolour.Proofs.Text.Fields
import Recolour.Proofs.Text.Lines
import Recolour.Text.Utf8

/-!
# UTF-8

A list of bytes is decoded exactly when it is the encoding of a text. A character of one byte
stands in a text just where its byte stands in the encoding, so cutting an encoding at such a
byte cuts the text, and the lines of an encoding are the encodings of the lines.
-/

namespace Recolour.Utf8

theorem encode_append (cs ds : List Char) :
  encode (cs ++ ds) = encode cs ++ encode ds
  := List.flatMap_append

theorem encode_cons (c : Char) (cs : List Char) :
  encode (c :: cs) = String.utf8EncodeChar c ++ encode cs
  := List.flatMap_cons

theorem encode_singleton (c : Char) :
  encode [c] = String.utf8EncodeChar c
  := List.flatMap_singleton _ _

theorem encode_eq_nil_iff {cs : List Char} :
  encode cs = [] ↔ cs = []
  := by
  cases cs with
  | nil => simp [encode]
  | cons c cs =>
    have hc : 0 < (String.utf8EncodeChar c).length := by
      rw [String.length_utf8EncodeChar]
      apply Char.utf8Size_pos
    simp [encode_cons, List.ne_nil_of_length_pos hc]

theorem fromUTF8?_eq_some_iff {bytes : ByteArray} {s : String} :
  String.fromUTF8? bytes = some s ↔ bytes = s.toByteArray
  := by
  rw [String.fromUTF8?]
  constructor
  · intro h
    split at h
    · rw [← Option.some.inj h]
      rfl
    · cases h
  · rintro rfl
    rw [dif_pos s.isValidUTF8]
    rfl

theorem mk_toArray_eq_toByteArray_iff {bytes : List UInt8} {s : String} :
  ByteArray.mk bytes.toArray = s.toByteArray ↔ bytes = encode s.toList
  := by
  rw [← String.utf8Encode_toList, List.utf8Encode, ← List.data_toByteArray, List.toByteArray_inj,
    encode]

/-- Decoding is the inverse of encoding, on exactly the encodings. -/
theorem decode_eq_some_iff {bytes : List UInt8} {cs : List Char} :
  decode bytes = some cs ↔ bytes = encode cs
  := by
  simp only [decode, Option.map_eq_some_iff, fromUTF8?_eq_some_iff, mk_toArray_eq_toByteArray_iff]
  constructor
  · rintro ⟨s, hs, rfl⟩
    apply hs
  · rintro rfl
    exact ⟨String.ofList cs, by rw [String.toList_ofList], String.toList_ofList⟩

/-! ### Characters of one byte -/

variable {m r : Char} {b d : UInt8}

theorem toNat_of_utf8EncodeChar_eq (hm : String.utf8EncodeChar m = [b]) :
  m.val.toNat = b.toNat ∧ m.val.toNat < 128
  := by
  rw [String.utf8EncodeChar] at hm
  split at hm
  case isTrue h =>
    rw [← (List.cons.inj hm).1, UInt8.toNat_ofNat']
    omega
  case isFalse =>
    split at hm
    · simp at hm
    · split at hm <;> simp at hm

/-- The bytes of a character of several bytes are no characters of one byte. -/
theorem le_toNat_of_mem_utf8EncodeChar {c : Char} (hc : 128 ≤ c.val.toNat)
    (h : b ∈ String.utf8EncodeChar c) :
  128 ≤ b.toNat
  := by
  rw [String.utf8EncodeChar, if_neg (by omega)] at h
  split at h
  · simp only [List.mem_cons, List.not_mem_nil, or_false] at h
    obtain rfl | rfl := h <;> rw [UInt8.toNat_ofNat'] <;> omega
  · split at h
    · simp only [List.mem_cons, List.not_mem_nil, or_false] at h
      obtain rfl | rfl | rfl := h <;> rw [UInt8.toNat_ofNat'] <;> omega
    · simp only [List.mem_cons, List.not_mem_nil, or_false] at h
      obtain rfl | rfl | rfl | rfl := h <;> rw [UInt8.toNat_ofNat'] <;> omega

theorem eq_of_mem_utf8EncodeChar (hm : String.utf8EncodeChar m = [b]) {c : Char}
    (hc : b ∈ String.utf8EncodeChar c) :
  c = m
  := by
  obtain ⟨hb, hlt⟩ := toNat_of_utf8EncodeChar_eq hm
  have hsmall : c.val.toNat < 128 := by
    by_contra hlarge
    have := le_toNat_of_mem_utf8EncodeChar (by omega) hc
    omega
  have hone : String.utf8EncodeChar c = [UInt8.ofNat c.val.toNat] := by
    rw [String.utf8EncodeChar, if_pos (by omega)]
  rw [hone, List.mem_singleton] at hc
  apply Char.ext
  apply UInt32.toNat.inj
  rw [hb, hc, UInt8.toNat_ofNat']
  omega

theorem mem_encode_iff (hm : String.utf8EncodeChar m = [b]) {cs : List Char} :
  b ∈ encode cs ↔ m ∈ cs
  := by
  rw [encode, List.mem_flatMap]
  constructor
  · rintro ⟨c, hcs, hc⟩
    rwa [← eq_of_mem_utf8EncodeChar hm hc]
  · intro hcs
    exact ⟨m, hcs, by simp [hm]⟩

/-! ### Lines of an encoding -/

theorem encode_intercalate (hm : String.utf8EncodeChar m = [b]) (pieces : List (List Char)) :
  encode ([m].intercalate pieces) = [b].intercalate (pieces.map encode)
  := by
  induction pieces with
  | nil => rfl
  | cons piece pieces ih =>
    cases pieces with
    | nil => simp
    | cons next pieces =>
      rw [List.intercalate_cons_cons, encode_append, encode_append, ih, encode_singleton, hm,
        List.map_cons, List.map_cons, List.map_cons, List.intercalate_cons_cons]

theorem splitOn_encode (hm : String.utf8EncodeChar m = [b]) (cs : List Char) :
  (encode cs).splitOn b = (cs.splitOn m).map encode
  := by
  have hpieces : ∀ piece ∈ (cs.splitOn m).map encode, b ∉ piece := by
    intro piece hpiece
    obtain ⟨text, htext, rfl⟩ := List.mem_map.mp hpiece
    rw [mem_encode_iff hm]
    intro hmem
    simpa using Text.not_of_mem_splitOnP htext m hmem
  calc (encode cs).splitOn b
      = ([b].intercalate ((cs.splitOn m).map encode)).splitOn b := by
        rw [← encode_intercalate hm, List.intercalate_splitOn]
    _ = (cs.splitOn m).map encode := by
        apply List.splitOn_intercalate b hpieces
        simp

theorem getLast?_of_getLast?_encode (hm : String.utf8EncodeChar m = [b]) {line : List Char}
    (h : (encode line).getLast? = some b) :
  line.getLast? = some m
  := by
  obtain rfl | ⟨init, c, rfl⟩ := line.eq_nil_or_concat
  · simp [encode] at h
  · rw [List.concat_eq_append] at h ⊢
    have hne : String.utf8EncodeChar c ≠ [] := by
      rw [← encode_singleton, ne_eq, encode_eq_nil_iff]
      simp
    have hlast : b ∈ String.utf8EncodeChar c := by
      rw [encode_append, encode_singleton, List.getLast?_append,
        List.getLast?_eq_some_getLast hne, Option.some_or, Option.some.injEq] at h
      rw [← h]
      apply List.getLast_mem
    rw [List.getLast?_concat, eq_of_mem_utf8EncodeChar hm hlast]

theorem dropLastMark_encode (hm : String.utf8EncodeChar m = [b]) (line : List Char) :
  Text.dropLastMark b (encode line) = encode (Text.dropLastMark m line)
  := by
  by_cases hlast : line.getLast? = some m
  · obtain ⟨init, rfl⟩ := List.getLast?_eq_some_iff.mp hlast
    rw [Text.dropLastMark_concat, encode_append, encode_singleton, hm, Text.dropLastMark_concat]
  · rw [Text.dropLastMark_of_getLast?_ne hlast, Text.dropLastMark_of_getLast?_ne]
    intro h
    apply hlast (getLast?_of_getLast?_encode hm h)

/-- The lines of an encoding are the encodings of the lines. -/
theorem linesBy_encode (hm : String.utf8EncodeChar m = [b]) (hr : String.utf8EncodeChar r = [d])
    (cs : List Char) :
  Text.linesBy b d (encode cs) = (Text.linesBy m r cs).map encode
  := by
  obtain ⟨init, last, hsplit⟩ := Text.exists_splitOn_eq m cs
  have hencode : (encode cs).splitOn b = init.map encode ++ [encode last] := by
    rw [splitOn_encode hm, hsplit, List.map_append, List.map_singleton]
  rw [Text.linesBy_eq hsplit, Text.linesBy_eq hencode, List.map_append, List.map_map, List.map_map]
  congr 1
  · apply List.map_congr_left
    intro line _
    apply dropLastMark_encode hr
  · simp only [List.isEmpty_iff, encode_eq_nil_iff]
    split <;> rfl

/-- Bytes whose lines are all encodings are an encoding. -/
theorem exists_eq_encode_of_linesBy (hm : String.utf8EncodeChar m = [b])
    (hr : String.utf8EncodeChar r = [d]) {bytes : List UInt8}
    (h : ∀ line ∈ Text.linesBy b d bytes, line ∈ Set.range encode) :
  bytes ∈ Set.range encode
  := by
  obtain ⟨init, last, hsplit⟩ := Text.exists_splitOn_eq b bytes
  rw [Text.linesBy_eq hsplit] at h
  have hpieces : init ++ [last] ∈ {pieces | ∀ piece ∈ pieces, piece ∈ Set.range encode} := by
    intro piece hpiece
    rw [List.mem_append, List.mem_singleton] at hpiece
    obtain hinit | rfl := hpiece
    · obtain ⟨cs, hcs⟩ := h _ (List.mem_append_left _ (List.mem_map_of_mem hinit))
      obtain hsame | hmark := Text.dropLastMark_eq_or d piece
      · use cs
        rw [hcs, hsame]
      · use cs ++ [r]
        rw [encode_append, hcs, encode_singleton, hr, ← hmark]
    · cases piece with
      | nil => use []; rfl
      | cons x piece => apply h; simp
  rw [← Set.range_list_map] at hpieces
  obtain ⟨pieces, hpieces⟩ := hpieces
  use [m].intercalate pieces
  rw [encode_intercalate hm, hpieces, ← hsplit, List.intercalate_splitOn]

theorem mapM_decode_eq_some_iff {lines : List (List UInt8)} {texts : List (List Char)} :
  lines.mapM decode = some texts ↔ lines = texts.map encode
  := by
  induction lines generalizing texts with
  | nil => cases texts <;> simp
  | cons line lines ih =>
    rw [List.mapM_cons]
    simp only [Option.bind_eq_bind, Option.bind_eq_some_iff, Option.pure_def, Option.some.injEq,
      decode_eq_some_iff, ih]
    constructor
    · rintro ⟨text, rfl, more, rfl, rfl⟩
      rfl
    · intro h
      cases texts with
      | nil => simp at h
      | cons text more =>
        rw [List.map_cons, List.cons.injEq] at h
        exact ⟨text, h.1, more, h.2, rfl⟩

end Recolour.Utf8
