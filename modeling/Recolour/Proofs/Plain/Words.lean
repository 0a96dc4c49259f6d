import Recolour.Plain.Pnm.Parser
import Recolour.Proofs.Pnm.Layout
import Recolour.Proofs.Text.Digits
import Recolour.Proofs.Text.Utf8

/-!
# Words of PNM files

The numbers of a header and the samples of a text variant are decimal numerals with blanks
between them, wherever the lines end.  The stream that cuts lines writes such bytes, and the
reader finds in them just the samples they spell.
-/

namespace Recolour.Plain.Pnm

open Recolour.Pnm (IsBlank IsText numeral)

/-! ### Numerals -/

/-- The byte is a decimal digit. -/
def IsDigit (b : UInt8) : Prop :=
  48 ≤ b.toNat ∧ b.toNat ≤ 57

theorem encode_of_isDigit {cs : List Char} (h : ∀ c ∈ cs, c.isDigit = true) :
  Utf8.encode cs = cs.map fun c => c.val.toUInt8
  := by
  induction cs with
  | nil => rfl
  | cons c cs ih =>
    rw [List.forall_mem_cons] at h
    have hsize := Text.utf8Size_of_isDigitOf (Text.isDigitOf_ten h.1)
    rw [Utf8.encode_cons, String.utf8EncodeChar_eq_singleton hsize, ih h.2, List.map_cons,
      List.singleton_append]

theorem toNat_toUInt8_of_isDigit {c : Char} (h : c.isDigit = true) :
  c.val.toUInt8.toNat = c.toNat
  := by
  have hrange := Text.toNat_of_isDigit h
  rw [UInt32.toNat_toUInt8]
  change c.toNat % 2 ^ 8 = c.toNat
  omega

theorem numeral_eq (n : Nat) :
  numeral n = (Nat.toDigits 10 n).map fun c => c.val.toUInt8
  := encode_of_isDigit fun _ => Text.isDigit_of_mem_toDigits

theorem isDigit_of_mem_numeral {n : Nat} {b : UInt8} (h : b ∈ numeral n) :
  IsDigit b
  := by
  rw [numeral_eq] at h
  obtain ⟨c, hc, rfl⟩ := List.mem_map.mp h
  have hdigit := Text.isDigit_of_mem_toDigits hc
  rw [IsDigit, toNat_toUInt8_of_isDigit hdigit]
  apply Text.toNat_of_isDigit hdigit

theorem numeral_ne_nil (n : Nat) :
  numeral n ≠ []
  := by
  rw [numeral_eq, ne_eq, List.map_eq_nil_iff]
  apply Nat.toDigits_ne_nil

theorem asciiChars_numeral (n : Nat) :
  asciiChars (numeral n) = Nat.toDigits 10 n
  := by
  rw [numeral_eq, asciiChars, List.map_map]
  apply Eq.trans (List.map_congr_left _) (List.map_id _)
  intro c hc
  have hbyte := toNat_toUInt8_of_isDigit (Text.isDigit_of_mem_toDigits hc)
  simp only [Function.comp_apply, hbyte, Char.ofNat_toNat, id_eq]

theorem number?_numeral (n : Nat) :
  number? (numeral n) = some n
  := by
  have hdigits : ∀ c ∈ Nat.toDigits 10 n, c.isDigit = true := fun _ => Text.isDigit_of_mem_toDigits
  have hdecimal : Text.decimal? (Nat.toDigits 10 n) = some n := by
    have hall : (Nat.toDigits 10 n).all (Text.isDigitOf 10) = true := by
      rw [List.all_eq_true]
      intro c hc
      apply Text.isDigitOf_ten (hdigits c hc)
    simp [Text.decimal?, hall, Nat.toDigits_ne_nil, Text.numeral_toDigits]
  rw [number?, asciiChars_numeral]
  split
  · rename_i rest hplus
    have hfirst := hdigits '+' (by rw [hplus]; apply List.mem_cons_self)
    cases hfirst
  · apply hdecimal

theorem IsDigit.isSpace_eq {b : UInt8} (h : IsDigit b) :
  isSpace b = false
  := by
  obtain ⟨hlow, hhigh⟩ := h
  simp [isSpace, UInt8.le_iff_toNat_le, ← UInt8.toNat_inj]
  omega

theorem isSpace_of_isBlank {b : UInt8} (h : IsBlank b) :
  isSpace b = true
  := by
  simpa [isSpace, IsBlank] using h

/-! ### Headers -/

theorem headerWord_append {word acc bytes : List UInt8} {b : UInt8} (hword : ∀ d ∈ word, IsDigit d)
    (hb : isSpace b = true) (hne : acc.reverse ++ word ≠ []) :
  headerWord false acc (word ++ b :: bytes) = some (acc.reverse ++ word, bytes)
  := by
  induction word generalizing acc with
  | nil =>
    have hacc : acc.isEmpty = false := by simpa using hne
    have hcomment : (b == 35) = false := by
      rw [beq_eq_false_iff_ne]
      rintro rfl
      cases hb
    simp [headerWord, hb, hcomment, hacc]
  | cons d word ih =>
    rw [List.forall_mem_cons] at hword
    obtain ⟨hd, hword⟩ := hword
    have hcomment : (d == 35) = false := by
      rw [beq_eq_false_iff_ne]
      rintro rfl
      apply absurd hd.1 (by decide)
    have hascii : ¬128 ≤ d := by
      have hhigh := hd.2
      rw [UInt8.le_iff_toNat_le]
      change ¬128 ≤ d.toNat
      omega
    have hmore : (d :: acc).reverse ++ word = acc.reverse ++ d :: word := by simp
    have hrest := ih hword (by simp : (d :: acc).reverse ++ word ≠ [])
    rw [List.cons_append, headerWord, if_neg (by decide), hcomment, if_neg (by decide),
      hd.isSpace_eq, if_neg (by decide), if_neg hascii, hrest, hmore]

theorem headerNumber_blank {b : UInt8} (hb : IsBlank b) (bytes : List UInt8) :
  headerNumber (b :: bytes) = headerNumber bytes
  := by
  have hcomment : (b == 35) = false := by
    rw [beq_eq_false_iff_ne]
    rintro rfl
    revert hb
    decide
  have hword : headerWord false [] (b :: bytes) = headerWord false [] bytes := by
    simp [headerWord, isSpace_of_isBlank hb, hcomment]
  rw [headerNumber, hword, headerNumber]

/-- A header number ends at the blank after it. -/
theorem headerNumber_numeral {n : Nat} (hn : n < UInt32.size) {b : UInt8} (hb : IsBlank b)
    (bytes : List UInt8) :
  headerNumber (numeral n ++ b :: bytes) = some (n, bytes)
  := by
  have hword : headerWord false [] (numeral n ++ b :: bytes) = some (numeral n, bytes) :=
    headerWord_append (fun _ => isDigit_of_mem_numeral) (isSpace_of_isBlank hb) (numeral_ne_nil n)
  simp [headerNumber, hword, number?_numeral, hn]

/-! ### Samples in text -/

/-- The reader finds the samples that are spelled. -/
theorem readNumerals_eq {samples bytes : List UInt8} (h : IsText samples bytes)
    (sofar : List UInt8) :
  readNumerals sofar samples.length bytes = some (sofar.reverse ++ samples)
  := by
  induction h generalizing sofar with
  | nil => rw [List.length_nil, readNumerals, List.append_nil]
  | @blank samples bytes b hb h ih =>
    have hb := isSpace_of_isBlank hb
    rw [← ih sofar]
    cases samples with
    | nil => rfl
    | cons sample samples =>
      simp only [List.length_cons, readNumerals, List.dropWhile_cons_of_pos hb]
  | @sample samples bytes b sample hb h ih =>
    have hb := isSpace_of_isBlank hb
    have hdigit : ∀ d ∈ numeral sample.toNat, isSpace d = false :=
      fun d hd => (isDigit_of_mem_numeral hd).isSpace_eq
    have hskip : (numeral sample.toNat ++ b :: bytes).dropWhile isSpace
        = numeral sample.toNat ++ b :: bytes := by
      obtain ⟨d, ds, hnumeral⟩ := List.exists_cons_of_ne_nil (numeral_ne_nil sample.toNat)
      have hfirst := hdigit d (by rw [hnumeral]; apply List.mem_cons_self)
      rw [hnumeral, List.cons_append, List.dropWhile_cons_of_neg (by simp [hfirst])]
    have hplain : ∀ d ∈ numeral sample.toNat, (!isSpace d) = true := by simpa using hdigit
    have htake : (numeral sample.toNat ++ b :: bytes).takeWhile (fun d => !isSpace d)
        = numeral sample.toNat := by
      rw [List.takeWhile_append_of_pos hplain, List.takeWhile_cons_of_neg (by simp [hb]),
        List.append_nil]
    have hdrop : (numeral sample.toNat ++ b :: bytes).dropWhile (fun d => !isSpace d)
        = b :: bytes := by
      rw [List.dropWhile_append_of_pos hplain, List.dropWhile_cons_of_neg (by simp [hb])]
    have hle := Nat.le_of_lt_succ sample.toNat_lt
    simp only [List.length_cons, readNumerals, hskip, htake, hdrop, number?_numeral, if_pos hle,
      UInt8.ofNat_toNat]
    rw [ih (sample :: sofar), List.reverse_cons, List.append_assoc, List.singleton_append]

/-- A chunk is added as it is, or on a new line. -/
theorem reverse_add (stream : Stream) (chunk : List Char) :
  ∃ gap ∈ [[], ['\n']],
    (stream.add chunk).reversed.reverse = stream.reversed.reverse ++ gap ++ chunk
  := by
  rw [Stream.add]
  split
  · use ['\n']
    simp
  · use []
    simp

theorem isText_gap_append {samples bytes : List UInt8} (h : IsText samples bytes)
    {gap : List Char} (hgap : gap ∈ [[], ['\n']]) :
  IsText samples (Utf8.encode gap ++ bytes)
  := by
  simp only [List.mem_cons, List.not_mem_nil, or_false] at hgap
  obtain rfl | rfl := hgap
  · apply h
  · apply IsText.blank (by decide) h

/-- The stream spells the samples, wherever its lines end. -/
theorem isText_foldl_add (samples : List UInt8) (stream : Stream) :
  ∃ text, ((samples.flatMap sampleChunks).foldl Stream.add stream).reversed.reverse
      = stream.reversed.reverse ++ text
    ∧ IsText samples (Utf8.encode text)
  := by
  induction samples generalizing stream with
  | nil => exact ⟨[], (List.append_nil _).symm, .nil⟩
  | cons sample samples ih =>
    obtain ⟨gap, hgap, hnumeral⟩ := reverse_add stream (Nat.toDigits 10 sample.toNat)
    obtain ⟨gap', hgap', hspace⟩ := reverse_add (stream.add (Nat.toDigits 10 sample.toNat)) [' ']
    obtain ⟨text, htext, h⟩ :=
      ih ((stream.add (Nat.toDigits 10 sample.toNat)).add [' '])
    have hchunks : (sampleChunks sample).foldl Stream.add stream
        = (stream.add (Nat.toDigits 10 sample.toNat)).add [' '] := rfl
    use gap ++ (Nat.toDigits 10 sample.toNat ++ (gap' ++ ' ' :: text))
    constructor
    · rw [List.flatMap_cons, List.foldl_append, hchunks, htext, hspace, hnumeral]
      simp
    · have hrest : IsText samples (Utf8.encode (' ' :: text)) := .blank (by decide) h
      rw [Utf8.encode_append, Utf8.encode_append, Utf8.encode_append]
      apply isText_gap_append _ hgap
      simp only [List.mem_cons, List.not_mem_nil, or_false] at hgap'
      obtain rfl | rfl := hgap'
      · apply IsText.sample sample (by decide) hrest
      · apply IsText.sample sample (by decide) (.blank (by decide) hrest)

theorem isText_textBody (samples : List UInt8) :
  IsText samples (Utf8.encode (textBody samples))
  := by
  obtain ⟨text, htext, h⟩ := isText_foldl_add samples ⟨0, []⟩
  rw [textBody, htext]
  apply h

end Recolour.Plain.Pnm
