import Recolour.Text.Digits

/-!
# Digits

A digit is an ASCII character, so it takes one byte.  The decimal numeral of a number is read
back as that number.
-/

namespace Recolour.Text

theorem toNat_of_isDigitOf {base : Nat} {c : Char} (h : isDigitOf base c = true) :
  (48 ≤ c.toNat ∧ c.toNat ≤ 57) ∨ (65 ≤ c.toNat ∧ c.toNat ≤ 70)
    ∨ (97 ≤ c.toNat ∧ c.toNat ≤ 102)
  := by
  rw [isDigitOf, digit?, Option.isSome_iff_exists] at h
  obtain ⟨value, hvalue⟩ := h
  have hdigit := (Option.filter_eq_some_iff.mp hvalue).1
  simp only [hexDigit?, Bool.and_eq_true, decide_eq_true_eq] at hdigit
  grind

theorem toNat_lt_of_isDigitOf {base : Nat} {c : Char} (h : isDigitOf base c = true) :
  c.toNat < 128
  := by
  have hrange := toNat_of_isDigitOf h
  omega

theorem getD_digit?_lt {base : Nat} (hbase : 0 < base) (c : Char) :
  (digit? base c).getD 0 < base
  := by
  cases hdigit : digit? base c with
  | none => apply hbase
  | some value =>
    rw [digit?, Option.filter_eq_some_iff] at hdigit
    simpa using hdigit.2

theorem utf8Size_of_isDigitOf {base : Nat} {c : Char} (h : isDigitOf base c = true) :
  c.utf8Size = 1
  := by
  have hascii := toNat_lt_of_isDigitOf h
  rw [Char.utf8Size_eq_one_iff, UInt32.le_iff_toNat_le]
  apply Nat.le_of_lt_succ hascii

/-! ### Decimal numerals -/

theorem toNat_of_isDigit {c : Char} (h : c.isDigit = true) :
  48 ≤ c.toNat ∧ c.toNat ≤ 57
  := by
  simpa [Char.isDigit, UInt32.le_iff_toNat_le] using h

theorem digit?_ten {c : Char} (h : c.isDigit = true) :
  digit? 10 c = some (c.toNat - '0'.toNat)
  := by
  have hrange := toNat_of_isDigit h
  have hzero : '0'.toNat = 48 := rfl
  have hvalue : hexDigit? c = some (c.toNat - 48) := by simp [hexDigit?, hrange]
  have hlt : c.toNat - 48 < 10 := by omega
  rw [digit?, hvalue, hzero]
  simp [hlt]

theorem isDigitOf_ten {c : Char} (h : c.isDigit = true) :
  isDigitOf 10 c = true
  := by
  rw [isDigitOf, digit?_ten h]
  rfl

theorem foldl_toDigits {cs : List Char} (h : ∀ c ∈ cs, c.isDigit = true) (n : Nat) :
  cs.foldl (fun n c => n * 10 + (digit? 10 c).getD 0) n = Nat.ofDigitChars 10 cs n
  := by
  induction cs generalizing n with
  | nil => rfl
  | cons c cs ih =>
    rw [List.forall_mem_cons] at h
    rw [List.foldl_cons, ih h.2, Nat.ofDigitChars_cons, digit?_ten h.1, Option.getD_some,
      Nat.mul_comm]

theorem isDigit_of_mem_toDigits {n : Nat} {c : Char} (h : c ∈ Nat.toDigits 10 n) :
  c.isDigit = true
  := Nat.isDigit_of_mem_toDigits (by decide) (by decide) h

/-- The decimal numeral of a number denotes it. -/
theorem numeral_toDigits (n : Nat) :
  numeral 10 (Nat.toDigits 10 n) = n
  := by
  rw [numeral, foldl_toDigits fun _ => isDigit_of_mem_toDigits, Nat.ofDigitChars_ten_toDigits]

end Recolour.Text
