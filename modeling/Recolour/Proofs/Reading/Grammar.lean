import Mathlib.Tactic.Use
import Recolour.Proofs.Reading.Token
import Recolour.Proofs.Text.Case
import Recolour.Proofs.Text.Digits
import Recolour.Proofs.Text.Fields

/-!
# The grammar of channels

`Spells` says which bodies spell which channel, and `Decomposes` that a token is an operator, a
base mark and a body that spells a channel.  The reader takes the longest operator and the
longest mark first.  This loses nothing, since no body starts with a character that would
prolong either: a text is read as a channel exactly when it has a decomposition, and it has at
most one.
-/

namespace Recolour

/-! ### References -/

theorem eq_or_eq_of_toLower {c small : Char} (capital : Char) (h : c.toLower = small)
    (hcase : small.toNat = capital.toNat + 32) :
  c = small ∨ c = capital
  := by
  obtain hsame | ⟨-, -, hshift⟩ := Text.toLower_eq_or c
  · left
    rw [← hsame, h]
  · right
    rw [h] at hshift
    rw [← Char.toNat_inj]
    omega

/-- The letters of references in both cases, and what they refer to. -/
def Reference.letters : List (Char × Reference) := [
  ('r', .red), ('R', .red), ('g', .green), ('G', .green), ('b', .blue), ('B', .blue),
  ('a', .alpha), ('A', .alpha), ('m', .mean), ('M', .mean)]

theorem Reference.ofLetter?_eq_some_iff {letter : Char} {reference : Reference} :
  ofLetter? letter = some reference ↔ (letter, reference) ∈ letters
  := by
  constructor
  · intro h
    rw [ofLetter?] at h
    split at h
    · rename_i hletter
      obtain rfl := Option.some.inj h
      obtain rfl | rfl := eq_or_eq_of_toLower 'R' hletter rfl <;> decide
    · rename_i hletter
      obtain rfl := Option.some.inj h
      obtain rfl | rfl := eq_or_eq_of_toLower 'G' hletter rfl <;> decide
    · rename_i hletter
      obtain rfl := Option.some.inj h
      obtain rfl | rfl := eq_or_eq_of_toLower 'B' hletter rfl <;> decide
    · rename_i hletter
      obtain rfl := Option.some.inj h
      obtain rfl | rfl := eq_or_eq_of_toLower 'A' hletter rfl <;> decide
    · rename_i hletter
      obtain rfl := Option.some.inj h
      obtain rfl | rfl := eq_or_eq_of_toLower 'M' hletter rfl <;> decide
    · cases h
  · intro h
    have hall : ∀ pair ∈ letters, ofLetter? pair.1 = some pair.2 := by decide
    apply hall _ h

theorem Reference.toNat_lt_of_mem_letters {letter : Char} {reference : Reference}
    (h : (letter, reference) ∈ letters) :
  letter.toNat < 128
  := by
  have hascii : ∀ pair ∈ letters, pair.1.toNat < 128 := by decide
  apply hascii _ h

namespace Channel

/-! ### Bodies -/

/-- The body spells the channel after the operator, in digits of the base. -/
inductive Spells (operator : Operator) (base : Nat) : List Char → Channel → Prop where
  | wildcard : Spells operator base ['?'] .wildcard
  | reference {letter : Char} {reference : Reference}
      (hletter : (letter, reference) ∈ Reference.letters) :
    Spells operator base ['#', letter] (.named reference)
  | number {digits : List Char} (percentage : Bool) (hne : digits ≠ [])
      (hdigits : ∀ char ∈ digits, Text.isDigitOf base char = true)
      (hvalue : Text.numeral base digits ≤ 255) :
    Spells operator base (digits ++ if percentage then ['%'] else [])
      (.number ⟨operator, UInt8.ofNat (Text.numeral base digits), percentage⟩)

/-- The characters other than digits that may stand in a body. -/
def bodyMarks : List Char := ['?', '#', '%'] ++ Reference.letters.map (·.1)

variable {operator : Operator} {base : Nat} {token body : List Char} {c : Channel}

theorem Spells.characters (h : Spells operator base body c) :
  ∀ char ∈ body, char ∈ bodyMarks ∨ Text.isDigitOf base char = true
  := by
  intro char hchar
  cases h with
  | wildcard =>
    left
    rw [List.mem_singleton.mp hchar]
    decide
  | reference hletter =>
    left
    obtain rfl | hchar := List.mem_cons.mp hchar
    · decide
    · rw [List.mem_singleton.mp hchar]
      apply List.mem_append_right
      apply List.mem_map_of_mem hletter
  | number percentage hne hdigits hvalue =>
    obtain hchar | hchar := List.mem_append.mp hchar
    · right
      apply hdigits char hchar
    · left
      split at hchar
      · rw [List.mem_singleton.mp hchar]
        decide
      · cases hchar

theorem Spells.not_mem (h : Spells operator base body c) {char : Char}
    (hmarks : char ∉ bodyMarks) (hdigit : Text.isDigitOf base char = false) :
  char ∉ body
  := by
  intro hchar
  obtain hmem | hmem := h.characters char hchar
  · apply hmarks hmem
  · simp [hdigit] at hmem

/-- No body starts with a character that belongs to an operator. -/
theorem Spells.exists_eq_cons (h : Spells operator base body c) :
  ∃ first rest, body = first :: rest ∧ first ∉ operatorChars
  := by
  cases h with
  | wildcard => exact ⟨'?', [], rfl, by decide⟩
  | @reference letter _ hletter => exact ⟨'#', [letter], rfl, by decide⟩
  | @number digits percentage hne hdigits hvalue =>
    obtain ⟨first, rest, rfl⟩ := List.exists_cons_of_ne_nil hne
    use first, rest ++ if percentage then ['%'] else [], rfl
    intro hfirst
    have hnone : operatorChars.all (fun char => !Text.isDigitOf base char) = true := rfl
    have hdigit := List.all_eq_true.mp hnone first hfirst
    simp [hdigits first List.mem_cons_self] at hdigit

/-- No body without a base mark starts with one. -/
theorem Spells.splitBase_eq (h : Spells operator 10 body c) :
  splitBase body = (10, body)
  := splitBase_of_not_mem (h.not_mem (by decide) rfl) (h.not_mem (by decide) rfl)

theorem spells_wildcard_iff :
  Spells operator base ['?'] c ↔ c = .wildcard
  := by
  constructor
  · intro h
    generalize hbody : ['?'] = body at h
    cases h with
    | wildcard => rfl
    | reference hletter => cases hbody
    | @number digits percentage hne hdigits hvalue =>
      obtain ⟨first, rest, rfl⟩ := List.exists_cons_of_ne_nil hne
      obtain rfl := (List.cons.inj hbody).1
      cases hdigits '?' List.mem_cons_self
  · rintro rfl
    apply Spells.wildcard

theorem spells_reference_iff {letter : Char} :
  Spells operator base ['#', letter] c
    ↔ ∃ reference, (letter, reference) ∈ Reference.letters ∧ c = .named reference
  := by
  constructor
  · intro h
    generalize hbody : ['#', letter] = body at h
    cases h with
    | wildcard => cases hbody
    | reference hletter =>
      cases hbody
      exact ⟨_, hletter, rfl⟩
    | @number digits percentage hne hdigits hvalue =>
      obtain ⟨first, rest, rfl⟩ := List.exists_cons_of_ne_nil hne
      obtain rfl := (List.cons.inj hbody).1
      cases hdigits '#' List.mem_cons_self
  · rintro ⟨reference, hletter, rfl⟩
    apply Spells.reference hletter

/-- A body of digits, with or without a percent sign, is read as the number they denote. -/
theorem readNumber_append {digits : List Char} (percentage : Bool) (hne : digits ≠ [])
    (hdigits : ∀ char ∈ digits, Text.isDigitOf base char = true) :
  readNumber token operator base (digits ++ if percentage = true then ['%'] else [])
    = if 255 < Text.numeral base digits then .error (.outOfRange (String.ofList token))
      else .ok (.number ⟨operator, UInt8.ofNat (Text.numeral base digits), percentage⟩)
  := by
  have hpercent : '%' ∉ digits := by
    intro hmem
    cases hdigits _ hmem
  have hall : digits.all (Text.isDigitOf base) = true := List.all_eq_true.mpr hdigits
  simp [readNumber, splitPercent_append_mark hpercent, hne, hall]

/-- A body is digits, with or without a percent sign, or it is a bad channel. -/
theorem readNumber_cases (token : List Char) (operator : Operator) (base : Nat)
    (body : List Char) :
  (∃ digits percentage, digits ++ (if percentage = true then ['%'] else []) = body
      ∧ digits ≠ [] ∧ ∀ char ∈ digits, Text.isDigitOf base char = true)
    ∨ readNumber token operator base body = .error (.badChannel (String.ofList token))
  := by
  by_cases hdigits : ((splitPercent body).1.isEmpty
      || !(splitPercent body).1.all (Text.isDigitOf base)) = true
  · right
    simp only [readNumber]
    rw [if_pos hdigits]
  · left
    simp only [Bool.or_eq_true, List.isEmpty_iff, Bool.not_eq_true', not_or,
      Bool.not_eq_false, List.all_eq_true] at hdigits
    exact ⟨_, _, splitPercent_append body, hdigits⟩

theorem readNumber_eq_ok_iff :
  readNumber token operator base body = .ok c
    ↔ ∃ digits percentage, digits ++ (if percentage = true then ['%'] else []) = body
      ∧ digits ≠ [] ∧ (∀ char ∈ digits, Text.isDigitOf base char = true)
      ∧ Text.numeral base digits ≤ 255
      ∧ c = .number ⟨operator, UInt8.ofNat (Text.numeral base digits), percentage⟩
  := by
  constructor
  · intro h
    obtain ⟨digits, percentage, rfl, hne, hdigits⟩ | hbad :=
      readNumber_cases token operator base body
    · rw [readNumber_append percentage hne hdigits] at h
      split at h
      · cases h
      · rename_i hvalue
        exact ⟨digits, percentage, rfl, hne, hdigits, Nat.le_of_not_lt hvalue,
          (Except.ok.inj h).symm⟩
    · rw [hbad] at h
      cases h
  · rintro ⟨digits, percentage, rfl, hne, hdigits, hvalue, rfl⟩
    rw [readNumber_append percentage hne hdigits, if_neg (Nat.not_lt.mpr hvalue)]

/-- A body that is neither the wildcard nor of the form of a reference can only spell a
number. -/
theorem spells_iff_readNumber (hwildcard : body ≠ ['?'])
    (hreference : referenceLetter? body = none) :
  Spells operator base body c ↔ readNumber token operator base body = .ok c
  := by
  rw [readNumber_eq_ok_iff]
  constructor
  · intro h
    cases h with
    | wildcard => exact absurd rfl hwildcard
    | reference hletter =>
      rw [referenceLetter?_eq_some_iff.mpr ⟨rfl, Reference.toNat_lt_of_mem_letters hletter⟩]
        at hreference
      cases hreference
    | number percentage hne hdigits hvalue => exact ⟨_, _, rfl, hne, hdigits, hvalue, rfl⟩
  · rintro ⟨digits, percentage, rfl, hne, hdigits, hvalue, rfl⟩
    apply Spells.number percentage hne hdigits hvalue

/-! ### Tokens -/

theorem ofToken_eq_ok_iff :
  ofToken token = .ok c
    ↔ Spells (splitOperator token).1 (splitBase (splitOperator token).2).1
      (splitBase (splitOperator token).2).2 c
  := by
  simp only [ofToken]
  generalize (splitOperator token).1 = operator
  generalize splitBase (splitOperator token).2 = parts
  obtain ⟨base, body⟩ := parts
  simp only
  split
  · rename_i hempty
    simp only [reduceCtorEq, false_iff]
    intro h
    obtain ⟨first, rest, rfl, -⟩ := h.exists_eq_cons
    cases hempty
  · split
    · rename_i hwildcard
      rw [hwildcard, spells_wildcard_iff, Except.ok.injEq, eq_comm]
    · rename_i hwildcard
      split
      · rename_i letter hletter
        rw [(referenceLetter?_eq_some_iff.mp hletter).1, spells_reference_iff]
        simp only [← Reference.ofLetter?_eq_some_iff]
        cases Reference.ofLetter? letter with
        | none => simp
        | some reference => simp [eq_comm]
      · rename_i hreference
        apply (spells_iff_readNumber hwildcard hreference).symm

/-- The token is the operator, the mark and the body in this order, and the body spells the
channel after the other two. -/
structure Decomposes (token : List Char) (operator : Operator) (mark body : List Char)
    (c : Channel) : Prop where
  append_eq : operator.symbol.toList ++ mark ++ body = token
  mark_mem : mark ∈ baseMarks
  spells : Spells operator (markedBase mark) body c

/-- Taking off the longest operator and the longest mark finds every decomposition. -/
theorem Decomposes.split_eq {mark : List Char} (h : Decomposes token operator mark body c) :
  splitOperator token = (operator, mark ++ body)
    ∧ splitBase (mark ++ body) = (markedBase mark, body)
  := by
  obtain ⟨rfl, hmark, hspells⟩ := h
  obtain ⟨first, rest, hbody, hfirst⟩ := hspells.exists_eq_cons
  simp only [baseMarks, List.mem_cons, List.not_mem_nil, or_false] at hmark
  rw [List.append_assoc]
  obtain rfl | rfl | rfl := hmark
  · constructor
    · rw [List.nil_append, hbody]
      apply splitOperator_append_cons operator hfirst
    · apply hspells.splitBase_eq
  · constructor
    · apply splitOperator_append_cons operator (by decide)
    · rfl
  · constructor
    · apply splitOperator_append_cons operator (by decide)
    · rfl

theorem ofToken_eq_ok_iff_exists :
  ofToken token = .ok c ↔ ∃ operator mark body, Decomposes token operator mark body c
  := by
  rw [ofToken_eq_ok_iff]
  constructor
  · intro h
    obtain ⟨mark, hmark, hrest, hbase⟩ := splitBase_append (splitOperator token).2
    rw [hbase] at h
    use (splitOperator token).1, mark, (splitBase (splitOperator token).2).2
    constructor
    · rw [List.append_assoc, hrest, splitOperator_append]
    · apply hmark
    · apply h
  · rintro ⟨operator, mark, body, h⟩
    rw [h.split_eq.1]
    simp only
    rw [h.split_eq.2]
    apply h.spells

/-- A token has one decomposition at most. -/
theorem Decomposes.unique {operator' : Operator} {mark mark' body' : List Char} {d : Channel}
    (h : Decomposes token operator mark body c) (h' : Decomposes token operator' mark' body' d) :
  operator = operator' ∧ mark = mark' ∧ body = body' ∧ c = d
  := by
  obtain ⟨rfl, hrest⟩ := Prod.mk.inj (h.split_eq.1.symm.trans h'.split_eq.1)
  have hbase := h.split_eq.2
  rw [hrest, h'.split_eq.2] at hbase
  obtain ⟨-, rfl⟩ := Prod.mk.inj hbase
  obtain rfl := List.append_cancel_right hrest
  have hread := ofToken_eq_ok_iff_exists.mpr ⟨_, _, _, h⟩
  rw [ofToken_eq_ok_iff_exists.mpr ⟨_, _, _, h'⟩] at hread
  exact ⟨rfl, rfl, rfl, (Except.ok.inj hread).symm⟩

theorem ofChars_eq_ok_iff {text : List Char} :
  ofChars text = .ok c ↔ ∃ operator mark body, Decomposes (Text.trim text) operator mark body c
  := ofToken_eq_ok_iff_exists

/-- A text is read as a channel exactly when, without the blanks around it, it decomposes into
an operator, a base mark and a body that spells the channel; and there is at most one way to
decompose it. -/
theorem parse_grammar (text : String) :
  (∀ c, parse text = .ok c
      ↔ ∃ operator mark body, Decomposes (Text.trim text.toList) operator mark body c)
    ∧ ∀ operator operator' mark mark' body body' c d,
      Decomposes (Text.trim text.toList) operator mark body c
      → Decomposes (Text.trim text.toList) operator' mark' body' d
      → operator = operator' ∧ mark = mark' ∧ body = body' ∧ c = d
  := by
  constructor
  · intro c
    apply ofChars_eq_ok_iff
  · intro operator operator' mark mark' body body' c d h h'
    apply h.unique h'

/-- No comma stands in a channel that is read. -/
theorem comma_not_mem_of_ofChars {text : List Char} (h : ofChars text = .ok c) :
  ',' ∉ text
  := by
  intro hcomma
  obtain ⟨operator, mark, body, hd⟩ := ofChars_eq_ok_iff.mp h
  have htoken := Text.mem_trim hcomma rfl
  rw [← hd.append_eq, List.mem_append, List.mem_append] at htoken
  have hmarks : ∀ mark ∈ baseMarks, ',' ∉ mark := by decide
  obtain (hsymbol | hmark) | hbody := htoken
  · revert hsymbol
    cases operator <;> decide
  · apply hmarks mark hd.mark_mem hmark
  · apply hd.spells.not_mem (by decide) rfl hbody

end Channel

end Recolour
