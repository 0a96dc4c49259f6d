import Recolour.Channel.Parser

/-!
# The parts of a channel token

A token is its operator, its base mark and its body, and a body is its digits and its percent
sign.  Taking a token apart loses no character, and an operator or a mark put in front of what
cannot prolong it is taken off again.
-/

namespace Recolour.Channel

/-- The marks that may stand before the digits of a base. -/
def baseMarks : List (List Char) := [[], ['0', 'x'], ['0', 'X']]

/-- The base of the digits after a mark. -/
def markedBase (mark : List Char) : Nat :=
  if mark = [] then 10 else 16

/-- The characters operators are made of. -/
def operatorChars : List Char := ['+', '-', '<', '>', '=']

theorem splitOperator_append (token : List Char) :
  (splitOperator token).1.symbol.toList ++ (splitOperator token).2 = token
  := by
  fun_cases splitOperator token <;> simp [Operator.symbol]

/-- The operator before a character that belongs to none is the longest one. -/
theorem splitOperator_append_cons (operator : Operator) {c : Char} (hc : c ∉ operatorChars)
    (rest : List Char) :
  splitOperator (operator.symbol.toList ++ c :: rest) = (operator, c :: rest)
  := by
  simp only [operatorChars, List.mem_cons, not_or] at hc
  obtain ⟨hadd, hsub, hless, hgreater, hequal, -⟩ := hc
  cases operator with
  | none => simp [Operator.symbol, splitOperator, hadd, hsub, hless, hgreater]
  | add => rfl
  | sub => rfl
  | less => simp [Operator.symbol, splitOperator, hequal]
  | lessEq => rfl
  | greater => simp [Operator.symbol, splitOperator, hequal]
  | greaterEq => rfl

theorem splitBase_append (rest : List Char) :
  ∃ mark ∈ baseMarks, mark ++ (splitBase rest).2 = rest ∧ (splitBase rest).1 = markedBase mark
  := by
  fun_cases splitBase rest with
  | case1 rest => exact ⟨['0', 'x'], by decide, rfl, rfl⟩
  | case2 rest => exact ⟨['0', 'X'], by decide, rfl, rfl⟩
  | case3 rest => exact ⟨[], by decide, rfl, rfl⟩

theorem splitBase_of_not_mem {rest : List Char} (h : 'x' ∉ rest) (h' : 'X' ∉ rest) :
  splitBase rest = (10, rest)
  := by
  fun_cases splitBase rest with
  | case1 => simp at h
  | case2 => simp at h'
  | case3 => rfl

theorem splitPercent_append (body : List Char) :
  (splitPercent body).1 ++ (if (splitPercent body).2 then ['%'] else []) = body
  := by
  by_cases h : body.getLast? = some '%'
  · rw [splitPercent, if_pos h]
    obtain ⟨digits, rfl⟩ := List.getLast?_eq_some_iff.mp h
    simp
  · rw [splitPercent, if_neg h]
    apply List.append_nil

theorem splitPercent_append_mark {digits : List Char} (h : '%' ∉ digits)
    (percentage : Bool) :
  splitPercent (digits ++ if percentage then ['%'] else []) = (digits, percentage)
  := by
  cases percentage with
  | false =>
    have hlast : digits.getLast? ≠ some '%' := by
      intro hlast
      apply h (List.mem_of_getLast? hlast)
    simp [splitPercent, hlast]
  | true => simp [splitPercent]

theorem referenceLetter?_eq_some_iff {body : List Char} {letter : Char} :
  referenceLetter? body = some letter ↔ body = ['#', letter] ∧ letter.toNat < 128
  := by
  fun_cases referenceLetter? body with
  | case1 c hc =>
    simp only [Option.some.injEq, List.cons.injEq, true_and, and_true]
    constructor
    · rintro rfl
      exact ⟨rfl, hc⟩
    · rintro ⟨rfl, -⟩
      rfl
  | case2 c hc =>
    simp only [List.cons.injEq, true_and, and_true, reduceCtorEq, false_iff]
    rintro ⟨rfl, hletter⟩
    apply hc hletter
  | case3 body hbody =>
    simp only [reduceCtorEq, false_iff]
    rintro ⟨rfl, -⟩
    apply hbody letter rfl

theorem referenceLetter?_eq_none_iff {body : List Char} :
  referenceLetter? body = none ↔ ∀ letter, body = ['#', letter] → 128 ≤ letter.toNat
  := by
  simp only [Option.eq_none_iff_forall_ne_some, ne_eq, referenceLetter?_eq_some_iff, not_and,
    Nat.not_lt]

end Recolour.Channel
