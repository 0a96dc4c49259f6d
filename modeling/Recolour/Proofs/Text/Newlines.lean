import Mathlib.Data.List.Basic
import Mathlib.Tactic.Use
import Recolour.Proofs.Text.Fields
import Recolour.Proofs.Text.Lines

/-!
# Lines between newlines

A text is some lines with a newline behind each, and then what stands behind the last newline.  If
it holds no returns, its lines are just these, so that they can be counted by the newlines before
them and put together again, a return before each newline makes no difference, and what is written
at the end of one of them stands in no other.
-/

namespace Recolour.Text

variable {text line last : List Char} {init : List (List Char)} {index : Nat}

/-! ### Lines that are ended -/

/-- Lines with a newline behind each. -/
def ended (lines : List (List Char)) : List Char :=
  lines.flatMap (· ++ ['\n'])

theorem ended_append (lines more : List (List Char)) :
  ended (lines ++ more) = ended lines ++ ended more
  := List.flatMap_append

theorem ended_cons_append (line : List Char) (lines : List (List Char)) (rest : List Char) :
  ended (line :: lines) ++ rest = line ++ '\n' :: (ended lines ++ rest)
  := by
  simp [ended]

theorem splitOn_ended_append (hinit : ∀ line ∈ init, '\n' ∉ line) (rest : List Char) :
  (ended init ++ rest).splitOn '\n' = init ++ rest.splitOn '\n'
  := by
  induction init with
  | nil => rfl
  | cons line init ih =>
    rw [List.forall_mem_cons] at hinit
    rw [ended_cons_append, List.splitOn_append_cons_self_of_not_mem hinit.1, ih hinit.2,
      List.cons_append]

theorem count_ended (hinit : ∀ line ∈ init, '\n' ∉ line) :
  (ended init).count '\n' = init.length
  := by
  induction init with
  | nil => rfl
  | cons line init ih =>
    rw [List.forall_mem_cons] at hinit
    rw [← (ended (line :: init)).append_nil, ended_cons_append, List.count_append,
      List.count_cons_self, List.append_nil, ih hinit.2, List.count_eq_zero_of_not_mem hinit.1,
      List.length_cons, Nat.zero_add]

theorem eq_nil_or_getLast?_ended (init : List (List Char)) :
  ended init = [] ∨ (ended init).getLast? = some '\n'
  := by
  obtain rfl | ⟨init, line, rfl⟩ := init.eq_nil_or_concat
  · left
    rfl
  · right
    rw [List.concat_eq_append, ended_append, ended, ended, List.flatMap_singleton,
      ← List.append_assoc, List.getLast?_concat]

/-- Every text is some lines that are ended and a rest without newlines. -/
theorem exists_eq_ended_append (text : List Char) :
  ∃ init last, text = ended init ++ last ∧ (∀ line ∈ init, '\n' ∉ line) ∧ '\n' ∉ last
  := by
  induction text with
  | nil => exact ⟨[], [], rfl, by simp, by simp⟩
  | cons c text ih =>
    obtain ⟨init, last, rfl, hinit, hlast⟩ := ih
    by_cases hc : c = '\n'
    · refine ⟨[] :: init, last, ?_, ?_, hlast⟩
      · rw [ended_cons_append, hc]
        rfl
      · rw [List.forall_mem_cons]
        exact ⟨by simp, hinit⟩
    · cases init with
      | nil =>
        refine ⟨[], c :: last, rfl, by simp, ?_⟩
        rw [List.mem_cons, not_or]
        exact ⟨Ne.symm hc, hlast⟩
      | cons line init =>
        rw [List.forall_mem_cons] at hinit
        refine ⟨(c :: line) :: init, last, ?_, ?_, hlast⟩
        · rw [ended_cons_append, ended_cons_append, List.cons_append]
        · rw [List.forall_mem_cons, List.mem_cons, not_or]
          exact ⟨⟨Ne.symm hc, hinit.1⟩, hinit.2⟩

/-- What follows some ended lines is empty if the text ends with a newline. -/
theorem ends_ended_append_iff (init : List (List Char)) (hlast : '\n' ∉ last) :
  (ended init ++ last = [] ∨ (ended init ++ last).getLast? = some '\n') ↔ last = []
  := by
  obtain rfl | ⟨front, c, rfl⟩ := last.eq_nil_or_concat
  · rw [List.append_nil]
    exact iff_of_true (eq_nil_or_getLast?_ended init) rfl
  · rw [List.concat_eq_append] at hlast ⊢
    rw [← List.append_assoc, List.getLast?_concat, Option.some.injEq]
    apply iff_of_false _ (by simp)
    rintro (hnil | rfl)
    · simp at hnil
    · simp at hlast

/-- A text is nothing but ended lines if it ends with a newline. -/
theorem exists_eq_ended (h : text = [] ∨ text.getLast? = some '\n') :
  ∃ init, text = ended init ∧ ∀ line ∈ init, '\n' ∉ line
  := by
  obtain ⟨init, last, rfl, hinit, hlast⟩ := exists_eq_ended_append text
  obtain rfl := (ends_ended_append_iff init hlast).mp h
  use init
  rw [List.append_nil]
  exact ⟨rfl, hinit⟩

theorem intercalate_concat_eq_ended_append (init : List (List Char)) (last : List Char) :
  ['\n'].intercalate (init ++ [last]) = ended init ++ last
  := by
  induction init with
  | nil => apply List.intercalate_singleton
  | cons line init ih =>
    rw [List.cons_append, List.intercalate_cons_of_ne_nil (by simp), ih, ended_cons_append,
      List.append_assoc]
    rfl

/-! ### The lines of a text -/

theorem lines_ended_append (hinit : ∀ line ∈ init, '\n' ∉ line) (rest : List Char) :
  lines (ended init ++ rest) = init.map (dropLastMark '\r') ++ lines rest
  := by
  obtain ⟨front, last, hrest⟩ := exists_splitOn_eq '\n' rest
  have htext : (ended init ++ rest).splitOn '\n' = (init ++ front) ++ [last] := by
    rw [splitOn_ended_append hinit, hrest, List.append_assoc]
  rw [lines, lines, linesBy_eq htext, linesBy_eq hrest, List.map_append, List.append_assoc]

theorem lines_eq_of_newline_notMem (h : '\n' ∉ last) :
  lines last = if last = [] then [] else [last]
  := by
  have hsplit : last.splitOn '\n' = [] ++ [last] := List.splitOn_eq_singleton h
  rw [lines, linesBy_eq hsplit]
  simp

theorem map_dropLastMark_of_return_notMem (h : '\r' ∉ ended init) :
  init.map (dropLastMark '\r') = init
  := by
  refine (List.map_congr_left ?_).trans (List.map_id init)
  intro line hline
  apply dropLastMark_of_getLast?_ne
  intro hlast
  apply h
  rw [ended, List.mem_flatMap]
  exact ⟨line, hline, List.mem_append_left _ (List.mem_of_getLast? hlast)⟩

theorem lines_ended_append_of_return_notMem (hinit : ∀ line ∈ init, '\n' ∉ line)
    (hreturn : '\r' ∉ ended init) (rest : List Char) :
  lines (ended init ++ rest) = init ++ lines rest
  := by
  rw [lines_ended_append hinit, map_dropLastMark_of_return_notMem hreturn]

theorem lines_append_newline (hline : '\n' ∉ line) (hreturn : '\r' ∉ line) (rest : List Char) :
  lines (line ++ '\n' :: rest) = line :: lines rest
  := by
  have hended : line ++ '\n' :: rest = ended [line] ++ rest := by
    rw [ended_cons_append]
    rfl
  rw [hended, lines_ended_append_of_return_notMem (by simpa using hline)
    (by simpa [ended] using hreturn)]
  rfl

/-! ### Returns before newlines -/

/-- A text with a return before each newline. -/
def withReturns (text : List Char) : List Char :=
  text.flatMap fun c => if c = '\n' then ['\r', '\n'] else [c]

theorem withReturns_append (text more : List Char) :
  withReturns (text ++ more) = withReturns text ++ withReturns more
  := List.flatMap_append

theorem withReturns_of_newline_notMem (h : '\n' ∉ text) :
  withReturns text = text
  := by
  have hkept : ∀ c ∈ text, (if c = '\n' then ['\r', '\n'] else [c]) = [c] := by
    intro c hc
    apply if_neg
    rintro rfl
    apply h hc
  rw [withReturns, List.flatMap_congr hkept, List.flatMap_singleton']

theorem withReturns_ended (hinit : ∀ line ∈ init, '\n' ∉ line) :
  withReturns (ended init) = ended (init.map (· ++ ['\r']))
  := by
  rw [withReturns, ended, ended, List.flatMap_assoc, List.flatMap_map]
  apply List.flatMap_congr
  intro line hline
  change withReturns (line ++ ['\n']) = line ++ ['\r'] ++ ['\n']
  rw [withReturns_append, withReturns_of_newline_notMem (hinit line hline), List.append_assoc]
  rfl

/-- Returns before the newlines of a text without returns make no difference to its lines. -/
theorem lines_withReturns (hreturn : '\r' ∉ text) :
  lines (withReturns text) = lines text
  := by
  obtain ⟨init, last, rfl, hinit, hlast⟩ := exists_eq_ended_append text
  rw [List.mem_append, not_or] at hreturn
  have hreturned : ∀ line ∈ init.map (· ++ ['\r']), '\n' ∉ line := by
    rw [List.forall_mem_map]
    intro line hline
    simp [hinit line hline]
  have hdrop : (init.map (· ++ ['\r'])).map (dropLastMark '\r') = init := by
    rw [List.map_map]
    apply List.map_id''
    intro line
    apply dropLastMark_concat
  rw [withReturns_append, withReturns_ended hinit, withReturns_of_newline_notMem hlast,
    lines_ended_append hreturned, hdrop, lines_ended_append_of_return_notMem hinit hreturn.1]

/-! ### Lines by their places -/

/-- The line stands between two newlines of a text, or at one of its ends, with a number of
newlines before it.  What stands behind the last newline is a line only if it is not empty. -/
def IsLine (text : List Char) (index : Nat) (line : List Char) : Prop :=
  ∃ front back, text = front ++ line ++ back ∧ '\n' ∉ line
    ∧ (front = [] ∨ front.getLast? = some '\n') ∧ front.count '\n' = index
    ∧ (back.head? = some '\n' ∨ back = [] ∧ line ≠ [])

theorem exists_eq_append_of_getElem? {α : Type} {xs : List α} {a : α}
    (h : xs[index]? = some a) :
  ∃ before behind, xs = before ++ a :: behind ∧ before.length = index
  := by
  obtain ⟨hindex, rfl⟩ := List.getElem?_eq_some_iff.mp h
  use xs.take index, xs.drop (index + 1)
  constructor
  · rw [List.getElem_cons_drop, List.take_append_drop]
  · apply List.length_take_of_le (Nat.le_of_lt hindex)

/-- The lines of a text without returns are those between its newlines, in order. -/
theorem isLine_iff (hreturn : '\r' ∉ text) :
  IsLine text index line ↔ (lines text)[index]? = some line
  := by
  constructor
  · rintro ⟨front, back, rfl, hline, hfront, rfl, hback⟩
    obtain ⟨init, rfl, hinit⟩ := exists_eq_ended hfront
    simp only [List.mem_append, not_or] at hreturn
    rw [List.append_assoc, lines_ended_append_of_return_notMem hinit hreturn.1.1,
      count_ended hinit, List.getElem?_append_right (Nat.le_refl _), Nat.sub_self]
    obtain hback | ⟨rfl, hne⟩ := hback
    · obtain ⟨rest, rfl⟩ := List.head?_eq_some_iff.mp hback
      rw [lines_append_newline hline hreturn.1.2]
      rfl
    · rw [List.append_nil, lines_eq_of_newline_notMem hline, if_neg hne]
      rfl
  · intro hget
    obtain ⟨init, last, rfl, hinit, hlast⟩ := exists_eq_ended_append text
    rw [List.mem_append, not_or] at hreturn
    rw [lines_ended_append_of_return_notMem hinit hreturn.1, lines_eq_of_newline_notMem hlast]
      at hget
    by_cases hindex : index < init.length
    · rw [List.getElem?_append_left hindex] at hget
      obtain ⟨before, behind, rfl, rfl⟩ := exists_eq_append_of_getElem? hget
      rw [List.forall_mem_append, List.forall_mem_cons] at hinit
      refine ⟨ended before, '\n' :: (ended behind ++ last), ?_, hinit.2.1,
        eq_nil_or_getLast?_ended before, count_ended hinit.1, Or.inl rfl⟩
      rw [ended_append, List.append_assoc, ended_cons_append, List.append_assoc]
    · rw [List.getElem?_append_right (Nat.le_of_not_lt hindex)] at hget
      split at hget
      case isTrue => cases hget
      case isFalse hne =>
        rw [List.getElem?_singleton, Option.ite_none_right_eq_some, Option.some.injEq] at hget
        obtain ⟨hzero, rfl⟩ := hget
        refine ⟨ended init, [], by rw [List.append_nil], hlast, eq_nil_or_getLast?_ended init, ?_,
          Or.inr ⟨rfl, hne⟩⟩
        rw [count_ended hinit]
        omega

/-- The lines of a text without returns, with newlines between them, are the text up to a newline
at its end. -/
theorem intercalate_lines (hreturn : '\r' ∉ text) :
  ['\n'].intercalate (lines text) ++ (if text.getLast? = some '\n' then ['\n'] else []) = text
  := by
  obtain ⟨init, last, rfl, hinit, hlast⟩ := exists_eq_ended_append text
  rw [List.mem_append, not_or] at hreturn
  rw [lines_ended_append_of_return_notMem hinit hreturn.1, lines_eq_of_newline_notMem hlast]
  have hends := ends_ended_append_iff init hlast
  by_cases hnil : last = []
  · obtain rfl | ⟨init, line, rfl⟩ := init.eq_nil_or_concat
    · rw [hnil]
      rfl
    · rw [List.concat_eq_append] at hends ⊢
      have hended : ended (init ++ [line]) = ended init ++ line ++ ['\n'] := by
        rw [ended_append, ended, ended, List.flatMap_singleton, List.append_assoc]
      rw [if_pos hnil, List.append_nil, intercalate_concat_eq_ended_append, hnil, List.append_nil,
        hended, List.getLast?_concat, if_pos rfl]
  · rw [if_neg hnil, intercalate_concat_eq_ended_append, if_neg, List.append_nil]
    intro hnewline
    apply hnil
    apply hends.mp (Or.inr hnewline)

/-! ### Writing at the end of a line -/

theorem set_append_cons {α : Type} (before : List α) (a b : α) (behind : List α) :
  (before ++ a :: behind).set before.length b = before ++ b :: behind
  := by
  rw [List.set_append_right _ _ (Nat.le_refl _), Nat.sub_self, List.set_cons_zero]

/-- What is written at the end of a line of a text without returns stands in that line alone.  Behind
a newline at the end of the text it makes a new line. -/
theorem lines_insert {front more back : List Char} (hback : back = [] ∨ back.head? = some '\n')
    (hreturn : '\r' ∉ front ++ more ++ back) (hnewline : '\n' ∉ more) (hne : more ≠ []) :
  if back = [] ∧ (front = [] ∨ front.getLast? = some '\n') then
    lines (front ++ more ++ back) = lines (front ++ back) ++ [more]
  else
    ∃ line, (lines (front ++ back))[front.count '\n']? = some line
      ∧ lines (front ++ more ++ back) =
        (lines (front ++ back)).set (front.count '\n') (line ++ more)
  := by
  obtain ⟨init, last, rfl, hinit, hlast⟩ := exists_eq_ended_append front
  simp only [List.mem_append, not_or] at hreturn
  obtain ⟨⟨⟨hinitReturn, hlastReturn⟩, hmoreReturn⟩, -⟩ := hreturn
  have hcount : (ended init ++ last).count '\n' = init.length := by
    rw [List.count_append, count_ended hinit, List.count_eq_zero_of_not_mem hlast, Nat.add_zero]
  have hlonger : '\n' ∉ last ++ more := by simp [hlast, hnewline]
  simp only [ends_ended_append_iff init hlast, hcount, List.append_assoc,
    lines_ended_append_of_return_notMem hinit hinitReturn]
  obtain rfl | hback := hback
  · have hlongerNe : last ++ more ≠ [] := by simp [hne]
    rw [List.append_nil, List.append_nil, lines_eq_of_newline_notMem hlonger,
      lines_eq_of_newline_notMem hlast, if_neg hlongerNe]
    by_cases hnil : last = []
    · rw [if_pos ⟨rfl, hnil⟩, if_pos hnil, hnil]
      rfl
    · rw [if_neg fun h => hnil h.2, if_neg hnil]
      use last, List.getElem?_concat_length
      rw [set_append_cons]
  · obtain ⟨rest, rfl⟩ := List.head?_eq_some_iff.mp hback
    rw [if_neg (by simp), ← List.append_assoc, lines_append_newline hlast hlastReturn,
      lines_append_newline hlonger (by simp [hlastReturn, hmoreReturn])]
    use last
    constructor
    · rw [List.getElem?_append_right (Nat.le_refl _), Nat.sub_self]
      rfl
    · rw [set_append_cons]

end Recolour.Text
