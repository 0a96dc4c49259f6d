import Recolour.Text.Lines

/-!
# Lines

The lines of a text are the pieces between its newlines, each but the last without the return
it ends in. Texts without newlines are the lines of the text in which newlines join them, but for
these returns and for a last text that is empty.
-/

namespace Recolour.Text

variable {α : Type} [BEq α] [LawfulBEq α] {newline ret : α}

theorem dropLastMark_concat (mark : α) (line : List α) :
  dropLastMark mark (line ++ [mark]) = line
  := by
  simp [dropLastMark]

theorem dropLastMark_of_getLast?_ne {mark : α} {line : List α}
    (h : line.getLast? ≠ some mark) :
  dropLastMark mark line = line
  := by
  rw [dropLastMark, if_neg]
  cases hlast : line.getLast? with
  | none => simp
  | some last =>
    rw [hlast, ne_eq, Option.some.injEq] at h
    simpa using h

theorem dropLastMark_eq_or (mark : α) (line : List α) :
  dropLastMark mark line = line ∨ line = dropLastMark mark line ++ [mark]
  := by
  by_cases hlast : line.getLast? = some mark
  · obtain ⟨init, rfl⟩ := List.getLast?_eq_some_iff.mp hlast
    right
    rw [dropLastMark_concat]
  · left
    apply dropLastMark_of_getLast?_ne hlast

omit [LawfulBEq α] in
theorem exists_splitOn_eq (newline : α) (text : List α) :
  ∃ init last, text.splitOn newline = init ++ [last]
  := by
  obtain hnil | ⟨init, last, h⟩ := (text.splitOn newline).eq_nil_or_concat
  · exact absurd hnil (List.splitOn_ne_nil newline text)
  · exact ⟨init, last, by rw [h, List.concat_eq_append]⟩

omit [LawfulBEq α] in
theorem linesBy_eq {text : List α} {init : List (List α)} {last : List α}
    (h : text.splitOn newline = init ++ [last]) :
  linesBy newline ret text =
    init.map (dropLastMark ret) ++ if last.isEmpty then [] else [last]
  := by
  simp [linesBy, h]

/-- The lines of joined texts without newlines are the texts, each but the last without the return
it ends in, and without an empty last one. -/
theorem linesBy_intercalate_concat {init : List (List α)} {last : List α}
    (hinit : ∀ line ∈ init, newline ∉ line) (hlast : newline ∉ last) :
  linesBy newline ret ([newline].intercalate (init ++ [last])) =
    init.map (dropLastMark ret) ++ if last.isEmpty then [] else [last]
  := by
  apply linesBy_eq
  apply List.splitOn_intercalate newline _ (by simp)
  simpa [or_imp, forall_and] using ⟨hinit, hlast⟩

theorem linesBy_intercalate {lines : List (List α)} (hne : ∀ line ∈ lines, line ≠ [])
    (hnewline : ∀ line ∈ lines, newline ∉ line) (hret : ∀ line ∈ lines, ret ∉ line) :
  linesBy newline ret ([newline].intercalate lines) = lines
  := by
  obtain rfl | ⟨init, last, rfl⟩ := lines.eq_nil_or_concat
  · rfl
  · rw [List.concat_eq_append] at hne hnewline hret ⊢
    have hinit : init.map (dropLastMark ret) = init := by
      refine (List.map_congr_left ?_).trans (List.map_id init)
      intro line hline
      apply dropLastMark_of_getLast?_ne
      intro hlast
      apply hret line (List.mem_append_left _ hline) (List.mem_of_getLast? hlast)
    have hlast : last ≠ [] := hne last (by simp)
    rw [linesBy_intercalate_concat (fun line hline => hnewline line (by simp [hline]))
      (hnewline last (by simp)), hinit]
    simp [hlast]

/-- There is a line for each of some joined texts, but none for an empty last one. -/
theorem length_linesBy_intercalate {texts : List (List α)}
    (hnewline : ∀ text ∈ texts, newline ∉ text) :
  (linesBy newline ret ([newline].intercalate texts)).length =
    if texts.getLast?.any List.isEmpty then texts.length - 1 else texts.length
  := by
  obtain rfl | ⟨init, last, rfl⟩ := texts.eq_nil_or_concat
  · rfl
  · rw [List.concat_eq_append] at hnewline ⊢
    rw [linesBy_intercalate_concat (fun line hline => hnewline line (by simp [hline]))
      (hnewline last (by simp))]
    cases last <;> simp

/-- The line of one of some joined texts is the text itself, without the return it ends in if
another text follows. -/
theorem eq_of_getElem?_linesBy_intercalate {texts : List (List α)} {i : Nat} {line text : List α}
    (hnewline : ∀ text ∈ texts, newline ∉ text)
    (hline : (linesBy newline ret ([newline].intercalate texts))[i]? = some line)
    (htext : texts[i]? = some text) :
  line = if i + 1 < texts.length then dropLastMark ret text else text
  := by
  obtain rfl | ⟨init, last, rfl⟩ := texts.eq_nil_or_concat
  · cases htext
  · rw [List.concat_eq_append] at hnewline hline htext ⊢
    rw [linesBy_intercalate_concat (fun line hline => hnewline line (by simp [hline]))
      (hnewline last (by simp))] at hline
    by_cases hi : i < init.length
    · rw [List.getElem?_append_left (by simpa using hi), List.getElem?_map] at hline
      rw [List.getElem?_append_left hi] at htext
      rw [htext, Option.map_some, Option.some.injEq] at hline
      rw [if_pos (by simpa using hi), hline]
    · rw [List.getElem?_append_right (by simpa using hi), List.length_map] at hline
      rw [List.getElem?_append_right (by simpa using hi)] at htext
      rw [if_neg (by simpa using hi)]
      cases last with
      | nil => cases hline
      | cons head last => exact Option.some.inj (hline.symm.trans htext)

end Recolour.Text
