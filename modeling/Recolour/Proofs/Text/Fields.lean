import Mathlib.Data.List.TakeWhile
import Recolour.Text.Blank

/-!
# Fields

The fields of a text are non-empty and hold no separator, a text without separators is its
own field, and the fields of texts joined by a separator are those of the texts.  Trimming
takes away blanks only, and nothing from a text without blanks.
-/

namespace Recolour.Text

variable {p q : Char → Bool}

theorem fields_append_cons {c : Char} (hc : p c = true) (cs more : List Char) :
  fields p (cs ++ c :: more) = fields p cs ++ fields p more
  := by
  rw [fields, List.splitOnP_append_cons cs more hc, List.filter_append]
  rfl

theorem fields_eq_singleton {cs : List Char} (hne : cs ≠ []) (h : ∀ c ∈ cs, p c = false) :
  fields p cs = [cs]
  := by
  rw [fields, List.splitOnP_eq_singleton h]
  simp [hne]

/-- No piece of a split holds a character that was split at. -/
theorem not_of_mem_splitOnP {cs piece : List Char} (hpiece : piece ∈ cs.splitOnP p) :
  ∀ c ∈ piece, p c = false
  := by
  induction cs generalizing piece with
  | nil =>
    simp only [List.splitOnP_nil, List.mem_singleton] at hpiece
    simp [hpiece]
  | cons head cs ih =>
    rw [List.splitOnP_cons_eq_if_modifyHead] at hpiece
    split at hpiece
    · obtain rfl | hpiece := List.mem_cons.mp hpiece
      · simp
      · apply ih hpiece
    · rename_i hhead
      obtain ⟨first, rest, hsplit⟩ := List.exists_cons_of_ne_nil (List.splitOnP_ne_nil p cs)
      rw [hsplit] at ih hpiece
      obtain rfl | hpiece := List.mem_cons.mp hpiece
      · intro c hc
        obtain rfl | hc := List.mem_cons.mp hc
        · simpa using hhead
        · apply ih List.mem_cons_self c hc
      · apply ih (List.mem_cons_of_mem first hpiece)

/-- A text that splits into two pieces has one separator, which stands between them. -/
theorem splitOn_eq_pair_iff {sep : Char} {cs left right : List Char} :
  cs.splitOn sep = [left, right] ↔ cs = left ++ sep :: right ∧ sep ∉ left ∧ sep ∉ right
  := by
  constructor
  · intro h
    have hnot : ∀ piece ∈ [left, right], sep ∉ piece := by
      intro piece hpiece hsep
      rw [← h, List.splitOn_eq_splitOnP] at hpiece
      simpa using not_of_mem_splitOnP hpiece sep hsep
    have hcs : [sep].intercalate (cs.splitOn sep) = cs := List.intercalate_splitOn sep
    rw [h] at hcs
    refine ⟨?_, hnot left (by simp), hnot right (by simp)⟩
    rw [← hcs]
    simp [List.intercalate]
  · rintro ⟨rfl, hleft, hright⟩
    rw [List.splitOn_append_cons_self_of_not_mem hleft, List.splitOn_eq_singleton hright]

theorem ne_nil_of_mem_fields {cs field : List Char} (h : field ∈ fields p cs) :
  field ≠ []
  := by
  simpa using (List.mem_filter.mp h).2

theorem not_of_mem_fields {cs field : List Char} (h : field ∈ fields p cs) :
  ∀ c ∈ field, p c = false
  := not_of_mem_splitOnP (List.mem_filter.mp h).1

/-- The fields depend on the class of the characters of the text only. -/
theorem fields_congr {cs : List Char} (h : ∀ c ∈ cs, p c = q c) :
  fields p cs = fields q cs
  := by
  have hsplit : cs.splitOnP p = cs.splitOnP q := by
    induction cs with
    | nil => rfl
    | cons head cs ih =>
      simp only [List.mem_cons, forall_eq_or_imp] at h
      rw [List.splitOnP_cons_eq_if_modifyHead, List.splitOnP_cons_eq_if_modifyHead, h.1, ih h.2]
  rw [fields, fields, hsplit]

theorem fields_intercalate {sep : Char} (hsep : p sep = true) (texts : List (List Char)) :
  fields p ([sep].intercalate texts) = texts.flatMap (fields p)
  := by
  induction texts with
  | nil => rfl
  | cons text texts ih =>
    cases texts with
    | nil => simp
    | cons next texts =>
      rw [List.intercalate_cons_cons, List.append_assoc, List.singleton_append,
        fields_append_cons hsep, ih]
      rfl

/-- To join texts and split them again is to split each of them. -/
theorem splitOn_intercalate {sep : Char} {texts : List (List Char)} (hne : texts ≠ []) :
  ([sep].intercalate texts).splitOn sep = texts.flatMap (List.splitOn sep)
  := by
  induction texts with
  | nil => exact absurd rfl hne
  | cons text texts ih =>
    cases texts with
    | nil => simp
    | cons next texts =>
      rw [List.intercalate_cons_cons, List.append_assoc, List.singleton_append,
        List.splitOn_append_cons_self, ih (List.cons_ne_nil _ _)]
      rfl

theorem intercalate_flatMap_splitOn (sep : Char) (texts : List (List Char)) :
  [sep].intercalate (texts.flatMap (List.splitOn sep)) = [sep].intercalate texts
  := by
  cases texts with
  | nil => rfl
  | cons text texts => rw [← splitOn_intercalate (List.cons_ne_nil _ _), List.intercalate_splitOn]

/-- A character of joined texts is the separator or stands in one of them. -/
theorem mem_intercalate {sep c : Char} {texts : List (List Char)}
    (h : c ∈ [sep].intercalate texts) :
  c = sep ∨ ∃ text ∈ texts, c ∈ text
  := by
  induction texts with
  | nil => cases h
  | cons text texts ih =>
    cases texts with
    | nil =>
      right
      exact ⟨text, List.mem_cons_self, by simpa using h⟩
    | cons next texts =>
      rw [List.intercalate_cons_cons, List.mem_append, List.mem_append,
        List.mem_singleton] at h
      obtain (h | h) | h := h
      · right
        exact ⟨text, List.mem_cons_self, h⟩
      · left
        apply h
      · obtain h | ⟨other, hother, h⟩ := ih h
        · left
          apply h
        · right
          exact ⟨other, List.mem_cons_of_mem text hother, h⟩

theorem fields_or_of_forall {cs : List Char}
    (h : ∀ c ∈ cs, q c = false) :
  fields (fun c => p c || q c) cs = (fields q cs).flatMap (fields p)
  := by
  have hfields : fields (fun c => p c || q c) cs = fields p cs := by
    apply fields_congr
    intro c hc
    simp [h c hc]
  rw [hfields]
  cases cs with
  | nil => rfl
  | cons c cs => rw [fields_eq_singleton (List.cons_ne_nil c cs) h, List.flatMap_singleton]

/-- To cut a text at two kinds of separators is to cut it at the one and the fields at the
other. -/
theorem fields_or (cs : List Char) :
  fields (fun c => p c || q c) cs = (fields q cs).flatMap (fields p)
  := by
  -- `front` is what stands before `cs` since the last separator of the second kind
  suffices h : ∀ front : List Char, (∀ c ∈ front, q c = false) →
      fields (fun c => p c || q c) (front ++ cs) = (fields q (front ++ cs)).flatMap (fields p) by
    apply h [] (by simp)
  induction cs with
  | nil =>
    intro front hfront
    rw [List.append_nil]
    apply fields_or_of_forall hfront
  | cons c cs ih =>
    intro front hfront
    cases hc : q c with
    | true =>
      have hor : (p c || q c) = true := by
        simp [hc]
      rw [fields_append_cons hor, fields_append_cons hc, List.flatMap_append,
        fields_or_of_forall hfront]
      congr 1
      apply ih [] (by simp)
    | false =>
      rw [← List.singleton_append, ← List.append_assoc]
      apply ih
      intro d hd
      obtain hd | hd := List.mem_append.mp hd
      · apply hfront d hd
      · rwa [List.mem_singleton.mp hd]

/-! ### Trimming -/

theorem mem_dropWhile_of_not {cs : List Char} {c : Char} (hc : c ∈ cs) (h : p c = false) :
  c ∈ cs.dropWhile p
  := by
  induction cs with
  | nil => apply hc
  | cons head cs ih =>
    rw [List.dropWhile_cons]
    split
    · rename_i hhead
      obtain rfl | hc := List.mem_cons.mp hc
      · simp [h] at hhead
      · apply ih hc
    · apply hc

/-- A character that is no blank is not trimmed away. -/
theorem mem_trim {cs : List Char} {c : Char} (hc : c ∈ cs) (h : isBlank c = false) :
  c ∈ trim cs
  := by
  rw [trim, trimEnd, List.mem_reverse]
  apply mem_dropWhile_of_not _ h
  rw [List.mem_reverse]
  apply mem_dropWhile_of_not hc h

theorem dropWhile_eq_self {cs : List Char} (h : ∀ c ∈ cs, p c = false) :
  cs.dropWhile p = cs
  := by
  rw [List.dropWhile_eq_self_iff]
  intro hpos
  simp [h _ (List.getElem_mem hpos)]

theorem trim_eq_self {cs : List Char} (h : ∀ c ∈ cs, isBlank c = false) :
  trim cs = cs
  := by
  have hreverse : ∀ c ∈ cs.reverse, isBlank c = false := by
    intro c hc
    apply h c (List.mem_reverse.mp hc)
  rw [trim, dropWhile_eq_self h, trimEnd, dropWhile_eq_self hreverse, List.reverse_reverse]

end Recolour.Text
