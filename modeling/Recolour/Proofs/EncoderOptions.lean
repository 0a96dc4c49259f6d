import Recolour.EncoderOptions
import Recolour.Proofs.Text.Case
import Recolour.Proofs.Text.Fields

/-!
# What options hold

The options a text spells are those its pairs write, one after another, so each key has the value
of the last pair for it.  To merge options is to write those of the one over those of the other,
and to join two texts by a semicolon is to merge the options they spell.
-/

namespace Recolour.EncoderOptions

variable {options others : EncoderOptions} {piece : List Char} {key value : String}

/-! ### Writing pairs -/

/-- A pair as it is kept, the key with small letters. -/
def folded (pair : String × String) : String × String :=
  (Text.foldCase pair.1, pair.2)

theorem foldl_set (pairs : List (String × String)) (options : EncoderOptions) :
  pairs.foldl (fun options (key, value) => options.set key value) options
    = ⟨options.values.insertMany (pairs.map folded)⟩
  := by
  induction pairs generalizing options with
  | nil => rw [List.foldl_nil, List.map_nil, Std.ExtTreeMap.insertMany_nil]
  | cons pair pairs ih =>
    rw [List.foldl_cons, ih, List.map_cons, folded, Std.ExtTreeMap.insertMany_cons]
    rfl

theorem parse_eq (text : String) :
  parse text = ⟨(∅ : Std.ExtTreeMap String String).insertMany ((pairs text.toList).map folded)⟩
  := by
  rw [parse, foldl_set]
  rfl

/-- Merged options have the values of the others, and their own where the others have none. -/
theorem getElem?_merge (key : String) :
  (options.merge others).values[key]? = others.values[key]?.or options.values[key]?
  := by
  rw [merge]
  cases hvalue : others.values[key]? with
  | some value =>
    apply Std.ExtTreeMap.getElem?_insertMany_list_of_mem Std.ReflCmp.compare_self
      others.values.distinct_keys_toList
    apply Std.ExtTreeMap.mem_toList_iff_getElem?_eq_some.mpr hvalue
  | none =>
    rw [Option.none_or]
    apply Std.ExtTreeMap.getElem?_insertMany_list_of_contains_eq_false
    simpa using hvalue

/-- To merge the options of a text is to write its pairs. -/
theorem merge_parse (options : EncoderOptions) (text : String) :
  options.merge (parse text) = ⟨options.values.insertMany ((pairs text.toList).map folded)⟩
  := by
  have hvalues : (options.merge (parse text)).values =
      options.values.insertMany ((pairs text.toList).map folded) := by
    apply Std.ExtTreeMap.ext_getElem?
    intro key
    rw [getElem?_merge, parse_eq, Std.ExtTreeMap.getElem?_insertMany_list,
      Std.ExtTreeMap.getElem?_insertMany_list, Std.ExtTreeMap.getElem?_empty, Option.or_none]
  rw [← hvalues]

theorem pairs_append (first second : List Char) :
  pairs (first ++ ';' :: second) = pairs first ++ pairs second
  := by
  rw [pairs, List.splitOn_append_cons_self, List.filterMap_append, pairs, pairs]

/-- A semicolon between two texts merges the options of the second into those of the first. -/
theorem parse_append (first second : String) :
  parse (first ++ ";" ++ second) = (parse first).merge (parse second)
  := by
  have htext : (first ++ ";" ++ second).toList = first.toList ++ ';' :: second.toList := by
    rw [String.toList_append, String.toList_append, List.append_assoc]
    rfl
  rw [merge_parse, parse_eq, parse_eq, htext, pairs_append, List.map_append,
    Std.ExtTreeMap.insertMany_append]

/-! ### The value of a key -/

/-- The piece gives a value to a key: it has one colon, with the key before it, in any letter
case, and the value behind it. Blanks around the two do not count, and neither of them is empty. -/
def Gives (piece : List Char) (key value : String) : Prop :=
  ∃ left right, piece = left ++ ':' :: right ∧ ':' ∉ left ∧ ':' ∉ right
    ∧ Text.trim left ≠ [] ∧ Text.trim right ≠ []
    ∧ Text.sameFolded (String.ofList (Text.trim left)) key
    ∧ value = String.ofList (Text.trim right)

theorem pair?_eq_some_iff {pair : String × String} :
  pair? piece = some pair ↔ ∃ left right, piece = left ++ ':' :: right ∧ ':' ∉ left ∧ ':' ∉ right
    ∧ Text.trim left ≠ [] ∧ Text.trim right ≠ []
    ∧ pair = (String.ofList (Text.trim left), String.ofList (Text.trim right))
  := by
  constructor
  · intro h
    rw [pair?] at h
    split at h
    · rename_i left right hsplit
      obtain ⟨hpiece, hleft, hright⟩ := Text.splitOn_eq_pair_iff.mp hsplit
      simp only [Option.ite_none_left_eq_some, Bool.or_eq_true, List.isEmpty_iff, not_or,
        Option.some.injEq] at h
      exact ⟨left, right, hpiece, hleft, hright, h.1.1, h.1.2, h.2.symm⟩
    · cases h
  · rintro ⟨left, right, hpiece, hleft, hright, hkey, hvalue, rfl⟩
    rw [pair?, Text.splitOn_eq_pair_iff.mpr ⟨hpiece, hleft, hright⟩]
    simp [hkey, hvalue]

/-- The value that a piece gives to a key. -/
def given? (key : String) (piece : List Char) : Option String :=
  (pair? piece).bind fun pair => if Text.sameFolded pair.1 key then some pair.2 else none

theorem given?_eq_some_iff :
  given? key piece = some value ↔ Gives piece key value
  := by
  simp only [given?, Option.bind_eq_some_iff, pair?_eq_some_iff, Option.ite_none_right_eq_some,
    Option.some.injEq]
  constructor
  · rintro ⟨_, ⟨left, right, hpiece, hleft, hright, hkey, hvalue, rfl⟩, hsame, rfl⟩
    exact ⟨left, right, hpiece, hleft, hright, hkey, hvalue, hsame, rfl⟩
  · rintro ⟨left, right, hpiece, hleft, hright, hkey, hvalue, hsame, rfl⟩
    exact ⟨_, ⟨left, right, hpiece, hleft, hright, hkey, hvalue, rfl⟩, hsame, rfl⟩

theorem given?_eq_none_iff :
  given? key piece = none ↔ ∀ value, ¬Gives piece key value
  := by
  simp only [Option.eq_none_iff_forall_ne_some, ne_eq, given?_eq_some_iff]

/-- The value of a key is the one the last of the pieces gives to it. -/
theorem get?_parse (text key : String) :
  (parse text).get? key = (text.toList.splitOn ';').reverse.findSome? (given? key)
  := by
  have hgiven : ∀ pair : String × String,
      (if compare (folded pair).1 (Text.foldCase key) = .eq then some (folded pair).2 else none)
        = if Text.sameFolded pair.1 key then some pair.2 else none := by
    intro pair
    simp only [folded, Std.LawfulEqCmp.compare_eq_iff_eq, Text.sameFolded_iff]
  rw [get?, parse_eq, Std.ExtTreeMap.getElem?_insertMany_list, Std.ExtTreeMap.getElem?_empty,
    Option.or_none, List.findSomeRev?_eq_findSome?_reverse, ← List.map_reverse,
    List.findSome?_map, pairs, ← List.filterMap_reverse, ← List.head?_filterMap,
    List.filterMap_filterMap, List.head?_filterMap]
  simp only [Function.comp_def, hgiven]
  rfl

theorem get?_parse_eq_some_iff {text : String} :
  (parse text).get? key = some value ↔
    ∃ before piece after, text.toList.splitOn ';' = before ++ piece :: after
      ∧ Gives piece key value ∧ ∀ later ∈ after, ∀ other, ¬Gives later key other
  := by
  rw [get?_parse, List.findSome?_eq_some_iff]
  constructor
  · rintro ⟨behind, piece, front, hsplit, hgives, hbehind⟩
    refine ⟨front.reverse, piece, behind.reverse, ?_, given?_eq_some_iff.mp hgives, ?_⟩
    · rw [List.reverse_eq_iff] at hsplit
      simpa using hsplit
    · intro later hlater
      apply given?_eq_none_iff.mp (hbehind later (List.mem_reverse.mp hlater))
  · rintro ⟨before, piece, after, hsplit, hgives, hafter⟩
    refine ⟨after.reverse, piece, before.reverse, ?_, given?_eq_some_iff.mpr hgives, ?_⟩
    · simp [hsplit]
    · intro later hlater
      apply given?_eq_none_iff.mpr (hafter later (List.mem_reverse.mp hlater))

theorem get?_parse_eq_none_iff {text : String} :
  (parse text).get? key = none ↔ ∀ piece ∈ text.toList.splitOn ';', ∀ value, ¬Gives piece key value
  := by
  rw [get?_parse, List.findSome?_eq_none_iff]
  simp only [List.mem_reverse, given?_eq_none_iff]

example :
  (parse "quality:90; Quality : 80 ;format;a:b:c").get? "QUALITY" = some "80"
  := by decide

end Recolour.EncoderOptions
