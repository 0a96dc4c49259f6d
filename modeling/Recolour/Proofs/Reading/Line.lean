import Mathlib.Data.List.Basic
import Recolour.Program
import Recolour.Proofs.Legality
import Recolour.Proofs.Reading.Grammar
import Recolour.Proofs.Success
import Recolour.Proofs.Text.Digits

/-!
# Which lines are expressions

A line is an expression when it has eight tokens, the tokens of each half spell a rule, and
both rules are legal.  The halves are cut into channels again at commas, so a half spells a
rule by the pieces of its tokens and not by the tokens themselves.  `Expression.WrittenAs` is
the plain language, in which each token is a channel; the lines with a comma in some token are
exactly those on which the two may differ.
-/

namespace Recolour

/-! ### Rules -/

namespace Rule

/-- The pieces spell the rule: they are its four channels, or one packed literal. -/
def SpelledBy (r : Rule) (pieces : List (List Char)) : Prop :=
  pieces.map Channel.ofChars = r.channels.map .ok
    ∨ ∃ packed, pieces = [packed] ∧ ofPacked? packed = some r

/-- A packed literal has the size of one. -/
theorem size_of_ofPacked? {packed : List Char} {r : Rule} (h : ofPacked? packed = some r) :
  Utf8.size packed = packedSize
  := by
  fun_cases ofPacked? packed with
  | case1 mark r₁ r₂ g₁ g₂ b₁ b₂ a₁ a₂ hdigits =>
    simp only [Bool.and_eq_true, Bool.or_eq_true, beq_iff_eq, List.all_cons, List.all_nil,
      and_true] at hdigits
    obtain ⟨hmark, hr₁, hr₂, hg₁, hg₂, hb₁, hb₂, ha₁, ha₂⟩ := hdigits
    have hmark : mark.utf8Size = 1 := by
      obtain rfl | rfl := hmark <;> rfl
    have hzero : '0'.utf8Size = 1 := rfl
    simp [Utf8.size_cons, Utf8.size_nil, packedSize, hzero, hmark, Text.utf8Size_of_isDigitOf hr₁,
      Text.utf8Size_of_isDigitOf hr₂, Text.utf8Size_of_isDigitOf hg₁,
      Text.utf8Size_of_isDigitOf hg₂, Text.utf8Size_of_isDigitOf hb₁,
      Text.utf8Size_of_isDigitOf hb₂, Text.utf8Size_of_isDigitOf ha₁,
      Text.utf8Size_of_isDigitOf ha₂]
  | case2 _ _ _ _ _ _ _ _ _ hdigits =>
    rw [ofPacked?, if_neg hdigits] at h
    cases h
  | case3 packed hshape =>
    rw [ofPacked?] at h
    · cases h
    · apply hshape

theorem ofChars_eq_ok_iff {text : List Char} {r : Rule} :
  ofChars text = .ok r ↔ r.SpelledBy (Text.fields isSeparator text)
  := by
  rw [ofChars]
  generalize Text.fields isSeparator text = pieces
  match pieces with
  | [] => simp [SpelledBy, channels]
  | [packed] =>
    simp only [SpelledBy, channels, List.map_cons, List.map_nil]
    cases hpacked : ofPacked? packed with
    | none => split <;> simp [hpacked]
    | some rule => simp [size_of_ofPacked? hpacked, hpacked]
  | [_, _] => simp [SpelledBy, channels]
  | [_, _, _] => simp [SpelledBy, channels]
  | [red, green, blue, alpha] =>
    obtain ⟨red', green', blue', alpha'⟩ := r
    simp only [SpelledBy, channels, bind_eq_ok_iff, pure_eq_ok_iff, List.map_cons, List.map_nil,
      List.cons.injEq, and_true, reduceCtorEq, false_and, and_false, exists_false, or_false]
    constructor
    · rintro ⟨_, hred, _, hgreen, _, hblue, _, halpha, ⟨⟩⟩
      exact ⟨hred, hgreen, hblue, halpha⟩
    · rintro ⟨hred, hgreen, hblue, halpha⟩
      exact ⟨_, hred, _, hgreen, _, hblue, _, halpha, rfl⟩
  | _ :: _ :: _ :: _ :: _ :: _ => simp [SpelledBy, channels]

theorem spelledBy_iff_of_length {r : Rule} {pieces : List (List Char)}
    (h : pieces.length = 4) :
  r.SpelledBy pieces ↔ pieces.map Channel.ofChars = r.channels.map .ok
  := by
  constructor
  · rintro (hmap | ⟨packed, rfl, -⟩)
    · apply hmap
    · simp at h
  · apply Or.inl

end Rule

/-! ### Lines -/

namespace Expression

/-- The tokens are the channels of the expression, and the expression is legal. -/
def WrittenAs (e : Expression) (tokens : List (List Char)) : Prop :=
  tokens.map Channel.ofChars = (e.filter.channels ++ e.formula.channels).map .ok ∧ e.IsLegal

/-- The pieces of some tokens between commas. -/
def pieces (tokens : List (List Char)) : List (List Char) :=
  tokens.flatMap (Text.fields (· == ','))

/-- The tokens spell the expression half by half once they are cut at commas, and the
expression is legal. -/
structure RegroupedFrom (e : Expression) (tokens : List (List Char)) : Prop where
  length_eq : tokens.length = tokenCount
  filter : e.filter.SpelledBy (pieces (tokens.take 4))
  formula : e.formula.SpelledBy (pieces (tokens.drop 4))
  legal : e.IsLegal

variable {line : List Char}

theorem stripComment_eq_self (h : ';' ∉ line) :
  stripComment line = line
  := by
  rw [stripComment, List.takeWhile_eq_self_iff]
  intro c hc
  have hne : c ≠ ';' := by
    rintro rfl
    apply h hc
  simpa using hne

theorem isSeparator_of_mem_tokens {token : List Char} (h : token ∈ tokens line) {c : Char}
    (hc : c ∈ token) :
  Rule.isSeparator c = (c == ',')
  := by
  have hblank := Text.not_of_mem_fields h c hc
  simp [Rule.isSeparator, hblank]

/-- Tokens put together with spaces and read as a rule are cut into their pieces. -/
theorem fields_intercalate_tokens {group : List (List Char)} (h : group ⊆ tokens line) :
  Text.fields Rule.isSeparator ([' '].intercalate group) = pieces group
  := by
  rw [Text.fields_intercalate rfl]
  apply List.flatMap_congr
  intro token htoken
  apply Text.fields_congr
  intro c hc
  apply isSeparator_of_mem_tokens (h htoken) hc

theorem readRule_eq_ok_iff {place : String} {group : List (List Char)} (h : group ⊆ tokens line)
    {r : Rule} :
  readRule place group = .ok r ↔ r.SpelledBy (pieces group)
  := by
  rw [readRule, mapError_eq_ok_iff, Rule.ofChars_eq_ok_iff, fields_intercalate_tokens h]

theorem ofLine_eq_ok_none_iff :
  ofLine line = .ok none ↔ (tokens line).length ≠ tokenCount
  := by
  by_cases h : (tokens line).length = tokenCount
  · simp only [ofLine, if_pos h, bind_eq_ok_iff, pure_eq_ok_iff]
    constructor
    · rintro ⟨_, _, _, _, _, _, _, _, ⟨⟩⟩
    · intro hne
      apply absurd h hne
  · simp [ofLine, h]

/-- What is read from a line, in terms of the pieces of its tokens. -/
theorem ofLine_eq_ok_some_iff {e : Expression} :
  ofLine line = .ok (some e) ↔ e.RegroupedFrom (tokens line)
  := by
  have htake : (tokens line).take 4 ⊆ tokens line := List.take_subset 4 _
  have hdrop : (tokens line).drop 4 ⊆ tokens line := List.drop_subset 4 _
  by_cases h : (tokens line).length = tokenCount
  · simp only [ofLine, if_pos h, bind_eq_ok_iff, pure_eq_ok_iff, mapError_eq_ok_iff,
      readRule_eq_ok_iff htake, readRule_eq_ok_iff hdrop, Rule.checkMatch_eq_ok_iff,
      Rule.checkProduce_eq_ok_iff]
    constructor
    · rintro ⟨filter, hfilter, formula, hformula, _, ⟨rfl, hmatch⟩, _, ⟨rfl, hproduce⟩, ⟨⟩⟩
      exact ⟨h, hfilter, hformula, hmatch, hproduce⟩
    · rintro ⟨-, hfilter, hformula, hmatch, hproduce⟩
      exact ⟨_, hfilter, _, hformula, _, ⟨rfl, hmatch⟩, _, ⟨rfl, hproduce⟩, rfl⟩
  · simp only [ofLine, if_neg h, Except.ok.injEq, reduceCtorEq, false_iff]
    intro hregrouped
    apply h hregrouped.length_eq

/-- Tokens without commas are their own pieces. -/
theorem pieces_of_comma_not_mem {group : List (List Char)} (h : group ⊆ tokens line)
    (hcomma : ∀ token ∈ group, ',' ∉ token) :
  pieces group = group
  := by
  have hpiece : ∀ token ∈ group, Text.fields (· == ',') token = [token] := by
    intro token htoken
    apply Text.fields_eq_singleton (Text.ne_nil_of_mem_fields (h htoken))
    intro c hc
    have hne : c ≠ ',' := by
      rintro rfl
      apply hcomma token htoken hc
    simpa using hne
  rw [pieces, List.flatMap_congr hpiece, List.flatMap_singleton']

/-- Where no token holds a comma, what is read is what is written. -/
theorem regroupedFrom_iff_writtenAs {e : Expression}
    (hcomma : ∀ token ∈ tokens line, ',' ∉ token) :
  e.RegroupedFrom (tokens line) ↔ e.WrittenAs (tokens line)
  := by
  have htake : pieces ((tokens line).take 4) = (tokens line).take 4 := by
    apply pieces_of_comma_not_mem (List.take_subset 4 _)
    intro token htoken
    apply hcomma token (List.mem_of_mem_take htoken)
  have hdrop : pieces ((tokens line).drop 4) = (tokens line).drop 4 := by
    apply pieces_of_comma_not_mem (List.drop_subset 4 _)
    intro token htoken
    apply hcomma token (List.mem_of_mem_drop htoken)
  constructor
  · rintro ⟨hlength, hfilter, hformula, hlegal⟩
    rw [tokenCount] at hlength
    rw [htake, Rule.spelledBy_iff_of_length (by simp [hlength])] at hfilter
    rw [hdrop, Rule.spelledBy_iff_of_length (by simp [hlength])] at hformula
    constructor
    · rw [← List.take_append_drop 4 (tokens line), List.map_append, hfilter, hformula,
        List.map_append]
    · apply hlegal
  · rintro ⟨hmap, hlegal⟩
    have hlength : (tokens line).length = 8 := by
      simpa [Rule.channels] using congrArg List.length hmap
    constructor
    · apply hlength
    · rw [htake, Rule.spelledBy_iff_of_length (by simp [hlength]), List.map_take, hmap]
      rfl
    · rw [hdrop, Rule.spelledBy_iff_of_length (by simp [hlength]), List.map_drop, hmap]
      rfl
    · apply hlegal

/-- A token with a comma is no channel. -/
theorem comma_not_mem_of_writtenAs {e : Expression} {tokens : List (List Char)}
    (h : e.WrittenAs tokens) :
  ∀ token ∈ tokens, ',' ∉ token
  := by
  intro token htoken
  have hmem : Channel.ofChars token ∈ tokens.map Channel.ofChars := List.mem_map_of_mem htoken
  rw [h.1] at hmem
  obtain ⟨c, -, hc⟩ := List.mem_map.mp hmem
  apply Channel.comma_not_mem_of_ofChars hc.symm

/-- The expression written on a line is the one read from it, if no token holds a comma. -/
theorem writtenAs_iff {e : Expression} :
  e.WrittenAs (tokens line) ↔ e.RegroupedFrom (tokens line) ∧ ∀ token ∈ tokens line, ',' ∉ token
  := by
  constructor
  · intro h
    have hcomma := comma_not_mem_of_writtenAs h
    exact ⟨(regroupedFrom_iff_writtenAs hcomma).mpr h, hcomma⟩
  · rintro ⟨h, hcomma⟩
    apply (regroupedFrom_iff_writtenAs hcomma).mp h

/-- Reading is the plain language exactly where no token holds a comma or nothing is read. -/
theorem forall_regroupedFrom_iff_writtenAs :
  (∀ e, RegroupedFrom e (tokens line) ↔ e.WrittenAs (tokens line))
    ↔ (∀ token ∈ tokens line, ',' ∉ token) ∨ ∀ e, ¬RegroupedFrom e (tokens line)
  := by
  simp only [writtenAs_iff]
  constructor
  · intro h
    by_cases hcomma : ∀ token ∈ tokens line, ',' ∉ token
    · apply Or.inl hcomma
    · right
      intro e he
      apply hcomma ((h e).mp he).2
  · rintro (hcomma | hempty) e
    · exact (and_iff_left hcomma).symm
    · simp [hempty]

/-- The lines that are refused are those of eight tokens that spell no legal expression. -/
theorem exists_ofLine_eq_error_iff :
  (∃ error, ofLine line = .error error)
    ↔ (tokens line).length = tokenCount ∧ ∀ e, ¬RegroupedFrom e (tokens line)
  := by
  have hlength : (tokens line).length = tokenCount ↔ ofLine line ≠ .ok none := by
    rw [ne_eq, ofLine_eq_ok_none_iff, not_not]
  simp only [hlength, ← ofLine_eq_ok_some_iff]
  cases ofLine line with
  | error error => simp
  | ok answer => cases answer <;> simp

/-- What a line is read as: an expression regrouped from its tokens, nothing if there are not
eight of them, and an error otherwise.  The written expressions are those read from tokens
without commas, and reading is the plain language exactly on the lines without a comma in a
token and on those with nothing to regroup. -/
theorem parse_language (line : String) :
  (∀ e, parse line = .ok (some e) ↔ e.RegroupedFrom (tokens line.toList))
    ∧ (parse line = .ok none ↔ (tokens line.toList).length ≠ tokenCount)
    ∧ ((∃ error, parse line = .error error)
      ↔ (tokens line.toList).length = tokenCount ∧ ∀ e, ¬RegroupedFrom e (tokens line.toList))
    ∧ (∀ e, e.WrittenAs (tokens line.toList)
      ↔ parse line = .ok (some e) ∧ ∀ token ∈ tokens line.toList, ',' ∉ token)
    ∧ ((∀ e, parse line = .ok (some e) ↔ e.WrittenAs (tokens line.toList))
      ↔ (∀ token ∈ tokens line.toList, ',' ∉ token)
        ∨ ∀ e, ¬RegroupedFrom e (tokens line.toList))
  := by
  have hsome : ∀ e, parse line = .ok (some e) ↔ e.RegroupedFrom (tokens line.toList) :=
    fun _ => ofLine_eq_ok_some_iff
  have hnone : parse line = .ok none ↔ (tokens line.toList).length ≠ tokenCount :=
    ofLine_eq_ok_none_iff
  use hsome, hnone
  simp only [hsome]
  use exists_ofLine_eq_error_iff
  constructor
  · intro e
    apply writtenAs_iff
  · apply forall_regroupedFrom_iff_writtenAs

/-- A comma that stands alone is no channel, but cut away it leaves four channels behind. -/
theorem parse_lone_comma :
  parse ", 1,2 3 4 0 0 0 0"
      = .ok (some ⟨⟨.literal 1, .literal 2, .literal 3, .literal 4⟩,
        ⟨.literal 0, .literal 0, .literal 0, .literal 0⟩⟩)
    ∧ ∀ e, ¬WrittenAs e (tokens ", 1,2 3 4 0 0 0 0".toList)
  := by
  constructor
  · rfl
  · intro e h
    apply comma_not_mem_of_writtenAs h [','] (by decide) (by decide)

end Expression

/-! ### Programs -/

theorem Line.expression?_ofChars_eq_some_iff {source : String} {number : Nat} {text : List Char}
    {e : Expression} :
  (ofChars source number text).expression? = some e ↔ Expression.ofLine text = .ok (some e)
  := by
  rw [expression?, ofChars]
  cases Expression.ofLine text with
  | error error => simp
  | ok answer => cases answer <;> simp

/-- The expressions of a program are those read from its texts. -/
theorem Program.mem_expressions_ofTexts {source : String} {texts : List (List Char)}
    {e : Expression} :
  e ∈ (ofTexts source texts).expressions ↔ ∃ text ∈ texts, Expression.ofLine text = .ok (some e)
  := by
  rw [expressions, ofTexts, List.filterMap_map, List.mem_filterMap]
  simp only [Function.comp_apply, Line.expression?_ofChars_eq_some_iff]
  constructor
  · rintro ⟨⟨text, number⟩, hmem, hread⟩
    use text, List.fst_mem_of_mem_zipIdx hmem
  · rintro ⟨text, hmem, hread⟩
    rw [← List.zipIdx_map_fst 1 texts, List.mem_map] at hmem
    obtain ⟨pair, hpair, rfl⟩ := hmem
    use pair, hpair

end Recolour
