import Recolour.Program
import Recolour.Proofs.Reading.Line
import Recolour.Proofs.Text.Lines

/-!
# Reading what was written

The written form of a channel is read back as that channel, except for the three references
that no token names.  So the written form of an expression is read back exactly when the
expression is legal and names none of them, and a list of such expressions is the program of
their written forms on lines of their own.
-/

namespace Recolour

/-! ### Channels -/

/-- A character that may stand in the written form of a channel: no blank, and no character
that ends a channel or a line. -/
def Channel.isTokenChar (c : Char) : Bool :=
  !Text.isBlank c && c != ',' && c != ';'

/-- The digits and the percent sign of a number in its written form. -/
def Number.body (n : Number) : List Char :=
  Nat.toDigits 10 n.value.toNat ++ if n.percentage then ['%'] else []

/-- The channel is none of the three references that no token names. -/
def Channel.HasToken (c : Channel) : Prop :=
  ∀ reference ∈ [Reference.average, .lightness, .luminosity], c ≠ .named reference

instance (c : Channel) : Decidable c.HasToken :=
  inferInstanceAs (Decidable (∀ reference ∈ [Reference.average, .lightness, .luminosity],
    c ≠ .named reference))

theorem Number.body_ne_nil (n : Number) :
  n.body ≠ []
  := by
  simp [body, Nat.toDigits_ne_nil]

/-- The body of a number has nothing but digits and percent signs. -/
theorem Number.isDigit_or_eq_of_mem_body {n : Number} {c : Char} (h : c ∈ n.body) :
  c.isDigit = true ∨ c = '%'
  := by
  obtain h | h := List.mem_append.mp h
  · left
    apply Text.isDigit_of_mem_toDigits h
  · right
    split at h
    · apply List.mem_singleton.mp h
    · cases h

namespace Channel

theorem toList_text_number (n : Number) :
  (text (.number n)).toList = n.operator.symbol.toList ++ n.body
  := by
  obtain ⟨operator, value, percentage⟩ := n
  cases percentage <;> simp [text, Number.body]

theorem isTokenChar_of_isDigit {c : Char} (h : c.isDigit = true) :
  isTokenChar c = true
  := by
  have hrange := Text.toNat_of_isDigit h
  have hblank : Text.isBlank c = false := by
    simp [Text.isBlank]
    omega
  have hcomma : c ≠ ',' := by
    rintro rfl
    simp at hrange
  have hcomment : c ≠ ';' := by
    rintro rfl
    simp at hrange
  simp [isTokenChar, hblank, hcomma, hcomment]

theorem isTokenChar_of_mem_symbol (operator : Operator) :
  ∀ c ∈ operator.symbol.toList, isTokenChar c = true
  := by
  rw [← List.all_eq_true]
  cases operator <;> rfl

/-- Every character in the written form of a channel may stand there. -/
theorem isTokenChar_of_mem_text (c : Channel) :
  ∀ char ∈ c.text.toList, isTokenChar char = true
  := by
  cases c with
  | wildcard =>
    rw [← List.all_eq_true]
    rfl
  | named reference =>
    rw [← List.all_eq_true]
    cases reference <;> rfl
  | number n =>
    intro char hchar
    rw [toList_text_number, List.mem_append] at hchar
    obtain hsymbol | hbody := hchar
    · apply isTokenChar_of_mem_symbol n.operator char hsymbol
    · obtain hdigit | rfl := Number.isDigit_or_eq_of_mem_body hbody
      · apply isTokenChar_of_isDigit hdigit
      · decide

theorem isBlank_of_mem_text {c : Channel} {char : Char} (h : char ∈ c.text.toList) :
  Text.isBlank char = false
  := by
  have hchar := c.isTokenChar_of_mem_text char h
  simp only [isTokenChar, Bool.and_eq_true, Bool.not_eq_true'] at hchar
  apply hchar.1.1

theorem toList_text_ne_nil (c : Channel) :
  c.text.toList ≠ []
  := by
  cases c with
  | wildcard => decide
  | named reference => cases reference <;> decide
  | number n =>
    rw [toList_text_number]
    apply List.append_ne_nil_of_right_ne_nil _ n.body_ne_nil

theorem ofToken_number (n : Number) :
  ofToken (text (.number n)).toList = .ok (.number n)
  := by
  rw [ofToken_eq_ok_iff_exists]
  use n.operator, [], n.body
  constructor
  · rw [toList_text_number, List.append_nil]
  · decide
  · have hvalue := n.value.toNat_lt
    have hdigits : ∀ c ∈ Nat.toDigits 10 n.value.toNat, Text.isDigitOf 10 c = true := by
      intro c hc
      apply Text.isDigitOf_ten (Text.isDigit_of_mem_toDigits hc)
    have hnumber : Spells n.operator 10 n.body (.number ⟨n.operator,
        UInt8.ofNat (Text.numeral 10 (Nat.toDigits 10 n.value.toNat)), n.percentage⟩) := by
      apply Spells.number n.percentage Nat.toDigits_ne_nil hdigits
      rw [Text.numeral_toDigits]
      omega
    rw [Text.numeral_toDigits, UInt8.ofNat_toNat] at hnumber
    apply hnumber

/-- The written form of a channel that has a token is read back. -/
theorem ofChars_text {c : Channel} (h : c.HasToken) :
  ofChars c.text.toList = .ok c
  := by
  have htrim : Text.trim c.text.toList = c.text.toList := by
    apply Text.trim_eq_self
    intro char hchar
    apply isBlank_of_mem_text hchar
  rw [ofChars, htrim]
  cases c with
  | wildcard => rfl
  | named reference =>
    cases reference with
    | average => simp [HasToken] at h
    | lightness => simp [HasToken] at h
    | luminosity => simp [HasToken] at h
    | _ => rfl
  | number n => apply ofToken_number

/-- A channel that is read has a token. -/
theorem hasToken_of_ofChars {chars : List Char} {c : Channel} (h : ofChars chars = .ok c) :
  c.HasToken
  := by
  obtain ⟨_, _, _, -, -, hspells⟩ := ofChars_eq_ok_iff.mp h
  cases hspells with
  | wildcard => decide
  | reference hletter =>
    have hletters : ∀ pair ∈ Reference.letters, HasToken (.named pair.2) := by decide
    apply hletters _ hletter
  | number => simp [HasToken]

/-- What the written form of a channel is read as: the channel itself, if it has a token. -/
theorem ofChars_text_eq_ok_iff {c d : Channel} :
  ofChars c.text.toList = .ok d ↔ d = c ∧ c.HasToken
  := by
  constructor
  · intro h
    by_cases htoken : c.HasToken
    · rw [ofChars_text htoken] at h
      exact ⟨(Except.ok.inj h).symm, htoken⟩
    · exfalso
      simp only [HasToken, List.forall_mem_cons, not_and_or, not_not] at htoken
      obtain rfl | rfl | rfl | hnil := htoken
      · cases h
      · cases h
      · cases h
      · simp at hnil
  · rintro ⟨rfl, htoken⟩
    apply ofChars_text htoken

theorem map_ofChars_text_eq_iff {channels read : List Channel} :
  (channels.map fun c => c.text.toList).map ofChars = read.map .ok
    ↔ read = channels ∧ ∀ c ∈ channels, c.HasToken
  := by
  induction channels generalizing read with
  | nil => simp [eq_comm]
  | cons c channels ih =>
    cases read with
    | nil => simp
    | cons d read =>
      simp only [List.map_cons, List.cons.injEq, ih, ofChars_text_eq_ok_iff,
        List.forall_mem_cons]
      constructor
      · rintro ⟨⟨rfl, hc⟩, rfl, hchannels⟩
        exact ⟨⟨rfl, rfl⟩, hc, hchannels⟩
      · rintro ⟨⟨rfl, rfl⟩, hc, hchannels⟩
        exact ⟨⟨rfl, hc⟩, rfl, hchannels⟩

end Channel

/-! ### Expressions -/

/-- Every channel of the expression has a token. -/
def Expression.HasTokens (e : Expression) : Prop :=
  ∀ c ∈ e.filter.channels ++ e.formula.channels, c.HasToken

instance (e : Expression) : Decidable e.HasTokens :=
  inferInstanceAs (Decidable (∀ c ∈ e.filter.channels ++ e.formula.channels, c.HasToken))

/-- A rule that is read has tokens, since a packed literal holds plain numbers. -/
theorem Rule.hasToken_of_spelledBy {r : Rule} {pieces : List (List Char)}
    (h : r.SpelledBy pieces) :
  ∀ c ∈ r.channels, c.HasToken
  := by
  obtain hmap | ⟨packed, -, hpacked⟩ := h
  · intro c hc
    have hok : Except.ok c ∈ pieces.map Channel.ofChars := by
      rw [hmap]
      apply List.mem_map_of_mem hc
    obtain ⟨piece, -, hpiece⟩ := List.mem_map.mp hok
    apply Channel.hasToken_of_ofChars hpiece
  · fun_cases ofPacked? packed with
    | case1 _ _ _ _ _ _ _ _ _ hdigits =>
      rw [ofPacked?, if_pos hdigits] at hpacked
      obtain rfl := Option.some.inj hpacked
      simp [channels, packedChannel, Channel.literal, Channel.HasToken]
    | case2 _ _ _ _ _ _ _ _ _ hdigits =>
      rw [ofPacked?, if_neg hdigits] at hpacked
      cases hpacked
    | case3 packed hshape =>
      rw [ofPacked?] at hpacked
      · cases hpacked
      · apply hshape

namespace Expression

/-- An expression is determined by its eight channels. -/
theorem eq_of_channels {e f : Expression}
    (h : e.filter.channels ++ e.formula.channels = f.filter.channels ++ f.formula.channels) :
  e = f
  := by
  obtain ⟨⟨_, _, _, _⟩, ⟨_, _, _, _⟩⟩ := e
  obtain ⟨⟨_, _, _, _⟩, ⟨_, _, _, _⟩⟩ := f
  simp only [Rule.channels, List.cons_append, List.nil_append, List.cons.injEq, and_true] at h
  obtain ⟨rfl, rfl, rfl, rfl, rfl, rfl, rfl, rfl⟩ := h
  rfl

theorem HasTokens.of_regroupedFrom {e : Expression} {tokens : List (List Char)}
    (h : e.RegroupedFrom tokens) :
  e.HasTokens
  := by
  intro c hc
  obtain hc | hc := List.mem_append.mp hc
  · apply Rule.hasToken_of_spelledBy h.filter c hc
  · apply Rule.hasToken_of_spelledBy h.formula c hc

/-- Whatever a line is read as has tokens. -/
theorem HasTokens.of_mem_parse {e : Expression} {source text : String}
    (h : e ∈ (Program.parse source text).expressions) :
  e.HasTokens
  := by
  obtain ⟨line, -, hread⟩ := Program.mem_expressions_ofTexts.mp h
  apply of_regroupedFrom (ofLine_eq_ok_some_iff.mp hread)

/-- The written forms of the channels, with a space between two of them and one more between
the rules. -/
theorem toList_text (e : Expression) :
  e.text.toList = [' '].intercalate (e.filter.channels.map (fun c => c.text.toList)
    ++ [] :: e.formula.channels.map fun c => c.text.toList)
  := by
  simp [text, Rule.text, Rule.channels]

theorem eq_or_isTokenChar_of_mem_text {e : Expression} {char : Char}
    (h : char ∈ e.text.toList) :
  char = ' ' ∨ Channel.isTokenChar char = true
  := by
  rw [toList_text] at h
  obtain rfl | ⟨piece, hpiece, hchar⟩ := Text.mem_intercalate h
  · left
    rfl
  · right
    simp only [List.mem_append, List.mem_cons, List.mem_map] at hpiece
    obtain ⟨c, -, rfl⟩ | rfl | ⟨c, -, rfl⟩ := hpiece
    · apply c.isTokenChar_of_mem_text char hchar
    · cases hchar
    · apply c.isTokenChar_of_mem_text char hchar

theorem not_mem_text_of_not_isTokenChar (e : Expression) {char : Char} (hspace : char ≠ ' ')
    (hchar : Channel.isTokenChar char = false) :
  char ∉ e.text.toList
  := by
  intro h
  obtain hequal | htoken := eq_or_isTokenChar_of_mem_text h
  · apply hspace hequal
  · simp [hchar] at htoken

/-- The words of written channels are the channels. -/
theorem flatMap_words_text (channels : List Channel) :
  (channels.map fun c => c.text.toList).flatMap (Text.fields Text.isBlank)
    = channels.map fun c => c.text.toList
  := by
  have hword : ∀ c : Channel, Text.fields Text.isBlank c.text.toList = [c.text.toList] := by
    intro c
    apply Text.fields_eq_singleton c.toList_text_ne_nil
    intro char hchar
    apply Channel.isBlank_of_mem_text hchar
  rw [List.flatMap_map, List.flatMap_congr fun c _ => hword c]
  apply List.map_eq_flatMap.symm

/-- The tokens of a written expression are its channels. -/
theorem tokens_text (e : Expression) :
  tokens e.text.toList = (e.filter.channels ++ e.formula.channels).map fun c => c.text.toList
  := by
  have hcomment : ';' ∉ e.text.toList :=
    e.not_mem_text_of_not_isTokenChar (by decide) (by decide)
  rw [tokens, stripComment_eq_self hcomment, Text.words, toList_text, Text.fields_intercalate rfl,
    List.flatMap_append, List.flatMap_cons, flatMap_words_text, flatMap_words_text,
    List.map_append]
  rfl

/-- What the written form of an expression is read as: the expression itself, if it is legal
and its channels have tokens. -/
theorem ofLine_text_eq_ok_some_iff {e read : Expression} :
  ofLine e.text.toList = .ok (some read) ↔ read = e ∧ e.IsLegal ∧ e.HasTokens
  := by
  have hcomma : ∀ token ∈ tokens e.text.toList, ',' ∉ token := by
    rw [tokens_text]
    intro token htoken hmem
    obtain ⟨c, -, rfl⟩ := List.mem_map.mp htoken
    have h := c.isTokenChar_of_mem_text ',' hmem
    simp [Channel.isTokenChar] at h
  rw [ofLine_eq_ok_some_iff, regroupedFrom_iff_writtenAs hcomma, WrittenAs, tokens_text,
    Channel.map_ofChars_text_eq_iff]
  constructor
  · rintro ⟨⟨hchannels, htokens⟩, hlegal⟩
    obtain rfl := eq_of_channels hchannels
    exact ⟨rfl, hlegal, htokens⟩
  · rintro ⟨rfl, hlegal, htokens⟩
    exact ⟨⟨rfl, htokens⟩, hlegal⟩

theorem ofLine_text_ne_ok_none (e : Expression) :
  ofLine e.text.toList ≠ .ok none
  := by
  rw [ne_eq, ofLine_eq_ok_none_iff, not_not, tokens_text]
  rfl

/-- The written form of an expression that is not legal or names a reference without a token
is refused. -/
theorem exists_ofLine_text_eq_error {e : Expression} (h : ¬(e.IsLegal ∧ e.HasTokens)) :
  ∃ error, ofLine e.text.toList = .error error
  := by
  cases hread : ofLine e.text.toList with
  | error error => exact ⟨error, rfl⟩
  | ok answer =>
    cases answer with
    | none => apply absurd hread e.ofLine_text_ne_ok_none
    | some read => apply absurd (ofLine_text_eq_ok_some_iff.mp hread).2 h

end Expression

/-! ### Programs -/

theorem Line.ofChars_text_eq_iff {source : String} {number : Nat} {e : Expression} :
  ofChars source number e.text.toList = ⟨source, number, e.text, .expression e⟩
    ↔ e.IsLegal ∧ e.HasTokens
  := by
  simp only [ofChars, String.ofList_toList, Line.mk.injEq, true_and]
  constructor
  · intro h
    by_contra hnot
    obtain ⟨error, herror⟩ := Expression.exists_ofLine_text_eq_error hnot
    simp [herror] at h
  · intro h
    rw [Expression.ofLine_text_eq_ok_some_iff.mpr ⟨rfl, h⟩]

/-- Written expressions on lines of their own are the lines of the text. -/
theorem Expression.lines_texts (expressions : List Expression) :
  Text.lines ("\n".intercalate (expressions.map text)).toList
    = expressions.map fun e => e.text.toList
  := by
  rw [String.toList_intercalate, List.map_map]
  have hforall : ∀ P : List Char → Prop, (∀ e : Expression, P e.text.toList) →
      ∀ line ∈ expressions.map (String.toList ∘ text), P line := by
    intro P hP line hline
    obtain ⟨e, -, rfl⟩ := List.mem_map.mp hline
    apply hP
  apply Text.linesBy_intercalate
  · apply hforall (· ≠ [])
    intro e hnil
    have htokens := e.tokens_text
    rw [hnil] at htokens
    cases htokens
  · apply hforall ('\n' ∉ ·)
    intro e
    apply e.not_mem_text_of_not_isTokenChar (by decide) (by decide)
  · apply hforall ('\r' ∉ ·)
    intro e
    apply e.not_mem_text_of_not_isTokenChar (by decide) (by decide)

/-- The program of written expressions on lines of their own is the program of the
expressions, if each is legal and has tokens. -/
theorem Program.parse_texts_eq_iff {source : String} {expressions : List Expression} :
  parse source ("\n".intercalate (expressions.map Expression.text))
      = ofExpressions source expressions
    ↔ ∀ e ∈ expressions, e.IsLegal ∧ e.HasTokens
  := by
  rw [parse, Expression.lines_texts, ofTexts, ofExpressions, List.zipIdx_map, List.map_map,
    Program.mk.injEq, List.map_inj_left]
  simp only [Function.comp_apply, Prod.map_apply, id_eq, Prod.forall, Line.ofChars_text_eq_iff]
  constructor
  · intro h e he
    obtain ⟨i, hi⟩ := List.mem_iff_getElem?.mp he
    apply h e (1 + i) (List.mk_add_mem_zipIdx_iff_getElem?.mpr hi)
  · intro h e number hmem
    apply h e (List.fst_mem_of_mem_zipIdx hmem)

/-- Reading undoes writing on the legal expressions whose channels have tokens: each of them is
read back from its written form, and a list of expressions from the lines of their written
forms exactly when all are of this kind.  The written form of any other expression is refused,
and what is read from a line is always of this kind. -/
theorem Program.parse_written_forms :
  (∀ e : Expression, e.IsLegal ∧ e.HasTokens → Expression.parse e.text = .ok (some e))
    ∧ (∀ e : Expression, ¬(e.IsLegal ∧ e.HasTokens) →
      ∃ error, Expression.parse e.text = .error error)
    ∧ (∀ line e, Expression.parse line = .ok (some e) → Expression.parse e.text = .ok (some e))
    ∧ ∀ source expressions, parse source ("\n".intercalate (expressions.map Expression.text))
        = ofExpressions source expressions ↔ ∀ e ∈ expressions, e.IsLegal ∧ e.HasTokens
  := by
  have hback : ∀ e : Expression, e.IsLegal ∧ e.HasTokens →
      Expression.parse e.text = .ok (some e) := by
    intro e h
    apply Expression.ofLine_text_eq_ok_some_iff.mpr ⟨rfl, h⟩
  use hback
  constructor
  · intro e h
    apply Expression.exists_ofLine_text_eq_error h
  · constructor
    · intro line e h
      have hregrouped := Expression.ofLine_eq_ok_some_iff.mp h
      apply hback e ⟨hregrouped.legal, .of_regroupedFrom hregrouped⟩
    · intro source expressions
      apply parse_texts_eq_iff

/-- A number with an operator and a percent sign, a metric with a letter and one without, and a
line with a packed literal among commas. -/
theorem Program.parse_written_dimming :
  (Expression.parse "<128 ? ? ?  -5% #m ? 0"
      = .ok (some ⟨⟨.number ⟨.less, 128, false⟩, .wildcard, .wildcard, .wildcard⟩,
        ⟨.number ⟨.sub, 5, true⟩, .named .mean, .wildcard, .literal 0⟩⟩))
    ∧ (∃ error, Expression.parse "? ? ? ?  (luminosity) (luminosity) (luminosity) ?"
      = .error error)
    ∧ Expression.parse "0xFF00ff10 , , , ? ?,? , 0x01; packed"
      = .ok (some ⟨⟨.literal 255, .literal 0, .literal 255, .literal 16⟩,
        ⟨.wildcard, .wildcard, .wildcard, .literal 1⟩⟩)
    ∧ Expression.parse "255 0 255 16  ? ? ? 1"
      = .ok (some ⟨⟨.literal 255, .literal 0, .literal 255, .literal 16⟩,
        ⟨.wildcard, .wildcard, .wildcard, .literal 1⟩⟩)
  := by
  obtain ⟨hback, herror, hagain, -⟩ := Program.parse_written_forms
  let dimming : Expression := ⟨⟨.number ⟨.less, 128, false⟩, .wildcard, .wildcard, .wildcard⟩,
    ⟨.number ⟨.sub, 5, true⟩, .named .mean, .wildcard, .literal 0⟩⟩
  let gray : Expression := ⟨.wildcard, .gray (.named .luminosity)⟩
  let packed : Expression := ⟨⟨.literal 255, .literal 0, .literal 255, .literal 16⟩,
    ⟨.wildcard, .wildcard, .wildcard, .literal 1⟩⟩
  have hdimming : dimming.text = "<128 ? ? ?  -5% #m ? 0" := by decide +kernel
  have hgray : gray.text = "? ? ? ?  (luminosity) (luminosity) (luminosity) ?" := by
    decide +kernel
  have hpacked : packed.text = "255 0 255 16  ? ? ? 1" := by decide +kernel
  have hline : Expression.parse "0xFF00ff10 , , , ? ?,? , 0x01; packed" = .ok (some packed) := by
    rfl
  rw [← hdimming, ← hgray, ← hpacked]
  use hback dimming (by decide)
  use herror gray (by decide), hline
  apply hagain _ packed hline

end Recolour
