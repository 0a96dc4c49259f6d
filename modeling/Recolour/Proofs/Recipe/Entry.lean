import Recolour.Proofs.Assembly
import Recolour.Proofs.Reading.Line
import Recolour.Proofs.Recipe.Segments

/-!
# Ways to enter an expression

An expression may be entered as a line, as a pair of rules, or, for a channel to apply to the
three colours, as that channel alone.  A pair of rules of four tokens each is accepted exactly
if they are a line when put side by side, and a channel exactly if the line that repeats it is;
the expression is then the same.
-/

namespace Recolour

variable {settings : Settings} {session : Session} {p : Program}

theorem Rule.fields_eq_pieces (text : List Char) :
  Text.fields isSeparator text = Expression.pieces (Text.words text)
  := Text.fields_or text

theorem Rule.parse_eq_ok_iff {text : String} {r : Rule} :
  Rule.parse text = .ok r ↔ r.SpelledBy (Expression.pieces (Text.words text.toList))
  := by
  rw [Rule.parse, Rule.ofChars_eq_ok_iff, Rule.fields_eq_pieces]

/-! ### Entering two rules -/

namespace Expression

variable {e : Expression}

/-- Two rules of four tokens each, one behind the other, are a line. -/
theorem parse_rules_eq_ok_some_iff {filter formula : String}
    (hfilter : (Text.words filter.toList).length = 4)
    (hformula : (Text.words formula.toList).length = 4)
    (hcomment : ';' ∉ filter.toList) (hcomment' : ';' ∉ formula.toList) :
  parse (filter ++ " " ++ formula) = .ok (some e) ↔
    Rule.parse filter = .ok e.filter ∧ Rule.parse formula = .ok e.formula ∧ e.IsLegal
  := by
  have hline : (filter ++ " " ++ formula).toList = filter.toList ++ ' ' :: formula.toList := by
    simp
  have htokens : tokens (filter ++ " " ++ formula).toList =
      Text.words filter.toList ++ Text.words formula.toList := by
    rw [hline, tokens, stripComment_eq_self (by simp [hcomment, hcomment']), Text.words,
      Text.fields_append_cons rfl]
    rfl
  rw [parse, ofLine_eq_ok_some_iff, htokens, Rule.parse_eq_ok_iff, Rule.parse_eq_ok_iff]
  constructor
  · rintro ⟨-, hread, hread', hlegal⟩
    rw [List.take_left' hfilter] at hread
    rw [List.drop_left' hfilter] at hread'
    exact ⟨hread, hread', hlegal⟩
  · rintro ⟨hread, hread', hlegal⟩
    constructor
    · rw [List.length_append, hfilter, hformula, tokenCount]
    · rwa [List.take_left' hfilter]
    · rwa [List.drop_left' hfilter]
    · apply hlegal

/-! ### Entering one channel -/

/-- The line that applies a channel to the three colours. -/
def grayLine (token : String) : String :=
  "? ? ? ? " ++ token ++ " " ++ token ++ " " ++ token ++ " ?"

theorem tokens_grayLine {token : String} (hne : token ≠ "")
    (hblank : ∀ c ∈ token.toList, Text.isBlank c = false) (hcomment : ';' ∉ token.toList) :
  tokens (grayLine token).toList =
    [['?'], ['?'], ['?'], ['?'], token.toList, token.toList, token.toList, ['?']]
  := by
  have hline : (grayLine token).toList = [' '].intercalate
      [['?'], ['?'], ['?'], ['?'], token.toList, token.toList, token.toList, ['?']] := by
    simp [grayLine]
  have hmark : Text.fields Text.isBlank ['?'] = [['?']] := rfl
  have htoken : Text.fields Text.isBlank token.toList = [token.toList] := by
    apply Text.fields_eq_singleton _ hblank
    simpa using hne
  rw [tokens, stripComment_eq_self (by simp [grayLine, hcomment]), hline, Text.words,
    Text.fields_intercalate rfl]
  simp only [List.flatMap_cons, List.flatMap_nil, hmark, htoken]
  rfl

/-- A channel that is repeated for the three colours is a line. -/
theorem parse_grayLine_eq_ok_some_iff {token : String} (hne : token ≠ "")
    (h : ∀ c ∈ token.toList, Text.isBlank c = false ∧ c ≠ ',' ∧ c ≠ ';') :
  parse (grayLine token) = .ok (some e) ↔
    ∃ c, Channel.parse token = .ok c ∧ c.MayProduce ∧ e = ⟨.wildcard, .gray c⟩
  := by
  have htokens : tokens (grayLine token).toList =
      [['?'], ['?'], ['?'], ['?'], token.toList, token.toList, token.toList, ['?']] := by
    apply tokens_grayLine hne fun c hc => (h c hc).1
    intro hcomment
    apply (h _ hcomment).2.2 rfl
  have hcomma : ∀ piece ∈ tokens (grayLine token).toList, ',' ∉ piece := by
    have htoken : ',' ∉ token.toList := fun hmem => (h _ hmem).2.1 rfl
    rw [htokens]
    simp [htoken]
  have hmark : Channel.ofChars ['?'] = .ok .wildcard := rfl
  rw [parse, ofLine_eq_ok_some_iff, regroupedFrom_iff_writtenAs hcomma, WrittenAs, htokens]
  constructor
  · obtain ⟨⟨r, g, b, a⟩, r', g', b', a'⟩ := e
    simp only [Rule.channels, List.map_cons, List.map_nil, List.cons_append, List.nil_append,
      List.cons.injEq, hmark, Except.ok.injEq, and_true]
    rintro ⟨⟨rfl, rfl, rfl, rfl, hred, hgreen, hblue, rfl⟩, hlegal⟩
    obtain rfl := Except.ok.inj (hred.symm.trans hgreen)
    obtain rfl := Except.ok.inj (hred.symm.trans hblue)
    exact ⟨r', hred, hlegal.mayProduce .red, rfl⟩
  · rintro ⟨c, hread, hproduce, rfl⟩
    have hread : Channel.ofChars token.toList = .ok c := hread
    simp only [List.map_cons, List.map_nil, hread, hmark]
    use rfl
    exact ⟨Rule.mayMatch_wildcard, Rule.mayProduce_gray hproduce⟩

end Expression

/-! ### Recipes of one ingredient -/

namespace Recipe

theorem answer_program_of_ingredients {recipe : Recipe} {ingredient : Ingredient}
    (h : recipe.ingredients = [ingredient]) :
  session.answer (recipe.program settings) = .ok p ↔ ingredient.Yields settings session p
  := by
  rw [answer_program_eq_ok_iff, h]
  constructor
  · rintro ⟨_, rfl, hsegments⟩
    obtain ⟨q, _, hq, hnil, rfl⟩ := List.forall₂_cons_left_iff.mp hsegments
    obtain rfl := List.forall₂_nil_left_iff.mp hnil
    have hconcat : Program.concat [q] = q := by
      rw [Program.concat, List.flatMap_singleton]
    rwa [hconcat]
  · intro hp
    refine ⟨[p], ?_, List.Forall₂.cons hp List.Forall₂.nil⟩
    rw [Program.concat, List.flatMap_singleton]

/-- The ways to enter an expression agree.  Two rules of four tokens each make a program exactly
if they make a line when put side by side, and a token makes a program for the three colours
exactly if the line that repeats it is an expression; the program then holds just the
expression of the line. -/
theorem program_agrees_with_line (settings : Settings) (session : Session) :
  (∀ filter formula : String, (Text.words filter.toList).length = 4 →
      (Text.words formula.toList).length = 4 → ';' ∉ filter.toList → ';' ∉ formula.toList →
      ∀ p, session.answer (program settings ⟨[], none, [], [], some (filter, formula)⟩) = .ok p ↔
        ∃ e, Expression.parse (filter ++ " " ++ formula) = .ok (some e)
          ∧ p = .ofExpressions "<from/to>" [e])
    ∧ ∀ token : String, token ≠ "" →
      (∀ c ∈ token.toList, Text.isBlank c = false ∧ c ≠ ',' ∧ c ≠ ';') →
      ∀ p, session.answer (program settings ⟨[], some token, [], [], none⟩) = .ok p ↔
        ∃ e, Expression.parse
            ("? ? ? ? " ++ token ++ " " ++ token ++ " " ++ token ++ " ?") = .ok (some e)
          ∧ p = .ofExpressions "preset:brightness" [e]
  := by
  constructor
  · intro filter formula hfilter hformula hcomment hcomment' p
    have hpair : (⟨[], none, [], [], some (filter, formula)⟩ : Recipe).ingredients =
        [.pair filter formula] := rfl
    rw [answer_program_of_ingredients hpair]
    simp only [Expression.parse_rules_eq_ok_some_iff hfilter hformula hcomment hcomment']
    constructor
    · rintro (_ | _ | _ | _ | _ | ⟨hread, hmatch, hread', hproduce⟩)
      exact ⟨_, ⟨hread, hread', hmatch, hproduce⟩, rfl⟩
    · rintro ⟨e, ⟨hread, hread', hmatch, hproduce⟩, rfl⟩
      apply Ingredient.Yields.pair hread hmatch hread' hproduce
  · intro token hne h p
    have hbrightness : (⟨[], some token, [], [], none⟩ : Recipe).ingredients =
        [.brightness token] := rfl
    rw [answer_program_of_ingredients hbrightness]
    constructor
    · rintro (_ | _ | ⟨hread, hproduce⟩)
      exact ⟨_, (Expression.parse_grayLine_eq_ok_some_iff hne h).mpr ⟨_, hread, hproduce, rfl⟩,
        rfl⟩
    · rintro ⟨e, hline, rfl⟩
      obtain ⟨c, hread, hproduce, rfl⟩ := (Expression.parse_grayLine_eq_ok_some_iff hne h).mp hline
      apply Ingredient.Yields.brightness hread hproduce

/-- Two rules with commas in their tokens, the second one a packed literal, and a relative
channel. -/
theorem program_of_packed_pair :
  ((Text.words "<10, ,>=20 ?  40".toList).length = 4
      ∧ (Text.words ", , 0x0102ff04 ,".toList).length = 4
      ∧ ';' ∉ "<10, ,>=20 ?  40".toList ∧ ';' ∉ ", , 0x0102ff04 ,".toList
      ∧ (Session.start .empty [] []).answer (program Settings.default
        ⟨[], none, [], [], some ("<10, ,>=20 ?  40", ", , 0x0102ff04 ,")⟩) =
        .ok (.ofExpressions "<from/to>" [⟨⟨.number ⟨.less, 10, false⟩,
            .number ⟨.greaterEq, 20, false⟩, .wildcard, .literal 40⟩,
          ⟨.literal 1, .literal 2, .literal 255, .literal 4⟩⟩]))
    ∧ "+5%" ≠ "" ∧ (∀ c ∈ "+5%".toList, Text.isBlank c = false ∧ c ≠ ',' ∧ c ≠ ';')
      ∧ (Session.start .empty [] []).answer (program Settings.default ⟨[], some "+5%", [], [], none⟩) =
        .ok (.ofExpressions "preset:brightness" [⟨.wildcard, .gray (.number ⟨.add, 5, true⟩)⟩])
  := by
  have h := program_agrees_with_line Settings.default (Session.start .empty [] [])
  have htoken : ∀ c ∈ "+5%".toList, Text.isBlank c = false ∧ c ≠ ',' ∧ c ≠ ';' := by
    have hchars : "+5%".toList = ['+', '5', '%'] := rfl
    rw [hchars, List.forall_mem_cons, List.forall_mem_cons, List.forall_mem_singleton]
    exact ⟨⟨rfl, by decide, by decide⟩, ⟨rfl, by decide, by decide⟩, rfl, by decide, by decide⟩
  refine ⟨⟨rfl, rfl, by decide, by decide, ?_⟩, by decide, htoken, ?_⟩
  · apply (h.1 _ _ rfl rfl (by decide) (by decide) _).mpr
    exact ⟨_, rfl, rfl⟩
  · apply (h.2 _ (by decide) htoken _).mpr
    exact ⟨_, rfl, rfl⟩

end Recipe

end Recolour
