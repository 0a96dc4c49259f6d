import Recolour.Proofs.Reading.Outcome
import Recolour.Proofs.Text.Newlines

/-!
# Programs line by line

The lines of the program that a text spells are the lines of the text, each with its number, with
its characters and with what is read from them.  So it does not matter whether the lines of a text
end with returns, and a comment at the end of a line changes nothing but the text of that line.
-/

namespace Recolour

/-! ### Comments -/

namespace Expression

theorem stripComment_append_comment (line comment : List Char) :
  stripComment (line ++ ';' :: comment) = stripComment line
  := by
  rw [stripComment, stripComment, List.takeWhile_append]
  split
  case isTrue h =>
    have hline : line.takeWhile (· != ';') = line := (List.takeWhile_prefix _).eq_of_length h
    rw [hline, List.takeWhile_cons_of_neg (by simp), List.append_nil]
  case isFalse => rfl

theorem tokens_append_comment (line comment : List Char) :
  tokens (line ++ ';' :: comment) = tokens line
  := by
  rw [tokens, stripComment_append_comment, tokens]

end Expression

namespace Line

variable {source : String} {number : Nat}

/-- The line with more text at its end. -/
def withText (line : Line) (more : String) : Line :=
  { line with text := line.text ++ more }

/-- A comment at the end of a line changes nothing but the text of the line. -/
theorem ofChars_append_comment (text comment : List Char) :
  ofChars source number (text ++ ';' :: comment) =
    (ofChars source number text).withText (String.ofList (';' :: comment))
  := by
  have htokens := Expression.tokens_append_comment text comment
  rw [ofChars, htokens, Expression.ofLine_congr htokens, withText, ofChars, String.ofList_append]

theorem ofChars_comment (comment : List Char) :
  ofChars source number (';' :: comment) =
    ⟨source, number, String.ofList (';' :: comment), .ignored 0⟩
  := rfl

end Line

/-! ### Programs -/

namespace Program

variable {source text : String} {texts : List (List Char)}

theorem lines_ofTexts_concat (source : String) (texts : List (List Char)) (more : List Char) :
  (ofTexts source (texts ++ [more])).lines =
    (ofTexts source texts).lines ++ [Line.ofChars source (texts.length + 1) more]
  := by
  rw [ofTexts, ofTexts, List.zipIdx_append, List.map_append, Nat.add_comm]
  rfl

theorem lines_ofTexts_set (source : String) (texts : List (List Char)) (i : Nat)
    (more : List Char) :
  (ofTexts source (texts.set i more)).lines =
    (ofTexts source texts).lines.set i (Line.ofChars source (i + 1) more)
  := by
  apply List.ext_getElem?
  intro j
  rw [getElem?_lines_ofTexts, List.getElem?_set, List.getElem?_set, length_lines_ofTexts,
    getElem?_lines_ofTexts]
  split
  case isTrue h =>
    subst h
    split
    · rfl
    · rfl
  case isFalse => rfl

theorem map_text_lines_ofTexts (source : String) (texts : List (List Char)) :
  (ofTexts source texts).lines.map Line.text = texts.map String.ofList
  := by
  apply List.ext_getElem?
  intro i
  rw [List.getElem?_map, getElem?_lines_ofTexts, Option.map_map, List.getElem?_map]
  rfl

/-- The lines of a program are those of its text, each with its place, its characters and what is
read from it. -/
theorem getElem?_lines_parse_eq_some_iff (hreturn : '\r' ∉ text.toList) {index : Nat}
    {line : Line} :
  (parse source text).lines[index]? = some line ↔
    ∃ chars, Text.IsLine text.toList index chars ∧ line = Line.ofChars source (index + 1) chars
  := by
  rw [getElem?_lines_parse, Option.map_eq_some_iff]
  simp only [Text.isLine_iff hreturn, eq_comm (a := line)]

theorem intercalate_lines_parse (source : String) (hreturn : '\r' ∉ text.toList) :
  "\n".intercalate ((parse source text).lines.map Line.text)
    ++ (if text.toList.getLast? = some '\n' then "\n" else "") = text
  := by
  apply String.toList_inj.mp
  have htexts : ((Text.lines text.toList).map String.ofList).map String.toList =
      Text.lines text.toList := by
    rw [List.map_map]
    refine (List.map_congr_left fun chars _ => ?_).trans (List.map_id _)
    apply String.toList_ofList
  rw [parse, map_text_lines_ofTexts, String.toList_append, String.toList_intercalate, htexts,
    apply_ite String.toList]
  apply Text.intercalate_lines hreturn

/-- A comment at the end of a line of a text stands in the text of that line and changes nothing
else.  Behind a newline at the end of the text it is a line of its own, without tokens. -/
theorem lines_parse_comment (source : String) {front back comment : String}
    (hback : back = "" ∨ back.toList.head? = some '\n')
    (hreturn : '\r' ∉ (front ++ back).toList) (hnewline : '\n' ∉ comment.toList)
    (hreturn' : '\r' ∉ comment.toList) :
  if back = "" ∧ (front = "" ∨ front.toList.getLast? = some '\n') then
    (parse source (front ++ ";" ++ comment ++ back)).lines =
      (parse source (front ++ back)).lines
        ++ [⟨source, (parse source (front ++ back)).lines.length + 1, ";" ++ comment, .ignored 0⟩]
  else
    ∃ line, (parse source (front ++ back)).lines[front.toList.count '\n']? = some line
      ∧ (parse source (front ++ ";" ++ comment ++ back)).lines =
        (parse source (front ++ back)).lines.set (front.toList.count '\n')
          (line.withText (";" ++ comment))
  := by
  have htext : (front ++ ";" ++ comment ++ back).toList =
      front.toList ++ ';' :: comment.toList ++ back.toList := by
    simp
  have hcomment : String.ofList (';' :: comment.toList) = ";" ++ comment := by
    apply String.toList_inj.mp
    simp
  have hends : back.toList = [] ∨ back.toList.head? = some '\n' := by
    simpa using hback
  have hreturns : '\r' ∉ front.toList ++ ';' :: comment.toList ++ back.toList := by
    simpa [hreturn'] using hreturn
  have hnewlines : '\n' ∉ ';' :: comment.toList := by
    simpa using hnewline
  have hinsert := Text.lines_insert hends hreturns hnewlines (List.cons_ne_nil _ _)
  simp only [String.toList_eq_nil_iff] at hinsert
  by_cases hend : back = "" ∧ (front = "" ∨ front.toList.getLast? = some '\n')
  · rw [if_pos hend] at hinsert ⊢
    rw [parse, htext, hinsert, lines_ofTexts_concat, Line.ofChars_comment, hcomment, parse,
      length_lines_ofTexts, String.toList_append]
  · rw [if_neg hend] at hinsert ⊢
    obtain ⟨chars, hget, hset⟩ := hinsert
    use Line.ofChars source (front.toList.count '\n' + 1) chars
    constructor
    · rw [getElem?_lines_parse, String.toList_append, hget, Option.map_some]
    · rw [parse, htext, hset, lines_ofTexts_set, Line.ofChars_append_comment, hcomment, parse,
        String.toList_append]

/-- A text without returns spells the same program if its lines end with returns.  Its lines are
those between the newlines, each with its place, and together with the newlines they are the text.
A comment at the end of one of them makes no difference but to the text of that line, or is a line
of its own if nothing stood there behind the last newline. -/
theorem parse_line_by_line (source : String) {text : String} (hreturn : '\r' ∉ text.toList) :
  parse source (String.ofList (Text.withReturns text.toList)) = parse source text
    ∧ (∀ index line, (parse source text).lines[index]? = some line ↔ ∃ chars,
      Text.IsLine text.toList index chars ∧ line = Line.ofChars source (index + 1) chars)
    ∧ "\n".intercalate ((parse source text).lines.map Line.text)
      ++ (if text.toList.getLast? = some '\n' then "\n" else "") = text
    ∧ ∀ front back comment : String, text = front ++ back →
      (back = "" ∨ back.toList.head? = some '\n') →
      '\n' ∉ comment.toList → '\r' ∉ comment.toList →
      if back = "" ∧ (front = "" ∨ front.toList.getLast? = some '\n') then
        (parse source (front ++ ";" ++ comment ++ back)).lines = (parse source text).lines
          ++ [⟨source, (parse source text).lines.length + 1, ";" ++ comment, .ignored 0⟩]
      else
        ∃ line, (parse source text).lines[front.toList.count '\n']? = some line
          ∧ (parse source (front ++ ";" ++ comment ++ back)).lines =
            (parse source text).lines.set (front.toList.count '\n')
              { line with text := line.text ++ (";" ++ comment) }
  := by
  refine ⟨?_, ?_, intercalate_lines_parse source hreturn, ?_⟩
  · rw [parse, String.toList_ofList, Text.lines_withReturns hreturn, parse]
  · intro index line
    apply getElem?_lines_parse_eq_some_iff hreturn
  · rintro front back comment rfl hback hnewline hreturn'
    apply lines_parse_comment source hback hreturn hnewline hreturn'

/-- A text of a skipped and a rejected line, with a comment at the end of the first and behind the
last. -/
theorem parse_two_lines :
  parse "m" "1 2\r\n+1 ? ? ?  9 9 9 9\r\n" = parse "m" "1 2\n+1 ? ? ?  9 9 9 9\n"
    ∧ (∃ line, (parse "m" "1 2\n+1 ? ? ?  9 9 9 9\n").lines[0]? = some line
      ∧ (parse "m" "1 2; two\n+1 ? ? ?  9 9 9 9\n").lines =
        (parse "m" "1 2\n+1 ? ? ?  9 9 9 9\n").lines.set 0
          { line with text := line.text ++ "; two" })
    ∧ (parse "m" "1 2\n+1 ? ? ?  9 9 9 9\n; end").lines =
      (parse "m" "1 2\n+1 ? ? ?  9 9 9 9\n").lines ++ [⟨"m", 3, "; end", .ignored 0⟩]
  := by
  have hreturn : '\r' ∉ "1 2\n+1 ? ? ?  9 9 9 9\n".toList := by decide +kernel
  obtain ⟨hreturns, -, -, hcomment⟩ := parse_line_by_line "m" hreturn
  use hreturns
  constructor
  · apply hcomment "1 2" "\n+1 ? ? ?  9 9 9 9\n" " two" rfl (Or.inr rfl) (by decide) (by decide)
  · apply hcomment "1 2\n+1 ? ? ?  9 9 9 9\n" "" " end" rfl (Or.inl rfl) (by decide) (by decide)

end Program

end Recolour
