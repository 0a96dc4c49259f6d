import Recolour.Program
import Recolour.Proofs.Text.Fields
import Recolour.Proofs.Text.Lines

/-!
# What a line turns out to be

A line turns out to be what is read from it by itself, whatever its source and its number are.
A return at its end makes no difference, since it is a blank or part of the comment.  The lines of
a program are read from the lines of its text, in order.
-/

namespace Recolour

/-! ### Returns -/

namespace Expression

theorem tokens_append_return (line : List Char) :
  tokens (line ++ ['\r']) = tokens line
  := by
  rw [tokens, tokens, stripComment, stripComment, List.takeWhile_append]
  split
  case isTrue h =>
    have hline : line.takeWhile (· != ';') = line :=
      (List.takeWhile_prefix _).eq_of_length h
    rw [hline]
    apply (Text.fields_append_cons rfl line []).trans
    apply List.append_nil
  case isFalse => rfl

theorem tokens_dropLastMark (line : List Char) :
  tokens (Text.dropLastMark '\r' line) = tokens line
  := by
  obtain h | h := Text.dropLastMark_eq_or '\r' line
  · rw [h]
  · rw [h, Text.dropLastMark_concat, tokens_append_return]

/-- What is read from a line is read from its tokens. -/
theorem ofLine_congr {line other : List Char} (h : tokens line = tokens other) :
  ofLine line = ofLine other
  := by
  rw [ofLine, ofLine, h]

end Expression

/-! ### Outcomes -/

/-- What a line turns out to be by itself. -/
inductive Outcome.IsOf (line : String) : Outcome → Prop
  | expression {e : Expression} (h : Expression.parse line = .ok (some e)) :
      IsOf line (.expression e)
  | ignored (h : Expression.parse line = .ok none) :
      IsOf line (.ignored (Expression.tokens line.toList).length)
  | rejected {error : Error} (h : Expression.parse line = .error error) :
      IsOf line (.rejected error)

/-- A line is what a text with the same tokens turns out to be. -/
theorem Line.isOf_ofChars {source : String} {number : Nat} {chars : List Char} {line : String}
    (h : Expression.tokens chars = Expression.tokens line.toList) :
  Outcome.IsOf line (ofChars source number chars).outcome
  := by
  have hread : Expression.ofLine chars = Expression.parse line := Expression.ofLine_congr h
  rw [ofChars, hread, h]
  cases hparse : Expression.parse line with
  | error error => apply Outcome.IsOf.rejected hparse
  | ok answer =>
    cases answer with
    | none => apply Outcome.IsOf.ignored hparse
    | some e => apply Outcome.IsOf.expression hparse

/-! ### Lines of a program -/

namespace Program

theorem length_lines_ofTexts (source : String) (texts : List (List Char)) :
  (ofTexts source texts).lines.length = texts.length
  := by
  rw [ofTexts, List.length_map, List.length_zipIdx]

theorem getElem?_lines_ofTexts (source : String) (texts : List (List Char)) (i : Nat) :
  (ofTexts source texts).lines[i]? = texts[i]?.map fun chars => Line.ofChars source (i + 1) chars
  := by
  rw [ofTexts, List.getElem?_map, List.getElem?_zipIdx, Option.map_map, Nat.add_comm]
  rfl

theorem length_lines_parse (source text : String) :
  (parse source text).lines.length = (Text.lines text.toList).length
  := length_lines_ofTexts source _

theorem getElem?_lines_parse (source text : String) (i : Nat) :
  (parse source text).lines[i]? =
    (Text.lines text.toList)[i]?.map fun chars => Line.ofChars source (i + 1) chars
  := getElem?_lines_ofTexts source _ i

theorem source_of_mem_parse {source text : String} {line : Line}
    (h : line ∈ (parse source text).lines) :
  line.source = source
  := by
  obtain ⟨⟨chars, number⟩, -, rfl⟩ := List.mem_map.mp h
  rfl

end Program

end Recolour
