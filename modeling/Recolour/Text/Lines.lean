/-!
# Lines

A line ends with a newline, which may have one return before it; neither belongs to the
line.  A last line without a newline is kept as it stands, with any return it ends in, and is
no line at all when it is empty.  The rule is the same for characters and for bytes, so
`linesBy` takes the newline and the return of its alphabet.
-/

namespace Recolour.Text

variable {α : Type} [BEq α]

/-- A list without one `mark` at its end, if it ends in one. -/
def dropLastMark (mark : α) (line : List α) : List α :=
  if line.getLast?.any (· == mark) then line.dropLast else line

/-- The lines of a list over an alphabet with a newline and a return. -/
def linesBy (newline ret : α) (text : List α) : List (List α) :=
  let pieces := text.splitOn newline
  let last := pieces.getLast?.getD []
  pieces.dropLast.map (dropLastMark ret) ++ if last.isEmpty then [] else [last]

/-- The lines of a text. -/
def lines (text : List Char) : List (List Char) :=
  linesBy '\n' '\r' text

end Recolour.Text
