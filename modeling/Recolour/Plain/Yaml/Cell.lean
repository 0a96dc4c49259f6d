/-!
# Characters in their places

The layout of a document counts: where a line starts tells what belongs together.  A text is
therefore read as a list of cells, each a character with its line and its column.
-/

namespace Recolour.Plain.Yaml

/-- A character with its place, counted from zero. -/
structure Cell where
  char : Char
  line : Nat
  column : Nat

namespace Cell

/-- The cells of a text that starts at a place. -/
def ofCharsAt (line column : Nat) : List Char → List Cell
  | [] => []
  | c :: rest =>
    ⟨c, line, column⟩ :: if c = '\n' then ofCharsAt (line + 1) 0 rest else ofCharsAt line (column + 1) rest

/-- The cells of a text. -/
def ofChars (cs : List Char) : List Cell :=
  ofCharsAt 0 0 cs

end Cell

/-- The character is a space or a tab. -/
def isWhite (c : Char) : Bool :=
  c == ' ' || c == '\t'

/-- The next character, if there is one, is white or ends the line. -/
def atGap : List Cell → Bool
  | [] => true
  | cell :: _ => isWhite cell.char || cell.char == '\n'

/-- The cells after the white ones at the start. -/
def skipWhite (cells : List Cell) : List Cell :=
  cells.dropWhile fun cell => isWhite cell.char

/-- Nothing follows on the line, a comment apart. -/
def atLineEnd (cells : List Cell) : Bool :=
  match skipWhite cells with
  | [] => true
  | cell :: _ => cell.char == '\n' || cell.char == '#'

/-- What `skip` is passing over. -/
inductive Passage where
  /-- The white space at the start of a line. -/
  | indentation
  /-- White space inside a line. -/
  | gap
  /-- A comment. -/
  | comment
  deriving DecidableEq

/-- The cells from the next character that is neither white nor in a comment. A tab in the
indentation of a line is refused unless tabs are free. -/
def skip (tabs : Bool) (passage : Passage) : List Cell → Option (List Cell)
  | [] => some []
  | cell :: rest =>
    if cell.char == '\n' then skip tabs .indentation rest
    else if passage == .comment then skip tabs .comment rest
    else if cell.char == '#' then skip tabs .comment rest
    else if cell.char == ' ' then skip tabs passage rest
    else if cell.char == '\t' then
      if passage == .indentation && !tabs then none else skip tabs passage rest
    else some (cell :: rest)

end Recolour.Plain.Yaml
