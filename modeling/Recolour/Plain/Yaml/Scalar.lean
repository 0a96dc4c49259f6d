import Recolour.Text.Digits
import Recolour.Plain.Yaml.Cell

/-!
# Scalars

A scalar is a text, plain or between quotes.  A line end inside it, with the white space
around it, is folded into a space, and of several line ends in a row all but one are kept.
Single quotes have no escapes but a doubled quote; double quotes have the escapes by
backslash, of which the escaped line end joins two lines without a space.
-/

namespace Recolour.Plain.Yaml

/-! ### Folding -/

/-- The white space and line ends read since the last other character. -/
structure Gap where
  /-- The white characters in reverse, if no line has ended. -/
  white : List Char
  /-- The number of line ends. -/
  breaks : Nat
  /-- A line end was escaped, so that it counts for nothing. -/
  joined : Bool

namespace Gap

/-- The gap of no characters. -/
def none : Gap := ⟨[], 0, false⟩

/-- The gap with one more white character, which counts only on the first line. -/
def add (gap : Gap) (c : Char) : Gap :=
  if gap.breaks = 0 && !gap.joined then { gap with white := c :: gap.white } else gap

/-- The gap with one more line end. -/
def newline (gap : Gap) : Gap :=
  { gap with breaks := gap.breaks + 1 }

/-- What a gap contributes to the text, in reverse. -/
def folded (gap : Gap) : List Char :=
  if gap.joined then List.replicate gap.breaks '\n' ++ gap.white
  else if gap.breaks = 0 then gap.white
  else if gap.breaks = 1 then [' ']
  else List.replicate (gap.breaks - 1) '\n'

end Gap

/-! ### Quoted scalars -/

/-- The text up to the single quote that ends it, and the cells after the quote. `done` is
what was read so far, in reverse. -/
def singleQuoted (done : List Char) (gap : Gap) : List Cell → Option (List Char × List Cell)
  | [] => none
  | cell :: rest =>
    if cell.char == '\'' then
      match rest with
      | next :: others =>
        if next.char == '\'' then singleQuoted ('\'' :: gap.folded ++ done) .none others
        else some ((gap.folded ++ done).reverse, next :: others)
      | [] => some ((gap.folded ++ done).reverse, [])
    else if isWhite cell.char then singleQuoted done (gap.add cell.char) rest
    else if cell.char == '\n' then singleQuoted done gap.newline rest
    else singleQuoted (cell.char :: gap.folded ++ done) .none rest

/-- The characters that a backslash and a letter stand for. -/
def escapes : List (Char × Char) := [
  ('0', '\x00'), ('a', '\x07'), ('b', '\x08'), ('t', '\t'), ('\t', '\t'), ('n', '\n'),
  ('v', '\x0b'), ('f', '\x0c'), ('r', '\r'), ('e', '\x1b'), (' ', ' '), ('"', '"'), ('/', '/'),
  ('\\', '\\'), ('N', '\u0085'), ('_', '\u00a0'), ('L', '\u2028'), ('P', '\u2029')]

/-- The number of hexadecimal digits after a backslash and a letter. -/
def escapeLength? (c : Char) : Option Nat :=
  if c == 'x' then some 2 else if c == 'u' then some 4 else if c == 'U' then some 8 else none

/-- The character with a code point in hexadecimal digits. -/
def codePoint? (digits : List Char) : Option Char :=
  let n := Text.numeral 16 digits
  if digits.all (Text.isDigitOf 16) && (n < 0xD800 || (0xE000 ≤ n && n ≤ 0x10FFFF)) then
    some (Char.ofNat n)
  else none

/-- The text up to the double quote that ends it, and the cells after the quote. `done` is
what was read so far, in reverse. -/
def doubleQuoted (done : List Char) (gap : Gap) (cells : List Cell) :
    Option (List Char × List Cell) :=
  match cells with
  | [] => none
  | cell :: rest =>
    if cell.char == '"' then some ((gap.folded ++ done).reverse, rest)
    else if isWhite cell.char then doubleQuoted done (gap.add cell.char) rest
    else if cell.char == '\n' then doubleQuoted done gap.newline rest
    else if cell.char == '\\' then
      match rest with
      | [] => none
      | letter :: others =>
        if letter.char == '\n' then doubleQuoted (gap.folded ++ done) ⟨[], 0, true⟩ others
        else match escapes.lookup letter.char with
          | some c => doubleQuoted (c :: gap.folded ++ done) .none others
          | none =>
            match escapeLength? letter.char with
            | some length =>
              let digits := (others.take length).map Cell.char
              if digits.length < length then none
              else match codePoint? digits with
                | some c => doubleQuoted (c :: gap.folded ++ done) .none (others.drop length)
                | none => none
            | none => none
    else doubleQuoted (cell.char :: gap.folded ++ done) .none rest
termination_by cells.length
decreasing_by
  all_goals simp only [List.length_drop, List.length_cons]
  all_goals omega

/-! ### Plain scalars -/

/-- The characters that do not start a plain scalar wherever they stand. -/
def indicators : List Char :=
  ['-', '?', ':', ',', '[', ']', '\x7b', '\x7d', '#', '&', '*', '!', '|', '>', '\'', '"', '%', '@',
    '\x60']

/-- The characters that separate and enclose the items of a collection in brackets. -/
def flowMarks : List Char := [',', '[', ']', '\x7b', '\x7d']

/-- A plain scalar may start here. A dash does not start one before white space, and outside
brackets the same goes for a question mark and a colon. -/
def startsPlain (flow : Bool) : List Cell → Bool
  | [] => false
  | cell :: rest =>
    !indicators.contains cell.char || ((cell.char == '-'
      || (!flow && (cell.char == '?' || cell.char == ':'))) && !atGap rest)

/-- The part of a plain scalar on one line, in reverse and with the white space around it,
and the cells after it. It ends before a comment and before a colon that ends a key; a colon
against a mark of the brackets around it is refused. -/
def plainRun (flow : Bool) (done : List Char) : List Cell → Option (List Char × List Cell)
  | [] => some (done, [])
  | cell :: rest =>
    if cell.char == '\n' || (cell.char == ':' && atGap rest) || (flow && flowMarks.contains cell.char)
        || (cell.char == '#' && done.head?.all isWhite) then
      some (done, cell :: rest)
    else if flow && cell.char == ':'
        && rest.head?.any (fun next => next.char == '?' || flowMarks.contains next.char) then
      none
    else plainRun flow (cell.char :: done) rest

/-- A plain scalar from the start of a line or of itself, and the cells after it. It goes on
in the next line that is not blank, from column `floor` on. `done` is what was read so far, in
reverse, and `gap` the line ends after it; there are at most `fuel` lines. -/
def plainLines (flow : Bool) (floor : Nat) (done : List Char) (gap : Gap) :
    Nat → List Cell → Option (List Char × List Cell)
  | 0, _ => none
  | fuel + 1, cells => do
    let (run, rest) ← plainRun flow [] cells
    let run := run.dropWhile isWhite
    if run.isEmpty then return (done.reverse, cells)
    let done := run ++ gap.folded ++ done
    let next := rest.dropWhile fun cell => isWhite cell.char || cell.char == '\n'
    match rest, next with
    | last :: _, cell :: _ =>
      if last.char == '\n' && cell.char != '#' && (flow || floor ≤ cell.column) then
        plainLines flow floor done ⟨[], cell.line - last.line, false⟩ fuel next
      else return (done.reverse, rest)
    | _, _ => return (done.reverse, rest)

/-- A plain scalar and the cells after it. -/
def plain (flow : Bool) (floor : Nat) (cells : List Cell) : Option (List Char × List Cell) :=
  if startsPlain flow cells then plainLines flow floor [] .none (cells.length + 1) cells else none

end Recolour.Plain.Yaml
