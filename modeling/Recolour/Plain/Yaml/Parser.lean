import Recolour.Text.Blank
import Recolour.Plain.Yaml
import Recolour.Plain.Yaml.Scalar

/-!
# Reading settings documents

Lists and tables are written as blocks, whose items start in one column, or between brackets.
What belongs to an item of a block stands further right than the item; only a list may start
in the column of the key it belongs to.  Inside brackets lines and columns do not count,
except that a key and its colon share a line.  Comments start with a hash after white space.
Anchors, tags, block texts and keys marked by a question mark are refused.
-/

namespace Recolour.Plain.Yaml

/-- The cell that follows on the line of `start` is the colon of a key: white space comes
after it, or inside brackets anything. Gives the cells after the colon. -/
def keyColon? (flow : Bool) (start : Cell) (cells : List Cell) : Option (List Cell) :=
  match skipWhite cells with
  | cell :: rest =>
    if cell.char == ':' && cell.line == start.line && (flow || atGap rest) then some rest else none
  | [] => none

/-- The cells are the dash of an item of a list. -/
def atItem : List Cell → Bool
  | cell :: rest => cell.char == '-' && atGap rest
  | [] => false

/-- The next cell has the character. -/
def startsWith (c : Char) : List Cell → Bool
  | cell :: _ => cell.char == c
  | [] => false

/-- A text with its quoting, read into a document. -/
def textNode (quoted : Bool) (read : List Char × List Cell) : Yaml × List Cell :=
  (.scalar quoted (String.ofList read.1), read.2)

mutual

/-- A scalar or a collection in brackets, and the cells after it. -/
def leaf (flow : Bool) (floor : Nat) : Nat → List Cell → Option (Yaml × List Cell)
  | fuel + 1, cell :: rest =>
    if cell.char == '"' then (doubleQuoted [] .none rest).map (textNode true)
    else if cell.char == '\'' then (singleQuoted [] .none rest).map (textNode true)
    else if cell.char == '[' then flowItems [] fuel rest
    else if cell.char == '\x7b' then flowPairs [] fuel rest
    else (plain flow floor (cell :: rest)).map (textNode false)
  | _, _ => none

/-- An item of a collection in brackets: a part, or a key and a value. -/
def flowItem : Nat → List Cell → Option ((Yaml × Option Yaml) × List Cell)
  | fuel + 1, cell :: rest => do
    let (key, after) ← leaf true 0 fuel (cell :: rest)
    match keyColon? true cell after with
    | none => return ((key, none), after)
    | some after =>
      let after ← skip true .gap after
      if startsWith ',' after || startsWith ']' after || startsWith '\x7d' after then
        return ((key, some missing), after)
      else
        let (value, after) ← leaf true 0 fuel after
        return ((key, some value), after)
  | _, _ => none

/-- The rest of a list in brackets. `done` holds the items so far in reverse. -/
def flowItems (done : List Yaml) : Nat → List Cell → Option (Yaml × List Cell)
  | 0, _ => none
  | fuel + 1, cells => do
    let cells ← skip true .gap cells
    if startsWith ']' cells then return (.sequence done.reverse, cells.tail)
    else
      let (item, after) ← flowItem fuel cells
      let node := match item with
        | (node, none) => node
        | (key, some value) => .mapping [(key, value)]
      let after ← skip true .gap after
      if startsWith ',' after then flowItems (node :: done) fuel after.tail
      else if startsWith ']' after then return (.sequence (node :: done).reverse, after.tail)
      else none

/-- The rest of a table in brackets. `done` holds the pairs so far in reverse. -/
def flowPairs (done : List (Yaml × Yaml)) : Nat → List Cell → Option (Yaml × List Cell)
  | 0, _ => none
  | fuel + 1, cells => do
    let cells ← skip true .gap cells
    if startsWith '\x7d' cells then return (.mapping done.reverse, cells.tail)
    else
      let ((key, value), after) ← flowItem fuel cells
      let pair := (key, value.getD missing)
      let after ← skip true .gap after
      if startsWith ',' after then flowPairs (pair :: done) fuel after.tail
      else if startsWith '\x7d' after then return (.mapping (pair :: done).reverse, after.tail)
      else none

end

mutual

/-- The part that starts at the next cell, if that stands at column `floor` or further right,
and the cells after it. -/
def block (floor : Nat) : Nat → List Cell → Option (Yaml × List Cell)
  | 0, _ => none
  | fuel + 1, cells =>
    match cells with
    | [] => some (missing, [])
    | cell :: rest =>
      if cell.column < floor then some (missing, cell :: rest)
      else if atItem (cell :: rest) then blockItems cell.column [] fuel (cell :: rest)
      else do
        let (first, after) ← leaf false floor fuel (cell :: rest)
        match keyColon? false cell after with
        | some after => blockPairs cell.column first [] fuel after
        | none => if atLineEnd after then return (first, after) else none
termination_by structural fuel => fuel

/-- The rest of a list in a column, from a dash on. `done` holds the items so far in reverse. -/
def blockItems (column : Nat) (done : List Yaml) : Nat → List Cell → Option (Yaml × List Cell)
  | 0, _ => none
  | fuel + 1, cells => do
    let next ← skip false .indentation cells.tail
    let (item, after) ← block (column + 1) fuel next
    let after ← skip false .gap after
    match after with
    | cell :: _ =>
      if column < cell.column then none
      else if cell.column = column && atItem after then blockItems column (item :: done) fuel after
      else return (.sequence (item :: done).reverse, after)
    | [] => return (.sequence (item :: done).reverse, [])
termination_by structural fuel => fuel

/-- The value of a key in a column, from the colon on: something on the same line, or a part
in the lines below. -/
def blockValue (column : Nat) : Nat → List Cell → Option (Yaml × List Cell)
  | 0, _ => none
  | fuel + 1, cells => do
    if atLineEnd cells then
      let next ← skip false .gap cells
      if next.head?.any (·.column == column) && atItem next then blockItems column [] fuel next
      else block (column + 1) fuel next
    else
      let (value, after) ← leaf false (column + 1) fuel (skipWhite cells)
      if atLineEnd after then return (value, after) else none
termination_by structural fuel => fuel

/-- The rest of a table in a column, from the colon of the key `key` on. `done` holds the
pairs before in reverse. -/
def blockPairs (column : Nat) (key : Yaml) (done : List (Yaml × Yaml)) :
    Nat → List Cell → Option (Yaml × List Cell)
  | 0, _ => none
  | fuel + 1, cells => do
    let (value, after) ← blockValue column fuel cells
    let done := (key, value) :: done
    match ← skip false .gap after with
    | cell :: rest =>
      if column < cell.column then none
      else if cell.column < column then return (.mapping done.reverse, cell :: rest)
      else if atItem (cell :: rest) then none
      else
        let (key, after) ← leaf false (column + 1) fuel (cell :: rest)
        let after ← keyColon? false cell after
        blockPairs column key done fuel after
    | [] => return (.mapping done.reverse, [])
termination_by structural fuel => fuel

end

/-! ### Documents -/

/-- The character may stand in a document. -/
def isPrintable (c : Char) : Bool :=
  let n := c.toNat
  n == 0x9 || n == 0xA || n == 0xD || (0x20 ≤ n && n ≤ 0x7E) || n == 0x85
    || (0xA0 ≤ n && n ≤ 0xFFFD && n != 0xFEFF) || 0x10000 ≤ n

/-- A text whose lines all end in a newline, whatever ended them. -/
def withNewlines : List Char → List Char
  | '\r' :: '\n' :: rest => '\n' :: withNewlines rest
  | c :: rest => (if c == '\r' || c == '\u0085' then '\n' else c) :: withNewlines rest
  | [] => []

/-- The line consists of the mark and white space or a comment after it. -/
def isMark (mark : String) (line : List Char) : Bool :=
  mark.toList.isPrefixOf line && atGap (Cell.ofChars (line.drop mark.length))

/-- The line says nothing. -/
def isIdle (line : List Char) : Bool :=
  atLineEnd (Cell.ofChars line)

/-- The lines of a document between the marks of its start and its end, if nothing but one
document stands there. -/
def body? (lines : List (List Char)) : Option (List (List Char)) :=
  let started := match lines.dropWhile isIdle with
    | line :: rest => if isMark "---" line && isIdle (line.drop 3) then rest else line :: rest
    | [] => []
  let isEnd (line : List Char) := isMark "---" line || isMark "..." line
  match started.dropWhile (!isEnd ·) with
  | [] => some started
  | line :: rest =>
    if isMark "..." line && isIdle (line.drop 3) && rest.all isIdle then
      some (started.takeWhile (!isEnd ·))
    else none

/-- The document a text spells. A text without content spells the missing value. -/
def parse (text : List Char) : Option Yaml := do
  let text := if text.head? == some '\ufeff' then text.tail else text
  if !text.all isPrintable then none
  let lines ← body? ((withNewlines text).splitOn '\n')
  let cells ← skip false .indentation (Cell.ofChars (['\n'].intercalate lines))
  let (document, after) ← block 0 (4 * cells.length + 4) cells
  if (← skip false .gap after).isEmpty then return document else none

end Recolour.Plain.Yaml
