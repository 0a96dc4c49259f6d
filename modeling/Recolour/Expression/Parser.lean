import Recolour.Rule.Legality
import Recolour.Rule.Parser

/-!
# Reading expression lines

An expression line holds eight tokens with blanks between them: four for the match rule and
four for the produce rule.  What follows the first semicolon is a comment.  A line with any
other number of tokens is no expression, which is no error; a line with eight tokens is an
error unless both of its rules are read and are legal.
-/

namespace Recolour.Expression

/-- The number of tokens of an expression line. -/
def tokenCount : Nat := 8

/-- A line without its comment. -/
def stripComment (line : List Char) : List Char :=
  line.takeWhile (· != ';')

/-- The tokens of a line, its comment left out. -/
def tokens (line : List Char) : List (List Char) :=
  Text.words (stripComment line)

/-- A rule in its place on the line: read errors carry the name of the place. -/
def readRule (place : String) (channels : List (List Char)) : Except Error Rule :=
  (Rule.ofChars ([' '].intercalate channels)).mapError fun m => m.error.within place

/-- The place of the match rule on a line. -/
def filterPlace : String := "source rule"

/-- The place of the produce rule on a line. -/
def formulaPlace : String := "destination rule"

/-- The expression on a line, if the line is one. Both rules are read before either is
checked. -/
def ofLine (line : List Char) : Except Error (Option Expression) :=
  let tokens := tokens line
  if tokens.length = tokenCount then do
    let filter ← readRule filterPlace (tokens.take 4)
    let formula ← readRule formulaPlace (tokens.drop 4)
    let filter ← filter.checkMatch.mapError fun i => i.error.within filterPlace
    let formula ← formula.checkProduce.mapError fun i => i.error.within formulaPlace
    return some ⟨filter, formula⟩
  else .ok none

/-- The expression on a line, if the line is one. -/
def parse (line : String) : Except Error (Option Expression) :=
  ofLine line.toList

end Recolour.Expression
