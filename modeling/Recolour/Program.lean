import Recolour.Expression.Parser
import Recolour.Text.Lines

/-!
# Programs

A program is a list of lines, each with the source it comes from, its number there and what
it turned out to be: an expression, something to skip, or an expression that was rejected.
No line is ever left out, so a line can be reported by its place.
-/

namespace Recolour

/-- What a line of a program turned out to be. -/
inductive Outcome where
  /-- An expression with legal rules. -/
  | expression (e : Expression)
  /-- No expression: the line has another number of tokens, none if it is blank. -/
  | ignored (tokens : Nat)
  /-- An expression line that is not read or not legal. -/
  | rejected (error : Error)
  deriving DecidableEq

/-- A line of a program. -/
structure Line where
  /-- The name of the file, argument or preset the line comes from. -/
  source : String
  /-- The place of the line in its source, from 1. -/
  number : Nat
  text : String
  outcome : Outcome
  deriving DecidableEq

namespace Line

/-- The line that a text is. -/
def ofChars (source : String) (number : Nat) (text : List Char) : Line where
  source
  number
  text := String.ofList text
  outcome :=
    match Expression.ofLine text with
    | .ok (some e) => .expression e
    | .ok none => .ignored (Expression.tokens text).length
    | .error error => .rejected error

/-- The expression on a line, if it is one. -/
def expression? (line : Line) : Option Expression :=
  match line.outcome with
  | .expression e => some e
  | _ => none

/-- The error of a rejected line. -/
def error? (line : Line) : Option Error :=
  match line.outcome with
  | .rejected error => some error
  | _ => none

/-- The line has tokens, but is no expression. -/
def isSkipped (line : Line) : Bool :=
  match line.outcome with
  | .ignored tokens => 0 < tokens
  | _ => false

/-- The place of a line: its source and its number. -/
def location (line : Line) : String :=
  line.source ++ ":" ++ toString line.number

/-- A line with its place before it. -/
def display (line : Line) : String :=
  line.location ++ ": " ++ String.ofList (Text.trim line.text.toList)

end Line

/-- A list of lines, run from first to last. -/
structure Program where
  lines : List Line
  deriving DecidableEq

namespace Program

/-- The program without lines. -/
def empty : Program := ⟨[]⟩

/-- The lines of one program, then those of another. -/
def append (p q : Program) : Program := ⟨p.lines ++ q.lines⟩

instance : Append Program := ⟨append⟩

/-- The program whose lines are the given texts, numbered from 1. -/
def ofTexts (source : String) (texts : List (List Char)) : Program :=
  ⟨(texts.zipIdx 1).map fun (text, number) => Line.ofChars source number text⟩

/-- The program a text spells, one line of the program for each line of the text. -/
def parse (source text : String) : Program :=
  ofTexts source (Text.lines text.toList)

/-- The refusal of bytes that are not text. -/
def invalidText : String := "stream did not contain valid UTF-8"

/-- The program a list of bytes spells. The bytes are cut into lines first, and each line is
decoded by itself. -/
def ofBytes (source : String) (bytes : List UInt8) : Except Error Program :=
  match (Text.linesBy 10 13 bytes).mapM Utf8.decode with
  | some texts => .ok (ofTexts source texts)
  | none => .error (.stream invalidText)

/-- The program with the given expressions, each on a line of its own. -/
def ofExpressions (source : String) (expressions : List Expression) : Program :=
  ⟨(expressions.zipIdx 1).map fun (e, number) => ⟨source, number, e.text, .expression e⟩⟩

/-- The expressions of a program, in order. -/
def expressions (p : Program) : List Expression :=
  p.lines.filterMap Line.expression?

/-- The rejected lines of a program, in order. -/
def rejected (p : Program) : List Line :=
  p.lines.filter fun line => line.error?.isSome

end Program

end Recolour
