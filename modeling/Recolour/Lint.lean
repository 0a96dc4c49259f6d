import Recolour.Program
import Recolour.Report

/-!
# Linting

`Program.lint` reports the lines of a program that are not what they seem to be: rejected
lines as errors, and as warnings lines that are skipped for their number of tokens, match
rules that accept no pixel and produce rules that change none.  On one line the remarks come
in this order.
-/

namespace Recolour

namespace Line

/-- A warning about a line. -/
def warning (line : Line) (code message : String) (help : Option String) : Diagnostic :=
  ⟨.warning, code, message, help, line.source, line.number⟩

/-- The error of a rejected line. -/
def rejection (line : Line) : List Diagnostic :=
  match line.error? with
  | some error => [⟨.error, error.code, error.summary, error.help, line.source, line.number⟩]
  | none => []

/-- The warning that a line with the wrong number of tokens is skipped. -/
def tokenWarning (line : Line) : List Diagnostic :=
  match line.outcome with
  | .ignored tokens =>
    if 0 < tokens then
      [line.warning "imgmap::token-count"
        ("line has " ++ toString tokens ++ " tokens and will be skipped")
        (some ("An expression is " ++ toString Expression.tokenCount
          ++ " tokens: 4 to match and 4 to produce"))]
    else []
  | _ => []

end Line

/-- No sample is below 0 or above 255. -/
def Channel.isUnreachable : Channel → Bool
  | .number n => (n.operator == .less && n.value == 0) || (n.operator == .greater && n.value == 255)
  | _ => false

namespace Line

/-- A warning for each channel of the match rule that accepts no sample. -/
def unreachableWarnings (line : Line) : List Diagnostic :=
  match line.expression? with
  | some e =>
    (Plane.all.filter fun plane => (e.filter.get plane).isUnreachable).map fun plane =>
      line.warning "imgmap::unreachable"
        ((e.filter.get plane).text ++ " on channel " ++ plane.letter ++ " never matches") none
  | none => []

/-- The warning that the produce rule is all wildcards. -/
def identityWarning (line : Line) : List Diagnostic :=
  match line.expression? with
  | some e =>
    if e.formula.isWildcard then
      [line.warning "imgmap::identity" "produce rule `? ? ? ?` leaves every pixel unchanged" none]
    else []
  | none => []

end Line

namespace Program

/-- The report of one check over all lines of a program. -/
def check (p : Program) (remarks : Line → List Diagnostic) : Report :=
  ⟨p.lines.flatMap remarks⟩

/-- The report of all checks on a program, ordered by source and line. -/
def lint (p : Program) : Report :=
  (p.check Line.rejection ++ p.check Line.tokenWarning ++ p.check Line.unreachableWarnings
    ++ p.check Line.identityWarning).sort

end Program

end Recolour
