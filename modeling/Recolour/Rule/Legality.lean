import Recolour.Error
import Recolour.Rule
import Recolour.Text.Quoted

/-!
# Legal rules

Some channels make no sense on one side of an expression.  A match rule has no references,
no arithmetic and no percentages; a produce rule has no comparisons.  The first channel in
plane order that breaks this is the reason an illegal rule is given.
-/

namespace Recolour

/-- The reason for which a rule is not legal, with the plane of the channel at fault. -/
inductive Illegality where
  /-- A reference in a match rule. -/
  | matchReference (channel : Channel) (plane : Plane)
  /-- An arithmetic operator in a match rule. -/
  | matchArithmetic (operator : Operator) (plane : Plane)
  /-- A percentage in a match rule. -/
  | matchPercentage (channel : Channel) (plane : Plane)
  /-- A comparison in a produce rule. -/
  | produceComparison (operator : Operator) (plane : Plane)
  deriving DecidableEq

namespace Illegality

/-- The wording of an illegality. -/
def message : Illegality → String
  | .matchReference channel plane =>
    "named reference " ++ channel.text ++ " is not valid in a match context (channel "
      ++ plane.letter ++ ")"
  | .matchArithmetic operator plane =>
    "operator " ++ Text.quoted operator.symbol ++ " is not valid in a match context (channel "
      ++ plane.letter ++ ")"
  | .matchPercentage channel plane =>
    "percentage " ++ channel.text ++ " is not valid in a match context (channel "
      ++ plane.letter ++ ")"
  | .produceComparison operator plane =>
    "operator " ++ Text.quoted operator.symbol ++ " is not valid in a produce context (channel "
      ++ plane.letter ++ ")"

/-- The hint for mending an illegality. -/
def help : Illegality → Option String
  | .matchReference .. => some "Use a number, a comparison or `?` to match"
  | .matchArithmetic .. => some "Match with <, <=, >, >= or a plain number"
  | .matchPercentage .. => none
  | .produceComparison .. => some "Produce with +, -, a plain number, `?` or a # reference"

/-- An illegality as an error. -/
def error (i : Illegality) : Error :=
  .validation i.message i.help

end Illegality

/-- The reason for which a channel may not match in a plane, if there is one. -/
def Channel.matchFault? (c : Channel) (plane : Plane) : Option Illegality :=
  match c with
  | .wildcard => none
  | .named _ => some (.matchReference c plane)
  | .number n =>
    if n.operator.isArithmetic then some (.matchArithmetic n.operator plane)
    else if n.percentage then some (.matchPercentage c plane)
    else none

/-- The reason for which a channel may not produce in a plane, if there is one. -/
def Channel.produceFault? (c : Channel) (plane : Plane) : Option Illegality :=
  match c with
  | .number n =>
    if n.operator.isComparison then some (.produceComparison n.operator plane) else none
  | _ => none

namespace Rule

/-- The first reason for which a rule may not match. -/
def matchFault? (r : Rule) : Option Illegality :=
  Plane.all.findSome? fun plane => (r.get plane).matchFault? plane

/-- The first reason for which a rule may not produce. -/
def produceFault? (r : Rule) : Option Illegality :=
  Plane.all.findSome? fun plane => (r.get plane).produceFault? plane

/-- Every channel of the rule may match. -/
def IsMatchLegal (r : Rule) : Prop := r.matchFault? = none

/-- Every channel of the rule may produce. -/
def IsProduceLegal (r : Rule) : Prop := r.produceFault? = none

instance (r : Rule) : Decidable r.IsMatchLegal :=
  inferInstanceAs (Decidable (r.matchFault? = none))

instance (r : Rule) : Decidable r.IsProduceLegal :=
  inferInstanceAs (Decidable (r.produceFault? = none))

/-- The rule itself when it may match. -/
def checkMatch (r : Rule) : Except Illegality Rule :=
  match r.matchFault? with
  | none => .ok r
  | some fault => .error fault

/-- The rule itself when it may produce. -/
def checkProduce (r : Rule) : Except Illegality Rule :=
  match r.produceFault? with
  | none => .ok r
  | some fault => .error fault

end Rule

end Recolour
