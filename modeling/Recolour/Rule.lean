import Recolour.Channel

/-!
# Rules and expressions

A rule binds a channel to each plane.  An expression pairs a match rule, which selects
pixels, with a produce rule, which recolours them.
-/

namespace Recolour

/-- Four channels, one for each plane. -/
structure Rule where
  red : Channel
  green : Channel
  blue : Channel
  alpha : Channel
  deriving DecidableEq

namespace Rule

/-- The channel of a rule in a plane. -/
def get (r : Rule) : Plane → Channel
  | .red => r.red
  | .green => r.green
  | .blue => r.blue
  | .alpha => r.alpha

/-- The channels in plane order. -/
def channels (r : Rule) : List Channel :=
  [r.red, r.green, r.blue, r.alpha]

/-- The rule with a wildcard in every plane. -/
def wildcard : Rule := ⟨.wildcard, .wildcard, .wildcard, .wildcard⟩

/-- The rule with one channel for the three colours and a wildcard for alpha. -/
def gray (c : Channel) : Rule := ⟨c, c, c, .wildcard⟩

/-- Every channel is a wildcard. -/
def isWildcard (r : Rule) : Bool :=
  r.channels.all (· == .wildcard)

/-- Some channel reads a metric of the source pixel. -/
def needsMetrics (r : Rule) : Bool :=
  r.channels.any Channel.needsMetrics

/-- The written form of a rule: its channels with a space between them. -/
def text (r : Rule) : String :=
  r.red.text ++ " " ++ r.green.text ++ " " ++ r.blue.text ++ " " ++ r.alpha.text

end Rule

/-- A match rule and a produce rule. -/
structure Expression where
  /-- The rule that selects the pixels to recolour. -/
  filter : Rule
  /-- The rule that recolours a selected pixel. -/
  formula : Rule
  deriving DecidableEq

namespace Expression

/-- The written form of an expression: its rules with two spaces between them. -/
def text (e : Expression) : String :=
  e.filter.text ++ "  " ++ e.formula.text

end Expression

end Recolour
