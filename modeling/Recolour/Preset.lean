import Recolour.Program

/-!
# Presets

A preset is a named list of expressions.  The builtin presets reach the metrics that no token
names.  `Preset.brightness` applies one channel to the three colours of every pixel.
-/

namespace Recolour

/-- A named list of expressions. -/
structure Preset where
  name : String
  description : String
  expressions : List Expression
  deriving DecidableEq

namespace Preset

/-- The source label of the lines of a preset. -/
def sourceOf (name : String) : String := "preset:" ++ name

/-- A preset as a program. -/
def program (preset : Preset) : Program :=
  Program.ofExpressions (sourceOf preset.name) preset.expressions

/-- Every pixel turned into the gray of a metric. -/
def grayOf (metric : Reference) : Expression :=
  ⟨.wildcard, .gray (.named metric)⟩

/-- The gray pixels on one side of 128 turned into one gray. The test is on red, which holds
the metric once a pixel is gray. -/
def threshold (operator : Operator) (value : UInt8) : Expression :=
  ⟨⟨.number ⟨operator, 128, false⟩, .wildcard, .wildcard, .wildcard⟩, .gray (.literal value)⟩

/-- The presets every program may use, in the order they are listed. -/
def builtins : List Preset := [
  ⟨"grayscale", "Gamma-correct luminosity grayscale", [grayOf .luminosity]⟩,
  ⟨"grayscale-average", "Grayscale from the average of R, G and B", [grayOf .average]⟩,
  ⟨"grayscale-lightness", "Grayscale from the midpoint of the smallest and largest channel",
    [grayOf .lightness]⟩,
  ⟨"grayscale-mean", "Same as `? ? ? ? #m #m #m ?`", [grayOf .mean]⟩,
  ⟨"black-white", "Luminosity threshold at 128: black below, white from there up",
    [grayOf .luminosity, threshold .less 0, threshold .greaterEq 255]⟩,
  ⟨"opaque", "Set alpha to 255 everywhere",
    [⟨.wildcard, ⟨.wildcard, .wildcard, .wildcard, .literal 255⟩⟩]⟩]

/-- The builtin preset with a name. -/
def builtin? (name : String) : Option Preset :=
  builtins.find? (·.name == name)

/-- The preset that applies a channel to the three colours, if the channel may produce. -/
def brightness (c : Channel) : Except Illegality Preset := do
  let rule ← (Rule.gray c).checkProduce
  return ⟨"brightness", "Apply " ++ c.text ++ " to R, G and B", [⟨.wildcard, rule⟩]⟩

end Preset

end Recolour
