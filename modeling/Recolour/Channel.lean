import Recolour.Pixel

/-!
# Channels

A channel is the atom of a rule: a wildcard, a reference to a value of the source pixel, or
a number with an optional operator and percent sign.  What a channel means depends on the
side of the rule it stands on; `Channel.text` is its written form.
-/

namespace Recolour

/-- The operator before a number. Without one, a number is tested for equality or set. -/
inductive Operator where
  | none
  | add
  | sub
  | less
  | lessEq
  | greater
  | greaterEq
  deriving DecidableEq

namespace Operator

/-- The written form of an operator. -/
def symbol : Operator → String
  | .none => ""
  | .add => "+"
  | .sub => "-"
  | .less => "<"
  | .lessEq => "<="
  | .greater => ">"
  | .greaterEq => ">="

/-- The operator compares, which only a match rule may ask for. -/
def isComparison : Operator → Bool
  | .less | .lessEq | .greater | .greaterEq => true
  | _ => false

/-- The operator computes, which only a produce rule may ask for. -/
def isArithmetic : Operator → Bool
  | .add | .sub => true
  | _ => false

end Operator

/-- A value of the source pixel. -/
inductive Reference where
  | red
  | green
  | blue
  | alpha
  | average
  | lightness
  | luminosity
  | mean
  deriving DecidableEq

namespace Reference

/-- The reference a letter stands for, in either case. -/
def ofLetter? (c : Char) : Option Reference :=
  match c.toLower with
  | 'r' => some .red
  | 'g' => some .green
  | 'b' => some .blue
  | 'a' => some .alpha
  | 'm' => some .mean
  | _ => none

/-- The letter of a reference. Three of the metrics have none, so no token names them. -/
def letter? : Reference → Option Char
  | .red => some 'r'
  | .green => some 'g'
  | .blue => some 'b'
  | .alpha => some 'a'
  | .mean => some 'm'
  | .average | .lightness | .luminosity => none

/-- The reference is to a metric of the pixel and not to a sample. -/
def isDerived : Reference → Bool
  | .average | .lightness | .luminosity | .mean => true
  | _ => false

/-- The name of a reference. -/
def name : Reference → String
  | .red => "r"
  | .green => "g"
  | .blue => "b"
  | .alpha => "a"
  | .average => "average"
  | .lightness => "lightness"
  | .luminosity => "luminosity"
  | .mean => "m"

end Reference

/-- A number of a rule. -/
structure Number where
  operator : Operator
  value : UInt8
  /-- The value is a percentage of the sample it is applied to. -/
  percentage : Bool
  deriving DecidableEq

/-- The atom of a rule. -/
inductive Channel where
  /-- Accepts every sample, keeps the sample. -/
  | wildcard
  /-- The value of the source pixel that is referred to. -/
  | named (reference : Reference)
  | number (number : Number)
  deriving DecidableEq

namespace Channel

/-- The plain number. -/
def literal (value : UInt8) : Channel :=
  .number ⟨.none, value, false⟩

/-- The channel reads a metric of the source pixel. -/
def needsMetrics : Channel → Bool
  | .named reference => reference.isDerived
  | _ => false

/-- The written form of a channel. A reference without a letter is shown by its name in
parentheses, which no token can be. -/
def text : Channel → String
  | .wildcard => "?"
  | .named reference =>
    match reference.letter? with
    | some c => String.ofList ['#', c]
    | none => "(" ++ reference.name ++ ")"
  | .number n =>
    n.operator.symbol ++ toString n.value.toNat ++ if n.percentage then "%" else ""

end Channel

end Recolour
