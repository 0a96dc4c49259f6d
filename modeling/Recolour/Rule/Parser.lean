import Recolour.Channel.Parser
import Recolour.Rule
import Recolour.Text.Utf8

/-!
# Reading rules

A rule is written as four channels with commas or blanks between them, or as one packed
literal `0xRRGGBBAA` of four plain numbers, two hexadecimal digits each.
-/

namespace Recolour.Rule

/-- The character stands between channels. -/
def isSeparator (c : Char) : Bool :=
  c == ',' || Text.isBlank c

/-- The number of bytes of a packed literal. -/
def packedSize : Nat := 10

/-- The plain number two hexadecimal digits spell. -/
def packedChannel (high low : Char) : Channel :=
  .literal (UInt8.ofNat (Text.numeral 16 [high, low]))

/-- The rule a packed literal spells. -/
def ofPacked? : List Char → Option Rule
  | ['0', mark, r₁, r₂, g₁, g₂, b₁, b₂, a₁, a₂] =>
    if (mark == 'x' || mark == 'X') && [r₁, r₂, g₁, g₂, b₁, b₂, a₁, a₂].all (Text.isDigitOf 16)
    then some ⟨packedChannel r₁ r₂, packedChannel g₁ g₂, packedChannel b₁ b₂, packedChannel a₁ a₂⟩
    else none
  | _ => none

/-- The rule a text spells. A single field as long as a packed literal is taken for one, and
is all that the misreading shows. -/
def ofChars (text : List Char) : Except Misreading Rule :=
  match Text.fields isSeparator text with
  | [packed] =>
    if Utf8.size packed = packedSize then
      match ofPacked? packed with
      | some rule => .ok rule
      | none => .error (.badRule (String.ofList packed))
    else .error (.badRule (String.ofList (Text.trim text)))
  | [red, green, blue, alpha] => do
    return ⟨← Channel.ofChars red, ← Channel.ofChars green, ← Channel.ofChars blue,
      ← Channel.ofChars alpha⟩
  | _ => .error (.badRule (String.ofList (Text.trim text)))

/-- The rule a text spells. -/
def parse (text : String) : Except Misreading Rule :=
  ofChars text.toList

end Recolour.Rule
