import Recolour.Error
import Recolour.Text.Quoted

/-!
# Misreadings

The ways in which the text of a channel or of a rule fails to be read.  Each holds the piece
of text to show.
-/

namespace Recolour

/-- The reason for which the text of a channel or of a rule is not read. -/
inductive Misreading where
  /-- Nothing follows the operator and the base mark of `token`. -/
  | emptyChannel (token : String)
  /-- `text` is a hash and a letter that stands for no reference. -/
  | unknownReference (text : String)
  /-- `token` is of no known form. -/
  | badChannel (token : String)
  /-- The number in `token` is above 255. -/
  | outOfRange (token : String)
  /-- `text` is neither four channels nor a packed literal. -/
  | badRule (text : String)
  deriving DecidableEq

namespace Misreading

/-- The wording of a misreading. -/
def message : Misreading → String
  | .emptyChannel token => "empty channel value " ++ Text.quoted token
  | .unknownReference text => "invalid named reference " ++ Text.quoted text
  | .badChannel token => "invalid channel value " ++ Text.quoted token
  | .outOfRange token => "channel value " ++ Text.quoted token ++ " out of range"
  | .badRule text => "invalid rule value " ++ Text.quoted text

/-- The hint for mending a misreading. -/
def help : Misreading → Option String
  | .emptyChannel _ => some "Expected a number, `?` or a `#` reference after the prefix"
  | .unknownReference _ => some "Named references are #r, #g, #b, #a and #m"
  | .badChannel _ => none
  | .outOfRange _ => some "Channel values must be between 0 and 255"
  | .badRule _ => some "A rule is four channels (R G B A) or a packed 0xRRGGBBAA literal"

/-- A misreading as an error. -/
def error (m : Misreading) : Error :=
  .parse m.message m.help

end Misreading

end Recolour
