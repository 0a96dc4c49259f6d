import Std.Data.ExtTreeMap
import Recolour.Text.Blank
import Recolour.Text.Case
import Recolour.Text.Digits

/-!
# Encoder options

Options for encoders are values under keys, written `key:value` with semicolons between
them.  Keys are kept with small letters, so a look-up does not mind the case, and two sets of
options are equal when every key has the same value in both.
-/

namespace Recolour

/-- Values under keys whose letter case does not count. -/
structure EncoderOptions where
  values : Std.ExtTreeMap String String
  deriving DecidableEq

namespace EncoderOptions

/-- No options. -/
def empty : EncoderOptions := ⟨∅⟩

/-- The options with one value written. -/
def set (options : EncoderOptions) (key value : String) : EncoderOptions :=
  ⟨options.values.insert (Text.foldCase key) value⟩

/-- The value of a key. -/
def get? (options : EncoderOptions) (key : String) : Option String :=
  options.values[Text.foldCase key]?

/-- The value of a key, or `default` if there is none. -/
def getText (options : EncoderOptions) (key default : String) : String :=
  (options.get? key).getD default

/-- The value of a key as a number up to 255, or `default` if it is none. -/
def getByte (options : EncoderOptions) (key : String) (default : UInt8) : UInt8 :=
  ((options.get? key).bind fun value => Text.byte? value.toList).getD default

/-- No key has a value. -/
def isEmpty (options : EncoderOptions) : Bool := options.values.isEmpty

/-- The options with all values of `others` written over them. -/
def merge (options others : EncoderOptions) : EncoderOptions :=
  ⟨options.values.insertMany others.values.toList⟩

/-- The key and the value of a piece: exactly one colon, and something on both sides of it. -/
def pair? (piece : List Char) : Option (String × String) :=
  match piece.splitOn ':' with
  | [key, value] =>
    let key := Text.trim key
    let value := Text.trim value
    if key.isEmpty || value.isEmpty then none else some (String.ofList key, String.ofList value)
  | _ => none

/-- The keys and values a text spells, in order. Pieces that are no pair are left out. -/
def pairs (text : List Char) : List (String × String) :=
  (text.splitOn ';').filterMap pair?

/-- The options a text spells. Of several values for one key the last one counts. -/
def parse (text : String) : EncoderOptions :=
  (pairs text.toList).foldl (fun options (key, value) => options.set key value) empty

end EncoderOptions

end Recolour
