import Recolour.Format.Choice
import Recolour.Text.Digits
import Recolour.Text.Utf8

/-!
# Writing PNM files

A PNM file is a short text header and the samples of the image, gray or in colour, as decimal
text or as bytes.  The samples of a text variant are one stream of words with a space after each,
cut into lines of at most seventy characters.
-/

namespace Recolour.Plain.Pnm

/-- The digit in the first line of a file. -/
def digit : Pnm.Variant → Char
  | .textGray => '2'
  | .textColor => '3'
  | .binaryGray => '5'
  | .binaryColor => '6'

/-- The samples are written as decimal text. -/
def isText : Pnm.Variant → Bool
  | .textGray | .textColor => true
  | _ => false

/-- The header of a file: the variant, the size and the largest sample. -/
def header (variant : Pnm.Variant) (width height : Nat) : String :=
  String.ofList ['P', digit variant, '\n'] ++ toString width ++ " " ++ toString height ++ " 255\n"

/-- The longest line of a text variant. -/
def lineLimit : Nat := 70

/-- A stream of words that has come to some word: the length of the last line, and the
characters so far in reverse. -/
structure Stream where
  used : Nat
  reversed : List Char

/-- A stream one chunk longer. A chunk that does not fit on a line that holds something
starts a new line. -/
def Stream.add (stream : Stream) (chunk : List Char) : Stream :=
  if 0 < stream.used && lineLimit < stream.used + chunk.length then
    ⟨chunk.length, chunk.reverse ++ '\n' :: stream.reversed⟩
  else ⟨stream.used + chunk.length, chunk.reverse ++ stream.reversed⟩

/-- The chunks of a sample in a text variant: its numeral and a space. -/
def sampleChunks (sample : UInt8) : List (List Char) :=
  [Nat.toDigits 10 sample.toNat, [' ']]

/-- The samples of a text variant. -/
def textBody (samples : List UInt8) : List Char :=
  ((samples.flatMap sampleChunks).foldl Stream.add ⟨0, []⟩).reversed.reverse

/-- The bytes of a file of a variant, from the size and the samples of the image. -/
def encode (variant : Pnm.Variant) (width height : Nat) (samples : List UInt8) : List UInt8 :=
  Utf8.encode (header variant width height).toList
    ++ if isText variant then Utf8.encode (textBody samples) else samples

end Recolour.Plain.Pnm
