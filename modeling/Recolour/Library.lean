import Recolour.Error
import Recolour.Format.Choice
import Recolour.Image
import Recolour.Settings
import Recolour.Written

/-!
# Libraries

Image files are read and written, and settings are read, by a library the program is given.
`Library` lists what the program asks of it.  Nothing is supposed of its answers: where it matters
what a library reads or writes, a statement says what it takes for granted.
-/

namespace Recolour

/-- What the program asks of a library. Answers that fail give a reason in words. -/
structure Library where
  /-- The image that a stream holds, in whatever format it is. -/
  readStream : List UInt8 → Except String Image
  /-- The image in the file with a path and a content, in the format that the path tells. -/
  readFile : String → List UInt8 → Except String Image
  /-- The gray value of a pixel. -/
  gray : Pixel → UInt8
  /-- The three samples of a pixel without its alpha. -/
  color : Pixel → UInt8 × UInt8 × UInt8
  writePng : Png.Compression → Image → Written String
  /-- Write a JPEG file of a quality from 1 to 100, from the width, the height and the samples of
  an image, three for each pixel. -/
  writeJpeg : Nat → Nat → Nat → List UInt8 → Written String
  writeGif : Image → Written String
  /-- Write a PNM file of a variant, from the width, the height and the samples of an image, one
  or three for each pixel. -/
  writePnm : Pnm.Variant → Nat → Nat → List UInt8 → Written String
  /-- The settings that a text spells. -/
  readSettings : String → Except String Settings

namespace Library

/-- The gray values of an image. -/
def grays (library : Library) (image : Image) : List UInt8 :=
  image.pixels.map library.gray

/-- The samples of a colour. -/
def samples (color : UInt8 × UInt8 × UInt8) : List UInt8 :=
  [color.1, color.2.1, color.2.2]

/-- The samples of the colours of an image. -/
def colors (library : Library) (image : Image) : List UInt8 :=
  image.pixels.flatMap fun p => samples (library.color p)

end Library

/-- The image that a stream holds. -/
def Image.decode (library : Library) (bytes : List UInt8) : Except Error Image :=
  (library.readStream bytes).mapError .image

/-- The settings that a text spells. -/
def Settings.parse (library : Library) (text : String) : Except Error Settings :=
  (library.readSettings text).mapError fun detail =>
    .parse ("Invalid config: " ++ detail) (some ("Check " ++ fileName ++ " syntax"))

end Recolour
