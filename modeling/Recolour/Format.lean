import Recolour.EncoderOptions
import Recolour.Error
import Recolour.Image
import Recolour.Written

/-!
# Image formats

A format has a name, the file extensions that stand for it, the option keys its encoder reads
and the encoder itself, which writes an image as the bytes of a file.
-/

namespace Recolour

/-- A format images can be written in. -/
structure Format where
  name : String
  /-- File extensions, without the dot. -/
  extensions : List String
  /-- The option keys the encoder reads. -/
  optionKeys : List String
  encode : EncoderOptions → Image → Written Error

namespace Format

/-- The format has the extension, in any letter case. -/
def hasExtension (format : Format) (extension : String) : Bool :=
  format.extensions.any (Text.sameFolded · extension)

end Format

end Recolour
