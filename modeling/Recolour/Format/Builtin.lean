import Recolour.Format.Registry
import Recolour.Library
import Recolour.Text.Quoted

/-!
# Builtin formats

The formats images are written in without further registration.  Each reads its options and has
a library write the file.
-/

namespace Recolour

variable (library : Library)

/-- The format of PNG files, whose option `compression` is `default`, `fast` or `best`. -/
def Png.format : Format where
  name := "png"
  extensions := ["png"]
  optionKeys := ["compression"]
  encode options image :=
    let compression := Compression.ofName (options.getText "compression" "default")
    (library.writePng compression image).mapError .image

/-- The format of JPEG files, whose option `quality` is a number from 1 to 100. -/
def Jpeg.format : Format where
  name := "jpeg"
  extensions := ["jpg", "jpeg"]
  optionKeys := ["quality"]
  encode options image :=
    let quality := max 1 (min 100 (options.getByte "quality" 75).toNat)
    (library.writeJpeg quality image.width image.height (library.colors image)).mapError .image

/-- The format of GIF files. -/
def Gif.format : Format where
  name := "gif"
  extensions := ["gif"]
  optionKeys := []
  encode _ image := (library.writeGif image).mapError .image

namespace Pnm

/-- The samples of an image in a variant. -/
def samples (variant : Variant) (image : Image) : List UInt8 :=
  if variant.isGray then library.grays image else library.colors image

/-- The refusal of a variant name. -/
def badVariant (name : String) : Error :=
  .image ("invalid pnm format " ++ Text.quoted name ++ "; expected p2, p3, p5 or p6")

/-- The variant name that some options ask for, that of binary colour by default. -/
def variantName (options : EncoderOptions) : String :=
  Text.foldCase (options.getText "format" Variant.binaryColor.name)

/-- The format of PNM files, whose option `format` names the variant. -/
def format : Format where
  name := "pnm"
  extensions := ["pnm", "ppm", "pgm"]
  optionKeys := ["format"]
  encode options image :=
    match Variant.ofName? (variantName options) with
    | some variant =>
      (library.writePnm variant image.width image.height (samples library variant image)).mapError
        .image
    | none => .refused (badVariant (variantName options))

end Pnm

/-- The registry of the builtin formats. -/
def Registry.builtin : Registry :=
  .ofFormats [Png.format library, Jpeg.format library, Gif.format library, Pnm.format library]

end Recolour
