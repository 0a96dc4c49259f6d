/-!
# What encoders leave to choose

A PNG file can be packed with more or less work, and a PNM file holds gray values or colours, as
decimal text or as bytes.
-/

namespace Recolour

/-- The work that goes into packing a PNG file. -/
inductive Png.Compression where
  | default
  | fast
  | best
  deriving DecidableEq

/-- The compression of a name. Any other name stands for the default. -/
def Png.Compression.ofName (name : String) : Png.Compression :=
  match name with
  | "fast" => .fast
  | "best" => .best
  | _ => .default

/-- The four ways of writing the samples of a PNM file. -/
inductive Pnm.Variant where
  | textGray
  | textColor
  | binaryGray
  | binaryColor
  deriving DecidableEq

namespace Pnm.Variant

/-- The name of a variant, which is its first line in a file, with a small letter. -/
def name : Variant → String
  | .textGray => "p2"
  | .textColor => "p3"
  | .binaryGray => "p5"
  | .binaryColor => "p6"

/-- The samples of a pixel are one gray value. -/
def isGray : Variant → Bool
  | .textGray | .binaryGray => true
  | _ => false

/-- All variants. -/
def all : List Variant := [.textGray, .textColor, .binaryGray, .binaryColor]

/-- The variant of a name. -/
def ofName? (name : String) : Option Variant :=
  all.find? (·.name == name)

end Pnm.Variant

end Recolour
