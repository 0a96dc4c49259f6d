import Recolour.Image
import Recolour.Plain.Pnm
import Recolour.Plain.Samples
import Recolour.Rounding
import Recolour.Text.Digits

/-!
# Reading PNM files

`decode` reads the four variants that `encode` writes, with any header layout and a largest
sample up to 255, and the arbitrary variant `P7` with red, green, blue and alpha samples.  A
header number ends at the first blank byte after it; comments run from a hash to the end of
the line, which belongs to the comment.  Bytes after the last sample do not count.
-/

namespace Recolour.Plain.Pnm

/-- The byte separates numbers. -/
def isSpace (b : UInt8) : Bool :=
  (9 ≤ b && b ≤ 13) || b == 32

/-- The characters of bytes below 128. -/
def asciiChars (bytes : List UInt8) : List Char :=
  bytes.map fun b => Char.ofNat b.toNat

/-- The number a list of bytes spells in decimal, with at most one plus sign before it. -/
def number? (bytes : List UInt8) : Option Nat :=
  match asciiChars bytes with
  | '+' :: rest => Text.decimal? rest
  | digits => Text.decimal? digits

/-- The first word of a header and what follows the blank byte after it. `word` holds the
bytes of the word so far in reverse. -/
def headerWord (inComment : Bool) (word : List UInt8) :
    List UInt8 → Option (List UInt8 × List UInt8)
  | [] => if word.isEmpty then none else some (word.reverse, [])
  | b :: rest =>
    if inComment then headerWord (!(b == 10 || b == 13)) word rest
    else if b == 35 then headerWord true word rest
    else if isSpace b then
      if word.isEmpty then headerWord false [] rest else some (word.reverse, rest)
    else if 128 ≤ b then none
    else headerWord false (b :: word) rest

/-- The first number of a header, and the rest. -/
def headerNumber (bytes : List UInt8) : Option (Nat × List UInt8) := do
  let (word, rest) ← headerWord false [] bytes
  let n ← number? word
  if n < UInt32.size then return (n, rest) else none

/-- A sample as a share of 255 when `largest` is the largest sample. -/
def rescale (largest : Nat) (sample : UInt8) : UInt8 :=
  if largest = 255 then sample
  else
    let factor := (255.0 : Float32) / Float32.ofNat largest
    UInt8.ofNat (min 255 (nearestNat (sample.toFloat32 * factor).toFloat))

/-- The first `count` bytes, if there are so many. -/
def takeExactly (count : Nat) (bytes : List UInt8) : Option (List UInt8) :=
  let taken := bytes.take count
  if taken.length = count then some taken else none

/-- The first `count` numerals of a text, none above 255. `samples` holds those read so far
in reverse. -/
def readNumerals (samples : List UInt8) : Nat → List UInt8 → Option (List UInt8)
  | 0, _ => some samples.reverse
  | count + 1, bytes =>
    let bytes := bytes.dropWhile isSpace
    match number? (bytes.takeWhile fun b => !isSpace b) with
    | some n =>
      if n ≤ 255 then
        readNumerals (UInt8.ofNat n :: samples) count (bytes.dropWhile fun b => !isSpace b)
      else none
    | none => none

/-- The samples of a variant, `count` of them. -/
def readSamples (variant : Pnm.Variant) (count : Nat) (bytes : List UInt8) : Option (List UInt8) :=
  if isText variant then readNumerals [] count bytes else takeExactly count bytes

/-- Read a file of one of the four variants, what comes after its first line. -/
def decodeVariant (variant : Pnm.Variant) (bytes : List UInt8) : Option Image := do
  let (width, bytes) ← headerNumber bytes
  let (height, bytes) ← headerNumber bytes
  let (largest, bytes) ← headerNumber bytes
  if largest = 0 ∨ 255 < largest then none
  else
    let count := width * height * if variant.isGray then 1 else 3
    let samples := (← readSamples variant count bytes).map (rescale largest)
    Image.ofSamples? width height
      (if variant.isGray then graySamples samples else colorSamples samples).toArray

/-- What the header of an arbitrary file has told so far. -/
structure ArbitraryHeader where
  width : Option Nat
  height : Option Nat
  depth : Option Nat
  largest : Option Nat
  tuple : Option (List Char)
  deriving DecidableEq

namespace ArbitraryHeader

/-- The number of a header line, if the line is the first of its kind. -/
def once (known : Option Nat) (value : List UInt8) : Option (Option Nat) :=
  match known with
  | some _ => none
  | none => (number? value).bind fun n => if n < UInt32.size then some (some n) else none

/-- The header with one more line, given by its keyword and its value. -/
def addLine (header : ArbitraryHeader) (keyword : List Char) (value : List UInt8) :
    Option ArbitraryHeader :=
  match String.ofList keyword with
  | "WIDTH" => (once header.width value).map fun width => { header with width }
  | "HEIGHT" => (once header.height value).map fun height => { header with height }
  | "DEPTH" => (once header.depth value).map fun depth => { header with depth }
  | "MAXVAL" => (once header.largest value).map fun largest => { header with largest }
  | "TUPLTYPE" =>
    let name := asciiChars value
    some { header with tuple := some (header.tuple.elim name fun known => known ++ ' ' :: name) }
  | _ => none

end ArbitraryHeader

/-- A list of bytes without blanks at its two ends. -/
def trimSpace (bytes : List UInt8) : List UInt8 :=
  ((bytes.dropWhile isSpace).reverse.dropWhile isSpace).reverse

/-- Read header lines up to the one that ends the header, and give what follows it. -/
def readArbitraryHeader (header : ArbitraryHeader) :
    List (List UInt8) → Option (ArbitraryHeader × List (List UInt8))
  | [] => none
  | line :: rest =>
    if line.head? = some 35 then readArbitraryHeader header rest
    else if line.any (128 ≤ ·) || rest.isEmpty && line.isEmpty then none
    else
      let keyword := asciiChars (line.takeWhile fun b => !isSpace b)
      if keyword = "ENDHDR".toList then some (header, rest)
      else
        match header.addLine keyword (trimSpace (line.dropWhile fun b => !isSpace b)) with
        | some header => readArbitraryHeader header rest
        | none => none

/-- Read an arbitrary file, what comes after its first line. -/
def decodeArbitrary (bytes : List UInt8) : Option Image := do
  let (header, rest) ← readArbitraryHeader ⟨none, none, none, none, none⟩ (bytes.splitOn 10)
  let width ← header.width
  let height ← header.height
  let depth ← header.depth
  let largest ← header.largest
  let tuple ← header.tuple
  if depth = 4 ∧ tuple = "RGB_ALPHA".toList ∧ 0 < largest ∧ largest ≤ 255 then
    let samples ← takeExactly (width * height * 4) ([10].intercalate rest)
    Image.ofSamples? width height (samples.map (rescale largest)).toArray
  else none

/-- The image a PNM file holds. -/
def decode (bytes : List UInt8) : Option Image :=
  match bytes with
  | 80 :: 55 :: 10 :: rest => decodeArbitrary rest
  | 80 :: b :: rest =>
    match Pnm.Variant.all.find? fun variant => (digit variant).toNat == b.toNat with
    | some variant => decodeVariant variant rest
    | none => none
  | _ => none

end Recolour.Plain.Pnm
