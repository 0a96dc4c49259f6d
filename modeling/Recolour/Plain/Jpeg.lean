import Recolour.Bytes
import Recolour.Image
import Recolour.Plain.Samples
import Recolour.Written

/-!
# JPEG files

A JPEG file describes an image by blocks of eight by eight samples, in luminance and two
chrominances.  Each block is turned into frequencies, the frequencies are divided by the
numbers of a quantization table, which loses detail, and what is left is written with few
bits for small numbers.  The quality, from 1 to 100, scales the quantization tables.
`segments` reads the header of a file back.
-/

namespace Recolour.Plain.Jpeg

/-! ### Quantization tables -/

/-- The luminance table of quality 50, row by row. -/
def luminanceTable : List Nat := [
  16, 11, 10, 16, 24, 40, 51, 61,
  12, 12, 14, 19, 26, 58, 60, 55,
  14, 13, 16, 24, 40, 57, 69, 56,
  14, 17, 22, 29, 51, 87, 80, 62,
  18, 22, 37, 56, 68, 109, 103, 77,
  24, 35, 55, 64, 81, 104, 113, 92,
  49, 64, 78, 87, 103, 121, 120, 101,
  72, 92, 95, 98, 112, 100, 103, 99]

/-- The chrominance table of quality 50, row by row. -/
def chrominanceTable : List Nat := [
  17, 18, 24, 47, 99, 99, 99, 99,
  18, 21, 26, 66, 99, 99, 99, 99,
  24, 26, 56, 99, 99, 99, 99, 99,
  47, 66, 99, 99, 99, 99, 99, 99,
  99, 99, 99, 99, 99, 99, 99, 99,
  99, 99, 99, 99, 99, 99, 99, 99,
  99, 99, 99, 99, 99, 99, 99, 99,
  99, 99, 99, 99, 99, 99, 99, 99]

/-- The places of a block in the order they are written, from low to high frequencies. -/
def zigzag : List Nat := [
  0, 1, 8, 16, 9, 2, 3, 10, 17, 24, 32, 25, 18, 11, 4, 5,
  12, 19, 26, 33, 40, 48, 41, 34, 27, 20, 13, 6, 7, 14, 21, 28,
  35, 42, 49, 56, 57, 50, 43, 36, 29, 22, 15, 23, 30, 37, 44, 51,
  58, 59, 52, 45, 38, 31, 39, 46, 53, 60, 61, 54, 47, 55, 62, 63]

/-- The percentage by which a quality scales the tables. -/
def scale (quality : Nat) : Nat :=
  if quality < 50 then 5000 / quality else 200 - 2 * quality

/-- A table scaled for a quality, every number between 1 and 255. -/
def scaleTable (quality : Nat) (table : List Nat) : List Nat :=
  table.map fun n => max 1 (min 255 ((n * scale quality + 50) / 100))

/-- A list of 64 elements in the order they are written. -/
def inZigzag {α : Type} (default : α) (block : List α) : List α :=
  let block := block.toArray
  zigzag.map fun place => block.getD place default

/-! ### Frequencies -/

/-- The samples of a component of a pixel, from -128 to 127: luminance and the two
chrominances. -/
def components (p : Pixel) : List Float :=
  let r := p.red.toFloat
  let g := p.green.toFloat
  let b := p.blue.toFloat
  [0.299 * r + 0.587 * g + 0.114 * b - 128.0,
    0.5 * b - 0.168736 * r - 0.331264 * g,
    0.5 * r - 0.418688 * g - 0.081312 * b]

/-- The weight of sample `x` of eight in frequency `u`. -/
def cosine (u x : Nat) : Float :=
  let norm := if u = 0 then Float.sqrt 0.125 else 0.5
  norm * Float.cos ((2.0 * Float.ofNat x + 1.0) * Float.ofNat u * 3.141592653589793 / 16.0)

/-- The weights of all samples in all frequencies, frequency by frequency. -/
def cosines : Array Float :=
  ((List.range 64).map fun i => cosine (i / 8) (i % 8)).toArray

/-- The frequencies of eight rows of eight numbers along the rows, written as columns. Taken
twice this gives the frequencies of a block. -/
def transformRows (block : Array Float) : Array Float :=
  ((List.range 64).map fun i =>
    let u := i / 8
    let y := i % 8
    (List.range 8).foldl (fun sum x =>
      sum + cosines.getD (8 * u + x) 0.0 * block.getD (8 * y + x) 0.0) 0.0).toArray

/-- The whole number nearest to a float. -/
def nearestInt (x : Float) : Int :=
  if x < 0.0 then -((0.5 - x).toUInt64.toNat : Int) else ((x + 0.5).toUInt64.toNat : Int)

/-- The quantized frequencies of a block in the order they are written. -/
def quantize (table : List Nat) (block : Array Float) : List Int :=
  let frequencies := (transformRows (transformRows block)).toList
  inZigzag 0 ((frequencies.zip table).map fun (f, n) => nearestInt (f / Float.ofNat n))

/-! ### Bits -/

/-- A bit string: a number and how many bits of it are written. -/
abbrev Bits := Nat × Nat

/-- The number of bits a number takes without its sign. -/
def magnitude (n : Int) : Nat :=
  if n.natAbs = 0 then 0 else Nat.log2 n.natAbs + 1

/-- The bits that tell a number from the others of its magnitude. -/
def residue (n : Int) : Bits :=
  let size := magnitude n
  (if n < 0 then 1 <<< size - 1 - n.natAbs else n.natAbs, size)

/-- The symbols before steady frequencies: the magnitudes of their differences. -/
def steadySymbols : List Nat := List.range 12

/-- The symbols before other frequencies: the end of the block, sixteen zeros, and every
number of zeros below sixteen with the magnitude of the number after them. -/
def waveSymbols : List Nat :=
  0 :: 0xF0 :: (List.range 16).flatMap fun run => (List.range 10).map fun size => 16 * run + size + 1

/-- The bits of the frequencies after the first, of which the last `run` before them were
zero. -/
def waveBits (run : Nat) : List Int → List Bits
  | [] => if 0 < run then [(waveSymbols.idxOf 0, 8)] else []
  | n :: rest =>
    if n = 0 then waveBits (run + 1) rest
    else
      List.replicate (run / 16) (waveSymbols.idxOf 0xF0, 8)
        ++ [(waveSymbols.idxOf (16 * (run % 16) + magnitude n), 8), residue n] ++ waveBits 0 rest

/-- The bits of a block whose component had the steady frequency `previous` before. -/
def blockBits (previous : Int) (frequencies : List Int) : List Bits :=
  let steady := frequencies.headD 0 - previous
  [(magnitude steady, 4), residue steady] ++ waveBits 0 frequencies.tail

/-- Bits being packed into bytes: those that fill no byte yet, their number, and the bytes so
far in reverse. -/
structure Packing where
  pending : Nat
  count : Nat
  reversed : List UInt8

/-- The packing with a full byte of pending bits written, if there is one. A byte of ones is
followed by a zero, which tells it from a marker. -/
def Packing.flush (p : Packing) : Packing :=
  if 8 ≤ p.count then
    let rest := p.count - 8
    let b := UInt8.ofNat (p.pending >>> rest)
    ⟨p.pending % 1 <<< rest, rest, if b == 255 then 0 :: b :: p.reversed else b :: p.reversed⟩
  else p

/-- The packing with some bits added. -/
def Packing.add (p : Packing) (bits : Bits) : Packing :=
  Nat.repeat Packing.flush 3 ⟨p.pending <<< bits.2 + bits.1, p.count + bits.2, p.reversed⟩

/-- The packed bytes, the last one filled with ones. -/
def Packing.bytes (p : Packing) : List UInt8 :=
  (p.add (127, 7)).reversed.reverse

/-! ### Files -/

/-- A block of an image in each of its components; beyond the edges the last pixels go on. -/
def blockAt (image : Image) (column row : Nat) : List (Array Float) :=
  let samples := (List.range 64).map fun i =>
    components (image.get (min (8 * column + i % 8) (image.width - 1))
      (min (8 * row + i / 8) (image.height - 1)))
  (List.range 3).map fun k => (samples.map fun s => s.getD k 0.0).toArray

/-- The blocks of an image from left to right and from top to bottom. -/
def blocks (image : Image) : List (List (Array Float)) :=
  (List.range ((image.height + 7) / 8)).flatMap fun row =>
    (List.range ((image.width + 7) / 8)).map fun column => blockAt image column row

/-- The packed blocks of an image. -/
def scan (tables : List (List Nat)) (image : Image) : List UInt8 :=
  let step (state : List Int × Packing) (block : List (Array Float)) : List Int × Packing :=
    let frequencies := (tables.zip block).map fun (table, samples) => quantize table samples
    let bits := (state.1.zip frequencies).flatMap fun (previous, f) => blockBits previous f
    (frequencies.map (·.headD 0), bits.foldl Packing.add state.2)
  ((blocks image).foldl step ([0, 0, 0], ⟨0, 0, []⟩)).2.bytes

/-- A segment of a file: a marker, a length and a content. -/
def segment (marker : UInt8) (content : List UInt8) : List UInt8 :=
  [0xFF, marker] ++ Bytes.bigEndian 2 (content.length + 2) ++ content

/-- The segment that lists symbols which all take `width` bits. -/
def symbolSegment (kind : UInt8) (width : Nat) (symbols : List Nat) : List UInt8 :=
  segment 0xC4 (kind :: (List.range 16).map (fun i =>
    if i + 1 = width then UInt8.ofNat symbols.length else 0) ++ symbols.map UInt8.ofNat)

/-- The segment of a quantization table. -/
def tableSegment (number : UInt8) (table : List Nat) : List UInt8 :=
  segment 0xDB (number :: (inZigzag 0 table).map UInt8.ofNat)

/-- The bytes of an image with at least one pixel, at a quality from 1 to 100. -/
def encode (quality : Nat) (image : Image) : List UInt8 :=
  let luminance := scaleTable quality luminanceTable
  let chrominance := scaleTable quality chrominanceTable
  [0xFF, 0xD8]
    ++ segment 0xE0 (Bytes.ofText "JFIF" ++ [0, 1, 2, 0, 0, 1, 0, 1, 0, 0])
    ++ segment 0xC0 (8 :: Bytes.bigEndian 2 image.height ++ Bytes.bigEndian 2 image.width
      ++ [3, 1, 0x11, 0, 2, 0x11, 1, 3, 0x11, 1])
    ++ tableSegment 0 luminance ++ tableSegment 1 chrominance
    ++ symbolSegment 0x00 4 steadySymbols ++ symbolSegment 0x10 8 waveSymbols
    ++ segment 0xDA [3, 1, 0, 2, 0, 3, 0, 0, 63, 0]
    ++ scan [luminance, chrominance, chrominance] image
    ++ [0xFF, 0xD9]

/-- The segments at the start of a list of bytes, up to the one before the packed blocks, as
markers with contents. -/
def segments (bytes : List UInt8) : List (UInt8 × List UInt8) :=
  match bytes with
  | 0xFF :: marker :: high :: low :: rest =>
    let content := rest.take (Bytes.ofBigEndian [high, low] - 2)
    if marker == 0xDA then [(marker, content)]
    else (marker, content) :: segments (rest.drop content.length)
  | _ => []
termination_by bytes.length
decreasing_by
  simp only [List.length_drop, List.length_cons]
  omega

/-- Write the image of some samples, three for each pixel. An image without pixels or with a long
side has no file. -/
def write (quality width height : Nat) (samples : List UInt8) : Written String :=
  match Image.ofSamples? width height (colorSamples samples).toArray with
  | some image =>
    if width = 0 ∨ height = 0 ∨ 65535 < max width height then
      .refused "a JPEG image has pixels and short sides"
    else .whole (encode quality image)
  | none => .refused "the samples do not fit the size"

end Recolour.Plain.Jpeg
