import Recolour.Bytes
import Recolour.Image
import Recolour.Written

/-!
# GIF files

A GIF file holds a table of at most 256 colours and for each pixel the place of its colour in
the table.  One colour of the table may be transparent; all others are opaque.  The places
are written as codes of one width, with a clear code often enough that no reader widens them.
`decode` reads files of this layout back.
-/

namespace Recolour.Plain.Gif

/-- The pixels as the format can tell them apart: a transparent pixel has the colour of the
first one, every other is opaque. -/
def flatten (pixels : List Pixel) : List Pixel :=
  let hole := (pixels.find? (·.alpha == 0)).getD default
  pixels.map fun p => if p.alpha == 0 then hole else { p with alpha := 255 }

/-- The different pixels in order of appearance, up to `limit` of them. -/
def distinct (limit : Nat) (pixels : List Pixel) : List Pixel :=
  (pixels.foldl (fun (seen : Array Pixel) p =>
    if seen.size < limit && !seen.contains p then seen.push p else seen) #[]).toList

/-- The largest number of colours in a table. -/
def tableLimit : Nat := 256

/-- A sample moved to the nearest of `levels` evenly spaced values. -/
def snap (levels : Nat) (sample : UInt8) : UInt8 :=
  let step := 255 / (levels - 1)
  UInt8.ofNat (min 255 ((sample.toNat + step / 2) / step * step))

/-- The colour of a coarse grid nearest to a pixel, for images with too many colours. -/
def coarsen (p : Pixel) : Pixel :=
  if p.alpha == 0 then p
  else { p with red := snap 6 p.red, green := snap 6 p.green, blue := snap 6 p.blue }

/-- The pixels to write and the table of their colours. -/
def palette (pixels : List Pixel) : List Pixel × List Pixel :=
  let pixels := flatten pixels
  let table := distinct (tableLimit + 1) pixels
  if table.length ≤ tableLimit then (pixels, table)
  else
    let pixels := pixels.map coarsen
    (pixels, distinct tableLimit pixels)

/-- The number of bits for a place in a table of `size` colours, at least two. -/
def codeBits (size : Nat) : Nat :=
  max 2 (if size ≤ 1 then 0 else Nat.log2 (size - 1) + 1)

/-- The codes of a list of places: a clear code before every run, and an end code. -/
def codes (bits : Nat) (places : List Nat) : List Nat :=
  (Bytes.pieces (1 <<< bits - 2) places).flatMap (1 <<< bits :: ·) ++ [1 <<< bits + 1]

/-- Codes being packed into bytes: the bits that fill no byte yet, their number, and the
bytes so far in reverse. -/
structure Packing where
  pending : Nat
  count : Nat
  reversed : List UInt8

/-- The packing with a full byte of pending bits written, if there is one. -/
def Packing.flush (p : Packing) : Packing :=
  if 8 ≤ p.count then
    ⟨p.pending / 256, p.count - 8, UInt8.ofNat (p.pending % 256) :: p.reversed⟩
  else p

/-- The bytes of a list of codes of `width` bits, at most nine, each starting at the lightest
free bit. -/
def pack (width : Nat) (codes : List Nat) : List UInt8 :=
  let packed := codes.foldl (fun (p : Packing) code =>
    (Packing.mk (p.pending + code <<< p.count) (p.count + width) p.reversed).flush.flush) ⟨0, 0, []⟩
  (if packed.count = 0 then packed.reversed
    else UInt8.ofNat (packed.pending % 256) :: packed.reversed).reverse

/-- Data in blocks that start with their length, and the empty block that ends them. -/
def blocks (content : List UInt8) : List UInt8 :=
  (Bytes.pieces 255 content).flatMap (fun piece => UInt8.ofNat piece.length :: piece) ++ [0]

/-- The bytes of an image of at most 65535 pixels a side. -/
def encode (image : Image) : List UInt8 :=
  let (pixels, table) := palette image.pixels
  let bits := codeBits table.length
  let size := Bytes.littleEndian 2 image.width ++ Bytes.littleEndian 2 image.height
  let colors := table ++ List.replicate (1 <<< bits - table.length) default
  let hole := table.findIdx? (·.alpha == 0)
  Bytes.ofText "GIF89a" ++ size ++ [UInt8.ofNat (0xF0 + (bits - 1)), 0, 0]
    ++ colors.flatMap (fun p => [p.red, p.green, p.blue])
    ++ [0x21, 0xF9, 4, if hole.isSome then 1 else 0, 0, 0, UInt8.ofNat (hole.getD 0), 0]
    ++ [0x2C, 0, 0, 0, 0] ++ size ++ [0]
    ++ [UInt8.ofNat bits] ++ blocks (pack (bits + 1) (codes bits (pixels.map table.idxOf)))
    ++ [0x3B]

/-- The content of blocks that start with their length. -/
def readBlocks (bytes : List UInt8) : List UInt8 :=
  match bytes with
  | [] => []
  | length :: rest =>
    if length == 0 then [] else rest.take length.toNat ++ readBlocks (rest.drop length.toNat)
termination_by bytes.length
decreasing_by
  simp only [List.length_drop, List.length_cons]
  omega

/-- The bits of a byte, the lightest first. -/
def bitsOf (b : UInt8) : List Nat :=
  (List.range 8).map fun i => b.toNat >>> i % 2

/-- The codes of `width` bits in a list of bytes. -/
def unpack (width : Nat) (bytes : List UInt8) : List Nat :=
  (Bytes.pieces width (bytes.flatMap bitsOf)).map (·.foldr (fun bit n => 2 * n + bit) 0)

/-- The image in a file of the layout that `encode` writes. -/
def decode (bytes : List UInt8) : Option Image := do
  guard (bytes.take 6 == Bytes.ofText "GIF89a")
  let width := Bytes.ofLittleEndian ((bytes.drop 6).take 2)
  let height := Bytes.ofLittleEndian ((bytes.drop 8).take 2)
  guard (0 < width * height)
  let flags : UInt8 ← bytes[10]?
  guard (0xF0 ≤ flags)
  let bits := (flags &&& 7).toNat + 1
  let colors := Bytes.pieces 3 ((bytes.drop 13).take (3 * 1 <<< bits))
  let rest := bytes.drop (13 + 3 * 1 <<< bits)
  let hasHole : UInt8 ← rest[3]?
  let hole : UInt8 ← rest[6]?
  let table := colors.zipIdx.map fun (color, i) =>
    color ++ [if hasHole == 1 && i == hole.toNat then 0 else 255]
  let places := ((unpack (bits + 1) (readBlocks (rest.drop 19))).takeWhile (· != 1 <<< bits + 1)).filter
    (· != 1 <<< bits)
  let samples ← places.mapM (table[·]?)
  Image.ofSamples? width height samples.flatten.toArray

/-- Write an image. An image with a long side has no file. -/
def write (image : Image) : Written String :=
  if 65535 < max image.width image.height then .refused "a GIF image has short sides"
  else .whole (encode image)

end Recolour.Plain.Gif
