import Recolour.Bytes
import Recolour.Image
import Recolour.Written

/-!
# PNG files

A PNG file is a signature and a sequence of chunks, each with its length, its kind and a
checksum.  Images are written with eight bits a sample and four samples a pixel, row after
row, each row unfiltered, in a stream of stored blocks.  `decode` reads files of this layout
back.
-/

namespace Recolour.Plain.Png

/-- The first bytes of every file. -/
def signature : List UInt8 := [137, 80, 78, 71, 13, 10, 26, 10]

/-- One bit of the chunk checksum worked off. -/
def checksumBit (sum : UInt32) : UInt32 :=
  if sum &&& 1 == 1 then (sum >>> 1) ^^^ 0xEDB88320 else sum >>> 1

/-- The checksum of a chunk: the remainder of its bits by a polynomial of degree 32. -/
def checksum (bytes : List UInt8) : UInt32 :=
  (bytes.foldl (fun sum b => Nat.repeat checksumBit 8 (sum ^^^ b.toUInt32)) 0xFFFFFFFF)
    ^^^ 0xFFFFFFFF

/-- A chunk of a kind. -/
def chunk (kind : String) (content : List UInt8) : List UInt8 :=
  let body := Bytes.ofText kind ++ content
  Bytes.bigEndian 4 content.length ++ body ++ Bytes.bigEndian 4 (checksum body).toNat

/-- The checksum of a stream: two running sums modulo the largest prime in sixteen bits. -/
def streamChecksum (bytes : List UInt8) : Nat :=
  let (low, high) := bytes.foldl (fun (low, high) b =>
    let low := (low + b.toNat) % 65521
    (low, (high + low) % 65521)) (1, 0)
  high * 65536 + low

/-- The largest number of bytes in a stored block. -/
def blockSize : Nat := 65535

/-- A stored block, which tells whether it is the last. -/
def block (isLast : Bool) (content : List UInt8) : List UInt8 :=
  (if isLast then 1 else 0) :: Bytes.littleEndian 2 content.length
    ++ Bytes.littleEndian 2 (blockSize - content.length) ++ content

/-- A stream of stored blocks. -/
def stream (content : List UInt8) : List UInt8 :=
  let pieces := Bytes.pieces blockSize content
  [0x78, 0x01] ++ pieces.dropLast.flatMap (block false) ++ block true (pieces.getLast?.getD [])
    ++ Bytes.bigEndian 4 (streamChecksum content)

/-- The rows of an image, each after the mark of an unfiltered row. -/
def rows (image : Image) : List UInt8 :=
  (Bytes.pieces (4 * image.width) image.samples.toList).flatMap (0 :: ·)

/-- The bytes of an image with at least one pixel. -/
def encode (image : Image) : List UInt8 :=
  signature
    ++ chunk "IHDR" (Bytes.bigEndian 4 image.width ++ Bytes.bigEndian 4 image.height
      ++ [8, 6, 0, 0, 0])
    ++ chunk "IDAT" (stream (rows image))
    ++ chunk "IEND" []

/-- The chunks of a file after its signature. -/
def chunks (bytes : List UInt8) : List (List UInt8 × List UInt8) :=
  if bytes.length < 12 then []
  else
    let length := Bytes.ofBigEndian (bytes.take 4)
    ((bytes.drop 4).take 4, (bytes.drop 8).take length) :: chunks (bytes.drop (12 + length))
termination_by bytes.length
decreasing_by
  simp only [List.length_drop]
  omega

/-- The content of stored blocks. `content` holds that of the blocks before them. -/
def readBlocks (content bytes : List UInt8) : Option (List UInt8) :=
  if bytes.length < 5 then none
  else
    let length := Bytes.ofLittleEndian ((bytes.drop 1).take 2)
    let rest := bytes.drop 5
    let content := content ++ rest.take length
    if rest.length < length then none
    else if bytes.head? = some 1 then some content
    else if bytes.head? = some 0 then readBlocks content (rest.drop length)
    else none
termination_by bytes.length
decreasing_by
  simp only [List.length_drop]
  omega

/-- The samples of unfiltered rows. -/
def readRows (width : Nat) (bytes : List UInt8) : Option (List UInt8) :=
  let rows := Bytes.pieces (4 * width + 1) bytes
  if rows.all (·.head? == some 0) then some (rows.flatMap List.tail) else none

/-- The image in a file of the layout that `encode` writes. -/
def decode (bytes : List UInt8) : Option Image := do
  guard (bytes.take 8 == signature)
  let chunks := chunks (bytes.drop 8)
  let head ← chunks.lookup (Bytes.ofText "IHDR")
  guard (head.drop 8 == [8, 6, 0, 0, 0])
  let width := Bytes.ofBigEndian (head.take 4)
  let height := Bytes.ofBigEndian ((head.drop 4).take 4)
  guard (0 < width * height)
  let content := (chunks.filter fun chunk => chunk.1 == Bytes.ofText "IDAT").flatMap (·.2)
  let samples ← readRows width (← readBlocks [] (content.drop 2))
  Image.ofSamples? width height samples.toArray

/-- Write an image. An image without pixels has no file. -/
def write (image : Image) : Written String :=
  if image.width = 0 ∨ image.height = 0 then .refused "a PNG image has pixels"
  else .whole (encode image)

end Recolour.Plain.Png
