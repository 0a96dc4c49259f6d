import Recolour.Library
import Recolour.Path
import Recolour.Plain.Gif
import Recolour.Plain.Jpeg
import Recolour.Plain.Png
import Recolour.Plain.Pnm.Parser
import Recolour.Plain.Yaml.Parser
import Recolour.Plain.Yaml.Settings

/-!
# The plain library

A library that lays files out in the plainest way their formats know, and reads files of these
layouts.  A stream is read by whatever reader knows its content, a file only by the reader that
its extension asks for.  The program runs with it where no other library is at hand.
-/

namespace Recolour

namespace Plain

/-- A reader of one kind of image files. -/
structure Reader where
  /-- The extensions of the files to read, without the dot. -/
  extensions : List String
  decode : List UInt8 → Option Image

namespace Reader

/-- All readers. -/
def all : List Reader := [
  ⟨["png"], Png.decode⟩,
  ⟨["gif"], Gif.decode⟩,
  ⟨["pbm", "pam", "ppm", "pgm", "pnm"], Pnm.decode⟩]

/-- The reader for the file at a path. The letter case of the extension does not count. -/
def forPath? (path : String) : Option Reader :=
  (Path.extension? path).bind fun extension =>
    all.find? (·.extensions.any (Text.sameFolded · extension))

end Reader

/-- What is found, or the reason for which nothing is. -/
def orElse {α : Type} (reason : String) : Option α → Except String α
  | some a => .ok a
  | none => .error reason

/-- The reason for which no reader takes an image. -/
def unreadable : String := "the content is damaged or of no known format"

end Plain

/-- The plain library. -/
def Library.plain : Library where
  readStream bytes := Plain.orElse Plain.unreadable (Plain.Reader.all.findSome? (·.decode bytes))
  readFile path bytes :=
    Plain.orElse Plain.unreadable ((Plain.Reader.forPath? path).bind (·.decode bytes))
  gray := Plain.luma
  color p := (p.red, p.green, p.blue)
  writePng _ := Plain.Png.write
  writeJpeg := Plain.Jpeg.write
  writeGif := Plain.Gif.write
  writePnm variant width height samples := .whole (Plain.Pnm.encode variant width height samples)
  readSettings text :=
    Plain.orElse "the document is malformed or has a value of a wrong kind"
      ((Plain.Yaml.parse text.toList).bind Plain.Yaml.settings?)

end Recolour
