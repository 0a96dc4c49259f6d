import Recolour.Format
import Recolour.Path

/-!
# Registries of formats

A registry lists the formats in use.  Names count without regard to letter case, and a format
takes the place of any earlier one of its name; it is listed where the last of that name was
registered.
-/

namespace Recolour

/-- The formats in use, in the order of their registration. -/
structure Registry where
  formats : List Format

namespace Registry

/-- The registry without formats. -/
def empty : Registry := ⟨[]⟩

/-- The registry with one more format, in place of any of its name. -/
def register (registry : Registry) (format : Format) : Registry :=
  ⟨(registry.formats.filter fun other => !Text.sameFolded other.name format.name) ++ [format]⟩

/-- The registry with the given formats registered in order. -/
def ofFormats (formats : List Format) : Registry :=
  formats.foldl register empty

/-- The format of a name. -/
def get (registry : Registry) (name : String) : Except Error Format :=
  match registry.formats.find? fun format => Text.sameFolded format.name name with
  | some format => .ok format
  | none => .error (.unsupportedFormat name)

/-- The first format with the extension of a path. -/
def forPath? (registry : Registry) (path : String) : Option Format :=
  (Path.extension? path).bind fun extension => registry.formats.find? (·.hasExtension extension)

end Registry

end Recolour
