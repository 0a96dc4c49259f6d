import Recolour.Command.Basic
import Recolour.Format.Builtin

/-!
# Listing formats

The listing of formats shows the extensions and the option keys of each.
-/

namespace Recolour.Command.Formats

/-- The line about a format. -/
def describe (terminal : Terminal) (format : Format) : String :=
  let extensions := ", ".intercalate (format.extensions.map ("." ++ ·))
  let options := if format.optionKeys.isEmpty then ""
    else terminal.dim ("  options: " ++ ", ".intercalate format.optionKeys)
  terminal.statusLine .info format.name (extensions ++ options)

/-- The lines about all builtin formats. -/
def listing (library : Library) (terminal : Terminal) : String :=
  String.join ((Registry.builtin library).formats.map (describe terminal))

/-- Carry out a listing. -/
def execute {m : Type → Type} [Host m] (library : Library) : ExceptT Error m Unit :=
  say (listing library)

end Recolour.Command.Formats
