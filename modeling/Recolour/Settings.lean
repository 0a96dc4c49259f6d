import Std.Data.ExtTreeMap
import Recolour.EncoderOptions
import Recolour.Preset

/-!
# Settings

Settings give the defaults of a run and declare presets by name.  The builtin presets cannot be
replaced: a declared preset with the name of a builtin one is shadowed by it.
-/

namespace Recolour

/-- The defaults of a run and the declared presets. -/
structure Settings where
  /-- The name of the format to write. -/
  format : String
  /-- Encoder options, as text. -/
  options : String
  /-- Whether images are painted by rows. -/
  byRows : Bool
  /-- The lines of each declared preset. -/
  presets : Std.ExtTreeMap String (List String)
  deriving DecidableEq

namespace Settings

/-- The settings without a document. -/
def default : Settings := ⟨"png", "", true, ∅⟩

/-- The name of the file with the settings of a directory. -/
def fileName : String := "imgmap.yaml"

/-- The encoder options of the settings. -/
def encoderOptions (settings : Settings) : EncoderOptions :=
  EncoderOptions.parse settings.options

/-- The name belongs to a builtin preset. -/
def isBuiltin (name : String) : Bool := (Preset.builtin? name).isSome

/-- The names of the declared presets that a builtin one shadows, in order. -/
def shadowed (settings : Settings) : List String :=
  settings.presets.keys.filter isBuiltin

/-- The program of a preset, builtin or declared. Each line of a declared preset may spell
several lines of the program. -/
def preset? (settings : Settings) (name : String) : Option Program :=
  match Preset.builtin? name with
  | some preset => some preset.program
  | none => settings.presets[name]?.map fun lines =>
      Program.parse (Preset.sourceOf name) ("\n".intercalate lines)

end Settings

end Recolour
