import Recolour.Command.Basic

/-!
# Listing presets

`Presets` lists the builtin presets and those the settings declare, with the expressions of
each when asked to.
-/

namespace Recolour.Command

/-- What a listing of presets is asked to do. -/
structure Presets where
  /-- Show the expressions of each preset. -/
  verbose : Bool
  /-- The path of the settings. -/
  settings : Option String

namespace Presets

/-- The lines about a preset: its name with a remark, and its expressions. -/
def describe (terminal : Terminal) (verbose : Bool) (name remark : String)
    (expressions : List String) : String :=
  terminal.statusLine .info name remark
    ++ String.join (if verbose then expressions.map terminal.detailLine else [])

/-- The lines about a declared preset. -/
def describeDeclared (terminal : Terminal) (verbose : Bool) (name : String)
    (lines : List String) : String :=
  if Settings.isBuiltin name then terminal.statusLine .warning name "shadowed by builtin"
  else describe terminal verbose name (terminal.dim "(config)")
    (lines.map fun line => String.ofList (Text.trim line.toList))

/-- The lines about all presets. -/
def listing (terminal : Terminal) (verbose : Bool) (settings : Settings) : String :=
  String.join (Preset.builtins.map fun preset =>
      describe terminal verbose preset.name preset.description
        (preset.expressions.map Expression.text))
    ++ String.join (settings.presets.toList.map fun (name, lines) =>
      describeDeclared terminal verbose name lines)

/-- Carry out a listing. -/
def execute {m : Type → Type} [Host m] (library : Library) (presets : Presets) :
    ExceptT Error m Unit := do
  let settings ← Settings.discover library presets.settings
  say (listing · presets.verbose settings)

end Presets

end Recolour.Command
