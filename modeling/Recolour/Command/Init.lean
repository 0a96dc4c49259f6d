import Recolour.Command.Basic

/-!
# Starting settings

`Init` writes a file of settings with the defaults, explained by comments.  It leaves a file
that is already there unless it is forced.
-/

namespace Recolour.Command

/-- What the start of settings is asked to do. -/
structure Init where
  /-- The path of the directory to write into. -/
  directory : String
  /-- Write over a file that is there. -/
  force : Bool

namespace Init

/-- The settings to start from. -/
def template : String :=
  "# imgmap configuration

# Output format when neither --format nor the output extension picks one.
format: png

# Encoder options, as key:value pairs separated by ';'.
#   png:  compression:default|fast|best
#   jpeg: quality:1-100
#   pnm:  format:p2|p3|p5|p6
options: \"\"

# Evaluate image rows in parallel.
parallel: true

# Named programs for `imgmap run --preset NAME`.
presets:
  night:
    - \"? ? ? ?  -40% -40% ? ?\"
"

/-- Carry out the start of settings. -/
def execute {m : Type → Type} [Host m] (init : Init) : ExceptT Error m Unit := do
  let path := Settings.pathIn init.directory
  if (← (Host.kind? path : m _)).isSome && !init.force then
    throw (.validation ((← shown path) ++ " already exists") (some "Use --force to overwrite"))
  let doing := "Failed to write " ++ Settings.fileName
  attempt doing path (Host.create path)
  attempt doing path (Host.write path (Utf8.encode template.toList))
  let place ← shown path
  say (·.statusLine .success "Created" place)

end Init

end Recolour.Command
