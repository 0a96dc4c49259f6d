import Recolour.Command.Check
import Recolour.Command.Completions
import Recolour.Command.Formats
import Recolour.Command.Init
import Recolour.Command.Presets
import Recolour.Command.Run

/-!
# Commands

The program has one command for each thing it can do.
-/

namespace Recolour

/-- A command with all it is asked to do. -/
inductive Command where
  | run (arguments : Command.Run)
  | check (arguments : Command.Check)
  | presets (arguments : Command.Presets)
  | formats
  | init (arguments : Command.Init)
  | completions (shell : Command.Shell)

namespace Command

/-- The name of the program. -/
def programName : String := "imgmap"

/-- The names of the commands. -/
def names : List String := ["run", "check", "presets", "formats", "init", "completions"]

/-- Carry out a command with a library. -/
def execute {m : Type → Type} [Host m] (library : Library) : Command → ExceptT Error m Unit
  | .run arguments => arguments.execute library
  | .check arguments => arguments.execute
  | .presets arguments => arguments.execute library
  | .formats => Formats.execute library
  | .init arguments => arguments.execute
  | .completions shell =>
    (Host.writeOutput (Utf8.encode (shell.script programName names).toList) : m _)

end Command

end Recolour
