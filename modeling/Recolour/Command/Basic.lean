import Recolour.Library
import Recolour.Path
import Recolour.Recipe

/-!
# What commands share

Commands end in an `Error` or in nothing; what they have to say goes to the terminal as they
run.
-/

namespace Recolour.Command

variable {m : Type → Type} [Host m]

/-- The value of a computation that needs no host. -/
def settle {α : Type} (result : Except Error α) : ExceptT Error m α :=
  ExceptT.mk (pure result)

/-- The value of a file operation on a path. `doing` tells what for. -/
def attempt {α : Type} (doing path : String) (operation : m (Except Refusal α)) :
    ExceptT Error m α := do
  match ← (operation : m _) with
  | .ok value => return value
  | .error refusal => throw (.file path (doing ++ ": " ++ refusal.message))

/-- Report what the terminal makes of something. -/
def say (text : Terminal → String) : ExceptT Error m Unit := do
  let terminal ← (Host.terminal : m _)
  (Host.report (text terminal) : m _)

/-- The path as messages show it. -/
def shown (path : String) : ExceptT Error m String := do
  return Path.display (← (Host.workingDirectory : m _)) path

/-- There is something of the kind at a path. -/
def isKind (kind : FileKind) (path : String) : ExceptT Error m Bool := do
  return (← (Host.kind? path : m _)) == some kind

end Recolour.Command

namespace Recolour.Settings

variable {m : Type → Type} [Host m]

/-- The settings in the file at a path. -/
def load (library : Library) (path : String) : ExceptT Error m Settings := do
  Command.settle (parse library (← readText "Failed to read config" path))

/-- The path of the settings of a directory. -/
def pathIn (directory : String) : String :=
  Path.join directory fileName

/-- The settings of a command: those at a path if one is given, else those of the working
directory if it has a file for them, else the defaults. -/
def discover (library : Library) (path : Option String) : ExceptT Error m Settings := do
  match path with
  | some path => load library path
  | none =>
    if ← Command.isKind .file (pathIn ".") then load library (pathIn ".") else return default

end Recolour.Settings
