import Recolour.CommandLine
import Recolour.Plain

/-!
# The program

The program reads its command line and carries the command out on the machine, with the plain
library.  Errors and
usage go to the standard error, and the exit code is 1 after an error and 2 after a command
line that stands for no command.
-/

namespace Recolour.Main

/-- The reason for which the machine refused a file operation. The code of a refusal may come
negated. -/
def refusal : IO.Error → Refusal
  | .noFileOrDirectory .. => .missing
  | .alreadyExists .. => .present
  | .inappropriateType _ code reason =>
    if code = 20 ∨ code = -20 then .notDirectory
    else if code = 21 ∨ code = -21 then .directory
    else .other reason
  | error => .other (toString error)

/-- An operation of the machine with its refusal. -/
def refused {α : Type} (operation : IO α) : BaseIO (Except Refusal α) := do
  return (← operation.toBaseIO).mapError refusal

/-- A path as an entry of a directory. -/
def entry (path : String) : IO.FS.DirEntry := ⟨path, ""⟩

/-- What stands at a path. -/
def kind? (path : String) : BaseIO (Option FileKind) := do
  match ← (IO.FS.DirEntry.root (entry path)).metadata.toBaseIO with
  | .ok data =>
    match data.type with
    | .dir => return some .directory
    | .file => return some .file
    | _ => return none
  | .error _ => return none

/-- The files below the directory at a path, after the names in `names`. -/
partial def filesBelow (path : String) (names : List String) : IO (List (List String)) := do
  let entries ← (IO.FS.DirEntry.root (entry path)).readDir
  let sorted := entries.toList.mergeSort fun a b => a.fileName ≤ b.fileName
  let found ← sorted.mapM fun item => do
    let below := names ++ [item.fileName]
    let place := Path.join path item.fileName
    match ← kind? place with
    | some .directory => filesBelow place below
    | some .file => return [below]
    | none => return []
  return found.flatten

/-- The rest of a stream. -/
partial def readAll (stream : IO.FS.Stream) (sofar : ByteArray) : IO ByteArray := do
  let piece ← stream.read 65536
  if piece.isEmpty then return sofar else readAll stream (sofar ++ piece)

instance : Host IO where
  workingDirectory := return toString (← IO.currentDir)
  kind? path := kind? path
  read path := return (← refused (IO.FS.readBinFile path)).map fun bytes => bytes.data.toList
  create path := refused (IO.FS.writeBinFile path ByteArray.empty)
  write path bytes := refused (IO.FS.writeBinFile path ⟨bytes.toArray⟩)
  makeDirectory path := refused (IO.FS.createDir path)
  filesBelow path := refused (filesBelow path [])
  readInput := return (← readAll (← IO.getStdin) ByteArray.empty).data.toList
  writeOutput bytes := do (← IO.getStdout).write ⟨bytes.toArray⟩
  terminal := return ⟨← (← IO.getStderr).isTty⟩
  report text := IO.eprint text

/-- What the program says about a command line that stands for no command. -/
def usage : CommandLine.Usage → String
  | .empty | .help => "Usage: imgmap COMMAND [ARGUMENTS]\nCommands: "
      ++ ", ".intercalate Command.names
  | .version => "imgmap"
  | .unknownCommand => "error: there is no such command"
  | .unknownArgument => "error: there is no such argument"
  | .invalidValue => "error: an option has no value, or none it can take"
  | .tooManyValues => "error: an option has a value that takes none"
  | .missingArgument => "error: an argument is missing"
  | .conflict => "error: an option is given twice"

end Recolour.Main

/-- Carry out the command on the command line. -/
def main (arguments : List String) : IO UInt32 := do
  match Recolour.CommandLine.parse arguments with
  | .error usage =>
    IO.eprintln (Recolour.Main.usage usage)
    return if usage = .help ∨ usage = .version then 0 else 2
  | .ok command =>
    match ← (command.execute .plain : ExceptT Recolour.Error IO Unit).run with
    | .ok () => return 0
    | .error error =>
      IO.eprintln ("error: " ++ error.message)
      if let some help := error.help then IO.eprintln ("  help: " ++ help)
      return 1
