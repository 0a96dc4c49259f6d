import Recolour.Terminal

/-!
# The host of a command

A command reads and writes files and streams through its host.  `Host m` lists what a host
does in the monad `m`; a command that is written over any host runs on the machine and on a
`Session` alike.  File operations that fail say why by a `Refusal`.
-/

namespace Recolour

/-- The reason for which a file operation fails. -/
inductive Refusal where
  /-- There is nothing at the path. -/
  | missing
  /-- There is something at the path already. -/
  | present
  /-- The path leads through something that is no directory. -/
  | notDirectory
  /-- There is a directory at the path. -/
  | directory
  /-- Any other reason. -/
  | other (reason : String)
  deriving DecidableEq

/-- The wording of a refusal. -/
def Refusal.message : Refusal → String
  | .missing => "No such file or directory (os error 2)"
  | .present => "File exists (os error 17)"
  | .notDirectory => "Not a directory (os error 20)"
  | .directory => "Is a directory (os error 21)"
  | .other reason => reason

/-- What stands at a path. -/
inductive FileKind where
  | file
  | directory
  deriving DecidableEq

/-- What a command asks of its host. -/
class Host (m : Type → Type) extends Monad m where
  /-- The path of the working directory. -/
  workingDirectory : m String
  /-- What stands at a path, if anything does. -/
  kind? : String → m (Option FileKind)
  /-- The content of the file at a path. -/
  read : String → m (Except Refusal (List UInt8))
  /-- Make the file at a path empty, or make an empty file there. -/
  create : String → m (Except Refusal Unit)
  /-- Give the file at a path a content. -/
  write : String → List UInt8 → m (Except Refusal Unit)
  /-- Make a directory at a path. -/
  makeDirectory : String → m (Except Refusal Unit)
  /-- The files below the directory at a path, by the names that lead there, in the order of
  a walk that takes each directory by name and goes down at once. -/
  filesBelow : String → m (Except Refusal (List (List String)))
  /-- All of the standard input. -/
  readInput : m (List UInt8)
  /-- Write to the standard output. -/
  writeOutput : List UInt8 → m Unit
  /-- The terminal that reports go to. -/
  terminal : m Terminal
  /-- Write a report. -/
  report : String → m Unit

end Recolour
