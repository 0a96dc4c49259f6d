import Std.Data.ExtTreeMap
import Recolour.Host
import Recolour.Path

/-!
# File trees

A file tree holds directories and files under locations, which are the names on the way from
the root.  Locations are ordered name by name, so that a directory comes right before what
lies in it.  A path is followed from the working directory piece by piece, and every piece
must start in a directory that exists; the last piece may lead to nothing.
-/

namespace Recolour

/-- The names on the way from the root. -/
abbrev Location := List String

/-- What stands at a location. -/
inductive Entry where
  | directory
  | file (content : List UInt8)
  deriving DecidableEq

/-- The kind of an entry. -/
def Entry.kind : Entry → FileKind
  | .directory => .directory
  | .file _ => .file

/-- Directories and files under locations. The root is always a directory. -/
structure FileTree where
  entries : Std.ExtTreeMap Location Entry
  deriving DecidableEq

namespace FileTree

/-- The tree with nothing but the root. -/
def empty : FileTree := ⟨∅⟩

/-- What stands at a location. -/
def get? (tree : FileTree) (location : Location) : Option Entry :=
  if location = [] then some .directory else tree.entries[location]?

/-- The tree with an entry put at a location. -/
def put (tree : FileTree) (location : Location) (entry : Entry) : FileTree :=
  ⟨tree.entries.insert location entry⟩

/-- Nothing, if there is a directory at the location. -/
def requireDirectory (tree : FileTree) (location : Location) : Except Refusal Unit :=
  match tree.get? location with
  | some .directory => .ok ()
  | some (.file _) => .error .notDirectory
  | none => .error .missing

/-- The location that some pieces of a path lead to. -/
def follow (tree : FileTree) (location : Location) : List (List Char) → Except Refusal Location
  | [] => .ok location
  | piece :: rest => do
    tree.requireDirectory location
    let next :=
      if Path.isVoid piece then location
      else if Path.isParent piece then location.dropLast
      else location ++ [String.ofList piece]
    tree.follow next rest

/-- The location where a path starts. -/
def start (base : Location) (path : String) : Location :=
  if Path.isAbsolute path then [] else base

/-- The location that a path leads to, the slashes at its end included. -/
def locate (tree : FileTree) (base : Location) (path : String) : Except Refusal Location :=
  if path.isEmpty then .error .missing else tree.follow (start base path) (Path.pieces path)

/-- The pieces of a path without the slashes at its end. -/
def solidPieces (path : String) : List (List Char) :=
  ((Path.pieces path).reverse.dropWhile (· == [])).reverse

/-- The location that a path leads to, the slashes at its end left out. -/
def locateSolid (tree : FileTree) (base : Location) (path : String) : Except Refusal Location :=
  if path.isEmpty then .error .missing else tree.follow (start base path) (solidPieces path)

/-- What stands at a path. -/
def kind? (tree : FileTree) (base : Location) (path : String) : Option FileKind :=
  match tree.locate base path with
  | .ok location => (tree.get? location).map Entry.kind
  | .error _ => none

/-- The content of the file at a path. -/
def read (tree : FileTree) (base : Location) (path : String) : Except Refusal (List UInt8) := do
  match tree.get? (← tree.locate base path) with
  | some (.file content) => .ok content
  | some .directory => .error .directory
  | none => .error .missing

/-- The tree with a file at a path that has the content. The directory it lies in must
exist. -/
def write (tree : FileTree) (base : Location) (path : String) (content : List UInt8) :
    Except Refusal FileTree := do
  let location ← tree.locateSolid base path
  if path.toList.getLast? = some '/' then .error .directory
  else match tree.get? location with
    | some .directory => .error .directory
    | _ => .ok (tree.put location (.file content))

/-- The tree with a directory made at a path. The directory it lies in must exist. -/
def makeDirectory (tree : FileTree) (base : Location) (path : String) :
    Except Refusal FileTree := do
  let location ← tree.locateSolid base path
  match tree.get? location with
  | some _ => .error .present
  | none => .ok (tree.put location .directory)

/-- The names on the way from one location to another below it. -/
def below? : Location → Location → Option Location
  | [], location => some location
  | name :: base, other :: location => if name = other then below? base location else none
  | _ :: _, [] => none

/-- The files below a location, by the names that lead there, in order. -/
def filesUnder (tree : FileTree) (base : Location) : List Location :=
  tree.entries.toList.filterMap fun (location, entry) =>
    match entry with
    | .file _ => below? base location
    | .directory => none

/-- The files below the directory at a path. -/
def filesBelow (tree : FileTree) (base : Location) (path : String) :
    Except Refusal (List Location) := do
  let location ← tree.locate base path
  tree.requireDirectory location
  return tree.filesUnder location

end FileTree

end Recolour
