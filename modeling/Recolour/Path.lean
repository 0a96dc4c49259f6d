/-!
# Paths

A path is a text in which slashes separate pieces.  Empty pieces and single dots name
nothing, two dots name the directory above, and every other piece is a name.  The name of a
file is the last piece that names something; its extension is what follows the last dot of
the name, unless that dot comes first.
-/

namespace Recolour.Path

/-- The pieces of a path between its slashes. -/
def pieces (path : String) : List (List Char) :=
  path.toList.splitOn '/'

/-- The path with the given pieces. -/
def ofPieces (pieces : List (List Char)) : String :=
  String.ofList (['/'].intercalate pieces)

/-- The piece names nothing. -/
def isVoid (piece : List Char) : Bool :=
  piece == [] || piece == ['.']

/-- The piece names the directory above. -/
def isParent (piece : List Char) : Bool :=
  piece == ['.', '.']

/-- The path starts at the root. -/
def isAbsolute (path : String) : Bool :=
  path.toList.head? == some '/'

/-- The pieces of a path up to the last that names something. -/
def significant (path : String) : List (List Char) :=
  ((pieces path).reverse.dropWhile isVoid).reverse

/-- The pieces of a path that name something. -/
def names (path : String) : List String :=
  ((pieces path).filter fun piece => !isVoid piece).map String.ofList

/-- The name of the file at a path. -/
def fileName? (path : String) : Option (List Char) :=
  (significant path).getLast?.filter fun piece => !isParent piece

/-- A file name before and after its last dot. Without a dot, or with none but a first one,
there is no extension. -/
def splitExtension (name : List Char) : List Char × Option (List Char) :=
  let after := (name.reverse.takeWhile (· != '.')).reverse
  let before := name.take (name.length - after.length - 1)
  if after.length < name.length && !before.isEmpty then (before, some after) else (name, none)

/-- The extension of a path. -/
def extension? (path : String) : Option String :=
  (fileName? path).bind fun name => (splitExtension name).2.map String.ofList

/-- The path with another extension, nothing changed but its file name. -/
def withExtension (path extension : String) : String :=
  match fileName? path with
  | some name =>
    let stem := (splitExtension name).1
    let name := if extension.isEmpty then stem else stem ++ '.' :: extension.toList
    ofPieces ((significant path).dropLast ++ [name])
  | none => path

/-- The path `rest`, taken from the directory `directory` unless it is absolute. -/
def join (directory rest : String) : String :=
  if isAbsolute rest || directory.isEmpty then rest
  else if directory.toList.getLast? = some '/' then directory ++ rest
  else directory ++ "/" ++ rest

/-- The path of the directory that holds a path, empty for a single name. -/
def parent? (path : String) : Option String :=
  match significant path with
  | [] => none
  | pieces =>
    let above := (pieces.dropLast.reverse.dropWhile isVoid).reverse
    if above.isEmpty && isAbsolute path then some "/" else some (ofPieces above)

/-- A path and the paths of the directories above it, the nearest first, `count` of them at
most. -/
def ancestorsUpTo : Nat → String → List String
  | 0, path => [path]
  | count + 1, path => path :: ((parent? path).map (ancestorsUpTo count)).getD []

/-- A path and the paths of all directories above it, the nearest first. -/
def ancestors (path : String) : List String :=
  ancestorsUpTo (pieces path).length path

/-- What is left of the pieces of a path after the given names, without what names nothing
at its two ends. -/
def dropNames? : List String → List (List Char) → Option (List (List Char))
  | [], pieces => some (pieces.dropWhile isVoid)
  | name :: rest, pieces =>
    match pieces.dropWhile isVoid with
    | piece :: pieces => if piece == name.toList then dropNames? rest pieces else none
    | [] => none

/-- The path as seen from the directory `base`, if it lies there. -/
def relativeTo? (base path : String) : Option String :=
  if isAbsolute base == isAbsolute path then
    (dropNames? (names base) (significant path)).map ofPieces
  else none

/-- The path as messages show it: as seen from the working directory if it lies there. -/
def display (workingDirectory path : String) : String :=
  match relativeTo? workingDirectory path with
  | some relative => if relative.isEmpty then "." else relative
  | none => path

end Recolour.Path
