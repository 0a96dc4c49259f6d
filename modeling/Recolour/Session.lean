import Recolour.FileTree

/-!
# Sessions

A session is a host in memory: a file tree with a working directory, an input, and what was
written to the output and reported so far.  Its terminal shows no colours.
-/

namespace Recolour

/-- A host in memory. -/
structure Session where
  tree : FileTree
  /-- The working directory. -/
  base : Location
  input : List UInt8
  output : List UInt8
  reports : String

namespace Session

/-- A session at its start: a tree, a working directory and an input. -/
def start (tree : FileTree) (base : Location) (input : List UInt8) : Session :=
  ⟨tree, base, input, [], ""⟩

/-- The path of the working directory. -/
def workingDirectory (session : Session) : String :=
  "/" ++ "/".intercalate session.base

/-- Change the tree, unless the change is refused. -/
def change (f : FileTree → Location → Except Refusal FileTree) :
    StateM Session (Except Refusal Unit) := do
  let session ← get
  match f session.tree session.base with
  | .ok tree =>
    set { session with tree }
    return .ok ()
  | .error refusal => return .error refusal

instance : Host (StateM Session) where
  workingDirectory := return (← get).workingDirectory
  kind? path := return (← get).tree.kind? (← get).base path
  read path := return (← get).tree.read (← get).base path
  create path := change fun tree base => tree.write base path []
  write path content := change fun tree base => tree.write base path content
  makeDirectory path := change fun tree base => tree.makeDirectory base path
  filesBelow path := return (← get).tree.filesBelow (← get).base path
  readInput := return (← get).input
  writeOutput bytes := modify fun session => { session with output := session.output ++ bytes }
  terminal := return ⟨false⟩
  report text := modify fun session => { session with reports := session.reports ++ text }

end Session

end Recolour
