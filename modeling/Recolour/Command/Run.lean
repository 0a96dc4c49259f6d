import Recolour.Command.Basic
import Recolour.Execution
import Recolour.Format.Builtin

/-!
# Running programs on images

`Run` puts a program together and runs it on one image, from a file or from the input, or on
every image below a directory.  A single image goes to a file or to the output, and a
directory into another one with the same names below it.  The format of a single image is
that of `--format`, else that of the extension of its file, else that of the settings; an
image of a directory keeps its format unless `--format` names another, which then gives it
its extension too.
-/

namespace Recolour.Command

/-- What a run is asked to do. -/
structure Run where
  /-- The path of an image or a directory; the input if there is none. -/
  input : Option String
  recipe : Recipe
  /-- The path to write to; the output if there is none. -/
  output : Option String
  /-- The name of the format to write. -/
  format : Option String
  /-- Encoder options over those of the settings. -/
  options : Option String
  /-- Paint single pixels even if the settings ask for rows. -/
  sequential : Bool
  /-- The path of the settings. -/
  settings : Option String

/-- A program with all that is needed to run it on images. -/
structure Job where
  library : Library
  program : Program
  byRows : Bool
  registry : Registry
  options : EncoderOptions

variable {m : Type → Type} [Host m]

/-! ### Writing files -/

/-- Make the directory at the first path of a list of ancestors, and before it those above
that are missing. -/
def makeDirectories : List String → m (Except Refusal Unit)
  | [] => return .error (.other "failed to create whole tree")
  | path :: above => do
    if path.isEmpty then return .ok ()
    else
      match ← Host.makeDirectory path with
      | .ok () => return .ok ()
      | .error .missing =>
        match ← makeDirectories above with
        | .error refusal => return .error refusal
        | .ok () => settleFor path (← Host.makeDirectory path)
      | .error refusal => settleFor path (.error refusal)
where
  /-- The answer of making a directory, which is good too if the directory is there. -/
  settleFor (path : String) : Except Refusal Unit → m (Except Refusal Unit)
    | .ok () => return .ok ()
    | .error refusal => do
      if (← Host.kind? path) == some .directory then return .ok () else return .error refusal

/-- The work that messages name when an image cannot be written. -/
def writing : String := "Failed to write image"

/-- Empty the file at a path and have an encoder write it. What the encoder writes is in the file
even if it stops before the end. -/
def fillFile (path : String) (written : Written Error) : ExceptT Error m Unit := do
  attempt writing path (Host.create path)
  let answer ← (Host.write path written.bytes : m _)
  -- the error of the encoder counts, whatever became of its bytes
  settle written.outcome
  attempt writing path (pure answer)

/-- Write an image to the file at a path, in a directory that is made if it is missing. -/
def writeImage (path : String) (format : Format) (options : EncoderOptions) (image : Image) :
    ExceptT Error m Unit := do
  match Path.parent? path with
  | some parent => attempt writing path (makeDirectories (Path.ancestors parent))
  | none => pure ()
  fillFile path (format.encode options image)

/-! ### Images -/

/-- The image in the file at a path. -/
def readImage (library : Library) (path : String) : ExceptT Error m Image := do
  let doing := "Failed to decode image"
  let bytes ← attempt doing path (Host.read path)
  match library.readFile path bytes with
  | .ok image => return image
  | .error detail => throw (.file path (doing ++ ": " ++ detail))

namespace Job

/-- Run the program on an image and write what comes out. -/
def paint (job : Job) (image : Image) (label : String) (format : Format)
    (output : Option String) : ExceptT Error m Unit := do
  say (·.statusLine .success "Mapping"
    (label ++ " (" ++ toString image.width ++ "x" ++ toString image.height ++ ")"))
  let execution ← settle (job.program.run job.byRows image)
  match output with
  | some path =>
    writeImage path format job.options execution.image
    let target ← shown path
    say (·.statusLine .success "Wrote" (target ++ " (" ++ format.name ++ ", "
      ++ plural execution.applied "expression" "expressions" ++ ")"))
  | none =>
    let written := format.encode job.options execution.image
    (Host.writeOutput written.bytes : m _)
    settle written.outcome

/-- The path of a file below a directory, given by the names that lead there. -/
def pathBelow (directory : String) (names : List String) : String :=
  names.foldl Path.join directory

/-- The files with the extension of a format, each with that format. -/
def images (registry : Registry) (files : List (List String)) : List (List String × Format) :=
  files.filterMap fun names => (registry.forPath? (pathBelow "" names)).map (names, ·)

/-- The path that an image below a directory is written to. -/
def target (directory : String) (format : Option Format) (names : List String) : String :=
  let path := pathBelow directory names
  match format.bind (·.extensions.head?) with
  | some extension => Path.withExtension path extension
  | none => path

/-- Run the program on one image of a directory. -/
def paintFile (job : Job) (directory output : String) (format : Option Format)
    (file : List String × Format) : ExceptT Error m Unit := do
  let path := pathBelow directory file.1
  let image ← readImage job.library path
  job.paint image (← shown path) (format.getD file.2) (some (target output format file.1))

/-- Run the program on every image below a directory, and give their number. -/
def paintDirectory (job : Job) (directory output : String) (format : Option Format) :
    ExceptT Error m Nat := do
  let files ← attempt "Failed to walk directory" directory (Host.filesBelow directory)
  let files := images job.registry files
  if files.isEmpty then
    let place ← shown directory
    say (·.statusLine .warning "Empty" ("no images found in " ++ place))
  files.forM (job.paintFile directory output format)
  return files.length

end Job

/-! ### Runs -/

/-- Report the rejected lines of a program and the number of skipped ones. -/
def reportLines (program : Program) : ExceptT Error m Unit := do
  program.lines.forM fun line =>
    match line.error? with
    | some error =>
      say (·.diagnostic "warning" error.code false line.location error.message error.help)
    | none => pure ()
  let skipped := program.lines.countP Line.isSkipped
  if 0 < skipped then
    say (·.statusLine .warning "Skipping" (plural skipped "line" "lines" ++ " without 8 tokens"))

/-- The refusal of a program without lines. -/
def emptyProgram : Error :=
  .validation "no expressions to apply"
    (some "Pass --map, --expr, --from/--to, --preset or --brightness")

namespace Run

/-- The format for a single image. -/
def singleFormat (run : Run) (settings : Settings) (registry : Registry) : Except Error Format :=
  match run.format, run.output.bind registry.forPath? with
  | some name, _ => registry.get name
  | none, some format => .ok format
  | none, none => registry.get settings.format

/-- Run the program on a directory. -/
def executeDirectory (run : Run) (job : Job) (input : String) : ExceptT Error m Unit := do
  match run.output with
  | none =>
    throw (.validation ((← shown input) ++ " is a directory")
      (some "Pass --output with a directory to write into"))
  | some output =>
    let format ← settle (run.format.mapM job.registry.get)
    let count ← job.paintDirectory input output format
    say (·.statusLine .success "Finished" (plural count "image" "images"))

/-- The job of a run with its settings and its program. -/
def job (run : Run) (library : Library) (settings : Settings) (program : Program) : Job where
  library
  program
  byRows := settings.byRows && !run.sequential
  registry := .builtin library
  options :=
    match run.options with
    | some text => settings.encoderOptions.merge (EncoderOptions.parse text)
    | none => settings.encoderOptions

/-- Carry out what is left of a run when its settings and its program are found. -/
def carryOut (library : Library) (run : Run) (settings : Settings) (program : Program) :
    ExceptT Error m Unit := do
  let job := run.job library settings program
  match run.input with
  | some input =>
    if ← isKind .directory input then run.executeDirectory job input
    else
      let image ← readImage library input
      let format ← settle (run.singleFormat settings job.registry)
      job.paint image (← shown input) format run.output
  | none =>
    let bytes ← (Host.readInput : m _)
    let image ← settle (Image.decode library bytes)
    let format ← settle (run.singleFormat settings job.registry)
    job.paint image "<stdin>" format run.output

/-- Carry out a run under settings. -/
def executeUnder (library : Library) (run : Run) (settings : Settings) : ExceptT Error m Unit := do
  settings.shadowed.forM fun name =>
    say (·.statusLine .warning "Ignoring"
      ("preset `" ++ name ++ "` in " ++ Settings.fileName ++ " (a builtin has that name)"))
  let program ← run.recipe.program settings
  if program.lines.isEmpty then throw emptyProgram
  reportLines program
  run.carryOut library settings program

/-- Carry out a run. -/
def execute (library : Library) (run : Run) : ExceptT Error m Unit := do
  run.executeUnder library (← Settings.discover library run.settings)

end Run

end Recolour.Command
