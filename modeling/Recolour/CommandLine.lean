import Recolour.Command

/-!
# Command lines

A command line is the name of a command and its arguments.  An argument that starts with a
dash is an option, by its whole name after two dashes or by one letter after one; the others
fill the places of the command in order, and after two dashes alone all the rest do.  The
value of an option follows it, or is attached to it.  `parse` reads a whole command line, and
a `Usage` is the reason for which it does not.
-/

namespace Recolour.CommandLine

/-- The reason for which a command line stands for no command. -/
inductive Usage where
  /-- There is nothing on it. -/
  | empty
  /-- It asks for help. -/
  | help
  /-- It asks for the version. -/
  | version
  /-- There is no command of the name. -/
  | unknownCommand
  /-- There is no such option, or no place for an argument. -/
  | unknownArgument
  /-- An option has no value, or none it can take. -/
  | invalidValue
  /-- An option that takes no value has one. -/
  | tooManyValues
  /-- An argument that must be there is missing. -/
  | missingArgument
  /-- An option that may be given once is given again. -/
  | conflict
  deriving DecidableEq

/-! ### Options -/

/-- What may follow an option. -/
inductive Value where
  /-- Nothing. -/
  | none
  /-- Any text. -/
  | text
  /-- A text with at least one character. -/
  | path
  deriving DecidableEq

/-- An option of a command. -/
structure Switch where
  /-- The name after two dashes. -/
  name : String
  /-- The letter after one dash. -/
  letter : Option Char
  value : Value
  /-- The argument after the option is its value even if it starts with a dash. -/
  hyphens : Bool
  /-- The option may be given several times. -/
  repeats : Bool
  deriving DecidableEq

namespace Switch

/-- The option that asks for help, which every command has. -/
def help : Switch := ⟨"help", some 'h', .none, false, false⟩

/-- The value of an option, if it can take it. -/
def accept (switch : Switch) (value : String) : Except Usage String :=
  if switch.value == .path && value.isEmpty then .error .invalidValue else .ok value

end Switch

/-- The arguments of a command as they are read. -/
structure Reading where
  /-- The options so far, each with its value. -/
  options : List (Switch × String)
  /-- The arguments so far that are no options. -/
  places : List String
  /-- An option that waits for its value. -/
  waiting : Option Switch
  /-- All further arguments are no options. -/
  onlyPlaces : Bool

namespace Reading

/-- The reading before the first argument. -/
def start : Reading := ⟨[], [], none, false⟩

/-- The reading with one more option. -/
def record (reading : Reading) (switch : Switch) (value : String) : Except Usage Reading := do
  if switch == .help then throw .help
  if !switch.repeats && reading.options.any (·.1 == switch) then throw .conflict
  let value ← switch.accept value
  return { reading with options := reading.options ++ [(switch, value)], waiting := none }

/-- The reading with an option by its whole name, perhaps with a value attached. -/
def addName (switches : List Switch) (reading : Reading) (name : String)
    (attached : Option String) : Except Usage Reading :=
  match switches.find? (·.name == name), attached with
  | none, _ => .error .unknownArgument
  | some switch, some value =>
    if switch.value == .none then .error .tooManyValues
    else if reading.waiting.isSome then .error .invalidValue
    else reading.record switch value
  | some switch, none =>
    if reading.waiting.isSome then .error .invalidValue
    else if switch.value == .none then reading.record switch ""
    else .ok { reading with waiting := some switch }

/-- The reading with options by their letters. What follows the letter of an option with a
value is that value. -/
def addLetters (switches : List Switch) (reading : Reading) : List Char → Except Usage Reading
  | [] => .ok reading
  | letter :: rest =>
    match switches.find? (·.letter == some letter) with
    | none => .error .unknownArgument
    | some switch =>
      if reading.waiting.isSome then .error .invalidValue
      else if switch.value == .none then do addLetters switches (← reading.record switch "") rest
      else match rest with
        | [] => .ok { reading with waiting := some switch }
        | '=' :: value => reading.record switch (String.ofList value)
        | value => reading.record switch (String.ofList value)

/-- The reading with an argument that is no option. -/
def addPlace (limit : Option Nat) (reading : Reading) (argument : String) : Except Usage Reading :=
  if reading.waiting.isSome then .error .invalidValue
  else if limit.any (· ≤ reading.places.length) then .error .unknownArgument
  else if argument.isEmpty then .error .invalidValue
  else .ok { reading with places := reading.places ++ [argument] }

/-- The reading with one more argument. -/
def add (switches : List Switch) (limit : Option Nat) (reading : Reading) (argument : String) :
    Except Usage Reading :=
  if reading.onlyPlaces then reading.addPlace limit argument
  else
    match reading.waiting.filter (·.hyphens), argument.toList with
    | some switch, _ => reading.record switch argument
    | none, ['-', '-'] => .ok { reading with onlyPlaces := true }
    | none, '-' :: '-' :: rest =>
      match rest.span (· != '=') with
      | (name, []) => reading.addName switches (String.ofList name) none
      | (name, _ :: value) => reading.addName switches (String.ofList name) (some (String.ofList value))
    | none, '-' :: letter :: rest => reading.addLetters switches (letter :: rest)
    | none, _ =>
      match reading.waiting with
      | some switch => reading.record switch argument
      | none => reading.addPlace limit argument

/-- The arguments of a command with the given options and number of places. -/
def ofArguments (switches : List Switch) (limit : Option Nat) (arguments : List String) :
    Except Usage Reading := do
  let reading ← arguments.foldlM (add (.help :: switches) limit) start
  if reading.waiting.isSome then throw .invalidValue
  return reading

/-- All values of an option, in order. -/
def values (reading : Reading) (switch : Switch) : List String :=
  (reading.options.filter (·.1 == switch)).map (·.2)

/-- The value of an option that is given at most once. -/
def value? (reading : Reading) (switch : Switch) : Option String :=
  (reading.values switch).head?

/-- The option is given. -/
def has (reading : Reading) (switch : Switch) : Bool :=
  (reading.value? switch).isSome

end Reading

/-! ### Commands -/

namespace Switch

def map : Switch := ⟨"map", some 'm', .path, false, true⟩

def line : Switch := ⟨"expr", some 'e', .text, true, true⟩

def filter : Switch := ⟨"from", none, .text, true, false⟩

def formula : Switch := ⟨"to", none, .text, true, false⟩

def preset : Switch := ⟨"preset", some 'p', .text, false, true⟩

def brightness : Switch := ⟨"brightness", none, .text, true, false⟩

def output : Switch := ⟨"output", some 'o', .path, false, false⟩

def format : Switch := ⟨"format", some 'f', .text, false, false⟩

def options : Switch := ⟨"options", none, .text, false, false⟩

def sequential : Switch := ⟨"sequential", none, .none, false, false⟩

def settings : Switch := ⟨"config", none, .path, false, false⟩

def json : Switch := ⟨"json", none, .none, false, false⟩

def verbose : Switch := ⟨"verbose", some 'v', .none, false, false⟩

def force : Switch := ⟨"force", none, .none, false, false⟩

/-- The options of a run. -/
def ofRun : List Switch :=
  [map, line, filter, formula, preset, brightness, output, format, options, sequential, settings]

end Switch

/-- The run that arguments ask for. A match rule and a produce rule need each other. -/
def run (arguments : List String) : Except Usage Command := do
  let reading ← Reading.ofArguments Switch.ofRun (some 1) arguments
  let pair ← match reading.value? .filter, reading.value? .formula with
    | some filter, some formula => pure (some (filter, formula))
    | none, none => pure none
    | _, _ => throw .missingArgument
  return .run {
    input := reading.places.head?
    recipe := {
      presets := reading.values .preset
      brightness := reading.value? .brightness
      maps := reading.values .map
      lines := reading.values .line
      pair }
    output := reading.value? .output
    format := reading.value? .format
    options := reading.value? .options
    sequential := reading.has .sequential
    settings := reading.value? .settings }

/-- The check that arguments ask for. -/
def check (arguments : List String) : Except Usage Command := do
  let reading ← Reading.ofArguments [.json] none arguments
  if reading.places.isEmpty then throw .missingArgument
  return .check ⟨reading.places, reading.has .json⟩

/-- The listing of presets that arguments ask for. -/
def presets (arguments : List String) : Except Usage Command := do
  let reading ← Reading.ofArguments [.verbose, .settings] (some 0) arguments
  return .presets ⟨reading.has .verbose, reading.value? .settings⟩

/-- The listing of formats that arguments ask for. -/
def formats (arguments : List String) : Except Usage Command := do
  let _ ← Reading.ofArguments [] (some 0) arguments
  return .formats

/-- The start of settings that arguments ask for. -/
def init (arguments : List String) : Except Usage Command := do
  let reading ← Reading.ofArguments [.force] (some 1) arguments
  return .init ⟨reading.places.head?.getD ".", reading.has .force⟩

/-- The shell completions that arguments ask for. -/
def completions (arguments : List String) : Except Usage Command := do
  let reading ← Reading.ofArguments [] (some 1) arguments
  match reading.places.head? with
  | none => throw .missingArgument
  | some name =>
    match Command.Shell.ofName? name with
    | some shell => return .completions shell
    | none => throw .invalidValue

/-- The readers of the arguments of all commands, by name. -/
def readers : List (String × (List String → Except Usage Command)) := [
  ("run", run), ("check", check), ("presets", presets), ("formats", formats), ("init", init),
  ("completions", completions)]

/-- The answer to a request for help on a command, given by name. -/
def helpOn (names : List String) : Usage :=
  match names with
  | [] => .help
  | [name] => if name == "help" || (readers.lookup name).isSome then .help else .unknownCommand
  | _ => .unknownCommand

/-- The options that stand before any command. -/
def general : List (Switch × Usage) :=
  [(.help, .help), (⟨"version", some 'V', .none, false, false⟩, .version)]

/-- The reason for which a command line that starts with an option stands for no command. -/
def leading (argument : List Char) : Usage :=
  match argument with
  | '-' :: name =>
    match general.find? fun entry => entry.1.name.toList == name.takeWhile (· != '=') with
    | some (_, usage) => if name.contains '=' then .tooManyValues else usage
    | none => .unknownArgument
  | letter :: _ =>
    match general.find? fun entry => entry.1.letter == some letter with
    | some (_, usage) => usage
    | none => .unknownArgument
  | [] => .unknownCommand

/-- The command that a command line stands for. -/
def parse : List String → Except Usage Command
  | [] => .error .empty
  | name :: arguments =>
    match name.toList with
    | ['-', '-'] => .error (if arguments.isEmpty then .empty else .unknownCommand)
    | '-' :: rest => .error (leading rest)
    | _ =>
      if name == "help" then .error (helpOn arguments)
      else match readers.lookup name with
        | some reader => reader arguments
        | none => .error .unknownCommand

end Recolour.CommandLine
