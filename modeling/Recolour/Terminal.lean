/-!
# Terminal text

Status lines start with a verb, right-aligned in a column of twelve characters and coloured
by its tone when the terminal shows colours.  All colouring is by escape sequences that are
left out on a plain terminal.
-/

namespace Recolour

/-- The number of something, in the singular for one of it. -/
def plural (n : Nat) (singular plural : String) : String :=
  toString n ++ " " ++ if n = 1 then singular else plural

/-- What a status line is about. -/
inductive Tone where
  | success
  | info
  | warning
  | error
  deriving DecidableEq

/-- The escape sequence of the colour of a tone. -/
def Tone.color : Tone → String
  | .success => "\x1b[32m"
  | .info => "\x1b[36m"
  | .warning => "\x1b[33m"
  | .error => "\x1b[31m"

/-- A terminal, which may show colours. -/
structure Terminal where
  colored : Bool

namespace Terminal

/-- The escape sequence that ends all styles. -/
def reset : String := "\x1b[0m"

/-- The escape sequence of bold text. -/
def boldStyle : String := "\x1b[1m"

/-- The escape sequence of dim text. -/
def dimStyle : String := "\x1b[2m"

/-- A text in a style. -/
def paint (t : Terminal) (style text : String) : String :=
  if t.colored then style ++ text ++ reset else text

/-- A dim text. -/
def dim (t : Terminal) (text : String) : String := t.paint dimStyle text

/-- A bold text. -/
def bold (t : Terminal) (text : String) : String := t.paint boldStyle text

/-- A text in cyan. -/
def cyan (t : Terminal) (text : String) : String := t.paint Tone.info.color text

/-- The label of a diagnostic. -/
def severity (t : Terminal) (label : String) (isError : Bool) : String :=
  t.paint (boldStyle ++ (if isError then Tone.error else Tone.warning).color) label

/-- The width of the verb column. -/
def verbWidth : Nat := 12

/-- A text right-aligned in the verb column. -/
def alignVerb (verb : String) : String :=
  String.ofList (List.replicate (verbWidth - verb.length) ' ') ++ verb

/-- A status line. -/
def statusLine (t : Terminal) (tone : Tone) (verb message : String) : String :=
  t.paint (boldStyle ++ tone.color) (alignVerb verb) ++ " " ++ message ++ "\n"

/-- A line under a status line, with nothing in the verb column. -/
def detailLine (t : Terminal) (text : String) : String :=
  alignVerb "" ++ " " ++ t.dim text ++ "\n"

/-- A diagnostic with its place, and its hint on a line of its own. -/
def diagnostic (t : Terminal) (severity code : String) (isError : Bool)
    (location message : String) (help : Option String) : String :=
  t.severity (severity ++ "[" ++ code ++ "]") isError ++ ": " ++ location ++ ": " ++ message ++ "\n"
    ++ match help with
      | some help => "    " ++ t.dim "help:" ++ " " ++ help ++ "\n"
      | none => ""

end Terminal

end Recolour
