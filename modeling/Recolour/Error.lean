/-!
# Errors

An `Error` is the cause for which an operation gives up.  `Error.message` is its full
wording, `Error.code` the code under which reports file it and `Error.help` a hint for
mending it, which only unreadable and illegal rules carry.
-/

namespace Recolour

/-- The cause for which an operation gives up. -/
inductive Error where
  /-- A stream could not be read. -/
  | stream (detail : String)
  /-- The file at `path` could not be read or written. -/
  | file (path detail : String)
  /-- A text could not be read. -/
  | parse (detail : String) (help : Option String)
  /-- A text was read, but what it asks for is not allowed. -/
  | validation (detail : String) (help : Option String)
  /-- No image format has the name. -/
  | unsupportedFormat (name : String)
  /-- An image could not be encoded or decoded. -/
  | image (detail : String)
  /-- An expression could not be applied to an image. -/
  | apply (detail : String)
  deriving DecidableEq

namespace Error

/-- The full wording of an error: what kind of work failed, then the detail. -/
def message : Error → String
  | .stream detail => "IO error: " ++ detail
  | .file path detail => "IO error with " ++ path ++ ": " ++ detail
  | .parse detail _ => "Parse error: " ++ detail
  | .validation detail _ => "Validation error: " ++ detail
  | .unsupportedFormat name => "Unsupported image format: " ++ name
  | .image detail => "Image error: " ++ detail
  | .apply detail => "Apply error: " ++ detail

/-- The code under which reports file an error. -/
def code : Error → String
  | .stream _ | .file .. => "imgmap::io"
  | .parse .. => "imgmap::parse"
  | .validation .. => "imgmap::validate"
  | .unsupportedFormat _ => "imgmap::format"
  | .image _ => "imgmap::image"
  | .apply _ => "imgmap::apply"

/-- The hint for mending an error, if it has one. -/
def help : Error → Option String
  | .parse _ help | .validation _ help => help
  | _ => none

/-- The wording of an error inside a report, where the code already tells its kind. -/
def summary : Error → String
  | .parse detail _ | .validation detail _ => detail
  | e => e.message

/-- An error about a rule, placed in the part of the input where the rule stands. Other
errors already name their place. -/
def within (place : String) : Error → Error
  | .parse detail help => .parse (place ++ ": " ++ detail) help
  | .validation detail help => .validation (place ++ ": " ++ detail) help
  | e => e

end Error

end Recolour
