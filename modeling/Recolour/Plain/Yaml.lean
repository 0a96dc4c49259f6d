/-!
# Settings documents

A document is a tree of texts, lists and tables.  A text remembers whether it was quoted,
since only an unquoted one may stand for something else than text.  A missing value is the
unquoted empty text.
-/

namespace Recolour.Plain

/-- A document or a part of one. -/
inductive Yaml where
  /-- A text. -/
  | scalar (quoted : Bool) (text : String)
  /-- A list of parts. -/
  | sequence (items : List Yaml)
  /-- A table of keys and values in the order they were written. A key may repeat. -/
  | mapping (pairs : List (Yaml × Yaml))

namespace Yaml

/-- The value that is not there. -/
def missing : Yaml := .scalar false ""

/-- The part is not there. -/
def isMissing : Yaml → Bool
  | .scalar quoted text => !quoted && text.isEmpty
  | _ => false

/-- The text a part is. -/
def text? : Yaml → Option String
  | .scalar _ text => some text
  | _ => none

end Yaml

end Recolour.Plain
