import Recolour.Plain.Yaml
import Recolour.Settings

/-!
# Settings of a document

A document gives settings by up to four known keys; other keys are ignored.
-/

namespace Recolour.Plain.Yaml

/-- The truth value a part of a document stands for. Only unquoted words do. -/
def truth? : Yaml → Option Bool
  | .scalar false text =>
    if ["true", "True", "TRUE"].contains text then some true
    else if ["false", "False", "FALSE"].contains text then some false
    else none
  | _ => none

/-- The texts in a list, which is empty when it is missing. -/
def texts? (document : Yaml) : Option (List String) :=
  match document with
  | .sequence items => items.mapM text?
  | other => if other.isMissing then some [] else none

/-- The declared presets with one more, which takes the place of any of its name. -/
def declare? (presets : Std.ExtTreeMap String (List String)) (pair : Yaml × Yaml) :
    Option (Std.ExtTreeMap String (List String)) := do
  return presets.insert (← pair.1.text?) (← texts? pair.2)

/-- The declared presets in a table, of which there are none when it is missing. -/
def presets? (document : Yaml) : Option (Std.ExtTreeMap String (List String)) :=
  match document with
  | .mapping pairs => pairs.foldlM declare? ∅
  | other => if other.isMissing then some ∅ else none

/-- The known keys, in the order in which a list gives their values. -/
def keys : List String := ["format", "options", "parallel", "presets"]

/-- The keys and values of a document. A list gives the values of the known keys in order. -/
def entries? (document : Yaml) : Option (List (String × Yaml)) :=
  match document with
  | .mapping pairs => pairs.mapM fun (key, value) => key.text?.map (·, value)
  | .sequence items => if items.length ≤ keys.length then some (keys.zip items) else none
  | other => if other.isMissing then some [] else none

/-- The value of a key that stands there at most once. -/
def value? {α : Type} (entries : List (String × Yaml)) (key : String) (absent : α)
    (read : Yaml → Option α) : Option α :=
  match entries.filter (·.1 == key) with
  | [] => some absent
  | [(_, value)] => read value
  | _ => none

/-- The settings a document stands for. -/
def settings? (document : Yaml) : Option Settings := do
  let entries ← entries? document
  return {
    format := ← value? entries "format" Settings.default.format text?
    options := ← value? entries "options" Settings.default.options text?
    byRows := ← value? entries "parallel" Settings.default.byRows truth?
    presets := ← value? entries "presets" Settings.default.presets presets? }

end Recolour.Plain.Yaml
