import Recolour.Command.Basic
import Recolour.Lint
import Recolour.Report.Display
import Recolour.Report.Json

/-!
# Checking map files

`Check` lints map files without touching any image and shows one report on all of them.  It
fails when the report has errors.
-/

namespace Recolour.Command

/-- What a check is asked to do. -/
structure Check where
  /-- The paths of map files. -/
  files : List String
  /-- Write the report as JSON to the output instead of showing it. -/
  json : Bool

namespace Check

variable {m : Type → Type} [Host m]

/-- The report on map files, ordered by source and line. -/
def lint (files : List String) : ExceptT Error m Report := do
  let report ← files.foldlM
    (fun (sofar : Report) path => return sofar ++ (← Program.load path).lint) Report.empty
  return report.sort

/-- The refusal of a report with errors. -/
def verdict (report : Report) : Except Error Unit :=
  if report.has .error then
    .error (.validation (plural (report.count .error) "error" "errors" ++ " found") none)
  else .ok ()

/-- Carry out a check. -/
def execute (check : Check) : ExceptT Error m Unit := do
  let report ← lint check.files
  if check.json then (Host.writeOutput (Utf8.encode (report.json ++ "\n").toList) : m _)
  else say report.display
  settle (verdict report)

end Check

end Recolour.Command
