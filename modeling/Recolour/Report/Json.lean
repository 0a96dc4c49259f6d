import Recolour.Report
import Recolour.Text.Json

/-!
# Reports as JSON

A report is written for machines as an object that lists the diagnostics.
-/

namespace Recolour

/-- The object of a diagnostic. A hint that is missing has no field. -/
def Diagnostic.json (level : Nat) (d : Diagnostic) : String :=
  Json.object level (
    [("severity", Json.string d.severity.name), ("code", Json.string d.code),
      ("message", Json.string d.message)]
    ++ (d.help.map fun help => ("help", Json.string help)).toList
    ++ [("source", Json.string d.source), ("line", toString d.line)])

/-- The object of a report. -/
def Report.json (r : Report) : String :=
  Json.object 0 [("diagnostics", Json.list 1 (r.diagnostics.map (Diagnostic.json 2)))]

end Recolour
