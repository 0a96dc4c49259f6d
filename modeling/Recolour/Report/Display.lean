import Recolour.Report
import Recolour.Terminal

/-!
# Showing reports

A report is shown to people as its diagnostics with a line that counts them.
-/

namespace Recolour.Report

/-- The line that sums a report up. -/
def verdict (r : Report) (t : Terminal) : String :=
  let errors := r.count .error
  let warnings := plural (r.count .warning) "warning" "warnings"
  if 0 < errors then
    t.statusLine .error "Failed" (plural errors "error" "errors" ++ ", " ++ warnings)
  else if 0 < r.count .warning then t.statusLine .warning "Checked" warnings
  else t.statusLine .success "Checked" "no problems found"

/-- The diagnostics of a report, then its verdict. -/
def display (r : Report) (t : Terminal) : String :=
  String.join (r.diagnostics.map fun d =>
    t.diagnostic d.severity.name d.code (d.severity == .error) d.location d.message d.help)
    ++ r.verdict t

end Recolour.Report
