/-!
# Reports

A report lists diagnostics about the lines of programs.  `Report.sort` orders them by source
and line and leaves those of one line in the order they were found.
-/

namespace Recolour

/-- How bad a diagnostic is. -/
inductive Severity where
  | warning
  | error
  deriving DecidableEq

/-- The name of a severity. -/
def Severity.name : Severity → String
  | .warning => "warning"
  | .error => "error"

/-- A remark about a line of a program. -/
structure Diagnostic where
  severity : Severity
  /-- The kind of remark, for machines. -/
  code : String
  message : String
  /-- A hint for mending the line. -/
  help : Option String
  source : String
  /-- The place of the line in its source, from 1. -/
  line : Nat
  deriving DecidableEq

namespace Diagnostic

/-- The place a diagnostic is about. -/
def location (d : Diagnostic) : String :=
  d.source ++ ":" ++ toString d.line

/-- The first diagnostic comes before the second or is about the same line: sources are
ordered by code points, lines of one source by number. -/
def before (d e : Diagnostic) : Bool :=
  d.source < e.source || (d.source == e.source && d.line ≤ e.line)

end Diagnostic

/-- A list of diagnostics. -/
structure Report where
  diagnostics : List Diagnostic
  deriving DecidableEq

namespace Report

/-- The report without diagnostics. -/
def empty : Report := ⟨[]⟩

/-- The diagnostics of one report, then those of another. -/
def append (r s : Report) : Report := ⟨r.diagnostics ++ s.diagnostics⟩

instance : Append Report := ⟨append⟩

/-- The report ordered by source and line. The sort is stable. -/
def sort (r : Report) : Report := ⟨r.diagnostics.mergeSort Diagnostic.before⟩

/-- The number of diagnostics of a severity. -/
def count (r : Report) (severity : Severity) : Nat :=
  r.diagnostics.countP (·.severity == severity)

/-- Some diagnostic has the severity. -/
def has (r : Report) (severity : Severity) : Bool :=
  r.diagnostics.any (·.severity == severity)

/-- There are no diagnostics. -/
def isEmpty (r : Report) : Bool := r.diagnostics.isEmpty

end Report

end Recolour
