import Retrial.Storage.Basic
import Retrial.Text.Field
import Retrial.Text.Lowercase

/-!
# Exported executions

An execution can be written to any path, as a record or as a table with one line per result.
-/

namespace Retrial

open Text

/-- What an execution is exported as. -/
inductive ExportFormat
  | json
  | csv
deriving DecidableEq, Repr

namespace ExportFormat

/-- The format of a name, in either case of letters. -/
def ofName? (s : String) : Option ExportFormat :=
  let s := lowercaseString s
  if s == "json" then some json else if s == "csv" then some csv else none

/-- The format that a path's extension stands for. -/
def ofPath? (p : Path) : Option ExportFormat := p.extension?.bind ofName?

end ExportFormat

namespace Execution

/-- The header of an exported table. -/
def exportHeader : List String :=
  ["execution_id", "test_id", "status", "attempts", "duration_ms", "healed", "healing_applied",
    "error"]

/-- A truth value in a table. -/
def boolText (b : Bool) : String := if b then "true" else "false"

/-- The line of a result in an exported table. -/
def exportRow (id : String) (r : Result) : List String :=
  [id, r.testId, r.status.name, toString r.attempts, toString r.durationMs, boolText r.healed,
    r.healingApplied.getD "", r.errorMessage.getD ""]

/-- The text an execution is exported as. -/
def exportText (e : Execution) : ExportFormat → String
  | .json => codec.prettyText e
  | .csv =>
    Csv.exportLine exportHeader
      ++ String.join (e.results.map fun r => Csv.exportLine (exportRow e.id r))

/-- Writes an execution to a path. -/
def exportTo (e : Execution) (p : Path) (format : ExportFormat) (d : Disk) : Outcome Unit × Disk :=
  let (r, d) := d.write p (glyphs (e.exportText format))
  (Problem.ofDisk r, d)

end Execution

end Retrial
