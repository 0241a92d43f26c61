/-
Reports as lines of text.

* `Printed.lines`: the lines of a part of a report; the cells of a row are set apart by blanks.
-/
import Driftwatch.Report.Basic

namespace Driftwatch.Report

/-- A row of cells on one line. -/
def rowLine : List String → String
  | [] => ""
  | [cell] => cell
  | cell :: next :: rest => cell ++ "  " ++ rowLine (next :: rest)

/-- The lines of a part of a report. -/
def Printed.lines : Printed → List String
  | .json s | .text s => Text.split '\n' s
  | .panel title rows => title :: rows.map rowLine
  | .table t => t.title :: rowLine t.headers :: t.rows.map rowLine

end Driftwatch.Report
