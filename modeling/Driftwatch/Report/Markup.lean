/-
Texts with markup for the terminal.

* `markup`: a text in a style.
* `markedPhase`, `markedVerdict`, `markedStatus`: phases, verdicts and condition statuses in
  their colours.
-/
import Driftwatch.Decision

namespace Driftwatch.Report

/-- A text in a style, which may be a colour, a weight or both. -/
def markup (style text : String) : String :=
  let closing := "[/" ++ style ++ "]"
  "[" ++ style ++ "]" ++ text ++ closing

/-- A dimmed text, for what is not there. -/
def dim (text : String) : String :=
  markup "dim" text

/-- A text, or a dimmed one if it is empty. -/
def orDim (text missing : String) : String :=
  if text = "" then dim missing else text

/-- The colour of a phase. -/
def phaseColour : Phase → String
  | .initializing => "yellow"
  | .initialized => "green"
  | .deleting => "magenta"

/-- A phase in its colour. -/
def markedPhase : Option Phase → String
  | some p => markup (phaseColour p) p.name
  | none => dim "-"

/-- A verdict in its colour. -/
def markedVerdict (allowed isDrift : Bool) : String :=
  if !allowed then markup "red bold" "denied"
  else if isDrift then markup "yellow" "drift (allowed)"
  else markup "green" "allowed"

/-- The status of a condition in its colour. -/
def markedStatus (status : String) : String :=
  let colour := if status = "True" then "green" else if status = "False" then "red" else "yellow"
  markup colour status

end Driftwatch.Report
