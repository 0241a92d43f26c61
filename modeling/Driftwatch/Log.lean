/-
Log entries.

* `Log.Level`: how much an entry matters.
* `Log.Entry`: a level with a message.
-/

namespace Driftwatch.Log

/-- How much a log entry matters. -/
inductive Level
  | debug
  | warning
  | error
  deriving DecidableEq

/-- The name of a level. -/
def Level.name : Level → String
  | .debug => "DEBUG"
  | .warning => "WARNING"
  | .error => "ERROR"

/-- A log entry. -/
structure Entry where
  level : Level
  message : String
  deriving DecidableEq

end Driftwatch.Log
