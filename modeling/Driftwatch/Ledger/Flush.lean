/-
Flushes: writing the batches of one object until none is left.

A flush takes the batch of its key, reads the object, folds the batch in and writes the object
back, and starts again if the write met a conflict; then it takes the next batch.

* `Flush.Stage`: where a flush stands between two steps.
* `Flush.afterTake`, `Flush.afterRead`, `Flush.afterWrite`, `Flush.afterPause`: the step that
  follows on each event, with what is logged.

The steps do not touch the table, the store or the clock; whoever runs a flush passes the
answers in.
-/
import Driftwatch.Ledger.Merge
import Driftwatch.Ledger.Request
import Driftwatch.Settings

namespace Driftwatch

/-- One of several attempts to write a batch. -/
structure Attempt where
  batch : Batch
  /-- The first attempt has the number one. -/
  number : Nat
  /-- The pause after this attempt, in seconds, before chance is added. -/
  pause : Float

/-- Where a flush stands between two steps. -/
inductive Flush.Stage
  /-- The next batch is to be taken. -/
  | draining
  /-- The object is to be read. -/
  | reading (attempt : Attempt)
  /-- The object is to be written. -/
  | writing (attempt : Attempt) (body : Json)
  /-- The flush is to wait before the next attempt. -/
  | pausing (attempt : Attempt)
  /-- No batch was left. -/
  | ended

/-- A flush for a key. -/
structure Flush where
  key : String
  target : Target
  stage : Flush.Stage

namespace Flush

/-- A flush that is about to take its first batch. -/
def start (request : Request) : Flush :=
  { key := request.key, target := request.target, stage := .draining }

/-- How many attempts a batch is worth: at least one. -/
def attempts (settings : Settings) : Nat :=
  (max 1 settings.attempts).toNat

/-! ### Log lines -/

/-- The log line about an object that is gone. -/
def goneNotice (key : String) : Log.Entry :=
  { level := .debug
    message := "Skipping annotation update for " ++ key ++ ": object no longer exists" }

/-- The log line about a batch that changes nothing. -/
def appliedNotice (key : String) : Log.Entry :=
  { level := .debug, message := "Annotation update for " ++ key ++ " already applied" }

/-- The log line about a batch that was written. -/
def recordedNotice (key : String) (batch : Batch) : Log.Entry :=
  { level := .debug, message := "Recorded " ++ batch.display ++ " on " ++ key }

/-- The log line about an attempt that met a conflict. -/
def conflictNotice (key : String) (number total : Nat) : Log.Entry :=
  { level := .warning
    message := "Conflict updating " ++ key ++ " (attempt " ++ toString number ++ "/" ++
      toString total ++ "), retrying" }

/-- The log line about a batch that is given up. -/
def failureNotice (key : String) : Log.Entry :=
  { level := .error, message := "Failed to update annotations on " ++ key }

/-! ### Steps -/

/-- The stage after the table was asked for a batch. -/
def afterTake (settings : Settings) : Option Batch → Stage
  | some batch => .reading { batch, number := 1, pause := settings.firstPause }
  | none => .ended

/-- The stage after an attempt failed: a conflict is met by another attempt as long as there are
any left; otherwise the batch is given up. -/
def afterFailure (settings : Settings) (key : String) (a : Attempt) (failure : Failure) :
    Stage × List Log.Entry :=
  if failure.isConflict ∧ a.number < attempts settings then
    (.pausing a, [conflictNotice key a.number (attempts settings)])
  else (.draining, [failureNotice key])

/-- The stage after the object was asked for. -/
def afterRead (settings : Settings) (key : String) (a : Attempt) :
    Except Failure (Option Json) → Stage × List Log.Entry
  | .error failure => afterFailure settings key a failure
  | .ok none => (.draining, [goneNotice key])
  | .ok (some current) =>
    match Merge.apply settings.maxFingerprints current a.batch with
    | .error failure => afterFailure settings key a failure
    | .ok none => (.draining, [appliedNotice key])
    | .ok (some body) => (.writing a body, [])

/-- The stage after the object was written back or not. -/
def afterWrite (settings : Settings) (key : String) (a : Attempt) :
    Except Failure Unit → Stage × List Log.Entry
  | .error failure => afterFailure settings key a failure
  | .ok () => (.draining, [recordedNotice key a.batch])

/-- The stage after the pause that follows an attempt. -/
def afterPause (settings : Settings) (a : Attempt) : Stage :=
  .reading { a with number := a.number + 1, pause := a.pause * settings.pauseFactor }

/-- How long the pause after an attempt is, in seconds; `chance` lies between zero and one. -/
def pauseLength (settings : Settings) (chance : Float) (a : Attempt) : Float :=
  a.pause * (1.0 + settings.jitter * chance)

end Flush

end Driftwatch
