/-
The workers that carry out delayed flushes.

* `Workers`: every worker that was created, with its status, and the list of those that someone
  who waits has to wait for.
* `Workers.create`, `Workers.start`, `Workers.finish`: the life of a worker.
* `Workers.enlist`, `Workers.settle`: the two operations on the list; each of them is atomic and
  drops the workers that are not running.
-/

namespace Driftwatch

/-- How far a worker has come. -/
inductive Workers.Status
  | created
  | running
  | ended
  deriving DecidableEq

/-- The workers, numbered in the order in which they were created. -/
structure Workers where
  statuses : List Workers.Status
  /-- The numbers of the workers that are waited for. -/
  listed : List Nat
  deriving DecidableEq

namespace Workers

/-- No workers. -/
def empty : Workers := { statuses := [], listed := [] }

/-- A worker runs from its start to its end. -/
def isRunning (w : Workers) (number : Nat) : Bool :=
  w.statuses[number]? == some .running

/-- One more worker; the answer is its number. -/
def create (w : Workers) : Nat × Workers :=
  (w.statuses.length, { w with statuses := w.statuses ++ [.created] })

/-- A worker starts. -/
def start (w : Workers) (number : Nat) : Workers :=
  { w with statuses := w.statuses.set number .running }

/-- A worker comes to its end. -/
def finish (w : Workers) (number : Nat) : Workers :=
  { w with statuses := w.statuses.set number .ended }

/-- The list with one more worker and without those that are not running. -/
def enlist (w : Workers) (number : Nat) : Workers :=
  { w with listed := w.listed.filter w.isRunning ++ [number] }

/-- The list without the workers that are not running; the answer tells whether it is empty. -/
def settle (w : Workers) : Bool × Workers :=
  let listed := w.listed.filter w.isRunning
  (listed.isEmpty, { w with listed })

end Workers

end Driftwatch
