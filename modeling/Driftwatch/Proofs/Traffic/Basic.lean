/-
Traffic on ledgers: any number of threads report on objects and carry out flushes at the same
time, one step after the other in any order.

* `Report`: what is reported on an object, and the request that it leads to.
* `Frame`: a flush that is under way in a thread.
* `State`: the tables of any number of ledgers, and for each thread the flushes that are under
  way in it.
* `Step`: one step of one thread.  Each operation on a table is one step, and so is each call of
  the server, whose answer is left open.  While a call is under way its thread may go on to
  report, and to flush, before the call is answered.
* `Run`: any number of steps, with what was done in them.
-/
import Driftwatch.Ledger.Flush
import Mathlib.Data.List.Induction
import Mathlib.Logic.Function.Basic

namespace Driftwatch.Traffic

/-! ### Reports -/

/-- What is reported on an object. -/
inductive Report
  /-- An actor updates the status of the object. -/
  | controller (actor : String)
  /-- The object reaches a phase. -/
  | phase (phase : String)

/-- What a report on an object asks for.  Nothing can be reported on what is no object. -/
def Report.request (obj : Json) (report : Report) : Option Request :=
  if obj.isObject then
    match report with
    | .controller actor => Request.controller obj actor
    | .phase p => Request.phase obj p
  else none

/-! ### Flushes under way -/

/-- A flush that is under way in a thread. -/
structure Frame where
  /-- The number of the ledger whose batches are written. -/
  ledger : Nat
  flush : Flush
  /-- The object as it was last read. -/
  copy : Option Json
  /-- The interrupt that is about to end the flush. -/
  interrupt : Option Failure

/-- What a flush does in one step. -/
inductive Act
  /-- It asks the table for a batch. -/
  | take (batch : Option Batch)
  /-- Its call that reads the object is answered. -/
  | read (answer : Except Failure (Option Json))
  /-- Its call that writes the object is answered. -/
  | write (body : Json) (answer : Except Failure Unit)
  /-- It waits before the next attempt. -/
  | pause
  /-- It ends in an interrupt. -/
  | unwind

namespace Frame

/-- The flush that a request starts. -/
def start (ledger : Nat) (request : Request) : Frame :=
  { ledger, flush := Flush.start request, copy := none, interrupt := none }

/-- The flush goes on to a stage. -/
def proceed (f : Frame) (stage : Flush.Stage) : Frame :=
  { f with flush := { f.flush with stage } }

/-- The flush has called the server and waits for the answer. -/
def isCalling (f : Frame) : Bool :=
  match f.interrupt, f.flush.stage with
  | none, .reading _ | none, .writing _ _ => true
  | _, _ => false

/-- A call of the server fails.  An interrupt is not met within the attempt. -/
def afterFailure (settings : Settings) (f : Frame) (a : Attempt) (failure : Failure) : Frame :=
  if failure.isInterrupt then { f with interrupt := some failure }
  else f.proceed (Flush.afterFailure settings f.flush.key a failure).1

/-- The call that reads the object is answered. -/
def afterRead (settings : Settings) (f : Frame) (a : Attempt) :
    Except Failure (Option Json) → Frame
  | .ok found =>
    { f.proceed (Flush.afterRead settings f.flush.key a (.ok found)).1 with copy := found }
  | .error failure => f.afterFailure settings a failure

/-- The call that writes the object is answered. -/
def afterWrite (settings : Settings) (f : Frame) (a : Attempt) : Except Failure Unit → Frame
  | .ok () => f.proceed (Flush.afterWrite settings f.flush.key a (.ok ())).1
  | .error failure => f.afterFailure settings a failure

/-- What a flush does without the table. -/
inductive Move (settings : Settings) : Frame → Act → Frame → Prop
  | read {f : Frame} {a : Attempt} (answer : Except Failure (Option Json))
      (stage : f.flush.stage = .reading a) :
      Move settings f (.read answer) (f.afterRead settings a answer)
  | write {f : Frame} {a : Attempt} {body : Json} (answer : Except Failure Unit)
      (stage : f.flush.stage = .writing a body) :
      Move settings f (.write body answer) (f.afterWrite settings a answer)
  | pause {f : Frame} {a : Attempt} (stage : f.flush.stage = .pausing a) :
      Move settings f .pause (f.proceed (Flush.afterPause settings a))

end Frame

/-! ### States -/

/-- The tables of the ledgers, and for each thread the flushes that are under way in it, the
innermost first. -/
structure State where
  ledgers : Nat → Ledger
  threads : List (List Frame)

namespace State

/-- So many threads, and nothing has been reported yet. -/
def start (n : Nat) : State :=
  { ledgers := fun _ => .empty, threads := List.replicate n [] }

/-- The state with another table for one ledger. -/
def setLedger (s : State) (i : Nat) (ledger : Ledger) : State :=
  { s with ledgers := Function.update s.ledgers i ledger }

/-- The state with other flushes under way in one thread. -/
def setThread (s : State) (t : Nat) (stack : List Frame) : State :=
  { s with threads := s.threads.set t stack }

/-- A thread can report if no flush is under way in it, or if the innermost one has called the
server: then the report is made within the call. -/
def CanReport (s : State) (t : Nat) : Prop :=
  ∃ stack, s.threads[t]? = some stack ∧ ∀ f ∈ stack.head?, f.isCalling = true

/-- A flush is started: in the thread that reported if there is no delay, else in a new one. -/
def launch (settings : Settings) (s : State) (t : Nat) (f : Frame) : State :=
  if settings.delay <= 0.0 then s.setThread t (f :: (s.threads[t]?).getD [])
  else { s with threads := s.threads ++ [[f]] }

/-- A request reaches its ledger, and a flush is started if there has to be one. -/
def submit (settings : Settings) (s : State) (i t : Nat) (request : Request) : State :=
  let (starts, ledger) := (s.ledgers i).submit request.key request.slot request.value
  if starts then (s.setLedger i ledger).launch settings t (.start i request)
  else s.setLedger i ledger

end State

/-! ### Steps -/

/-- What is done in a step. -/
inductive Event
  /-- A thread reports something on an object to a ledger. -/
  | report (ledger thread : Nat) (obj : Json) (report : Report)
  /-- The innermost flush of a thread, as it stands before the step, does something. -/
  | flush (thread : Nat) (frame : Frame) (act : Act)

/-- One step of one thread. -/
inductive Step (settings : Nat → Settings) : State → Event → State → Prop
  /-- What is reported asks for nothing. -/
  | ignore {s : State} {i t : Nat} {obj : Json} {r : Report} (free : s.CanReport t)
      (request : r.request obj = none) : Step settings s (.report i t obj r) s
  /-- What is reported is asked of the ledger. -/
  | submit {s : State} {i t : Nat} {obj : Json} {r : Report} {q : Request}
      (free : s.CanReport t) (request : r.request obj = some q) :
      Step settings s (.report i t obj r) (s.submit (settings i) i t q)
  /-- A flush takes a batch. -/
  | take {s : State} {t : Nat} {f : Frame} {below : List Frame} {batch : Batch}
      (top : s.threads[t]? = some (f :: below)) (calm : f.interrupt = none)
      (stage : f.flush.stage = .draining)
      (taken : ((s.ledgers f.ledger).take f.flush.key).1 = some batch) :
      Step settings s (.flush t f (.take (some batch)))
        ((s.setLedger f.ledger ((s.ledgers f.ledger).take f.flush.key).2).setThread t
          (f.proceed (Flush.afterTake (settings f.ledger) (some batch)) :: below))
  /-- A flush finds no batch and ends. -/
  | drain {s : State} {t : Nat} {f : Frame} {below : List Frame}
      (top : s.threads[t]? = some (f :: below)) (calm : f.interrupt = none)
      (stage : f.flush.stage = .draining)
      (taken : ((s.ledgers f.ledger).take f.flush.key).1 = none) :
      Step settings s (.flush t f (.take none))
        ((s.setLedger f.ledger ((s.ledgers f.ledger).take f.flush.key).2).setThread t below)
  /-- A flush goes on without the table. -/
  | move {s : State} {t : Nat} {f f' : Frame} {below : List Frame} {act : Act}
      (top : s.threads[t]? = some (f :: below)) (calm : f.interrupt = none)
      (move : f.Move (settings f.ledger) act f') :
      Step settings s (.flush t f act) (s.setThread t (f' :: below))
  /-- A flush gives up its key and ends in its interrupt. -/
  | unwind {s : State} {t : Nat} {f : Frame} {below : List Frame} {e : Failure}
      (top : s.threads[t]? = some (f :: below)) (raised : f.interrupt = some e) :
      Step settings s (.flush t f .unwind)
        ((s.setLedger f.ledger ((s.ledgers f.ledger).abandon f.flush.key)).setThread t below)

/-- Any number of steps, with what was done in them, in order. -/
inductive Run (settings : Nat → Settings) (s : State) : List Event → State → Prop
  | nil : Run settings s [] s
  | snoc {events : List Event} {s' s'' : State} {e : Event} (run : Run settings s events s')
      (step : Step settings s' e s'') : Run settings s (events ++ [e]) s''

/-- One run after another is a run. -/
lemma Run.append {settings : Nat → Settings} {s s' s'' : State} {before after : List Event}
    (first : Run settings s before s') (second : Run settings s' after s'') :
    Run settings s (before ++ after) s'' := by
  induction second with
  | nil => simpa using first
  | snoc run step ih =>
      rw [← List.append_assoc]
      exact ih.snoc step

/-- A run is split where its events are. -/
lemma Run.split {settings : Nat → Settings} {s s'' : State} {before after : List Event}
    (run : Run settings s (before ++ after) s'') :
    ∃ s', Run settings s before s' ∧ Run settings s' after s'' := by
  induction after using List.reverseRecOn generalizing s'' with
  | nil => exact ⟨s'', by simpa using run, .nil⟩
  | append_singleton after e ih =>
      rw [← List.append_assoc] at run
      generalize h : before ++ after ++ [e] = events at run
      cases run with
      | nil => simp at h
      | snoc run step =>
          obtain ⟨rfl, rfl⟩ := by simpa using List.append_inj' h (by simp)
          obtain ⟨s', first, second⟩ := ih run
          exact ⟨s', first, second.snoc step⟩

/-- An event of a run was a step from a state that the run reached. -/
lemma Run.step_of_split {settings : Nat → Settings} {s s'' : State}
    {before after : List Event} {e : Event}
    (run : Run settings s (before ++ e :: after) s'') :
    ∃ s₁ s₂, Run settings s before s₁ ∧ Step settings s₁ e s₂ := by
  have run : Run settings s ((before ++ [e]) ++ after) s'' := by simpa using run
  obtain ⟨s₂, first, -⟩ := run.split
  generalize h : before ++ [e] = events at first
  cases first with
  | nil => simp at h
  | snoc run step =>
      obtain ⟨rfl, rfl⟩ := by simpa using List.append_inj' h (by simp)
      exact ⟨_, _, run, step⟩

end Driftwatch.Traffic
