/-
Carrying out a rehearsal.

Flushes call the store, steps are taken during these calls, and these steps start flushes in
turn; so what is under way forms a stack.

* `Frame`: a flush, or a call of the store with the steps that are still to be taken in it.
* `Machine.tick`: one small step of what is on top of the stack.
* `Machine.unwind`: a failure on its way down: a flush takes it as the answer to its call,
  unless it is an interrupt, which ends the flush as well.
* `run`, `rehearse`: whole steps of a rehearsal.
-/
import Driftwatch.Parent.Resolution
import Driftwatch.Rehearsal.World

namespace Driftwatch.Rehearsal

/-- Something that is under way. -/
inductive Frame
  /-- A flush, and the worker that carries it out, if it is not the caller itself. -/
  | flush (f : Flush) (worker : Option Nat)
  /-- A call of the store: the steps to be taken in it, and the fault that it ends in. -/
  | call (steps : List Step) (fault : Option Fault)

/-- The call of the store that a cue is for. -/
def Cue.frame (c : Cue) : Frame :=
  .call c.steps c.fault

/-- The frame of a flush that was started. -/
def World.Started.frame (s : World.Started) : Frame :=
  .flush s.flush s.worker

/-- All that is under way, the innermost first. -/
structure Machine where
  world : World
  frames : List Frame
  /-- The failure that reached the bottom. -/
  failure : Option Failure

namespace Machine

/-- A failure on its way down the stack.  A worker keeps an interrupt to itself. -/
def unwind (w : World) (e : Failure) : List Frame → Machine
  | [] => { world := w, frames := [], failure := some e }
  | .call _ _ :: below => unwind w e below
  | .flush f worker :: below =>
    if e.isInterrupt then
      let w := { w with ledger := w.ledger.abandon f.key }
      match worker with
      | some _ => { world := w.finish worker, frames := below, failure := none }
      | none => unwind w e below
    else
      let (w, f) := w.fail f e
      { world := w, frames := .flush f worker :: below, failure := none }

/-- A call of the store ends without a failure: the flush that made it goes on. -/
def resume (w : World) : List Frame → Machine
  | .flush f worker :: below =>
    let (w, f) := w.complete f
    { world := w, frames := .flush f worker :: below, failure := none }
  | frames => { world := w, frames, failure := none }

/-- One small step of a flush. -/
def tickFlush (w : World) (f : Flush) (worker : Option Nat) (below : List Frame) : Machine :=
  match f.stage with
  | .draining =>
    let (batch, ledger) := w.ledger.take f.key
    let f := { f with stage := Flush.afterTake w.settings batch }
    { world := { w with ledger }, frames := .flush f worker :: below, failure := none }
  | .reading _ =>
    let (w, cue) := w.beginRead f.target
    { world := w, frames := cue.frame :: .flush f worker :: below, failure := none }
  | .writing _ body =>
    let (w, cue) := w.beginWrite body
    { world := w, frames := cue.frame :: .flush f worker :: below, failure := none }
  | .pausing a =>
    let f := { f with stage := Flush.afterPause w.settings a }
    { world := w.paused (Flush.pauseLength w.settings w.chance a)
      frames := .flush f worker :: below, failure := none }
  | .ended => { world := w.finish worker, frames := below, failure := none }

/-- One small step of what is on top of the stack. -/
def tick (m : Machine) : Machine :=
  match m.frames with
  | [] => m
  | .call (s :: rest) fault :: below =>
    match m.world.perform s with
    | .error e => unwind m.world e below
    | .ok effect =>
      { world := effect.world
        frames := (effect.started.map World.Started.frame).toList ++ .call rest fault :: below
        failure := none }
  | .call [] (some fault) :: below => unwind m.world (.fault fault) below
  | .call [] none :: below => resume m.world below
  | .flush f worker :: below => tickFlush m.world f worker below

/-- As many small steps as it takes to empty the stack, but not more than `fuel`. -/
def runFor : (fuel : Nat) → Machine → Machine
  | 0, m => m
  | fuel + 1, m => if m.frames.isEmpty then m else runFor fuel m.tick

end Machine

/-! ### Bounds -/

/-- The number of steps that cues hold, the cues themselves counted as well. -/
def Cue.weight : List Cue → Nat
  | [] => 0
  | cue :: cues => cue.steps.length + 1 + Cue.weight cues

/-- What is left to do in a world, not counting the steps that are yet to be taken. -/
def World.weight (w : World) : Nat :=
  Cue.weight w.readCues + Cue.weight w.writeCues + w.ledger.pending.length + w.delayed.length

/-- More small steps than it takes to empty a stack in a world.  Every step and every left-over
batch is good for one round of a flush at most, and every round for a bounded number of
attempts of a few small steps each. -/
def enoughFuel (w : World) (steps : Nat) : Nat :=
  16 * (Flush.attempts w.settings + 2) * (w.weight + steps + 2)

/-- A stack is worked off. -/
def run (w : World) (frames : List Frame) (steps : Nat) : World × Option Failure :=
  let m := Machine.runFor (enoughFuel w steps) { world := w, frames, failure := none }
  (m.world, m.failure)

/-! ### Rehearsals -/

/-- What a step of a rehearsal came to. -/
structure Outcome where
  result : Except Failure Json
  calls : List Call
  logs : List Log.Entry
  pauses : List Float

/-- One step with all that follows from it. -/
def take (w : World) (s : Step) : World × Except Failure Json :=
  match w.perform s with
  | .error e => (w, .error e)
  | .ok effect =>
    match effect.started with
    | none => (effect.world, .ok effect.answer)
    | some started =>
      match run effect.world [started.frame] 1 with
      | (w, none) => (w, .ok effect.answer)
      | (w, some e) => (w, .error e)

/-- A whole rehearsal. -/
def rehearse (w : World) : List Step → List Outcome
  | [] => []
  | s :: rest =>
    let (after, result) := take w.cleared s
    { result, calls := after.calls, logs := after.logs, pauses := after.pauses } ::
      rehearse after rest

/-- An object is read from the store, with all that happens during the call. -/
def read (l : Parent.Lookup) : StateM World (Except Failure (Option Json)) := fun w =>
  let target : Target :=
    { apiVersion := .text l.owner.apiVersion
      kind := .text l.owner.kind
      name := l.owner.name
      namespaceName := l.namespaceName }
  let (w, cue) := w.beginRead target
  match run w [cue.frame] cue.steps.length with
  | (w, some e) => (.error e, w)
  | (w, none) => (.ok (w.store.get? (World.storeKey target)), w)

end Driftwatch.Rehearsal
