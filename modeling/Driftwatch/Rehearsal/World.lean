/-
The world of a rehearsal: a store, a ledger, the flushes that wait for their delay, the cues to
come, and a record of what was done.

* `World`: all of that.
* `World.perform`: what a step changes at once, its answer, and the flush that it starts.
* `World.complete`: the effect of a call of the store that a flush has made.
-/
import Driftwatch.Ledger.Flush
import Driftwatch.Ledger.Workers
import Driftwatch.Rehearsal.Script
import Driftwatch.Store

namespace Driftwatch.Rehearsal

/-- A call of the store. -/
inductive Call
  | get (target : Target)
  | replace (body : Json)

/-- A flush that a worker carries out after its delay. -/
structure Delayed where
  worker : Nat
  flush : Flush

/-- The world of a rehearsal. -/
structure World where
  settings : Settings
  /-- The share of chance in every pause. -/
  chance : Float
  store : Store
  ledger : Ledger
  workers : Workers
  delayed : List Delayed
  /-- What happens during the next calls that read. -/
  readCues : List Cue
  /-- What happens during the next calls that write. -/
  writeCues : List Cue
  /-- The calls that were made, in order. -/
  calls : List Call
  logs : List Log.Entry
  /-- The pauses that were made, in seconds. -/
  pauses : List Float

namespace World

/-- The world at the start of a rehearsal. -/
def start (settings : Settings) (chance : Float) (store : Store) (readCues writeCues : List Cue) :
    World :=
  { settings, chance, store, ledger := .empty, workers := .empty, delayed := [], readCues,
    writeCues, calls := [], logs := [], pauses := [] }

/-- The world with an empty record. -/
def cleared (w : World) : World :=
  { w with calls := [], logs := [], pauses := [] }

/-- The world with more log lines. -/
def logged (w : World) (entries : List Log.Entry) : World :=
  { w with logs := w.logs ++ entries }

/-- The world with one more pause. -/
def paused (w : World) (seconds : Float) : World :=
  { w with pauses := w.pauses ++ [seconds] }

/-! ### Steps -/

/-- A flush that is to be carried out at once; the worker that does it, if it is not the caller
itself. -/
structure Started where
  flush : Flush
  worker : Option Nat

/-- What a step leads to: its answer, the world after it, and the flush that it starts. -/
structure Effect where
  answer : Json
  world : World
  started : Option Started

/-- The effect of a step that starts no flush. -/
def done (w : World) (answer : Json) : Effect :=
  { answer, world := w, started := none }

/-- A request reaches the ledger.  Without a delay the caller carries out the flush, if there
has to be one; with a delay a worker does. -/
def submit (w : World) (request : Request) : Effect :=
  let (starts, ledger) := w.ledger.submit request.key request.slot request.value
  let w := { w with ledger }
  let flush := Flush.start request
  if !starts then w.done .null
  else if w.settings.delay <= 0.0 then
    { answer := .null, world := w, started := some ⟨flush, none⟩ }
  else
    let (worker, workers) := w.workers.create
    let workers := (workers.enlist worker).start worker
    let delayed := w.delayed ++ [Delayed.mk worker flush]
    { w with workers, delayed }.done .null

/-- The effect of a step, or the failure that it ends in. -/
def perform (w : World) : Step → Except Failure Effect
  | .controller source actor => do
    let obj ← source.read
    let actor ← actor.asText "encode"
    match Request.controller obj actor with
    | some request => return w.submit request
    | none =>
      let notice := Request.recordedNotice obj (Fingerprint.ofIdentity actor)
      return (w.logged [notice]).done .null
  | .phase source phase => do
    let obj ← source.read
    match Request.phase obj phase with
    | some request => return w.submit request
    | none => return w.done .null
  | .put obj => .ok ({ w with store := w.store.put obj }.done .null)
  | .remove key => .ok ({ w with store := w.store.remove key }.done .null)
  | .look key => .ok (w.done ((w.store.get? key).getD .null))
  | .waitIdle =>
    let (idle, workers) := w.workers.settle
    .ok ({ w with workers }.done (.bool idle))
  | .release key =>
    match w.delayed.find? fun d => d.flush.key == key with
    | none => .ok (w.done (.int 0))
    | some d =>
      .ok
        { answer := .int 1
          world :=
            { w with delayed := w.delayed.filter fun e => e.worker != d.worker }.paused
              w.settings.delay
          started := some ⟨d.flush, some d.worker⟩ }

/-! ### Calls of the store -/

/-- The key that a flush's object has in the store. -/
def storeKey (target : Target) : String :=
  Store.keyText target.apiVersion target.kind (.text target.namespaceName) (.text target.name)

/-- A call that reads, and what happens during it. -/
def beginRead (w : World) (target : Target) : World × Cue :=
  ({ w with calls := w.calls ++ [.get target], readCues := w.readCues.drop 1 },
    w.readCues.headD .quiet)

/-- A call that writes, and what happens during it. -/
def beginWrite (w : World) (body : Json) : World × Cue :=
  ({ w with calls := w.calls ++ [.replace body], writeCues := w.writeCues.drop 1 },
    w.writeCues.headD .quiet)

/-- A flush goes on to a stage, with what is logged. -/
def proceed (w : World) (f : Flush) (next : Flush.Stage × List Log.Entry) : World × Flush :=
  (w.logged next.2, { f with stage := next.1 })

/-- The effect of the call that a flush has made, when nothing went wrong. -/
def complete (w : World) (f : Flush) : World × Flush :=
  match f.stage with
  | .reading a =>
    w.proceed f (Flush.afterRead w.settings f.key a (.ok (w.store.get? (storeKey f.target))))
  | .writing a body =>
    match w.store.replace body with
    | .ok store => { w with store }.proceed f (Flush.afterWrite w.settings f.key a (.ok ()))
    | .error e => w.proceed f (Flush.afterWrite w.settings f.key a (.error e))
  | _ => (w, f)

/-- The call that a flush has made fails. -/
def fail (w : World) (f : Flush) (e : Failure) : World × Flush :=
  match f.stage with
  | .reading a => w.proceed f (Flush.afterRead w.settings f.key a (.error e))
  | .writing a _ => w.proceed f (Flush.afterWrite w.settings f.key a (.error e))
  | _ => (w, f)

/-- A worker has come to its end. -/
def finish (w : World) (worker : Option Nat) : World :=
  match worker with
  | some number => { w with workers := w.workers.finish number }
  | none => w

end World

end Driftwatch.Rehearsal
