/-
Decisions: is a change of a child expected, or is it drift?

A change is drift if its parent has caught up with what it was asked for, and the change comes
from the parent's own controller all the same.  Drift is reported and still allowed.

* `Reason`, `Reason.text`: why a decision was taken; `Reason.obstacle?`: what keeps a reason from
  being worded.
* `Decision`: allowed or not, drift or not, and what it was based on.
* `Attribution`: whose change it is: not known, by a field manager, or by a user.
* `Standing`, `standing`: whether a user is the parent's controller, judged by fingerprints; the
  answer in yes and no is `Standing.answer`.
* `Decision.reasonOn`, `Decision.onState`: the reason that a parent's state gives, and the decision
  on the state.
* `Decision.onResolution`: the decision on the result of a search for the parent.
* `Decision.detect`, `Decision.detectUser`: the search and the decision on its result.
-/
import Driftwatch.Fingerprint.Basic
import Driftwatch.Lifecycle
import Driftwatch.Parent.Resolution

namespace Driftwatch

open Parent (State)

/-! ### Reasons -/

/-- Why a decision was taken. -/
inductive Reason
  | unowned
  | noState
  | unresolved (error : Parent.Resolution.Error)
  | deleting
  | initializing
  | indeterminate
  /-- The change was made by a user who is not the controller. -/
  | differentUser (fingerprint : String)
  /-- The change was made by a field manager that is not the controller. -/
  | differentManager (fieldManager controllerManager : Json)
  /-- The parent has not said which generation it has caught up with. -/
  | unobserved (generation : Int)
  /-- The parent has caught up with another generation. -/
  | behind (generation observed : Int)
  | drift (generation observed : Int)
  deriving DecidableEq

namespace Reason

/-- The generations that were compared. -/
def comparison (generation observed : Int) (sign : String) : String :=
  "parent generation (" ++ toString generation ++ ") " ++ sign ++ " observedGeneration (" ++
    toString observed ++ ")"

/-- The wording of a reason. -/
def text : Reason → String
  | .unowned => "no controller owner reference"
  | .noState => "no parent state provided"
  | .unresolved error => "failed to resolve parent: " ++ error.message
  | .deleting => "parent is being deleted (cleanup phase)"
  | .initializing => "parent is initializing"
  | .indeterminate =>
    "cannot determine controller identity " ++
      "(multiple updaters, no parent controllers annotation)"
  | .differentUser fingerprint =>
    "change by different actor (hash " ++ fingerprint ++ ")"
  | .differentManager fieldManager controllerManager =>
    "change by different actor " ++ fieldManager.display ++ " (controller is " ++
      controllerManager.display ++ ")"
  | .unobserved generation =>
    "expected change: parent generation (" ++ toString generation ++
      ") has no observedGeneration"
  | .behind generation observed => "expected change: " ++ comparison generation observed "!="
  | .drift generation observed => "drift detected: " ++ comparison generation observed "=="

/-- What keeps a reason from being worded: the first value in it that cannot be shown. -/
def obstacle? (room : Nat) : Reason → Option Json.Obstacle
  | .differentManager fieldManager controllerManager =>
    (fieldManager.obstacle? room).or (controllerManager.obstacle? room)
  | .unobserved generation => (Json.int generation).obstacle? room
  | .behind generation observed | .drift generation observed =>
    ((Json.int generation).obstacle? room).or ((Json.int observed).obstacle? room)
  | _ => none

/-- The reason is that there is drift. -/
def isDrift : Reason → Bool
  | .drift .. => true
  | _ => false

/-- A decision for this reason is logged. -/
def isLogged : Reason → Bool
  | .drift .. | .differentManager .. => true
  | _ => false

end Reason

/-! ### Decisions -/

/-- A decision on a change. -/
structure Decision where
  allowed : Bool
  reason : String
  isDrift : Bool
  parentRef : Option Parent.Ref
  parentState : Option State
  phase : Option Phase
  deriving DecidableEq

namespace Decision

/-- A decision without a parent. -/
def apart (allowed : Bool) (reason : Reason) : Decision :=
  { allowed, reason := reason.text, isDrift := false, parentRef := none, parentState := none,
    phase := none }

/-- A decision on a parent's state.  The change is always allowed. -/
def on (state : State) (phase : Phase) (reason : Reason) : Decision :=
  { allowed := true, reason := reason.text, isDrift := reason.isDrift, parentRef := some state.ref,
    parentState := some state, phase := some phase }

/-- The log line about a decision. -/
def notice (state : State) (d : Decision) : Log.Entry :=
  { level := .debug, message := state.ref.text ++ ": " ++ d.reason }

/-! ### Attribution -/

/-- Whose change it is. -/
inductive Attribution
  | unknown
  | fieldManager (name : Json)
  /-- A user, with the fingerprints of those who changed the child before. -/
  | user (name : String) (updaters : List String)

/-- Whether a user is a parent's controller, as far as that can be told. -/
inductive Standing
  | controller
  | other
  | undetermined
  deriving DecidableEq

/-- Whether a user is a parent's controller.  The only one who ever changed the child is the
controller; among several it is those who also updated the parent's status. -/
def standing (controllers updaters : List String) (username : String) : Standing :=
  let fingerprint := Fingerprint.ofIdentity username
  match updaters with
  | [] => .undetermined
  | [only] => if fingerprint = only then .controller else .other
  | _ =>
    let shared := Roster.common updaters controllers
    if shared = [] then .undetermined
    else if fingerprint ∈ shared then .controller
    else .other

/-- What is told about a user: whether they are the controller, and whether that can be told at
all. -/
def Standing.answer : Standing → Bool × Bool
  | .controller => (true, true)
  | .other => (false, true)
  | .undetermined => (false, false)

/-! ### Deciding -/

/-- A decision with what is logged about it. -/
abbrev Logged := Decision × List Log.Entry

/-- The reason that the parent's generations give. -/
def byGenerations (state : State) : Reason :=
  if !state.observed.present then .unobserved state.generation
  else if state.generation ≠ state.observed.value then
    .behind state.generation state.observed.value
  else .drift state.generation state.observed.value

/-- The reason where a field manager makes the change.  A falsy name, and an unknown controller,
tell nothing. -/
def byFieldManager (state : State) (name : Json) : Reason :=
  if ¬ name.isFalsy ∧ ¬ state.controllerManager.isFalsy ∧
      ¬ state.controllerManager.same name then
    .differentManager name state.controllerManager
  else byGenerations state

/-- The reason where a user makes the change. -/
def byUser (state : State) (name : String) (updaters : List String) : Reason :=
  match standing state.controllers updaters name with
  | .undetermined => .indeterminate
  | .other => .differentUser (Fingerprint.ofIdentity name)
  | .controller => byGenerations state

/-- The reason that a parent's state gives.  Only an initialized parent is looked at more
closely. -/
def reasonOn (strategies : List Strategy) (attribution : Attribution) (state : State) : Reason :=
  match Lifecycle.phase strategies state with
  | .deleting => .deleting
  | .initializing => .initializing
  | .initialized =>
    match attribution with
    | .unknown => byGenerations state
    | .fieldManager name => byFieldManager state name
    | .user name updaters => byUser state name updaters

/-- A decision on a parent's state that can be worded. -/
def logged (state : State) (phase : Phase) (reason : Reason) : Logged :=
  let d := on state phase reason
  (d, if reason.isLogged then [notice state d] else [])

/-- The decision on a parent's state.  There is none if its reason cannot be worded. -/
def onState (room : Room) (strategies : List Strategy) (attribution : Attribution)
    (state : State) : Except Failure Logged :=
  let reason := reasonOn strategies attribution state
  match reason.obstacle? room.reason with
  | some obstacle => .error (.unshowable obstacle)
  | none => .ok (logged state (Lifecycle.phase strategies state) reason)

/-- The decision where there may be no parent's state. -/
def onState? (room : Room) (strategies : List Strategy) (attribution : Attribution) :
    Option State → Except Failure Logged
  | some state => onState room strategies attribution state
  | none => .ok (apart true .noState, [])

/-- The log line about a parent that could not be resolved. -/
def denialNotice (error : Parent.Resolution.Error) : Log.Entry :=
  { level := .warning
    message := "Denying mutation, parent could not be resolved: " ++ error.message }

/-- The decision on the result of a search for the parent.  Without a controlling owner there is
no drift, and a parent that cannot be read denies the change. -/
def onResolution (room : Room) (strategies : List Strategy) (attribution : Attribution) :
    Parent.Resolution → Except Failure Logged
  | .unowned => .ok (apart true .unowned, [])
  | .failed error => .ok (apart false (.unresolved error), [denialNotice error])
  | .resolved state => onState room strategies attribution state

/-- The decision on a change of a child, with all that is logged on the way. -/
def detect {m : Type → Type} [Monad m] (room : Room)
    (fetch : Parent.Lookup → m (Except Failure (Option Json))) (strategies : List Strategy)
    (attribution : Attribution) (child : Json) : m (Except Failure Logged) := do
  match ← Parent.Resolution.resolve room fetch child with
  | .error e => return .error e
  | .ok (resolution, notices) =>
    return (onResolution room strategies attribution resolution).map fun (d, more) =>
      (d, notices ++ more)

/-- The decision on a change by a user whose name may be any value.  Only of a text is there a
fingerprint, and it takes one to decide on a change under an initialized parent. -/
def detectUser {m : Type → Type} [Monad m] (room : Room)
    (fetch : Parent.Lookup → m (Except Failure (Option Json))) (strategies : List Strategy)
    (username : Json) (updaters : List String) (child : Json) : m (Except Failure Logged) :=
  match username with
  | .text name => detect room fetch strategies (.user name updaters) child
  | other => do
    -- where nothing is known of the user, the phase is found all the same
    match ← detect room fetch strategies (.user "" []) child with
    | .error e => return .error e
    | .ok (d, notices) =>
      if d.phase = some .initialized then return .error (.lacking other.shapeName "encode")
      else return .ok (d, notices)

end Decision

end Driftwatch
