/-
Lifecycle phases of parents.

* `Phase`: a parent is initializing, initialized or being deleted.
* `Strategy`: the signals that a parent has been initialized.
* `Lifecycle.phaseUnder`: the phase under given strategies.
* `Lifecycle.phase`: the same, where no strategies at all mean the default ones.
-/
import Driftwatch.Parent.State

namespace Driftwatch

/-- How far the life of a parent has come. -/
inductive Phase
  | initializing
  | initialized
  | deleting
  deriving DecidableEq

namespace Phase

/-- The name of a phase. -/
def name : Phase → String
  | .initializing => "Initializing"
  | .initialized => "Initialized"
  | .deleting => "Deleting"

/-- The phases. -/
def all : List Phase := [.initializing, .initialized, .deleting]

/-- The phase of a name. -/
def ofName (s : String) : Except Failure Phase :=
  match all.find? fun p => p.name == s with
  | some p => .ok p
  | none => .error (.unknownPhase (.text s))

/-- The phase that a value names. -/
def ofJson : Json → Except Failure Phase
  | .text s => ofName s
  | other => .error (.unknownPhase other)

end Phase

/-- A signal that a parent has been initialized. -/
inductive Strategy
  /-- The condition `Initialized` is true. -/
  | initializedCondition
  /-- The condition `Ready` is true. -/
  | readyCondition
  /-- There is a generation stamp, and a condition of steady state is true. -/
  | observedGeneration
  deriving DecidableEq

namespace Strategy

/-- The name of a strategy. -/
def name : Strategy → String
  | .initializedCondition => "initialized-condition"
  | .readyCondition => "ready-condition"
  | .observedGeneration => "observed-generation"

/-- The strategies, in the order in which they are tried by default. -/
def all : List Strategy := [.initializedCondition, .readyCondition, .observedGeneration]

/-- The strategy of a name, with white space around it admitted. -/
def parse (s : String) : Except Failure Strategy :=
  match all.find? fun p => p.name == Text.trim s with
  | some p => .ok p
  | none => .error (.unknownStrategy s)

end Strategy

namespace Lifecycle

open Parent (Condition State)

/-- The conditions that, next to a generation stamp, mean that a parent is in a steady state.
Being synced is not among them: some controllers write the stamp before the children are
ready. -/
def steadyConditions : List String := ["Ready", "Available", "Initialized"]

/-- The signal of a strategy is there. -/
def signals (state : State) : Strategy → Bool
  | .initializedCondition => Condition.holds state.conditions "Initialized" "True"
  | .readyCondition => Condition.holds state.conditions "Ready" "True"
  | .observedGeneration =>
    state.observed.present &&
      steadyConditions.any fun type => Condition.holds state.conditions type "True"

/-- The phase under given strategies.  A recorded initialization is never taken back. -/
def phaseUnder (strategies : List Strategy) (state : State) : Phase :=
  if state.isDeleting then .deleting
  else if state.isInitialized then .initialized
  else if strategies.any (signals state) then .initialized
  else .initializing

/-- The strategies in force: the default ones unless some are given. -/
def inForce (strategies : List Strategy) : List Strategy :=
  if strategies.isEmpty then Strategy.all else strategies

/-- The phase of a parent. -/
def phase (strategies : List Strategy) (state : State) : Phase :=
  phaseUnder (inForce strategies) state

/-- The phase where there may be no parent; then there is nothing to wait for. -/
def phaseOf? (strategies : List Strategy) : Option State → Phase
  | some state => phase strategies state
  | none => .initialized

end Lifecycle

end Driftwatch
