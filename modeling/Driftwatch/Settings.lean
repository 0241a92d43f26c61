/-
Settings of the program.

* `Settings`: the values in force.
* `Environment`: the variables of the environment.
* `Settings.ofEnvironment`: the settings, some of which the environment can change.
-/
import Driftwatch.Decimal.Reader
import Driftwatch.Lifecycle

namespace Driftwatch

/-- The values in force. -/
structure Settings where
  /-- The signals of initialization that are tried. -/
  strategies : List Strategy := Strategy.all
  /-- How long a write of annotations waits for more requests, in seconds; without a delay it
  is done at once. -/
  delay : Float := 0.0
  /-- How many fingerprints an annotation keeps. -/
  maxFingerprints : Int := 5
  /-- How often a write is tried. -/
  attempts : Int := 4
  /-- The pause after the first attempt, in seconds. -/
  firstPause : Float := 0.01
  /-- By how much each pause is longer than the one before. -/
  pauseFactor : Float := 5.0
  /-- The share of a pause that is left to chance. -/
  jitter : Float := 0.1
  /-- How long a request may take, in seconds. -/
  requestTimeout : Float := 10.0
  /-- The context of the cluster's configuration. -/
  context : Option String := none

/-- The variables of an environment with their values. -/
abbrev Environment := List (String × String)

namespace Environment

/-- The value of a variable; one that is not set is empty. -/
def value (env : Environment) (name : String) : String :=
  (env.lookup name).getD ""

end Environment

namespace Settings

/-- The strategies in a text, with commas between them; blank pieces count for nothing. -/
def parseStrategies (s : String) : Except Failure (List Strategy) :=
  ((Text.split ',' s).filter fun piece => !Text.isBlankText piece).mapM Strategy.parse

/-- The strategies that a text asks for; a blank one asks for the default. -/
def strategiesOf (s : String) : Except Failure (List Strategy) :=
  if Text.isBlankText s then .ok Strategy.all else parseStrategies s

/-- The number in a text, or a default if the text is empty. -/
def numberOf (default : Float) (s : String) : Except Failure Float :=
  if s = "" then .ok default
  else match Decimal.read? s with
    | some x => .ok x
    | none => .error (.notANumber s)

/-- The delay that a text asks for, which must not be negative. -/
def delayOf (s : String) : Except Failure Float :=
  match numberOf 0.0 s with
  | .ok x => if x < 0.0 then .error (.negativeDelay s) else .ok x
  | .error e => .error e

/-- The settings under an environment; the first value that is not right is reported. -/
def ofEnvironment (env : Environment) : Except Failure Settings := do
  let strategies ← strategiesOf (env.value "KAUSALITY_DETECTION_ORDER")
  let delay ← delayOf (env.value "KAUSALITY_ASYNC_UPDATE_DELAY")
  let requestTimeout ← numberOf 10.0 (env.value "KAUSALITY_REQUEST_TIMEOUT")
  let context := env.value "KAUSALITY_KUBE_CONTEXT"
  return { strategies, delay, requestTimeout,
           context := if context = "" then none else some context }

end Settings

end Driftwatch
