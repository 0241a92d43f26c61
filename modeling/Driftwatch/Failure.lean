/-
What can go wrong.

* `Fault`: what a call to the cluster may end in instead of an answer.
* `Failure`: why an operation gives no result: a malformed input, a value of the wrong shape, a
  text or value that there is no room for, or a fault of the cluster that is passed on.
* `Fault.message`, `Failure.message`: the wording of each.
* `Failure.isInterrupt`: the only failure that no part of the program recovers from.
-/
import Driftwatch.Json.Display
import Driftwatch.Json.Reader
import Driftwatch.Timestamp.Reader

namespace Driftwatch

/-- What a call to the cluster may end in instead of an answer. -/
inductive Fault
  /-- The server answered with an error status. -/
  | api (status reason : Json)
  /-- The server does not know the kind of object. -/
  | notFound (message : String)
  /-- The server knows several resources of the kind. -/
  | notUnique (message : String)
  /-- The client's configuration cannot be used. -/
  | configuration (message : String)
  /-- The user interrupted the program. -/
  | interrupt (message : String)
  /-- A fault of another class. -/
  | other (name message : String)
  deriving DecidableEq

/-- The wording of a fault. -/
def Fault.message : Fault → String
  | .api status reason => "(" ++ status.plain ++ ")\nReason: " ++ reason.plain ++ "\n"
  | .notFound m | .notUnique m | .configuration m | .interrupt m | .other _ m => m

/-- What is said of a value that cannot be shown. -/
def Json.Obstacle.message : Json.Obstacle → String
  | .nested => "maximum recursion depth exceeded while getting the repr of an object"
  | .longInteger =>
    "Exceeds the limit (" ++ toString Decimal.longestInteger ++
      " digits) for integer string conversion; " ++
      "use sys.set_int_max_str_digits() to increase the limit"

/-- Why an operation gives no result. -/
inductive Failure
  /-- An API version that is neither a version nor a group and a version. -/
  | malformedApiVersion (value : Json)
  /-- A kind of the core group that the client cannot read or write. -/
  | unsupportedCoreKind (kind : String)
  | unknownStrategy (name : String)
  | unknownOperation (name : String)
  | unknownPhase (name : Json)
  /-- A text that should have been a decimal number. -/
  | notANumber (text : String)
  | negativeDelay (text : String)
  /-- A text that should have been a point in time. -/
  | unreadableTime (error : Timestamp.Error)
  /-- A value that should have been an object of the cluster; its shape is given. -/
  | unreadableObject (shape : String)
  /-- A value of a shape that does not offer what was asked of it. -/
  | lacking (shape name : String)
  /-- A value of a shape that cannot be a key. -/
  | unhashable (shape : String)
  /-- A value of a shape that cannot stand in a table. -/
  | unprintable (shape : String)
  /-- A text that is nested too deeply, up to a bracket that there is no room for. -/
  | nestedText (bracket : Json.Reader.Bracket)
  /-- A value that cannot be shown. -/
  | unshowable (obstacle : Json.Obstacle)
  /-- A resource version that has no successor. -/
  | uncountableVersion (version : Json)
  /-- A fault of the cluster. -/
  | fault (f : Fault)
  deriving DecidableEq

namespace Failure

/-- The wording of a failure. -/
def message : Failure → String
  | .malformedApiVersion value => "unexpected apiVersion format " ++ value.display
  | .unsupportedCoreKind kind => "unsupported core kind " ++ Text.quote kind
  | .unknownStrategy name => "unknown initialization strategy " ++ Text.quote name
  | .unknownOperation name => "unknown admission operation " ++ Text.quote name
  | .unknownPhase name => name.display ++ " is not a valid LifecyclePhase"
  | .notANumber text => "could not convert string to float: " ++ Text.quote text
  | .negativeDelay text => "KAUSALITY_ASYNC_UPDATE_DELAY must be >= 0, got " ++ Text.quote text
  | .unreadableTime error => error.message
  | .unreadableObject shape => "cannot read " ++ shape ++ " as a Kubernetes object"
  | .lacking shape name => Text.quote shape ++ " object has no attribute " ++ Text.quote name
  | .unhashable shape => "unhashable type: " ++ Text.quote shape
  | .unprintable shape =>
    "unable to render " ++ shape ++ "; a string or other renderable object is required"
  | .nestedText bracket =>
    "maximum recursion depth exceeded while decoding a JSON " ++ bracket.shape ++
      " from a unicode string"
  | .unshowable obstacle => obstacle.message
  | .uncountableVersion version => "resource version without a successor: " ++ version.display
  | .fault f => f.message

/-- The user interrupted the program. -/
def isInterrupt : Failure → Bool
  | .fault (.interrupt _) => true
  | _ => false

/-- The server refused a write because the object has changed since it was read. -/
def isConflict : Failure → Bool
  | .fault (.api status _) => status.same (.int 409)
  | _ => false

/-- The server answered that there is no such object. -/
def isMissingObject : Failure → Bool
  | .fault (.api status _) => status.same (.int 404)
  | _ => false

end Failure

namespace Json

/-- The field of a value that has to be an object. -/
def member (j : Json) (name : String) : Except Failure (Option Json) :=
  if j.isObject then .ok (j.get? name) else .error (.lacking j.shapeName "get")

/-- A value that has to be a text, for an operation of the given name. -/
def asText (j : Json) (operation : String) : Except Failure String :=
  match j with
  | .text s => .ok s
  | other => .error (.lacking other.shapeName operation)

end Json

end Driftwatch
