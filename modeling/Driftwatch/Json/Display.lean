/-
JSON values as they are shown in log lines, reasons and error messages.

* `display`: the value on one line; texts stand between quotation marks.
* `plain`: the same, but a value that is itself a text is shown as it is.
* `obstacle?`: what keeps a value from being shown, if anything does.
-/
import Driftwatch.Json.Basic
import Driftwatch.Decimal.Reader
import Driftwatch.Decimal.Shortest
import Driftwatch.Text.Pieces
import Driftwatch.Text.Quoted

namespace Driftwatch.Json

mutual

/-- A value on one line. -/
def display : Json → String
  | .null => "None"
  | .bool true => "True"
  | .bool false => "False"
  | .int n => toString n
  | .float x => Decimal.text x
  | .text s => Text.quote s
  | .list items => "[" ++ Text.commaList (displayItems items) ++ "]"
  | .object fields => "\x7b" ++ Text.commaList (displayFields fields) ++ "\x7d"
  | .foreign v => v.quoted

/-- Each item of a list on one line. -/
def displayItems : List Json → List String
  | [] => []
  | x :: xs => display x :: displayItems xs

/-- Each field of an object on one line. -/
def displayFields : List (String × Json) → List String
  | [] => []
  | (k, x) :: xs => (Text.quote k ++ ": " ++ display x) :: displayFields xs

end

/-- A value on one line, a text without quotation marks. -/
def plain : Json → String
  | .text s => s
  | .foreign v => v.plain
  | other => display other

/-! ### What cannot be shown -/

/-- What keeps a value from being shown. -/
inductive Obstacle
  /-- The value is nested too deeply. -/
  | nested
  /-- There is an integer with too many digits. -/
  | longInteger
  deriving DecidableEq

/-- The integer has more digits than can be shown. -/
def isLong (n : Int) : Bool :=
  Nat.pow 10 Decimal.longestInteger ≤ n.natAbs

mutual

/-- The first obstacle to showing a value, with room for so many levels below it. -/
def obstacle? : (room : Nat) → Json → Option Obstacle
  | _, .int n => if isLong n then some .longInteger else none
  | room, .list items => itemsObstacle? room items
  | room, .object fields => fieldsObstacle? room fields
  | _, _ => none

/-- The first obstacle to showing the items of a list. -/
def itemsObstacle? : (room : Nat) → List Json → Option Obstacle
  | _, [] => none
  | 0, _ :: _ => some .nested
  | room + 1, x :: xs => (obstacle? room x).or (itemsObstacle? (room + 1) xs)

/-- The first obstacle to showing the fields of an object. -/
def fieldsObstacle? : (room : Nat) → List (String × Json) → Option Obstacle
  | _, [] => none
  | 0, _ :: _ => some .nested
  | room + 1, (_, x) :: xs => (obstacle? room x).or (fieldsObstacle? (room + 1) xs)

end

end Driftwatch.Json
