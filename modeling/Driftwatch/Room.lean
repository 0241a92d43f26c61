/-
The room that the stack has for nested texts and values.

* `Room`: how deeply texts may be nested that are read, and values that are shown, at each of the
  places where a decision on a change comes upon them.
* `Room.below`: the room that is left below a number of calls.
-/

namespace Driftwatch

/-- How deeply texts and values may be nested before the stack ends. -/
structure Room where
  /-- The brackets that may be open at once in a payload. -/
  payload : Nat
  /-- The brackets that may be open at once in the key of an item. -/
  key : Nat
  /-- The levels below a value that is shown as the time of a deletion. -/
  time : Nat
  /-- The levels below a value that is shown in a reason. -/
  reason : Nat

namespace Room

/-- The calls that the stack has room for. -/
def calls : Nat := 1000

/-- The room that is left below a number of calls.  On the way to each place some more are made. -/
def below (made : Nat) : Room where
  payload := calls - made - 10
  key := calls - made - 11
  time := calls - made - 7
  reason := calls - made - 3

end Room

end Driftwatch
