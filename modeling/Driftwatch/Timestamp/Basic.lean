/-
Points in time.

* `Timestamp`: a date and a time of day, with or without the distance from the standard time.
* `Timestamp.text`: the point in time as a text, with a given character between the date and
  the time of day.
* `Timestamp.call`: the point in time as the call that builds it; so it is shown inside other
  values.
-/
import Driftwatch.Decimal.Shortest
import Driftwatch.Text.Pieces
import Driftwatch.Timestamp.Calendar

namespace Driftwatch

/-- A point in time. -/
structure Timestamp where
  date : Calendar.Date
  hour : Nat
  minute : Nat
  second : Nat
  microsecond : Nat
  /-- How far the clock is ahead of the standard time, in microseconds, if that is known. -/
  offset : Option Int
  deriving DecidableEq

namespace Timestamp

/-- A numeral, filled with zeros from the left. -/
def padded (width n : Nat) : String :=
  String.ofList (Decimal.padded width n)

/-- A fraction of a second, which is left out if it is zero. -/
def fractionText (microseconds : Nat) : String :=
  if microseconds = 0 then "" else "." ++ padded 6 microseconds

/-- The distance from the standard time: a sign, hours and minutes, and seconds unless they are
zero. -/
def offsetText (offset : Int) : String :=
  let size := offset.natAbs
  let seconds := size / 1000000
  let rest := size % 1000000
  (if offset < 0 then "-" else "+") ++ padded 2 (seconds / 3600) ++ ":" ++
    padded 2 (seconds / 60 % 60) ++
    (if seconds % 60 = 0 ∧ rest = 0 then ""
      else ":" ++ padded 2 (seconds % 60) ++ fractionText rest)

/-- The point in time as a text. -/
def text (separator : String) (t : Timestamp) : String :=
  padded 4 t.date.year ++ "-" ++ padded 2 t.date.month ++ "-" ++ padded 2 t.date.day ++
    separator ++ padded 2 t.hour ++ ":" ++ padded 2 t.minute ++ ":" ++ padded 2 t.second ++
    fractionText t.microsecond ++ (t.offset.map offsetText).getD ""

/-! ### Calls -/

/-- An argument with its name, which is left out if it is zero. -/
def namedPart (name : String) (n : Int) : List String :=
  if n = 0 then [] else [name ++ "=" ++ toString n]

/-- A span of time in microseconds as the call that builds it: whole days, and the seconds and
microseconds of a day. -/
def spanCall (span : Int) : String :=
  let day : Int := 86400000000
  let rest := Int.fmod span day
  let parts :=
    namedPart "days" (Int.fdiv span day) ++ namedPart "seconds" (rest / 1000000) ++
      namedPart "microseconds" (rest % 1000000)
  "datetime.timedelta(" ++ (if parts.isEmpty then "0" else Text.commaList parts) ++ ")"

/-- The distance from the standard time as the value or the call that builds it. -/
def offsetCall (offset : Int) : String :=
  if offset = 0 then "datetime.timezone.utc"
  else "datetime.timezone(" ++ spanCall offset ++ ")"

/-- The point in time as the call that builds it.  Seconds and microseconds are left out if
they and all that follow them are zero. -/
def call (t : Timestamp) : String :=
  let small :=
    if t.microsecond ≠ 0 then [t.second, t.microsecond]
    else if t.second ≠ 0 then [t.second]
    else []
  let numbers := [t.date.year, t.date.month, t.date.day, t.hour, t.minute] ++ small
  let offset := t.offset.toList.map fun o => "tzinfo=" ++ offsetCall o
  "datetime.datetime(" ++ Text.commaList (numbers.map toString ++ offset) ++ ")"

end Timestamp

end Driftwatch
