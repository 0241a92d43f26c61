/-
Reading points in time.

* `Timestamp.read`: the point in time that a text stands for.
* `Timestamp.Error`: why a text stands for none.

A date is written with or without dashes, by month and day or by week and weekday.  Any character
may stand between the date and the time of day, which is written with or without colons, down to
fractions of a second, and may have the distance from the standard time behind it.
-/
import Driftwatch.Text.Quoted
import Driftwatch.Timestamp.Basic

namespace Driftwatch.Timestamp

/-- Why a text stands for no point in time. -/
inductive Error
  | malformed (text : String)
  /-- The distance from the standard time is a day or more. -/
  | offset (span : Int)
  | year (number : Nat)
  | month
  | day
  | hour
  | minute
  | second
  deriving DecidableEq

/-- The wording of an error. -/
def Error.message : Error → String
  | .malformed text => "Invalid isoformat string: " ++ Text.quote text
  | .offset span =>
    "offset must be a timedelta strictly between -timedelta(hours=24) and " ++
      "timedelta(hours=24), not " ++ spanCall span ++ "."
  | .year number => "year " ++ toString number ++ " is out of range"
  | .month => "month must be in 1..12"
  | .day => "day is out of range for month"
  | .hour => "hour must be in 0..23"
  | .minute => "minute must be in 0..59"
  | .second => "second must be in 0..59"

namespace Reader

/-- The number with as many digits as are asked for, and what follows it. -/
def number? (digits : Nat) (cs : List Char) : Option (Nat × List Char) :=
  let ds := cs.take digits
  if ds.length = digits ∧ ds.all Char.isDigit = true then
    some (ds.foldl (fun n d => 10 * n + (d.toNat - 48)) 0, cs.drop digits)
  else none

/-! ### Dates -/

/-- How many characters the date has.  Where a week is followed by a dash and two digits, the
dash is taken to stand between the date and the time of day. -/
def dateLength (cs : List Char) : Nat :=
  if cs.length = 7 then 7
  else match cs.drop 4 with
    | '-' :: 'W' :: _ :: _ :: '-' :: _ :: c :: _ => if c.isDigit then 8 else 10
    | '-' :: 'W' :: _ :: _ :: '-' :: _ => 10
    | '-' :: 'W' :: _ => 8
    | '-' :: _ => 10
    | 'W' :: _ =>
      let digits := ((cs.drop 7).takeWhile Char.isDigit).length
      if digits < 2 then 7 + digits else if digits % 2 = 1 then 7 else 8
    | _ => 8

/-- The text without a dash at its start, which must be there if one is asked for. -/
def dash? (wanted : Bool) (cs : List Char) : Option (List Char) :=
  if wanted then
    match cs with
    | '-' :: rest => some rest
    | _ => none
  else some cs

/-- The day of the week at the end of a date; none is Monday. -/
def weekday? (dashes : Bool) (cs : List Char) : Option Nat :=
  if cs.isEmpty then some 1
  else do
    let cs ← dash? dashes cs
    let (weekday, _) ← number? 1 cs
    return weekday

/-- The date that a text stands for.  Months and days are not looked at more closely. -/
def date? (cs : List Char) : Option Calendar.Date := do
  let (year, cs) ← number? 4 cs
  let dashes := cs.head? == some '-'
  match ← dash? dashes cs with
  | 'W' :: cs =>
    let (week, cs) ← number? 2 cs
    Calendar.ofWeek? year week (← weekday? dashes cs)
  | cs =>
    let (month, cs) ← number? 2 cs
    let (day, _) ← number? 2 (← dash? dashes cs)
    return { year, month, day }

/-! ### Times of day -/

/-- What stands behind the numbers of a time of day. -/
inductive Tail
  /-- The text is over, or something is left over. -/
  | ended (leftOver : Bool)
  | fraction (cs : List Char)

/-- The numbers of two digits at the start of a time of day, at most as many as are asked for.
The first two tell whether there are colons between them. -/
def numbers? (more : Bool) :
    (count : Nat) → (colons : Option Bool) → List Char → Option (List Nat × Tail)
  | 0, _, cs => some ([], .fraction cs)
  | count + 1, colons, cs => do
    let (n, rest) ← number? 2 cs
    match rest with
    | [] => return ([n], .ended more)
    | [_] => return ([n], .ended true)
    | c :: behind =>
      let colons := colons.getD (c == ':')
      if c = '.' ∨ c = ',' then return ([n], .fraction behind)
      else if colons = true ∧ c ≠ ':' then none
      else
        let (ns, tail) ← numbers? more count (some colons) (if colons then behind else rest)
        return (n :: ns, tail)

/-- The microseconds of a fraction of a second; digits after the sixth do not count.  Whether
something is left over is told as well. -/
def fraction? (more : Bool) (cs : List Char) : Option (Nat × Bool) :=
  let width := min 6 cs.length
  (number? width cs).map fun (n, rest) =>
    (n * Nat.pow 10 (6 - width), !(rest.dropWhile Char.isDigit).isEmpty || more)

/-- A time of day, and whether something is left over. -/
structure Clock where
  hour : Nat
  minute : Nat
  second : Nat
  microsecond : Nat
  leftOver : Bool

/-- The time of day that a text stands for; `more` tells that something follows the text. -/
def clock? (more : Bool) (cs : List Char) : Option Clock := do
  let (ns, tail) ← numbers? more 3 none cs
  let (microsecond, leftOver) ←
    match tail with
    | .ended leftOver => pure (0, leftOver)
    | .fraction cs => fraction? more cs
  return {
    hour := ns.headD 0
    minute := (ns.drop 1).headD 0
    second := (ns.drop 2).headD 0
    microsecond, leftOver }

/-- The character begins the distance from the standard time. -/
def beginsOffset (c : Char) : Bool :=
  c == '+' || c == '-' || c == 'Z'

/-- The distance from the standard time.  One of less than a second is none. -/
def offset? : List Char → Option Int
  | ['Z'] => some 0
  | 'Z' :: _ => none
  | sign :: cs => do
    let c ← clock? false cs
    let seconds := 3600 * c.hour + 60 * c.minute + c.second
    let size : Int := if seconds = 0 then 0 else 1000000 * seconds + c.microsecond
    if c.leftOver then none else some (if sign = '-' then -size else size)
  | [] => none

/-- The time of day and the distance from the standard time that a text stands for. -/
def time? (cs : List Char) : Option (Clock × Option Int) := do
  let zone := cs.dropWhile fun c => !beginsOffset c
  let clock ← clock? (!zone.isEmpty) (cs.takeWhile fun c => !beginsOffset c)
  if zone.isEmpty then if clock.leftOver then none else return (clock, none)
  else return (clock, some (← offset? zone))

/-- The parts of a text: its date, and its time of day if it has one. -/
def parts? (cs : List Char) : Option (Calendar.Date × Clock × Option Int) := do
  if cs.length < 7 then none
  let size := dateLength cs
  let date ← date? (cs.take size)
  match cs.drop size with
  | [] => return (date, ⟨0, 0, 0, 0, false⟩, none)
  | _ :: cs => return (date, ← time? cs)

end Reader

/-- The error in parts that are out of their ranges. -/
def check (t : Timestamp) : Except Error Timestamp :=
  if 86400000000 ≤ (t.offset.getD 0).natAbs then .error (.offset (t.offset.getD 0))
  else if t.date.year < 1 ∨ 9999 < t.date.year then .error (.year t.date.year)
  else if t.date.month < 1 ∨ 12 < t.date.month then .error .month
  else if t.date.day < 1 ∨ Calendar.monthLength t.date.year t.date.month < t.date.day then
    .error .day
  else if 23 < t.hour then .error .hour
  else if 59 < t.minute then .error .minute
  else if 59 < t.second then .error .second
  else .ok t

/-- The point in time that a text stands for. -/
def read (s : String) : Except Error Timestamp :=
  match Reader.parts? s.toList with
  | none => .error (.malformed s)
  | some (date, clock, offset) =>
    check
      { date, hour := clock.hour, minute := clock.minute, second := clock.second
        microsecond := clock.microsecond, offset }

end Driftwatch.Timestamp
