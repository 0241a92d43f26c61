/-
The shortest decimal text of a floating-point number.

* `Digits`: a natural number with a power of ten.
* `shortest`: the fewest decimal digits that read back as the number, and among those of that
  length the nearest to it.
* `Style`, `render`: how digits become text: which powers of ten are written without an
  exponent, and what the exponent looks like.
-/
import Driftwatch.Decimal.Binary

namespace Driftwatch.Decimal

/-- The number `value * 10 ^ exponent`. -/
structure Digits where
  value : Nat
  exponent : Int
  deriving DecidableEq

/-- The number of decimal digits of a natural number; zero has one. -/
def digitCount (n : Nat) : Nat :=
  (Nat.toDigits 10 n).length

/-- The least number of steps, at most `fuel`, after which multiplying by ten makes `num`
reach `den`. -/
def stepsToReach (num den : Nat) : (fuel : Nat) → Nat
  | 0 => 0
  | fuel + 1 => if den ≤ num then 0 else stepsToReach (num * 10) den fuel + 1

/-- The exponent of the leading decimal digit of a positive quotient. -/
def leadingExponent (num den : Nat) : Int :=
  if den ≤ num then (digitCount (num / den) : Int) - 1
  else -(stepsToReach num den 400 : Int)

/-- The reals that round to a number, as quotients over one denominator: the number itself and
the two ends, which belong to them or not. -/
structure Rounding where
  low : Nat
  value : Nat
  high : Nat
  den : Nat
  closed : Bool

/-- The rounding interval of `m * 2 ^ e`.  Below a power of two the neighbouring numbers stand
twice as close; the ends round to the number itself if its mantissa is even. -/
def Rounding.of (m : Nat) (e : Int) : Rounding :=
  let lowGap := if m = leadingOne ∧ e ≠ -1074 then 1 else 2
  let scale := if 2 ≤ e then 1 <<< (e - 2).toNat else 1
  { low := (4 * m - lowGap) * scale
    value := 4 * m * scale
    high := (4 * m + 2) * scale
    den := if 2 ≤ e then 1 else 1 <<< (2 - e).toNat
    closed := m % 2 == 0 }

/-- The quotient `num / den` rounds to the number. -/
def Rounding.admits (r : Rounding) (num den : Nat) : Bool :=
  let x := num * r.den
  if r.closed then r.low * den ≤ x && x ≤ r.high * den
  else r.low * den < x && x < r.high * den

/-- The nearer of the two points next to the value on the grid of multiples of `10 ^ k`, among
those that round to it; of two equally near ones the even. -/
def Rounding.onGrid (r : Rounding) (k : Int) : Option Nat :=
  let up := if 0 ≤ k then Nat.pow 10 k.toNat else 1
  let down := if 0 ≤ k then 1 else Nat.pow 10 (-k).toNat
  let num := r.value * down
  let den := r.den * up
  let c := num / den
  let below := r.admits (c * up) down
  let above := r.admits ((c + 1) * up) down
  if below && above then some (roundHalfEven num den)
  else if below then some c
  else if above then some (c + 1)
  else none

/-- A number without the zeros at its end, which go into the power of ten. -/
def Digits.strip (d : Digits) : (fuel : Nat) → Digits
  | 0 => d
  | fuel + 1 =>
    if d.value ≠ 0 ∧ d.value % 10 = 0 then
      Digits.strip { value := d.value / 10, exponent := d.exponent + 1 } fuel
    else d

/-- The shortest digits that read back as `m * 2 ^ e`, for a positive `m`: the first of the
decimal grids, from one digit to seventeen, that has a point which rounds to it. -/
def shortest (m : Nat) (e : Int) : Digits :=
  let r := Rounding.of m e
  let p := leadingExponent r.value r.den
  let found := (List.range 17).findSome? fun (i : Nat) =>
    let k : Int := p - (i : Int)
    (r.onGrid k).map fun c => (Digits.mk c k).strip 20
  found.getD { value := m, exponent := 0 }

/-- How the digits of a number are written. -/
structure Style where
  /-- The least exponent of the leading digit that is written without an exponent. -/
  leastPlain : Int
  /-- The greatest exponent of the leading digit that is written without an exponent. -/
  greatestPlain : Int
  /-- The least number of digits of an exponent. -/
  exponentWidth : Nat
  /-- The text of the positive infinity. -/
  infinity : String
  /-- The text of what is not a number. -/
  notANumber : String

/-- The digits of a natural number with zeros before them up to a width. -/
def padded (width n : Nat) : List Char :=
  let ds := Nat.toDigits 10 n
  List.replicate (width - ds.length) '0' ++ ds

/-- Digits with a point: positional, with at least one digit on either side of the point. -/
def positional (ds : List Char) (lead : Int) : List Char :=
  if lead < 0 then '0' :: '.' :: List.replicate (-lead - 1).toNat '0' ++ ds
  else
    let whole := lead.toNat + 1
    let fraction := ds.drop whole
    ds.take whole ++ List.replicate (whole - ds.length) '0' ++
      '.' :: (if fraction.isEmpty then ['0'] else fraction)

/-- Digits with an exponent: one digit before the point, and no point if it is the only one. -/
def scientific (width : Nat) (ds : List Char) (lead : Int) : List Char :=
  let tail := ds.drop 1
  ds.take 1 ++ (if tail.isEmpty then [] else '.' :: tail) ++
    'e' :: (if lead < 0 then '-' else '+') :: padded width lead.natAbs

/-- The text of digits in a style. -/
def Digits.text (style : Style) (d : Digits) : List Char :=
  let ds := Nat.toDigits 10 d.value
  let lead := d.exponent + ds.length - 1
  if style.leastPlain ≤ lead ∧ lead ≤ style.greatestPlain then positional ds lead
  else scientific style.exponentWidth ds lead

/-- The text of a floating-point number in a style. -/
def render (style : Style) (x : Float) : String :=
  let signed (negative : Bool) (s : String) := if negative then "-" ++ s else s
  match Binary.ofFloat x with
  | .notANumber => style.notANumber
  | .infinite negative => signed negative style.infinity
  | .finite negative 0 _ => signed negative "0.0"
  | .finite negative (m + 1) e =>
    signed negative (String.ofList ((shortest (m + 1) e).text style))

/-- Numbers from a ten-thousandth up to ten quadrillions are written without an exponent;
exponents have a sign and at least two digits. -/
def plainStyle : Style :=
  { leastPlain := -4, greatestPlain := 15, exponentWidth := 2,
    infinity := "inf", notANumber := "nan" }

/-- The shortest text that reads back as the number. -/
def text (x : Float) : String :=
  render plainStyle x

end Driftwatch.Decimal
