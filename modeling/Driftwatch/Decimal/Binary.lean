/-
The exact value of a binary floating-point number.

* `Binary`: not a number, an infinity, or a sign with a mantissa and a power of two.
* `Binary.ofFloat`: the value that a `Float` stands for.
* `roundHalfEven`: a quotient rounded to the nearest integer, halves to the even neighbour.
* `nearestInt`: the integer nearest to a `Float`.
* `equalsInt`: comparison of a `Float` with an integer, without rounding.
-/

namespace Driftwatch.Decimal

/-- What a floating-point number stands for. -/
inductive Binary
  | notANumber
  | infinite (negative : Bool)
  /-- The number `mantissa * 2 ^ exponent`, or its opposite. -/
  | finite (negative : Bool) (mantissa : Nat) (exponent : Int)
  deriving DecidableEq

/-- The leading one of a mantissa: two to the power of fifty-two. -/
def leadingOne : Nat := 1 <<< 52

/-- The value of a `Float`, read off its bits: one for the sign, eleven for the exponent, and
fifty-two for the mantissa, which has a leading one unless the exponent bits are zero. -/
def Binary.ofFloat (x : Float) : Binary :=
  let bits := x.toBits.toNat
  let negative := bits >>> 63 == 1
  let exponent : Nat := (bits >>> 52) % 2048
  let fraction : Nat := bits % leadingOne
  if exponent = 2047 then
    if fraction = 0 then .infinite negative else .notANumber
  else if exponent = 0 then .finite negative fraction (-1074)
  else .finite negative (leadingOne + fraction) ((exponent : Int) - 1075)

/-- Neither an infinity nor not a number. -/
def Binary.isFinite : Binary → Bool
  | .finite .. => true
  | _ => false

/-- Zero of either sign. -/
def Binary.isZero : Binary → Bool
  | .finite _ 0 _ => true
  | _ => false

/-- The quotient of two natural numbers rounded to the nearest one, halves to the even one. -/
def roundHalfEven (num den : Nat) : Nat :=
  let q := num / den
  let r := num % den
  if 2 * r < den then q
  else if den < 2 * r then q + 1
  else if q % 2 = 0 then q else q + 1

/-- The integer nearest to a number, halves to the even one; infinities and what is not a number
have none. -/
def nearestInt (x : Float) : Option Int :=
  match Binary.ofFloat x with
  | .finite negative m e =>
    let n := if 0 ≤ e then m <<< e.toNat else roundHalfEven m (1 <<< (-e).toNat)
    some (if negative then -(n : Int) else n)
  | _ => none

/-- The number is exactly the given integer. -/
def equalsInt (x : Float) (n : Int) : Bool :=
  match Binary.ofFloat x with
  | .finite negative m e =>
    let sign : Int := if negative then -1 else 1
    if 0 ≤ e then sign * (m <<< e.toNat : Nat) == n
    else sign * m == n * (1 <<< (-e).toNat : Nat)
  | _ => false

end Driftwatch.Decimal
