/-
Hexadecimal numerals of a fixed width.

* `hexDigit`: one digit, in lower or in upper case.
* `hexFixed`: the last `width` digits of a number, leading zeros included.
* `hexValue?`: the value of a digit of either case.
-/

namespace Driftwatch.Text

/-- Which letters stand for the digits from ten on. -/
inductive HexCase
  | lower
  | upper

/-- The digit of a number below sixteen. -/
def hexDigit (letters : HexCase) (n : Nat) : Char :=
  if n < 10 then Char.ofNat (48 + n)
  else match letters with
    | .lower => Char.ofNat (87 + n)
    | .upper => Char.ofNat (55 + n)

/-- The last `width` hexadecimal digits of a number. -/
def hexFixed (letters : HexCase) : (width : Nat) → (n : Nat) → List Char
  | 0, _ => []
  | width + 1, n => hexFixed letters width (n / 16) ++ [hexDigit letters (n % 16)]

/-- A fixed-width numeral has that width. -/
theorem length_hexFixed (letters : HexCase) (width n : Nat) :
    (hexFixed letters width n).length = width := by
  induction width generalizing n with
  | zero => rfl
  | succ w ih => simp [hexFixed, ih]

/-- The value of a hexadecimal digit. -/
def hexValue? (c : Char) : Option Nat :=
  if '0' ≤ c ∧ c ≤ '9' then some (c.toNat - 48)
  else if 'a' ≤ c ∧ c ≤ 'f' then some (c.toNat - 87)
  else if 'A' ≤ c ∧ c ≤ 'F' then some (c.toNat - 55)
  else none

end Driftwatch.Text
