/-
Numerals in base thirty-six.

* `digits`: the digits of a positive number, the leading one first.
* `encode`: the numeral, with the ten decimal digits and the twenty-six small letters.
-/

namespace Driftwatch.Base36

/-- The character of a digit. -/
def digitChar (d : Nat) : Char :=
  if d < 10 then Char.ofNat (48 + d) else Char.ofNat (87 + d)

/-- The digits of a number, the leading one first; zero has none.  A number never has more
digits than its own value, which bounds the recursion. -/
def digits : (bound : Nat) → (n : Nat) → List Nat
  | 0, _ => []
  | bound + 1, n => if n = 0 then [] else digits bound (n / 36) ++ [n % 36]

/-- The characters of a numeral. -/
def encodeChars (n : Nat) : List Char :=
  if n = 0 then ['0'] else (digits n n).map digitChar

/-- The numeral of a number. -/
def encode (n : Nat) : String :=
  String.ofList (encodeChars n)

end Driftwatch.Base36
