/-
Code units and surrogate pairs.

* `charsOfUnits`: the characters of a sequence of code units, in which a character beyond
  U+FFFF may stand as itself or as a pair of surrogates.
* `unitsOfChar`: the one or two sixteen-bit units of a character.
-/

namespace Driftwatch.Text

/-- The first half of a surrogate pair. -/
def isHighSurrogate (n : Nat) : Bool :=
  0xd800 ≤ n && n ≤ 0xdbff

/-- The second half of a surrogate pair. -/
def isLowSurrogate (n : Nat) : Bool :=
  0xdc00 ≤ n && n ≤ 0xdfff

/-- The code point of a surrogate pair. -/
def pairCode (high low : Nat) : Nat :=
  0x10000 + (high - 0xd800) * 0x400 + (low - 0xdc00)

/-- The character of a code point; a surrogate that stands alone becomes the replacement
character. -/
def charOfUnit (n : Nat) : Char :=
  if isHighSurrogate n || isLowSurrogate n then '\ufffd' else Char.ofNat n

/-- The characters of a sequence of code units. -/
def charsOfUnits : List Nat → List Char
  | [] => []
  | [n] => [charOfUnit n]
  | n :: m :: rest =>
    if isHighSurrogate n && isLowSurrogate m then
      Char.ofNat (pairCode n m) :: charsOfUnits rest
    else charOfUnit n :: charsOfUnits (m :: rest)

/-- The sixteen-bit code units of a character. -/
def unitsOfChar (c : Char) : List Nat :=
  let n := c.toNat
  if n < 0x10000 then [n]
  else [0xd800 + (n - 0x10000) / 0x400, 0xdc00 + (n - 0x10000) % 0x400]

end Driftwatch.Text
