/-
White space.

* `isBlank`: the white-space characters of Unicode, together with the four separators
  U+001C to U+001F.
* `trim`: a text without the white space at its two ends.
* `isBlankText`: a text that is nothing but white space.
-/

namespace Driftwatch.Text

/-- The white-space characters.  The zero-width space, the word joiner and the byte-order mark
are not among them. -/
def isBlank (c : Char) : Bool :=
  let n := c.toNat
  (9 ≤ n && n ≤ 13) || (28 ≤ n && n ≤ 32) || n == 0x85 || n == 0xa0 || n == 0x1680 ||
    (0x2000 ≤ n && n ≤ 0x200a) || n == 0x2028 || n == 0x2029 || n == 0x202f || n == 0x205f ||
    n == 0x3000

/-- The characters of a text without the blanks at its two ends. -/
def trimChars (cs : List Char) : List Char :=
  ((cs.dropWhile isBlank).reverse.dropWhile isBlank).reverse

/-- A text without the white space at its two ends. -/
def trim (s : String) : String :=
  String.ofList (trimChars s.toList)

/-- The text is empty or nothing but white space. -/
def isBlankText (s : String) : Bool :=
  s.toList.all isBlank

end Driftwatch.Text
