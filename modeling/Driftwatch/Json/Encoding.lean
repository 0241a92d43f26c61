/-
JSON texts as bytes.

* `Encoding.detect`: the encoding of a text, read off its byte-order mark or, without one, off
  the places of the zero bytes among the first four.
* `Encoding.decode?`: the characters of an encoded text.
* `readBytes`: the value that an encoded text stands for.
-/
import Driftwatch.Json.Reader
import Driftwatch.Text.Surrogate

namespace Driftwatch.Json

/-- Which byte of a unit comes first. -/
inductive ByteOrder
  | big
  | little
  deriving DecidableEq

/-- The encodings of JSON texts. -/
inductive Encoding
  | utf8
  | utf16 (order : ByteOrder)
  | utf32 (order : ByteOrder)
  deriving DecidableEq

namespace Encoding

/-! ### Detection -/

/-- The encoding of a text without a byte-order mark.  The first character of a JSON text is
ASCII, so all its bytes but one are zero. -/
def ofZeros : List UInt8 → Encoding
  | a :: b :: c :: d :: _ =>
    if a = 0 then if b = 0 then .utf32 .big else .utf16 .big
    else if b = 0 then if c = 0 ∧ d = 0 then .utf32 .little else .utf16 .little
    else .utf8
  | [a, b] => if a = 0 then .utf16 .big else if b = 0 then .utf16 .little else .utf8
  | _ => .utf8

/-- The encoding of a text, and the text without its byte-order mark. -/
def detect (bytes : List UInt8) : Encoding × List UInt8 :=
  match bytes with
  | 0x00 :: 0x00 :: 0xfe :: 0xff :: rest => (.utf32 .big, rest)
  | 0xff :: 0xfe :: 0x00 :: 0x00 :: rest => (.utf32 .little, rest)
  | 0xfe :: 0xff :: rest => (.utf16 .big, rest)
  | 0xff :: 0xfe :: rest => (.utf16 .little, rest)
  | 0xef :: 0xbb :: 0xbf :: rest => (.utf8, rest)
  | _ => (ofZeros bytes, bytes)

/-! ### Units -/

/-- The number with two bytes. -/
def unit16 (order : ByteOrder) (a b : UInt8) : Nat :=
  match order with
  | .big => a.toNat * 256 + b.toNat
  | .little => b.toNat * 256 + a.toNat

/-- The number with four bytes. -/
def unit32 (order : ByteOrder) (a b c d : UInt8) : Nat :=
  match order with
  | .big => unit16 .big a b * 65536 + unit16 .big c d
  | .little => unit16 .little c d * 65536 + unit16 .little a b

/-- The units of two bytes each. -/
def units16 (order : ByteOrder) : List UInt8 → Option (List Nat)
  | [] => some []
  | [_] => none
  | a :: b :: rest => (units16 order rest).map (unit16 order a b :: ·)

/-- The code points of four bytes each. -/
def units32 (order : ByteOrder) : List UInt8 → Option (List Nat)
  | [] => some []
  | a :: b :: c :: d :: rest =>
    let n := unit32 order a b c d
    if n < 0x110000 then (units32 order rest).map (n :: ·) else none
  | _ => none

/-- The low six bits of a byte that continues a character. -/
def continuation? (b : UInt8) : Option Nat :=
  if 0x80 ≤ b.toNat ∧ b.toNat < 0xc0 then some (b.toNat - 0x80) else none

/-- The code points of one to four bytes each; every code point has one spelling, the
shortest. -/
def units8 : List UInt8 → Option (List Nat)
  | [] => some []
  | a :: as =>
    let lead := a.toNat
    if lead < 0x80 then (units8 as).map (lead :: ·)
    else if 0xc2 ≤ lead ∧ lead < 0xe0 then
      match as with
      | b :: rest =>
        match continuation? b with
        | some b => (units8 rest).map (((lead - 0xc0) * 64 + b) :: ·)
        | none => none
      | [] => none
    else if 0xe0 ≤ lead ∧ lead < 0xf0 then
      match as with
      | b :: c :: rest =>
        match continuation? b, continuation? c with
        | some b, some c =>
          let n := ((lead - 0xe0) * 64 + b) * 64 + c
          if 0x800 ≤ n then (units8 rest).map (n :: ·) else none
        | _, _ => none
      | _ => none
    else if 0xf0 ≤ lead ∧ lead < 0xf5 then
      match as with
      | b :: c :: d :: rest =>
        match continuation? b, continuation? c, continuation? d with
        | some b, some c, some d =>
          let n := (((lead - 0xf0) * 64 + b) * 64 + c) * 64 + d
          if 0x10000 ≤ n ∧ n < 0x110000 then (units8 rest).map (n :: ·) else none
        | _, _, _ => none
      | _ => none
    else none

/-! ### Characters -/

/-- The characters of an encoded text, if the bytes are well-formed. -/
def decode? (encoding : Encoding) (bytes : List UInt8) : Option (List Char) :=
  match encoding with
  | .utf8 => (units8 bytes).map (List.map Text.charOfUnit)
  | .utf16 order => (units16 order bytes).map Text.charsOfUnits
  | .utf32 order => (units32 order bytes).map (List.map Text.charOfUnit)

end Encoding

/-- The value that an encoded text stands for, with room for so many brackets within one another.
Bytes that cannot be decoded are malformed. -/
def readBytes (room : Nat) (bytes : List UInt8) : Except Reader.Unread Json :=
  let (encoding, rest) := Encoding.detect bytes
  match encoding.decode? rest with
  | some cs => Reader.wholeText room cs
  | none => .error .malformed

end Driftwatch.Json
