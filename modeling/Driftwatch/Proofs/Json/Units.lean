/-
The bytes of encoded texts.

* `Encoding.unitBytes`: the bytes of a unit, which is a code point, or in UTF-16 half of a surrogate
  pair.
* `Encoding.Holds`: bytes are those of units.
* `Encoding.units?_eq_some_iff`: the units that bytes are read as are those whose bytes they are.
-/
import Driftwatch.Json.Encoding
import Mathlib.Tactic.Lemma
import Mathlib.Tactic.SplitIfs

namespace Driftwatch.Json

/-- The bytes of a number in an order, given with the leading one first. -/
def ByteOrder.arrange (order : ByteOrder) (bytes : List UInt8) : List UInt8 :=
  match order with
  | .big => bytes
  | .little => bytes.reverse

namespace Encoding

/-! ### Bytes of units -/

/-- The bytes of a code point, one to four of them. -/
def bytes8 (n : Nat) : List UInt8 :=
  if n < 0x80 then [.ofNat n]
  else if n < 0x800 then [.ofNat (0xc0 + n / 64), .ofNat (0x80 + n % 64)]
  else if n < 0x10000 then
    [.ofNat (0xe0 + n / 4096), .ofNat (0x80 + n / 64 % 64), .ofNat (0x80 + n % 64)]
  else
    [.ofNat (0xf0 + n / 262144), .ofNat (0x80 + n / 4096 % 64), .ofNat (0x80 + n / 64 % 64),
      .ofNat (0x80 + n % 64)]

/-- The bytes of a unit. -/
def unitBytes (encoding : Encoding) (n : Nat) : List UInt8 :=
  match encoding with
  | .utf8 => bytes8 n
  | .utf16 order => order.arrange [.ofNat (n / 256), .ofNat (n % 256)]
  | .utf32 order =>
    order.arrange [.ofNat (n / 16777216), .ofNat (n / 65536 % 256), .ofNat (n / 256 % 256),
      .ofNat (n % 256)]

/-- Units are below this number. -/
def limit : Encoding → Nat
  | .utf16 _ => 0x10000
  | _ => 0x110000

/-! ### Units that bytes are those of -/

/-- The bytes are those of the units. -/
def Holds (encoding : Encoding) (bytes : List UInt8) (us : List Nat) : Prop :=
  bytes = us.flatMap encoding.unitBytes ∧ ∀ n ∈ us, n < encoding.limit

lemma Holds.nil (encoding : Encoding) : encoding.Holds [] [] :=
  ⟨rfl, by simp⟩

/-- The bytes of a unit before those of others. -/
lemma Holds.of_map {encoding : Encoding} {n : Nat} {bytes : List UInt8} {read : Option (List Nat)}
    {us : List Nat} (h : read.map (n :: ·) = some us) (valid : n < encoding.limit)
    (rest : ∀ {vs}, read = some vs → encoding.Holds bytes vs) :
    encoding.Holds (encoding.unitBytes n ++ bytes) us := by
  obtain ⟨vs, found, rfl⟩ := Option.map_eq_some_iff.mp h
  obtain ⟨rfl, below⟩ := rest found
  exact ⟨rfl, List.forall_mem_cons.mpr ⟨valid, below⟩⟩

/-! ### Code points of one to four bytes -/

lemma toNat_ofNat {n : Nat} (h : n < 256) : (UInt8.ofNat n).toNat = n :=
  UInt8.toNat_ofNat_of_lt' h

lemma eq_ofNat_iff {a : UInt8} {n : Nat} (h : n < 256) : a = .ofNat n ↔ a.toNat = n := by
  rw [← UInt8.toNat_inj, toNat_ofNat h]

/-- The bytes that continue a character. -/
lemma continuation?_eq_some_iff {b : UInt8} {n : Nat} :
    continuation? b = some n ↔ n < 64 ∧ b = .ofNat (0x80 + n) := by
  have below := b.toNat_lt
  rw [continuation?]
  constructor
  · intro read
    split_ifs at read
    obtain rfl := Option.some.inj read
    exact ⟨by omega, (eq_ofNat_iff (by omega)).mpr (by omega)⟩
  · rintro ⟨small, rfl⟩
    rw [toNat_ofNat (by omega), if_pos (by omega), Nat.add_sub_cancel_left]

/-- A code point is read from its bytes. -/
lemma units8_bytes8 {n : Nat} (valid : n < 0x110000) (rest : List UInt8) :
    units8 (bytes8 n ++ rest) = (units8 rest).map (n :: ·) := by
  have continues (m : Nat) : continuation? (.ofNat (0x80 + m % 64)) = some (m % 64) :=
    continuation?_eq_some_iff.mpr ⟨by omega, rfl⟩
  rw [bytes8]
  split_ifs with one two three
  · rw [List.singleton_append, units8.eq_def]
    dsimp only
    rw [toNat_ofNat (by omega), if_pos one]
  · simp only [List.cons_append, List.nil_append]
    rw [units8.eq_def]
    dsimp only
    rw [toNat_ofNat (by omega), if_neg (by omega), if_pos (by omega), continues]
    dsimp only
    have value : (0xc0 + n / 64 - 0xc0) * 64 + n % 64 = n := by omega
    rw [value]
  · simp only [List.cons_append, List.nil_append]
    rw [units8.eq_def]
    dsimp only
    rw [toNat_ofNat (by omega), if_neg (by omega), if_neg (by omega), if_pos (by omega), continues,
      continues]
    dsimp only
    have value : ((0xe0 + n / 4096 - 0xe0) * 64 + n / 64 % 64) * 64 + n % 64 = n := by omega
    rw [value, if_pos (by omega)]
  · simp only [List.cons_append, List.nil_append]
    rw [units8.eq_def]
    dsimp only
    rw [toNat_ofNat (by omega), if_neg (by omega), if_neg (by omega), if_neg (by omega),
      if_pos (by omega), continues, continues, continues]
    dsimp only
    have value : (((0xf0 + n / 262144 - 0xf0) * 64 + n / 4096 % 64) * 64 + n / 64 % 64) * 64 +
        n % 64 = n := by omega
    rw [value, if_pos (by omega)]

/-- What is read as code points are their bytes. -/
lemma holds_units8 {bytes : List UInt8} {us : List Nat} (h : units8 bytes = some us) :
    Holds .utf8 bytes us := by
  fun_induction units8 bytes generalizing us with
  | case1 =>
      obtain rfl := Option.some.inj h
      exact .nil _
  | case2 a as lead ascii =>
      rename_i ih
      have first : bytes8 lead = [a] := by
        rw [bytes8, if_pos ascii, UInt8.ofNat_toNat]
      have held : Holds .utf8 (bytes8 lead ++ as) us := .of_map h (by simp only [limit]; omega) ih
      rwa [first] at held
  | case3 a lead _ range b rest m continued =>
      rename_i ih
      obtain ⟨small, rfl⟩ := continuation?_eq_some_iff.mp continued
      have leading : 0xc0 + ((lead - 0xc0) * 64 + m) / 64 = a.toNat := by omega
      have second : ((lead - 0xc0) * 64 + m) % 64 = m := by omega
      have first : bytes8 ((lead - 0xc0) * 64 + m) = [a, .ofNat (0x80 + m)] := by
        rw [bytes8, if_neg (by omega), if_pos (by omega), leading, second, UInt8.ofNat_toNat]
      have held : Holds .utf8 (bytes8 ((lead - 0xc0) * 64 + m) ++ rest) us :=
        .of_map h (by simp only [limit]; omega) ih
      rwa [first] at held
  | case6 a lead _ _ range b c rest m k continued continued' n wide =>
      rename_i ih
      obtain ⟨small, rfl⟩ := continuation?_eq_some_iff.mp continued
      obtain ⟨small', rfl⟩ := continuation?_eq_some_iff.mp continued'
      have leading : 0xe0 + n / 4096 = a.toNat := by omega
      have second : n / 64 % 64 = m := by omega
      have third : n % 64 = k := by omega
      have first : bytes8 n = [a, .ofNat (0x80 + m), .ofNat (0x80 + k)] := by
        rw [bytes8, if_neg (by omega), if_neg (by omega), if_pos (by omega), leading, second, third,
          UInt8.ofNat_toNat]
      have held : Holds .utf8 (bytes8 n ++ rest) us := .of_map h (by simp only [limit]; omega) ih
      rwa [first] at held
  | case10 a lead _ _ _ range b c d rest m k l continued continued' continued'' n wide =>
      rename_i ih
      obtain ⟨small, rfl⟩ := continuation?_eq_some_iff.mp continued
      obtain ⟨small', rfl⟩ := continuation?_eq_some_iff.mp continued'
      obtain ⟨small'', rfl⟩ := continuation?_eq_some_iff.mp continued''
      have leading : 0xf0 + n / 262144 = a.toNat := by omega
      have second : n / 4096 % 64 = m := by omega
      have third : n / 64 % 64 = k := by omega
      have fourth : n % 64 = l := by omega
      have first : bytes8 n = [a, .ofNat (0x80 + m), .ofNat (0x80 + k), .ofNat (0x80 + l)] := by
        rw [bytes8, if_neg (by omega), if_neg (by omega), if_neg (by omega), leading, second, third,
          fourth, UInt8.ofNat_toNat]
      have held : Holds .utf8 (bytes8 n ++ rest) us := .of_map h (by simp only [limit]; omega) ih
      rwa [first] at held
  | case4 => simp at h
  | case5 => simp at h
  | case7 => simp at h
  | case8 => simp at h
  | case9 => simp at h
  | case11 => simp at h
  | case12 => simp at h
  | case13 => simp at h
  | case14 => simp at h

/-! ### Units of two bytes -/

/-- The number with two bytes, the first one leading. -/
lemma unit16_ofNat {n : Nat} (valid : n < 0x10000) :
    unit16 .big (.ofNat (n / 256)) (.ofNat (n % 256)) = n := by
  rw [unit16, toNat_ofNat (by omega), toNat_ofNat (by omega)]
  omega

/-- A unit of two bytes is read. -/
lemma units16_unitBytes (order : ByteOrder) {n : Nat} (valid : n < 0x10000) (rest : List UInt8) :
    units16 order (unitBytes (.utf16 order) n ++ rest) = (units16 order rest).map (n :: ·) := by
  -- in either order the unit is the number with its leading byte first
  have step : units16 order (unitBytes (.utf16 order) n ++ rest) = (units16 order rest).map
      (unit16 .big (.ofNat (n / 256)) (.ofNat (n % 256)) :: ·) := by
    cases order <;> rfl
  rw [step, unit16_ofNat valid]

/-- Two bytes are those of the unit that they are read as. -/
lemma unitBytes_unit16 (order : ByteOrder) (a b : UInt8) :
    unit16 order a b < 0x10000 ∧ unitBytes (.utf16 order) (unit16 order a b) = [a, b] := by
  have big (a b : UInt8) : unit16 .big a b < 0x10000 ∧
      UInt8.ofNat (unit16 .big a b / 256) = a ∧ UInt8.ofNat (unit16 .big a b % 256) = b := by
    have small := a.toNat_lt
    have small' := b.toNat_lt
    have first : (a.toNat * 256 + b.toNat) / 256 = a.toNat := by omega
    have second : (a.toNat * 256 + b.toNat) % 256 = b.toNat := by omega
    rw [unit16, first, second, UInt8.ofNat_toNat, UInt8.ofNat_toNat]
    exact ⟨by omega, rfl, rfl⟩
  cases order with
  | big =>
      obtain ⟨valid, first, second⟩ := big a b
      exact ⟨valid, by rw [unitBytes, first, second]; rfl⟩
  | little =>
      obtain ⟨valid, first, second⟩ := big b a
      change unit16 .big b a < _ ∧ unitBytes _ (unit16 .big b a) = _
      exact ⟨valid, by rw [unitBytes, first, second]; rfl⟩

/-- What is read as units of two bytes are their bytes. -/
lemma holds_units16 {order : ByteOrder} {bytes : List UInt8} {us : List Nat}
    (h : units16 order bytes = some us) : Holds (.utf16 order) bytes us := by
  fun_induction units16 order bytes generalizing us with
  | case1 =>
      obtain rfl := Option.some.inj h
      exact .nil _
  | case2 => simp at h
  | case3 a b rest ih =>
      obtain ⟨valid, first⟩ := unitBytes_unit16 order a b
      have held : Holds (.utf16 order) (unitBytes _ _ ++ rest) us := .of_map h valid ih
      rwa [first] at held

/-! ### Code points of four bytes -/

/-- A code point is read from its four bytes. -/
lemma units32_unitBytes (order : ByteOrder) {n : Nat} (valid : n < 0x110000) (rest : List UInt8) :
    units32 order (unitBytes (.utf32 order) n ++ rest) = (units32 order rest).map (n :: ·) := by
  have value : unit32 .big (.ofNat (n / 16777216)) (.ofNat (n / 65536 % 256))
      (.ofNat (n / 256 % 256)) (.ofNat (n % 256)) = n := by
    simp only [unit32, unit16]
    rw [toNat_ofNat (by omega), toNat_ofNat (by omega), toNat_ofNat (by omega),
      toNat_ofNat (by omega)]
    omega
  have step : units32 order (unitBytes (.utf32 order) n ++ rest) =
      let m := unit32 .big (.ofNat (n / 16777216)) (.ofNat (n / 65536 % 256))
        (.ofNat (n / 256 % 256)) (.ofNat (n % 256))
      if m < 0x110000 then (units32 order rest).map (m :: ·) else none := by
    cases order <;> rfl
  rw [step, value]
  exact if_pos valid

/-- Four bytes are those of the number that they are read as. -/
lemma unitBytes_unit32 (order : ByteOrder) (a b c d : UInt8) :
    unitBytes (.utf32 order) (unit32 order a b c d) = [a, b, c, d] := by
  have big (a b c d : UInt8) :
      UInt8.ofNat (unit32 .big a b c d / 16777216) = a ∧
        UInt8.ofNat (unit32 .big a b c d / 65536 % 256) = b ∧
          UInt8.ofNat (unit32 .big a b c d / 256 % 256) = c ∧
            UInt8.ofNat (unit32 .big a b c d % 256) = d := by
    have small := b.toNat_lt
    have small' := c.toNat_lt
    have small'' := d.toNat_lt
    have value : unit32 .big a b c d =
      (a.toNat * 256 + b.toNat) * 65536 + (c.toNat * 256 + d.toNat) := rfl
    have first : unit32 .big a b c d / 16777216 = a.toNat := by omega
    have second : unit32 .big a b c d / 65536 % 256 = b.toNat := by omega
    have third : unit32 .big a b c d / 256 % 256 = c.toNat := by omega
    have fourth : unit32 .big a b c d % 256 = d.toNat := by omega
    rw [first, second, third, fourth]
    simp only [UInt8.ofNat_toNat, and_self]
  cases order with
  | big =>
      obtain ⟨first, second, third, fourth⟩ := big a b c d
      rw [unitBytes, first, second, third, fourth]
      rfl
  | little =>
      obtain ⟨first, second, third, fourth⟩ := big d c b a
      change unitBytes _ (unit32 .big d c b a) = _
      rw [unitBytes, first, second, third, fourth]
      rfl

/-- What is read as code points of four bytes are their bytes. -/
lemma holds_units32 {order : ByteOrder} {bytes : List UInt8} {us : List Nat}
    (h : units32 order bytes = some us) : Holds (.utf32 order) bytes us := by
  fun_induction units32 order bytes generalizing us with
  | case1 =>
      obtain rfl := Option.some.inj h
      exact .nil _
  | case2 a b c d rest n valid =>
      rename_i ih
      have first : unitBytes (.utf32 order) n = [a, b, c, d] := unitBytes_unit32 order a b c d
      have held : Holds (.utf32 order) (unitBytes _ n ++ rest) us := .of_map h valid ih
      rwa [first] at held
  | case3 => simp at h
  | case4 => simp at h

/-! ### Any encoding -/

/-- The units that bytes are read as. -/
def units? (encoding : Encoding) (bytes : List UInt8) : Option (List Nat) :=
  match encoding with
  | .utf8 => units8 bytes
  | .utf16 order => units16 order bytes
  | .utf32 order => units32 order bytes

/-- A unit is read from its bytes. -/
lemma units?_unitBytes (encoding : Encoding) {n : Nat} (valid : n < encoding.limit)
    (rest : List UInt8) :
    encoding.units? (encoding.unitBytes n ++ rest) = (encoding.units? rest).map (n :: ·) := by
  cases encoding with
  | utf8 => exact units8_bytes8 valid rest
  | utf16 order => exact units16_unitBytes order valid rest
  | utf32 order => exact units32_unitBytes order valid rest

/-- The units that are read are those whose bytes they are. -/
lemma units?_eq_some_iff {encoding : Encoding} {bytes : List UInt8} {us : List Nat} :
    encoding.units? bytes = some us ↔ encoding.Holds bytes us := by
  constructor
  · intro read
    cases encoding with
    | utf8 => exact holds_units8 read
    | utf16 order => exact holds_units16 read
    | utf32 order => exact holds_units32 read
  · rintro ⟨rfl, valid⟩
    induction us with
    | nil => cases encoding <;> rfl
    | cons n us ih =>
        obtain ⟨first, others⟩ := List.forall_mem_cons.mp valid
        rw [List.flatMap_cons, units?_unitBytes encoding first, ih others]
        rfl

end Encoding

end Driftwatch.Json
