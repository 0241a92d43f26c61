/-
Reading encoded JSON texts.

* `Encoding.encode`, `Encoding.mark`: the bytes of a text, and the mark that can stand before them.
* `Encoding.detect_units`, `Encoding.detect_mark`: the encoding of a JSON text is found out, without
  the mark and with it.
* `readBytes_eq_ok_iff`: the value that bytes are read as is the one that they are the bytes of a
  text of.
* `readBytes_eq_tooDeep_iff`: bytes of a text that is nested too deeply.
* `IsTextOf.isBytesOf`: a JSON text is recognized in any encoding.
-/
import Driftwatch.Proofs.Json.Nesting
import Driftwatch.Proofs.Json.Units

namespace Driftwatch.Json

namespace Encoding

/-! ### Characters -/

/-- The characters of units: two halves of a pair are one character only where units are halves of
pairs. -/
def charsOf (encoding : Encoding) (us : List Nat) : List Char :=
  match encoding with
  | .utf16 _ => Text.charsOfUnits us
  | _ => us.map Text.charOfUnit

/-- The units of characters. -/
def unitsOf (encoding : Encoding) (cs : List Char) : List Nat :=
  match encoding with
  | .utf16 _ => cs.flatMap Text.unitsOfChar
  | _ => cs.map Char.toNat

/-- The bytes of a text. -/
def encode (encoding : Encoding) (cs : List Char) : List UInt8 :=
  (encoding.unitsOf cs).flatMap encoding.unitBytes

lemma decode?_eq (encoding : Encoding) (bytes : List UInt8) :
    encoding.decode? bytes = (encoding.units? bytes).map encoding.charsOf := by
  cases encoding <;> rfl

/-- A character beyond `U+FFFF` is a surrogate pair. -/
lemma isUnits_flatMap_unitsOfChar (cs : List Char) : IsUnits cs (cs.flatMap Text.unitsOfChar) := by
  induction cs with
  | nil => exact .nil
  | cons c cs ih =>
      have below := Text.toNat_lt c
      rw [List.flatMap_cons, Text.unitsOfChar]
      split_ifs with narrow
      · exact ih.unit
      · refine ih.pair ⟨?_, ?_, ?_, ?_⟩ ?_ <;> omega

/-- The units of characters are those of these characters. -/
lemma charsOf_unitsOf (encoding : Encoding) (cs : List Char) :
    encoding.charsOf (encoding.unitsOf cs) = cs := by
  have each : (cs.map Char.toNat).map Text.charOfUnit = cs := by
    rw [List.map_map]
    exact List.map_id'' (fun c => Text.charOfUnit_toNat c) cs
  cases encoding with
  | utf16 order => exact Text.charsOfUnits_of_isUnits (isUnits_flatMap_unitsOfChar cs)
  | utf8 => exact each
  | utf32 order => exact each

/-- The units of a character are in range, and they are not zero unless the character is. -/
lemma mem_unitsOf {encoding : Encoding} {cs : List Char} {n : Nat}
    (h : n ∈ encoding.unitsOf cs) : n < encoding.limit ∧ ∃ c ∈ cs, n = 0 → c.toNat = 0 := by
  have each (mem : n ∈ cs.map Char.toNat) : n < 0x110000 ∧ ∃ c ∈ cs, n = 0 → c.toNat = 0 := by
    obtain ⟨c, among, rfl⟩ := List.mem_map.mp mem
    exact ⟨Text.toNat_lt c, c, among, id⟩
  cases encoding with
  | utf16 order =>
      obtain ⟨c, mem, unit⟩ := List.mem_flatMap.mp h
      have below := Text.toNat_lt c
      rw [Text.unitsOfChar] at unit
      simp only [limit]
      split_ifs at unit with narrow
      · obtain rfl := List.mem_singleton.mp unit
        exact ⟨narrow, c, mem, id⟩
      · simp only [List.mem_cons, List.not_mem_nil, or_false] at unit
        exact ⟨by omega, c, mem, fun zero => by omega⟩
  | utf8 => exact each h
  | utf32 order => exact each h

/-! ### Detection -/

/-- The byte-order mark. -/
def mark (encoding : Encoding) : List UInt8 :=
  encoding.unitBytes 0xfeff

/-- Without a mark, the encoding is read off the zero bytes. -/
lemma detect_of_unmarked {bytes : List UInt8} (low : ∀ b ∈ bytes.head?, b.toNat < 0x80)
    (zeros : bytes.take 3 ≠ [0, 0, 0xfe]) : detect bytes = (ofZeros bytes, bytes) := by
  rw [detect.eq_def]
  split
  · exact absurd rfl zeros
  · exact absurd (low _ rfl) (by decide)
  · exact absurd (low _ rfl) (by decide)
  · exact absurd (low _ rfl) (by decide)
  · exact absurd (low _ rfl) (by decide)
  · rfl

lemma ofNat_ne_zero {n : Nat} (positive : n ≠ 0) (small : n < 256) : UInt8.ofNat n ≠ 0 := by
  intro zero
  have value : (UInt8.ofNat n).toNat = 0 := by rw [zero]; rfl
  rw [toNat_ofNat small] at value
  exact positive value

/-- Two bytes are not zero both if the unit is not. -/
lemma ofNat_ne_zeros {n : Nat} (positive : n ≠ 0) (valid : n < 0x10000) :
    ¬ (UInt8.ofNat (n % 256) = 0 ∧ UInt8.ofNat (n / 256) = 0) := by
  rintro ⟨low, high⟩
  by_cases small : n % 256 = 0
  · exact ofNat_ne_zero (by omega) (by omega) high
  · exact ofNat_ne_zero small (by omega) low

/-- The leading byte of a code point is not zero unless the code point is. -/
lemma exists_bytes8_eq {n : Nat} (positive : n ≠ 0) (valid : n < 0x110000) :
    ∃ b bytes, bytes8 n = b :: bytes ∧ b ≠ 0 := by
  rw [bytes8]
  split_ifs
  · exact ⟨_, _, rfl, ofNat_ne_zero positive (by omega)⟩
  · exact ⟨_, _, rfl, ofNat_ne_zero (by omega) (by omega)⟩
  · exact ⟨_, _, rfl, ofNat_ne_zero (by omega) (by omega)⟩
  · exact ⟨_, _, rfl, ofNat_ne_zero (by omega) (by omega)⟩

/-- A byte of ASCII with the zero bytes that are around it. -/
def around (encoding : Encoding) (b : UInt8) : List UInt8 :=
  match encoding with
  | .utf8 => [b]
  | .utf16 order => order.arrange [0, b]
  | .utf32 order => order.arrange [0, 0, 0, b]

lemma unitBytes_ascii (encoding : Encoding) {a : Nat} (ascii : a < 0x80) :
    encoding.unitBytes a = encoding.around (.ofNat a) := by
  have zero : a / 256 = 0 ∧ a / 65536 = 0 ∧ a / 16777216 = 0 ∧ a % 256 = a := by omega
  cases encoding with
  | utf8 => rw [unitBytes, bytes8, if_pos ascii, around]
  | utf16 order =>
      rw [unitBytes, zero.1, zero.2.2.2, around]
      rfl
  | utf32 order =>
      rw [unitBytes, zero.1, zero.2.1, zero.2.2.1, zero.2.2.2, around]
      rfl

lemma ofZeros_utf8 {a b : UInt8} (nonzero : a ≠ 0) (visible : b ≠ 0) (rest : List UInt8) :
    ofZeros (a :: b :: rest) = .utf8 := by
  match rest with
  | [] => exact (if_neg nonzero).trans (if_neg visible)
  | [c] => rfl
  | c :: d :: rest => exact (if_neg nonzero).trans (if_neg visible)

/-- The encoding is read off the bytes of the first two units. -/
lemma ofZeros_units {encoding : Encoding} {b : UInt8} {us : List Nat} (nonzero : b ≠ 0)
    (printed : ∀ n ∈ us.head?, n < encoding.limit ∧ n ≠ 0) :
    ofZeros (encoding.around b ++ us.flatMap encoding.unitBytes) = encoding := by
  cases us with
  | nil =>
      cases encoding with
      | utf8 => rfl
      | utf16 order =>
          cases order with
          | big => rfl
          | little => exact (if_neg nonzero).trans (if_pos rfl)
      | utf32 order =>
          cases order with
          | big => rfl
          | little => exact (if_neg nonzero).trans ((if_pos rfl).trans (if_pos ⟨rfl, rfl⟩))
  | cons n us =>
      obtain ⟨valid, positive⟩ := printed n rfl
      rw [List.flatMap_cons]
      cases encoding with
      | utf8 =>
          obtain ⟨c, bytes, first, visible⟩ := exists_bytes8_eq positive valid
          rw [unitBytes, first]
          exact ofZeros_utf8 nonzero visible _
      | utf16 order =>
          cases order with
          | big => exact if_neg nonzero
          | little =>
              exact (if_neg nonzero).trans ((if_pos rfl).trans
                (if_neg (ofNat_ne_zeros positive valid)))
      | utf32 order =>
          cases order with
          | big => rfl
          | little => exact (if_neg nonzero).trans ((if_pos rfl).trans (if_pos ⟨rfl, rfl⟩))

/-- Without a mark, the encoding of units is found out if the first one is a character of ASCII and
the second one is not zero. -/
lemma detect_units {encoding : Encoding} {a : Nat} {us : List Nat} (positive : a ≠ 0)
    (ascii : a < 0x80) (printed : ∀ n ∈ us.head?, n < encoding.limit ∧ n ≠ 0) :
    detect ((a :: us).flatMap encoding.unitBytes) =
      (encoding, (a :: us).flatMap encoding.unitBytes) := by
  have nonzero : UInt8.ofNat a ≠ 0 := ofNat_ne_zero positive (by omega)
  have low : (UInt8.ofNat a).toNat < 0x80 := by rwa [toNat_ofNat (by omega)]
  rw [List.flatMap_cons, unitBytes_ascii encoding ascii]
  rw [detect_of_unmarked, ofZeros_units nonzero printed]
  · intro b mem
    have first : b = 0 ∨ b = .ofNat a := by
      cases encoding with
      | utf8 => exact .inr (Option.some.inj mem).symm
      | utf16 order | utf32 order =>
          cases order with
          | big => exact .inl (Option.some.inj mem).symm
          | little => exact .inr (Option.some.inj mem).symm
    obtain rfl | rfl := first
    · decide
    · exact low
  · cases encoding with
    | utf8 => simp [around, nonzero]
    | utf16 order | utf32 order => cases order <;> simp [around, ByteOrder.arrange, nonzero]

/-- With a mark, it is found out if the first unit is a character of ASCII. -/
lemma detect_mark {encoding : Encoding} {a : Nat} {us : List Nat} (positive : a ≠ 0)
    (ascii : a < 0x80) :
    detect (encoding.mark ++ (a :: us).flatMap encoding.unitBytes) =
      (encoding, (a :: us).flatMap encoding.unitBytes) := by
  have nonzero : UInt8.ofNat a ≠ 0 := ofNat_ne_zero positive (by omega)
  rw [List.flatMap_cons, unitBytes_ascii encoding ascii]
  cases encoding with
  | utf8 => rfl
  | utf16 order =>
      cases order with
      | big => rfl
      | little =>
          change detect (0xff :: 0xfe :: .ofNat a :: 0 :: us.flatMap _) = _
          rw [detect]
          · rfl
          · exact fun rest same => nonzero (List.cons.inj same).1
  | utf32 order => cases order <;> rfl

end Encoding

/-! ### Whole texts -/

/-- There is no zero character. -/
def IsPrinted (cs : List Char) : Prop :=
  ∀ c ∈ cs, c.toNat ≠ 0

lemma IsPrinted.append {cs cs' : List Char} (h : IsPrinted cs) (h' : IsPrinted cs') :
    IsPrinted (cs ++ cs') :=
  List.forall_mem_append.mpr ⟨h, h'⟩

lemma IsPrinted.cons {c : Char} {cs : List Char} (h : c.toNat ≠ 0) (h' : IsPrinted cs) :
    IsPrinted (c :: cs) :=
  List.forall_mem_cons.mpr ⟨h, h'⟩

lemma IsSpaces.isPrinted {gap : List Char} (h : IsSpaces gap) : IsPrinted gap := by
  have spaces : ∀ c ∈ [' ', '\t', '\n', '\r'], c.toNat ≠ 0 := by simp
  exact fun c mem => spaces c (h c mem)

lemma IsDigits.isPrinted {ds : List Char} (h : IsDigits ds) : IsPrinted ds := by
  intro c mem
  have digit := Reader.isDigit_iff.mp (h.2 c mem)
  omega

lemma Quotes.isPrinted {us : List Nat} {cs : List Char} (h : Quotes us cs) : IsPrinted cs := by
  have hexDigit {n : Nat} {c : Char} (digit : IsHexDigit n c) : c.toNat ≠ 0 := by
    obtain ⟨below, rfl | rfl⟩ := digit <;> revert n <;> decide
  induction h with
  | nil => simp [IsPrinted]
  | plain printed _ _ _ ih => exact ih.cons (by omega)
  | short escape _ ih =>
      have escapes : ∀ p ∈ shortEscapes, p.1.toNat ≠ 0 := by decide
      exact (ih.cons (escapes _ escape)).cons (by decide)
  | hex first second third fourth _ ih =>
      exact (((((ih.cons (hexDigit fourth)).cons (hexDigit third)).cons (hexDigit second)).cons
        (hexDigit first)).cons (by decide)).cons (by decide)

lemma Numeral.isPrinted {cs : List Char} {j : Json} (h : Numeral cs j) : IsPrinted cs := by
  obtain ⟨negative, ds, text, fs, text', e, whole, behind, power, rfl, -⟩ := Reader.numeral_iff.mp h
  have sign : IsPrinted (minusIf negative) := by cases negative <;> simp [IsPrinted, minusIf]
  have fraction : IsPrinted text := by
    cases behind with
    | none => simp [IsPrinted]
    | point digits => exact digits.isPrinted.cons (by decide)
  have exponent : IsPrinted text' := by
    cases power with
    | none => simp [IsPrinted]
    | @plain mark plus ds marked signed digits =>
        have plusPrinted : IsPrinted plus := by
          obtain rfl | rfl := signed <;> simp [IsPrinted]
        obtain rfl | rfl := marked <;>
          exact (plusPrinted.append digits.isPrinted).cons (by decide)
    | minus marked digits =>
        obtain rfl | rfl := marked <;>
          exact (digits.isPrinted.cons (by decide)).cons (by decide)
  exact sign.append (whole.1.isPrinted.append (fraction.append exponent))

lemma isPrinted_glue {ps : List (List Char)} (h : ∀ p ∈ ps, IsPrinted p) :
    IsPrinted (Text.glue ',' ps) := by
  induction ps with
  | nil => simp [IsPrinted, Text.glue]
  | cons p ps ih =>
      obtain ⟨first, others⟩ := List.forall_mem_cons.mp h
      cases ps with
      | nil => exact first
      | cons q ps => exact first.append ((ih others).cons (by decide))

lemma Part.isPrinted {p : Part} (padded : p.IsPadded) (text : IsPrinted p.text) :
    IsPrinted p.chars :=
  padded.1.isPrinted.append (text.append padded.2.isPrinted)

lemma Member.isPrinted {m : Member} (padded : m.IsPadded) (text : IsPrinted m.part.text) :
    IsPrinted m.chars := by
  obtain ⟨before, ⟨us, quotes, -⟩, between, part⟩ := padded
  have behind : IsPrinted (m.between ++ ':' :: m.part.chars) :=
    between.isPrinted.append ((Part.isPrinted part text).cons (by decide))
  have quoted : IsPrinted (m.quoted ++ '\x22' :: (m.between ++ ':' :: m.part.chars)) :=
    quotes.isPrinted.append (behind.cons (by decide))
  exact before.isPrinted.append (quoted.cons (by decide))

/-- Nothing that is spelled holds a zero character. -/
lemma Spells.isPrinted {room : Nat} {cs : List Char} {j : Json} (h : Spells room cs j) :
    IsPrinted cs := by
  induction h with
  | null | yes | no | notANumber | infinity | minusInfinity => simp [IsPrinted]
  | number numeral => exact numeral.isPrinted
  | text quoted =>
      obtain ⟨us, quotes, -⟩ := quoted
      exact (quotes.isPrinted.append (by simp [IsPrinted])).cons (by decide)
  | emptyList spaces => exact (spaces.isPrinted.append (by simp [IsPrinted])).cons (by decide)
  | list some padded spelled printed =>
      have parts : IsPrinted (Text.glue ',' _) := isPrinted_glue <| List.forall_mem_map.mpr
        fun p mem => Part.isPrinted (padded p mem) (printed p mem)
      exact (parts.append (by simp [IsPrinted])).cons (by decide)
  | emptyObject spaces => exact (spaces.isPrinted.append (by simp [IsPrinted])).cons (by decide)
  | object some padded spelled printed =>
      have members : IsPrinted (Text.glue ',' _) := isPrinted_glue <| List.forall_mem_map.mpr
        fun m mem => Member.isPrinted (padded m mem) (printed m mem)
      exact (members.append (by simp [IsPrinted])).cons (by decide)

lemma IsTextOf.isPrinted {room : Nat} {cs : List Char} {j : Json} (h : IsTextOf room cs j) :
    IsPrinted cs := by
  obtain ⟨p, rfl, rfl, padded, spelled⟩ := h
  exact Part.isPrinted padded spelled.isPrinted

/-- The first character of a text is one of ASCII. -/
lemma IsTextOf.exists_cons {room : Nat} {cs : List Char} {j : Json} (h : IsTextOf room cs j) :
    ∃ c cs', cs = c :: cs' ∧ c.toNat < 0x80 := by
  obtain ⟨p, rfl, rfl, ⟨before, after⟩, spelled⟩ := h
  obtain ⟨c, cs', begins, -, low, -⟩ := spelled.exists_cons
  rw [Part.chars, begins]
  rcases gap : p.before with _ | ⟨d, ds⟩
  · exact ⟨c, _, rfl, by omega⟩
  · have spaces : ∀ c ∈ [' ', '\t', '\n', '\r'], c.toNat < 0x80 := by simp
    exact ⟨d, _, rfl, spaces d (before d (by simp [gap]))⟩

namespace Encoding

/-- The units of a JSON text: the first one is a character of ASCII, and none of them is zero. -/
lemma exists_unitsOf_eq {room : Nat} (encoding : Encoding) {cs : List Char} {j : Json}
    (h : IsTextOf room cs j) :
    ∃ a us, encoding.unitsOf cs = a :: us ∧ a ≠ 0 ∧ a < 0x80 ∧
      ∀ n ∈ us.head?, n < encoding.limit ∧ n ≠ 0 := by
  obtain ⟨c, cs', rfl, ascii⟩ := h.exists_cons
  have first : encoding.unitsOf (c :: cs') = c.toNat :: encoding.unitsOf cs' := by
    cases encoding with
    | utf16 order =>
        have narrow : Text.unitsOfChar c = [c.toNat] := if_pos (by omega)
        rw [unitsOf, List.flatMap_cons, narrow]
        rfl
    | utf8 | utf32 _ => rfl
  refine ⟨c.toNat, _, first, h.isPrinted c (by simp), ascii, fun n mem => ?_⟩
  obtain ⟨valid, d, among, zero⟩ := mem_unitsOf (List.mem_of_mem_head? mem)
  exact ⟨valid, fun z => h.isPrinted d (by simp [among]) (zero z)⟩

end Encoding

/-- Bytes hold characters, in the encoding that they are taken to be in. -/
def IsEncoded (bytes : List UInt8) (cs : List Char) : Prop :=
  ∃ encoding rest us, Encoding.detect bytes = (encoding, rest) ∧ encoding.Holds rest us ∧
    cs = encoding.charsOf us

/-- Bytes are those of a text of a value. -/
def IsBytesOf (room : Nat) (bytes : List UInt8) (j : Json) : Prop :=
  ∃ cs, IsEncoded bytes cs ∧ IsTextOf room cs j

/-- Bytes are those of a text that there is no room for. -/
def OverrunsBytes (room : Nat) (bracket : Reader.Bracket) (bytes : List UInt8) : Prop :=
  ∃ cs, IsEncoded bytes cs ∧ OverrunsText room bracket cs

/-- The characters of bytes are the ones that are decoded. -/
lemma isEncoded_iff {bytes : List UInt8} {cs : List Char} :
    IsEncoded bytes cs ↔
      (Encoding.detect bytes).1.decode? (Encoding.detect bytes).2 = some cs := by
  rw [IsEncoded]
  rcases Encoding.detect bytes with ⟨encoding, rest⟩
  simp only [Encoding.decode?_eq, Option.map_eq_some_iff, Encoding.units?_eq_some_iff,
    Prod.mk.injEq]
  constructor
  · rintro ⟨_, _, us, ⟨rfl, rfl⟩, held, rfl⟩
    exact ⟨us, held, rfl⟩
  · rintro ⟨us, held, rfl⟩
    exact ⟨_, _, us, ⟨rfl, rfl⟩, held, rfl⟩

/-- What becomes of bytes, if it is not that they are malformed, becomes of the text that they
hold. -/
lemma readBytes_eq_iff {room : Nat} {bytes : List UInt8} {r : Except Reader.Unread Json}
    (formed : r ≠ .error .malformed) :
    readBytes room bytes = r ↔ ∃ cs, IsEncoded bytes cs ∧ Reader.wholeText room cs = r := by
  simp only [isEncoded_iff, readBytes]
  cases (Encoding.detect bytes).1.decode? (Encoding.detect bytes).2 with
  | none => simp [Ne.symm formed]
  | some cs => simp

/-- **Reading encoded JSON texts.**  The value that bytes are read as is the one that they are the
bytes of a text of. -/
theorem readBytes_eq_ok_iff {room : Nat} {bytes : List UInt8} {j : Json} :
    readBytes room bytes = .ok j ↔ IsBytesOf room bytes j := by
  simp only [readBytes_eq_iff (r := .ok j) (by simp), Reader.wholeText_eq_ok_iff, IsBytesOf]

/-- Bytes are not read for want of room exactly if there is no room for the text that they hold. -/
theorem readBytes_eq_tooDeep_iff {room : Nat} {bracket : Reader.Bracket} {bytes : List UInt8} :
    readBytes room bytes = .error (.tooDeep bracket) ↔ OverrunsBytes room bracket bytes := by
  simp only [readBytes_eq_iff (r := .error (.tooDeep bracket)) (by simp),
    Reader.wholeText_eq_tooDeep_iff, OverrunsBytes]

/-- A JSON text is recognized in any encoding, with a byte-order mark or without it. -/
lemma IsTextOf.isBytesOf {room : Nat} {cs : List Char} {j : Json} (h : IsTextOf room cs j)
    (encoding : Encoding) :
    IsBytesOf room (encoding.encode cs) j ∧
      IsBytesOf room (encoding.mark ++ encoding.encode cs) j := by
  obtain ⟨a, us, units, positive, ascii, printed⟩ := encoding.exists_unitsOf_eq h
  have bytes : encoding.encode cs = (a :: us).flatMap encoding.unitBytes := by
    rw [Encoding.encode, units]
  have held : encoding.Holds ((a :: us).flatMap encoding.unitBytes) (a :: us) :=
    ⟨rfl, fun n mem => (Encoding.mem_unitsOf (units ▸ mem)).1⟩
  have chars : cs = encoding.charsOf (a :: us) := by rw [← units, Encoding.charsOf_unitsOf]
  rw [bytes]
  exact ⟨⟨cs, ⟨encoding, _, _, Encoding.detect_units positive ascii printed, held, chars⟩, h⟩,
    ⟨cs, ⟨encoding, _, _, Encoding.detect_mark positive ascii, held, chars⟩, h⟩⟩

end Driftwatch.Json
