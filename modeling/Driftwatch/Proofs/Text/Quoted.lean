/-
Reading quoted texts back.

* `Text.hexNumber`, `Text.hexNumber_hexFixed`: a numeral of a fixed width denotes the last digits
  of its number.
* `Text.unescape?`, `Text.unescape?_escape`: a character is read back from its escape, whatever
  follows it.
* `Text.quoteChars_append_inj`: texts that begin with a quoted text agree in it only if they quote
  the same.
-/
import Driftwatch.Proofs.Json.Tokens
import Driftwatch.Text.Quoted

namespace Driftwatch.Text

/-! ### Hexadecimal numerals -/

/-- The number that a hexadecimal numeral denotes. -/
def hexNumber (cs : List Char) : Nat :=
  cs.foldl (fun n c => 16 * n + (hexValue? c).getD 0) 0

lemma hexNumber_concat (cs : List Char) (c : Char) :
    hexNumber (cs ++ [c]) = 16 * hexNumber cs + (hexValue? c).getD 0 := by
  rw [hexNumber, List.foldl_append]
  rfl

/-- A numeral of a fixed width denotes the last digits of the number. -/
lemma hexNumber_hexFixed (width n : Nat) :
    hexNumber (hexFixed .lower width n) = n % Nat.pow 16 width := by
  induction width generalizing n with
  | zero => exact (Nat.mod_one n).symm
  | succ width ih =>
      have last : hexValue? (hexDigit .lower (n % 16)) = some (n % 16) :=
        Json.hexValue?_eq_some_iff.mpr ⟨Nat.mod_lt n (by decide), .inl rfl⟩
      rw [hexFixed, hexNumber_concat, ih, last, Option.getD_some]
      calc 16 * (n / 16 % Nat.pow 16 width) + n % 16
          = n % 16 + 16 * (n / 16 % Nat.pow 16 width) := Nat.add_comm _ _
        _ = n % (16 * Nat.pow 16 width) := Nat.mod_mul.symm
        _ = n % Nat.pow 16 (width + 1) := by rw [Nat.mul_comm]; rfl

/-! ### Escapes -/

/-- How many digits follow a letter after a backslash; other characters are not followed by
any. -/
def escapeWidth? : Char → Option Nat
  | 'x' => some 2
  | 'u' => some 4
  | 'U' => some 8
  | _ => none

/-- What a character after a backslash stands for. -/
def escapedChar : Char → Char
  | 'n' => '\n'
  | 'r' => '\r'
  | 't' => '\t'
  | c => c

/-- The first character of what is quoted, and what follows it. -/
def unescape? : List Char → Option (Char × List Char)
  | [] => none
  | ['\\'] => none
  | '\\' :: c :: rest =>
    match escapeWidth? c with
    | some width => some (Char.ofNat (hexNumber (rest.take width)), rest.drop width)
    | none => some (escapedChar c, rest)
  | c :: rest => some (c, rest)

/-- The character of a numeric escape is read back. -/
lemma unescape?_numericEscape (c : Char) (rest : List Char) :
    unescape? (numericEscape c ++ rest) = some (c, rest) := by
  -- the width is chosen so that no digit is lost
  have back (letter : Char) (width : Nat) (announced : escapeWidth? letter = some width)
      (fits : c.toNat < Nat.pow 16 width) :
      unescape? ('\\' :: letter :: (hexFixed .lower width c.toNat ++ rest)) = some (c, rest) := by
    have exact : (hexFixed .lower width c.toNat).length = width := length_hexFixed _ _ _
    simp only [unescape?, announced, List.take_left' exact, List.drop_left' exact,
      hexNumber_hexFixed, Nat.mod_eq_of_lt fits, Char.ofNat_toNat]
  have bounded : c.toNat < 0x110000 := toNat_lt c
  rw [numericEscape]
  split_ifs with byte wide
  · exact back 'x' 2 rfl byte
  · exact back 'u' 4 rfl wide
  · exact back 'U' 8 rfl (Nat.lt_trans bounded (by decide))

/-- What does not begin with a backslash begins with the character itself. -/
lemma unescape?_cons {c : Char} (h : c ≠ '\\') (rest : List Char) :
    unescape? (c :: rest) = some (c, rest) := by
  cases rest <;> simp [unescape?, h]

/-- Quotation marks are the apostrophe and the double quote. -/
def IsMark (mark : Char) : Prop :=
  mark = apostrophe ∨ mark = doubleQuote

lemma IsMark.ne_backslash {mark : Char} (h : IsMark mark) : mark ≠ '\\' := by
  obtain rfl | rfl := h <;> decide

lemma isMark_quoteMark (cs : List Char) : IsMark (quoteMark cs) := by
  rw [quoteMark]
  split_ifs
  · exact .inr rfl
  · exact .inl rfl

variable {mark : Char}

/-- A quotation mark or a backslash stands behind a backslash. -/
lemma escape_of_special {c : Char} (special : c = mark ∨ c = '\\') :
    escape mark c = ['\\', c] := by
  simp [escape, special]

/-- A character is read back from its escape, whatever follows it. -/
lemma unescape?_escape (h : IsMark mark) (c : Char) (rest : List Char) :
    unescape? (escape mark c ++ rest) = some (c, rest) := by
  by_cases special : c = mark ∨ c = '\\'
  · rw [escape_of_special special]
    obtain rfl | rfl := special
    · obtain rfl | rfl := h <;> rfl
    · rfl
  · rw [escape, if_neg (by simpa using special)]
    split_ifs with lineFeed carriageReturn tab
    · rw [lineFeed]
      rfl
    · rw [carriageReturn]
      rfl
    · rw [tab]
      rfl
    · exact unescape?_cons (not_or.mp special).2 rest
    · exact unescape?_numericEscape c rest

/-- What begins with an escape does not begin with the quotation mark. -/
lemma escape_append_ne (h : IsMark mark) (c : Char) (rest rest' : List Char) :
    escape mark c ++ rest ≠ mark :: rest' := by
  intro same
  have read := unescape?_escape h c rest
  rw [same, unescape?_cons h.ne_backslash] at read
  obtain ⟨rfl, rfl⟩ : mark = c ∧ rest' = rest := by simpa using read
  rw [escape_of_special (.inl rfl)] at same
  exact h.ne_backslash (List.cons.inj same).1.symm

/-! ### Quoted texts -/

/-- The closing quotation mark is the first one that is not escaped, and up to there the characters
are read back one after the other. -/
lemma escapes_append_inj (h : IsMark mark) {cs ds rest rest' : List Char}
    (same : cs.flatMap (escape mark) ++ mark :: rest = ds.flatMap (escape mark) ++ mark :: rest') :
    cs = ds ∧ rest = rest' := by
  induction cs generalizing ds with
  | nil =>
      cases ds with
      | nil => exact ⟨rfl, (List.cons.inj same).2⟩
      | cons d ds =>
          rw [List.flatMap_cons, List.append_assoc] at same
          exact absurd same.symm (escape_append_ne h d _ _)
  | cons c cs ih =>
      rw [List.flatMap_cons, List.append_assoc] at same
      cases ds with
      | nil => exact absurd same (escape_append_ne h c _ _)
      | cons d ds =>
          have read := unescape?_escape h c (cs.flatMap (escape mark) ++ mark :: rest)
          rw [same, List.flatMap_cons, List.append_assoc, unescape?_escape h] at read
          obtain ⟨rfl, more⟩ : d = c ∧ ds.flatMap (escape mark) ++ mark :: rest' =
              cs.flatMap (escape mark) ++ mark :: rest := by simpa using read
          obtain ⟨rfl, rfl⟩ := ih more.symm
          exact ⟨rfl, rfl⟩

/-- Texts that begin with a quoted text agree only if they quote the same and go on in the same
way. -/
theorem quoteChars_append_inj {cs ds rest rest' : List Char}
    (same : quoteChars cs ++ rest = quoteChars ds ++ rest') : cs = ds ∧ rest = rest' := by
  simp only [quoteChars, List.cons_append, List.append_assoc, List.cons.injEq] at same
  obtain ⟨marks, same⟩ := same
  rw [← marks] at same
  exact escapes_append_inj (isMark_quoteMark cs) same

/-- The same for strings. -/
lemma quote_append_inj {s t rest rest' : String} (same : quote s ++ rest = quote t ++ rest') :
    s = t ∧ rest = rest' := by
  have chars := congrArg String.toList same
  rw [String.toList_append, String.toList_append, quote, quote, String.toList_ofList,
    String.toList_ofList] at chars
  obtain ⟨quoted, more⟩ := quoteChars_append_inj chars
  exact ⟨String.toList_inj.mp quoted, String.toList_inj.mp more⟩

end Driftwatch.Text
