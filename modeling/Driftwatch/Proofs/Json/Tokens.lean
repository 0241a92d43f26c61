/-
Reading the tokens of JSON texts.

* `Reader.skipSpace_append`, `Reader.exists_skipSpace`: white space is skipped, and nothing else.
* `Text.charsOfUnits_of_isUnits`, `Text.isUnits_charsOfUnits`: the characters of code units are
  those that the units stand for.
* `Reader.string_eq_some_iff`: what is read up to the closing double quote is the text that is
  spelled there.
-/
import Driftwatch.Json.Reader
import Driftwatch.Proofs.Json.Grammar
import Mathlib.Data.List.TakeWhile

namespace Driftwatch.Json

/-! ### White space -/

namespace Reader

lemma isSpace_iff {c : Char} : isSpace c = true ↔ c ∈ [' ', '\t', '\n', '\r'] := by
  simp [isSpace, or_assoc]

/-- White space is skipped. -/
lemma skipSpace_append {gap cs : List Char} (spaces : IsSpaces gap)
    (visible : ∀ c ∈ cs.head?, isSpace c = false) : skipSpace (gap ++ cs) = cs := by
  induction gap with
  | nil =>
      cases cs with
      | nil => rfl
      | cons c rest => simp [skipSpace, visible c rfl]
  | cons c gap ih =>
      rw [List.cons_append, skipSpace, List.dropWhile_cons, isSpace_iff.mpr (spaces c (by simp)),
        if_pos rfl]
      exact ih fun d hd => spaces d (by simp [hd])

/-- Nothing but white space is skipped. -/
lemma exists_skipSpace (cs : List Char) :
    ∃ gap, IsSpaces gap ∧ cs = gap ++ skipSpace cs :=
  ⟨cs.takeWhile isSpace, fun _ mem => isSpace_iff.mp (List.mem_takeWhile_imp mem),
    List.takeWhile_append_dropWhile.symm⟩

end Reader

/-! ### Code units -/

lemma IsPair.isSurrogate {high low : Nat} (h : IsPair high low) : IsSurrogate high := by
  obtain ⟨h₁, h₂, -, -⟩ := h
  exact ⟨h₁, by omega⟩

end Driftwatch.Json

namespace Driftwatch.Text

open Json (IsSurrogate IsPair IsUnits)

lemma isSurrogate_iff {n : Nat} :
    (isHighSurrogate n || isLowSurrogate n) = true ↔ IsSurrogate n := by
  simp only [isHighSurrogate, isLowSurrogate, IsSurrogate, Bool.or_eq_true, Bool.and_eq_true,
    decide_eq_true_eq]
  omega

lemma isPair_iff {high low : Nat} :
    (isHighSurrogate high && isLowSurrogate low) = true ↔ IsPair high low := by
  simp only [isHighSurrogate, isLowSurrogate, IsPair, Bool.and_eq_true, decide_eq_true_eq,
    and_assoc]

/-- No character is a surrogate. -/
lemma not_isSurrogate_toNat (c : Char) : ¬ IsSurrogate c.toNat := by
  have valid := c.valid
  simp only [UInt32.isValidChar, Nat.isValidChar] at valid
  intro ⟨low, high⟩
  change 0xd800 ≤ c.val.toNat at low
  change c.val.toNat ≤ 0xdfff at high
  omega

/-- Every character is a code point. -/
lemma toNat_lt (c : Char) : c.toNat < 0x110000 := by
  have valid := c.valid
  simp only [UInt32.isValidChar, Nat.isValidChar] at valid
  change c.val.toNat < 0x110000
  omega

lemma charOfUnit_toNat (c : Char) : charOfUnit c.toNat = c := by
  rw [charOfUnit, if_neg (isSurrogate_iff.not.mpr (not_isSurrogate_toNat c)), Char.ofNat_toNat]

lemma charOfUnit_of_isSurrogate {n : Nat} (h : IsSurrogate n) : charOfUnit n = '\ufffd' := by
  rw [charOfUnit, if_pos (isSurrogate_iff.mpr h)]

/-- A code unit that does not begin a pair is a character of its own. -/
lemma charsOfUnits_cons {n : Nat} {us : List Nat} (alone : ∀ m ∈ us.head?, ¬ IsPair n m) :
    charsOfUnits (n :: us) = charOfUnit n :: charsOfUnits us := by
  cases us with
  | nil => rfl
  | cons m rest => rw [charsOfUnits, if_neg (isPair_iff.not.mpr (alone m rfl))]

/-- The characters of code units are those that the units stand for. -/
lemma charsOfUnits_of_isUnits {cs : List Char} {us : List Nat} (h : IsUnits cs us) :
    charsOfUnits us = cs := by
  induction h with
  | nil => rfl
  | @unit c cs us rest ih =>
      have alone : ∀ m ∈ us.head?, ¬ IsPair c.toNat m :=
        fun m _ paired => not_isSurrogate_toNat c paired.isSurrogate
      rw [charsOfUnits_cons alone, charOfUnit_toNat, ih]
  | @pair c cs us high low paired code rest ih =>
      have coded : pairCode high low = c.toNat := code.symm
      rw [charsOfUnits, if_pos (isPair_iff.mpr paired), coded, Char.ofNat_toNat, ih]
  | lone surrogate alone rest ih =>
      rw [charsOfUnits_cons alone, charOfUnit_of_isSurrogate surrogate, ih]

/-- The character of a code point has this code point. -/
lemma toNat_ofNat {n : Nat} (below : n < 0x110000) (h : ¬ IsSurrogate n) :
    (Char.ofNat n).toNat = n := by
  have valid : n.isValidChar := by
    simp only [IsSurrogate] at h
    simp only [Nat.isValidChar]
    omega
  rw [Char.ofNat, dif_pos valid]
  rfl

lemma toNat_charOfUnit {n : Nat} (below : n < 0x110000) (h : ¬ IsSurrogate n) :
    (charOfUnit n).toNat = n := by
  rw [charOfUnit, if_neg (isSurrogate_iff.not.mpr h), toNat_ofNat below h]

lemma toNat_ofNat_pairCode {high low : Nat} (paired : IsPair high low) :
    (Char.ofNat (pairCode high low)).toNat =
      0x10000 + (high - 0xd800) * 0x400 + (low - 0xdc00) := by
  obtain ⟨h₁, h₂, h₃, h₄⟩ := paired
  have code : pairCode high low = 0x10000 + (high - 0xd800) * 0x400 + (low - 0xdc00) := rfl
  have below : pairCode high low < 0x110000 := by rw [code]; omega
  have beyond : ¬ IsSurrogate (pairCode high low) := by
    rw [code]
    intro ⟨_, surrogate⟩
    omega
  rw [toNat_ofNat below beyond, code]

/-- Code units below the end of the code points stand for their characters. -/
lemma isUnits_charsOfUnits {us : List Nat} (valid : ∀ n ∈ us, n < 0x110000) :
    IsUnits (charsOfUnits us) us := by
  -- a single unit, if it does not begin a pair
  have single (n : Nat) (us : List Nat) (below : n < 0x110000)
      (alone : ∀ m ∈ us.head?, ¬ IsPair n m) (rest : IsUnits (charsOfUnits us) us) :
      IsUnits (charOfUnit n :: charsOfUnits us) (n :: us) := by
    by_cases surrogate : IsSurrogate n
    · rw [charOfUnit_of_isSurrogate surrogate]
      exact .lone surrogate alone rest
    · have code : (charOfUnit n).toNat = n := toNat_charOfUnit below surrogate
      have unit := rest.unit (c := charOfUnit n)
      rwa [code] at unit
  fun_induction charsOfUnits us with
  | case1 => exact .nil
  | case2 n => exact single n [] (valid n (by simp)) (by simp) .nil
  | case3 n m rest paired ih =>
      have paired := isPair_iff.mp paired
      refine .pair paired ?_ (ih fun k hk => valid k (by simp [hk]))
      exact toNat_ofNat_pairCode paired
  | case4 n m rest alone ih =>
      refine single n (m :: rest) (valid n (by simp)) (fun k hk => ?_)
        (ih fun k hk => valid k (by simp [hk]))
      obtain rfl := Option.some.inj hk
      exact isPair_iff.not.mp alone

/-! ### Hexadecimal digits -/

end Driftwatch.Text

namespace Driftwatch.Json

/-- What is read as a hexadecimal digit is one. -/
lemma hexValue?_eq_some_iff {c : Char} {n : Nat} :
    Text.hexValue? c = some n ↔ IsHexDigit n c := by
  constructor
  · intro read
    have order (a b : Char) : a ≤ b ↔ a.toNat ≤ b.toNat := Iff.rfl
    have bounds : '0'.toNat = 48 ∧ '9'.toNat = 57 ∧ 'a'.toNat = 97 ∧ 'f'.toNat = 102 ∧
      'A'.toNat = 65 ∧ 'F'.toNat = 70 := by decide
    have same (m : Nat) (h : m = c.toNat) : c = Char.ofNat m := by rw [h, Char.ofNat_toNat]
    rw [Text.hexValue?] at read
    simp only [order, bounds] at read
    rw [IsHexDigit, Text.hexDigit, Text.hexDigit]
    split_ifs at read with decimal lower upper <;> obtain rfl := Option.some.inj read
    · rw [if_pos (by omega), if_pos (by omega)]
      exact ⟨by omega, .inl (same _ (by omega))⟩
    · rw [if_neg (by omega), if_neg (by omega)]
      exact ⟨by omega, .inl (same _ (by omega))⟩
    · rw [if_neg (by omega), if_neg (by omega)]
      exact ⟨by omega, .inr (same _ (by omega))⟩
  · rintro ⟨below, spelled⟩
    have each : ∀ n < 16, Text.hexValue? (Text.hexDigit .lower n) = some n ∧
        Text.hexValue? (Text.hexDigit .upper n) = some n := by decide
    obtain rfl | rfl := spelled
    · exact (each n below).1
    · exact (each n below).2

/-- Code units that are written between double quotes are code points. -/
lemma Quotes.lt {us : List Nat} {cs : List Char} (h : Quotes us cs) : ∀ n ∈ us, n < 0x110000 := by
  induction h with
  | nil => simp
  | @plain c us cs _ _ _ _ ih => exact List.forall_mem_cons.mpr ⟨Text.toNat_lt c, ih⟩
  | @short e n us cs escape _ ih =>
      have below : ∀ p ∈ shortEscapes, p.2 < 0x110000 := by decide
      exact List.forall_mem_cons.mpr ⟨below _ escape, ih⟩
  | @hex h₁ h₂ h₃ h₄ a b c d us cs first second third fourth _ ih =>
      obtain ⟨ha, -⟩ := first
      obtain ⟨hb, -⟩ := second
      obtain ⟨hc, -⟩ := third
      obtain ⟨hd, -⟩ := fourth
      have below : ((a * 16 + b) * 16 + c) * 16 + d < 0x110000 := by omega
      exact List.forall_mem_cons.mpr ⟨below, ih⟩

namespace Reader

lemma hexUnit?_eq_some_iff {h₁ h₂ h₃ h₄ : Char} {n : Nat} :
    hexUnit? h₁ h₂ h₃ h₄ = some n ↔ ∃ a b c d, IsHexDigit a h₁ ∧ IsHexDigit b h₂ ∧
      IsHexDigit c h₃ ∧ IsHexDigit d h₄ ∧ ((a * 16 + b) * 16 + c) * 16 + d = n := by
  simp only [hexUnit?, Option.bind_eq_bind, Option.bind_eq_some_iff, hexValue?_eq_some_iff,
    Option.pure_def, Option.some.injEq]
  constructor
  · rintro ⟨a, ha, b, hb, c, hc, d, hd, rfl⟩
    exact ⟨a, b, c, d, ha, hb, hc, hd, rfl⟩
  · rintro ⟨a, b, c, d, ha, hb, hc, hd, rfl⟩
    exact ⟨a, ha, b, hb, c, hc, d, hd, rfl⟩

lemma escaped?_eq_some_iff {e : Char} {n : Nat} :
    escaped? e = some n ↔ (e, n) ∈ shortEscapes := by
  simp only [shortEscapes, List.mem_cons, Prod.mk.injEq, List.not_mem_nil, or_false]
  constructor
  · intro read
    rw [escaped?] at read
    split_ifs at read <;> simp_all
  · rintro (⟨rfl, rfl⟩ | ⟨rfl, rfl⟩ | ⟨rfl, rfl⟩ | ⟨rfl, rfl⟩ | ⟨rfl, rfl⟩ | ⟨rfl, rfl⟩ |
      ⟨rfl, rfl⟩ | ⟨rfl, rfl⟩) <;> rfl

/-! ### Texts between double quotes -/

/-- Code units are read as they are written. -/
lemma units_of_quotes {us : List Nat} {cs : List Char} (h : Quotes us cs) (rest : List Char) :
    units (cs ++ '\x22' :: rest) = some (us, rest) := by
  induction h with
  | nil =>
      rw [List.nil_append, units.eq_def]
      exact if_pos rfl
  | @plain c us cs printed unquoted unescaped _ ih =>
      rw [List.cons_append, units.eq_def]
      dsimp only
      rw [if_neg unquoted, if_neg unescaped, if_neg (by omega), ih]
      rfl
  | @short e n us cs escape _ ih =>
      have known : e ≠ 'u' := by
        rintro rfl
        simp [shortEscapes] at escape
      rw [List.cons_append, List.cons_append, units.eq_def]
      dsimp only
      rw [if_neg (by decide), if_pos rfl, if_neg known, escaped?_eq_some_iff.mpr escape]
      dsimp only
      rw [ih]
      rfl
  | @hex h₁ h₂ h₃ h₄ a b c d us cs first second third fourth _ ih =>
      have unit : hexUnit? h₁ h₂ h₃ h₄ = some (((a * 16 + b) * 16 + c) * 16 + d) :=
        hexUnit?_eq_some_iff.mpr ⟨a, b, c, d, first, second, third, fourth, rfl⟩
      simp only [List.cons_append]
      rw [units.eq_def]
      dsimp only
      rw [if_neg (by decide), if_pos rfl, if_pos rfl, unit]
      dsimp only
      rw [ih]
      rfl

/-- A code unit that is read before others. -/
lemma before_eq_some_iff {n : Nat} {r : Read (List Nat)} {us : List Nat} {rest : List Char} :
    before n r = some (us, rest) ↔ ∃ vs, r = some (vs, rest) ∧ us = n :: vs := by
  rw [before, Option.map_eq_some_iff]
  constructor
  · rintro ⟨⟨vs, rest'⟩, read, same⟩
    obtain ⟨rfl, rfl⟩ := Prod.mk.inj same
    exact ⟨vs, read, rfl⟩
  · rintro ⟨vs, read, rfl⟩
    exact ⟨(vs, rest), read, rfl⟩

/-- What is read up to a closing double quote are code units that are written there. -/
lemma exists_quotes {cs rest : List Char} {us : List Nat} (h : units cs = some (us, rest)) :
    ∃ qs, Quotes us qs ∧ cs = qs ++ '\x22' :: rest := by
  fun_induction units cs generalizing us rest with
  | case1 => simp at h
  | case2 cs =>
      obtain ⟨rfl, rfl⟩ := Prod.mk.inj (Option.some.inj h)
      exact ⟨[], .nil, rfl⟩
  | case3 => simp at h
  | case4 h₁ h₂ h₃ h₄ cs n unit _ ih =>
      obtain ⟨vs, read, rfl⟩ := before_eq_some_iff.mp h
      obtain ⟨a, b, c, d, first, second, third, fourth, rfl⟩ := hexUnit?_eq_some_iff.mp unit
      obtain ⟨qs, quotes, rfl⟩ := ih read
      exact ⟨_, quotes.hex first second third fourth, rfl⟩
  | case5 => simp at h
  | case6 => simp at h
  | case7 e es _ n escape _ ih =>
      obtain ⟨vs, read, rfl⟩ := before_eq_some_iff.mp h
      obtain ⟨qs, quotes, rfl⟩ := ih read
      exact ⟨_, quotes.short (escaped?_eq_some_iff.mp escape), rfl⟩
  | case8 => simp at h
  | case9 => simp at h
  | case10 c cs unquoted unescaped printed ih =>
      obtain ⟨vs, read, rfl⟩ := before_eq_some_iff.mp h
      obtain ⟨qs, quotes, rfl⟩ := ih read
      exact ⟨_, quotes.plain (by omega) unquoted unescaped, rfl⟩

/-- The text that is read up to the closing double quote is the one that is spelled there. -/
lemma string_eq_some_iff {cs rest : List Char} {s : String} :
    string cs = some (s, rest) ↔ ∃ qs, SpellsText qs s ∧ cs = qs ++ '\x22' :: rest := by
  rw [string, Option.map_eq_some_iff]
  constructor
  · rintro ⟨⟨us, rest'⟩, read, same⟩
    obtain ⟨rfl, rfl⟩ := Prod.mk.inj same
    obtain ⟨qs, quotes, rfl⟩ := exists_quotes read
    refine ⟨qs, ⟨us, quotes, ?_⟩, rfl⟩
    rw [String.toList_ofList]
    exact Text.isUnits_charsOfUnits quotes.lt
  · rintro ⟨qs, ⟨us, quotes, shown⟩, rfl⟩
    refine ⟨(us, rest), units_of_quotes quotes rest, ?_⟩
    rw [Text.charsOfUnits_of_isUnits shown, String.ofList_toList]

end Reader

end Driftwatch.Json
