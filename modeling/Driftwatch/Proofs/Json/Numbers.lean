/-
Reading the numbers of JSON texts.

* `IsDigits`, `IsFraction`, `IsExponent`: the parts of a number are read as they are written, up to
  where they end.
* `Ends`: no number goes on with what follows.
* `Reader.number_of_numeral`: a number that is written is read, up to where it ends.
* `Reader.exists_numeral`: what is read as a number is written as one.
-/
import Driftwatch.Json.Reader
import Driftwatch.Proofs.Json.Grammar
import Mathlib.Data.List.TakeWhile

namespace Driftwatch.Json

/-- No number goes on with what follows. -/
def Ends (cs : List Char) : Prop :=
  ∀ c ∈ cs.head?, c.isDigit = false ∧ c ≠ '.' ∧ c ≠ 'e' ∧ c ≠ 'E'

/-- The digits of a number end there. -/
def EndsDigits (cs : List Char) : Prop :=
  ∀ c ∈ cs.head?, c.isDigit = false

lemma Ends.digits {cs : List Char} (h : Ends cs) : EndsDigits cs :=
  fun c mem => (h c mem).1

namespace Reader

/-! ### Digits -/

/-- The number with given digits is the one that the digits denote. -/
lemma ofDigits_map_digit (ds : List Char) :
    Decimal.ofDigits (ds.map digit) = Nat.ofDigitChars 10 ds 0 := by
  rw [Decimal.ofDigits, List.foldl_map, Nat.ofDigitChars]
  rfl

/-- Digits are read up to where they end. -/
lemma digits_append {ds rest : List Char} (h : IsDigits ds) (ends : EndsDigits rest) :
    digits (ds ++ rest) = some (ds.map digit, rest) := by
  have stop : rest.takeWhile Char.isDigit = [] ∧ rest.dropWhile Char.isDigit = rest := by
    cases rest with
    | nil => simp
    | cons c rest => simp [ends c rfl]
  rw [digits, List.takeWhile_append_of_pos h.2, List.dropWhile_append_of_pos h.2, stop.1, stop.2,
    List.append_nil]
  simp [h.1]

/-- What is read as digits are digits. -/
lemma exists_digits {cs rest : List Char} {ns : List Nat} (h : digits cs = some (ns, rest)) :
    ∃ ds, IsDigits ds ∧ cs = ds ++ rest ∧ ns = ds.map digit := by
  rw [digits] at h
  split at h
  · simp at h
  · rename_i some
    obtain ⟨rfl, rfl⟩ := Prod.mk.inj (Option.some.inj h)
    exact ⟨cs.takeWhile Char.isDigit,
      ⟨by simpa using some, fun c mem => List.mem_takeWhile_imp mem⟩,
      List.takeWhile_append_dropWhile.symm, rfl⟩

lemma isDigit_iff {c : Char} : c.isDigit = true ↔ 48 ≤ c.toNat ∧ c.toNat ≤ 57 := by
  simp only [Char.isDigit, Bool.and_eq_true, decide_eq_true_eq]
  exact Iff.rfl

/-- The only digit that is worth nothing is the zero. -/
lemma digit_eq_zero_iff {c : Char} (h : c.isDigit = true) : digit c = 0 ↔ c = '0' := by
  rw [isDigit_iff] at h
  rw [digit, ← Char.toNat_inj]
  change c.toNat - 48 = 0 ↔ c.toNat = 48
  omega

/-- The digits before the point are read up to where they end. -/
lemma whole_append {ds rest : List Char} (h : IsWhole ds) (ends : EndsDigits rest) :
    whole (ds ++ rest) = some (ds.map digit, rest) := by
  obtain ⟨isDigits, alone⟩ := h
  rw [whole, digits_append isDigits ends]
  split
  · rename_i zero
    -- a zero in front of other digits
    obtain ⟨digits, -⟩ := Prod.mk.inj (Option.some.inj zero)
    obtain ⟨c, ds', rfl, first, more⟩ := List.map_eq_cons_iff.mp digits
    rw [digit_eq_zero_iff (isDigits.2 c (by simp))] at first
    subst first
    obtain rfl : ds' = [] := by simpa using alone rfl
    simp at more
  · rfl

/-- What is read as the digits before the point are such digits. -/
lemma exists_whole {cs rest : List Char} {ns : List Nat} (h : whole cs = some (ns, rest)) :
    ∃ ds, IsWhole ds ∧ cs = ds ++ rest ∧ ns = ds.map digit := by
  rw [whole] at h
  split at h
  · simp at h
  · rename_i nonzero
    obtain ⟨ds, isDigits, rfl, rfl⟩ := exists_digits h
    refine ⟨ds, ⟨isDigits, fun zero => ?_⟩, rfl, rfl⟩
    match ds with
    | [] => simp at zero
    | [c] => simpa using zero
    | c :: c' :: ds =>
        obtain rfl : c = '0' := by simpa using zero
        exact absurd h (nonzero _ _ _)

/-! ### Points and powers of ten -/

/-- The digits behind the point are read up to where they end. -/
lemma fraction_append {text fs rest : List Char} (h : IsFraction text fs) (ends : EndsDigits rest)
    (unpointed : ∀ c ∈ rest.head?, c ≠ '.') :
    fraction (text ++ rest) = some (if text = [] then none else some (fs.map digit), rest) := by
  cases h with
  | none =>
      rw [List.nil_append, if_pos rfl, fraction.eq_def]
      split
      · exact absurd rfl (unpointed '.' rfl)
      · rfl
  | point isDigits =>
      rw [List.cons_append, fraction, digits_append isDigits ends]
      rfl

/-- What is read as the digits behind the point are such digits. -/
lemma exists_fraction {cs rest : List Char} {read : Option (List Nat)}
    (h : fraction cs = some (read, rest)) :
    ∃ text fs, IsFraction text fs ∧ cs = text ++ rest ∧
      read = if text = [] then none else some (fs.map digit) := by
  rw [fraction.eq_def] at h
  split at h
  · obtain ⟨⟨ns, rest'⟩, found, same⟩ := Option.map_eq_some_iff.mp h
    obtain ⟨rfl, rfl⟩ := Prod.mk.inj same
    obtain ⟨ds, isDigits, rfl, rfl⟩ := exists_digits found
    exact ⟨_, _, .point isDigits, rfl, rfl⟩
  · obtain ⟨rfl, rfl⟩ := Prod.mk.inj (Option.some.inj h)
    exact ⟨_, _, .none, rfl, rfl⟩

/-- A digit is no sign. -/
lemma signed_of_isDigits {ds : List Char} (isDigits : IsDigits ds) (rest : List Char) :
    Decimal.signed (ds ++ rest) = (false, ds ++ rest) := by
  match ds with
  | [] => exact absurd rfl isDigits.1
  | c :: ds =>
      have digit := isDigits.2 c (by simp)
      rw [List.cons_append, Decimal.signed.eq_def]
      split
      · rename_i plus
        obtain ⟨rfl, -⟩ := List.cons.inj plus
        exact absurd digit (by decide)
      · rename_i minus
        obtain ⟨rfl, -⟩ := List.cons.inj minus
        exact absurd digit (by decide)
      · rfl

/-- The sign of a power of ten is a plus or a minus, or there is none. -/
lemma exists_sign {cs rest : List Char} {negative : Bool}
    (h : Decimal.signed cs = (negative, rest)) : ∃ sign, cs = sign ++ rest ∧
      (if negative then sign = ['-'] else sign = [] ∨ sign = ['+']) := by
  rw [Decimal.signed.eq_def] at h
  split at h <;> obtain ⟨rfl, rfl⟩ := Prod.mk.inj h
  · exact ⟨['+'], rfl, by simp⟩
  · exact ⟨['-'], rfl, by simp⟩
  · exact ⟨[], rfl, by simp⟩

/-- The power of ten is read up to where it ends. -/
lemma exponent_append {text rest : List Char} {e : Int} (h : IsExponent text e) (ends : Ends rest) :
    exponent (text ++ rest) = some (if text = [] then none else some e, rest) := by
  cases h with
  | none =>
      rw [List.nil_append, if_pos rfl]
      cases rest with
      | nil => rfl
      | cons c rest =>
          obtain ⟨-, -, small, capital⟩ := ends c rfl
          rw [exponent, if_neg (by simp [small, capital])]
  | @plain mark sign ds marked signed isDigits =>
      have unsigned : Decimal.signed (sign ++ ds ++ rest) = (false, ds ++ rest) := by
        obtain rfl | rfl := signed
        · exact signed_of_isDigits isDigits rest
        · rfl
      rw [List.cons_append, exponent, if_pos marked, unsigned]
      dsimp only
      rw [digits_append isDigits ends.digits]
      simp [ofDigits_map_digit]
  | @minus mark ds marked isDigits =>
      rw [List.cons_append, exponent, if_pos marked]
      change (digits (ds ++ rest)).map _ = _
      rw [digits_append isDigits ends.digits]
      simp [ofDigits_map_digit]

/-- What is read as a power of ten is one. -/
lemma exists_exponent {cs rest : List Char} {read : Option Int}
    (h : exponent cs = some (read, rest)) :
    ∃ text e, IsExponent text e ∧ cs = text ++ rest ∧
      read = if text = [] then none else some e := by
  cases cs with
  | nil =>
      obtain ⟨rfl, rfl⟩ := Prod.mk.inj (Option.some.inj h)
      exact ⟨_, _, .none, rfl, rfl⟩
  | cons c cs =>
      rw [exponent] at h
      split at h
      · rename_i marked
        rcases read : Decimal.signed cs with ⟨negative, after⟩
        obtain ⟨sign, rfl, signed⟩ := exists_sign read
        rw [read] at h
        obtain ⟨⟨ns, rest'⟩, found, same⟩ := Option.map_eq_some_iff.mp h
        obtain ⟨rfl, rfl⟩ := Prod.mk.inj same
        obtain ⟨ds, isDigits, rfl, rfl⟩ := exists_digits found
        rw [ofDigits_map_digit]
        cases negative with
        | true =>
            obtain rfl := signed
            exact ⟨_, _, .minus marked isDigits, rfl, rfl⟩
        | false => exact ⟨_, _, .plain marked signed isDigits, by simp, rfl⟩
      · obtain ⟨rfl, rfl⟩ := Prod.mk.inj (Option.some.inj h)
        exact ⟨_, _, .none, rfl, rfl⟩

/-! ### Whole numbers -/

/-- No digit and no point stands where a power of ten may stand. -/
lemma endsDigits_exponent {text rest : List Char} {e : Int} (h : IsExponent text e)
    (ends : Ends rest) :
    EndsDigits (text ++ rest) ∧ ∀ c ∈ (text ++ rest).head?, c ≠ '.' := by
  cases h with
  | none => exact ⟨ends.digits, fun c mem => (ends c mem).2.1⟩
  | plain marked _ _ => obtain rfl | rfl := marked <;> simp [EndsDigits]
  | minus marked _ => obtain rfl | rfl := marked <;> simp [EndsDigits]

/-- No digit stands where a point may stand. -/
lemma endsDigits_fraction {text fs rest : List Char} (h : IsFraction text fs)
    (ends : EndsDigits rest) : EndsDigits (text ++ rest) := by
  cases h with
  | none => exact ends
  | point _ => simp [EndsDigits]

/-- The number that is made of what was read of its parts. -/
def ofParts (negative : Bool) (ds fraction fs exponent : List Char) (e : Int) : Option Json :=
  assemble negative (ds.map digit) (if fraction = [] then none else some (fs.map digit))
    (if exponent = [] then none else some e)

/-- A number without its sign is read up to where it ends. -/
lemma magnitude_append {negative : Bool} {ds text fs text' rest : List Char} {e : Int}
    (isWhole : IsWhole ds) (isFraction : IsFraction text fs) (isExponent : IsExponent text' e)
    (ends : Ends rest) :
    magnitude negative (ds ++ (text ++ (text' ++ rest))) =
      (ofParts negative ds text fs text' e).map (·, rest) := by
  obtain ⟨endsFraction, unpointed⟩ := endsDigits_exponent isExponent ends
  have endsWhole := endsDigits_fraction isFraction endsFraction
  rw [magnitude, whole_append isWhole endsWhole]
  dsimp only
  rw [fraction_append isFraction endsFraction unpointed]
  dsimp only
  rw [exponent_append isExponent ends]
  rfl

/-- What is read as a number without its sign has the parts of one. -/
lemma exists_magnitude {negative : Bool} {cs rest : List Char} {j : Json}
    (h : magnitude negative cs = some (j, rest)) :
    ∃ ds text fs text' e, IsWhole ds ∧ IsFraction text fs ∧ IsExponent text' e ∧
      cs = ds ++ (text ++ (text' ++ rest)) ∧ ofParts negative ds text fs text' e = some j := by
  rw [magnitude] at h
  split at h
  · simp at h
  rename_i foundWhole
  split at h
  · simp at h
  rename_i foundFraction
  split at h
  · simp at h
  rename_i foundExponent
  obtain ⟨ds, isWhole, rfl, rfl⟩ := exists_whole foundWhole
  obtain ⟨text, fs, isFraction, rfl, rfl⟩ := exists_fraction foundFraction
  obtain ⟨text', e, isExponent, rfl, rfl⟩ := exists_exponent foundExponent
  obtain ⟨x, made, same⟩ := Option.map_eq_some_iff.mp h
  obtain ⟨rfl, rfl⟩ := Prod.mk.inj same
  exact ⟨ds, text, fs, text', e, isWhole, isFraction, isExponent, rfl, made⟩

/-- With neither a point nor a power of ten the number is an integer, if it is not too long. -/
lemma ofParts_integer (negative : Bool) (ds fs : List Char) (e : Int) :
    ofParts negative ds [] fs [] e = if ds.length ≤ Decimal.longestInteger then
      some (.int (if negative then -Nat.ofDigitChars 10 ds 0 else Nat.ofDigitChars 10 ds 0))
    else none := by
  rw [ofParts, if_pos rfl, if_pos rfl, assemble, ofDigits_map_digit, List.length_map]

/-- With a point or a power of ten it is a floating-point number. -/
lemma ofParts_float {negative : Bool} {ds text fs text' : List Char} {e : Int}
    (isFraction : IsFraction text fs) (isExponent : IsExponent text' e)
    (inexact : text ≠ [] ∨ text' ≠ []) :
    ofParts negative ds text fs text' e = some
      (.float (Decimal.toFloat negative (Nat.ofDigitChars 10 (ds ++ fs) 0) (e - fs.length))) := by
  have digits : Decimal.ofDigits (ds.map digit ++ fs.map digit) =
      Nat.ofDigitChars 10 (ds ++ fs) 0 := by
    rw [← List.map_append, ofDigits_map_digit]
  rw [ofParts]
  by_cases pointed : text = []
  · subst pointed
    cases isFraction
    rw [if_pos rfl, if_neg (inexact.resolve_left (· rfl)), ← digits]
    rfl
  · rw [if_neg pointed, ← digits]
    by_cases powered : text' = []
    · subst powered
      cases isExponent
      rw [if_pos rfl]
      simp [assemble]
    · rw [if_neg powered]
      simp [assemble]

/-- A number is written as its parts are. -/
lemma numeral_iff {cs : List Char} {j : Json} :
    Numeral cs j ↔ ∃ negative ds text fs text' e, IsWhole ds ∧ IsFraction text fs ∧
      IsExponent text' e ∧ cs = minusIf negative ++ (ds ++ (text ++ text')) ∧
        ofParts negative ds text fs text' e = some j := by
  constructor
  · rintro (⟨negative, whole, short⟩ | ⟨negative, whole, behind, power, inexact⟩)
    · refine ⟨negative, _, _, _, _, _, whole, .none, .none, by simp, ?_⟩
      rw [ofParts_integer, if_pos short]
    · exact ⟨negative, _, _, _, _, _, whole, behind, power, rfl,
        ofParts_float behind power inexact⟩
  · rintro ⟨negative, ds, text, fs, text', e, whole, behind, power, rfl, made⟩
    by_cases inexact : text ≠ [] ∨ text' ≠ []
    · rw [ofParts_float behind power inexact] at made
      obtain rfl := Option.some.inj made
      exact .float negative whole behind power inexact
    · obtain ⟨rfl, rfl⟩ : text = [] ∧ text' = [] := by simpa [not_or] using inexact
      rw [ofParts_integer] at made
      split at made
      · rename_i short
        obtain rfl := Option.some.inj made
        simpa using Numeral.integer negative whole short
      · simp at made

/-- The sign of a number is read first. -/
lemma number_minusIf {negative : Bool} {ds : List Char} (isDigits : IsDigits ds)
    (rest : List Char) :
    number (minusIf negative ++ (ds ++ rest)) = magnitude negative (ds ++ rest) := by
  cases negative with
  | true => rfl
  | false =>
      match ds with
      | [] => exact absurd rfl isDigits.1
      | c :: ds =>
          have digit := isDigits.2 c (by simp)
          change number (c :: (ds ++ rest)) = _
          rw [number.eq_def]
          split
          · rename_i minus
            obtain ⟨rfl, -⟩ := List.cons.inj minus
            exact absurd digit (by decide)
          · rfl

/-- A number that is written is read, up to where it ends. -/
lemma number_of_numeral {cs rest : List Char} {j : Json} (h : Numeral cs j) (ends : Ends rest) :
    number (cs ++ rest) = some (j, rest) := by
  obtain ⟨negative, ds, text, fs, text', e, whole, behind, power, rfl, made⟩ := numeral_iff.mp h
  simp only [List.append_assoc]
  rw [number_minusIf whole.1, magnitude_append whole behind power ends, made]
  rfl

/-- What is read as a number is written as one. -/
lemma exists_numeral {cs rest : List Char} {j : Json} (h : number cs = some (j, rest)) :
    ∃ text, Numeral text j ∧ cs = text ++ rest := by
  have made (negative : Bool) (cs : List Char) (read : magnitude negative cs = some (j, rest)) :
      ∃ text, Numeral (minusIf negative ++ text) j ∧ cs = text ++ rest := by
    obtain ⟨ds, text, fs, text', e, whole, behind, power, rfl, made⟩ := exists_magnitude read
    exact ⟨_, numeral_iff.mpr ⟨_, _, _, _, _, _, whole, behind, power, rfl, made⟩, by simp⟩
  rw [number.eq_def] at h
  split at h
  · obtain ⟨text, numeral, rfl⟩ := made _ _ h
    exact ⟨_, numeral, rfl⟩
  · exact made _ _ h

end Reader

end Driftwatch.Json
