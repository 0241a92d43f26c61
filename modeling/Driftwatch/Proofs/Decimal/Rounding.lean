/-
How a quotient is rounded to a floating-point number.

* `quotient`: the mantissa of a quotient, with its round bit and its sticky bit.
* `shiftRight_quotient`: shifting the mantissa divides the quotient, and the two bits stay right.
* `roundedMantissa_quotient`: the mantissa is rounded to the nearest integer, halves to the even
  one.
* `two_mul_le_roundHalfEven_iff`: what is rounded up to an even number.
* `roundWithAccuracy_eq`: a quotient is shifted, rounded, and shifted once more if it has become too
  long.
-/
import Driftwatch.Decimal.Binary
import Mathlib

namespace Driftwatch.Decimal

open Float.Model Float.Model.UnpackedFloat

/-! ### Rounding to the nearest integer -/

section

variable (num den : Nat)

lemma div_le_roundHalfEven : num / den ≤ roundHalfEven num den := by
  rw [roundHalfEven]
  split_ifs <;> omega

lemma roundHalfEven_le : roundHalfEven num den ≤ num / den + 1 := by
  rw [roundHalfEven]
  split_ifs <;> omega

end

variable {num den : Nat} (pos : 0 < den)

include pos

/-- A quotient is rounded to an even number or more if it is at most one half below it. -/
lemma two_mul_le_roundHalfEven_iff (c : Nat) :
    2 * (c + 1) ≤ roundHalfEven num den ↔ (4 * c + 3) * den ≤ 2 * num := by
  have parts := Nat.div_add_mod num den
  have small := Nat.mod_lt num pos
  have lower := div_le_roundHalfEven num den
  have upper := roundHalfEven_le num den
  obtain below | odd | above :
      num / den ≤ 2 * c ∨ num / den = 2 * c + 1 ∨ 2 * c + 2 ≤ num / den := by omega
  · have := Nat.mul_le_mul_left den below
    exact iff_of_false (by omega) (by nlinarith)
  · -- the only case in which the remainder matters
    rw [odd] at parts
    have half : (4 * c + 3) * den ≤ 2 * num ↔ den ≤ 2 * (num % den) := by
      constructor <;> intro h <;> nlinarith
    rw [half, roundHalfEven, odd]
    split_ifs <;> omega
  · have enough : den * (2 * c + 2) ≤ num :=
      (Nat.mul_le_mul_left den above).trans (Nat.mul_div_le num den)
    exact iff_of_true (by omega) (by nlinarith)

omit pos in
/-- A quotient that keeps its first place is not rounded to zero. -/
lemma roundHalfEven_ne_zero {n : Nat} (some : num / den ≠ 0) (places : n ≤ (num / den).log2) :
    roundHalfEven num (2 ^ n * den) ≠ 0 := by
  have cut : 0 < num / den / 2 ^ n :=
    Nat.div_pos ((Nat.le_log2 some).mp places) (by positivity)
  rw [Nat.div_div_eq_div_mul, Nat.mul_comm] at cut
  exact (cut.trans_le (div_le_roundHalfEven num (2 ^ n * den))).ne'

/-! ### Mantissas of quotients -/

omit pos in
/-- The mantissa of a quotient.  The round bit tells whether one half is left over at least, and the
sticky bit whether anything other than nothing and one half is. -/
def quotient (num den : Nat) : ExtendedMantissa where
  mantissa := num / den
  roundBit := den ≤ 2 * (num % den)
  stickyBit := num % den ≠ 0 ∧ 2 * (num % den) ≠ den

lemma quotient_eq : quotient num den =
    .ofMantissaAndAccuracy (num / den) (accuracyOfFraction (num % den) den) := by
  rw [quotient, accuracyOfFraction]
  by_cases whole : num % den = 0
  · rw [if_pos whole]
    simp [whole, ExtendedMantissa.ofMantissaAndAccuracy, pos.ne']
  · rw [if_neg whole]
    obtain less | half | more := Nat.lt_trichotomy (2 * (num % den)) den
    · rw [Nat.compare_eq_lt.mpr less]
      simp [ExtendedMantissa.ofMantissaAndAccuracy, less, less.ne, whole]
    · rw [Nat.compare_eq_eq.mpr half, half]
      simp [ExtendedMantissa.ofMantissaAndAccuracy]
    · rw [Nat.compare_eq_gt.mpr more]
      simp [ExtendedMantissa.ofMantissaAndAccuracy, more.le, more.ne', whole]

/-- A shift by one place divides the quotient by two. -/
lemma shiftRightOne_quotient : (quotient num den).shiftRightOne = quotient num (2 * den) := by
  have small := Nat.mod_lt num pos
  have rest : num % (2 * den) = num % den + den * (num / den % 2) := by
    rw [Nat.mul_comm 2 den, Nat.mod_mul]
  have half : num / (2 * den) = num / den / 2 := by
    rw [Nat.mul_comm 2 den, Nat.div_div_eq_div_mul]
  rw [quotient, quotient, ExtendedMantissa.shiftRightOne, half, rest, ExtendedMantissa.mk.injEq]
  rcases Nat.mod_two_eq_zero_or_one (num / den) with parity | parity
  all_goals
    rw [parity]
    refine ⟨rfl, ?_, ?_⟩ <;> rw [Bool.eq_iff_iff] <;>
      simp only [Bool.or_eq_true, decide_eq_true_eq, bne_iff_ne] <;> omega

/-- A shift divides the quotient by a power of two. -/
lemma shiftRight_quotient (n : Nat) : quotient num den >>> n = quotient num (2 ^ n * den) := by
  change n.repeat ExtendedMantissa.shiftRightOne (quotient num den) = _
  induction n with
  | zero => rw [Nat.repeat, pow_zero, one_mul]
  | succ n ih => rw [Nat.repeat, ih, shiftRightOne_quotient (by positivity), pow_succ', mul_assoc]

/-- The mantissa of a quotient is rounded to the nearest integer. -/
lemma roundedMantissa_quotient : (quotient num den).roundedMantissa = roundHalfEven num den := by
  rw [quotient_eq pos, ExtendedMantissa.roundedMantissa, accuracyOfFraction, roundHalfEven]
  by_cases whole : num % den = 0
  · rw [if_pos whole, whole, if_pos (by omega)]
    rfl
  · rw [if_neg whole]
    obtain less | half | more := Nat.lt_trichotomy (2 * (num % den)) den
    · rw [Nat.compare_eq_lt.mpr less, if_pos less]
      rfl
    · rw [Nat.compare_eq_eq.mpr half, half, if_neg (lt_irrefl _), if_neg (lt_irrefl _)]
      change num / den + num / den % 2 = _
      split_ifs <;> omega
    · rw [Nat.compare_eq_gt.mpr more, if_neg more.not_gt, if_pos more]
      rfl

omit pos

/-! ### The last place -/

/-- The exponent of the last place of a mantissa that is kept: at most fifty-three places are, and
none below the last one of the smallest numbers. -/
def lastPlace (mantissa : Nat) (exponent : Int) : Int :=
  max exponent (max (mantissa.log2 + exponent - 52) (-1074))

lemma shiftToTargetExponent_eq (mantissa : Nat) (exponent : Int) (accuracy : Accuracy) :
    shiftToTargetExponent .binary64 mantissa exponent accuracy =
      (ExtendedMantissa.ofMantissaAndAccuracy mantissa accuracy >>>
        (lastPlace mantissa exponent - exponent).toNat, lastPlace mantissa exponent) := by
  have target : Format.binary64.targetExponent (totalExponent mantissa exponent) =
      max (mantissa.log2 + exponent - 52) (-1074) := by
    rw [Format.targetExponent, totalExponent]
    simp only [Format.mantissaBits, Format.minExponent]
    norm_num
    omega
  rw [shiftToTargetExponent, target, shiftToExponent, lastPlace]
  congr 2 <;> omega

/-- So many places are dropped that the rest has at most fifty-three. -/
lemma div_lt_of_lastPlace (mantissa : Nat) (exponent : Int) :
    mantissa / 2 ^ (lastPlace mantissa exponent - exponent).toNat < 2 ^ 53 := by
  have enough : mantissa.log2 + 1 ≤ 53 + (lastPlace mantissa exponent - exponent).toNat := by
    rw [lastPlace]
    omega
  rw [Nat.div_lt_iff_lt_mul (by positivity), ← pow_add]
  exact Nat.lt_log2_self.trans_le (Nat.pow_le_pow_right (by decide) enough)

variable {exponent : Int} (high : -1074 ≤ exponent)

include high

/-- A mantissa of at most fifty-three places is kept. -/
lemma shiftToTargetExponent_of_lt {mantissa : Nat} (short : mantissa < 2 ^ 53) :
    shiftToTargetExponent .binary64 mantissa exponent .exact =
      (.ofMantissaAndAccuracy mantissa .exact, exponent) := by
  have places : mantissa.log2 < 53 := by
    obtain rfl | some := Nat.eq_zero_or_pos mantissa
    · decide
    · exact (Nat.log2_lt some.ne').mpr short
  have kept : lastPlace mantissa exponent = exponent := by
    rw [lastPlace]
    omega
  rw [shiftToTargetExponent_eq, kept, sub_self]
  rfl

/-- The smallest mantissa of fifty-four places is moved by one. -/
lemma shiftToTargetExponent_longest :
    shiftToTargetExponent .binary64 (2 ^ 53) exponent .exact =
      (.ofMantissaAndAccuracy (2 ^ 52) .exact, exponent + 1) := by
  have moved : lastPlace (2 ^ 53) exponent = exponent + 1 := by
    rw [lastPlace, Nat.log2_two_pow]
    omega
  rw [shiftToTargetExponent_eq, moved, add_sub_cancel_left]
  rfl

omit high

/-- **How a quotient is rounded**: it is cut at its last place and rounded to the nearest integer
there.  What becomes too long in this way is a power of two, and moves up by one place. -/
theorem roundWithAccuracy_eq (pos : 0 < den) (sign : Sign) {exponent place : Int} {rounded : Nat}
    (last : lastPlace (num / den) exponent = place)
    (nearest : roundHalfEven num (2 ^ (place - exponent).toNat * den) = rounded) :
    roundWithAccuracy .binary64 sign (num / den) exponent (accuracyOfFraction (num % den) den) =
      if h : rounded = 0 then .zero sign
      else if rounded < 2 ^ 53 then .finite sign rounded place (Nat.pos_of_ne_zero h)
      else .finite sign (2 ^ 52) (place + 1) (by decide) := by
  have high : -1074 ≤ place := by
    rw [← last, lastPlace]
    omega
  have short : rounded ≤ 2 ^ 53 := by
    have upper := roundHalfEven_le num (2 ^ (place - exponent).toNat * den)
    rw [nearest, Nat.mul_comm, ← Nat.div_div_eq_div_mul, ← last] at upper
    exact upper.trans (div_lt_of_lastPlace (num / den) exponent)
  rw [roundWithAccuracy, shiftToTargetExponent_eq, ← quotient_eq pos, shiftRight_quotient pos, last]
  dsimp only
  rw [roundedMantissa_quotient (by positivity), nearest]
  change (let (m, e) := shiftToTargetExponent .binary64 rounded place .exact
    if h : m.mantissa = 0 then UnpackedFloat.zero sign
      else .finite sign m.mantissa e (Nat.pos_of_ne_zero h)) = _
  obtain shorter | longest := Nat.lt_or_eq_of_le short
  · rw [shiftToTargetExponent_of_lt high shorter]
    simp only [if_pos shorter]
    rfl
  · rw [longest, shiftToTargetExponent_longest high]
    rfl

end Driftwatch.Decimal
