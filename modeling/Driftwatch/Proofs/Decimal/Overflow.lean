/-
Which quotients become infinite.

* `leastInfinite`: the number from which on all are rounded to an infinity.
* `IsBelow`: a number is zero, or finite with a last place below a bound.
* `IsBelow.unpack_pack`, `pack_of_above`: what is below the greatest exponent stays so when it is
  packed, and what is above it becomes an infinity.
* `pack_roundWithAccuracy`: exactly the quotients of `leastInfinite` at least become infinite.
-/
import Driftwatch.Proofs.Decimal.Rounding

namespace Driftwatch.Decimal

open Float.Model (UnpackedFloat)
open Float.Model.UnpackedFloat

/-- The number from which on all are rounded to an infinity: halfway between the greatest finite
number and the power of two after it. -/
def leastInfinite : Nat := (2 ^ 54 - 1) * 2 ^ 970

/-! ### Packing -/

/-- A number is zero, or finite with a mantissa of at most fifty-three places whose last one is not
above a bound. -/
def IsBelow (bound : Int) : UnpackedFloat → Prop
  | .zero _ => True
  | .finite _ mantissa exponent _ => mantissa < 2 ^ 53 ∧ exponent ≤ bound
  | _ => False

variable {bound : Int} {f : UnpackedFloat}

lemma IsBelow.mono {bound' : Int} (h : IsBelow bound f) (le : bound ≤ bound') :
    IsBelow bound' f := by
  cases f with
  | finite sign mantissa exponent pos => exact ⟨h.1, h.2.trans le⟩
  | _ => exact h

/-- What is below a bound is neither an infinity nor not a number. -/
lemma IsBelow.zero_or_finite (h : IsBelow bound f) :
    (∃ sign, f = .zero sign) ∨ ∃ sign mantissa exponent some,
      f = .finite sign mantissa exponent some ∧ mantissa < 2 ^ 53 ∧ exponent ≤ bound := by
  cases f with
  | zero sign => exact .inl ⟨sign, rfl⟩
  | finite sign mantissa exponent some => exact .inr ⟨_, _, _, some, rfl, h⟩
  | infinity sign => exact h.elim
  | notANumber => exact h.elim

lemma IsBelow.isFinite (h : IsBelow bound f) : f.isFinite = true := by
  obtain ⟨sign, rfl⟩ | ⟨sign, mantissa, exponent, some, rfl, -⟩ := h.zero_or_finite <;> rfl

lemma IsBelow.neg (h : IsBelow bound f) : IsBelow bound f.neg := by
  cases f <;> exact h

lemma exponentBias_binary64 : Float.Model.Format.binary64.exponentBias = 1023 := rfl

lemma isBelow_unpack_packComponents {sign : Sign} {exponent : BitVec 11} (mantissa : BitVec 52)
    (finite : exponent ≠ -1#_) (high : -1074 ≤ bound)
    (below : (exponent.toNat : Int) - 1075 ≤ bound) :
    IsBelow bound (unpack .binary64 (packComponents .binary64 sign exponent mantissa)) := by
  simp only [unpack, unpackExponent_packComponents, unpackMantissa_packComponents, if_neg finite,
    exponentBias_binary64]
  by_cases subnormal : exponent = 0#11
  · subst subnormal
    rw [if_pos rfl]
    split_ifs with none
    · trivial
    · exact ⟨mantissa.isLt.trans (by norm_num), high⟩
  · rw [if_neg subnormal]
    refine ⟨(1#1 ++ mantissa).isLt, ?_⟩
    push_cast
    omega

/-- An exponent is too large for the format. -/
lemma exponent_full_iff (exponent : Int) :
    2 ^ Float.Model.Format.binary64.exponentBits ≤
      (exponent + Float.Model.Format.binary64.exponentBias +
        Float.Model.Format.binary64.mantissaBitsWithoutImplicit).toNat + 1 ↔ 972 ≤ exponent := by
  change 2 ^ 11 ≤ (exponent + (1023 : Nat) + (52 : Nat)).toNat + 1 ↔ _
  omega

/-- Other exponents are kept, in the format's own way. -/
lemma toNat_ofNat_exponent {exponent : Int} (room : ¬ 972 ≤ exponent) :
    (BitVec.ofNat 11 (exponent + Float.Model.Format.binary64.exponentBias +
      Float.Model.Format.binary64.mantissaBitsWithoutImplicit).toNat).toNat =
        (exponent + 1075).toNat := by
  change (exponent + (1023 : Nat) + (52 : Nat)).toNat % 2048 = _
  omega

/-- What is above the greatest exponent becomes an infinity. -/
lemma pack_of_above {sign : Sign} {mantissa : Nat} {exponent : Int} (pos : 0 < mantissa)
    (above : 972 ≤ exponent) :
    Float.Model.pack (.finite sign mantissa exponent pos) = Float.Model.pack (.infinity sign) := by
  have packed : pack .binary64 (.finite sign mantissa exponent pos) =
      pack .binary64 (.infinity sign) := if_pos ((exponent_full_iff exponent).mpr above)
  simp only [Float.Model.pack, packed]

/-- What is below the greatest exponent stays so when it is packed. -/
lemma IsBelow.unpack_pack (h : IsBelow bound f) (high : -1074 ≤ bound) (low : bound ≤ 971) :
    IsBelow bound (Float.Model.pack f).unpack := by
  change IsBelow bound (unpack .binary64 (pack .binary64 f))
  obtain ⟨sign, rfl⟩ | ⟨sign, mantissa, exponent, pos, rfl, -, below⟩ := h.zero_or_finite
  · exact isBelow_unpack_packComponents 0 (by decide) high (by simp; omega)
  · have room : ¬ 972 ≤ exponent := by omega
    rw [pack, if_neg (mt (exponent_full_iff exponent).mp room)]
    split_ifs
    · have value := toNat_ofNat_exponent room
      refine isBelow_unpack_packComponents _ (fun full => ?_) high ?_
      · rw [full] at value
        change 2047 = (exponent + 1075).toNat at value
        omega
      · change ((BitVec.ofNat 11 _).toNat : Int) - 1075 ≤ bound
        rw [value]
        omega
    · exact isBelow_unpack_packComponents _ (by decide) high (by simp; omega)

/-! ### Quotients -/

variable {num den : Nat} (pos : 0 < den) (sign : Sign)

include pos

/-- A quotient is rounded to a number that is hardly above its last place. -/
lemma isBelow_roundWithAccuracy (exponent : Int) :
    IsBelow (lastPlace (num / den) exponent + 1)
      (roundWithAccuracy .binary64 sign (num / den) exponent
        (accuracyOfFraction (num % den) den)) := by
  rw [roundWithAccuracy_eq pos sign rfl rfl]
  split_ifs with zero short
  · trivial
  · exact ⟨short, by omega⟩
  · exact ⟨by norm_num, le_rfl⟩

variable {places : Nat}

/-- A quotient with few places is small. -/
lemma lt_of_log2_lt {b : Nat} (few : (num * 2 ^ places / den).log2 < b + places) :
    num < 2 ^ b * den := by
  have small : num * 2 ^ places / den < 2 ^ (b + places) :=
    Nat.lt_log2_self.trans_le (Nat.pow_le_pow_right (by decide) few)
  rw [Nat.div_lt_iff_lt_mul pos, pow_add, mul_right_comm] at small
  exact Nat.lt_of_mul_lt_mul_right small

/-- A quotient with many places is large. -/
lemma le_of_le_log2 {b : Nat} (some : 0 < b)
    (many : b + places ≤ (num * 2 ^ places / den).log2) : 2 ^ b * den ≤ num := by
  have nonzero : num * 2 ^ places / den ≠ 0 := by
    intro zero
    rw [zero, Nat.log2_zero] at many
    omega
  have large := (Nat.le_log2 nonzero).mp many
  rw [Nat.le_div_iff_mul_le pos, pow_add, mul_right_comm] at large
  exact Nat.le_of_mul_le_mul_right large (by positivity)

omit pos in
lemma le_leastInfinite : 2 ^ 1023 ≤ leastInfinite := by
  rw [leastInfinite, show 1023 = 53 + 970 from rfl, pow_add]
  exact Nat.mul_le_mul_right _ (by norm_num)

omit pos in
lemma leastInfinite_le : leastInfinite ≤ 2 ^ 1024 := by
  rw [leastInfinite, show 1024 = 54 + 970 from rfl, pow_add]
  exact Nat.mul_le_mul_right _ (by norm_num)

/-- At the last place of the greatest finite number it is the rounding that decides. -/
lemma two_pow_le_roundHalfEven_iff (places : Nat) :
    2 ^ 53 ≤ roundHalfEven (num * 2 ^ places) (2 ^ (971 + places) * den) ↔
      leastInfinite * den ≤ num := by
  have positive : 0 < 2 ^ (971 + places) * den := by positivity
  have scaled : (4 * (2 ^ 52 - 1) + 3) * (2 ^ (971 + places) * den) =
      leastInfinite * den * (2 * 2 ^ places) := by
    rw [leastInfinite, show 971 + places = 970 + (1 + places) by omega, pow_add _ 970, pow_add,
      show 4 * (2 ^ 52 - 1) + 3 = 2 ^ 54 - 1 from rfl]
    generalize 2 ^ 970 = top
    ring
  refine (two_mul_le_roundHalfEven_iff positive (2 ^ 52 - 1)).trans ?_
  rw [scaled, Nat.mul_left_comm 2, Nat.mul_le_mul_right_iff (by positivity)]

section

variable {exponent place : Int} {rounded : Nat} (last : lastPlace (num / den) exponent = place)
  (nearest : roundHalfEven num (2 ^ (place - exponent).toNat * den) = rounded)

include last nearest

/-- What does not become too long stays at its last place. -/
lemma isBelow_of_nearest (short : rounded < 2 ^ 53) :
    IsBelow place (roundWithAccuracy .binary64 sign (num / den) exponent
      (accuracyOfFraction (num % den) den)) := by
  rw [roundWithAccuracy_eq pos sign last nearest]
  split_ifs
  · trivial
  · exact ⟨short, le_rfl⟩

/-- What is rounded to a number above the greatest exponent becomes an infinity. -/
lemma pack_of_nearest (some : rounded ≠ 0) (above : 972 ≤ place ∨ 971 ≤ place ∧ 2 ^ 53 ≤ rounded) :
    Float.Model.pack (roundWithAccuracy .binary64 sign (num / den) exponent
      (accuracyOfFraction (num % den) den)) = Float.Model.pack (.infinity sign) := by
  rw [roundWithAccuracy_eq pos sign last nearest, dif_neg some]
  split_ifs with short
  · exact pack_of_above _ (by omega)
  · exact pack_of_above _ (by omega)

end

/-- **The quotients that become infinite** are those of `leastInfinite` at least. -/
theorem pack_roundWithAccuracy (num places : Nat) :
    let rounded := roundWithAccuracy .binary64 sign (num * 2 ^ places / den) (-(places : Int))
      (accuracyOfFraction (num * 2 ^ places % den) den)
    (leastInfinite * den ≤ num → Float.Model.pack rounded = Float.Model.pack (.infinity sign)) ∧
      (num < leastInfinite * den → IsBelow 971 rounded) := by
  intro rounded
  obtain ⟨place, last⟩ : ∃ place, lastPlace (num * 2 ^ places / den) (-(places : Int)) = place :=
    ⟨_, rfl⟩
  have place_eq := last
  rw [lastPlace] at place_eq
  have below : IsBelow (place + 1) rounded := last ▸ isBelow_roundWithAccuracy pos sign _
  obtain low | rfl | high : place ≤ 970 ∨ place = 971 ∨ 972 ≤ place := by omega
  · have few : (num * 2 ^ places / den).log2 < 1023 + places := by omega
    have small : num < leastInfinite * den :=
      (lt_of_log2_lt pos few).trans_le (Nat.mul_le_mul_right den le_leastInfinite)
    exact ⟨fun large => absurd large small.not_ge, fun _ => below.mono (by omega)⟩
  · have shift : ((971 : Int) - -(places : Int)).toNat = 971 + places := by omega
    have nearest :
        roundHalfEven (num * 2 ^ places) (2 ^ ((971 : Int) - -(places : Int)).toNat * den) =
          roundHalfEven (num * 2 ^ places) (2 ^ (971 + places) * den) := by rw [shift]
    constructor
    · intro large
      have long := (two_pow_le_roundHalfEven_iff pos places).mpr large
      exact pack_of_nearest pos sign last nearest (by omega) (.inr ⟨le_rfl, long⟩)
    · intro small
      have short := mt (two_pow_le_roundHalfEven_iff pos places).mp small.not_ge
      exact isBelow_of_nearest pos sign last nearest (not_le.mp short)
  · have many : 1024 + places ≤ (num * 2 ^ places / den).log2 := by omega
    have large : leastInfinite * den ≤ num :=
      (Nat.mul_le_mul_right den leastInfinite_le).trans (le_of_le_log2 pos (by decide) many)
    refine ⟨fun _ => ?_, fun small => absurd large small.not_ge⟩
    have some : num * 2 ^ places / den ≠ 0 := by
      intro zero
      rw [zero, Nat.log2_zero] at many
      omega
    exact pack_of_nearest pos sign last rfl (roundHalfEven_ne_zero some (by omega)) (.inl high)

end Driftwatch.Decimal
