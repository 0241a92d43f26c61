/-
Which decimal numbers are read as infinities.

* `Overflows`: a decimal number is `leastInfinite` at least.
* `ofScientific_spec`, `ofScientific_cases`: exactly these numbers become infinite, whether they are
  computed with the table of powers or without it.
* `toFloat_cases`: so do those that are read from numerals, although the ones that are much too
  large or too small are told by their length.
-/
import Driftwatch.Decimal.Reader
import Driftwatch.Proofs.Decimal.Overflow

namespace Driftwatch.Decimal

open Float.Model (UnpackedFloat)
open Float.Model.UnpackedFloat (Sign accuracyOfFraction divCore roundWithAccuracy)

/-- The number `mantissa * 10 ^ exponent` is `leastInfinite` at least. -/
def Overflows (mantissa : Nat) (exponent : Int) : Prop :=
  leastInfinite * 10 ^ (-exponent).toNat ≤ mantissa * 10 ^ exponent.toNat

/-! ### Sizes -/

variable {mantissa : Nat} {exponent : Int}

lemma overflows_of_nonneg (whole : 0 ≤ exponent) :
    Overflows mantissa exponent ↔ leastInfinite ≤ mantissa * 10 ^ exponent.toNat := by
  rw [Overflows, show (-exponent).toNat = 0 by omega, pow_zero, mul_one]

lemma overflows_of_neg (fraction : exponent < 0) :
    Overflows mantissa exponent ↔ leastInfinite * 10 ^ (-exponent).toNat ≤ mantissa := by
  rw [Overflows, show exponent.toNat = 0 by omega, pow_zero, mul_one]

/-- A large power of ten is large. -/
lemma leastInfinite_le_pow {n : Nat} (large : 1024 ≤ n) : leastInfinite ≤ 10 ^ n := by
  refine (leastInfinite_le.trans ?_).trans (Nat.pow_le_pow_left (by decide : 2 ≤ 10) n)
  gcongr
  decide

lemma leastInfinite_pos : 0 < leastInfinite :=
  (Nat.pow_pos (by decide)).trans_le le_leastInfinite

/-! ### Scientific notation -/

/-- A product with a power of ten is rounded as a quotient by one. -/
lemma mul_eq (some : 0 < mantissa <<< 53) (n : Nat) :
    UnpackedFloat.mul .binary64 (.finite .positive (mantissa <<< 53) (-53) some)
        (.finite .positive (10 ^ n) 0 (Nat.pow_pos (by decide))) =
      roundWithAccuracy .binary64 .positive (mantissa * 10 ^ n * 2 ^ 53 / 1) (-(53 : Nat))
        (accuracyOfFraction (mantissa * 10 ^ n * 2 ^ 53 % 1) 1) := by
  rw [Nat.mod_one, Nat.div_one, mul_right_comm, ← Nat.shiftLeft_eq]
  rfl

/-- A quotient by a power of ten is rounded with as many places as it is computed with. -/
lemma exists_div_eq (some : 0 < mantissa) (n : Nat) :
    ∃ places : Nat, UnpackedFloat.div .binary64 (.finite .positive mantissa 0 some)
        (.finite .positive (10 ^ n) 0 (Nat.pow_pos (by decide))) =
      roundWithAccuracy .binary64 .positive (mantissa * 2 ^ places / 10 ^ n) (-(places : Int))
        (accuracyOfFraction (mantissa * 2 ^ places % 10 ^ n) (10 ^ n)) := by
  set target := min (0 - 0) (Float.Model.Format.binary64.targetExponent
    (Float.Model.totalExponent mantissa 0 - Float.Model.totalExponent (10 ^ n) 0)) with target_eq
  refine ⟨(0 - 0 - target).toNat, ?_⟩
  rw [← Nat.shiftLeft_eq, show -((0 - 0 - target).toNat : Int) = target by omega, target_eq]
  rfl

/-- **The decimal numbers that become infinite** are those of `leastInfinite` at least. -/
theorem ofScientific_spec (some : mantissa ≠ 0) (exponent : Int) :
    (Overflows mantissa exponent →
      Float.Model.ofScientific mantissa exponent = Float.Model.pack (.infinity .positive)) ∧
    (¬ Overflows mantissa exponent → IsBelow 971 (.ofScientific .binary64 mantissa exponent)) := by
  rw [Float.Model.ofScientific, UnpackedFloat.ofScientific, dif_neg some]
  split_ifs with huge tiny whole
  · change exponent > 2048 at huge
    have large : Overflows mantissa exponent := by
      rw [overflows_of_nonneg (by omega)]
      exact (leastInfinite_le_pow (by omega)).trans (Nat.le_mul_of_pos_left _ (by omega))
    exact ⟨fun _ => rfl, fun small => absurd large small⟩
  · change exponent < -(2048 + (mantissa.log2 : Int)) at tiny
    have small : ¬ Overflows mantissa exponent := by
      rw [overflows_of_neg (by omega), not_le]
      calc mantissa < 2 ^ (mantissa.log2 + 1) := Nat.lt_log2_self
        _ ≤ 2 ^ (-exponent).toNat := Nat.pow_le_pow_right (by decide) (by omega)
        _ ≤ 10 ^ (-exponent).toNat := Nat.pow_le_pow_left (by decide) _
        _ ≤ leastInfinite * 10 ^ (-exponent).toNat := Nat.le_mul_of_pos_left _ leastInfinite_pos
    exact ⟨fun large => absurd large small, fun _ => trivial⟩
  · have product := pack_roundWithAccuracy Nat.one_pos .positive (mantissa * 10 ^ exponent.toNat) 53
    dsimp only at product
    rw [Nat.mul_one leastInfinite, ← mul_eq (by simpa [Nat.pos_iff_ne_zero])] at product
    rw [overflows_of_nonneg whole, not_le]
    exact product
  · obtain ⟨places, divided⟩ := exists_div_eq (Nat.pos_of_ne_zero some) (-exponent).toNat
    have quotient := pack_roundWithAccuracy (by positivity : 0 < 10 ^ (-exponent).toNat) .positive
      mantissa places
    dsimp only at quotient
    rw [← divided] at quotient
    rw [overflows_of_neg (by omega), not_le]
    exact quotient

/-! ### Short numbers -/

lemma log2_le {n k : Nat} (short : n < 2 ^ (k + 1)) : n.log2 ≤ k := by
  obtain rfl | some := Nat.eq_zero_or_pos n
  · rw [Nat.log2_zero]
    omega
  · exact Nat.le_of_lt_succ ((Nat.log2_lt some.ne').mpr short)

lemma isBelow_roundWithAccuracy_exact (sign : Sign) (mantissa : Nat) (exponent : Int) :
    IsBelow (lastPlace mantissa exponent + 1)
      (roundWithAccuracy .binary64 sign mantissa exponent .exact) := by
  have below : IsBelow (lastPlace (mantissa / 1) exponent + 1)
      (roundWithAccuracy .binary64 sign (mantissa / 1) exponent
        (accuracyOfFraction (mantissa % 1) 1)) :=
    isBelow_roundWithAccuracy Nat.one_pos sign exponent
  rwa [Nat.div_one, Nat.mod_one] at below

/-- A natural number of a word is moderate. -/
lemma isBelow_ofNat {n : Nat} (short : n < 2 ^ 64) : IsBelow 12 (.ofNat .binary64 n) := by
  rw [UnpackedFloat.ofNat, UnpackedFloat.ofInt, UnpackedFloat.normalize]
  obtain rfl | some := Nat.eq_zero_or_pos n
  · trivial
  · rw [Int.compare_eq_gt.mpr (by omega)]
    obtain ⟨places, rounded⟩ : ∃ places : Nat, UnpackedFloat.round .binary64 .positive n 0 =
        roundWithAccuracy .binary64 .positive (n <<< places) (0 - (places : Int)) .exact := ⟨_, rfl⟩
    have few : (n <<< places).log2 ≤ 63 + places := by
      refine log2_le ?_
      rw [Nat.shiftLeft_eq, show 63 + places + 1 = 64 + places by omega, pow_add]
      exact Nat.mul_lt_mul_of_pos_right short (by positivity)
    change IsBelow 12 (.round .binary64 .positive n 0)
    rw [rounded]
    refine (isBelow_roundWithAccuracy_exact _ _ _).mono ?_
    rw [lastPlace]
    omega

/-- A number is finite and neither very large nor very small. -/
def IsModerate : UnpackedFloat → Bool
  | .finite _ mantissa exponent _ => mantissa < 2 ^ 53 && -52 ≤ exponent && exponent ≤ 21
  | _ => false

/-- The powers of ten in the table are moderate. -/
lemma isModerate_power :
    ∀ x ∈ Float.exactlyRepresentablePowersOfTen, IsModerate x.toModel.unpack = true := by
  decide +kernel

variable {x y : UnpackedFloat}

lemma exists_of_isModerate (h : IsModerate y = true) :
    ∃ sign mantissa exponent some, y = .finite sign mantissa exponent some ∧
      mantissa < 2 ^ 53 ∧ -52 ≤ exponent ∧ exponent ≤ 21 := by
  cases y with
  | finite sign mantissa exponent some =>
      simp only [IsModerate, Bool.and_eq_true, decide_eq_true_eq, and_assoc] at h
      exact ⟨_, _, _, some, rfl, h⟩
  | _ => cases h

/-- The product of a word and a moderate number is finite. -/
lemma isBelow_mul (below : IsBelow 12 x) (moderate : IsModerate y = true) :
    IsBelow 971 (.mul .binary64 x y) := by
  obtain ⟨sign₂, mantissa₂, exponent₂, some₂, rfl, short₂, -, low₂⟩ :=
    exists_of_isModerate moderate
  obtain ⟨sign, rfl⟩ | ⟨sign₁, mantissa₁, exponent₁, some₁, rfl, short₁, low₁⟩ :=
    below.zero_or_finite
  · trivial
  · have few : (mantissa₁ * mantissa₂).log2 ≤ 105 := by
      have product := Nat.mul_lt_mul_of_lt_of_lt short₁ short₂
      rw [← pow_add] at product
      exact log2_le product
    refine (isBelow_roundWithAccuracy_exact _ _ _).mono ?_
    rw [lastPlace]
    omega

/-- The quotient of a word and a moderate number is finite. -/
lemma isBelow_div (below : IsBelow 12 x) (moderate : IsModerate y = true) :
    IsBelow 971 (.div .binary64 x y) := by
  obtain ⟨sign₂, mantissa₂, exponent₂, some₂, rfl, -, high₂, -⟩ := exists_of_isModerate moderate
  obtain ⟨sign, rfl⟩ | ⟨sign₁, mantissa₁, exponent₁, some₁, rfl, short₁, low₁⟩ :=
    below.zero_or_finite
  · trivial
  · obtain ⟨target, least, divided⟩ : ∃ target ≤ exponent₁ - exponent₂,
        divCore .binary64 mantissa₁ exponent₁ mantissa₂ exponent₂ =
          (mantissa₁ <<< (exponent₁ - exponent₂ - target).toNat / mantissa₂, target,
            accuracyOfFraction (mantissa₁ <<< (exponent₁ - exponent₂ - target).toNat % mantissa₂)
              mantissa₂) := ⟨_, min_le_left _ _, rfl⟩
    have few : (mantissa₁ <<< (exponent₁ - exponent₂ - target).toNat / mantissa₂).log2 ≤
        52 + (exponent₁ - exponent₂ - target).toNat := by
      refine log2_le ((Nat.div_le_self _ _).trans_lt ?_)
      rw [Nat.shiftLeft_eq, Nat.add_right_comm, pow_add]
      exact Nat.mul_lt_mul_of_pos_right short₁ (by positivity)
    rw [UnpackedFloat.div, divided]
    refine (isBelow_roundWithAccuracy some₂ _ _).mono ?_
    rw [lastPlace]
    omega

/-- A short number is small. -/
lemma not_overflows_of_short (short : mantissa < 2 ^ 53) (near : exponent.natAbs ≤ 22) :
    ¬ Overflows mantissa exponent := by
  have power : 10 ^ exponent.toNat ≤ 10 ^ 22 := Nat.pow_le_pow_right (by decide) (by omega)
  rw [Overflows, not_le]
  calc mantissa * 10 ^ exponent.toNat
      < 2 ^ 53 * 10 ^ 22 := Nat.mul_lt_mul_of_lt_of_le short power (by positivity)
    _ ≤ 2 ^ 1023 := by
        rw [show 1023 = 53 + 970 from rfl, pow_add _ 53]
        refine Nat.mul_le_mul_left _ ((by norm_num : 10 ^ 22 ≤ 2 ^ 100).trans ?_)
        gcongr <;> decide
    _ ≤ leastInfinite := le_leastInfinite
    _ ≤ leastInfinite * 10 ^ (-exponent).toNat := Nat.le_mul_of_pos_right _ (by positivity)

lemma inf_eq : Float.inf = .ofModel (.pack (.infinity .positive)) := by decide +kernel

lemma isBelow_toFloat_toUInt64 (n : Nat) : IsBelow 12 n.toUInt64.toFloat.toModel.unpack :=
  (isBelow_ofNat n.toUInt64.toNat_lt).unpack_pack (by decide) (by decide)

/-- **The decimal numbers that become infinite** are those of `leastInfinite` at least, whether they
are computed with the table of powers or without it. -/
theorem ofScientific_cases (some : mantissa ≠ 0) :
    let x := Float.ofScientific mantissa (exponent < 0) exponent.natAbs
    (Overflows mantissa exponent → x = Float.inf) ∧
      (¬ Overflows mantissa exponent → IsBelow 971 x.toModel.unpack) := by
  intro x
  by_cases short : mantissa < 2 ^ 53 ∧ exponent.natAbs ≤ 22
  · refine ⟨fun large => absurd large (not_overflows_of_short short.1 short.2), fun _ => ?_⟩
    have word := isBelow_toFloat_toUInt64 mantissa
    have listed : exponent.natAbs < Float.exactlyRepresentablePowersOfTen.size :=
      Nat.lt_succ_of_le short.2
    have power := isModerate_power _ (Array.getElem_mem listed)
    simp only [x, Float.ofScientific, dif_pos short]
    split_ifs
    · exact (isBelow_div word power).unpack_pack (by decide) le_rfl
    · exact (isBelow_mul word power).unpack_pack (by decide) le_rfl
  · obtain ⟨large, small⟩ := ofScientific_spec some exponent
    have signed : (if decide (exponent < 0) = true then Int.negOfNat exponent.natAbs
        else Int.ofNat exponent.natAbs) = exponent := by
      rw [Int.negOfNat_eq, Int.ofNat_eq_natCast]
      split_ifs with negative
      · rw [decide_eq_true_eq] at negative
        omega
      · rw [decide_eq_true_eq] at negative
        omega
    simp only [x, Float.ofScientific, dif_neg short, signed]
    exact ⟨fun overflows => (congrArg Float.ofModel (large overflows)).trans inf_eq.symm,
      fun within => (small within).unpack_pack (by decide) le_rfl⟩

/-! ### Numerals -/

lemma lt_pow_length (m : Nat) : m < 10 ^ (Nat.toDigits 10 m).length :=
  (Nat.length_toDigits_le_iff (by decide) Nat.length_toDigits_pos).mp le_rfl

lemma pow_length_le (some : mantissa ≠ 0) :
    10 ^ ((Nat.toDigits 10 mantissa).length - 1) ≤ mantissa := by
  obtain single | more := Nat.eq_zero_or_pos ((Nat.toDigits 10 mantissa).length - 1)
  · rw [single]
    omega
  · refine not_lt.mp fun less => ?_
    have short := (Nat.length_toDigits_le_iff (by decide) more).mpr less
    omega

/-- What has its first digit far on the left is large. -/
lemma overflows_of_lead (some : mantissa ≠ 0)
    (far : 310 < exponent + (Nat.toDigits 10 mantissa).length) : Overflows mantissa exponent := by
  have large := pow_length_le some
  have power : leastInfinite ≤ 10 ^ 310 := by decide +kernel
  rw [Overflows]
  calc leastInfinite * 10 ^ (-exponent).toNat
      ≤ 10 ^ 310 * 10 ^ (-exponent).toNat := Nat.mul_le_mul_right _ power
    _ = 10 ^ (310 + (-exponent).toNat) := (pow_add _ _ _).symm
    _ ≤ 10 ^ ((Nat.toDigits 10 mantissa).length - 1 + exponent.toNat) :=
        Nat.pow_le_pow_right (by decide) (by omega)
    _ = 10 ^ ((Nat.toDigits 10 mantissa).length - 1) * 10 ^ exponent.toNat := pow_add _ _ _
    _ ≤ mantissa * 10 ^ exponent.toNat := Nat.mul_le_mul_right _ large

/-- What has its first digit far on the right is small. -/
lemma not_overflows_of_lead (far : exponent + (Nat.toDigits 10 mantissa).length < -330) :
    ¬ Overflows mantissa exponent := by
  rw [overflows_of_neg (by omega), not_le]
  calc mantissa < 10 ^ (Nat.toDigits 10 mantissa).length := lt_pow_length mantissa
    _ ≤ 10 ^ (-exponent).toNat := Nat.pow_le_pow_right (by decide) (by omega)
    _ ≤ leastInfinite * 10 ^ (-exponent).toNat := Nat.le_mul_of_pos_left _ leastInfinite_pos

lemma not_overflows_zero : ¬ Overflows 0 exponent := by
  rw [Overflows, zero_mul, not_le]
  exact Nat.mul_pos leastInfinite_pos (by positivity)

/-- The number without its sign is infinite, or finite. -/
lemma magnitude_cases (mantissa : Nat) (exponent : Int) :
    (Overflows mantissa exponent → toFloat false mantissa exponent = Float.inf) ∧
      (¬ Overflows mantissa exponent →
        IsBelow 971 (toFloat false mantissa exponent).toModel.unpack) := by
  have zero : IsBelow 971 (0.0 : Float).toModel.unpack := by
    rw [show (0.0 : Float) = .ofModel (.pack (.zero .positive)) by decide +kernel]
    exact IsBelow.unpack_pack (f := .zero .positive) trivial (by decide) le_rfl
  simp only [toFloat, Bool.false_eq_true, if_false]
  split_ifs with none left right
  · rw [none]
    exact ⟨fun large => absurd large not_overflows_zero, fun _ => zero⟩
  · exact ⟨fun _ => by decide +kernel, fun small => absurd (overflows_of_lead none left) small⟩
  · exact ⟨fun large => absurd large (not_overflows_of_lead right), fun _ => zero⟩
  · exact ofScientific_cases none

/-- **The numerals that become infinite** are those of `leastInfinite` at least. -/
theorem toFloat_cases (negative : Bool) :
    (Overflows mantissa exponent →
      toFloat negative mantissa exponent = if negative then -Float.inf else Float.inf) ∧
    (¬ Overflows mantissa exponent →
      IsBelow 971 (toFloat negative mantissa exponent).toModel.unpack) := by
  obtain ⟨large, small⟩ := magnitude_cases mantissa exponent
  cases negative with
  | false => exact ⟨large, small⟩
  | true =>
      have opposite : toFloat true mantissa exponent = -toFloat false mantissa exponent := rfl
      rw [opposite]
      exact ⟨fun overflows => congrArg _ (large overflows),
        fun within => (small within).neg.unpack_pack (by decide) le_rfl⟩

end Driftwatch.Decimal
