/-
Which delays get through.

* `IsUsable`: a number of seconds that is finite and not negative.
* `Numeral.Escapes`: a numeral is accepted although its number is not usable: it is not a number,
  or an infinity, or so large that it is read as one.
* `Sound`: the settings are refused on account of the delay, or the delay is usable.
* `sound_iff_not_escapes`: exactly the texts of such numerals get through.
-/
import Driftwatch.Proofs.Decimal.Magnitude
import Driftwatch.Settings

namespace Driftwatch

/-- The number of seconds is finite and not negative.  It may still be more than can be waited. -/
def IsUsable (x : Float) : Prop :=
  x.isFinite = true ∧ 0.0 ≤ x

instance (x : Float) : Decidable (IsUsable x) :=
  inferInstanceAs (Decidable (x.isFinite = true ∧ 0.0 ≤ x))

namespace Decimal

/-! ### Signs -/

lemma zero_eq : (0.0 : Float) = .ofModel (.pack (.zero .positive)) := by decide +kernel

lemma lt_zero_iff (x : Float) :
    x < 0.0 ↔ x.toModel.unpack.compare (.zero .positive) = some .lt := by
  rw [zero_eq]
  change decide (x.toModel.unpack.lt (.zero .positive) = true) = true ↔ _
  simp [Float.Model.UnpackedFloat.lt]

lemma zero_le_iff (x : Float) :
    0.0 ≤ x ↔ ((Float.Model.UnpackedFloat.zero .positive).compare x.toModel.unpack).any
      (·.isLE) = true := by
  rw [zero_eq]
  change decide ((Float.Model.UnpackedFloat.zero .positive).le x.toModel.unpack = true) = true ↔ _
  rw [decide_eq_true_iff, Float.Model.UnpackedFloat.le]

/-- A finite number is negative or usable. -/
lemma isUsable_of_isBelow {x : Float} {bound : Int} (h : IsBelow bound x.toModel.unpack)
    (positive : ¬ x < 0.0) : IsUsable x := by
  refine ⟨h.isFinite, (zero_le_iff x).mpr ?_⟩
  rw [lt_zero_iff] at positive
  obtain ⟨sign, unpacked⟩ | ⟨sign, mantissa, exponent, some, unpacked, -⟩ := h.zero_or_finite
  · rw [unpacked]
    rfl
  · rw [unpacked] at positive ⊢
    cases sign with
    | positive => rfl
    | negative => exact absurd rfl positive

/-! ### Numerals that get through -/

/-- The numeral is accepted although its number is not usable. -/
def Numeral.Escapes : Numeral → Prop
  | .notANumber => True
  | .infinite negative => negative = false
  | .finite negative mantissa exponent => negative = false ∧ Overflows mantissa exponent

/-- Such a numeral is read as a number that is not less than zero and not finite. -/
lemma Numeral.Escapes.toFloat {n : Numeral} (h : n.Escapes) :
    ¬ n.toFloat < 0.0 ∧ n.toFloat.isFinite = false := by
  cases n with
  | notANumber => decide +kernel
  | infinite negative =>
      obtain rfl := h
      decide +kernel
  | finite negative mantissa exponent =>
      obtain ⟨rfl, overflows⟩ := h
      rw [Numeral.toFloat, (toFloat_cases false).1 overflows]
      decide +kernel

/-- Any other numeral is read as a number that is less than zero or usable. -/
lemma Numeral.isUsable_of_not_escapes {n : Numeral} (h : ¬ n.Escapes)
    (positive : ¬ n.toFloat < 0.0) : IsUsable n.toFloat := by
  cases n with
  | notANumber => exact absurd trivial h
  | infinite negative =>
      cases negative with
      | false => exact absurd rfl h
      | true => exact absurd (by decide +kernel) positive
  | finite negative mantissa exponent =>
      by_cases overflows : Overflows mantissa exponent
      · cases negative with
        | false => exact absurd ⟨rfl, overflows⟩ h
        | true =>
            rw [Numeral.toFloat, (toFloat_cases true).1 overflows] at positive
            exact absurd (by decide +kernel) positive
      · exact isUsable_of_isBelow ((toFloat_cases negative).2 overflows) positive

end Decimal

/-! ### Settings -/

namespace Settings

open Decimal

/-- The text for the delay. -/
def delayText (env : Environment) : String :=
  env.value "KAUSALITY_ASYNC_UPDATE_DELAY"

/-- The other variables have values that are right. -/
structure OthersValid (env : Environment) : Prop where
  strategies : ∃ strategies, strategiesOf (env.value "KAUSALITY_DETECTION_ORDER") = .ok strategies
  timeout : ∃ timeout, numberOf 10.0 (env.value "KAUSALITY_REQUEST_TIMEOUT") = .ok timeout

/-- The settings are refused on account of the delay, or the delay is usable. -/
def Sound (env : Environment) : Prop :=
  (∃ settings, ofEnvironment env = .ok settings ∧ IsUsable settings.delay) ∨
    ofEnvironment env = .error (.notANumber (delayText env)) ∨
    ofEnvironment env = .error (.negativeDelay (delayText env))

/-- If all else is right, the settings are those of the delay. -/
lemma ofEnvironment_of_othersValid {env : Environment} (h : OthersValid env) :
    ∃ settings : Settings,
      ofEnvironment env = (delayOf (delayText env)).map fun delay => { settings with delay } := by
  obtain ⟨strategies, parsed⟩ := h.strategies
  obtain ⟨requestTimeout, read⟩ := h.timeout
  let context := env.value "KAUSALITY_KUBE_CONTEXT"
  refine ⟨{ strategies, requestTimeout,
            context := if context = "" then none else some context }, ?_⟩
  rw [ofEnvironment, parsed, read, delayText]
  cases delayOf (env.value "KAUSALITY_ASYNC_UPDATE_DELAY") <;> rfl

/-- The delay is the number of a numeral that is not negative. -/
lemma delayOf_of_ne {text : String} (nonempty : text ≠ "") :
    delayOf text =
      match Numeral.read? text with
      | none => .error (.notANumber text)
      | some n => if n.toFloat < 0.0 then .error (.negativeDelay text) else .ok n.toFloat := by
  rw [delayOf, numberOf, if_neg nonempty, read?]
  cases Numeral.read? text <;> rfl

/-- If all else is right, the settings are sound unless the text for the delay is a numeral that
gets through. -/
lemma sound_iff {env : Environment} (h : OthersValid env) :
    Sound env ↔ ∀ n, Numeral.read? (delayText env) = some n → ¬ n.Escapes := by
  obtain ⟨settings, built⟩ := ofEnvironment_of_othersValid h
  rw [Sound, built]
  by_cases empty : delayText env = ""
  · have zero : delayOf "" = .ok 0.0 := by decide +kernel
    have unread : Numeral.read? "" = none := by decide +kernel
    rw [empty, zero, unread]
    have usable : IsUsable 0.0 := by decide +kernel
    exact iff_of_true (.inl ⟨_, rfl, usable⟩) nofun
  · rw [delayOf_of_ne empty]
    cases read : Numeral.read? (delayText env) with
    | none => exact iff_of_true (.inr (.inl rfl)) nofun
    | some n =>
        dsimp only
        split_ifs with negative
        · refine iff_of_true (.inr (.inr rfl)) ?_
          rintro _ ⟨⟩ escapes
          exact escapes.toFloat.1 negative
        · constructor
          · rintro (⟨settings, built, usable⟩ | refused | refused)
            · obtain rfl := Except.ok.inj built
              rintro _ ⟨⟩ escapes
              exact absurd (usable.1.symm.trans escapes.toFloat.2) nofun
            · cases refused
            · cases refused
          · intro held
            exact .inl ⟨_, rfl, Numeral.isUsable_of_not_escapes (held n rfl) negative⟩

/-- **The delays that get through**: with all else right, a text for the delay is refused or gives a
usable one, unless it is a numeral that is not a number, an infinity, or read as one. -/
theorem sound_iff_not_escapes (text : String) :
    (∀ env, OthersValid env → delayText env = text → Sound env) ↔
      ∀ n, Numeral.read? text = some n → ¬ n.Escapes := by
  constructor
  · intro sound
    have alone : delayText [("KAUSALITY_ASYNC_UPDATE_DELAY", text)] = text := rfl
    have valid : OthersValid [("KAUSALITY_ASYNC_UPDATE_DELAY", text)] :=
      ⟨⟨_, rfl⟩, ⟨_, rfl⟩⟩
    have held := (sound_iff valid).mp (sound _ valid alone)
    rwa [alone] at held
  · rintro held env valid rfl
    exact (sound_iff valid).mpr held

/-- What is not a number is accepted as a delay. -/
theorem not_sound_of_nan : ¬ Sound [("KAUSALITY_ASYNC_UPDATE_DELAY", "nan")] := by
  have built : ∃ settings, ofEnvironment [("KAUSALITY_ASYNC_UPDATE_DELAY", "nan")] = .ok settings ∧
      settings.delay = Numeral.toFloat .notANumber := ⟨_, rfl, rfl⟩
  obtain ⟨settings, built, delay⟩ := built
  have unusable : ¬ IsUsable (Numeral.toFloat .notANumber) := by decide +kernel
  rintro (⟨settings', built', usable⟩ | refused | refused)
  · obtain rfl := Except.ok.inj (built.symm.trans built')
    exact unusable (delay ▸ usable)
  · cases built.symm.trans refused
  · cases built.symm.trans refused

end Settings

end Driftwatch
