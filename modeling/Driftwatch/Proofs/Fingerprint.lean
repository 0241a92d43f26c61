/-
Fingerprints and the numbers that they denote.

* `Fingerprint.leadingDigits`: the five leading digits of a number, zeros if it has not so many.
* `Fingerprint.ofNumber_eq_map`: they are what a fingerprint writes.
* `Fingerprint.leading`: the number that they denote: the quotient that is left when all digits but
  five are cut off.
* `Fingerprint.ofIdentity_denotes`: the fingerprint of an identity, by the first four bytes of its
  digest.
-/
import Driftwatch.Fingerprint.Basic
import Driftwatch.Proofs.Base36

namespace Driftwatch.Fingerprint

/-! ### Leading digits -/

/-- The leading digits of a number, as many as a fingerprint has characters; a number that has not
so many begins with zeros. -/
def leadingDigits (n : ℕ) : List ℕ :=
  (List.replicate (width - (Nat.digits 36 n).length) 0 ++ (Nat.digits 36 n).reverse).take width

lemma length_leadingDigits (n : ℕ) : (leadingDigits n).length = width := by
  simp only [leadingDigits, List.length_take, List.length_append, List.length_replicate,
    List.length_reverse]
  omega

/-- The leading digits are below the base. -/
lemma lt_of_mem_leadingDigits {n d : ℕ} (h : d ∈ leadingDigits n) : d < 36 := by
  rcases List.mem_append.mp (List.mem_of_mem_take h) with zero | digit
  · rw [List.eq_of_mem_replicate zero]
    decide
  · exact Nat.digits_lt_base (by decide) (List.mem_reverse.mp digit)

/-- A fingerprint writes the leading digits. -/
lemma ofNumber_eq_map (n : ℕ) : ofNumber n = (leadingDigits n).map Base36.digitChar := by
  rw [ofNumber, Base36.encodeChars, leadingDigits, List.map_take, List.map_append,
    List.map_replicate, Base36.digits_eq_reverse le_rfl]
  split
  · rename_i zero
    rw [zero, Nat.digits_zero]
    rfl
  · rw [List.length_map, List.length_reverse]
    rfl

/-- The number that is left of a number when all digits but the leading ones are cut off. -/
def leading (n : ℕ) : ℕ :=
  if width < (Nat.digits 36 n).length then n / 36 ^ ((Nat.digits 36 n).length - width) else n

/-- The leading digits denote it. -/
lemma ofDigits_leadingDigits (n : ℕ) : Nat.ofDigits 36 (leadingDigits n).reverse = leading n := by
  rw [leading, leadingDigits]
  split
  · rename_i long
    rw [Nat.sub_eq_zero_of_le long.le, List.replicate_zero, List.nil_append, List.take_reverse,
      List.reverse_reverse, Nat.self_div_pow_eq_ofDigits_drop _ _ (by decide)]
  · rename_i short
    rw [List.take_of_length_le, List.reverse_append, List.reverse_reverse, List.reverse_replicate,
      Nat.ofDigits_append_replicate_zero, Nat.ofDigits_digits]
    rw [List.length_append, List.length_replicate, List.length_reverse]
    omega

/-- A fingerprint denotes what is left of its number. -/
lemma value?_ofNumber (n : ℕ) : Base36.value? (ofNumber n) = some (leading n) := by
  rw [ofNumber_eq_map, Base36.value?_map_digitChar fun d => lt_of_mem_leadingDigits,
    ofDigits_leadingDigits]

/-- Two numbers have one fingerprint if the same is left of them. -/
lemma ofNumber_eq_iff {n m : ℕ} : ofNumber n = ofNumber m ↔ leading n = leading m := by
  constructor
  · intro same
    have denoted := value?_ofNumber n
    rw [same, value?_ofNumber m] at denoted
    exact (Option.some.inj denoted).symm
  · intro same
    have digits : (leadingDigits n).reverse = (leadingDigits m).reverse := by
      refine Nat.ofDigits_inj_of_len_eq (by decide) ?_
        (fun d hd => lt_of_mem_leadingDigits (List.mem_reverse.mp hd))
        (fun d hd => lt_of_mem_leadingDigits (List.mem_reverse.mp hd)) ?_
      · simp [length_leadingDigits]
      · rw [ofDigits_leadingDigits, ofDigits_leadingDigits, same]
    rw [ofNumber_eq_map, ofNumber_eq_map, List.reverse_injective digits]

/-! ### Identities -/

/-- The number that a fingerprint is taken from: the first four bytes of the digest of the
identity. -/
def seed (identity : String) : ℕ :=
  ofBytes ((Sha256.digest (encodeText identity)).take 4)

/-- The fingerprint of an identity is that of its number. -/
lemma toList_ofIdentity (identity : String) :
    (ofIdentity identity).toList = ofNumber (seed identity) := by
  rw [ofIdentity, String.toList_ofList, seed]

/-- A digest is long enough, and the first of its bytes is the leading one. -/
lemma exists_seed_eq (identity : String) : ∃ a b c d rest,
    Sha256.digest (encodeText identity) = a :: b :: c :: d :: rest ∧
      seed identity = 256 * (256 * (256 * a.toNat + b.toNat) + c.toNat) + d.toNat := by
  have length := Sha256.length_digest (encodeText identity)
  rw [seed]
  match Sha256.digest (encodeText identity), length with
  | a :: b :: c :: d :: rest, _ => exact ⟨a, b, c, d, rest, rfl, by simp [ofBytes]⟩
  | [], length | [_], length | [_, _], length | [_, _, _], length => simp at length

/-- **Fingerprints by value.**  The fingerprint of an identity has five characters, all of them
decimal digits or small letters.  With `n` the number that the first four bytes of the digest stand
for, the leading one first, it denotes `n` without all its digits in base thirty-six but the first
five, and `n` itself if there are no more than five.  So two identities share a fingerprint exactly
if these numbers are equal. -/
theorem ofIdentity_denotes (identity : String) :
    (∃ a b c d rest, Sha256.digest (encodeText identity) = a :: b :: c :: d :: rest ∧
      seed identity = 256 * (256 * (256 * a.toNat + b.toNat) + c.toNat) + d.toNat) ∧
    (ofIdentity identity).toList.length = 5 ∧
    (∀ c ∈ (ofIdentity identity).toList, '0' ≤ c ∧ c ≤ '9' ∨ 'a' ≤ c ∧ c ≤ 'z') ∧
    Base36.value? (ofIdentity identity).toList = some (leading (seed identity)) ∧
    ∀ other, ofIdentity identity = ofIdentity other ↔
      leading (seed identity) = leading (seed other) := by
  refine ⟨exists_seed_eq identity, ?_, fun c hc => ?_, ?_, fun other => ?_⟩
  · rw [toList_ofIdentity, length_ofNumber, width]
  · rw [toList_ofIdentity, ofNumber_eq_map] at hc
    obtain ⟨d, hd, rfl⟩ := List.mem_map.mp hc
    exact Base36.digitChar_mem d (lt_of_mem_leadingDigits hd)
  · rw [toList_ofIdentity, value?_ofNumber]
  · rw [← String.toList_inj, toList_ofIdentity, toList_ofIdentity, ofNumber_eq_iff]

/-- Two numbers of seven digits that differ in the last two only, and one of four digits. -/
theorem ofIdentity_denotes_shared :
    seed "u0" = 2646614563 ∧ seed "u269" = 2646614685 ∧ ofIdentity "u0" = ofIdentity "u269" ∧
      Base36.value? (ofIdentity "u0").toList = some 2042140 ∧
      ('0' ∈ (ofIdentity "u674").toList ∧ '0' ≤ '0' ∧ '0' ≤ '9') ∧
      (ofIdentity "u674").toList.length = 5 ∧
      Base36.value? (ofIdentity "u674").toList = some 189255 := by
  have first : seed "u0" = 2646614563 := by decide +kernel
  have second : seed "u269" = 2646614685 := by decide +kernel
  have third : seed "u674" = 189255 := by decide +kernel
  have zero : '0' ∈ (ofIdentity "u674").toList := by decide +kernel
  have cut : leading 2646614563 = 2042140 := by decide +kernel
  have cut' : leading 2646614685 = 2042140 := by decide +kernel
  have whole : leading 189255 = 189255 := by decide +kernel
  obtain ⟨-, -, -, value, shared⟩ := ofIdentity_denotes "u0"
  obtain ⟨-, length, small, padded, -⟩ := ofIdentity_denotes "u674"
  rw [first, cut] at value
  rw [third, whole] at padded
  refine ⟨first, second, (shared "u269").mpr ?_, value, ⟨zero, ?_⟩, length, padded⟩
  · rw [first, second, cut, cut']
  · exact (small '0' zero).resolve_right (by decide)

end Driftwatch.Fingerprint
