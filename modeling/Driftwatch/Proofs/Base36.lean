/-
Numerals in base thirty-six and the numbers that they denote.

* `Base36.digits_eq_reverse`: the digits of a number are those of its positional notation.
* `Base36.Division`: the loop that finds them by dividing; `Base36.division_iff`: it ends, and with
  these digits.
* `Base36.numeral`: the digits that a numeral writes.
* `Base36.digitValue?`, `Base36.value?`: the number that a numeral denotes.
* `Base36.value?_eq_some_iff`: a text denotes a number if it is written with digits that denote it.
* `Base36.map_digitChar_lt_iff`: numerals of one length are in the order of their numbers.
* `Base36.encode_denotes`: the numeral of a number is the one text without a leading zero that
  denotes it.
-/
import Driftwatch.Fingerprint.Base36
import Mathlib.Data.Nat.Digits.Lemmas
import Mathlib.Data.String.Basic
import Mathlib.Tactic.Lemma

namespace Driftwatch.Base36

/-! ### Digits -/

/-- The digits of a number are those of its positional notation, the leading one first. -/
lemma digits_eq_reverse {bound n : ℕ} (h : n ≤ bound) :
    digits bound n = (Nat.digits 36 n).reverse := by
  induction bound generalizing n with
  | zero => rw [Nat.le_zero.mp h, digits, Nat.digits_zero, List.reverse_nil]
  | succ bound ih =>
      by_cases zero : n = 0
      · rw [zero, digits, if_pos rfl, Nat.digits_zero, List.reverse_nil]
      · have less : n / 36 ≤ bound := by omega
        rw [digits, if_neg zero, ih less, Nat.digits_eq_cons_digits_div (by decide) zero,
          List.reverse_cons]

/-- The loop that finds the digits of a number: while something is left to divide, the remainder is
put behind the digits found before, and the quotient is left. -/
inductive Division : (rest : ℕ) → (found digits : List ℕ) → Prop
  | done (found : List ℕ) : Division 0 found found
  | round {rest : ℕ} {found digits : List ℕ} (more : rest ≠ 0)
      (h : Division (rest / 36) (found ++ [rest % 36]) digits) : Division rest found digits

/-- The loop ends wherever it starts, since the quotient is smaller than what was divided, and it
ends with the digits of what was left, the last of them first. -/
lemma division_iff {rest : ℕ} {found digits : List ℕ} :
    Division rest found digits ↔ digits = found ++ Nat.digits 36 rest := by
  constructor
  · intro h
    induction h with
    | done found => rw [Nat.digits_zero, List.append_nil]
    | round more _ ih =>
        rw [ih, Nat.digits_eq_cons_digits_div (by decide) more, List.append_assoc,
          List.singleton_append]
  · rintro rfl
    induction rest using Nat.strong_induction_on generalizing found with
    | _ rest ih =>
        by_cases zero : rest = 0
        · rw [zero, Nat.digits_zero, List.append_nil]
          exact .done found
        · rw [Nat.digits_eq_cons_digits_div (by decide) zero, ← List.singleton_append,
            ← List.append_assoc]
          exact .round zero (ih (rest / 36) (by omega))

/-- The character of a digit is a decimal digit or a small letter. -/
lemma digitChar_mem : ∀ d < 36,
    '0' ≤ digitChar d ∧ digitChar d ≤ '9' ∨ 'a' ≤ digitChar d ∧ digitChar d ≤ 'z' := by
  decide

/-! ### Numerals -/

/-- The digits that the numeral of a number writes: its own, and one zero for zero. -/
def numeral (n : ℕ) : List ℕ :=
  if n = 0 then [0] else (Nat.digits 36 n).reverse

lemma encodeChars_eq_map (n : ℕ) : encodeChars n = (numeral n).map digitChar := by
  rw [encodeChars, numeral, digits_eq_reverse le_rfl]
  split <;> rfl

lemma numeral_ne_nil (n : ℕ) : numeral n ≠ [] := by
  rw [numeral]
  split <;> simp [Nat.digits_ne_nil_iff_ne_zero, *]

lemma lt_of_mem_numeral {n d : ℕ} (h : d ∈ numeral n) : d < 36 := by
  rw [numeral] at h
  split at h
  · rw [List.mem_singleton.mp h]
    decide
  · exact Nat.digits_lt_base (by decide) (List.mem_reverse.mp h)

lemma ofDigits_numeral (n : ℕ) : Nat.ofDigits 36 (numeral n).reverse = n := by
  rw [numeral]
  split
  · rename_i zero
    rw [zero]
    rfl
  · rw [List.reverse_reverse, Nat.ofDigits_digits]

/-- Only the numeral of zero begins with a zero. -/
lemma head?_numeral_iff {n : ℕ} : (numeral n).head? = some 0 ↔ n = 0 := by
  constructor
  · intro leading
    by_contra positive
    rw [numeral, if_neg positive, List.head?_reverse] at leading
    exact Nat.getLast_digit_ne_zero 36 positive (List.getLast_of_mem_getLast? leading)
  · rintro rfl
    rfl

/-- Digits without a leading zero are those that are written for the number that they denote. -/
lemma numeral_ofDigits {ds : List ℕ} (nonempty : ds ≠ []) (small : ∀ d ∈ ds, d < 36)
    (leading : ds.head? = some 0 → ds = [0]) : numeral (Nat.ofDigits 36 ds.reverse) = ds := by
  by_cases zero : ds = [0]
  · rw [zero]
    rfl
  · have last : ∀ h : ds.reverse ≠ [], ds.reverse.getLast h ≠ 0 := by
      intro h same
      rw [List.getLast_reverse] at same
      exact zero (leading (same ▸ List.head?_eq_some_head nonempty))
    have found : Nat.digits 36 (Nat.ofDigits 36 ds.reverse) = ds.reverse :=
      Nat.digits_ofDigits 36 (by decide) _ (fun d hd => small d (List.mem_reverse.mp hd)) last
    rw [numeral, if_neg, found, List.reverse_reverse]
    intro none
    rw [none, Nat.digits_zero] at found
    exact nonempty (List.reverse_eq_nil_iff.mp found.symm)

/-- A positive number has as many digits as it takes for a power of the base to exceed it. -/
lemma length_numeral_iff {n d : ℕ} (positive : 0 < n) (nonempty : 1 ≤ d) :
    (numeral n).length = d ↔ 36 ^ (d - 1) ≤ n ∧ n < 36 ^ d := by
  have least : d - 1 < (Nat.digits 36 n).length ↔ 36 ^ (d - 1) ≤ n :=
    Nat.lt_digits_length_iff (by decide) n
  have most : (Nat.digits 36 n).length ≤ d ↔ n < 36 ^ d :=
    Nat.digits_length_le_iff (by decide) n
  rw [numeral, if_neg positive.ne', List.length_reverse, ← least, ← most]
  omega

/-- Larger numbers do not have fewer digits. -/
lemma length_numeral_le {n m : ℕ} (h : n ≤ m) : (numeral n).length ≤ (numeral m).length := by
  by_cases zero : n = 0
  · rw [zero]
    exact List.length_pos_iff.mpr (numeral_ne_nil m)
  · rw [numeral, numeral, if_neg zero, if_neg (by omega), List.length_reverse, List.length_reverse]
    exact Nat.le_length_digits_le 36 n m h

/-! ### Values -/

/-- The value of a digit: a decimal digit stands for itself, and the small letters go on from
ten. -/
def digitValue? (c : Char) : Option ℕ :=
  if '0' ≤ c ∧ c ≤ '9' then some (c.toNat - '0'.toNat)
  else if 'a' ≤ c ∧ c ≤ 'z' then some (c.toNat - 'a'.toNat + 10)
  else none

/-- The number that a numeral denotes; its leading digit stands first. -/
def value? (cs : List Char) : Option ℕ :=
  (cs.mapM digitValue?).map fun ds => Nat.ofDigits 36 ds.reverse

lemma digitValue?_digitChar : ∀ d < 36, digitValue? (digitChar d) = some d := by
  decide

/-- A character stands for a digit if it is the one that is written for it. -/
lemma digitValue?_eq_some_iff {c : Char} {d : ℕ} :
    digitValue? c = some d ↔ d < 36 ∧ digitChar d = c := by
  constructor
  · intro h
    rw [digitValue?] at h
    split_ifs at h with decimal letter
    · obtain ⟨low, high⟩ : 48 ≤ c.toNat ∧ c.toNat ≤ 57 := decimal
      obtain rfl : c.toNat - 48 = d := Option.some.inj h
      refine ⟨by omega, ?_⟩
      rw [digitChar, if_pos (by omega), Nat.add_sub_cancel' low, Char.ofNat_toNat]
    · obtain ⟨low, high⟩ : 97 ≤ c.toNat ∧ c.toNat ≤ 122 := letter
      obtain rfl : c.toNat - 97 + 10 = d := Option.some.inj h
      refine ⟨by omega, ?_⟩
      rw [digitChar, if_neg (by omega), show 87 + (c.toNat - 97 + 10) = c.toNat by omega,
        Char.ofNat_toNat]
  · rintro ⟨small, rfl⟩
    exact digitValue?_digitChar d small

/-- The digits that are read from a text are those that it is written with. -/
lemma mapM_digitValue?_eq_some_iff {cs : List Char} {ds : List ℕ} :
    cs.mapM digitValue? = some ds ↔ (∀ d ∈ ds, d < 36) ∧ ds.map digitChar = cs := by
  induction cs generalizing ds with
  | nil => cases ds <;> simp
  | cons c cs ih =>
      rw [List.mapM_cons]
      cases ds with
      | nil => simp [Option.bind_eq_some_iff]
      | cons d ds =>
          simp only [Option.pure_def, Option.bind_eq_bind, Option.bind_eq_some_iff,
            digitValue?_eq_some_iff, ih, Option.some.injEq, List.cons.injEq, exists_eq_right_right,
            List.mem_cons, forall_eq_or_imp, List.map_cons]
          exact and_and_and_comm

/-- A text denotes a number if it is written with digits that denote it. -/
lemma value?_eq_some_iff {cs : List Char} {n : ℕ} : value? cs = some n ↔
    ∃ ds : List ℕ, (∀ d ∈ ds, d < 36) ∧ ds.map digitChar = cs ∧ Nat.ofDigits 36 ds.reverse = n := by
  simp only [value?, Option.map_eq_some_iff, mapM_digitValue?_eq_some_iff, and_assoc]

/-- Written digits denote the number that has them. -/
lemma value?_map_digitChar {ds : List ℕ} (h : ∀ d ∈ ds, d < 36) :
    value? (ds.map digitChar) = some (Nat.ofDigits 36 ds.reverse) :=
  value?_eq_some_iff.mpr ⟨ds, h, rfl, rfl⟩

/-- A number is denoted by its numeral. -/
lemma value?_encodeChars (n : ℕ) : value? (encodeChars n) = some n := by
  rw [encodeChars_eq_map, value?_map_digitChar fun d => lt_of_mem_numeral, ofDigits_numeral]

/-- Only the digit zero is written as a zero. -/
lemma digitChar_eq_zero_iff : ∀ d < 36, digitChar d = '0' ↔ d = 0 := by
  decide

lemma head?_map_digitChar_iff {ds : List ℕ} (small : ∀ d ∈ ds, d < 36) :
    (ds.map digitChar).head? = some '0' ↔ ds.head? = some 0 := by
  cases ds with
  | nil => simp
  | cons d ds => simpa using digitChar_eq_zero_iff d (small d (by simp))

/-- A text without a leading zero that denotes a number is its numeral. -/
lemma eq_encodeChars_of_value? {cs : List Char} {n : ℕ} (nonempty : cs ≠ [])
    (leading : cs.head? = some '0' → cs = ['0']) (denotes : value? cs = some n) :
    cs = encodeChars n := by
  obtain ⟨ds, small, rfl, rfl⟩ := value?_eq_some_iff.mp denotes
  rw [encodeChars_eq_map, numeral_ofDigits (by simpa using nonempty) small]
  intro zero
  have single := leading ((head?_map_digitChar_iff small).mpr zero)
  obtain ⟨d, rfl, written⟩ := List.map_eq_singleton_iff.mp single
  rw [(digitChar_eq_zero_iff d (small d (by simp))).mp written]

/-! ### Order -/

lemma digitChar_lt_iff : ∀ d < 36, ∀ e < 36, digitChar d < digitChar e ↔ d < e := by
  decide +kernel

lemma digitChar_inj {d e : ℕ} (hd : d < 36) (he : e < 36) :
    digitChar d = digitChar e ↔ d = e := by
  refine ⟨fun same => ?_, congrArg digitChar⟩
  have read := digitValue?_digitChar d hd
  rw [same, digitValue?_digitChar e he] at read
  exact (Option.some.inj read).symm

/-- The leading digit decides, and the rest where the leading digits are the same. -/
lemma add_mul_lt_iff {unit d e low low' : ℕ} (below : low < unit) (below' : low' < unit) :
    low + unit * d < low' + unit * e ↔ d < e ∨ d = e ∧ low < low' := by
  rcases lt_trichotomy d e with less | rfl | more
  · have := Nat.mul_le_mul_left unit less
    rw [Nat.mul_succ] at this
    omega
  · omega
  · have := Nat.mul_le_mul_left unit more
    rw [Nat.mul_succ] at this
    omega

/-- Numerals of one length are in the order of the numbers that they denote. -/
lemma map_digitChar_lt_iff {ds es : List ℕ} (length : ds.length = es.length)
    (hd : ∀ d ∈ ds, d < 36) (he : ∀ e ∈ es, e < 36) :
    ds.map digitChar < es.map digitChar ↔
      Nat.ofDigits 36 ds.reverse < Nat.ofDigits 36 es.reverse := by
  induction ds generalizing es with
  | nil =>
      rw [List.length_nil, eq_comm, List.length_eq_zero_iff] at length
      subst length
      simp
  | cons d ds ih =>
      cases es with
      | nil => simp at length
      | cons e es =>
          obtain ⟨hd, hds⟩ := List.forall_mem_cons.mp hd
          obtain ⟨he, hes⟩ := List.forall_mem_cons.mp he
          have length : ds.length = es.length := Nat.succ.inj length
          have lower : Nat.ofDigits 36 ds.reverse < 36 ^ ds.length := by
            simpa using Nat.ofDigits_lt_base_pow_length (l := ds.reverse) (by decide)
              fun d hd => hds d (List.mem_reverse.mp hd)
          have upper : Nat.ofDigits 36 es.reverse < 36 ^ ds.length := by
            simpa [length] using Nat.ofDigits_lt_base_pow_length (l := es.reverse) (by decide)
              fun e he => hes e (List.mem_reverse.mp he)
          rw [List.map_cons, List.map_cons, List.cons_lt_cons_iff, ih length hds hes,
            Nat.ofDigits_reverse_cons, Nat.ofDigits_reverse_cons, ← length,
            add_mul_lt_iff lower upper, digitChar_lt_iff d hd e he, digitChar_inj hd he]

/-- Numbers are in the order of their numerals, the shorter ones first. -/
lemma lt_iff_encodeChars {n m : ℕ} : n < m ↔ (encodeChars n).length < (encodeChars m).length ∨
    (encodeChars n).length = (encodeChars m).length ∧ encodeChars n < encodeChars m := by
  have same : (numeral n).length = (numeral m).length →
      ((numeral n).map digitChar < (numeral m).map digitChar ↔ n < m) := by
    intro length
    rw [map_digitChar_lt_iff length (fun d => lt_of_mem_numeral) fun d => lt_of_mem_numeral,
      ofDigits_numeral, ofDigits_numeral]
  rw [encodeChars_eq_map, encodeChars_eq_map, List.length_map, List.length_map]
  constructor
  · intro less
    rcases (length_numeral_le less.le).lt_or_eq with shorter | length
    · exact .inl shorter
    · exact .inr ⟨length, (same length).mpr less⟩
  · rintro (shorter | ⟨length, less⟩)
    · by_contra more
      exact absurd (length_numeral_le (not_lt.mp more)) (by omega)
    · exact (same length).mp less

/-! ### The laws of numerals -/

/-- **Numerals denote their numbers.**  The loop that divides a number by the base ends, with one
result; its remainders, the last one first, are what the numeral writes, and it writes a zero for
zero.  The numeral is not empty, made of decimal digits and small letters, denotes the number, and
begins with a zero only if the number is zero; it is the only such text.  That of a positive number
has `d` characters exactly if the number lies between two powers of the base.  So different numbers
have different numerals, and numbers are in the order of their numerals, the shorter ones first. -/
theorem encode_denotes (n : ℕ) :
    (∃ found, (∀ ds, Division n [] ds ↔ ds = found) ∧
      encode n = if n = 0 then "0" else String.ofList (found.reverse.map digitChar)) ∧
    encode n ≠ "" ∧
    (∀ c ∈ (encode n).toList, '0' ≤ c ∧ c ≤ '9' ∨ 'a' ≤ c ∧ c ≤ 'z') ∧
    value? (encode n).toList = some n ∧
    ((encode n).toList.head? = some '0' ↔ n = 0) ∧
    (∀ s : String, s ≠ "" → (s.toList.head? = some '0' → s = "0") → value? s.toList = some n →
      s = encode n) ∧
    (0 < n → ∀ d, 1 ≤ d →
      ((encode n).toList.length = d ↔ 36 ^ (d - 1) ≤ n ∧ n < 36 ^ d)) ∧
    ∀ m, (encode n = encode m ↔ n = m) ∧
      (n < m ↔ (encode n).toList.length < (encode m).toList.length ∨
        (encode n).toList.length = (encode m).toList.length ∧ encode n < encode m) := by
  have written (k : ℕ) : (encode k).toList = encodeChars k := String.toList_ofList
  simp only [String.lt_iff_toList_lt, written]
  refine ⟨⟨Nat.digits 36 n, fun ds => division_iff, ?_⟩, ?_, ?_, value?_encodeChars n, ?_, ?_,
    ?_, fun m => ⟨⟨fun same => ?_, congrArg encode⟩, lt_iff_encodeChars⟩⟩
  · rw [encode, encodeChars, digits_eq_reverse le_rfl]
    split <;> rfl
  · rw [encode, encodeChars_eq_map, ← String.toList_inj.ne, String.toList_ofList]
    simpa using numeral_ne_nil n
  · intro c hc
    rw [encodeChars_eq_map] at hc
    obtain ⟨d, hd, rfl⟩ := List.mem_map.mp hc
    exact digitChar_mem d (lt_of_mem_numeral hd)
  · rw [encodeChars_eq_map, head?_map_digitChar_iff fun d => lt_of_mem_numeral, head?_numeral_iff]
  · intro s nonempty leading denotes
    rw [← String.toList_inj, written]
    refine eq_encodeChars_of_value? (fun none => nonempty ?_) (fun zero => ?_) denotes
    · rw [← String.toList_inj, none]
      rfl
    · rw [leading zero]
      rfl
  · intro positive d nonempty
    rw [encodeChars_eq_map, List.length_map, length_numeral_iff positive nonempty]
  · have denoted := value?_encodeChars n
    rw [← written, same, written, value?_encodeChars m] at denoted
    exact (Option.some.inj denoted).symm

/-- The last number with four digits and the one after it. -/
theorem encode_denotes_carry :
    encode 1679615 = "zzzz" ∧ encode 1679616 = "10000" ∧
      ('z' ∈ (encode 1679615).toList ∧ ¬ ('0' ≤ 'z' ∧ 'z' ≤ '9') ∧ 'a' ≤ 'z' ∧ 'z' ≤ 'z') ∧
      (36 ^ 4 ≤ 1679616 ∧ 1679616 < 36 ^ 5) ∧
      (encode 1679616).toList.length = 5 ∧
      ("10000" ≠ "" ∧ ("10000".toList.head? = some '0' → "10000" = "0") ∧
        value? "10000".toList = some 1679616 ∧ "10000" = encode 1679616) ∧
      (1679615 < 1679616 ↔ (encode 1679615).toList.length < (encode 1679616).toList.length ∨
        (encode 1679615).toList.length = (encode 1679616).toList.length ∧
          encode 1679615 < encode 1679616) := by
  obtain ⟨-, -, -, -, -, unique, length, -⟩ := encode_denotes 1679616
  obtain ⟨-, -, small, -, -, -, -, order⟩ := encode_denotes 1679615
  have last : 'z' ∈ (encode 1679615).toList := by decide +kernel
  have letter : ¬ ('0' ≤ 'z' ∧ 'z' ≤ '9') := by decide
  have denotes : value? "10000".toList = some 1679616 := by decide +kernel
  have leading : "10000".toList.head? = some '0' → "10000" = "0" := by decide
  have written := unique "10000" (by decide) leading denotes
  refine ⟨by decide +kernel, written.symm, ⟨last, letter, (small 'z' last).resolve_left letter⟩,
    by decide, ?_, ⟨by decide, leading, denotes, written⟩, (order 1679616).2⟩
  exact (length (by decide) 5 (by decide)).mpr (by decide)

end Driftwatch.Base36
