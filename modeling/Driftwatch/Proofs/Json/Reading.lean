/-
Reading whole JSON texts.

* `Spells.exists_cons`: how values begin.
* `Reader.isRead_of_spells`: a value that is spelled is read, up to where it ends.
* `Reader.sound`: what is read as a value is spelled.
* `Reader.wholeText_eq_ok_iff`: the value that a whole text is read as is the one that it is a
  text of.
-/
import Driftwatch.Proofs.Json.Numbers
import Driftwatch.Proofs.Json.Tokens
import Mathlib.Data.List.Basic

namespace Driftwatch.Json

/-! ### Beginnings and ends -/

lemma IsSpaces.append {gap gap' : List Char} (h : IsSpaces gap) (h' : IsSpaces gap') :
    IsSpaces (gap ++ gap') := by
  intro c mem
  exact (List.mem_append.mp mem).elim (h c) (h' c)

/-- A number does not go on with white space. -/
lemma IsSpaces.ends {gap rest : List Char} (h : IsSpaces gap) (ends : Ends rest) :
    Ends (gap ++ rest) := by
  cases gap with
  | nil => exact ends
  | cons c gap =>
      have space := h c (by simp)
      simp only [List.mem_cons, List.not_mem_nil, or_false] at space
      obtain rfl | rfl | rfl | rfl := space <;> simp [Ends]

/-- A value begins with a visible ASCII character other than a closing bracket. -/
def Opens (c : Char) : Prop :=
  0x20 < c.toNat ∧ c.toNat < 0x7f ∧ c ≠ ']'

instance (c : Char) : Decidable (Opens c) :=
  inferInstanceAs (Decidable (_ ∧ _ ∧ _))

lemma Opens.not_isSpace {c : Char} (h : Opens c) : Reader.isSpace c = false := by
  obtain ⟨visible, -⟩ := h
  rw [← Bool.not_eq_true, Reader.isSpace_iff]
  simp only [List.mem_cons, List.not_mem_nil, or_false]
  rintro (rfl | rfl | rfl | rfl) <;> simp at visible

/-- Digits begin with a digit. -/
lemma IsDigits.exists_cons {ds : List Char} (h : IsDigits ds) :
    ∃ c ds', ds = c :: ds' ∧ c.isDigit = true := by
  cases ds with
  | nil => exact absurd rfl h.1
  | cons c ds' => exact ⟨c, ds', rfl, h.2 c (by simp)⟩

/-- A number begins with a digit, or with a minus and a digit. -/
lemma Numeral.exists_digit {cs : List Char} {j : Json} (h : Numeral cs j) :
    ∃ negative c cs', cs = minusIf negative ++ c :: cs' ∧ c.isDigit = true := by
  cases h with
  | integer negative whole short =>
      obtain ⟨c, ds', rfl, digit⟩ := whole.1.exists_cons
      exact ⟨negative, c, _, rfl, digit⟩
  | float negative whole behind power inexact =>
      obtain ⟨c, ds', rfl, digit⟩ := whole.1.exists_cons
      exact ⟨negative, c, _, rfl, digit⟩

/-- How values begin. -/
lemma Spells.exists_cons {room : Nat} {cs : List Char} {j : Json} (h : Spells room cs j) :
    ∃ c cs', cs = c :: cs' ∧ Opens c := by
  have digitOpens {c : Char} (digit : c.isDigit = true) : Opens c := by
    rw [Reader.isDigit_iff] at digit
    exact ⟨by omega, by omega, by rintro rfl; simp at digit⟩
  cases h with
  | number numeral =>
      obtain ⟨negative, c, cs', rfl, digit⟩ := numeral.exists_digit
      cases negative with
      | true => exact ⟨'-', c :: cs', rfl, by decide⟩
      | false => exact ⟨c, cs', rfl, digitOpens digit⟩
  | _ => exact ⟨_, _, rfl, by decide⟩

namespace Reader

lemma ends_of_mem {c : Char} (h : c ∈ [',', ']', '\x7d']) (rest : List Char) :
    Ends (c :: rest) := by
  simp only [List.mem_cons, List.not_mem_nil, or_false] at h
  obtain rfl | rfl | rfl := h <;> simp [Ends]

/-! ### What is spelled is read -/

/-- The white space before a visible character is skipped. -/
lemma skipSpace_after {gap : List Char} {c : Char} (spaces : IsSpaces gap)
    (visible : isSpace c = false) (rest : List Char) :
    skipSpace (gap ++ c :: rest) = c :: rest :=
  skipSpace_append spaces fun d mem => by
    obtain rfl := Option.some.inj mem
    exact visible

/-- The white space before a value is skipped. -/
lemma skipSpace_before {room : Nat} {gap text : List Char} {j : Json} (spaces : IsSpaces gap)
    (spelled : Spells room text j) (rest : List Char) :
    skipSpace (gap ++ (text ++ rest)) = text ++ rest := by
  obtain ⟨c, cs', rfl, opens⟩ := spelled.exists_cons
  exact skipSpace_after spaces opens.not_isSpace (cs' ++ rest)

/-- The value at the start of a text that is not empty. -/
lemma value_cons (room fuel : Nat) (c : Char) (rest : List Char) :
    value room (fuel + 1) (c :: rest) =
      if c = '\x22' then attempt ((string rest).map fun p => (.text p.1, p.2))
      else if c = '[' then
        match room with
        | 0 => .error (.tooDeep .square)
        | room + 1 =>
          match skipSpace rest with
          | ']' :: rest => .ok (.list [], rest)
          | rest => (items room fuel rest).map fun p => (.list p.1, p.2)
      else if c = '\x7b' then
        match room with
        | 0 => .error (.tooDeep .curly)
        | room + 1 =>
          match skipSpace rest with
          | '\x7d' :: rest => .ok (.object [], rest)
          | rest => (members room fuel [] rest).map fun p => (.object p.1, p.2)
      else
        match named (c :: rest) with
        | some r => .ok r
        | none => attempt (number (c :: rest)) :=
  value.eq_def room (fuel + 1) (c :: rest)

/-- A value is read with any fuel that is twice as much as its length, up to where it ends. -/
def IsRead (room : Nat) (text : List Char) (j : Json) : Prop :=
  ∀ rest fuel, Ends rest → 2 * text.length ≤ fuel →
    value room fuel (text ++ rest) = .ok (j, rest)

/-- There is fuel for the first character of a text. -/
lemma IsRead.of_step {room : Nat} {text : List Char} {j : Json} (some : text ≠ [])
    (step : ∀ rest fuel, Ends rest → 2 * text.length ≤ fuel + 1 →
      value room (fuel + 1) (text ++ rest) = .ok (j, rest)) : IsRead room text j := by
  intro rest fuel ends enough
  have positive := List.length_pos_iff.mpr some
  obtain ⟨fuel, rfl⟩ : ∃ n, fuel = n + 1 := ⟨fuel - 1, by omega⟩
  exact step rest fuel ends enough

/-- A number has no name. -/
lemma named_eq_none {c : Char} (digit : c.isDigit = true) (negative : Bool) (rest : List Char) :
    named (minusIf negative ++ c :: rest) = none := by
  have letters : ∀ d ∈ ['n', 't', 'f', 'N', 'I', '-'], d.isDigit = false := by simp
  have other : ∀ d ∈ ['n', 't', 'f', 'N', 'I', '-'], (d == c) = false := by
    intro d mem
    rw [beq_eq_false_iff_ne]
    rintro rfl
    simp [letters d mem] at digit
  simp only [List.mem_cons, List.not_mem_nil, or_false, forall_eq_or_imp, forall_eq] at other
  cases negative <;> simp [named, names, minusIf, List.isPrefixOf?, other]

/-- A number is read. -/
lemma isRead_number {room : Nat} {cs : List Char} {j : Json} (h : Numeral cs j) :
    IsRead room cs j := by
  obtain ⟨negative, d, cs', rfl, digit⟩ := h.exists_digit
  have unnamed (rest : List Char) : named (minusIf negative ++ d :: cs' ++ rest) = none := by
    rw [List.append_assoc]
    exact named_eq_none digit negative (cs' ++ rest)
  have first : ∃ c cs, minusIf negative ++ d :: cs' = c :: cs ∧ c ∉ ['\x22', '[', '\x7b'] := by
    cases negative with
    | true => exact ⟨'-', d :: cs', rfl, by decide⟩
    | false =>
        refine ⟨d, cs', rfl, fun mem => ?_⟩
        have brackets : ∀ c ∈ ['\x22', '[', '\x7b'], c.isDigit = false := by simp
        simp [brackets d mem] at digit
  obtain ⟨c, cs, same, other⟩ := first
  simp only [List.mem_cons, List.not_mem_nil, or_false, not_or] at other
  rw [same] at h unnamed ⊢
  refine .of_step (by simp) fun rest fuel ends _ => ?_
  rw [List.cons_append, value_cons, if_neg other.1, if_neg other.2.1, if_neg other.2.2,
    ← List.cons_append, unnamed]
  exact congrArg attempt (number_of_numeral h ends)

/-! ### Parts with a comma behind each -/

lemma begun_cons (p : List Char) (ps : List (List Char)) :
    begun (p :: ps) = p ++ ',' :: begun ps := by
  simp [begun]

/-- The last piece stands behind the others. -/
lemma glue_concat (ps : List (List Char)) (p : List Char) :
    Text.glue ',' (ps ++ [p]) = begun ps ++ p := by
  induction ps with
  | nil => rfl
  | cons q ps ih =>
      obtain ⟨r, rs, same⟩ := List.exists_cons_of_ne_nil (List.append_ne_nil_of_right_ne_nil ps
        (List.cons_ne_nil p []))
      rw [List.cons_append, same, Text.glue, ← same, ih, begun_cons, List.append_assoc,
        List.cons_append]

lemma length_le_begun (ps : List (List Char)) : ps.length ≤ (begun ps).length := by
  induction ps with
  | nil => simp
  | cons p ps ih =>
      rw [begun_cons, List.length_append, List.length_cons, List.length_cons]
      omega

section

variable {room : Nat}

/-- A value is read with the white space around it. -/
lemma value_part {p : Part} (padded : p.IsPadded) (spelled : Spells room p.text p.value)
    (read : IsRead room p.text p.value) {c : Char} (closes : c ∈ [',', ']', '\x7d'])
    (rest : List Char) (fuel : Nat) (enough : 2 * p.chars.length ≤ fuel) :
    ∃ rest', value room fuel (skipSpace (p.chars ++ c :: rest)) = .ok (p.value, rest') ∧
      skipSpace rest' = c :: rest := by
  obtain ⟨before, after⟩ := padded
  have visible : isSpace c = false := by
    simp only [List.mem_cons, List.not_mem_nil, or_false] at closes
    obtain rfl | rfl | rfl := closes <;> rfl
  simp only [Part.chars, List.length_append, List.append_assoc] at enough ⊢
  rw [skipSpace_before before spelled]
  exact ⟨_, read _ fuel (after.ends (ends_of_mem closes rest)) (by omega),
    skipSpace_after after visible rest⟩

/-- The items of a list are read, and the reader goes on behind the comma of the last one. -/
lemma items_begun {parts : List Part} (padded : ∀ p ∈ parts, p.IsPadded)
    (spelled : ∀ p ∈ parts, Spells room p.text p.value)
    (read : ∀ p ∈ parts, IsRead room p.text p.value) (rest : List Char) {fuel : Nat}
    (enough : 2 * (begun (parts.map Part.chars)).length ≤ fuel + 2 * parts.length) :
    items room (fuel + parts.length) (skipSpace (begun (parts.map Part.chars) ++ rest)) =
      (items room fuel (skipSpace rest)).map fun r => (parts.map Part.value ++ r.1, r.2) := by
  induction parts with
  | nil =>
      change items room fuel (skipSpace rest) = (items room fuel (skipSpace rest)).map id
      cases items room fuel (skipSpace rest) <;> rfl
  | cons p parts ih =>
      simp only [List.forall_mem_cons] at padded spelled read
      have others := length_le_begun (parts.map Part.chars)
      simp only [List.map_cons, begun_cons, List.length_append, List.length_cons,
        List.length_map] at enough others
      obtain ⟨rest', found, skipped⟩ := value_part padded.1 spelled.1 read.1 (c := ',') (by simp)
        (begun (parts.map Part.chars) ++ rest) (fuel + parts.length) (by omega)
      rw [List.map_cons, begun_cons, List.append_assoc, List.cons_append, List.length_cons,
        ← Nat.add_assoc, items, found]
      dsimp only
      rw [skipped]
      change (items room (fuel + parts.length) (skipSpace _)).map _ = _
      rw [ih padded.2 spelled.2 read.2 (by omega)]
      cases items room fuel (skipSpace rest) <;> rfl

/-- The items of a list are read. -/
lemma items_of_isRead {parts : List Part} (some : parts ≠ []) (padded : ∀ p ∈ parts, p.IsPadded)
    (spelled : ∀ p ∈ parts, Spells room p.text p.value)
    (read : ∀ p ∈ parts, IsRead room p.text p.value) (rest : List Char) {fuel : Nat}
    (enough : 2 * (Text.glue ',' (parts.map Part.chars)).length + 1 ≤ fuel) :
    items room fuel (skipSpace (Text.glue ',' (parts.map Part.chars) ++ ']' :: rest)) =
      .ok (parts.map Part.value, rest) := by
  obtain rfl | ⟨parts, p, rfl⟩ := parts.eq_nil_or_concat'
  · exact absurd rfl some
  simp only [List.forall_mem_append, List.forall_mem_singleton] at padded spelled read
  rw [List.map_append, List.map_singleton, glue_concat, List.length_append] at enough
  have others := length_le_begun (parts.map Part.chars)
  rw [List.length_map] at others
  obtain ⟨fuel, rfl⟩ : ∃ n, fuel = n + 1 + parts.length := ⟨fuel - 1 - parts.length, by omega⟩
  obtain ⟨rest', found, skipped⟩ := value_part padded.2 spelled.2 read.2 (c := ']') (by simp)
    rest fuel (by omega)
  rw [List.map_append, List.map_singleton, glue_concat, List.append_assoc,
    items_begun padded.1 spelled.1 read.1 _ (by omega), items, found]
  dsimp only
  rw [skipped]
  simp [Except.map]

/-- The field of an object is read, and the reader goes on behind it. -/
lemma members_member {m : Member} (padded : m.IsPadded)
    (spelled : Spells room m.part.text m.part.value)
    (read : IsRead room m.part.text m.part.value) {c : Char} (closes : c ∈ [',', ']', '\x7d'])
    (fields : List (String × Json)) (rest : List Char) (fuel : Nat)
    (enough : 2 * m.chars.length ≤ fuel) :
    members room (fuel + 1) fields (skipSpace (m.chars ++ c :: rest)) =
      if c = '\x7d' then .ok (setField m.name m.part.value fields, rest)
      else if c = ',' then
        members room fuel (setField m.name m.part.value fields) (skipSpace rest)
      else .error .malformed := by
  obtain ⟨before, name, between, part⟩ := padded
  simp only [Member.chars, List.length_append, List.length_cons] at enough
  have quoted : string (m.quoted ++ '\x22' :: (m.between ++ ':' :: (m.part.chars ++ c :: rest))) =
      some (m.name, m.between ++ ':' :: (m.part.chars ++ c :: rest)) :=
    string_eq_some_iff.mpr ⟨m.quoted, name, rfl⟩
  obtain ⟨rest', found, skipped⟩ := value_part part spelled read closes rest fuel (by omega)
  simp only [Member.chars, List.append_assoc, List.cons_append]
  rw [skipSpace_after before (by decide), members, quoted]
  dsimp only
  rw [skipSpace_after between (by decide)]
  split
  · rename_i behind colon
    obtain ⟨-, rfl⟩ := List.cons.inj colon
    rw [found]
    dsimp only
    rw [skipped]
    split
    · rename_i closed
      obtain ⟨rfl, rfl⟩ := List.cons.inj closed
      rw [if_pos rfl]
    · rename_i goesOn
      obtain ⟨rfl, rfl⟩ := List.cons.inj goesOn
      rw [if_neg (by decide), if_pos rfl]
    · rename_i unclosed unfollowed
      have unclosed : c ≠ '\x7d' := fun same => unclosed rest (by rw [same])
      have unfollowed : c ≠ ',' := fun same => unfollowed rest (by rw [same])
      rw [if_neg unclosed, if_neg unfollowed]
  · rename_i other
    exact absurd rfl (other _)

/-- The fields of an object with fields that are written one after the other. -/
abbrev withMembers (fields : List (String × Json)) (ms : List Member) : List (String × Json) :=
  ms.foldl (fun fs m => setField m.name m.part.value fs) fields

/-- The fields of an object are read, and the reader goes on behind the comma of the last one. -/
lemma members_begun {ms : List Member} (padded : ∀ m ∈ ms, m.IsPadded)
    (spelled : ∀ m ∈ ms, Spells room m.part.text m.part.value)
    (read : ∀ m ∈ ms, IsRead room m.part.text m.part.value) (fields : List (String × Json))
    (rest : List Char) {fuel : Nat}
    (enough : 2 * (begun (ms.map Member.chars)).length ≤ fuel + 2 * ms.length) :
    members room (fuel + ms.length) fields (skipSpace (begun (ms.map Member.chars) ++ rest)) =
      members room fuel (withMembers fields ms) (skipSpace rest) := by
  induction ms generalizing fields with
  | nil => rfl
  | cons m ms ih =>
      simp only [List.forall_mem_cons] at padded spelled read
      have others := length_le_begun (ms.map Member.chars)
      simp only [List.map_cons, begun_cons, List.length_append, List.length_cons,
        List.length_map] at enough others
      rw [List.map_cons, begun_cons, List.append_assoc, List.cons_append, List.length_cons,
        ← Nat.add_assoc, members_member padded.1 spelled.1 read.1 (by simp) fields _ _ (by omega),
        if_neg (by decide), if_pos rfl]
      exact ih padded.2 spelled.2 read.2 _ (by omega)

/-- The fields of an object are read. -/
lemma members_of_isRead {ms : List Member} (some : ms ≠ []) (padded : ∀ m ∈ ms, m.IsPadded)
    (spelled : ∀ m ∈ ms, Spells room m.part.text m.part.value)
    (read : ∀ m ∈ ms, IsRead room m.part.text m.part.value) (fields : List (String × Json))
    (rest : List Char) {fuel : Nat}
    (enough : 2 * (Text.glue ',' (ms.map Member.chars)).length + 1 ≤ fuel) :
    members room fuel fields (skipSpace (Text.glue ',' (ms.map Member.chars) ++ '\x7d' :: rest)) =
      .ok (withMembers fields ms, rest) := by
  obtain rfl | ⟨ms, m, rfl⟩ := ms.eq_nil_or_concat'
  · exact absurd rfl some
  simp only [List.forall_mem_append, List.forall_mem_singleton] at padded spelled read
  rw [List.map_append, List.map_singleton, glue_concat, List.length_append] at enough
  have others := length_le_begun (ms.map Member.chars)
  rw [List.length_map] at others
  obtain ⟨fuel, rfl⟩ : ∃ n, fuel = n + 1 + ms.length := ⟨fuel - 1 - ms.length, by omega⟩
  rw [List.map_append, List.map_singleton, glue_concat, List.append_assoc,
    members_begun padded.1 spelled.1 read.1 _ _ (by omega),
    members_member padded.2 spelled.2 read.2 (by simp) _ _ _ (by omega), if_pos rfl,
    withMembers, withMembers, List.foldl_append]
  rfl

end

/-- The first piece stands at the start. -/
lemma exists_glue_cons (p : List Char) (ps : List (List Char)) :
    ∃ cs, Text.glue ',' (p :: ps) = p ++ cs := by
  cases ps with
  | nil => exact ⟨[], by simp [Text.glue]⟩
  | cons q ps => exact ⟨_, rfl⟩

/-- The items of a list do not begin with a closing bracket. -/
lemma skipSpace_part_ne {room : Nat} {p : Part} (padded : p.IsPadded)
    (spelled : Spells room p.text p.value) (rest rest' : List Char) :
    skipSpace (p.chars ++ rest) ≠ ']' :: rest' := by
  rw [Part.chars, List.append_assoc, List.append_assoc, skipSpace_before padded.1 spelled]
  obtain ⟨c, cs', begins, -, -, other⟩ := spelled.exists_cons
  rw [begins]
  exact fun same => other (List.cons.inj same).1

/-- The fields of an object begin with a double quote. -/
lemma skipSpace_member_ne {m : Member} (padded : m.IsPadded) (rest rest' : List Char) :
    skipSpace (m.chars ++ rest) ≠ '\x7d' :: rest' := by
  rw [Member.chars, List.append_assoc, List.cons_append, skipSpace_after padded.before (by decide)]
  simp

/-- What is spelled is read. -/
lemma isRead_of_spells {room : Nat} {cs : List Char} {j : Json} (h : Spells room cs j) :
    IsRead room cs j := by
  induction h with
  | null => exact .of_step (by simp) fun rest fuel _ _ => rfl
  | yes => exact .of_step (by simp) fun rest fuel _ _ => rfl
  | no => exact .of_step (by simp) fun rest fuel _ _ => rfl
  | notANumber => exact .of_step (by simp) fun rest fuel _ _ => rfl
  | infinity => exact .of_step (by simp) fun rest fuel _ _ => rfl
  | minusInfinity => exact .of_step (by simp) fun rest fuel _ _ => rfl
  | number numeral => exact isRead_number numeral
  | @text room cs s quoted =>
      refine .of_step (by simp) fun rest fuel _ _ => ?_
      have found : string (cs ++ '\x22' :: rest) = some (s, rest) :=
        string_eq_some_iff.mpr ⟨cs, quoted, rfl⟩
      rw [List.cons_append, List.append_assoc, List.singleton_append, value_cons, if_pos rfl, found]
      rfl
  | emptyList spaces =>
      refine .of_step (by simp) fun rest fuel _ _ => ?_
      rw [List.cons_append, List.append_assoc, List.singleton_append, value_cons,
        if_neg (by decide), if_pos rfl, skipSpace_after spaces (by decide)]
      rfl
  | @list room parts some padded spelled read =>
      refine .of_step (by simp) fun rest fuel _ enough => ?_
      rw [List.length_cons, List.length_append] at enough
      rw [List.cons_append, List.append_assoc, List.singleton_append, value_cons,
        if_neg (by decide), if_pos rfl]
      dsimp only
      split
      · rename_i rest' closed
        obtain ⟨p, parts, rfl⟩ := List.exists_cons_of_ne_nil some
        obtain ⟨cs, glued⟩ := exists_glue_cons p.chars (parts.map Part.chars)
        rw [List.map_cons, glued, List.append_assoc] at closed
        exact absurd closed (skipSpace_part_ne (padded p (by simp)) (spelled p (by simp)) _ rest')
      · rw [items_of_isRead some padded spelled read rest (by omega)]
        rfl
  | emptyObject spaces =>
      refine .of_step (by simp) fun rest fuel _ _ => ?_
      rw [List.cons_append, List.append_assoc, List.singleton_append, value_cons,
        if_neg (by decide), if_neg (by decide), if_pos rfl, skipSpace_after spaces (by decide)]
      rfl
  | @object room ms some padded spelled read =>
      refine .of_step (by simp) fun rest fuel _ enough => ?_
      rw [List.length_cons, List.length_append] at enough
      rw [List.cons_append, List.append_assoc, List.singleton_append, value_cons,
        if_neg (by decide), if_neg (by decide), if_pos rfl]
      dsimp only
      split
      · rename_i rest' closed
        obtain ⟨m, ms, rfl⟩ := List.exists_cons_of_ne_nil some
        obtain ⟨cs, glued⟩ := exists_glue_cons m.chars (ms.map Member.chars)
        rw [List.map_cons, glued, List.append_assoc] at closed
        exact absurd closed (skipSpace_member_ne (padded m (by simp)) _ rest')
      · rw [members_of_isRead some padded spelled read [] rest (by omega), writtenFields,
          List.foldl_map]
        rfl

/-! ### What is read is spelled -/

lemma attempt_eq_ok_iff {α : Type} {r : Read α} {p : α × List Char} :
    attempt r = .ok p ↔ r = some p := by
  cases r <;> simp [attempt]

lemma exists_of_map_eq_ok {ε α β : Type} {x : Except ε α} {f : α → β} {b : β}
    (h : x.map f = .ok b) : ∃ a, x = .ok a ∧ f a = b := by
  cases x with
  | error e => simp [Except.map] at h
  | ok a => exact ⟨a, rfl, Except.ok.inj h⟩

/-- The text of a value stands at the start. -/
def HoldsValue (room : Nat) (cs : List Char) (j : Json) (rest : List Char) : Prop :=
  ∃ text, Spells room text j ∧ cs = text ++ rest

/-- The items of a list stand at the start, up to the closing bracket. -/
def HoldsItems (room : Nat) (cs : List Char) (xs : List Json) (rest : List Char) : Prop :=
  ∃ parts : List Part, parts ≠ [] ∧ (∀ p ∈ parts, p.IsPadded) ∧
    (∀ p ∈ parts, Spells room p.text p.value) ∧ xs = parts.map Part.value ∧
      cs = Text.glue ',' (parts.map Part.chars) ++ ']' :: rest

/-- The fields of an object stand at the start, up to the closing brace, and are added to others. -/
def HoldsFields (room : Nat) (fields : List (String × Json)) (cs : List Char)
    (fs : List (String × Json)) (rest : List Char) : Prop :=
  ∃ ms : List Member, ms ≠ [] ∧ (∀ m ∈ ms, m.IsPadded) ∧
    (∀ m ∈ ms, Spells room m.part.text m.part.value) ∧ fs = withMembers fields ms ∧
      cs = Text.glue ',' (ms.map Member.chars) ++ '\x7d' :: rest

/-- Whatever is read with an amount of fuel is spelled. -/
structure IsSound (fuel : Nat) : Prop where
  ofValue : ∀ {room cs rest j}, value room fuel cs = .ok (j, rest) → HoldsValue room cs j rest
  ofItems : ∀ {room cs rest xs}, items room fuel (skipSpace cs) = .ok (xs, rest) →
    HoldsItems room cs xs rest
  ofMembers : ∀ {room fields cs rest fs},
    members room fuel fields (skipSpace cs) = .ok (fs, rest) →
      HoldsFields room fields cs fs rest

/-- The other pieces stand behind the first one. -/
lemma glue_cons {ps : List (List Char)} (some : ps ≠ []) (p : List Char) :
    Text.glue ',' (p :: ps) = p ++ ',' :: Text.glue ',' ps := by
  cases ps with
  | nil => exact absurd rfl some
  | cons q ps => rfl

/-- What is read by its name is spelled. -/
lemma holdsValue_named {room : Nat} {cs rest : List Char} {j : Json}
    (h : named cs = some (j, rest)) : HoldsValue room cs j rest := by
  have spelled : ∀ p ∈ names, Spells room p.1 p.2 := by
    simp only [names, List.forall_mem_cons]
    exact ⟨.null, .yes, .no, .notANumber, .infinity, .minusInfinity, by simp⟩
  obtain ⟨p, mem, found⟩ := List.exists_of_findSome?_eq_some h
  obtain ⟨rest', begins, same⟩ := Option.map_eq_some_iff.mp found
  obtain ⟨rfl, rfl⟩ := Prod.mk.inj same
  exact ⟨p.1, spelled p mem, (List.isPrefixOf?_eq_some_iff_append_eq.mp begins).symm⟩

section

variable {room fuel : Nat} (h : IsSound fuel)
include h

/-- A value that is read stands there with white space around it. -/
lemma IsSound.exists_part {cs rest : List Char} {x : Json}
    (read : value room fuel (skipSpace cs) = .ok (x, rest)) :
    ∃ p : Part, p.IsPadded ∧ Spells room p.text p.value ∧ p.value = x ∧
      cs = p.chars ++ skipSpace rest := by
  obtain ⟨gap, spaces, parted⟩ := exists_skipSpace cs
  obtain ⟨text, spelled, begins⟩ := h.ofValue read
  obtain ⟨gap', spaces', parted'⟩ := exists_skipSpace rest
  refine ⟨⟨gap, text, gap', x⟩, ⟨spaces, spaces'⟩, spelled, rfl, ?_⟩
  rw [Part.chars, List.append_assoc, List.append_assoc, ← parted', ← begins, ← parted]

lemma IsSound.items_succ {cs rest : List Char} {xs : List Json}
    (read : items room (fuel + 1) (skipSpace cs) = .ok (xs, rest)) :
    HoldsItems room cs xs rest := by
  rw [items] at read
  split at read
  · simp at read
  rename_i found
  obtain ⟨p, padded, spelled, rfl, rfl⟩ := h.exists_part found
  split at read
  · rename_i closed
    obtain ⟨rfl, rfl⟩ := Prod.mk.inj (Except.ok.inj read)
    exact ⟨[p], by simp, by simpa using padded, by simpa using spelled, rfl, by rw [closed]; rfl⟩
  · rename_i goesOn
    obtain ⟨⟨ys, rest'⟩, more, same⟩ := exists_of_map_eq_ok read
    obtain ⟨rfl, rfl⟩ := Prod.mk.inj same
    obtain ⟨parts, some, padded', spelled', rfl, rfl⟩ := h.ofItems more
    refine ⟨p :: parts, by simp, List.forall_mem_cons.mpr ⟨padded, padded'⟩,
      List.forall_mem_cons.mpr ⟨spelled, spelled'⟩, rfl, ?_⟩
    rw [goesOn, List.map_cons, glue_cons (by simpa using some), List.append_assoc,
      List.cons_append]
  · simp at read

lemma IsSound.members_succ {fields fs : List (String × Json)} {cs rest : List Char}
    (read : members room (fuel + 1) fields (skipSpace cs) = .ok (fs, rest)) :
    HoldsFields room fields cs fs rest := by
  obtain ⟨gap, spaces, parted⟩ := exists_skipSpace cs
  rw [members.eq_def] at read
  dsimp only at read
  split at read
  · rename_i begins
    split at read
    · simp at read
    rename_i name rest₂ quoted
    obtain ⟨qs, spelledName, rfl⟩ := string_eq_some_iff.mp quoted
    obtain ⟨gap', spaces', parted'⟩ := exists_skipSpace rest₂
    split at read
    · rename_i colon
      split at read
      · simp at read
      rename_i rest₄ found
      obtain ⟨p, padded, spelled, rfl, rfl⟩ := h.exists_part found
      let m : Member := ⟨gap, qs, name, gap', p⟩
      have isPadded : m.IsPadded := ⟨spaces, spelledName, spaces', padded⟩
      have written : cs = m.chars ++ skipSpace rest₄ := by
        rw [parted, begins, parted', colon]
        simp [m, Member.chars]
      split at read
      · rename_i closed
        obtain ⟨rfl, rfl⟩ := Prod.mk.inj (Except.ok.inj read)
        refine ⟨[m], by simp, by simpa using isPadded, by simpa using spelled, rfl, ?_⟩
        rw [written, closed]
        rfl
      · rename_i goesOn
        obtain ⟨ms, some, padded', spelled', rfl, rfl⟩ := h.ofMembers read
        refine ⟨m :: ms, by simp, List.forall_mem_cons.mpr ⟨isPadded, padded'⟩,
          List.forall_mem_cons.mpr ⟨spelled, spelled'⟩, rfl, ?_⟩
        rw [written, goesOn, List.map_cons, glue_cons (by simpa using some), List.append_assoc,
          List.cons_append]
      · simp at read
    · simp at read
  · simp at read

lemma IsSound.value_succ {cs rest : List Char} {j : Json}
    (read : value room (fuel + 1) cs = .ok (j, rest)) : HoldsValue room cs j rest := by
  cases cs with
  | nil => simp [value] at read
  | cons c cs =>
      rw [value_cons] at read
      split_ifs at read with quote bracket brace
      · subst quote
        obtain ⟨⟨s, rest'⟩, found, same⟩ :=
          Option.map_eq_some_iff.mp (attempt_eq_ok_iff.mp read)
        obtain ⟨rfl, rfl⟩ := Prod.mk.inj same
        obtain ⟨qs, quoted, rfl⟩ := string_eq_some_iff.mp found
        exact ⟨_, .text quoted, by simp⟩
      · subst bracket
        cases room with
        | zero => simp at read
        | succ room =>
            dsimp only at read
            split at read
            · rename_i closed
              obtain ⟨rfl, rfl⟩ := Prod.mk.inj (Except.ok.inj read)
              obtain ⟨gap, spaces, parted⟩ := exists_skipSpace cs
              exact ⟨_, .emptyList spaces, by rw [parted, closed]; simp⟩
            · obtain ⟨⟨xs, rest'⟩, found, same⟩ := exists_of_map_eq_ok read
              obtain ⟨rfl, rfl⟩ := Prod.mk.inj same
              obtain ⟨parts, some, padded, spelled, rfl, rfl⟩ := h.ofItems found
              exact ⟨_, .list some padded spelled, by simp⟩
      · subst brace
        cases room with
        | zero => simp at read
        | succ room =>
            dsimp only at read
            split at read
            · rename_i closed
              obtain ⟨rfl, rfl⟩ := Prod.mk.inj (Except.ok.inj read)
              obtain ⟨gap, spaces, parted⟩ := exists_skipSpace cs
              exact ⟨_, .emptyObject spaces, by rw [parted, closed]; simp⟩
            · obtain ⟨⟨fs, rest'⟩, found, same⟩ := exists_of_map_eq_ok read
              obtain ⟨rfl, rfl⟩ := Prod.mk.inj same
              obtain ⟨ms, some, padded, spelled, rfl, rfl⟩ := h.ofMembers found
              have spelledObject := Spells.object some padded spelled
              rw [writtenFields, List.foldl_map] at spelledObject
              exact ⟨_, spelledObject, by simp⟩
      · split at read
        · rename_i found
          obtain rfl := Except.ok.inj read
          exact holdsValue_named found
        · obtain ⟨text, numeral, begins⟩ := exists_numeral (attempt_eq_ok_iff.mp read)
          exact ⟨text, .number numeral, begins⟩

end

/-- Whatever is read is spelled. -/
lemma sound (fuel : Nat) : IsSound fuel := by
  induction fuel with
  | zero =>
      exact ⟨fun read => by simp [value] at read, fun read => by simp [items] at read,
        fun read => by simp [members] at read⟩
  | succ fuel ih => exact ⟨ih.value_succ, ih.items_succ, ih.members_succ⟩

/-! ### Whole texts -/

/-- **Reading JSON texts.**  The value that a whole text is read as is the one that it is a text
of. -/
theorem wholeText_eq_ok_iff {room : Nat} {cs : List Char} {j : Json} :
    wholeText room cs = .ok j ↔ IsTextOf room cs j := by
  rw [wholeText]
  constructor
  · intro read
    split at read
    · rename_i found
      split_ifs at read with nothing
      obtain rfl := Except.ok.inj read
      obtain ⟨p, padded, spelled, same, written⟩ := (sound _).exists_part found
      rw [List.isEmpty_iff.mp nothing, List.append_nil] at written
      exact ⟨p, written, same, padded, same ▸ spelled⟩
    · simp at read
  · rintro ⟨p, rfl, rfl, ⟨before, after⟩, spelled⟩
    have ends : Ends p.after := by
      rw [← List.append_nil p.after]
      exact after.ends (by simp [Ends])
    have nothing : skipSpace p.after = [] := by
      rw [← List.append_nil p.after]
      exact skipSpace_append after (by simp)
    rw [Part.chars, skipSpace_before before spelled,
      isRead_of_spells spelled _ _ ends (by simp; omega)]
    dsimp only
    rw [nothing]
    rfl

end Reader

/-- A text is one of no more than one value. -/
lemma IsTextOf.unique {room : Nat} {cs : List Char} {j j' : Json} (h : IsTextOf room cs j)
    (h' : IsTextOf room cs j') : j = j' := by
  rw [← Reader.wholeText_eq_ok_iff] at h h'
  exact Except.ok.inj (h.symm.trans h')

/-- What a text is read as. -/
lemma read_eq_ok_iff {room : Nat} {s : String} {j : Json} :
    read room s = .ok j ↔ IsTextOf room s.toList j :=
  Reader.wholeText_eq_ok_iff

end Driftwatch.Json
