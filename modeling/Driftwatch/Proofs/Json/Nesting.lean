/-
JSON texts that are nested too deeply.

* `Reader.value_of_overruns`: where there is no room for a bracket, nothing is read.
* `Reader.tight`: if nothing is read for want of room, there is no room for a bracket.
* `Reader.wholeText_eq_tooDeep_iff`, `Reader.wholeText_eq_malformed_iff`: the texts that are not
  read, with the reason.
* `overrunsText_openBrackets`: brackets that nothing closes.
-/
import Driftwatch.Proofs.Json.Reading

namespace Driftwatch.Json

/-- A text without room begins with a bracket. -/
lemma Overruns.exists_cons {room : Nat} {bracket : Reader.Bracket} {cs : List Char}
    (h : Overruns room bracket cs) : ∃ c cs', cs = c :: cs' ∧ Opens c ∧ c ≠ '\x7d' := by
  cases h <;> exact ⟨_, _, rfl, by decide, by decide⟩

namespace Reader

/-! ### Without room nothing is read -/

lemma skipSpace_overruns {room : Nat} {bracket : Bracket} {gap rest : List Char}
    (spaces : IsSpaces gap) (h : Overruns room bracket rest) : skipSpace (gap ++ rest) = rest := by
  obtain ⟨c, cs', rfl, opens, -⟩ := h.exists_cons
  exact skipSpace_after spaces opens.not_isSpace cs'

section

variable {room fuel : Nat} {bracket : Bracket} {gap rest : List Char}

/-- The items of a list do not begin with a closing bracket, and neither does what there is no room
for. -/
lemma skipSpace_items_ne {parts : List Part} (padded : ∀ p ∈ parts, p.IsPadded)
    (spelled : ∀ p ∈ parts, Spells room p.text p.value) (spaces : IsSpaces gap)
    (inner : Overruns room bracket rest) (rest' : List Char) :
    skipSpace (begun (parts.map Part.chars) ++ (gap ++ rest)) ≠ ']' :: rest' := by
  intro closed
  cases parts with
  | nil =>
      obtain ⟨c, cs', rfl, opens, -⟩ := inner.exists_cons
      rw [List.map_nil, begun, List.flatMap_nil, List.nil_append,
        skipSpace_overruns spaces inner] at closed
      exact absurd (List.cons.inj closed).1 opens.2.2
  | cons p parts =>
      rw [List.map_cons, begun_cons, List.append_assoc] at closed
      exact skipSpace_part_ne (padded p (by simp)) (spelled p (by simp)) _ rest' closed

/-- The fields of an object do not begin with a closing brace, and neither does the name of one. -/
lemma skipSpace_members_ne {ms : List Member} {before : List Char}
    (padded : ∀ m ∈ ms, m.IsPadded) (spaces : IsSpaces before) (rest rest' : List Char) :
    skipSpace (begun (ms.map Member.chars) ++ (before ++ '\x22' :: rest)) ≠ '\x7d' :: rest' := by
  intro closed
  cases ms with
  | nil =>
      rw [List.map_nil, begun, List.flatMap_nil, List.nil_append,
        skipSpace_after spaces (by decide)] at closed
      simp at closed
  | cons m ms =>
      rw [List.map_cons, begun_cons, List.append_assoc] at closed
      exact skipSpace_member_ne (padded m (by simp)) _ rest' closed

/-- The items of a list are not read if there is no room for one of them. -/
lemma items_of_overruns {parts : List Part} (padded : ∀ p ∈ parts, p.IsPadded)
    (spelled : ∀ p ∈ parts, Spells room p.text p.value) (spaces : IsSpaces gap)
    (inner : Overruns room bracket rest)
    (unread : value room fuel rest = .error (.tooDeep bracket))
    (enough : 2 * (begun (parts.map Part.chars)).length ≤ fuel + 1 + 2 * parts.length) :
    items room (fuel + 1 + parts.length)
        (skipSpace (begun (parts.map Part.chars) ++ (gap ++ rest))) =
      .error (.tooDeep bracket) := by
  rw [items_begun padded spelled (fun p mem => isRead_of_spells (spelled p mem)) _ enough, items,
    skipSpace_overruns spaces inner, unread]
  rfl

/-- The fields of an object are not read if there is no room for one of them. -/
lemma members_of_overruns {ms : List Member} {before quoted between : List Char} {name : String}
    (padded : ∀ m ∈ ms, m.IsPadded)
    (spelled : ∀ m ∈ ms, Spells room m.part.text m.part.value) (spacesBefore : IsSpaces before)
    (named : SpellsText quoted name) (spacesBetween : IsSpaces between) (spaces : IsSpaces gap)
    (inner : Overruns room bracket rest)
    (unread : value room fuel rest = .error (.tooDeep bracket)) (fields : List (String × Json))
    (enough : 2 * (begun (ms.map Member.chars)).length ≤ fuel + 1 + 2 * ms.length) :
    members room (fuel + 1 + ms.length) fields (skipSpace (begun (ms.map Member.chars) ++
        (before ++ '\x22' :: (quoted ++ '\x22' :: (between ++ ':' :: (gap ++ rest)))))) =
      .error (.tooDeep bracket) := by
  have read : string (quoted ++ '\x22' :: (between ++ ':' :: (gap ++ rest))) =
      some (name, between ++ ':' :: (gap ++ rest)) :=
    string_eq_some_iff.mpr ⟨quoted, named, rfl⟩
  rw [members_begun padded spelled (fun m mem => isRead_of_spells (spelled m mem)) _ _ enough,
    skipSpace_after spacesBefore (by decide), members, read]
  dsimp only
  rw [skipSpace_after spacesBetween (by decide)]
  split
  · rename_i behind colon
    obtain ⟨-, rfl⟩ := List.cons.inj colon
    rw [skipSpace_overruns spaces inner, unread]
  · rename_i other
    exact absurd rfl (other _)

end

/-- Where there is no room for a bracket, nothing is read. -/
lemma value_of_overruns {room : Nat} {bracket : Bracket} {cs : List Char}
    (h : Overruns room bracket cs) {fuel : Nat} (enough : 2 * cs.length ≤ fuel) :
    value room fuel cs = .error (.tooDeep bracket) := by
  induction h generalizing fuel with
  | square =>
      rw [List.length_cons] at enough
      obtain ⟨fuel, rfl⟩ : ∃ n, fuel = n + 1 := ⟨fuel - 1, by omega⟩
      rfl
  | curly =>
      rw [List.length_cons] at enough
      obtain ⟨fuel, rfl⟩ : ∃ n, fuel = n + 1 := ⟨fuel - 1, by omega⟩
      rfl
  | @list room bracket parts gap rest padded spelled spaces inner ih =>
      have others := length_le_begun (parts.map Part.chars)
      simp only [List.length_cons, List.length_append, List.length_map] at enough others
      obtain ⟨fuel, rfl⟩ : ∃ n, fuel = n + 1 + parts.length + 1 :=
        ⟨fuel - 2 - parts.length, by omega⟩
      rw [value_cons, if_neg (by decide), if_pos rfl]
      dsimp only
      split
      · rename_i rest' closed
        exact absurd closed (skipSpace_items_ne padded spelled spaces inner rest')
      · rw [items_of_overruns padded spelled spaces inner (ih (by omega)) (by omega)]
        rfl
  | @object room bracket ms before quoted between gap rest name padded spelled spacesBefore named
      spacesBetween spaces inner ih =>
      have others := length_le_begun (ms.map Member.chars)
      simp only [List.length_cons, List.length_append, List.length_map] at enough others
      obtain ⟨fuel, rfl⟩ : ∃ n, fuel = n + 1 + ms.length + 1 :=
        ⟨fuel - 2 - ms.length, by omega⟩
      rw [value_cons, if_neg (by decide), if_neg (by decide), if_pos rfl]
      dsimp only
      split
      · rename_i rest' closed
        exact absurd closed (skipSpace_members_ne padded spacesBefore _ rest')
      · rw [members_of_overruns padded spelled spacesBefore named spacesBetween spaces inner
          (ih (by omega)) _ (by omega)]
        rfl

/-! ### Nothing is read without room only -/

/-- There is no room for the items of a list. -/
def OverrunsItems (room : Nat) (bracket : Bracket) (cs : List Char) : Prop :=
  ∃ (parts : List Part) (gap rest : List Char), (∀ p ∈ parts, p.IsPadded) ∧
    (∀ p ∈ parts, Spells room p.text p.value) ∧ IsSpaces gap ∧ Overruns room bracket rest ∧
      cs = begun (parts.map Part.chars) ++ (gap ++ rest)

/-- There is no room for the fields of an object. -/
def OverrunsFields (room : Nat) (bracket : Bracket) (cs : List Char) : Prop :=
  ∃ (ms : List Member) (before quoted between gap rest : List Char) (name : String),
    (∀ m ∈ ms, m.IsPadded) ∧ (∀ m ∈ ms, Spells room m.part.text m.part.value) ∧
      IsSpaces before ∧ SpellsText quoted name ∧ IsSpaces between ∧ IsSpaces gap ∧
        Overruns room bracket rest ∧
          cs = begun (ms.map Member.chars) ++
            (before ++ '\x22' :: (quoted ++ '\x22' :: (between ++ ':' :: (gap ++ rest))))

/-- Whatever is not read for want of room has no room for a bracket. -/
structure IsTight (fuel : Nat) : Prop where
  ofValue : ∀ {room cs bracket}, value room fuel cs = .error (.tooDeep bracket) →
    Overruns room bracket cs
  ofItems : ∀ {room cs bracket}, items room fuel (skipSpace cs) = .error (.tooDeep bracket) →
    OverrunsItems room bracket cs
  ofMembers : ∀ {room fields cs bracket},
    members room fuel fields (skipSpace cs) = .error (.tooDeep bracket) →
      OverrunsFields room bracket cs

/-- A text that is read in one piece has room. -/
lemma attempt_ne_tooDeep {α : Type} (r : Read α) (bracket : Bracket) :
    attempt r ≠ .error (.tooDeep bracket) := by
  cases r <;> simp [attempt]

lemma eq_error_of_map {ε α β : Type} {x : Except ε α} {f : α → β} {e : ε}
    (h : x.map f = .error e) : x = .error e := by
  cases x with
  | error e' => exact congrArg Except.error (Except.error.inj h)
  | ok a => simp [Except.map] at h

section

variable {room fuel : Nat} {bracket : Bracket} (h : IsTight fuel)
include h

lemma IsTight.items_succ {cs : List Char}
    (fails : items room (fuel + 1) (skipSpace cs) = .error (.tooDeep bracket)) :
    OverrunsItems room bracket cs := by
  rw [items] at fails
  split at fails
  · rename_i unread
    obtain rfl := Except.error.inj fails
    obtain ⟨gap, spaces, parted⟩ := exists_skipSpace cs
    exact ⟨[], gap, _, by simp, by simp, spaces, h.ofValue unread, parted⟩
  rename_i found
  obtain ⟨p, padded, spelled, rfl, rfl⟩ := (sound fuel).exists_part found
  split at fails
  · simp at fails
  · rename_i goesOn
    obtain ⟨parts, gap, rest, padded', spelled', spaces, inner, rfl⟩ :=
      h.ofItems (eq_error_of_map fails)
    refine ⟨p :: parts, gap, rest, List.forall_mem_cons.mpr ⟨padded, padded'⟩,
      List.forall_mem_cons.mpr ⟨spelled, spelled'⟩, spaces, inner, ?_⟩
    rw [goesOn, List.map_cons, begun_cons, List.append_assoc, List.cons_append]
  · simp at fails

lemma IsTight.members_succ {fields : List (String × Json)} {cs : List Char}
    (fails : members room (fuel + 1) fields (skipSpace cs) = .error (.tooDeep bracket)) :
    OverrunsFields room bracket cs := by
  obtain ⟨gap, spaces, parted⟩ := exists_skipSpace cs
  rw [members.eq_def] at fails
  dsimp only at fails
  split at fails
  · rename_i begins
    split at fails
    · simp at fails
    rename_i name rest₂ quoted
    obtain ⟨qs, spelledName, rfl⟩ := string_eq_some_iff.mp quoted
    obtain ⟨gap', spaces', parted'⟩ := exists_skipSpace rest₂
    split at fails
    · rename_i rest₃ colon
      have begun' : cs = gap ++ '\x22' :: (qs ++ '\x22' :: (gap' ++ ':' :: rest₃)) := by
        rw [parted, begins, parted', colon]
      split at fails
      · rename_i unread
        obtain rfl := Except.error.inj fails
        obtain ⟨gap'', spaces'', parted''⟩ := exists_skipSpace rest₃
        refine ⟨[], gap, qs, gap', gap'', _, name, by simp, by simp, spaces, spelledName, spaces',
          spaces'', h.ofValue unread, ?_⟩
        rw [← parted'', begun']
        rfl
      rename_i rest₄ found
      obtain ⟨p, padded, spelled, rfl, rfl⟩ := (sound fuel).exists_part found
      let m : Member := ⟨gap, qs, name, gap', p⟩
      have isPadded : m.IsPadded := ⟨spaces, spelledName, spaces', padded⟩
      split at fails
      · simp at fails
      · rename_i goesOn
        obtain ⟨ms, before, quoted', between, gap'', rest, name', padded', spelled', spacesBefore,
          named, spacesBetween, spaces'', inner, rfl⟩ := h.ofMembers fails
        refine ⟨m :: ms, before, quoted', between, gap'', rest, name',
          List.forall_mem_cons.mpr ⟨isPadded, padded'⟩,
          List.forall_mem_cons.mpr ⟨spelled, spelled'⟩, spacesBefore, named, spacesBetween,
          spaces'', inner, ?_⟩
        rw [begun', goesOn, List.map_cons, begun_cons]
        simp [m, Member.chars]
      · simp at fails
    · simp at fails
  · simp at fails

lemma IsTight.value_succ {cs : List Char}
    (fails : value room (fuel + 1) cs = .error (.tooDeep bracket)) :
    Overruns room bracket cs := by
  cases cs with
  | nil => simp [value] at fails
  | cons c cs =>
      rw [value_cons] at fails
      split_ifs at fails with quote square curly
      · exact absurd fails (attempt_ne_tooDeep _ bracket)
      · subst square
        cases room with
        | zero =>
            obtain rfl := Unread.tooDeep.inj (Except.error.inj fails)
            exact .square
        | succ room =>
            dsimp only at fails
            split at fails
            · simp at fails
            · obtain ⟨parts, gap, rest, padded, spelled, spaces, inner, rfl⟩ :=
                h.ofItems (eq_error_of_map fails)
              exact .list padded spelled spaces inner
      · subst curly
        cases room with
        | zero =>
            obtain rfl := Unread.tooDeep.inj (Except.error.inj fails)
            exact .curly
        | succ room =>
            dsimp only at fails
            split at fails
            · simp at fails
            · obtain ⟨ms, before, quoted, between, gap, rest, name, padded, spelled, spacesBefore,
                named, spacesBetween, spaces, inner, rfl⟩ := h.ofMembers (eq_error_of_map fails)
              exact .object padded spelled spacesBefore named spacesBetween spaces inner
      · split at fails
        · simp at fails
        · exact absurd fails (attempt_ne_tooDeep _ bracket)

end

/-- Whatever is not read for want of room has no room for a bracket. -/
lemma tight (fuel : Nat) : IsTight fuel := by
  induction fuel with
  | zero =>
      exact ⟨fun fails => by simp [value] at fails, fun fails => by simp [items] at fails,
        fun fails => by simp [members] at fails⟩
  | succ fuel ih => exact ⟨ih.value_succ, ih.items_succ, ih.members_succ⟩

/-! ### Whole texts -/

/-- **Texts that are nested too deeply.**  A whole text is not read for want of room exactly if
there is no room for one of the brackets that it begins with, and it is the first such bracket. -/
theorem wholeText_eq_tooDeep_iff {room : Nat} {bracket : Bracket} {cs : List Char} :
    wholeText room cs = .error (.tooDeep bracket) ↔ OverrunsText room bracket cs := by
  rw [wholeText]
  constructor
  · intro fails
    split at fails
    · split_ifs at fails
      simp at fails
    · rename_i unread
      obtain rfl := Except.error.inj fails
      obtain ⟨gap, spaces, parted⟩ := exists_skipSpace cs
      exact ⟨gap, _, parted, spaces, (tight _).ofValue unread⟩
  · rintro ⟨gap, rest, rfl, spaces, inner⟩
    rw [skipSpace_overruns spaces inner,
      value_of_overruns inner (by rw [List.length_append]; omega)]

/-- The other texts that are not read are malformed. -/
theorem wholeText_eq_malformed_iff {room : Nat} {cs : List Char} :
    wholeText room cs = .error .malformed ↔
      (∀ j, ¬ IsTextOf room cs j) ∧ ∀ bracket, ¬ OverrunsText room bracket cs := by
  simp only [← wholeText_eq_ok_iff, ← wholeText_eq_tooDeep_iff]
  rcases wholeText room cs with (_ | bracket) | j <;> simp

end Reader

/-- A text is not read for want of room exactly if there is no room for it. -/
lemma read_eq_tooDeep_iff {room : Nat} {bracket : Reader.Bracket} {s : String} :
    read room s = .error (.tooDeep bracket) ↔ OverrunsText room bracket s.toList :=
  Reader.wholeText_eq_tooDeep_iff

/-- A bracket before a text takes room away from it. -/
lemma Overruns.bracketed {room : Nat} {bracket : Reader.Bracket} {rest : List Char}
    (inner : Overruns room bracket rest) : Overruns (room + 1) bracket ('[' :: rest) := by
  have first : Overruns (room + 1) bracket
      ('[' :: (begun (([] : List Part).map Part.chars) ++ ([] ++ rest))) :=
    .list (by simp) (by simp) (by simp [IsSpaces]) inner
  exact first

/-- A text of brackets that nothing closes. -/
def openBrackets (n : Nat) : String :=
  String.ofList (List.replicate n '[')

/-- There is no room for more brackets than there is room for. -/
lemma overrunsText_openBrackets {room n : Nat} (more : room < n) :
    OverrunsText room .square (openBrackets n).toList := by
  refine ⟨[], List.replicate n '[', ?_, by simp [IsSpaces], ?_⟩
  · rw [openBrackets, String.toList_ofList, List.nil_append]
  induction room generalizing n with
  | zero =>
      obtain ⟨n, rfl⟩ : ∃ m, n = m + 1 := ⟨n - 1, by omega⟩
      exact .square
  | succ room ih =>
      obtain ⟨n, rfl⟩ : ∃ m, n = m + 1 := ⟨n - 1, by omega⟩
      exact (ih (by omega)).bracketed

end Driftwatch.Json
