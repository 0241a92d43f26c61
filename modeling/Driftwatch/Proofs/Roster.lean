/-
Rosters and their texts.

* `Roster.IsClean`: a text that can stand in a roster: not empty, without commas, and without
  white space at its ends.
* `Roster.parse_join`: a roster of clean texts is read back from its text.
* `Roster.mem_append`, `Roster.parse_join_append`: so is one that a clean text was appended to.
* `Fingerprint.isClean_ofIdentity`: fingerprints are clean.
* `Roster.parse_join_parse`: what is read from a text, whatever it is, is clean and read back.
-/
import Driftwatch.Fingerprint.Roster
import Driftwatch.Proofs.Fingerprint
import Driftwatch.Proofs.Text.Pieces

namespace Driftwatch

/-! ### Rosters -/

namespace Roster

/-- A text that can stand in a roster. -/
structure IsClean (s : String) : Prop where
  ne_empty : s ≠ ""
  no_comma : ',' ∉ s.toList
  trimmed : Text.trim s = s

instance : DecidablePred IsClean := fun s =>
  decidable_of_iff (s ≠ "" ∧ ',' ∉ s.toList ∧ Text.trim s = s)
    ⟨fun ⟨ne_empty, no_comma, trimmed⟩ => ⟨ne_empty, no_comma, trimmed⟩,
      fun h => ⟨h.ne_empty, h.no_comma, h.trimmed⟩⟩

/-- A text is clean if it is not empty, holds no comma, and neither begins nor ends with white
space. -/
lemma isClean_iff {s : String} : IsClean s ↔ s ≠ "" ∧ ',' ∉ s.toList ∧
    (∀ c ∈ s.toList.head?, Text.isBlank c = false) ∧
      ∀ c ∈ s.toList.getLast?, Text.isBlank c = false := by
  rw [← Text.trim_eq_self_iff]
  exact ⟨fun h => ⟨h.ne_empty, h.no_comma, h.trimmed⟩,
    fun ⟨ne_empty, no_comma, trimmed⟩ => ⟨ne_empty, no_comma, trimmed⟩⟩

/-- A roster of clean texts is read back from its text. -/
theorem parse_join {roster : List String} (h : ∀ s ∈ roster, IsClean s) :
    parse (join roster) = roster := by
  cases roster with
  | nil => decide
  | cons s rest =>
      rw [parse, join, Text.split_join (by simp) fun s hs => (h s hs).no_comma]
      have trimmed : (s :: rest).map Text.trim = s :: rest := by
        rw [List.map_congr_left fun s hs => (h s hs).trimmed, List.map_id']
      rw [trimmed, List.filter_eq_self]
      exact fun s hs => decide_eq_true (h s hs).ne_empty

/-- What is read from a text is clean. -/
theorem isClean_of_mem_parse {text s : String} (h : s ∈ parse text) : IsClean s := by
  obtain ⟨pieced, visible⟩ := List.mem_filter.mp h
  obtain ⟨piece, found, rfl⟩ := List.mem_map.mp pieced
  refine ⟨of_decide_eq_true visible, fun comma => ?_, ?_⟩
  · rw [Text.trim, String.toList_ofList] at comma
    exact Text.not_mem_of_mem_split found ((Text.trimChars_sublist _).mem comma)
  · simp [Text.trim, Text.trimChars_trimChars]

/-- What is appended to a roster is new in it, if there is room for anything at all. -/
lemma mem_append {limit : Int} {roster : List String} {fingerprint s : String}
    (h : s ∈ append limit roster fingerprint) : s ∈ roster ∨ s = fingerprint ∧ 1 ≤ limit := by
  rw [append] at h
  split at h
  · exact .inl h
  · have room : 1 ≤ limit := by
      by_contra none
      rw [newest, List.drop_of_length_le (by simp; omega)] at h
      simp at h
    rcases List.mem_append.mp (List.mem_of_mem_drop h) with old | new
    · exact .inl old
    · exact .inr ⟨List.mem_singleton.mp new, room⟩

/-- A clean text that is appended to what was read from a text is read back. -/
lemma parse_join_append {fingerprint : String} (clean : IsClean fingerprint) (limit : Int)
    (text : String) : parse (join (append limit (parse text) fingerprint)) =
      append limit (parse text) fingerprint := by
  refine parse_join fun s hs => ?_
  rcases mem_append hs with old | ⟨rfl, -⟩
  · exact isClean_of_mem_parse old
  · exact clean

end Roster

/-! ### Fingerprints -/

/-- The characters of the digits are no commas and no white space. -/
lemma Base36.digitChar_plain :
    ∀ d < 36, digitChar d ≠ ',' ∧ Text.isBlank (digitChar d) = false := by
  decide

namespace Fingerprint

/-- The characters of a fingerprint are no commas and no white space. -/
lemma plain_of_mem_ofNumber {n : Nat} {c : Char} (h : c ∈ ofNumber n) :
    c ≠ ',' ∧ Text.isBlank c = false := by
  rw [ofNumber_eq_map] at h
  obtain ⟨d, hd, rfl⟩ := List.mem_map.mp h
  exact Base36.digitChar_plain d (lt_of_mem_leadingDigits hd)

/-- Fingerprints can stand in rosters. -/
theorem isClean_ofIdentity (identity : String) : Roster.IsClean (ofIdentity identity) := by
  rw [Roster.isClean_iff, toList_ofIdentity]
  refine ⟨fun empty => ?_, fun comma => (plain_of_mem_ofNumber comma).1 rfl,
    fun c hc => (plain_of_mem_ofNumber (List.mem_of_mem_head? hc)).2,
    fun c hc => (plain_of_mem_ofNumber (List.mem_of_mem_getLast? hc)).2⟩
  have length := length_ofNumber (seed identity)
  rw [← toList_ofIdentity, empty] at length
  exact absurd length (by decide)

end Fingerprint

namespace Roster

/-! ### Annotations -/

/-- **Rosters are read back.**  What is read from the text of an annotation, whatever it is, stays
the same when it is written and read again.  It is clean: not empty, without a comma, and without
white space at its ends.  The rosters of clean texts are just those that are read back as they were
written.  Fingerprints are clean, so a roster that was read, extended by a fingerprint within some
limit and written is read again as the extended one. -/
theorem parse_join_parse (text : String) :
    (∀ s, IsClean s ↔ s ≠ "" ∧ ',' ∉ s.toList ∧
      (∀ c ∈ s.toList.head?, Text.isBlank c = false) ∧
        ∀ c ∈ s.toList.getLast?, Text.isBlank c = false) ∧
    (∀ s ∈ parse text, IsClean s) ∧ parse (join (parse text)) = parse text ∧
    (∀ roster, parse (join roster) = roster ↔ ∀ s ∈ roster, IsClean s) ∧
    ∀ identity, IsClean (Fingerprint.ofIdentity identity) ∧ ∀ limit,
      parse (join (append limit (parse text) (Fingerprint.ofIdentity identity))) =
        append limit (parse text) (Fingerprint.ofIdentity identity) := by
  have clean : ∀ s ∈ parse text, IsClean s := fun s => isClean_of_mem_parse
  refine ⟨fun s => isClean_iff, clean, parse_join clean, fun roster => ⟨fun same s hs => ?_,
    parse_join⟩, fun identity => ?_⟩
  · rw [← same] at hs
    exact isClean_of_mem_parse hs
  · have fingerprint := Fingerprint.isClean_ofIdentity identity
    exact ⟨fingerprint, fun limit => parse_join_append fingerprint limit text⟩

/-- Stray commas and ideographic spaces around two texts, one of which has a blank inside. -/
theorem parse_join_parse_scattered :
    parse ",\u3000ab c,, \tde\u3000," = ["ab c", "de"] ∧ IsClean "ab c" ∧
      parse (join ["ab c", "de"]) = ["ab c", "de"] ∧ ¬ parse (join [" de"]) = [" de"] ∧
      parse (join ["de", Fingerprint.ofIdentity "alice"]) =
        ["de", Fingerprint.ofIdentity "alice"] := by
  have read : parse ",\u3000ab c,, \tde\u3000," = ["ab c", "de"] := by decide +kernel
  have added : append 2 ["ab c", "de"] (Fingerprint.ofIdentity "alice") =
      ["de", Fingerprint.ofIdentity "alice"] := by decide +kernel
  obtain ⟨-, clean, again, exact, extended⟩ :=
    parse_join_parse ",\u3000ab c,, \tde\u3000,"
  rw [read] at clean again extended
  have last := (extended "alice").2 2
  rw [added] at last
  refine ⟨read, clean "ab c" (by simp), again, fun kept => ?_, last⟩
  exact absurd ((exact [" de"]).mp kept " de" (by simp)) (by decide)

end Roster

end Driftwatch
