/-
Pieces of texts, and white space around texts.

* `Text.pieces_glue`, `Text.split_join`: pieces without the separator are found again in the text
  made of them.
* `Text.join_split`: the pieces of a text give it back.
* `Text.append_cons_inj_left`, `Text.append_cons_inj_right`: a text is cut in one way at its first
  separator, and in one way at its last.
* `Text.trimChars_eq_self_iff`, `Text.trimChars_trimChars`: which texts are trimmed already.
* `Text.trim_eq_iff`: what is left of a text after trimming, by the white space around it.
-/
import Driftwatch.Text.Blank
import Driftwatch.Text.Pieces
import Mathlib.Data.List.DropRight
import Mathlib.Tactic.Lemma

namespace Driftwatch.Text

/-! ### Pieces -/

/-- A text without the separator is one piece. -/
lemma pieces_of_not_mem {sep : Char} {p : List Char} (h : sep ∉ p) : pieces sep p = [p] := by
  induction p with
  | nil => rfl
  | cons c p ih =>
      have hc : c ≠ sep := fun same => h (by simp [same])
      rw [pieces, if_neg hc, ih fun hp => h (by simp [hp])]

/-- A text without the separator is the first piece of what begins with it. -/
lemma pieces_append {sep : Char} {p : List Char} (h : sep ∉ p) (cs : List Char) :
    pieces sep (p ++ sep :: cs) = p :: pieces sep cs := by
  induction p with
  | nil => simp [pieces]
  | cons c p ih =>
      have hc : c ≠ sep := fun same => h (by simp [same])
      rw [List.cons_append, pieces, if_neg hc, ih fun hp => h (by simp [hp])]

/-- Glueing loses nothing: pieces without the separator are found again. -/
lemma pieces_glue {sep : Char} {ps : List (List Char)} (some : ps ≠ [])
    (h : ∀ p ∈ ps, sep ∉ p) : pieces sep (glue sep ps) = ps := by
  induction ps with
  | nil => exact absurd rfl some
  | cons p ps ih =>
      cases ps with
      | nil => exact pieces_of_not_mem (h p (by simp))
      | cons q qs =>
          rw [glue, pieces_append (h p (by simp)), ih (by simp) fun r hr => h r (by simp [hr])]

/-- The strings that were joined are found again. -/
lemma split_join {sep : Char} {ss : List String} (some : ss ≠ [])
    (h : ∀ s ∈ ss, sep ∉ s.toList) : split sep (join sep ss) = ss := by
  have found : pieces sep (glue sep (ss.map String.toList)) = ss.map String.toList :=
    pieces_glue (by simpa using some) (by simpa using h)
  rw [split, join, String.toList_ofList, found, List.map_map]
  simp [Function.comp_def]

/-- The pieces do not hold the separator. -/
lemma not_mem_of_mem_pieces {sep : Char} {cs p : List Char} (h : p ∈ pieces sep cs) :
    sep ∉ p := by
  induction cs generalizing p with
  | nil =>
      rw [pieces, List.mem_singleton] at h
      simp [h]
  | cons c cs ih =>
      rw [pieces] at h
      split at h
      · rcases List.mem_cons.mp h with rfl | h
        · exact List.not_mem_nil
        · exact ih h
      · rename_i hc
        cases found : pieces sep cs with
        | nil => exact absurd found (pieces_ne_nil sep cs)
        | cons q qs =>
            rw [found] at h
            have first : sep ∉ q := ih (by simp [found])
            rcases List.mem_cons.mp h with rfl | h
            · simp [first, Ne.symm hc]
            · exact ih (by simp [found, h])

/-- Splitting loses nothing: the pieces give the text when they are joined. -/
lemma join_split (sep : Char) (s : String) : join sep (split sep s) = s := by
  rw [join, split, List.map_map]
  simp [Function.comp_def, glue_pieces]

lemma not_mem_of_mem_split {sep : Char} {s p : String} (h : p ∈ split sep s) : sep ∉ p.toList := by
  obtain ⟨q, hq, rfl⟩ := List.mem_map.mp h
  rw [String.toList_ofList]
  exact not_mem_of_mem_pieces hq

/-- The characters of the pieces are those of the text. -/
lemma mem_of_mem_pieces {sep c : Char} {cs p : List Char} (hp : p ∈ pieces sep cs) (hc : c ∈ p) :
    c ∈ cs := by
  have glued {ps : List (List Char)} (hp : p ∈ ps) : c ∈ glue sep ps := by
    fun_induction glue sep ps with
    | case1 => simp at hp
    | case2 q =>
        rw [← List.mem_singleton.mp hp]
        exact hc
    | case3 q r ps ih =>
        rcases List.mem_cons.mp hp with rfl | hp
        · exact List.mem_append_left _ hc
        · exact List.mem_append_right _ (List.mem_cons_of_mem _ (ih hp))
  rw [← glue_pieces sep cs]
  exact glued hp

/-- A text is cut in one way at its first separator. -/
lemma append_cons_inj_left {sep : Char} {p q cs ds : List Char} (hp : sep ∉ p) (hq : sep ∉ q)
    (same : p ++ sep :: cs = q ++ sep :: ds) : p = q ∧ cs = ds := by
  have cut := congrArg (pieces sep) same
  rw [pieces_append hp, pieces_append hq] at cut
  obtain ⟨rfl, rest⟩ := List.cons.inj cut
  have glued := congrArg (glue sep) rest
  rw [glue_pieces, glue_pieces] at glued
  exact ⟨rfl, glued⟩

/-- A text is cut in one way at its last separator. -/
lemma append_cons_inj_right {sep : Char} {p q cs ds : List Char} (hcs : sep ∉ cs) (hds : sep ∉ ds)
    (same : p ++ sep :: cs = q ++ sep :: ds) : p = q ∧ cs = ds := by
  have mirrored : cs.reverse ++ sep :: p.reverse = ds.reverse ++ sep :: q.reverse := by
    simpa using congrArg List.reverse same
  obtain ⟨rest, front⟩ := append_cons_inj_left (by simpa using hcs) (by simpa using hds) mirrored
  exact ⟨List.reverse_injective front, List.reverse_injective rest⟩

/-! ### Trimming -/

/-- Trimming drops blanks from the left and then from the right. -/
lemma trimChars_eq (cs : List Char) :
    trimChars cs = (cs.dropWhile isBlank).rdropWhile isBlank :=
  rfl

/-- Trimming drops characters at the ends only. -/
lemma trimChars_sublist (cs : List Char) : (trimChars cs).Sublist cs :=
  (List.rdropWhile_prefix _ _).sublist.trans (List.dropWhile_sublist _)

/-- A text is trimmed if neither its first nor its last character is a blank. -/
lemma trimChars_eq_self_iff {cs : List Char} : trimChars cs = cs ↔
    (∀ c ∈ cs.head?, isBlank c = false) ∧ ∀ c ∈ cs.getLast?, isBlank c = false := by
  have front : cs.dropWhile isBlank = cs ↔ ∀ c ∈ cs.head?, isBlank c = false := by
    cases cs with
    | nil => simp
    | cons c rest => simp [List.dropWhile_eq_self_iff]
  have back : cs.rdropWhile isBlank = cs ↔ ∀ c ∈ cs.getLast?, isBlank c = false := by
    rw [List.rdropWhile_eq_self_iff]
    cases cs using List.reverseRecOn <;> simp
  rw [← front, ← back, trimChars_eq]
  constructor
  · intro trimmed
    -- what is dropped from the left is missing in the end
    have kept : cs.Sublist (cs.dropWhile isBlank) := by
      have shorter := (List.rdropWhile_prefix isBlank (cs.dropWhile isBlank)).sublist
      rwa [trimmed] at shorter
    have left : cs.dropWhile isBlank = cs := (List.dropWhile_sublist _).antisymm kept
    exact ⟨left, by rwa [left] at trimmed⟩
  · rintro ⟨left, right⟩
    rw [left, right]

/-- There is nothing left to trim after trimming. -/
lemma trimChars_trimChars (cs : List Char) : trimChars (trimChars cs) = trimChars cs := by
  have front : (trimChars cs).dropWhile isBlank = trimChars cs := by
    have left : trimChars cs <+: cs.dropWhile isBlank := List.rdropWhile_prefix _ _
    cases trimmed : trimChars cs with
    | nil => rfl
    | cons c rest =>
        -- what is left begins with the character that the blanks in front ended at
        obtain ⟨more, whole⟩ := trimmed ▸ left
        have := List.head?_dropWhile_not isBlank cs
        rw [← whole] at this
        have visible : isBlank c = false := by simpa using this
        rw [List.dropWhile_cons, visible]
        rfl
  rw [trimChars_eq (trimChars cs), front, trimChars_eq, List.rdropWhile_idempotent]

/-- The same for strings. -/
lemma trim_eq_self_iff {s : String} : trim s = s ↔
    (∀ c ∈ s.toList.head?, isBlank c = false) ∧ ∀ c ∈ s.toList.getLast?, isBlank c = false := by
  rw [← trimChars_eq_self_iff, trim, ← String.toList_inj, String.toList_ofList]

/-- White space at the two ends of a text is trimmed. -/
lemma trimChars_pad {front back : List Char} (hf : ∀ c ∈ front, isBlank c)
    (hb : ∀ c ∈ back, isBlank c) (cs : List Char) :
    trimChars (front ++ cs ++ back) = trimChars cs := by
  have back_dropped (ds : List Char) : (ds ++ back).rdropWhile isBlank = ds.rdropWhile isBlank := by
    rw [List.rdropWhile, List.reverse_append,
      List.dropWhile_append_of_pos fun c hc => hb c (List.mem_reverse.mp hc), ← List.rdropWhile]
  rw [trimChars_eq, trimChars_eq, List.append_assoc, List.dropWhile_append_of_pos hf,
    List.dropWhile_append]
  split
  · rename_i blank
    rw [List.isEmpty_iff.mp blank, List.rdropWhile_nil, List.dropWhile_eq_nil_iff.mpr hb,
      List.rdropWhile_nil]
  · exact back_dropped _

/-- A text is what is left after trimming, with white space around it. -/
lemma exists_trimChars_pad (cs : List Char) : ∃ front back : List Char,
    (∀ c ∈ front, isBlank c) ∧ (∀ c ∈ back, isBlank c) ∧ cs = front ++ trimChars cs ++ back := by
  refine ⟨cs.takeWhile isBlank, (cs.dropWhile isBlank).rtakeWhile isBlank,
    fun c hc => List.mem_takeWhile_imp hc, fun c hc => List.mem_rtakeWhile_imp hc, ?_⟩
  rw [trimChars_eq, List.append_assoc, List.rdropWhile_append_rtakeWhile,
    List.takeWhile_append_dropWhile]

lemma isBlankText_iff {s : String} : isBlankText s = true ↔ ∀ c ∈ s.toList, isBlank c = true := by
  rw [isBlankText, List.all_eq_true]

/-- A text that cannot be trimmed is what is left of the texts that have it between white space. -/
lemma trim_eq_iff {s t : String} (trimmed : trim t = t) : trim s = t ↔
    ∃ front back, isBlankText front = true ∧ isBlankText back = true ∧ s = front ++ t ++ back := by
  constructor
  · rintro rfl
    obtain ⟨front, back, hf, hb, padded⟩ := exists_trimChars_pad s.toList
    refine ⟨String.ofList front, String.ofList back, ?_, ?_, ?_⟩
    · simpa [isBlankText_iff] using hf
    · simpa [isBlankText_iff] using hb
    · rw [← String.toList_inj]
      simpa [trim] using padded
  · rintro ⟨front, back, hf, hb, rfl⟩
    rw [isBlankText_iff] at hf hb
    rw [trim, String.toList_append, String.toList_append, trimChars_pad hf hb, ← trim, trimmed]

/-- A blank text has nothing left after trimming. -/
lemma isBlankText_iff_trim_eq {s : String} : isBlankText s = true ↔ trim s = "" := by
  rw [trim_eq_iff rfl]
  constructor
  · intro blank
    exact ⟨s, "", blank, rfl, by simp⟩
  · rintro ⟨front, back, hf, hb, rfl⟩
    rw [isBlankText_iff] at hf hb ⊢
    simpa [or_imp, forall_and] using ⟨hf, hb⟩

end Driftwatch.Text
