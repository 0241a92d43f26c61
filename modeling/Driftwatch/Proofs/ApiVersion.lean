/-
Well-formed API versions.

* `ApiVersion.IsWellFormed`: a version, or a group and a version with a slash between them.
* `ApiVersion.exists_parse_iff`: of the texts that are not empty, exactly these can be read.
* `ApiVersion.IsSplit`: a group and a version without slashes that give a text when they are put
  together; the version may be missing only from the empty text.
* `ApiVersion.split_text_eq_ok_iff`: a text is split into what it is put together from.
* `ApiVersion.exists_split_text_iff`, `ApiVersion.split_text_inj`: which texts can be split, and
  that no two of them are split into the same.
* `ApiVersion.isWellFormed_iff`: all of these but the empty one are well-formed.
-/
import Driftwatch.ApiVersion
import Driftwatch.Proofs.Text.Pieces

namespace Driftwatch.ApiVersion

/-! ### Well-formed texts -/

/-- A version, or a group and a version with a slash between them; the parts are not empty and
hold no slash themselves. -/
inductive IsWellFormed : String → Prop
  | core {version : String} (some : version ≠ "") (plain : '/' ∉ version.toList) :
      IsWellFormed version
  | grouped {group version : String} (someGroup : group ≠ "") (plainGroup : '/' ∉ group.toList)
      (someVersion : version ≠ "") (plainVersion : '/' ∉ version.toList) :
      IsWellFormed (group ++ "/" ++ version)

/-- A text without a slash is one piece, which is the version. -/
lemma parse_core {version : String} (plain : '/' ∉ version.toList) :
    parse version = .ok (core version) := by
  rw [parse, Text.pieces_of_not_mem plain]
  simp

/-- A text with one slash is two pieces, which are the group and the version. -/
lemma parse_grouped {group version : String} (someGroup : group ≠ "")
    (plainGroup : '/' ∉ group.toList) (someVersion : version ≠ "")
    (plainVersion : '/' ∉ version.toList) :
    parse (group ++ "/" ++ version) = .ok { group, version } := by
  have pieces : Text.pieces '/' (group ++ "/" ++ version).toList =
      [group.toList, version.toList] := by
    have slash : (group ++ "/" ++ version).toList = group.toList ++ '/' :: version.toList := by
      simp
    rw [slash, Text.pieces_append plainGroup, Text.pieces_of_not_mem plainVersion]
  rw [parse, pieces]
  simp [someGroup, someVersion]

/-- What can be read is empty or well-formed. -/
lemma isWellFormed_of_parse {s : String} {v : ApiVersion} (some : s ≠ "")
    (h : parse s = .ok v) : IsWellFormed s := by
  have glued := Text.glue_pieces '/' s.toList
  have plain : ∀ p ∈ Text.pieces '/' s.toList, '/' ∉ (String.ofList p).toList := by
    intro p hp
    rw [String.toList_ofList]
    exact Text.not_mem_of_mem_pieces hp
  rw [parse] at h
  split at h
  · rename_i version found
    rw [found] at glued plain
    obtain rfl : String.ofList version = s := by
      rw [← String.toList_inj, ← glued, Text.glue, String.toList_ofList]
    exact .core some (plain version (by simp))
  · rename_i group version found
    rw [found] at glued plain
    split at h
    · simp at h
    · rename_i both
      rw [not_or] at both
      obtain rfl : String.ofList group ++ "/" ++ String.ofList version = s := by
        rw [← String.toList_inj, ← glued]
        simp [Text.glue]
      refine .grouped ?_ (plain group (by simp)) ?_ (plain version (by simp))
      · simpa using both.1
      · simpa using both.2
  · simp at h

/-- Of the texts that are not empty, the well-formed ones can be read, and no others. -/
theorem exists_parse_iff {s : String} (some : s ≠ "") :
    (∃ v, parse s = .ok v) ↔ IsWellFormed s := by
  constructor
  · rintro ⟨v, h⟩
    exact isWellFormed_of_parse some h
  · rintro (⟨-, plain⟩ | ⟨someGroup, plainGroup, someVersion, plainVersion⟩)
    · exact ⟨_, parse_core plain⟩
    · exact ⟨_, parse_grouped someGroup plainGroup someVersion plainVersion⟩

/-- A well-formed API version is not empty. -/
lemma IsWellFormed.ne_empty {s : String} (h : IsWellFormed s) : s ≠ "" := by
  cases h with
  | core some plain => exact some
  | grouped someGroup plainGroup someVersion plainVersion => simp

/-! ### Groups and versions -/

variable {s group version : String}

/-- The group and the version that a text is put together from. -/
structure IsSplit (s group version : String) : Prop where
  plainGroup : '/' ∉ group.toList
  plainVersion : '/' ∉ version.toList
  some : s ≠ "" → version ≠ ""
  glued : s = if group = "" then version else group ++ "/" ++ version

/-- A text is split as it is read. -/
lemma split_text (s : String) :
    split (.text s) = (parse s).map fun v => (v.group, .text v.version) := by
  rw [split]
  by_cases empty : s = ""
  · subst empty
    rfl
  · rw [if_neg (by simpa [Json.isFalsy] using empty)]

/-- What is put together from a group and a version is read as them. -/
lemma parse_of_isSplit (h : IsSplit s group version) : parse s = .ok { group, version } := by
  have glued := h.glued
  by_cases none : group = ""
  · rw [if_pos none] at glued
    rw [glued, parse_core h.plainVersion, core, none]
  · rw [if_neg none] at glued
    have some : s ≠ "" := by
      rw [glued]
      simp
    rw [glued, parse_grouped none h.plainGroup (h.some some) h.plainVersion]

/-- What is read from a text is what it is put together from. -/
lemma isSplit_of_parse {v : ApiVersion} (h : parse s = .ok v) : IsSplit s v.group v.version := by
  by_cases empty : s = ""
  · subst empty
    obtain rfl : core "" = v := Except.ok.inj h
    exact ⟨by simp [core], by simp [core], fun some => absurd rfl some, rfl⟩
  · cases isWellFormed_of_parse empty h with
    | core some plain =>
        rw [parse_core plain] at h
        obtain rfl := Except.ok.inj h
        exact ⟨by simp [core], plain, fun _ => some, rfl⟩
    | grouped someGroup plainGroup someVersion plainVersion =>
        rw [parse_grouped someGroup plainGroup someVersion plainVersion] at h
        obtain rfl := Except.ok.inj h
        exact ⟨plainGroup, plainVersion, fun _ => someVersion, (if_neg someGroup).symm⟩

/-- A text is split into what it is put together from. -/
lemma split_text_eq_ok_iff {value : Json} : split (.text s) = .ok (group, value) ↔
    ∃ version, value = .text version ∧ IsSplit s group version := by
  rw [split_text]
  constructor
  · intro h
    cases parsed : parse s with
    | error e => simp [parsed, Except.map] at h
    | ok v =>
        simp only [parsed, Except.map, Except.ok.injEq, Prod.mk.injEq] at h
        obtain ⟨rfl, rfl⟩ := h
        exact ⟨v.version, rfl, isSplit_of_parse parsed⟩
  · rintro ⟨version, rfl, h⟩
    rw [parse_of_isSplit h]
    rfl

/-- Two texts that are split into the same are the same. -/
lemma split_text_inj {t : String} {p : String × Json} (hs : split (.text s) = .ok p)
    (ht : split (.text t) = .ok p) : s = t := by
  obtain ⟨version, value, hs⟩ := split_text_eq_ok_iff.mp hs
  obtain ⟨version', value', ht⟩ := split_text_eq_ok_iff.mp ht
  obtain rfl : version = version' := by simpa using value.symm.trans value'
  rw [hs.glued, ht.glued]

/-- A text can be split if it is empty, or has no slash, or has one slash with something on either
side of it. -/
lemma exists_split_text_iff : (∃ p, split (.text s) = .ok p) ↔
    s = "" ∨ '/' ∉ s.toList ∨ ∃ group version : String, group ≠ "" ∧ '/' ∉ group.toList ∧
      version ≠ "" ∧ '/' ∉ version.toList ∧ s = group ++ "/" ++ version := by
  constructor
  · rintro ⟨⟨group, value⟩, h⟩
    obtain ⟨version, -, h⟩ := split_text_eq_ok_iff.mp h
    have glued := h.glued
    by_cases none : group = ""
    · rw [if_pos none] at glued
      exact .inr (.inl (glued ▸ h.plainVersion))
    · rw [if_neg none] at glued
      have some : s ≠ "" := by
        rw [glued]
        simp
      exact .inr (.inr ⟨group, version, none, h.plainGroup, h.some some, h.plainVersion, glued⟩)
  · rintro (rfl | plain | ⟨group, version, someGroup, plainGroup, someVersion, plainVersion, rfl⟩)
    · exact ⟨_, rfl⟩
    · exact ⟨_, by rw [split_text, parse_core plain]; rfl⟩
    · exact ⟨_, by
        rw [split_text, parse_grouped someGroup plainGroup someVersion plainVersion]; rfl⟩

/-- The well-formed texts are those that can be split and are not empty. -/
lemma isWellFormed_iff : IsWellFormed s ↔ s ≠ "" ∧ ∃ p, split (.text s) = .ok p := by
  have read : (∃ p, split (.text s) = .ok p) ↔ ∃ v, parse s = .ok v := by
    rw [split_text]
    cases parse s <;> simp [Except.map]
  constructor
  · intro h
    exact ⟨h.ne_empty, read.mpr ((exists_parse_iff h.ne_empty).mpr h)⟩
  · rintro ⟨some, split⟩
    exact (exists_parse_iff some).mp (read.mp split)

/-- What cannot be read is reported as it is. -/
lemma parse_error {e : Failure} (h : parse s = .error e) : e = .malformedApiVersion (.text s) := by
  rw [parse] at h
  split at h
  · cases h
  · split_ifs at h
    · exact (Except.error.inj h).symm
  · exact (Except.error.inj h).symm

end Driftwatch.ApiVersion
