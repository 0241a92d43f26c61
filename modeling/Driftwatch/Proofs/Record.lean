/-
What an object records: the fingerprints that it lists, and its phase.

* `Record.add`, `Record.merge`: a record with one more value, or with all values of a batch, if
  there is room for all fingerprints.
* `Slot.Admits`, `Batch.IsPlain`: values that can be recorded one after the other or all at once.
* `Record.merge_add`: a value that arrives in a batch is recorded after those before it.
* `Record.merge_merge`: a batch that is folded in twice is recorded once.
* `Record.of_apply`: what is recorded on an object is what a batch makes of what was recorded.
-/
import Driftwatch.Proofs.Eviction

namespace Driftwatch

/-! ### Values that arrive -/

namespace Batch

lemma mem_arrive {values : List String} {value s : String} :
    s ∈ arrive values value ↔ s ∈ values ∨ s = value := by
  rw [arrive]
  split
  · rename_i listed
    exact ⟨.inl, fun h => h.elim id fun same => same ▸ listed⟩
  · simp

lemma arrive_of_mem {values : List String} {value : String} (h : value ∈ values) :
    arrive values value = values :=
  if_pos h

lemma mem_foldl_arrive {roster values : List String} {s : String} :
    s ∈ values.foldl arrive roster ↔ s ∈ roster ∨ s ∈ values := by
  induction values generalizing roster with
  | nil => simp
  | cons v rest ih => rw [List.foldl_cons, ih, mem_arrive, List.mem_cons, or_assoc]

/-- Values that are listed already change nothing. -/
lemma foldl_arrive_of_subset {roster values : List String} (h : ∀ s ∈ values, s ∈ roster) :
    values.foldl arrive roster = roster := by
  induction values with
  | nil => rfl
  | cons v rest ih =>
      rw [List.foldl_cons, arrive_of_mem (h v (by simp)), ih fun s hs => h s (by simp [hs])]

/-- It is the same if a value arrives among others that are listed then, or afterwards. -/
lemma foldl_arrive (roster values : List String) (value : String) :
    (arrive values value).foldl arrive roster = arrive (values.foldl arrive roster) value := by
  by_cases h : value ∈ values
  · rw [arrive_of_mem h, arrive_of_mem (mem_foldl_arrive.mpr (.inr h))]
  · rw [arrive, if_neg h, List.foldl_append, List.foldl_cons, List.foldl_nil]

lemma length_le_arrive (values : List String) (value : String) :
    values.length ≤ (arrive values value).length := by
  rw [arrive]
  split <;> simp

lemma length_le_foldl_arrive (roster values : List String) :
    roster.length ≤ (values.foldl arrive roster).length := by
  induction values generalizing roster with
  | nil => exact le_rfl
  | cons v rest ih => exact (length_le_arrive roster v).trans (ih _)

end Batch

/-- As long as there is room, fingerprints are appended as they arrive. -/
lemma Merge.fingerprints_eq_foldl_arrive {limit : Int} {roster arrivals : List String}
    (room : ((arrivals.foldl Batch.arrive roster).length : Int) ≤ limit) :
    fingerprints limit roster arrivals = arrivals.foldl Batch.arrive roster := by
  induction arrivals using List.reverseRecOn with
  | nil => rfl
  | append_singleton arrivals s ih =>
      rw [List.foldl_append, List.foldl_cons, List.foldl_nil] at room ⊢
      have fewer := Batch.length_le_arrive (arrivals.foldl Batch.arrive roster) s
      rw [fingerprints, List.foldl_append, List.foldl_cons, List.foldl_nil, ← fingerprints,
        ih (by omega), Roster.append, Batch.arrive]
      split
      · rfl
      · rename_i new
        rw [Batch.arrive, if_neg new] at room
        exact Roster.newest_of_length_le room

/-! ### Phases that follow one another -/

section

variable {early : String}

/-- An initialization among the phases is not taken back. -/
lemma Merge.phase_of_initialized_mem {current : String} {arrivals : List String}
    (h : Vocabulary.initialized ∈ arrivals) : phase current arrivals = Vocabulary.initialized := by
  induction arrivals generalizing current with
  | nil => simp at h
  | cons a rest ih =>
      rw [phase, List.foldl_cons, ← phase]
      by_cases later : Vocabulary.initialized ∈ rest
      · exact ih later
      · obtain rfl : Vocabulary.initialized = a := (List.mem_cons.mp h).resolve_right later
        have recorded : (if current = Vocabulary.initialized then current
            else Vocabulary.initialized) = Vocabulary.initialized := by
          split
          · assumption
          · rfl
        rw [recorded, phase_initialized]

/-- Phases follow on those before. -/
lemma Merge.phase_append (current : String) (arrivals more : List String) :
    phase current (arrivals ++ more) = phase (phase current arrivals) more :=
  List.foldl_append

lemma Merge.phase_singleton (current p : String) :
    phase current [p] = if current = Vocabulary.initialized then current else p := rfl

/-- A phase that was recorded already changes nothing, if there is only one besides the last. -/
lemma Merge.phase_of_mem {current value : String} {arrivals : List String}
    (plain : ∀ p ∈ arrivals, p = early ∨ p = Vocabulary.initialized) (h : value ∈ arrivals) :
    phase (phase current arrivals) [value] = phase current arrivals := by
  rw [phase_singleton]
  split
  · rfl
  · rename_i unfinished
    -- so no phase is the last one, and all of them are the same
    have same : ∀ p ∈ arrivals, p = early := fun p hp => (plain p hp).resolve_right fun last =>
      unfinished (phase_of_initialized_mem (last ▸ hp))
    rcases List.eq_nil_or_concat' arrivals with rfl | ⟨before, p, rfl⟩
    · simp at h
    · rw [phase_append, phase_singleton] at unfinished ⊢
      split at unfinished
      · exact absurd ‹_› unfinished
      · rename_i going
        rw [if_neg going, same value h, same p (by simp)]

/-- Phases that were recorded already change nothing. -/
lemma Merge.phase_of_subset {current : String} {arrivals more : List String}
    (plain : ∀ p ∈ arrivals, p = early ∨ p = Vocabulary.initialized)
    (h : ∀ p ∈ more, p ∈ arrivals) :
    phase (phase current arrivals) more = phase current arrivals := by
  induction more with
  | nil => rfl
  | cons p rest ih =>
      rw [← List.singleton_append, phase_append, phase_of_mem plain (h p (by simp)),
        ih fun p hp => h p (by simp [hp])]

end

/-! ### Records -/

/-- Values that can be recorded one after the other or all at once: fingerprints, and one phase
besides the last. -/
def Slot.Admits (early : String) : Slot → String → Prop
  | .controllers, s => Roster.IsClean s
  | .phase, p => p = early ∨ p = Vocabulary.initialized

/-- All values of a batch can be recorded one after the other or all at once. -/
def Batch.IsPlain (early : String) (b : Batch) : Prop :=
  ∀ slot, ∀ value ∈ b.values slot, Slot.Admits early slot value

/-- What an object records. -/
structure Record where
  roster : List String
  phase : String

namespace Record

variable {early : String}

/-- What an object records. -/
def of (obj : Json) : Record :=
  { roster := Merge.roster obj, phase := Object.annotationText obj Vocabulary.phase }

/-- The record with one more value. -/
def add (r : Record) : Slot → String → Record
  | .controllers, s => { r with roster := Batch.arrive r.roster s }
  | .phase, p => { r with phase := Merge.phase r.phase [p] }

/-- The record with all values of a batch. -/
def merge (r : Record) (b : Batch) : Record :=
  { roster := (b.values .controllers).foldl Batch.arrive r.roster
    phase := Merge.phase r.phase (b.values .phase) }

/-- A value that arrives in a batch is recorded after those before it. -/
lemma merge_add (r : Record) {b : Batch} {slot : Slot} {value : String} (plain : b.IsPlain early) :
    r.merge (b.add slot value) = (r.merge b).add slot value := by
  rw [merge, Batch.values_add, Batch.values_add]
  cases slot with
  | controllers => rw [if_pos rfl, if_neg (by decide), Batch.foldl_arrive]; rfl
  | phase =>
      rw [if_neg (by decide), if_pos rfl, Batch.arrive]
      split
      · rename_i listed
        rw [add, merge, Merge.phase_of_mem (plain .phase) listed]
      · rw [Merge.phase_append]
        rfl

/-- A batch that is folded in twice is recorded once. -/
lemma merge_merge (r : Record) {b : Batch} (plain : b.IsPlain early) :
    (r.merge b).merge b = r.merge b := by
  rw [merge, merge, Merge.phase_of_subset (plain .phase) fun p hp => hp,
    Batch.foldl_arrive_of_subset fun s hs => Batch.mem_foldl_arrive.mpr (.inr hs)]

lemma length_le_add (r : Record) (slot : Slot) (value : String) :
    r.roster.length ≤ (r.add slot value).roster.length := by
  cases slot with
  | controllers => exact Batch.length_le_arrive r.roster value
  | phase => exact le_rfl

lemma length_le_merge (r : Record) (b : Batch) : r.roster.length ≤ (r.merge b).roster.length :=
  Batch.length_le_foldl_arrive r.roster _

end Record

lemma Batch.isPlain_nil (early : String) : Batch.IsPlain early [] :=
  fun _ _ mem => absurd mem List.not_mem_nil

/-- A batch stays plain when a value arrives that can be recorded. -/
lemma Batch.IsPlain.add {early : String} {b : Batch} (h : b.IsPlain early) {slot : Slot}
    {value : String} (admits : Slot.Admits early slot value) :
    (b.add slot value).IsPlain early := by
  intro other v hv
  rw [Batch.values_add] at hv
  split at hv
  · rename_i same
    subst same
    rcases mem_arrive.mp hv with old | rfl
    · exact h other v old
    · exact admits
  · exact h other v hv

/-! ### Folding batches in -/

namespace Merge

/-- Annotations can be written to an object: its metadata is an object, and its annotations are
missing or are an object. -/
structure IsAnnotatable (obj : Json) : Prop where
  metadata : (obj.getOrNull "metadata").isObject = true
  annotations : ∀ a, (obj.getOrNull "metadata").get? "annotations" = some a → a.isObject = true

/-- A value with a field is an object. -/
lemma isObject_of_getOrNull {j : Json} {name : String} (h : (j.getOrNull name).isObject = true) :
    j.isObject = true ∧ j.get? name = some (j.getOrNull name) := by
  rw [Json.getOrNull] at h ⊢
  cases j with
  | object fields =>
      cases found : (Json.object fields).get? name with
      | none => simp [found, Json.isObject] at h
      | some value => exact ⟨rfl, rfl⟩
  | _ => simp [Json.get?, Json.isObject] at h

/-- Annotations can be written to an object whose metadata is an object, and whose annotations are
missing, null, or an object. -/
lemma exists_annotate {obj : Json} (inner : (obj.getOrNull "metadata").isObject = true)
    (shape : ∀ a, (obj.getOrNull "metadata").get? "annotations" = some a →
      a = .null ∨ a.isObject = true) (changes : List (String × String)) :
    ∃ body, annotate obj changes = .ok body := by
  obtain ⟨outer, found⟩ := isObject_of_getOrNull inner
  have metadata : metadataOf obj = .ok (obj.getOrNull "metadata") := by
    rw [metadataOf, if_pos outer, found, Option.getD_some]
    exact if_pos inner
  obtain ⟨fields, texts⟩ : ∃ fields,
      annotationFields (obj.getOrNull "metadata") = .ok fields := by
    rw [annotationFields, Json.getOrNull]
    cases stands : (obj.getOrNull "metadata").get? "annotations" with
    | none => exact ⟨[], rfl⟩
    | some a =>
        rcases shape a stands with rfl | shape
        · exact ⟨[], rfl⟩
        · cases a with
          | object fields => exact ⟨fields, rfl⟩
          | _ => simp [Json.isObject] at shape
  exact ⟨_, by rw [annotate, metadata]; dsimp only; rw [texts]⟩

/-- More annotations can be written where some were. -/
lemma isAnnotatable_of_annotate {obj body : Json} {changes : List (String × String)}
    (h : annotate obj changes = .ok body) : IsAnnotatable body := by
  obtain ⟨metadata, fields, found, -, rfl⟩ := annotate_eq_ok h
  obtain ⟨outer, inner, -⟩ := metadataOf_eq_ok found
  have written : (obj.set "metadata" (metadata.set "annotations"
      (.object (setTexts fields changes)))).getOrNull "metadata" =
      metadata.set "annotations" (.object (setTexts fields changes)) := by
    rw [Json.getOrNull, Json.get?_set outer, if_pos rfl, Option.getD_some]
  refine ⟨?_, fun a stands => ?_⟩
  · rw [written]
    cases metadata with
    | object fields => rfl
    | _ => simp [Json.isObject] at inner
  · rw [written, Json.get?_set inner, if_pos rfl] at stands
    obtain rfl := Option.some.inj stands
    rfl

/-- A new resource version stands in the metadata. -/
lemma getOrNull_withVersion {obj : Json} (inner : (obj.getOrNull "metadata").isObject = true)
    (version : String) : ∃ fields, (Store.withVersion obj version).getOrNull "metadata" =
      .object (Json.setField "resourceVersion" (.text version) fields) := by
  obtain ⟨outer, found⟩ := isObject_of_getOrNull inner
  generalize obj.getOrNull "metadata" = metadata at found inner
  cases metadata with
  | object fields =>
      refine ⟨fields, ?_⟩
      rw [Store.withVersion, found, Json.getOrNull]
      dsimp only
      rw [Json.get?_set outer, if_pos rfl, Option.getD_some]
  | _ => simp [Json.isObject] at inner

/-- Annotations can be written under any resource version. -/
lemma IsAnnotatable.withVersion {obj : Json} (h : IsAnnotatable obj) (version : String) :
    IsAnnotatable (Store.withVersion obj version) where
  metadata := by
    obtain ⟨fields, written⟩ := getOrNull_withVersion h.metadata version
    rw [written]
    rfl
  annotations a stands := by
    rw [get?_metadata_withVersion obj version (by decide)] at stands
    exact h.annotations a stands

/-- A batch that changes nothing leaves the phase as it is. -/
lemma phase_of_skipped {limit : Int} {obj : Json} {batch : Batch}
    (h : apply limit obj batch = .ok none) :
    phase (Object.annotationText obj Vocabulary.phase) (batch.values .phase) =
      Object.annotationText obj Vocabulary.phase := by
  by_contra changed
  have change : phaseChange obj batch ≠ none := by
    simp only [phaseChange, if_neg changed]
    simp
  rw [apply] at h
  split at h
  · rename_i none
    rw [changes, List.append_eq_nil_iff, List.map_eq_nil_iff, List.map_eq_nil_iff,
      Option.toList_eq_nil_iff, Option.toList_eq_nil_iff] at none
    exact change none.2
  · split at h <;> simp at h

end Merge

namespace Record

lemma of_withVersion (obj : Json) (version : String) :
    of (Store.withVersion obj version) = of obj := by
  rw [of, of, Merge.roster, Merge.roster, Merge.annotationText_withVersion,
    Merge.annotationText_withVersion]

/-- **What is recorded.**  If annotations can be written to an object, and if there is room, what is
recorded on it after a batch was folded in is what the batch makes of what was recorded before; and
nothing is to be written only if that is the same. -/
theorem of_apply {early : String} {limit : Int} {obj : Json} {b : Batch}
    (annotatable : Merge.IsAnnotatable obj) (plain : b.IsPlain early)
    (room : (((of obj).merge b).roster.length : Int) ≤ limit) :
    (Merge.apply limit obj b = .ok none ∧ (of obj).merge b = of obj) ∨
      ∃ body, Merge.apply limit obj b = .ok (some body) ∧ of body = (of obj).merge b ∧
        Merge.IsAnnotatable body := by
  have listed : Merge.fingerprints limit (Merge.roster obj) (b.values .controllers) =
      (b.values .controllers).foldl Batch.arrive (Merge.roster obj) :=
    Merge.fingerprints_eq_foldl_arrive room
  cases changed : Merge.changes limit obj b with
  | nil =>
      have skipped : Merge.apply limit obj b = .ok none := by rw [Merge.apply, changed]
      refine .inl ⟨skipped, ?_⟩
      rw [merge, of, ← listed, Merge.fingerprints_of_skipped skipped,
        Merge.phase_of_skipped skipped]
  | cons c rest =>
      obtain ⟨body, written⟩ := Merge.exists_annotate annotatable.metadata
        (fun a stands => .inr (annotatable.annotations a stands)) (c :: rest)
      have folded : Merge.apply limit obj b = .ok (some body) := by
        rw [Merge.apply, changed]
        dsimp only
        rw [written]
      have roster : Merge.roster body = (b.values .controllers).foldl Batch.arrive
          (Merge.roster obj) := (Merge.roster_apply folded (plain .controllers)).trans listed
      refine .inr ⟨body, folded, ?_, Merge.isAnnotatable_of_annotate written⟩
      rw [of, roster, Merge.phase_apply folded]
      rfl

lemma of_folded {early : String} {limit : Int} {obj body : Json} {b : Batch}
    (annotatable : Merge.IsAnnotatable obj) (plain : b.IsPlain early)
    (room : (((of obj).merge b).roster.length : Int) ≤ limit)
    (folded : Merge.apply limit obj b = .ok (some body)) : of body = (of obj).merge b := by
  rcases of_apply annotatable plain room with ⟨skipped, -⟩ | ⟨body', folded', same, -⟩
  · simp [folded] at skipped
  · obtain rfl : body = body' := by simpa [folded] using folded'
    exact same

end Record

end Driftwatch
