/-
What folding a batch into an object changes, and what it leaves.

* `Merge.Keeps`: what others have written to an object stands in another one as well; then both
  have the same place (`Merge.Keeps.target`) and the same key (`Merge.Keeps.keyOf`).
* `Merge.keeps_apply`, `Merge.keeps_withVersion`: folding in a batch and giving a new resource
  version keep it.
* `Merge.phase_apply`, `Merge.roster_apply`: the phase and the roster are what the batch makes of
  those before.
* `Merge.Adds`: a value that an object shows and an earlier one does not; it comes from the
  batch (`Merge.Adds.mem_values`).
-/
import Driftwatch.Ledger.Merge
import Driftwatch.Ledger.Request
import Driftwatch.Proofs.Roster
import Driftwatch.Store

namespace Driftwatch

/-! ### Fields -/

namespace Json

/-- A field of an object that was written reads as what was written, and every other field as
before. -/
lemma get?_set {j : Json} (h : j.isObject = true) (name other : String) (value : Json) :
    (j.set name value).get? other = if name = other then some value else j.get? other := by
  cases j with
  | object fields => exact field?_setField name other value fields
  | _ => simp [isObject] at h

end Json

namespace Object

/-- A field of the metadata of an object; missing metadata has no fields. -/
lemma lookup_metadata (obj : Json) (name : String) :
    lookup obj ["metadata", name] = (obj.getOrNull "metadata").get? name := by
  rw [lookup, Json.getOrNull]
  cases obj.get? "metadata" with
  | none => rfl
  | some metadata =>
      rw [Option.getD_some]
      simp only [lookup]
      cases metadata.get? name <;> rfl

/-- Objects of one place have one key. -/
lemma key_eq_of_target {obj obj' : Json} (h : Target.of obj = Target.of obj') :
    key obj = key obj' := by
  have parts (obj : Json) : key obj =
      (if (Target.of obj).kind.isFalsy then "Object" else (Target.of obj).kind.plain) ++ "/" ++
        (Target.of obj).namespaceName ++ "/" ++ (Target.of obj).name := by
    rw [key, Target.of, Json.getOrNull]
    cases obj.get? "kind" <;> rfl
  rw [parts, parts, h]

end Object

namespace Merge

/-! ### What others have written -/

/-- What others have written to an object stands in the second one as well: all fields but the
metadata, of which all fields but the resource version, and all annotations but the two that are
written from ledgers. -/
structure Keeps (obj obj' : Json) : Prop where
  fields : ∀ name ≠ "metadata", obj'.get? name = obj.get? name
  metadata : ∀ name ≠ "annotations", name ≠ "resourceVersion" →
    (obj'.getOrNull "metadata").get? name = (obj.getOrNull "metadata").get? name
  annotations : ∀ name ≠ Vocabulary.controllers, name ≠ Vocabulary.phase →
    (Object.mapAt obj' ["metadata", "annotations"]).get? name =
      (Object.mapAt obj ["metadata", "annotations"]).get? name

lemma Keeps.trans {obj obj' obj'' : Json} (h : Keeps obj obj') (h' : Keeps obj' obj'') :
    Keeps obj obj'' where
  fields name other := (h'.fields name other).trans (h.fields name other)
  metadata name other version :=
    (h'.metadata name other version).trans (h.metadata name other version)
  annotations name controllers phase :=
    (h'.annotations name controllers phase).trans (h.annotations name controllers phase)

/-- What others have written to the metadata is found as before. -/
lemma Keeps.lookup {obj obj' : Json} (h : Keeps obj obj') (name : String)
    (annotations : name ≠ "annotations") (version : name ≠ "resourceVersion") :
    Object.lookup obj' ["metadata", name] = Object.lookup obj ["metadata", name] := by
  rw [Object.lookup_metadata, Object.lookup_metadata, h.metadata name annotations version]

/-- An object that keeps what others have written stays where it is. -/
lemma Keeps.target {obj obj' : Json} (h : Keeps obj obj') : Target.of obj' = Target.of obj := by
  rw [Target.of, Target.of, Object.name, Object.name, Object.namespaceName, Object.namespaceName,
    h.fields _ (by decide), h.fields _ (by decide)]
  simp only [Object.textAt, h.lookup "name" (by decide) (by decide),
    h.lookup "namespace" (by decide) (by decide)]

/-- It also stays under its key. -/
lemma Keeps.keyOf {obj obj' : Json} (h : Keeps obj obj') :
    Store.keyOf obj' = Store.keyOf obj := by
  rw [Store.keyOf, Store.keyOf]
  simp only [Store.keyPart, h.fields "apiVersion" (by decide), h.fields "kind" (by decide),
    h.metadata "namespace" (by decide) (by decide), h.metadata "name" (by decide) (by decide)]

end Merge

namespace Merge

/-! ### What stays -/

/-- Only objects have metadata, and the metadata is an object: the one that stands there, or one
without fields. -/
lemma metadataOf_eq_ok {obj metadata : Json} (h : metadataOf obj = .ok metadata) :
    obj.isObject = true ∧ metadata.isObject = true ∧
      metadata = (obj.get? "metadata").getD (.object []) := by
  rw [metadataOf] at h
  split at h
  · rename_i outer
    dsimp only at h
    split at h
    · rename_i inner
      obtain rfl := Except.ok.inj h
      exact ⟨outer, inner, rfl⟩
    · simp at h
  · simp at h

/-- The fields of the metadata are those that stand in the object. -/
lemma get?_metadataOf {obj metadata : Json} (h : metadataOf obj = .ok metadata) (name : String) :
    metadata.get? name = (obj.getOrNull "metadata").get? name := by
  rw [(metadataOf_eq_ok h).2.2, Json.getOrNull]
  cases obj.get? "metadata" <;> rfl

/-- Annotating puts the new annotations into the metadata and the metadata into the object. -/
lemma annotate_eq_ok {obj body : Json} {changes : List (String × String)}
    (h : annotate obj changes = .ok body) :
    ∃ metadata fields, metadataOf obj = .ok metadata ∧ annotationFields metadata = .ok fields ∧
      body = obj.set "metadata"
        (metadata.set "annotations" (.object (setTexts fields changes))) := by
  rw [annotate] at h
  split at h
  · simp at h
  · rename_i metadata found
    split at h
    · simp at h
    · rename_i fields texts
      exact ⟨metadata, fields, found, texts, (Except.ok.inj h).symm⟩

/-- All fields of an object stay but its metadata, of which all fields stay but the
annotations. -/
theorem annotate_frame {obj body : Json} {changes : List (String × String)}
    (h : annotate obj changes = .ok body) :
    (∀ name ≠ "metadata", body.get? name = obj.get? name) ∧
      ∀ name ≠ "annotations",
        (body.getOrNull "metadata").get? name = (obj.getOrNull "metadata").get? name := by
  obtain ⟨metadata, fields, found, -, rfl⟩ := annotate_eq_ok h
  obtain ⟨outer, inner, -⟩ := metadataOf_eq_ok found
  have written : (obj.set "metadata" (metadata.set "annotations"
      (.object (setTexts fields changes)))).getOrNull "metadata" =
      metadata.set "annotations" (.object (setTexts fields changes)) := by
    rw [Json.getOrNull, Json.get?_set outer, if_pos rfl, Option.getD_some]
  refine ⟨fun name other => ?_, fun name other => ?_⟩
  · rw [Json.get?_set outer, if_neg (Ne.symm other)]
  · rw [written, Json.get?_set inner, if_neg (Ne.symm other), get?_metadataOf found]

/-- What is folded in is written by annotating. -/
lemma annotate_of_apply {limit : Int} {obj body : Json} {batch : Batch}
    (h : apply limit obj batch = .ok (some body)) :
    annotate obj (changes limit obj batch) = .ok body := by
  rw [apply] at h
  split at h
  · simp at h
  · rename_i cs _
    cases written : annotate obj (changes limit obj batch) with
    | error e => simp_all
    | ok updated => simp_all

/-- What is written has the resource version of the object that the batch was folded into. -/
lemma versionOf_apply {limit : Int} {obj body : Json} {batch : Batch}
    (h : apply limit obj batch = .ok (some body)) :
    Store.versionOf body = Store.versionOf obj := by
  have frame := annotate_frame (annotate_of_apply h)
  rw [Store.versionOf, Json.getOrNull, frame.2 _ (by decide)]
  rfl

/-! ### The annotations -/

/-- The text that fields show under a name. -/
def shown (name : String) (fields : List (String × Json)) : String :=
  match Json.field? name fields with
  | some (.text s) => s
  | _ => ""

/-- A name shows the last of the texts given to it, or what it showed before. -/
lemma shown_setTexts (name : String) (fields : List (String × Json))
    (changes : List (String × String)) : shown name (setTexts fields changes) =
      changes.foldl (fun text c => if c.1 = name then c.2 else text) (shown name fields) := by
  induction changes generalizing fields with
  | nil => rfl
  | cons c rest ih =>
      have first : shown name (Json.setField c.1 (.text c.2) fields) =
          if c.1 = name then c.2 else shown name fields := by
        rw [shown, Json.field?_setField]
        by_cases h : c.1 = name <;> simp [h, shown]
      rw [setTexts, List.foldl_cons, ← setTexts, ih, first, List.foldl_cons]

/-- A name without a new text keeps its value. -/
lemma field?_setTexts_of_ne {name : String} {changes : List (String × String)}
    (h : ∀ c ∈ changes, c.1 ≠ name) (fields : List (String × Json)) :
    Json.field? name (setTexts fields changes) = Json.field? name fields := by
  induction changes generalizing fields with
  | nil => rfl
  | cons c rest ih =>
      rw [setTexts, List.foldl_cons, ← setTexts, ih fun c' hc' => h c' (by simp [hc']),
        Json.field?_setField, if_neg (h c (by simp))]

/-- The annotations before and after annotating. -/
lemma mapAt_annotate {obj body : Json} {changes : List (String × String)}
    (h : annotate obj changes = .ok body) :
    ∃ fields, Object.mapAt obj ["metadata", "annotations"] = .object fields ∧
      Object.mapAt body ["metadata", "annotations"] = .object (setTexts fields changes) := by
  obtain ⟨metadata, fields, found, texts, rfl⟩ := annotate_eq_ok h
  obtain ⟨outer, inner, -⟩ := metadataOf_eq_ok found
  refine ⟨fields, ?_, ?_⟩
  · rw [Object.mapAt, Object.lookup_metadata, ← get?_metadataOf found]
    rw [annotationFields, Json.getOrNull] at texts
    cases stands : metadata.get? "annotations" with
    | none =>
        rw [stands] at texts
        obtain rfl : [] = fields := by simpa [Json.isFalsy] using texts
        rfl
    | some annotations =>
        rw [stands, Option.getD_some] at texts
        cases annotations with
        | object fs =>
            obtain rfl := Except.ok.inj texts
            rfl
        | _ =>
            -- what is no object and not falsy either cannot be annotated
            dsimp only at texts
            split at texts
            · obtain rfl := Except.ok.inj texts
              rfl
            · simp at texts
  · rw [Object.mapAt, Object.lookup_metadata, Json.getOrNull, Json.get?_set outer, if_pos rfl,
      Option.getD_some, Json.get?_set inner, if_pos rfl]

section

variable {limit : Int} {obj body : Json} {batch : Batch}

/-- What an annotation shows after a batch was folded in. -/
lemma annotationText_apply (h : apply limit obj batch = .ok (some body)) (name : String) :
    Object.annotationText body name = (changes limit obj batch).foldl
      (fun text c => if c.1 = name then c.2 else text) (Object.annotationText obj name) := by
  obtain ⟨fields, before, after⟩ := mapAt_annotate (annotate_of_apply h)
  rw [Object.annotationText, Object.annotationText, before, after]
  exact shown_setTexts name fields _

/-- The phase is the one before with those of the batch recorded on top of it. -/
theorem phase_apply (h : apply limit obj batch = .ok (some body)) :
    Object.annotationText body Vocabulary.phase =
      phase (Object.annotationText obj Vocabulary.phase) (batch.values .phase) := by
  have change : ((phaseChange obj batch).getD (Object.annotationText obj Vocabulary.phase)) =
      phase (Object.annotationText obj Vocabulary.phase) (batch.values .phase) := by
    rw [phaseChange]
    split
    · rename_i same
      exact same.symm
    · rfl
  have other : Vocabulary.controllers ≠ Vocabulary.phase := by decide
  rw [annotationText_apply h, ← change, changes]
  cases controllersChange limit obj batch <;> cases phaseChange obj batch <;> simp [other]

/-- The text of the roster is that of the one before with the fingerprints of the batch
appended, unless they change nothing. -/
lemma controllers_apply (h : apply limit obj batch = .ok (some body)) :
    Object.annotationText body Vocabulary.controllers =
      (controllersChange limit obj batch).getD
        (Object.annotationText obj Vocabulary.controllers) := by
  have other : Vocabulary.phase ≠ Vocabulary.controllers := by decide
  rw [annotationText_apply h, changes]
  cases controllersChange limit obj batch <;> cases phaseChange obj batch <;> simp [other]

/-- Folding a batch in keeps what others have written. -/
theorem keeps_apply (h : apply limit obj batch = .ok (some body)) : Keeps obj body := by
  obtain ⟨fields, metadata⟩ := annotate_frame (annotate_of_apply h)
  refine ⟨fields, fun name other _ => metadata name other, fun name controllers phase => ?_⟩
  obtain ⟨texts, before, after⟩ := mapAt_annotate (annotate_of_apply h)
  rw [before, after]
  refine field?_setTexts_of_ne (fun c hc => ?_) texts
  rw [changes, List.mem_append, List.mem_map, List.mem_map] at hc
  rcases hc with ⟨v, -, rfl⟩ | ⟨v, -, rfl⟩
  · exact Ne.symm controllers
  · exact Ne.symm phase

/-! ### What a batch adds -/

/-- The fingerprints of a roster after a batch come from the roster or from the batch. -/
lemma mem_fingerprints {roster arrivals : List String} {s : String}
    (h : s ∈ fingerprints limit roster arrivals) :
    s ∈ roster ∨ s ∈ arrivals ∧ 1 ≤ limit := by
  induction arrivals generalizing roster with
  | nil => exact .inl h
  | cons a rest ih =>
      rcases ih h with earlier | ⟨later, room⟩
      · rcases Roster.mem_append earlier with old | ⟨rfl, room⟩
        · exact .inl old
        · exact .inr ⟨by simp, room⟩
      · exact .inr ⟨by simp [later], room⟩

/-- No batch takes an initialization back. -/
lemma phase_initialized (arrivals : List String) :
    phase Vocabulary.initialized arrivals = Vocabulary.initialized := by
  induction arrivals with
  | nil => rfl
  | cons a rest ih => rw [phase, List.foldl_cons, if_pos rfl, ← phase, ih]

/-- The phase after a batch is the one before or one of the batch. -/
lemma phase_eq_or_mem (current : String) (arrivals : List String) :
    phase current arrivals = current ∨ phase current arrivals ∈ arrivals := by
  induction arrivals generalizing current with
  | nil => exact .inl rfl
  | cons a rest ih =>
      rw [phase, List.foldl_cons, ← phase]
      split
      · exact (ih current).imp id fun later => by simp [later]
      · rcases ih a with same | later
        · exact .inr (by simp [same])
        · exact .inr (by simp [later])

/-- The roster is the one before with the fingerprints of the batch appended. -/
theorem roster_apply (h : apply limit obj batch = .ok (some body))
    (clean : ∀ s ∈ batch.values .controllers, Roster.IsClean s) :
    Roster.parse (Object.annotationText body Vocabulary.controllers) =
      fingerprints limit (Roster.parse (Object.annotationText obj Vocabulary.controllers))
        (batch.values .controllers) := by
  rw [controllers_apply h, controllersChange]
  split
  · rename_i same
    exact same.symm
  · refine Roster.parse_join fun s hs => ?_
    rcases mem_fingerprints hs with old | ⟨new, -⟩
    · exact Roster.isClean_of_mem_parse old
    · exact clean s new

/-- An object shows a value that it did not show before. -/
def Adds (before after : Json) (value : String) : Slot → Prop
  | .controllers =>
    value ∈ Roster.parse (Object.annotationText after Vocabulary.controllers) ∧
      value ∉ Roster.parse (Object.annotationText before Vocabulary.controllers)
  | .phase =>
    Object.annotationText after Vocabulary.phase = value ∧
      Object.annotationText before Vocabulary.phase ≠ value

/-- Room for a value of an annotation: rosters may be bounded by nothing at all. -/
def HasRoom (limit : Int) : Slot → Prop
  | .controllers => 1 ≤ limit
  | .phase => True

/-- What is added comes from the batch, and there was room for it. -/
theorem Adds.mem_values {slot : Slot} {value : String} (adds : Adds obj body value slot)
    (h : apply limit obj batch = .ok (some body))
    (clean : ∀ s ∈ batch.values .controllers, Roster.IsClean s) :
    value ∈ batch.values slot ∧ HasRoom limit slot := by
  cases slot with
  | controllers =>
      obtain ⟨now, before⟩ := adds
      rw [roster_apply h clean] at now
      exact (mem_fingerprints now).resolve_left before
  | phase =>
      obtain ⟨rfl, before⟩ := adds
      rw [phase_apply h] at before ⊢
      exact ⟨(phase_eq_or_mem _ _).resolve_left (Ne.symm before), trivial⟩

end

/-! ### Resource versions -/

/-- A new resource version changes nothing in the metadata but itself. -/
lemma get?_metadata_withVersion (obj : Json) (version : String) {name : String}
    (other : name ≠ "resourceVersion") :
    ((Store.withVersion obj version).getOrNull "metadata").get? name =
      (obj.getOrNull "metadata").get? name := by
  rw [Store.withVersion]
  split
  · rename_i fields found
    have outer : obj.isObject = true := by
      cases obj with
      | object _ => rfl
      | _ => simp [Json.get?] at found
    rw [Json.getOrNull, Json.get?_set outer, if_pos rfl, Json.getOrNull, found]
    exact (Json.field?_setField _ _ _ _).trans (if_neg (Ne.symm other))
  · rfl

/-- A new resource version changes no annotation. -/
lemma mapAt_withVersion (obj : Json) (version : String) :
    Object.mapAt (Store.withVersion obj version) ["metadata", "annotations"] =
      Object.mapAt obj ["metadata", "annotations"] := by
  rw [Object.mapAt, Object.mapAt, Object.lookup_metadata, Object.lookup_metadata,
    get?_metadata_withVersion obj version (by decide)]

/-- What an annotation shows under a new resource version. -/
lemma annotationText_withVersion (obj : Json) (version name : String) :
    Object.annotationText (Store.withVersion obj version) name =
      Object.annotationText obj name := by
  rw [Object.annotationText, Object.annotationText, mapAt_withVersion]

/-- A new resource version keeps what others have written. -/
lemma keeps_withVersion (obj : Json) (version : String) :
    Keeps obj (Store.withVersion obj version) where
  fields name other := by
    rw [Store.withVersion]
    split
    · rename_i found
      cases obj with
      | object _ => rw [Json.get?_set rfl, if_neg (Ne.symm other)]
      | _ => simp [Json.get?] at found
    · rfl
  metadata _ _ version' := get?_metadata_withVersion obj version version'
  annotations _ _ _ := by rw [mapAt_withVersion]

end Merge

end Driftwatch
