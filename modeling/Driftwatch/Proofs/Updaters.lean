/-
The updaters of a child over its history.

* `Object.withAnnotations`: an object that has texts for its annotations, and no others.
* `Child.update`, `Child.history`: a child whose updates are recorded one after the other: each time
  the annotations of the response become its own.
* `Child.updaters_update`: an update appends the fingerprint of its actor to the roster.
* `Child.get?_update`: it keeps all other texts.
* `Child.updaters_of_history`: what is listed after any number of updates, and what one more does.
-/
import Driftwatch.Proofs.Traffic.Coalescing
import Driftwatch.Proofs.Traffic.Rosters
import Mathlib.Data.Finset.Dedup

namespace Driftwatch

/-! ### Annotations -/

/-- An annotation that was given a value has it, and all others are as before. -/
lemma lookup_giveText (name other value : String) (texts : List (String × String)) :
    (giveText name value texts).lookup other =
      if other = name then some value else texts.lookup other := by
  induction texts with
  | nil =>
      by_cases h : other = name
      · simp [giveText, h]
      · simp [giveText, List.lookup_cons, h, beq_eq_false_iff_ne.mpr h]
  | cons t rest ih =>
      obtain ⟨k, v⟩ := t
      rw [giveText]
      by_cases hk : k = name
      · subst hk
        by_cases h : other = k
        · simp [h]
        · simp [List.lookup_cons, h, beq_eq_false_iff_ne.mpr h]
      · rw [if_neg hk]
        by_cases h : other = k
        · subst h
          simp [hk]
        · simp [List.lookup_cons, beq_eq_false_iff_ne.mpr h, ih]

namespace Object

/-- A text is looked for behind a field of another name. -/
lemma lookup_textField_of_ne {name other : String} (h : name ≠ other) (value : Json)
    (fields : List (String × Json)) :
    (((other, value) :: fields).filterMap textField).lookup name =
      (fields.filterMap textField).lookup name := by
  rw [List.filterMap_cons]
  cases value with
  | text s => simp [textField, List.lookup_cons, beq_eq_false_iff_ne.mpr h]
  | _ => rfl

/-- A field with a text is found among the texts. -/
lemma lookup_textField {name text : String} {fields : List (String × Json)}
    (h : Json.field? name fields = some (.text text)) :
    (fields.filterMap textField).lookup name = some text := by
  induction fields with
  | nil => simp [Json.field?] at h
  | cons p rest ih =>
      obtain ⟨k, v⟩ := p
      rw [Json.field?] at h
      split at h
      · rename_i here
        obtain rfl := Option.some.inj h
        simp [textField, here]
      · rename_i other
        rw [lookup_textField_of_ne (Ne.symm other), ih h]

/-- A text is found under its name among fields that have nothing but texts. -/
lemma field?_map_text (name : String) (texts : List (String × String)) :
    Json.field? name (texts.map fun t => (t.1, .text t.2)) = (texts.lookup name).map .text := by
  induction texts with
  | nil => rfl
  | cons t rest ih =>
      obtain ⟨k, text⟩ := t
      rw [List.map_cons, Json.field?]
      by_cases here : k = name
      · simp [here]
      · simp [here, List.lookup_cons, beq_eq_false_iff_ne.mpr (Ne.symm here), ih]

/-- An object that has texts for its annotations, and no others. -/
def withAnnotations (obj : Json) (texts : List (String × String)) : Json :=
  obj.set "metadata" ((obj.getOrNull "metadata").set "annotations"
    (.object (texts.map fun t => (t.1, .text t.2))))

variable {obj : Json}

lemma getOrNull_withAnnotations (h : (obj.getOrNull "metadata").isObject = true)
    (texts : List (String × String)) :
    (withAnnotations obj texts).getOrNull "metadata" = (obj.getOrNull "metadata").set "annotations"
      (.object (texts.map fun t => (t.1, .text t.2))) := by
  rw [withAnnotations, Json.getOrNull, Json.get?_set (Merge.isObject_of_getOrNull h).1, if_pos rfl,
    Option.getD_some]

/-- The annotations are the texts that were given. -/
lemma mapAt_withAnnotations (h : (obj.getOrNull "metadata").isObject = true)
    (texts : List (String × String)) :
    mapAt (withAnnotations obj texts) ["metadata", "annotations"] =
      .object (texts.map fun t => (t.1, .text t.2)) := by
  rw [mapAt, lookup_metadata, getOrNull_withAnnotations h, Json.get?_set h, if_pos rfl]

/-- More annotations can be written where these were. -/
lemma isAnnotatable_withAnnotations (h : (obj.getOrNull "metadata").isObject = true)
    (texts : List (String × String)) : Merge.IsAnnotatable (withAnnotations obj texts) := by
  refine ⟨?_, fun a stands => ?_⟩
  · rw [getOrNull_withAnnotations h]
    generalize obj.getOrNull "metadata" = metadata at h ⊢
    cases metadata with
    | object fields => rfl
    | _ => simp [Json.isObject] at h
  · rw [getOrNull_withAnnotations h, Json.get?_set h, if_pos rfl] at stands
    obtain rfl := Option.some.inj stands
    rfl

end Object

/-! ### Rosters that one fingerprint is appended to -/

namespace Roster

variable {limit : Int} {roster : List String} {s : String}

/-- A fingerprint that was appended is listed, if there is room for anything at all. -/
lemma mem_append_self (room : 1 ≤ limit) (roster : List String) (s : String) :
    s ∈ append limit roster s := by
  rw [append]
  split
  · assumption
  · rw [newest, List.drop_append_of_le_length]
    · simp
    · rw [List.length_append, List.length_singleton]
      omega

/-- A full roster loses its first fingerprint when a new one is appended. -/
lemma append_of_full (room : 1 ≤ limit) (full : (roster.length : Int) = limit) (new : s ∉ roster) :
    append limit roster s = roster.tail ++ [s] := by
  cases roster with
  | nil =>
      rw [List.length_nil] at full
      omega
  | cons first rest =>
      have one : (((first :: rest ++ [s]).length : Int) - limit).toNat = 1 := by
        rw [List.length_append, List.length_singleton]
        omega
      rw [append, if_neg new, newest, one]
      rfl

end Roster

/-- Values that arrive after a list without repetitions make it as long as there are different
values. -/
lemma Batch.length_foldl_arrive {roster : List String} (unique : roster.Nodup)
    (values : List String) :
    (values.foldl arrive roster).length = (roster ++ values).toFinset.card := by
  have nodup : (values.foldl arrive roster).Nodup := by
    rw [Traffic.foldl_arrive_eq_append]
    refine unique.append ((Traffic.nodup_eraseDups values).filter _) fun s listed new => ?_
    exact absurd listed (of_decide_eq_true (List.mem_filter.mp new).2)
  have same : (values.foldl arrive roster).toFinset = (roster ++ values).toFinset := by
    ext s
    rw [List.mem_toFinset, List.mem_toFinset, mem_foldl_arrive, List.mem_append]
  rw [← List.toFinset_card_of_nodup nodup, same]

/-! ### Histories -/

namespace Child

/-- A child that an actor has changed: the annotations of the response are its own then. -/
def update (limit : Int) (child : Json) (actor : String) : Json :=
  Object.withAnnotations child (annotationsOfUpdate child limit actor)

/-- A child that actors have changed, one after the other. -/
def history (limit : Int) (child : Json) (actors : List String) : Json :=
  actors.foldl (update limit) child

variable {limit : Int} {child : Json}

/-- **Updates, one step**: the fingerprint of the actor is appended to the roster. -/
lemma updaters_update (annotatable : Merge.IsAnnotatable child) (limit : Int) (actor : String) :
    updaters (update limit child actor) =
      Roster.append limit (updaters child) (Fingerprint.ofIdentity actor) := by
  have text : Object.annotationText (update limit child actor) Vocabulary.updaters =
      Roster.join (Roster.append limit (updaters child) (Fingerprint.ofIdentity actor)) := by
    rw [Object.annotationText, update, Object.mapAt_withAnnotations annotatable.metadata, Json.get?,
      Object.field?_map_text, annotationsOfUpdate, annotationsWith, lookup_giveText,
      if_pos rfl]
    rfl
  rw [updaters, text]
  exact Roster.parse_join_append (Fingerprint.isClean_ofIdentity actor) limit _

/-- **Other texts, one step**: they stay. -/
lemma get?_update (annotatable : Merge.IsAnnotatable child) (limit : Int) (actor : String)
    {name text : String} (other : name ≠ Vocabulary.updaters)
    (h : (Object.mapAt child ["metadata", "annotations"]).get? name = some (.text text)) :
    (Object.mapAt (update limit child actor) ["metadata", "annotations"]).get? name =
      some (.text text) := by
  have listed : (Object.annotations child).lookup name = some text := by
    rw [Object.annotations]
    generalize Object.mapAt child ["metadata", "annotations"] = map at h
    cases map with
    | object fields => exact Object.lookup_textField h
    | _ => simp [Json.get?] at h
  rw [update, Object.mapAt_withAnnotations annotatable.metadata, Json.get?,
    Object.field?_map_text, annotationsOfUpdate, annotationsWith, lookup_giveText,
    if_neg other, listed]
  rfl

lemma history_concat (limit : Int) (child : Json) (actors : List String) (actor : String) :
    history limit child (actors ++ [actor]) = update limit (history limit child actors) actor := by
  rw [history, List.foldl_append, List.foldl_cons, List.foldl_nil, history]

lemma isAnnotatable_history (annotatable : Merge.IsAnnotatable child) (limit : Int)
    (actors : List String) : Merge.IsAnnotatable (history limit child actors) := by
  induction actors using List.reverseRecOn with
  | nil => exact annotatable
  | append_singleton actors actor ih =>
      rw [history_concat]
      exact Object.isAnnotatable_withAnnotations ih.metadata _

/-- **Updates, a history**: the fingerprints of the actors are appended one after the other. -/
lemma updaters_history (annotatable : Merge.IsAnnotatable child) (limit : Int)
    (actors : List String) : updaters (history limit child actors) =
      Merge.fingerprints limit (updaters child) (actors.map Fingerprint.ofIdentity) := by
  induction actors using List.reverseRecOn with
  | nil => rfl
  | append_singleton actors actor ih =>
      rw [history_concat, updaters_update (isAnnotatable_history annotatable limit actors), ih,
        List.map_append, Merge.fingerprints, Merge.fingerprints, List.foldl_append]
      rfl

/-- **Other texts, a history**: they stay. -/
lemma get?_history (annotatable : Merge.IsAnnotatable child) (limit : Int) (actors : List String)
    {name text : String} (other : name ≠ Vocabulary.updaters)
    (h : (Object.mapAt child ["metadata", "annotations"]).get? name = some (.text text)) :
    (Object.mapAt (history limit child actors) ["metadata", "annotations"]).get? name =
      some (.text text) := by
  induction actors using List.reverseRecOn with
  | nil => exact h
  | append_singleton actors actor ih =>
      rw [history_concat]
      exact get?_update (isAnnotatable_history annotatable limit actors) limit actor other ih

/-- **The updaters of a child.**  Let a child have metadata, and annotations that are missing or are
an object, and let a roster have room for one fingerprint at least.  However many updates have been
recorded: no fingerprint is listed twice and not too many are listed if it was so at first; if there
is room for all that were listed at first and all that were recorded, these are listed in order of
their first appearance; the next update lists its actor, takes the place of the first fingerprint if
the roster is full and does not list the actor, and changes nothing if it does; and all other texts
among the annotations have stayed. -/
theorem updaters_of_history (annotatable : Merge.IsAnnotatable child) (room : 1 ≤ limit)
    (actors : List String) :
    ((updaters child).Nodup → (updaters (history limit child actors)).Nodup) ∧
    (((updaters child).length : Int) ≤ limit →
      ((updaters (history limit child actors)).length : Int) ≤ limit) ∧
    ((updaters child).Nodup →
      ((updaters child ++ actors.map Fingerprint.ofIdentity).toFinset.card : Int) ≤ limit →
      updaters (history limit child actors) = updaters child ++
        (actors.map Fingerprint.ofIdentity).eraseDups.filter (· ∉ updaters child)) ∧
    (∀ actor, Fingerprint.ofIdentity actor ∈ updaters (history limit child (actors ++ [actor]))) ∧
    (∀ actor, Fingerprint.ofIdentity actor ∉ updaters (history limit child actors) →
      ((updaters (history limit child actors)).length : Int) = limit →
      updaters (history limit child (actors ++ [actor])) =
        (updaters (history limit child actors)).tail ++ [Fingerprint.ofIdentity actor]) ∧
    (∀ actor, Fingerprint.ofIdentity actor ∈ updaters (history limit child actors) →
      updaters (history limit child (actors ++ [actor])) = updaters (history limit child actors)) ∧
    ∀ name ≠ Vocabulary.updaters, ∀ text,
      (Object.mapAt child ["metadata", "annotations"]).get? name = some (.text text) →
      (Object.mapAt (history limit child actors) ["metadata", "annotations"]).get? name =
        some (.text text) := by
  have listed := updaters_history annotatable limit actors
  have next (actor : String) : updaters (history limit child (actors ++ [actor])) =
      Roster.append limit (updaters (history limit child actors))
        (Fingerprint.ofIdentity actor) := by
    rw [history_concat, updaters_update (isAnnotatable_history annotatable limit actors)]
  obtain ⟨added, -, grown⟩ := Merge.extends_fingerprints limit (updaters child)
    (actors.map Fingerprint.ofIdentity)
  refine ⟨fun unique => ?_, fun within => ?_, fun unique fits => ?_, fun actor => ?_,
    fun actor new full => ?_, fun actor known => ?_, fun name other text h => ?_⟩
  · rw [listed]
    exact grown.nodup unique
  · rw [listed]
    exact grown.length_le le_rfl within
  · rw [← Batch.length_foldl_arrive unique] at fits
    rw [listed, Merge.fingerprints_eq_foldl_arrive fits, Traffic.foldl_arrive_eq_append]
  · rw [next]
    exact Roster.mem_append_self room _ _
  · rw [next, Roster.append_of_full room full new]
  · rw [next, Roster.append_of_mem known]
  · exact get?_history annotatable limit actors other h

/-- A child with stray commas and blanks in its roster, and with annotations of other kinds. -/
def listedChild : Json :=
  .object [("metadata", .object [("name", .text "web"),
    ("annotations", .object [("team", .text "blue"), ("count", .int 2),
      (Vocabulary.updaters, .text " , c5xzg ,,zznkr,")])])]

/-- There is room for two: a third actor takes the place of the first, who comes back and takes the
place of the second; the other text stays. -/
theorem updaters_of_history_evicting :
    updaters (history 2 listedChild ["carol"]) = ["zznkr", "l4npj"] ∧
      updaters (history 2 listedChild ["carol", "alice"]) = ["l4npj", "c5xzg"] ∧
      (Object.mapAt (history 2 listedChild ["carol", "alice"]) ["metadata", "annotations"]).get?
        "team" = some (.text "blue") := by
  have annotatable : Merge.IsAnnotatable listedChild := by
    refine ⟨rfl, fun a stands => ?_⟩
    obtain rfl := Option.some.inj stands
    rfl
  have first : updaters listedChild = ["c5xzg", "zznkr"] := by decide +kernel
  have carol : Fingerprint.ofIdentity "carol" = "l4npj" := by decide +kernel
  have alice : Fingerprint.ofIdentity "alice" = "c5xzg" := by decide +kernel
  obtain ⟨-, -, -, -, evicts, -⟩ := updaters_of_history annotatable (by decide : (1 : Int) ≤ 2) []
  have second := evicts "carol" (by rw [carol]; decide +kernel) (by decide +kernel)
  obtain ⟨-, -, -, -, evicts, -⟩ :=
    updaters_of_history annotatable (by decide : (1 : Int) ≤ 2) ["carol"]
  obtain ⟨-, -, -, -, -, -, stays⟩ :=
    updaters_of_history annotatable (by decide : (1 : Int) ≤ 2) ["carol", "alice"]
  have second : updaters (history 2 listedChild ["carol"]) = ["zznkr", "l4npj"] := by
    rw [← List.nil_append ["carol"], second, carol]
    change (updaters listedChild).tail ++ _ = _
    rw [first]
    rfl
  have third := evicts "alice" (by rw [alice, second]; decide) (by rw [second]; rfl)
  refine ⟨second, ?_, stays "team" (by decide) "blue" (by decide +kernel)⟩
  rw [← List.singleton_append, third, second, alice]
  rfl

end Child

end Driftwatch
