/-
What a batch leaves of a full roster.

* `Roster.newest_newest_append`, `Roster.newest_append`: what is left of a roster after others were
  appended and the oldest were evicted.
* `Merge.appended`: the fingerprints of a batch that are appended: those that are not listed when
  their turn comes.
* `Merge.fingerprints_eq`: the roster after a batch is what is left of the one before, and then
  what was appended.
* `Merge.mem_appended_of_turn`, `Merge.mem_take_of_turn`: a fingerprint that is not listed when its
  turn comes.
* `Merge.Commits`: the object after the batch was written, or was found to change nothing; so it is
  after a write to the store (`Merge.commits_of_replace`).
* `Merge.roster_of_commits`: what is recorded, and what can be missing all the same.
-/
import Driftwatch.Proofs.Merge

namespace Driftwatch

/-! ### Rosters that are full -/

namespace Roster

variable {limit : Int} {roster : List String}

/-- A roster within the limit is kept. -/
lemma newest_of_length_le (h : (roster.length : Int) ≤ limit) : newest limit roster = roster := by
  have none : ((roster.length : Int) - limit).toNat = 0 := by omega
  rw [newest, none, List.drop_zero]

/-- What is kept is within the limit. -/
lemma length_newest_le (room : 0 ≤ limit) (roster : List String) :
    ((newest limit roster).length : Int) ≤ limit := by
  rw [newest, List.length_drop]
  omega

/-- What was evicted before others were appended would be evicted afterwards. -/
lemma newest_newest_append (room : 0 ≤ limit) (roster others : List String) :
    newest limit (newest limit roster ++ others) = newest limit (roster ++ others) := by
  have oldest : ((roster.length : Int) - limit).toNat ≤ roster.length := by omega
  rw [newest, newest, newest, ← List.drop_append_of_le_length oldest, List.drop_drop]
  congr 1
  simp only [List.length_drop, List.length_append]
  omega

/-- Others for whom there is room evict only what was there before. -/
lemma newest_append {others : List String} (h : (others.length : Int) ≤ limit) :
    newest limit (roster ++ others) = newest (limit - others.length) roster ++ others := by
  have oldest : (((roster ++ others).length : Int) - limit).toNat ≤ roster.length := by
    rw [List.length_append]
    omega
  rw [newest, List.drop_append_of_le_length oldest, newest]
  congr 2
  rw [List.length_append]
  omega

/-- What is not kept is among the oldest. -/
lemma mem_take_of_not_mem_newest {s : String} (h : s ∈ roster) (gone : s ∉ newest limit roster) :
    s ∈ roster.take ((roster.length : Int) - limit).toNat := by
  rw [← List.take_append_drop ((roster.length : Int) - limit).toNat roster] at h
  exact (List.mem_append.mp h).resolve_right gone

end Roster

namespace Merge

/-! ### What is appended -/

/-- The fingerprints that are appended to a roster: those that are not listed when their turn
comes.  One that was listed at first may have been evicted until then. -/
def appended (limit : Int) : List String → List String → List String
  | _, [] => []
  | roster, a :: rest =>
    if a ∈ roster then appended limit roster rest
    else a :: appended limit (Roster.append limit roster a) rest

variable {limit : Int}

/-- Only fingerprints of the batch are appended, in its order. -/
lemma appended_sublist (limit : Int) (roster arrivals : List String) :
    (appended limit roster arrivals).Sublist arrivals := by
  induction arrivals generalizing roster with
  | nil => exact List.Sublist.refl []
  | cons a rest ih =>
      rw [appended]
      split
      · exact (ih roster).cons a
      · exact (ih _).cons_cons a

/-- A fingerprint that was not listed at first is appended. -/
lemma mem_appended {roster arrivals : List String} {s : String} (h : s ∈ arrivals)
    (new : s ∉ roster) : s ∈ appended limit roster arrivals := by
  induction arrivals generalizing roster with
  | nil => simp at h
  | cons a rest ih =>
      rw [appended]
      split
      · rename_i listed
        have later : s ∈ rest := (List.mem_cons.mp h).resolve_left fun same => new (same ▸ listed)
        exact ih later new
      · rcases eq_or_ne s a with rfl | other
        · exact List.mem_cons_self
        · have later : s ∈ rest := (List.mem_cons.mp h).resolve_left other
          refine List.mem_cons_of_mem a (ih later fun listed => ?_)
          rcases Roster.mem_append listed with old | ⟨same, -⟩
          · exact new old
          · exact other same

/-- If there is room for the roster and all that it does not list, no more than that is
appended. -/
lemma length_appended_le {roster arrivals : List String}
    (h : (roster.length + (arrivals.filter (· ∉ roster)).length : Int) ≤ limit) :
    (appended limit roster arrivals).length ≤ (arrivals.filter (· ∉ roster)).length := by
  induction arrivals generalizing roster with
  | nil => exact le_rfl
  | cons a rest ih =>
      rw [appended]
      split
      · rename_i listed
        rw [List.filter_cons_of_neg (by simp [listed])] at h ⊢
        exact ih h
      · rename_i new
        rw [List.filter_cons_of_pos (by simp [new]), List.length_cons] at h ⊢
        -- nothing is evicted, and the rest has one more fingerprint that may be repeated
        have whole : Roster.append limit roster a = roster ++ [a] := by
          rw [Roster.append, if_neg new]
          refine Roster.newest_of_length_le ?_
          rw [List.length_append, List.length_singleton]
          omega
        have fewer : (rest.filter (· ∉ roster ++ [a])).length ≤
            (rest.filter (· ∉ roster)).length := by
          refine (List.monotone_filter_right rest fun s gone => ?_).length_le
          simp only [decide_eq_true_eq, List.mem_append, not_or] at gone ⊢
          exact gone.1
        rw [whole, List.length_cons]
        refine Nat.succ_le_succ ((ih ?_).trans fewer)
        rw [List.length_append, List.length_singleton]
        omega

/-- The roster after a batch holds the newest of those before and of those that were appended. -/
lemma fingerprints_eq_newest {roster : List String} (h : (roster.length : Int) ≤ limit)
    (arrivals : List String) :
    fingerprints limit roster arrivals =
      Roster.newest limit (roster ++ appended limit roster arrivals) := by
  have room : 0 ≤ limit := by omega
  induction arrivals generalizing roster with
  | nil =>
      rw [appended, List.append_nil, Roster.newest_of_length_le h, fingerprints, List.foldl_nil]
  | cons a rest ih =>
      rw [fingerprints, List.foldl_cons, ← fingerprints, appended]
      split
      · rename_i listed
        rw [Roster.append_of_mem listed]
        exact ih h
      · rename_i new
        have grown : Roster.append limit roster a = Roster.newest limit (roster ++ [a]) :=
          if_neg new
        have within : ((Roster.append limit roster a).length : Int) ≤ limit := by
          rw [grown]
          exact Roster.length_newest_le room _
        rw [ih within, grown, Roster.newest_newest_append room, List.append_assoc,
          List.singleton_append]

/-- The roster after a batch within the limit is what is left of the one before, and then what
was appended. -/
theorem fingerprints_eq {roster arrivals : List String} (h : (roster.length : Int) ≤ limit)
    (few : (arrivals.length : Int) ≤ limit) :
    fingerprints limit roster arrivals =
      Roster.newest (limit - (appended limit roster arrivals).length) roster ++
        appended limit roster arrivals := by
  have fewer := (appended_sublist limit roster arrivals).length_le
  rw [fingerprints_eq_newest h, Roster.newest_append (by omega)]

/-! ### Turns -/

/-- The fingerprints of a batch have their turns one after the other. -/
lemma fingerprints_append (limit : Int) (roster before later : List String) :
    fingerprints limit roster (before ++ later) =
      fingerprints limit (fingerprints limit roster before) later :=
  List.foldl_append

/-- What is appended after some turns depends on the roster that they have left. -/
lemma appended_append (limit : Int) (roster before later : List String) :
    appended limit roster (before ++ later) = appended limit roster before ++
      appended limit (fingerprints limit roster before) later := by
  induction before generalizing roster with
  | nil => rfl
  | cons a rest ih =>
      rw [List.cons_append, appended, appended, fingerprints, List.foldl_cons, ← fingerprints]
      split
      · rename_i listed
        rw [Roster.append_of_mem listed, ih]
      · rw [ih, List.cons_append]

/-- A fingerprint that is not listed when its turn comes is appended, even if it was listed at
first. -/
lemma mem_appended_of_turn {roster before later : List String} {s : String}
    (unlisted : s ∉ fingerprints limit roster before) :
    s ∈ appended limit roster (before ++ s :: later) := by
  rw [appended_append]
  exact List.mem_append_right _ (mem_appended List.mem_cons_self unlisted)

/-- A fingerprint that was listed at first, but is not when its turn comes, was among the oldest:
those before it in the batch have evicted it. -/
lemma mem_take_of_turn {roster before : List String} {s : String}
    (h : (roster.length : Int) ≤ limit) (few : (before.length : Int) ≤ limit) (old : s ∈ roster)
    (unlisted : s ∉ fingerprints limit roster before) :
    s ∈ roster.take (roster.length - (limit - (appended limit roster before).length)).toNat := by
  rw [fingerprints_eq h few, List.mem_append, not_or] at unlisted
  exact Roster.mem_take_of_not_mem_newest old unlisted.1

/-! ### What is recorded -/

/-- The fingerprints that an object lists. -/
def roster (obj : Json) : List String :=
  Roster.parse (Object.annotationText obj Vocabulary.controllers)

/-- The object after a batch: the batch changed nothing, or what it changed was written.  The
server may change anything then but the annotations. -/
inductive Commits (limit : Int) (obj : Json) (batch : Batch) : Json → Prop
  | skipped (nothing : apply limit obj batch = .ok none) : Commits limit obj batch obj
  | written {body after : Json} (folded : apply limit obj batch = .ok (some body))
      (kept : Object.mapAt after ["metadata", "annotations"] =
        Object.mapAt body ["metadata", "annotations"]) : Commits limit obj batch after

/-- A batch is committed by writing to the store. -/
lemma commits_of_replace {store store' : Store} {obj body : Json} {batch : Batch}
    (folded : apply limit obj batch = .ok (some body)) (h : store.replace body = .ok store') :
    ∃ after, store'.get? (Store.keyOf body) = some after ∧ Commits limit obj batch after := by
  rw [Store.replace] at h
  cases found : store.get? (Store.keyOf body) with
  | none => simp [found] at h
  | some stored =>
      simp only [found] at h
      split at h
      · split at h
        · split at h
          · rename_i version _
            obtain rfl := Except.ok.inj h
            exact ⟨_, by rw [Store.get?_insert, if_pos rfl],
              .written folded (mapAt_withVersion body version)⟩
          · simp at h
        · simp at h
      · obtain rfl := Except.ok.inj h
        exact ⟨body, by rw [Store.get?_insert, if_pos rfl], .written folded rfl⟩

/-- A batch that changes nothing leaves the roster as it is. -/
lemma fingerprints_of_skipped {obj : Json} {batch : Batch}
    (h : apply limit obj batch = .ok none) :
    fingerprints limit (roster obj) (batch.values .controllers) = roster obj := by
  by_contra changed
  have change : controllersChange limit obj batch ≠ none := by
    rw [controllersChange]
    simp only [← roster.eq_def, if_neg changed]
    simp
  rw [apply] at h
  split at h
  · rename_i none
    rw [changes, List.append_eq_nil_iff, List.map_eq_nil_iff, Option.toList_eq_nil_iff] at none
    exact change none.1
  · split at h <;> simp at h

/-- The roster of an object after a batch is the one before with those of the batch appended. -/
lemma Commits.roster_eq {obj after : Json} {batch : Batch} (commits : Commits limit obj batch after)
    (clean : ∀ s ∈ batch.values .controllers, Roster.IsClean s) :
    roster after = fingerprints limit (roster obj) (batch.values .controllers) := by
  cases commits with
  | skipped nothing => exact (fingerprints_of_skipped nothing).symm
  | written folded kept =>
      rw [roster, Object.annotationText, kept]
      exact roster_apply folded clean

/-- **What a batch records.**  After a batch was written to an object with a roster, both within
the limit, or was found to change nothing, the roster is what is left of the one before, and then
what was appended.  So every fingerprint of the batch is listed that was not listed before; one
that is missing was among the oldest; and none is missing if there is room for the roster and all
that it did not list.

A fingerprint that is listed when its turn comes changes nothing.  One that is not becomes the
newest, and is listed in the end: so it is with one that was listed at first, but was among the
oldest and has been evicted by those before it in the batch. -/
theorem roster_of_commits {obj after : Json} {batch : Batch}
    (commits : Commits limit obj batch after)
    (clean : ∀ s ∈ batch.values .controllers, Roster.IsClean s)
    (within : ((roster obj).length : Int) ≤ limit)
    (few : ((batch.values .controllers).length : Int) ≤ limit) :
    roster after =
        Roster.newest
          (limit - (appended limit (roster obj) (batch.values .controllers)).length) (roster obj) ++
        appended limit (roster obj) (batch.values .controllers) ∧
      (∀ s ∈ batch.values .controllers, s ∉ roster obj → s ∈ roster after) ∧
      (∀ s ∈ batch.values .controllers, s ∉ roster after → s ∈ (roster obj).take
        ((roster obj).length -
          (limit - (appended limit (roster obj) (batch.values .controllers)).length)).toNat) ∧
      (((roster obj).length + ((batch.values .controllers).filter (· ∉ roster obj)).length : Int) ≤
        limit → ∀ s ∈ batch.values .controllers, s ∈ roster after) ∧
      ∀ before s later, batch.values .controllers = before ++ s :: later →
        (s ∈ fingerprints limit (roster obj) before →
          fingerprints limit (roster obj) (before ++ [s]) =
            fingerprints limit (roster obj) before) ∧
        (s ∉ fingerprints limit (roster obj) before →
          fingerprints limit (roster obj) (before ++ [s]) =
            Roster.newest limit (fingerprints limit (roster obj) before ++ [s]) ∧
          s ∈ roster after ∧
          (s ∈ roster obj → s ∈ (roster obj).take ((roster obj).length -
            (limit - (appended limit (roster obj) before).length)).toNat)) := by
  have law := (commits.roster_eq clean).trans (fingerprints_eq within few)
  have recorded {s : String}
      (new : s ∈ appended limit (roster obj) (batch.values .controllers)) : s ∈ roster after := by
    rw [law]
    exact List.mem_append_right _ new
  refine ⟨law, fun s asked new => recorded (mem_appended asked new), fun s asked gone => ?_,
    fun fits s asked => ?_, fun before s later parts => ⟨fun listed => ?_, fun unlisted =>
      ⟨?_, recorded ?_, fun old => mem_take_of_turn within ?_ old unlisted⟩⟩⟩
  · have old : s ∈ roster obj := by
      by_contra new
      exact gone (recorded (mem_appended asked new))
    rw [law, List.mem_append, not_or] at gone
    exact Roster.mem_take_of_not_mem_newest old gone.1
  · by_cases old : s ∈ roster obj
    · have fewer := length_appended_le fits
      rw [law, Roster.newest_of_length_le (by omega)]
      exact List.mem_append_left _ old
    · exact recorded (mem_appended asked old)
  · rw [fingerprints_append]
    exact Roster.append_of_mem listed
  · rw [fingerprints_append]
    exact if_neg unlisted
  · rw [parts]
    exact mem_appended_of_turn unlisted
  · rw [parts, List.length_append, List.length_cons] at few
    omega

/-- A widget that lists the fingerprints of two actors. -/
def listingWidget : Json :=
  .object [("apiVersion", .text "apps/v1"), ("kind", .text "Widget"),
    ("metadata", .object [("name", .text "web"), ("namespace", .text "default"),
      ("resourceVersion", .text "1"),
      ("annotations", .object [(Vocabulary.controllers, .text "c5xzg,zznkr")])])]

/-- There is room for two, and a fingerprint that is listed stands last in the batch: it has been
evicted when its turn comes, and is recorded again. -/
theorem roster_of_commits_in_turn : ∃ body store after,
    apply 2 listingWidget [(.controllers, ["l4npj", "c5xzg"])] = .ok (some body) ∧
      (Store.empty.put listingWidget).replace body = .ok store ∧
      store.get? (Store.keyOf body) = some after ∧ roster after = ["l4npj", "c5xzg"] ∧
      "c5xzg" ∈ roster listingWidget ∧ "c5xzg" ∉ fingerprints 2 (roster listingWidget) ["l4npj"] ∧
      "c5xzg" ∈ roster after := by
  obtain ⟨body, folded, store, replaced⟩ : ∃ body,
      apply 2 listingWidget [(.controllers, ["l4npj", "c5xzg"])] = .ok (some body) ∧
        ∃ store, (Store.empty.put listingWidget).replace body = .ok store :=
    ⟨_, rfl, _, rfl⟩
  obtain ⟨after, stored, commits⟩ := commits_of_replace folded replaced
  obtain ⟨law, -, -, -, turns⟩ := roster_of_commits commits (by decide) (by decide) (by decide)
  have evicted : "c5xzg" ∉ fingerprints 2 (roster listingWidget) ["l4npj"] := by decide
  exact ⟨body, store, after, folded, replaced, stored, law, by decide, evicted,
    ((turns ["l4npj"] "c5xzg" [] rfl).2 evicted).2.1⟩

/-- There is room for two, and a fingerprint that is listed stands first in the batch: it changes
nothing, and the other one evicts it.  So a batch need not leave all that it asks for. -/
theorem evicted_by_its_batch :
    ¬ ∀ (limit : Int) (obj after : Json) (batch : Batch), 1 ≤ limit → (roster obj).Nodup →
      ((roster obj).length : Int) ≤ limit → (batch.values .controllers).Nodup →
      ((batch.values .controllers).length : Int) ≤ limit →
      (∀ s ∈ batch.values .controllers, Roster.IsClean s) → Commits limit obj batch after →
      ∀ s ∈ batch.values .controllers, s ∈ roster after := by
  intro all
  have commits : Commits 2 listingWidget [(.controllers, ["c5xzg", "l4npj"])] _ :=
    .written rfl rfl
  have listed := all 2 listingWidget _ [(.controllers, ["c5xzg", "l4npj"])] (by decide) (by decide)
    (by decide) (by decide) (by decide) (by decide) commits "c5xzg" (by decide)
  revert listed
  decide

end Merge

end Driftwatch
