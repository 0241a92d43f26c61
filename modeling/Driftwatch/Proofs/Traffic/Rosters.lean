/-
What the rosters of stored objects list.

* `Roster.Extends`: fingerprints are appended to a roster one after the other, and the oldest make
  room for them; what is listed then is the end of both (`Roster.Extends.exists_evicted`).
* `World.LeavesRoster`: others may change what is stored in the place of an object, but neither the
  names in its key nor its roster.
* `World.ListsReported`: what is stored in this place lists no fingerprint twice and not too many,
  each of which was listed at first or was reported; every allowed step preserves this.
* `rosters_of_run`: so does every run, and every step extends the roster.
-/
import Driftwatch.Proofs.Eviction
import Driftwatch.Proofs.Traffic.Phases
import Driftwatch.Proofs.Traffic.Targets

namespace Driftwatch

/-! ### Rosters that are extended -/

namespace Roster

/-- Fingerprints are appended to a roster one after the other.  Each of them is not listed when its
turn comes, because it never was or because it was evicted before, and the oldest make room for
it. -/
inductive Extends (limit : Int) (roster : List String) : List String → List String → Prop
  | refl : Extends limit roster [] roster
  | append {added next : List String} {s : String} (earlier : Extends limit roster added next)
      (new : s ∉ next) : Extends limit roster (added ++ [s]) (newest limit (next ++ [s]))

namespace Extends

variable {limit : Int} {roster added next : List String}

/-- What is listed in the end is what was listed at first and then what was added, but for the
oldest of it. -/
lemma exists_evicted (h : Extends limit roster added next) :
    ∃ evicted, roster ++ added = evicted ++ next := by
  induction h with
  | refl => exact ⟨[], List.append_nil roster⟩
  | @append added next s earlier new ih =>
      obtain ⟨evicted, parts⟩ := ih
      refine ⟨evicted ++ (next ++ [s]).take (((next ++ [s]).length : Int) - limit).toNat, ?_⟩
      rw [newest, List.append_assoc, List.take_append_drop, ← List.append_assoc, parts,
        List.append_assoc]

lemma nodup (h : Extends limit roster added next) (unique : roster.Nodup) : next.Nodup := by
  induction h with
  | refl => exact unique
  | append earlier new ih =>
      rw [← List.concat_eq_append]
      exact (List.Nodup.concat new ih).sublist (List.drop_sublist _ _)

lemma length_le {bound : Int} (h : Extends limit roster added next) (tighter : limit ≤ bound)
    (within : (roster.length : Int) ≤ bound) :
    (next.length : Int) ≤ bound := by
  induction h with
  | refl => exact within
  | append earlier new ih =>
      rw [newest, List.length_drop]
      omega

end Extends

end Roster

/-- The fingerprints of a batch extend a roster. -/
lemma Merge.extends_fingerprints (limit : Int) (roster arrivals : List String) :
    ∃ added, (∀ s ∈ added, s ∈ arrivals) ∧
      Roster.Extends limit roster added (fingerprints limit roster arrivals) := by
  induction arrivals using List.reverseRecOn with
  | nil => exact ⟨[], by simp, .refl⟩
  | append_singleton arrivals s ih =>
      obtain ⟨added, asked, earlier⟩ := ih
      have asked : ∀ a ∈ added, a ∈ arrivals ++ [s] := fun a ha =>
        List.mem_append_left _ (asked a ha)
      rw [fingerprints, List.foldl_append, List.foldl_cons, List.foldl_nil, ← fingerprints]
      by_cases listed : s ∈ fingerprints limit roster arrivals
      · rw [Roster.append_of_mem listed]
        exact ⟨added, asked, earlier⟩
      · rw [Roster.append, if_neg listed]
        refine ⟨added ++ [s], fun a ha => ?_, earlier.append listed⟩
        rcases List.mem_append.mp ha with ha | ha
        · exact asked a ha
        · exact List.mem_append_right _ ha

/-- A new resource version changes no roster. -/
lemma Merge.roster_withVersion (obj : Json) (version : String) :
    roster (Store.withVersion obj version) = roster obj := by
  rw [roster, annotationText_withVersion, roster]

namespace Traffic

variable {settings : Nat → Settings}

namespace World

/-! ### What others leave alone -/

/-- A read that finds an object finds the one that was asked for. -/
def Event.Faithful : Event → Prop
  | .inner e => e.Faithful
  | _ => True

/-- The roster that is stored under a key; nothing is listed where nothing is stored. -/
def rosterAt (w : World) (key : String) : List String :=
  ((w.server.store.get? key).map Merge.roster).getD []

lemma rosterAt_of_found {w : World} {key : String} {stored : Json}
    (found : w.server.store.get? key = some stored) : w.rosterAt key = Merge.roster stored := by
  rw [rosterAt, found]
  rfl

/-- Others leave the names and the roster alone of what is stored in the place of an object, and
reads are faithful. -/
def LeavesRoster (parent : Json) (w : World) : Event → Prop
  | .write obj => Store.keyOf obj = Store.keyOf parent →
      Object.key obj = Object.key parent ∧ Merge.roster obj = w.rosterAt (Store.keyOf parent)
  | e => e.Faithful

lemma LeavesRoster.faithful {parent : Json} {w : World} {e : Event}
    (h : w.LeavesRoster parent e) : e.Faithful := by
  cases e with
  | write obj => trivial
  | _ => exact h

/-! ### What is listed -/

/-- An actor with a fingerprint was reported on an object with a key. -/
def Reported (key s : String) (events : List Event) : Prop :=
  ∃ i t obj actor, .inner (.report i t obj (.controller actor)) ∈ events ∧
    Object.key obj = key ∧ Fingerprint.ofIdentity actor = s

lemma Reported.append {key s : String} {events : List Event} (h : Reported key s events)
    (more : List Event) : Reported key s (events ++ more) := by
  obtain ⟨i, t, obj, actor, mem, same⟩ := h
  exact ⟨i, t, obj, actor, List.mem_append_left more mem, same⟩

/-- A stored object has the key of the one that was stored at first, and lists no fingerprint twice
and no more than so many.  Each of them was listed at first or was reported. -/
structure ListsReported (limit : Int) (parent : Json) (events : List Event) (stored : Json) :
    Prop where
  key : Object.key stored = Object.key parent
  nodup : (Merge.roster stored).Nodup
  length_le : ((Merge.roster stored).length : Int) ≤ limit
  source : ∀ s ∈ Merge.roster stored,
    s ∈ Merge.roster parent ∨ Reported (Object.key parent) s events

variable {limit : Int} {parent : Json}

lemma ListsReported.append {events : List Event} {stored : Json}
    (h : ListsReported limit parent events stored) (more : List Event) :
    ListsReported limit parent (events ++ more) stored where
  key := h.key
  nodup := h.nodup
  length_le := h.length_le
  source s hs := (h.source s hs).imp id fun reported => reported.append more

/-- The fingerprints that a flush is busy with are those of actors who were reported under its
key. -/
lemma Run.reported_of_mem_values {n : Nat} {allowed : World → Event → Prop} {events : List Event}
    {w : World} (run : Run settings allowed (.start n) events w) {f : Frame}
    (hf : f ∈ w.traffic.frames) {s : String} (hs : s ∈ f.batch.values .controllers) :
    Reported f.flush.key s events := by
  obtain ⟨q, ⟨t, obj, r, mem, request⟩, key, slot, rfl⟩ :=
    (run.inner.isFounded f hf).values .controllers s hs
  obtain ⟨e, mem, inner⟩ := List.mem_filterMap.mp mem
  obtain rfl : e = .inner (.report f.ledger t obj r) := by
    cases e with
    | inner e => rw [Option.some.inj inner]
    | _ => simp [Event.inner?] at inner
  obtain ⟨actor, rfl, rfl⟩ | ⟨p, -, rfl⟩ := Report.cases_of_request request
  · exact ⟨_, t, obj, actor, mem, key, rfl⟩
  · simp [Request.of] at slot

/-- After a run in which everything allowed is faithful, all reads have been. -/
lemma Run.faithful {allowed : World → Event → Prop} {w w' : World} {events : List Event}
    (run : Run settings allowed w events w') (reads : ∀ w e, allowed w e → e.Faithful) :
    ∀ e ∈ events.filterMap Event.inner?, e.Faithful := by
  induction run with
  | nil => simp
  | @snoc events w' w'' e run step allow ih =>
      intro inner mem
      rw [List.filterMap_append, List.mem_append] at mem
      rcases mem with mem | mem
      · exact ih inner mem
      · have faithful := reads _ _ allow
        cases e with
        | inner e =>
            obtain rfl : inner = e := by simpa [Event.inner?] using mem
            exact faithful
        | _ => simp [Event.inner?] at mem

/-- A write that is accepted extends the stored roster by fingerprints of actors who were reported
on an object with the same key. -/
lemma Run.extends_of_accepts {n : Nat} {events : List Event} {w : World}
    (run : Run settings (fun _ e => e.Faithful) (.start n) events w) {f : Frame} {a : Attempt}
    {body : Json} (frame : f ∈ w.traffic.frames) (stage : f.flush.stage = .writing a body)
    (accepts : w.server.Accepts body) :
    ∃ stored added, w.server.store.get? (Store.keyOf body) = some stored ∧
      Object.key body = Object.key stored ∧
      Roster.Extends (settings f.ledger).maxFingerprints (Merge.roster stored) added
        (Merge.roster body) ∧
      ∀ s ∈ added, Reported (Object.key stored) s events := by
  obtain ⟨stored, found, holds, merged⟩ :=
    (run.reachable (.start n)).exists_apply frame stage accepts
  have batch : f.batch = a.batch := by rw [Frame.batch, stage]
  have reported : ∀ s ∈ a.batch.values .controllers, Reported (Object.key stored) s events := by
    intro s hs
    obtain ⟨⟨q, ⟨t, obj, r, -, request⟩, key, target⟩, -⟩ := run.inner.isFounded f frame
    -- the flush was started for an object of the place that it has read from
    have place : Target.of obj = Target.of stored := by
      rw [run.inner.target_copy (run.faithful fun _ _ faithful => faithful) f frame stored holds,
        ← target, (Report.origin_of_request request).2]
    rw [← Object.key_eq_of_target place, ← (Report.origin_of_request request).1, key]
    exact run.reported_of_mem_values frame (batch ▸ hs)
  have clean : ∀ s ∈ a.batch.values .controllers, Roster.IsClean s := by
    intro s hs
    obtain ⟨i, t, obj, actor, -, -, rfl⟩ := reported s hs
    exact Fingerprint.isClean_ofIdentity actor
  obtain ⟨added, asked, extended⟩ := Merge.extends_fingerprints
    (settings f.ledger).maxFingerprints (Merge.roster stored) (a.batch.values .controllers)
  refine ⟨stored, added, found, Object.key_eq_of_target (Merge.keeps_apply merged).target, ?_,
    fun s hs => reported s (asked s hs)⟩
  have listed : Merge.roster body = Merge.fingerprints (settings f.ledger).maxFingerprints
      (Merge.roster stored) (a.batch.values .controllers) := Merge.roster_apply merged clean
  rw [listed]
  exact extended

/-- What is stored after a step has the key of what was stored, and its roster extends that one by
fingerprints of actors who were reported. -/
lemma Run.extends_of_step {n : Nat} {events : List Event} {w w' : World} {e : Event}
    (run : Run settings (fun _ e => e.Faithful) (.start n) events w)
    (step : Step settings w e w') (leaves : w.LeavesRoster parent e)
    (keyed : ∀ older, w.server.store.get? (Store.keyOf parent) = some older →
      Object.key older = Object.key parent) {newer : Json}
    (found : w'.server.store.get? (Store.keyOf parent) = some newer) :
    Object.key newer = Object.key parent ∧ ∃ i added,
      Roster.Extends (settings i).maxFingerprints (w.rosterAt (Store.keyOf parent)) added
        (Merge.roster newer) ∧
      ∀ s ∈ added, Reported (Object.key parent) s events := by
  have same (stays : w.server.store.get? (Store.keyOf parent) = some newer) :
      Object.key newer = Object.key parent ∧ ∃ i added,
        Roster.Extends (settings i).maxFingerprints (w.rosterAt (Store.keyOf parent)) added
          (Merge.roster newer) ∧
        ∀ s ∈ added, Reported (Object.key parent) s events := by
    refine ⟨keyed newer stays, 0, [], ?_, by simp⟩
    rw [rosterAt_of_found stays]
    exact .refl
  cases step with
  | inner step answer => exact same found
  | @accept f a body version frame stage accepts new =>
      rw [Server.keep, Store.get?_insert, (Merge.keeps_withVersion body version).keyOf] at found
      split at found
      · rename_i here
        obtain rfl := Option.some.inj found
        obtain ⟨stored, added, before, key, extended, reported⟩ :=
          run.extends_of_accepts frame stage accepts
        rw [here] at before
        rw [keyed stored before] at key reported
        refine ⟨?_, f.ledger, added, ?_, reported⟩
        · rw [← key]
          exact Object.key_eq_of_target (Merge.keeps_withVersion body version).target
        · rw [rosterAt_of_found before, Merge.roster_withVersion]
          exact extended
      · exact same found
  | @write obj new =>
      rw [Server.keep, Store.get?_insert] at found
      split at found
      · rename_i here
        obtain rfl := Option.some.inj found
        obtain ⟨key, listed⟩ := leaves here
        exact ⟨key, 0, [], listed ▸ .refl, by simp⟩
      · exact same found
  | remove other =>
      rw [Server.remove, Store.get?_remove] at found
      split at found
      · simp at found
      · exact same found

/-- **What is listed, one step.** -/
lemma Run.listsReported_step {n : Nat} {events : List Event} {w w' : World} {e : Event}
    (run : Run settings (fun _ e => e.Faithful) (.start n) events w)
    (step : Step settings w e w') (leaves : w.LeavesRoster parent e) (room : 0 ≤ limit)
    (limits : ∀ i, (settings i).maxFingerprints ≤ limit)
    (h : ∀ stored, w.server.store.get? (Store.keyOf parent) = some stored →
      ListsReported limit parent events stored) {newer : Json}
    (found : w'.server.store.get? (Store.keyOf parent) = some newer) :
    ListsReported limit parent (events ++ [e]) newer := by
  obtain ⟨key, i, added, extended, reported⟩ :=
    run.extends_of_step step leaves (fun older before => (h older before).key) found
  -- what was stored before lists what it should, and so does nothing at all
  obtain ⟨nodup, within, source⟩ : (w.rosterAt (Store.keyOf parent)).Nodup ∧
      ((w.rosterAt (Store.keyOf parent)).length : Int) ≤ limit ∧
      ∀ s ∈ w.rosterAt (Store.keyOf parent),
        s ∈ Merge.roster parent ∨ Reported (Object.key parent) s events := by
    cases before : w.server.store.get? (Store.keyOf parent) with
    | none => simp [rosterAt, before, room]
    | some older =>
        rw [rosterAt_of_found before]
        exact ⟨(h older before).nodup, (h older before).length_le, (h older before).source⟩
  refine ⟨key, extended.nodup nodup, extended.length_le (limits i) within, fun s hs => ?_⟩
  obtain ⟨evicted, parts⟩ := extended.exists_evicted
  have mem : s ∈ w.rosterAt (Store.keyOf parent) ++ added := by
    rw [parts]
    exact List.mem_append_right _ hs
  rcases List.mem_append.mp mem with old | new
  · exact (source s old).imp id fun reported => reported.append [e]
  · exact .inr ((reported s new).append [e])

/-- **What is listed**, after every run. -/
lemma Run.listsReported {n : Nat} {before events : List Event} {w w' : World}
    (past : Run settings (fun _ e => e.Faithful) (.start n) before w)
    (run : Run settings (LeavesRoster parent) w events w') (room : 0 ≤ limit)
    (limits : ∀ i, (settings i).maxFingerprints ≤ limit)
    (h : ∀ stored, w.server.store.get? (Store.keyOf parent) = some stored →
      ListsReported limit parent before stored) :
    ∀ stored, w'.server.store.get? (Store.keyOf parent) = some stored →
      ListsReported limit parent (before ++ events) stored := by
  induction run with
  | nil => simpa using h
  | snoc run step leaves ih =>
      intro newer found
      rw [← List.append_assoc]
      exact (past.append (run.mono fun _ _ leaves => leaves.faithful)).listsReported_step step
        leaves room limits ih found

end World

/-- **What is listed.**  Ledgers record fingerprints on an object that lists none twice at first
and no more than there is room for; others leave its roster alone.  Then, whatever is reported and
in whatever order things happen, what is stored lists none twice and no more than there is room
for, and each of them was listed at first or is the one of an actor who was reported under the key
of the object.  From one stored version to the next, some fingerprints of actors who were reported
are put after those that are listed, none of them while it is listed, and what is listed then is
the end of both. -/
theorem rosters_of_run {limit : Int} {n : Nat} {before events : List World.Event} {w w' : World}
    {parent : Json} (limits : ∀ i, (settings i).maxFingerprints ≤ limit)
    (past : World.Run settings (fun _ e => e.Faithful) (.start n) before w)
    (found : w.server.store.get? (Store.keyOf parent) = some parent)
    (unique : (Merge.roster parent).Nodup) (within : ((Merge.roster parent).length : Int) ≤ limit)
    (run : World.Run settings (World.LeavesRoster parent) w events w') :
    (∀ stored, w'.server.store.get? (Store.keyOf parent) = some stored →
      (Merge.roster stored).Nodup ∧ ((Merge.roster stored).length : Int) ≤ limit ∧
      ∀ s ∈ Merge.roster stored, s ∈ Merge.roster parent ∨
        World.Reported (Object.key parent) s (before ++ events)) ∧
    ∀ e w'' older newer, World.Step settings w' e w'' → w'.LeavesRoster parent e →
      w'.server.store.get? (Store.keyOf parent) = some older →
      w''.server.store.get? (Store.keyOf parent) = some newer →
      ∃ i added evicted,
        Roster.Extends (settings i).maxFingerprints (Merge.roster older) added
          (Merge.roster newer) ∧
        Merge.roster older ++ added = evicted ++ Merge.roster newer ∧
        ∀ s ∈ added, World.Reported (Object.key parent) s (before ++ events) := by
  have listed := past.listsReported run (by omega) limits fun stored found' => by
    obtain rfl := Option.some.inj (found.symm.trans found')
    exact ⟨rfl, unique, within, fun s hs => .inl hs⟩
  refine ⟨fun stored found' => ?_, fun e w'' older newer step leaves before after => ?_⟩
  · obtain ⟨-, nodup, length_le, source⟩ := listed stored found'
    exact ⟨nodup, length_le, source⟩
  · obtain ⟨-, i, added, extended, reported⟩ :=
      (past.append (run.mono fun _ _ leaves => leaves.faithful)).extends_of_step step leaves
        (fun older before => (listed older before).key) after
    rw [World.rosterAt_of_found before] at extended
    obtain ⟨evicted, parts⟩ := extended.exists_evicted
    exact ⟨i, added, evicted, extended, parts, reported⟩

/-- An actor is reported on a widget that lists nobody, and nobody else is listed when the write is
accepted. -/
theorem rosters_of_run_first_report :
    ∃ w w' f body newer, World.Step (fun _ => {}) w (.accept f body "2") w' ∧
      w'.server.store.get? "apps/v1|Widget|default|web" = some newer ∧
      (∃ added evicted, Roster.Extends 5 [] added (Merge.roster newer) ∧
        added = evicted ++ Merge.roster newer) ∧
      (Merge.roster newer).Nodup ∧
      ∀ s ∈ Merge.roster newer, s = Fingerprint.ofIdentity "alice" := by
  have start : World.Run (fun _ => {}) (fun _ e => e.Faithful) (.start 1) [] (.start 1) := .nil
  have past := start.snoc (e := .write (Store.withVersion (widget "apps/v1" "web") "1"))
    (.write fun _ h => h.elim) trivial
  have rest {w : World} {events : List World.Event}
    (_ : World.Run (fun _ => {}) (fun _ e => e.Faithful) (.start 1) events w) :
    World.Run (fun _ => {}) (World.LeavesRoster (Store.withVersion (widget "apps/v1" "web") "1"))
      w [] w := .nil
  have run := (rest past).snoc
    (e := .inner (.report 0 0 (widget "apps/v1" "web") (.controller "alice")))
    (.inner (.submit ⟨_, rfl, by simp⟩ rfl) trivial) trivial
  have run := run.snoc (.inner (.take (t := 0) rfl rfl rfl rfl) trivial) trivial
  have run := run.snoc (.inner (.move (t := 0) rfl rfl (.read (.ok (some _)) rfl))
    ⟨.inl rfl, rfl⟩) rfl
  have limits (i : Nat) : ((fun _ => {} : Nat → Settings) i).maxFingerprints ≤ 5 := le_rfl
  have law {e : World.Event} {w' : World} (step : World.Step _ _ e w') allow older newer found
      found' := And.intro step
    (And.intro ((rosters_of_run limits past rfl (by decide) (by decide) run).2 e w' older newer step
      allow found found')
      ((rosters_of_run limits past rfl (by decide) (by decide) (run.snoc step allow)).1 newer
        found'))
  obtain ⟨step, grows, lists⟩ := law (e := .accept _ _ "2") (.accept
    (Multiset.mem_singleton_self _) rfl ⟨_, rfl, rfl⟩ (by
      rintro old (rfl | none) -
      · rfl
      · exact none.elim)) trivial _ _ rfl rfl
  obtain ⟨⟨i, added, evicted, extended, parts, -⟩, nodup, -, source⟩ := And.intro grows lists
  have nobody : Merge.roster (Store.withVersion (widget "apps/v1" "web") "1") = [] := by decide
  rw [nobody] at extended parts source
  refine ⟨_, _, _, _, _, step, rfl, ⟨added, evicted, extended, parts⟩, nodup, fun s hs => ?_⟩
  obtain ⟨i, t, obj, actor, mem, -, rfl⟩ := (source s hs).resolve_left List.not_mem_nil
  obtain ⟨-, -, -, rfl⟩ : i = 0 ∧ t = 0 ∧ obj = widget "apps/v1" "web" ∧ actor = "alice" := by
    simpa using mem
  rfl

end Traffic

end Driftwatch
