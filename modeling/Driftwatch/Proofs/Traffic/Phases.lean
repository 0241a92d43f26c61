/-
An initialized parent stays initialized.

* `Lifecycle.phase_of_initialized`: a parent that is recorded as initialized is so, or is being
  deleted, whatever else it shows.
* `World.Run`: any number of steps of a world that are allowed; `World.LeavesPhase` allows others
  to change what is stored under a key, but not the phase that it shows.
* `World.IsInitialized`: what is stored under a key shows that it is initialized; every allowed step
  preserves this until the object is removed.
* `initialized_is_kept`: so does every run.
-/
import Driftwatch.Lifecycle
import Driftwatch.Proofs.Parent.Stamp
import Driftwatch.Proofs.Traffic.Server

namespace Driftwatch

/-! ### Initialized phases -/

/-- A parent that is recorded as initialized is initialized, unless it is being deleted. -/
theorem Lifecycle.phase_of_initialized {obj : Json}
    (h : Object.annotationText obj Vocabulary.phase = Vocabulary.initialized)
    (strategies : List Strategy) (owner : Owner) (manager : Json) :
    Lifecycle.phase strategies (.ofObject obj owner manager) =
      if (Parent.State.ofObject obj owner manager).isDeleting then .deleting
      else .initialized := by
  have recorded : (Parent.State.ofObject obj owner manager).isInitialized = true :=
    beq_iff_eq.mpr h
  rw [Lifecycle.phase, Lifecycle.phaseUnder, recorded]
  rfl

namespace Traffic

variable {settings : Nat → Settings}

namespace World

/-! ### Runs -/

/-- Any number of steps that are allowed, with what was done in them, in order. -/
inductive Run (settings : Nat → Settings) (allowed : World → Event → Prop) (w : World) :
    List Event → World → Prop
  | nil : Run settings allowed w [] w
  | snoc {events : List Event} {w' w'' : World} {e : Event}
      (run : Run settings allowed w events w') (step : Step settings w' e w'')
      (allow : allowed w' e) : Run settings allowed w (events ++ [e]) w''

/-- A run goes on from what was reached. -/
lemma Run.reachable {allowed : World → Event → Prop} {w w' : World} {events : List Event}
    (run : Run settings allowed w events w') (reach : Reachable settings w) :
    Reachable settings w' := by
  induction run with
  | nil => exact reach
  | snoc run step allow ih => exact ih.step step

/-- Nothing is different after no step. -/
lemma Run.eq_of_nil {allowed : World → Event → Prop} {w w' : World}
    (run : Run settings allowed w [] w') : w' = w := by
  generalize none : ([] : List Event) = events at run
  cases run with
  | nil => rfl
  | snoc run step allow => simp at none

/-- One run after another is a run. -/
lemma Run.append {allowed : World → Event → Prop} {w w' w'' : World} {before after : List Event}
    (first : Run settings allowed w before w') (second : Run settings allowed w' after w'') :
    Run settings allowed w (before ++ after) w'' := by
  induction second with
  | nil => simpa using first
  | snoc run step allow ih =>
      rw [← List.append_assoc]
      exact ih.snoc step allow

/-- What is allowed may be more. -/
lemma Run.mono {allowed allowed' : World → Event → Prop} {w w' : World} {events : List Event}
    (run : Run settings allowed w events w') (more : ∀ w e, allowed w e → allowed' w e) :
    Run settings allowed' w events w' := by
  induction run with
  | nil => exact .nil
  | snoc run step allow ih => exact ih.snoc step (more _ _ allow)

/-- What a thread does in a step. -/
def Event.inner? : Event → Option Traffic.Event
  | .inner e => some e
  | _ => none

/-- The threads run as they do without a server. -/
lemma Run.inner {allowed : World → Event → Prop} {w w' : World} {events : List Event}
    (run : Run settings allowed w events w') :
    Traffic.Run settings w.traffic (events.filterMap Event.inner?) w'.traffic := by
  induction run with
  | nil => exact .nil
  | snoc run step allow ih =>
      rw [List.filterMap_append]
      cases step with
      | inner step answer => exact ih.snoc step
      | accept frame stage accepts new => exact (List.append_nil _).symm ▸ ih
      | write new => exact (List.append_nil _).symm ▸ ih
      | remove key => exact (List.append_nil _).symm ▸ ih

/-- Others leave the phase alone that is stored under a key. -/
def LeavesPhase (key : String) (w : World) : Event → Prop
  | .write obj => Store.keyOf obj = key → ∀ stored, w.server.store.get? key = some stored →
      Object.annotationText obj Vocabulary.phase = Object.annotationText stored Vocabulary.phase
  | _ => True

/-! ### What stays initialized -/

/-- An object is stored under the key, and shows that it is initialized. -/
def IsInitialized (w : World) (key : String) : Prop :=
  ∃ stored, w.server.store.get? key = some stored ∧
    Object.annotationText stored Vocabulary.phase = Vocabulary.initialized

/-- What the server accepts is the stored object, which the flush has read, with a batch folded
in. -/
lemma Reachable.exists_apply {w : World} {f : Frame} {a : Attempt} {body : Json}
    (reach : Reachable settings w) (frame : f ∈ w.traffic.frames)
    (stage : f.flush.stage = .writing a body) (accepts : w.server.Accepts body) :
    ∃ stored, w.server.store.get? (Store.keyOf body) = some stored ∧ f.copy = some stored ∧
      Merge.apply (settings f.ledger).maxFingerprints stored a.batch = .ok (some body) := by
  obtain ⟨n, events, run⟩ := reach.run
  obtain ⟨copy, holds, merged⟩ := run.writesMerge f frame a body stage
  obtain ⟨stored, found, same⟩ := accepts
  have coherent := reach.isCoherent
  rw [Merge.versionOf_apply merged] at same
  obtain rfl := coherent.current _ stored found copy (coherent.copies f frame copy holds)
    (Merge.keeps_apply merged).keyOf.symm same
  exact ⟨copy, found, holds, merged⟩

/-- **Initialization, one step.** -/
lemma Step.isInitialized {w w' : World} {e : Event} {key : String} (step : Step settings w e w')
    (reach : Reachable settings w) (leaves : w.LeavesPhase key e) (kept : e ≠ .remove key)
    (h : w.IsInitialized key) : w'.IsInitialized key := by
  obtain ⟨stored, found, initialized⟩ := h
  cases step with
  | inner step answer => exact ⟨stored, found, initialized⟩
  | @accept f a body version frame stage accepts new =>
      rw [IsInitialized, Server.keep, Store.get?_insert,
        (Merge.keeps_withVersion body version).keyOf]
      split
      · rename_i here
        obtain ⟨before, found', -, merged⟩ := reach.exists_apply frame stage accepts
        obtain rfl : before = stored := by
          rw [here] at found'
          exact Option.some.inj (found'.symm.trans found)
        refine ⟨_, rfl, ?_⟩
        rw [Merge.annotationText_withVersion, Merge.phase_apply merged, initialized,
          Merge.phase_initialized]
      · exact ⟨stored, found, initialized⟩
  | @write obj new =>
      rw [IsInitialized, Server.keep, Store.get?_insert]
      split
      · rename_i here
        exact ⟨obj, rfl, (leaves here stored found).trans initialized⟩
      · exact ⟨stored, found, initialized⟩
  | remove other =>
      have apart : other ≠ key := fun same => kept (by rw [same])
      rw [IsInitialized, Server.remove, Store.get?_remove, if_neg apart]
      exact ⟨stored, found, initialized⟩

/-- **Initialization**: it is preserved by every run in which the object is not removed. -/
lemma Run.isInitialized {w w' : World} {events : List Event} {key : String}
    (run : Run settings (LeavesPhase key) w events w') (reach : Reachable settings w)
    (kept : .remove key ∉ events) (h : w.IsInitialized key) : w'.IsInitialized key := by
  induction run with
  | nil => exact h
  | @snoc events w' w'' e run step leaves ih =>
      rw [List.mem_append, not_or, List.mem_singleton] at kept
      exact step.isInitialized (run.reachable reach) leaves (Ne.symm kept.2) (ih kept.1)

end World

/-- **Initialization is never taken back.**  Whatever any number of threads report, on whatever
copies, and whatever others do but change its phase: as long as an initialized object is not
removed, what is stored under its key shows that it is initialized, and under all strategies the
phase of every snapshot of it is that it is initialized or being deleted. -/
theorem initialized_is_kept {w w' : World} {events : List World.Event} {key : String}
    {parent : Json} (reach : World.Reachable settings w)
    (found : w.server.store.get? key = some parent)
    (initialized : Object.annotationText parent Vocabulary.phase = Vocabulary.initialized)
    (run : World.Run settings (World.LeavesPhase key) w events w')
    (kept : World.Event.remove key ∉ events) :
    ∃ parent', w'.server.store.get? key = some parent' ∧
      Object.annotationText parent' Vocabulary.phase = Vocabulary.initialized ∧
      (∀ strategies owner manager, Lifecycle.phase strategies (.ofObject parent' owner manager) =
        if (Parent.State.ofObject parent' owner manager).isDeleting then .deleting
        else .initialized) ∧
      ∀ room owner state, Parent.State.extract room parent' owner = .ok state →
        ∀ strategies, Lifecycle.phase strategies state =
          if state.isDeleting then .deleting else .initialized := by
  obtain ⟨parent', found', initialized'⟩ :=
    run.isInitialized reach kept ⟨parent, found, initialized⟩
  refine ⟨parent', found', initialized', fun strategies owner manager =>
    Lifecycle.phase_of_initialized initialized' strategies owner manager,
    fun room owner state extracted strategies => ?_⟩
  obtain ⟨manager, -, -, rfl⟩ := Parent.State.extract_eq_ok_iff.mp extracted
  exact Lifecycle.phase_of_initialized initialized' strategies owner manager

/-- A widget that is recorded as initialized, of the given resource version and with the given
status. -/
def initializedWidget (version status : String) : Json :=
  .object [("apiVersion", .text "apps/v1"), ("kind", .text "Widget"),
    ("metadata", .object [("name", .text "web"), ("namespace", .text "default"),
      ("resourceVersion", .text version),
      ("annotations", .object [(Vocabulary.phase, .text Vocabulary.initialized)])]),
    ("status", .object [("conditions", .list [.object [("type", .text "Ready"),
      ("status", .text status)]])])]

/-- A widget is recorded as initialized while the write of an earlier phase is under way.  The
write meets a conflict, and the widget is initialized still after it has lost its readiness. -/
theorem initialized_is_kept_after_conflict :
    ∃ w w' events, World.Reachable (fun _ => {}) w ∧
      World.Run (fun _ => {}) (World.LeavesPhase "apps/v1|Widget|default|web") w events w' ∧
      (∃ f a body, f ∈ w.traffic.frames ∧ f.flush.stage = .writing a body ∧
        Object.annotationText body Vocabulary.phase = "initializing") ∧
      w'.server.store.get? "apps/v1|Widget|default|web" = some (initializedWidget "3" "False") ∧
      Lifecycle.phase [] (.ofObject (initializedWidget "3" "False") (.ofJson .null) (.text "")) =
        .initialized := by
  have reach : World.Reachable (fun _ => {}) (.start 1) := .start 1
  have reach := reach.step (e := .write (Store.withVersion (widget "apps/v1" "web") "1"))
    (.write fun _ h => h.elim)
  have reach := reach.step
    (e := .inner (.report 0 0 (widget "apps/v1" "web") (.phase "initializing")))
    (.inner (.submit ⟨_, rfl, by simp⟩ rfl) trivial)
  have reach := reach.step (.inner (.take (t := 0) rfl rfl rfl rfl) trivial)
  have reach := reach.step (.inner (.move (t := 0) rfl rfl (.read (.ok (some _)) rfl))
    ⟨.inl rfl, rfl⟩)
  have reach := reach.step (e := .write (initializedWidget "2" "True")) (.write (by
    rintro old (rfl | none) -
    · rfl
    · exact none.elim))
  have rest {w : World} (_ : World.Reachable (fun _ => {}) w) :
    World.Run (fun _ => {}) (World.LeavesPhase "apps/v1|Widget|default|web") w [] w := .nil
  have run := rest reach
  have run := run.snoc (.inner (.move (t := 0) rfl rfl (.write (.error Store.conflict) rfl))
    trivial) trivial
  have run := run.snoc (.inner (.move (t := 0) rfl rfl (.pause rfl)) trivial) trivial
  have run := run.snoc (.inner (.move (t := 0) rfl rfl (.read (.ok (some _)) rfl))
    ⟨.inl rfl, rfl⟩) trivial
  have run := run.snoc (e := .write (initializedWidget "3" "False")) (.write (by
    rintro old (rfl | rfl | none) -
    · rfl
    · rfl
    · exact none.elim)) (by
      rintro - stored found
      obtain rfl := Option.some.inj (found.symm.trans rfl)
      rfl)
  obtain ⟨parent', found, initialized, phase, -⟩ :=
    initialized_is_kept reach rfl rfl run (by simp)
  obtain rfl := Option.some.inj (found.symm.trans rfl)
  refine ⟨_, _, _, reach, run, ⟨_, _, _, Multiset.mem_singleton_self _, rfl, rfl⟩, found, ?_⟩
  exact phase [] _ _

end Traffic

end Driftwatch
