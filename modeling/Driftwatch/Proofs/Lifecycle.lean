/-
The phase of a parent by what its conditions say.

* `Parent.Condition.readings`: what conditions say: the types with their statuses.
* `Lifecycle.phase_eq_deleting_iff`, `Lifecycle.phase_eq_initialized_iff`: when a parent is in a
  phase.
* `Lifecycle.Advances`: a parent shows all that it showed before, and maybe more.
* `Lifecycle.Advances.phase_eq`: what is initialized stays so, also under more strategies.
* `Lifecycle.phase_of_readings`: the laws of the phase.
-/
import Driftwatch.Lifecycle
import Mathlib.Tactic.Lemma

namespace Driftwatch

/-! ### What conditions say -/

namespace Parent.Condition

/-- What conditions say: the types with their statuses. -/
def readings (conditions : List Condition) : List (String × String) :=
  conditions.map fun c => (c.type, c.status)

/-- A type has a status if some condition says so. -/
lemma holds_iff {conditions : List Condition} {type status : String} :
    holds conditions type status = true ↔ (type, status) ∈ readings conditions := by
  simp [holds, readings]

end Parent.Condition

/-- Two phases are the same if they are deletions together and initializations together. -/
lemma Phase.eq_of_iff {p q : Phase} (deleting : p = .deleting ↔ q = .deleting)
    (initialized : p = .initialized ↔ q = .initialized) : p = q := by
  cases p <;> cases q <;> simp at deleting initialized ⊢

namespace Lifecycle

open Parent (Condition Stamp State)

variable {strategies strategies' : List Strategy} {s s' : State}

/-! ### Phases -/

/-- A parent is being deleted if its deletion was asked for, whatever else it shows. -/
lemma phase_eq_deleting_iff : phase strategies s = .deleting ↔ s.deletionTimestamp ≠ none := by
  rw [phase, phaseUnder, State.isDeleting]
  cases s.deletionTimestamp with
  | some time => simp
  | none => cases s.isInitialized <;> cases (inForce strategies).any (signals s) <;> simp

/-- A parent is initialized if it is not being deleted and is recorded as initialized, or gives the
signal of a strategy in force. -/
lemma phase_eq_initialized_iff : phase strategies s = .initialized ↔
    s.deletionTimestamp = none ∧
      (s.isInitialized = true ∨ ∃ strategy ∈ inForce strategies, signals s strategy = true) := by
  rw [phase, phaseUnder, State.isDeleting, ← List.any_eq_true]
  cases s.deletionTimestamp with
  | some time => simp
  | none => cases s.isInitialized <;> cases (inForce strategies).any (signals s) <;> simp

/-! ### What a parent shows -/

/-- A parent shows all that it showed before: what its conditions said, its generation stamp, and
that it is recorded as initialized. -/
structure Advances (s s' : State) : Prop where
  readings : Condition.readings s.conditions ⊆ Condition.readings s'.conditions
  observed : s.observed.present = true → s'.observed.present = true
  recorded : s.isInitialized = true → s'.isInitialized = true

namespace Advances

/-- A condition that held still holds. -/
lemma holds (h : Advances s s') {type status : String}
    (held : Condition.holds s.conditions type status = true) :
    Condition.holds s'.conditions type status = true :=
  Condition.holds_iff.mpr (h.readings (Condition.holds_iff.mp held))

/-- A signal that was given is still given. -/
lemma signals (h : Advances s s') {strategy : Strategy}
    (given : signals s strategy = true) : Lifecycle.signals s' strategy = true := by
  cases strategy with
  | initializedCondition => exact h.holds given
  | readyCondition => exact h.holds given
  | observedGeneration =>
      rw [Lifecycle.signals, Bool.and_eq_true, List.any_eq_true] at given ⊢
      obtain ⟨stamped, type, steady, held⟩ := given
      exact ⟨h.observed stamped, type, steady, h.holds held⟩

/-- A parent that was initialized still is, also under more strategies. -/
lemma phase_eq (h : Advances s s') (alive : s'.deletionTimestamp = none)
    (more : inForce strategies ⊆ inForce strategies')
    (initialized : phase strategies s = .initialized) : phase strategies' s' = .initialized := by
  obtain ⟨-, recorded | ⟨strategy, tried, given⟩⟩ := phase_eq_initialized_iff.mp initialized
  · exact phase_eq_initialized_iff.mpr ⟨alive, .inl (h.recorded recorded)⟩
  · exact phase_eq_initialized_iff.mpr ⟨alive, .inr ⟨strategy, more tried, h.signals given⟩⟩

end Advances

/-- Two parents that show the same are in the same phase under the same strategies. -/
lemma phase_congr (h : Advances s s') (h' : Advances s' s)
    (deletion : s'.deletionTimestamp = s.deletionTimestamp)
    (same : ∀ strategy, strategy ∈ inForce strategies' ↔ strategy ∈ inForce strategies) :
    phase strategies' s' = phase strategies s := by
  refine Phase.eq_of_iff ?_ ⟨fun initialized => ?_, fun initialized => ?_⟩
  · rw [phase_eq_deleting_iff, phase_eq_deleting_iff, deletion]
  · have alive := (phase_eq_initialized_iff.mp initialized).1
    exact h'.phase_eq (deletion ▸ alive) (fun t => (same t).mp) initialized
  · have alive := (phase_eq_initialized_iff.mp initialized).1
    exact h.phase_eq (deletion ▸ alive) (fun t => (same t).mpr) initialized

/-! ### Strategies -/

/-- Given strategies are in force. -/
lemma inForce_of_ne_nil (given : strategies ≠ []) : inForce strategies = strategies := by
  simp [inForce, given]

/-- Lists of the same strategies put the same in force. -/
lemma mem_inForce_congr (same : ∀ strategy, strategy ∈ strategies' ↔ strategy ∈ strategies)
    (strategy : Strategy) : strategy ∈ inForce strategies' ↔ strategy ∈ inForce strategies := by
  by_cases none : strategies = []
  · have none' : strategies' = [] := by
      rw [List.eq_nil_iff_forall_not_mem]
      simp [same, none]
    rw [none, none']
  · obtain ⟨some, given⟩ := List.exists_mem_of_ne_nil _ none
    rw [inForce_of_ne_nil none, inForce_of_ne_nil (List.ne_nil_of_mem ((same some).mpr given)),
      same]

/-- By the default strategies a parent is initialized if it is recorded as such, or says that it is
initialized or ready, or has a generation stamp and says that it is available. -/
lemma phase_nil_eq_initialized_iff : phase [] s = .initialized ↔ s.deletionTimestamp = none ∧
    (s.isInitialized = true ∨
      ("Initialized", "True") ∈ Condition.readings s.conditions ∨
      ("Ready", "True") ∈ Condition.readings s.conditions ∨
      s.observed.present = true ∧ ("Available", "True") ∈ Condition.readings s.conditions) := by
  rw [phase_eq_initialized_iff]
  refine and_congr_right fun _ => or_congr_right ?_
  change (∃ strategy ∈ Strategy.all, signals s strategy = true) ↔ _
  simp only [Strategy.all, List.mem_cons, List.not_mem_nil, or_false, exists_eq_or_imp,
    exists_eq_left, signals, steadyConditions, List.any_cons, List.any_nil, Bool.or_false,
    Bool.and_eq_true, Bool.or_eq_true, Condition.holds_iff]
  constructor
  · rintro (initialized | ready | ⟨stamped, ready | available | initialized⟩)
    · exact .inl initialized
    · exact .inr (.inl ready)
    · exact .inr (.inl ready)
    · exact .inr (.inr ⟨stamped, available⟩)
    · exact .inl initialized
  · rintro (initialized | ready | ⟨stamped, available⟩)
    · exact .inl initialized
    · exact .inr (.inl ready)
    · exact .inr (.inr ⟨stamped, .inr (.inl available)⟩)

/-! ### The laws of the phase -/

/-- **Phases by what conditions say.**  A parent is being deleted exactly if its deletion was asked
for.  Its phase depends on which strategies are given, not on their order and not on repetitions,
and on the types and statuses that its conditions have, not on the conditions that say so.  A parent
that is initialized under some strategies, and is not being deleted, stays so with more conditions,
more strategies, a generation stamp or a record of the initialization.  Without strategies its phase
is that under the default ones: it is initialized, unless it is being deleted, exactly if it is
recorded as initialized, or says that it is initialized or ready, or has a generation stamp and says
that it is available. -/
theorem phase_of_readings (strategies : List Strategy) (s : State) :
    (phase strategies s = .deleting ↔ s.deletionTimestamp ≠ none) ∧
    (∀ strategies' conditions',
      (∀ strategy, strategy ∈ strategies' ↔ strategy ∈ strategies) →
      (∀ r, r ∈ Condition.readings conditions' ↔ r ∈ Condition.readings s.conditions) →
      phase strategies' { s with conditions := conditions' } = phase strategies s) ∧
    (∀ strategies' conditions' observed' isInitialized', s.deletionTimestamp = none →
      strategies ≠ [] → strategies ⊆ strategies' →
      Condition.readings s.conditions ⊆ Condition.readings conditions' →
      (s.observed.present = true → observed'.present = true) →
      (s.isInitialized = true → isInitialized' = true) →
      phase strategies s = .initialized →
      phase strategies' { s with
        conditions := conditions', observed := observed', isInitialized := isInitialized' } =
          .initialized) ∧
    phase [] s = phase Strategy.all s ∧
    (s.deletionTimestamp = none → (phase [] s = .initialized ↔
      s.isInitialized = true ∨
        ("Initialized", "True") ∈ Condition.readings s.conditions ∨
        ("Ready", "True") ∈ Condition.readings s.conditions ∨
        s.observed.present = true ∧ ("Available", "True") ∈ Condition.readings s.conditions)) := by
  refine ⟨phase_eq_deleting_iff, fun strategies' conditions' sameStrategies sameReadings => ?_,
    fun strategies' conditions' observed' isInitialized' alive given more readings observed recorded
      initialized => ?_, rfl, fun alive => ?_⟩
  · exact phase_congr ⟨fun r => (sameReadings r).mpr, id, id⟩ ⟨fun r => (sameReadings r).mp, id, id⟩
      rfl (mem_inForce_congr sameStrategies)
  · have given' : strategies' ≠ [] := fun none => given (List.subset_nil.mp (none ▸ more))
    have advances : Advances s { s with
        conditions := conditions', observed := observed', isInitialized := isInitialized' } :=
      ⟨readings, observed, recorded⟩
    refine advances.phase_eq alive ?_ initialized
    rwa [inForce_of_ne_nil given, inForce_of_ne_nil given']
  · rw [phase_nil_eq_initialized_iff]
    exact and_iff_right alive

/-- A widget that says twice whether it is ready, and not the same. -/
def contestedWidget : State where
  ref := { apiVersion := "apps/v1", kind := "Widget", namespaceName := "default", name := "web" }
  generation := 2
  observed := .ofOption none
  controllerManager := .text ""
  controllers := []
  deletionTimestamp := none
  conditions := [⟨"Ready", "False", "Starting", ""⟩, ⟨"Ready", "True", "Started", ""⟩]
  isInitialized := false
  phaseText := ""

/-- It is initialized, also if it says so the other way round and the strategy is given twice; it
stays so with one more condition in front, a stamp and one more strategy, and it is so by
default. -/
theorem phase_of_readings_contested :
    phase [.readyCondition, .readyCondition] { contestedWidget with
      conditions := [⟨"Ready", "True", "", ""⟩, ⟨"Ready", "False", "", "late"⟩] } =
        .initialized ∧
    phase [.observedGeneration, .readyCondition] { contestedWidget with
      conditions := ⟨"Synced", "False", "", ""⟩ :: contestedWidget.conditions
      observed := .ofOption (some 1)
      isInitialized := false } = .initialized ∧
    phase [] contestedWidget = .initialized := by
  have ready : phase [.readyCondition] contestedWidget = .initialized := by decide
  obtain ⟨-, same, stays, -, default⟩ := phase_of_readings [.readyCondition] contestedWidget
  refine ⟨(same _ _ (by simp) fun r => ?_).trans ready, stays _ _ _ _ rfl (by simp) (by simp) ?_
    (fun _ => rfl) id ready, (default rfl).mpr (.inr (.inr (.inl ?_)))⟩
  · simp [Condition.readings, contestedWidget, or_comm]
  · exact List.subset_cons_self _ _
  · decide

end Lifecycle

end Driftwatch
