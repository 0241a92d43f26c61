/-
When a change is drift, and when it is denied.

* `Reason.IsWordable`: a reason has nothing in it that cannot be shown.
* `Decision.IsCaughtUp`: a parent is not being deleted, is initialized, and shows that it has
  caught up with its generation.
* `Decision.Attribution.Blames`: for all that is known, a change comes from the parent's own
  controller.
* `Decision.isDrift_reasonOn_iff`: a change under a parent is drift if both hold.
* `Decision.IsUnreadable`: a child has a controlling owner that cannot be read.
* `Decision.IsDefeated`: the parent of a child is found, and there is no room for what has to be
  read in it or shown of it.
* `Decision.recorded`: a client that keeps a record of the lookups.
* `Decision.exists_decides_iff`: there is a decision on a child unless it is defeated.
* `Decision.accords_of_decides`: a decision accords (`Decision.Accords`) with the child and with
  what the client answers.
* `Decision.reportsDrift_iff_not_isDefeated`, `Decision.failsClosed_iff_not_isDefeated`: from the
  child to the decision, whatever the client answers.
-/
import Driftwatch.Decision
import Driftwatch.Proofs.Json.Display
import Driftwatch.Proofs.Parent.Lookup
import Driftwatch.Proofs.Parent.Stamp
import Driftwatch.Proofs.Provenance.Claimants

namespace Driftwatch

/-! ### What can be shown -/

/-- The values that a reason shows, but for texts. -/
def Reason.shown : Reason → List Json
  | .differentManager fieldManager controllerManager => [fieldManager, controllerManager]
  | .unobserved generation => [.int generation]
  | .behind generation observed | .drift generation observed => [.int generation, .int observed]
  | _ => []

/-- All that a reason shows can be shown. -/
def Reason.IsWordable (room : Nat) (reason : Reason) : Prop :=
  ∀ j ∈ reason.shown, j.IsShowable room

/-- Nothing keeps a reason from being worded if all that it shows can be shown. -/
lemma Reason.obstacle?_eq_none_iff {room : Nat} {reason : Reason} :
    reason.obstacle? room = none ↔ reason.IsWordable room := by
  cases reason <;>
    simp [obstacle?, IsWordable, shown, Option.or_eq_none_iff, Json.obstacle?_eq_none_iff]

/-- Nothing keeps the time of a deletion from being shown if what stands there can be shown. -/
lemma Object.deletionObstacle?_eq_none_iff {room : Nat} {obj : Json} :
    deletionObstacle? room obj = none ↔
      ∀ time, lookup obj ["metadata", "deletionTimestamp"] = some time → time.IsShowable room := by
  rw [deletionObstacle?]
  cases lookup obj ["metadata", "deletionTimestamp"] with
  | none => simp
  | some time => simp [Json.obstacle?_eq_none_iff]

namespace Decision

open Parent (Controls Lookup Resolution Seeks Stamp State)

variable {room : Room} (strategies : List Strategy) (attribution : Attribution)

/-! ### Decisions on a state -/

/-- A decision on a parent's state is taken if its reason can be worded. -/
lemma onState_of_isWordable {state : State}
    (wordable : (reasonOn strategies attribution state).IsWordable room.reason) :
    onState room strategies attribution state =
      .ok (logged state (Lifecycle.phase strategies state)
        (reasonOn strategies attribution state)) := by
  rw [onState, Reason.obstacle?_eq_none_iff.mpr wordable]

/-- It fails if the reason cannot be worded. -/
lemma exists_onState_eq_error {state : State}
    (speechless : ¬ (reasonOn strategies attribution state).IsWordable room.reason) :
    ∃ e, onState room strategies attribution state = .error e := by
  rw [← Reason.obstacle?_eq_none_iff] at speechless
  rw [onState]
  cases hidden : (reasonOn strategies attribution state).obstacle? room.reason with
  | none => exact absurd hidden speechless
  | some obstacle => exact ⟨_, rfl⟩

/-- By the generations alone a change is drift if there is a stamp and it is the generation. -/
lemma isDrift_byGenerations_iff (state : State) :
    (byGenerations state).isDrift = true ↔
      state.observed.present = true ∧ state.observed.value = state.generation := by
  rw [byGenerations]
  cases present : state.observed.present
  · simp [Reason.isDrift]
  · by_cases same : state.generation = state.observed.value
    · simp [Reason.isDrift, same]
    · simp [Reason.isDrift, same, Ne.symm same]

/-- For all that is known, the change comes from the parent's own controller. -/
def Attribution.Blames (state : State) : Attribution → Prop
  | .unknown => True
  | .fieldManager name => name.isFalsy = true ∨ state.controllerManager.isFalsy = true ∨
      state.controllerManager.same name = true
  | .user name updaters => standing state.controllers updaters name = .controller

/-- A change under an initialized parent is drift if its stamp is its generation, unless the
change comes from somebody else. -/
theorem isDrift_reasonOn_iff (state : State) :
    (reasonOn strategies attribution state).isDrift = true ↔
      Lifecycle.phase strategies state = .initialized ∧
        (state.observed.present = true ∧ state.observed.value = state.generation) ∧
        attribution.Blames state := by
  rw [reasonOn.eq_def]
  cases Lifecycle.phase strategies state with
  | deleting => simp [Reason.isDrift]
  | initializing => simp [Reason.isDrift]
  | initialized =>
      cases attribution with
      | unknown => simp [isDrift_byGenerations_iff, Attribution.Blames]
      | fieldManager name =>
          dsimp only
          rw [byFieldManager, Attribution.Blames]
          split_ifs with differs
          · have other : ¬ (name.isFalsy = true ∨ state.controllerManager.isFalsy = true ∨
                state.controllerManager.same name = true) := by tauto
            simp [Reason.isDrift, other]
          · have own : name.isFalsy = true ∨ state.controllerManager.isFalsy = true ∨
                state.controllerManager.same name = true := by tauto
            simp [isDrift_byGenerations_iff, own]
      | user name updaters =>
          dsimp only
          rw [byUser, Attribution.Blames]
          cases standing state.controllers updaters name with
          | controller => simpa using isDrift_byGenerations_iff state
          | other => simp [Reason.isDrift]
          | undetermined => simp [Reason.isDrift]

/-- A reason can be worded if the integers of the state are not too long and the names that it may
have to show can be shown. -/
lemma isWordable_reasonOn {r : Nat} {state : State} (generation : Json.IsShort state.generation)
    (observed : Json.IsShort state.observed.value)
    (named : ∀ name, attribution = .fieldManager name → name.IsShowable r)
    (controller : state.controllerManager.IsShowable r) :
    (reasonOn strategies attribution state).IsWordable r := by
  have generations : (byGenerations state).IsWordable r := by
    rw [byGenerations]
    split_ifs <;> simp [Reason.IsWordable, Reason.shown, Json.IsShowable.int, generation, observed]
  rw [reasonOn.eq_def]
  cases Lifecycle.phase strategies state with
  | deleting => simp [Reason.IsWordable, Reason.shown]
  | initializing => simp [Reason.IsWordable, Reason.shown]
  | initialized =>
      cases attribution with
      | unknown => exact generations
      | fieldManager name =>
          dsimp only
          rw [byFieldManager]
          split_ifs
          · simp [Reason.IsWordable, Reason.shown, named name rfl, controller]
          · exact generations
      | user name updaters =>
          dsimp only
          rw [byUser]
          split
          · simp [Reason.IsWordable, Reason.shown]
          · simp [Reason.IsWordable, Reason.shown]
          · exact generations

/-- The parent has caught up with what it was asked for: it is not being deleted, is initialized,
and shows that it has caught up with its generation, which is zero if there is none. -/
structure IsCaughtUp (strategies : List Strategy) (owner : Owner) (parent : Json) : Prop where
  alive : ∀ time, Object.lookup parent ["metadata", "deletionTimestamp"] = some time → time = .null
  initialized : ∀ manager,
    Lifecycle.phase strategies (State.ofObject parent owner manager) = .initialized
  stamp : Stamp.Shows parent ((Object.intAt parent ["metadata", "generation"]).getD 0)

/-- An initialized parent is not being deleted. -/
lemma deletionTimestamp_of_initialized {state : State}
    (h : Lifecycle.phase strategies state = .initialized) : state.deletionTimestamp = none := by
  rw [Lifecycle.phase, Lifecycle.phaseUnder, State.isDeleting] at h
  cases deletion : state.deletionTimestamp with
  | none => rfl
  | some time => simp [deletion] at h

/-- What the snapshot of a parent that has caught up shows. -/
lemma isCaughtUp_iff {owner : Owner} {parent manager : Json} :
    IsCaughtUp strategies owner parent ↔
      Lifecycle.phase strategies (State.ofObject parent owner manager) = .initialized ∧
        (State.ofObject parent owner manager).observed.present = true ∧
        (State.ofObject parent owner manager).observed.value =
          (State.ofObject parent owner manager).generation := by
  have stamp : (State.ofObject parent owner manager).observed.present = true ∧
      (State.ofObject parent owner manager).observed.value =
        (State.ofObject parent owner manager).generation ↔
      Stamp.Shows parent ((Object.intAt parent ["metadata", "generation"]).getD 0) :=
    Stamp.ofStatus_iff
  rw [stamp]
  -- the phase does not depend on who owns the stamp
  refine ⟨fun h => ⟨h.initialized manager, h.stamp⟩,
    fun ⟨initialized, stamp⟩ => ⟨?_, fun _ => initialized, stamp⟩⟩
  intro time found
  have none : Object.deletionTimestamp parent = none :=
    deletionTimestamp_of_initialized strategies initialized
  rw [Object.deletionTimestamp, found] at none
  cases time with
  | null => rfl
  | _ => simp at none

/-! ### From the child to the decision -/

/-- What can be decided on: the client answers with an object or with nothing, or fails without
being interrupted. -/
def IsAnswer : Except Failure (Option Json) → Prop
  | .ok (some parent) => parent.isObject = true
  | .ok none => True
  | .error cause => cause.isInterrupt = false

/-- The child has a controlling owner that cannot be read. -/
inductive IsUnreadable (client : Lookup → Except Failure (Option Json)) (child : Json) : Prop
  | malformed {ref : Json} (controls : Controls ref child)
      (malformed : ¬ ApiVersion.IsWellFormed (Owner.ofJson ref).apiVersion)
  | unreachable {l : Lookup} {cause : Failure} (seeks : Seeks child l)
      (fails : client l = .error cause)
  | missing {l : Lookup} (seeks : Seeks child l) (gone : client l = .ok none)

/-- A parent defeats the decision on a change: the search for the owner of its stamp comes to a text
that there is no room for, or the time of its deletion cannot be shown, or something in the reason
cannot. -/
inductive Defeats (room : Room) (strategies : List Strategy) (attribution : Attribution)
    (owner : Owner) (parent : Json) : Prop
  | provenance (deep : Provenance.SearchOverruns room
      (Object.listAt parent ["metadata", "managedFields"]))
  | time {time : Json}
      (deletion : Object.lookup parent ["metadata", "deletionTimestamp"] = some time)
      (hidden : ¬ time.IsShowable room.time)
  | reason {state : State} (extracted : State.extract room parent owner = .ok state)
      (speechless : ¬ (reasonOn strategies attribution state).IsWordable room.reason)

/-- The decision on a child is defeated by its parent. -/
def IsDefeated (room : Room) (client : Lookup → Except Failure (Option Json))
    (strategies : List Strategy) (attribution : Attribution) (child : Json) : Prop :=
  ∃ l parent, Seeks child l ∧ client l = .ok (some parent) ∧
    Defeats room strategies attribution l.owner parent

/-- There is no snapshot of a parent exactly if the owner of its stamp cannot be looked for or the
time of its deletion cannot be shown. -/
lemma exists_extract_eq_error_iff {owner : Owner} {parent : Json} :
    (∃ e, State.extract room parent owner = .error e) ↔
      Provenance.SearchOverruns room (Object.listAt parent ["metadata", "managedFields"]) ∨
        ∃ time, Object.lookup parent ["metadata", "deletionTimestamp"] = some time ∧
          ¬ time.IsShowable room.time := by
  have taken : (∃ state, State.extract room parent owner = .ok state) ↔
      (∃ manager, Provenance.manager room (State.managedFields parent) = .ok manager) ∧
        Object.deletionObstacle? room.time parent = none := by
    simp only [State.extract_eq_ok_iff]
    exact ⟨fun ⟨_, manager, found, shown, _⟩ => ⟨⟨manager, found⟩, shown⟩,
      fun ⟨⟨manager, found⟩, shown⟩ => ⟨_, manager, found, shown, rfl⟩⟩
  have either {α : Type} (r : Except Failure α) : (∃ e, r = .error e) ↔ ¬ ∃ a, r = .ok a := by
    cases r <;> simp
  rw [either, taken, not_and_or, ← either, State.managedFields,
    Provenance.exists_manager_eq_error_iff, Object.deletionObstacle?_eq_none_iff]
  simp

/-- A parent defeats the decision exactly if there is none after it was found. -/
lemma defeats_iff {owner : Owner} {parent : Json} :
    Defeats room strategies attribution owner parent ↔
      ∃ e, (State.extract room parent owner).bind (onState room strategies attribution) =
        .error e := by
  constructor
  · intro defeats
    by_cases fails : ∃ e, State.extract room parent owner = .error e
    · obtain ⟨e, fails⟩ := fails
      exact ⟨e, by rw [fails]; rfl⟩
    · cases defeats with
      | provenance deep => exact absurd (exists_extract_eq_error_iff.mpr (.inl deep)) fails
      | time deletion hidden =>
          exact absurd (exists_extract_eq_error_iff.mpr (.inr ⟨_, deletion, hidden⟩)) fails
      | reason extracted speechless =>
          rw [extracted]
          exact exists_onState_eq_error strategies attribution speechless
  · rintro ⟨e, fails⟩
    rcases extracted : State.extract room parent owner with e' | state
    · obtain deep | ⟨time, deletion, hidden⟩ := exists_extract_eq_error_iff.mp ⟨e', extracted⟩
      · exact .provenance deep
      · exact .time deletion hidden
    · refine .reason extracted fun wordable => ?_
      rw [extracted, Except.bind, onState_of_isWordable strategies attribution wordable] at fails
      simp at fails

/-- What is decided once the search for the parent is over. -/
def settle (room : Room) (found : Except Failure (Resolution × List Log.Entry)) :
    Except Failure Logged :=
  found.bind fun p => (onResolution room strategies attribution p.1).map fun q => (q.1, p.2 ++ q.2)

/-- The decision follows the search for the parent. -/
lemma detect_eq {m : Type → Type} [Monad m] [LawfulMonad m]
    (fetch : Lookup → m (Except Failure (Option Json))) (child : Json) :
    detect room fetch strategies attribution child =
      settle strategies attribution room <$> Resolution.resolve room fetch child := by
  rw [detect, map_eq_pure_bind]
  refine bind_congr fun found => ?_
  cases found <;> rfl

/-- A client that keeps a record of the lookups. -/
def recorded (client : Lookup → Except Failure (Option Json)) (l : Lookup) :
    StateM (List Lookup) (Except Failure (Option Json)) :=
  fun lookups => (client l, lookups ++ [l])

variable {client : Lookup → Except Failure (Option Json)} {child : Json}

/-- The search makes at most one lookup. -/
lemma run_detect_recorded (lookups : List Lookup) :
    (detect room (recorded client) strategies attribution child).run lookups =
      (detect (m := Id) room client strategies attribution child,
        match Resolution.lookup child with
        | .ok (some l) => lookups ++ [l]
        | _ => lookups) := by
  rw [detect_eq, detect_eq, Resolution.resolve, Resolution.resolve]
  rcases Resolution.lookup child with e | (_ | l) <;> rfl

/-- A change of the child is decided on in this way. -/
def Decides (room : Room) (client : Lookup → Except Failure (Option Json))
    (strategies : List Strategy) (attribution : Attribution) (child : Json) (d : Decision) : Prop :=
  ∃ logs, detect (m := Id) room client strategies attribution child = .ok (d, logs)

/-- There is no more than one decision. -/
lemma Decides.unique {d d' : Decision} (h : Decides room client strategies attribution child d)
    (h' : Decides room client strategies attribution child d') : d = d' := by
  obtain ⟨logs, decided⟩ := h
  obtain ⟨logs', decided'⟩ := h'
  exact (Prod.mk.inj (Except.ok.inj (decided.symm.trans decided'))).1

/-- Nobody controls the child. -/
lemma decides_of_unowned (unowned : ∀ ref, ¬ Controls ref child) :
    Decides room client strategies attribution child (apart true .unowned) := by
  rw [Decides, detect_eq, Resolution.resolve, Resolution.lookup_of_unowned unowned]
  exact ⟨_, rfl⟩

/-- The parent is looked up. -/
lemma detect_of_seeks {l : Lookup} (seeks : Seeks child l) :
    detect (m := Id) room client strategies attribution child =
      settle strategies attribution room (Resolution.conclude room l.owner (client l)) := by
  rw [detect_eq, Resolution.resolve, Resolution.lookup_eq_some_iff.mpr seeks]
  rfl

/-- The parent is found. -/
lemma detect_of_found {l : Lookup} {parent : Json} (seeks : Seeks child l)
    (found : client l = .ok (some parent)) (object : parent.isObject = true) :
    ∃ notices, detect (m := Id) room client strategies attribution child =
      ((State.extract room parent l.owner).bind (onState room strategies attribution)).map
        fun q => (q.1, notices ++ q.2) := by
  rw [detect_of_seeks strategies attribution seeks, found, Resolution.conclude, Object.require,
    if_pos object]
  dsimp only
  rcases State.extract room parent l.owner with e | state
  · exact ⟨[], rfl⟩
  · exact ⟨_, rfl⟩

/-- The parent is found, and the decision can be worded. -/
lemma decides_of_found {l : Lookup} {parent : Json} {state : State} (seeks : Seeks child l)
    (found : client l = .ok (some parent)) (object : parent.isObject = true)
    (extracted : State.extract room parent l.owner = .ok state)
    (wordable : (reasonOn strategies attribution state).IsWordable room.reason) :
    Decides room client strategies attribution child
      (on state (Lifecycle.phase strategies state) (reasonOn strategies attribution state)) := by
  obtain ⟨notices, detected⟩ := detect_of_found strategies attribution seeks found object
  rw [Decides, detected, extracted, Except.bind,
    onState_of_isWordable strategies attribution wordable]
  exact ⟨_, rfl⟩

/-- The parent is found, and it defeats the decision. -/
lemma exists_detect_eq_error (answers : ∀ l, IsAnswer (client l))
    (defeated : IsDefeated room client strategies attribution child) :
    ∃ e, detect (m := Id) room client strategies attribution child = .error e := by
  obtain ⟨l, parent, seeks, found, defeats⟩ := defeated
  have object : parent.isObject = true := by
    have answer := answers l
    rwa [found] at answer
  obtain ⟨notices, detected⟩ := detect_of_found strategies attribution seeks found object
  obtain ⟨e, fails⟩ := (defeats_iff strategies attribution).mp defeats
  exact ⟨e, by rw [detected, fails]; rfl⟩

/-- The parent cannot be read. -/
lemma decides_of_isUnreadable (answers : ∀ l, IsAnswer (client l))
    (h : IsUnreadable client child) : ∃ error,
      Decides room client strategies attribution child (apart false (.unresolved error)) := by
  cases h with
  | malformed controls malformed =>
      obtain ⟨error, fails⟩ := Resolution.lookup_of_not_isWellFormed controls malformed
      refine ⟨error, [denialNotice error], ?_⟩
      rw [detect_eq, Resolution.resolve, fails]
      rfl
  | @unreachable l cause seeks fails =>
      have calm : cause.isInterrupt = false := by
        have answer := answers l
        rwa [fails] at answer
      refine ⟨.unreachable l.owner cause, [denialNotice (.unreachable l.owner cause)], ?_⟩
      rw [detect_of_seeks strategies attribution seeks, fails, Resolution.conclude, calm]
      rfl
  | @missing l seeks gone =>
      refine ⟨.missing l.owner, [denialNotice (.missing l.owner)], ?_⟩
      rw [detect_of_seeks strategies attribution seeks, gone]
      rfl

/-- Nobody controls the child, or its parent cannot be read, or the parent is found. -/
lemma unowned_or_isUnreadable_or_found (client : Lookup → Except Failure (Option Json))
    (child : Json) : (∀ ref, ¬ Controls ref child) ∨ IsUnreadable client child ∨
      ∃ l parent, Seeks child l ∧ client l = .ok (some parent) := by
  by_cases owned : ∃ ref, Controls ref child
  · obtain ⟨ref, controls⟩ := owned
    by_cases wellFormed : ApiVersion.IsWellFormed (Owner.ofJson ref).apiVersion
    · have seeks : Seeks child ⟨Owner.ofJson ref, Object.namespaceName child⟩ :=
        ⟨ref, controls, wellFormed, rfl⟩
      cases answer : client ⟨Owner.ofJson ref, Object.namespaceName child⟩ with
      | error cause => exact .inr (.inl (.unreachable seeks answer))
      | ok found =>
          cases found with
          | none => exact .inr (.inl (.missing seeks answer))
          | some parent => exact .inr (.inr ⟨_, parent, seeks, answer⟩)
    · exact .inr (.inl (.malformed controls wellFormed))
  · exact .inl (not_exists.mp owned)

/-- A parent that is found can be read. -/
lemma not_isUnreadable_of_found {l : Lookup} {parent : Json} (seeks : Seeks child l)
    (found : client l = .ok (some parent)) : ¬ IsUnreadable client child := by
  rintro (⟨controls, malformed⟩ | ⟨seeks', fails⟩ | ⟨seeks', gone⟩)
  · obtain ⟨e, fails⟩ := Resolution.lookup_of_not_isWellFormed controls malformed
    simp [Resolution.lookup_eq_some_iff.mpr seeks] at fails
  · simp [seeks'.unique seeks, found] at fails
  · simp [seeks'.unique seeks, found] at gone

/-! ### Accord -/

/-- A decision accords with the child and with what the client answers. -/
structure Accords (room : Room) (client : Lookup → Except Failure (Option Json))
    (strategies : List Strategy) (attribution : Attribution) (child : Json) (d : Decision) :
    Prop where
  isDrift_iff : d.isDrift = true ↔ ∃ l parent, Seeks child l ∧ client l = .ok (some parent) ∧
    IsCaughtUp strategies l.owner parent ∧
      ∃ state, State.extract room parent l.owner = .ok state ∧ attribution.Blames state
  parentState_iff : ∀ state, d.parentState = some state ↔ ∃ l parent, Seeks child l ∧
    client l = .ok (some parent) ∧ State.extract room parent l.owner = .ok state
  named : ∀ state, d.parentState = some state →
    d.parentRef = some state.ref ∧ d.phase = some (Lifecycle.phase strategies state)
  allowed_iff : d.allowed = false ↔ IsUnreadable client child
  denied : d.allowed = false → d.parentRef = none ∧ d.phase = none ∧
    ∃ error, d.reason = "failed to resolve parent: " ++ error

/-- A decision without a parent accords if there is none, or none that can be read. -/
lemma accords_apart {allowed : Bool} {reason : Reason}
    (lost : ∀ l parent, Seeks child l → client l ≠ .ok (some parent))
    (denied : allowed = false ↔ IsUnreadable client child)
    (words : allowed = false → ∃ error, reason.text = "failed to resolve parent: " ++ error) :
    Accords room client strategies attribution child (apart allowed reason) where
  isDrift_iff := by
    refine ⟨fun h => by simp [apart] at h, fun ⟨l, parent, seeks, found, _⟩ => ?_⟩
    exact absurd found (lost l parent seeks)
  parentState_iff state := by
    refine ⟨fun h => by simp [apart] at h, fun ⟨l, parent, seeks, found, _⟩ => ?_⟩
    exact absurd found (lost l parent seeks)
  named state h := by simp [apart] at h
  allowed_iff := denied
  denied h := ⟨rfl, rfl, words h⟩

/-- A decision on the state of the parent that was found accords. -/
lemma accords_on {l : Lookup} {parent : Json} {state : State} (seeks : Seeks child l)
    (found : client l = .ok (some parent))
    (extracted : State.extract room parent l.owner = .ok state) :
    Accords room client strategies attribution child
      (on state (Lifecycle.phase strategies state) (reasonOn strategies attribution state)) := by
  -- no other parent can be found
  have same {l' : Lookup} {parent' : Json} (seeks' : Seeks child l')
      (found' : client l' = .ok (some parent')) : l' = l ∧ parent' = parent := by
    obtain rfl := seeks'.unique seeks
    simpa using found'.symm.trans found
  have snapshot {state' : State} :
      State.extract room parent l.owner = .ok state' ↔ state = state' := by
    rw [extracted, Except.ok.injEq]
  refine ⟨?_, fun state' => ?_, fun state' h => ?_, ?_, fun h => ?_⟩
  · have isDrift : (reasonOn strategies attribution state).isDrift = true ↔
        IsCaughtUp strategies l.owner parent ∧ attribution.Blames state := by
      obtain ⟨manager, -, -, rfl⟩ := State.extract_eq_ok_iff.mp extracted
      rw [isDrift_reasonOn_iff, ← and_assoc, ← isCaughtUp_iff]
    refine isDrift.trans ⟨fun ⟨caughtUp, blames⟩ => ?_, fun ⟨l', parent', seeks', found', h⟩ => ?_⟩
    · exact ⟨l, parent, seeks, found, caughtUp, state, extracted, blames⟩
    · obtain ⟨rfl, rfl⟩ := same seeks' found'
      obtain ⟨caughtUp, state', extracted', blames⟩ := h
      exact ⟨caughtUp, snapshot.mp extracted' ▸ blames⟩
  · rw [on, Option.some_inj, ← snapshot]
    constructor
    · intro extracted'
      exact ⟨l, parent, seeks, found, extracted'⟩
    · rintro ⟨l', parent', seeks', found', extracted'⟩
      obtain ⟨rfl, rfl⟩ := same seeks' found'
      exact extracted'
  · obtain rfl := Option.some.inj h
    exact ⟨rfl, rfl⟩
  · exact iff_of_false Bool.false_ne_true.symm (not_isUnreadable_of_found seeks found)
  · exact absurd h Bool.false_ne_true.symm

/-- There is a decision unless it is defeated, and it accords with the child and with what the
client answers. -/
lemma exists_decides_accords (answers : ∀ l, IsAnswer (client l))
    (fits : ¬ IsDefeated room client strategies attribution child) :
    ∃ d, Decides room client strategies attribution child d ∧
      Accords room client strategies attribution child d := by
  rcases unowned_or_isUnreadable_or_found client child with
    unowned | unreadable | ⟨l, parent, seeks, found⟩
  · have unsought (l : Lookup) : ¬ Seeks child l := fun ⟨ref, controls, _⟩ => unowned ref controls
    refine ⟨_, decides_of_unowned strategies attribution unowned, accords_apart strategies
      attribution (fun l parent seeks => absurd seeks (unsought l)) ?_ (by simp)⟩
    refine iff_of_false Bool.false_ne_true.symm ?_
    rintro (⟨controls, -⟩ | ⟨seeks, -⟩ | ⟨seeks, -⟩)
    · exact unowned _ controls
    · exact unsought _ seeks
    · exact unsought _ seeks
  · obtain ⟨error, decides⟩ :=
      decides_of_isUnreadable strategies attribution answers unreadable
    refine ⟨_, decides, accords_apart strategies attribution (fun l parent seeks found => ?_)
      (iff_of_true rfl unreadable) fun _ => ⟨error.message, rfl⟩⟩
    exact not_isUnreadable_of_found seeks found unreadable
  · have object : parent.isObject = true := by
      have answer := answers l
      rwa [found] at answer
    have stands : ¬ Defeats room strategies attribution l.owner parent :=
      fun defeats => fits ⟨l, parent, seeks, found, defeats⟩
    rcases extracted : State.extract room parent l.owner with e | state
    · exact absurd ((defeats_iff strategies attribution).mpr ⟨e, by rw [extracted]; rfl⟩) stands
    · have wordable : (reasonOn strategies attribution state).IsWordable room.reason :=
        Classical.byContradiction fun speechless => stands (.reason extracted speechless)
      exact ⟨_, decides_of_found strategies attribution seeks found object extracted wordable,
        accords_on strategies attribution seeks found extracted⟩

/-- There is a decision exactly if it is not defeated. -/
theorem exists_decides_iff (answers : ∀ l, IsAnswer (client l)) :
    (∃ d, Decides room client strategies attribution child d) ↔
      ¬ IsDefeated room client strategies attribution child := by
  constructor
  · rintro ⟨d, logs, decided⟩ defeated
    obtain ⟨e, fails⟩ := exists_detect_eq_error strategies attribution answers defeated
    simp [decided] at fails
  · intro fits
    obtain ⟨d, decides, -⟩ := exists_decides_accords strategies attribution answers fits
    exact ⟨d, decides⟩

/-- Every decision accords with the child and with what the client answers. -/
theorem accords_of_decides (answers : ∀ l, IsAnswer (client l)) {d : Decision}
    (decides : Decides room client strategies attribution child d) :
    Accords room client strategies attribution child d := by
  have fits := (exists_decides_iff strategies attribution answers).mp ⟨d, decides⟩
  obtain ⟨d', decides', accords⟩ := exists_decides_accords strategies attribution answers fits
  exact decides'.unique strategies attribution decides ▸ accords

/-! ### Drift -/

/-- Without a field manager, or without a known controller manager, or if both are the same, the
change comes from the parent's own controller. -/
lemma blames_fieldManager_iff {parent : Json} {owner : Owner} {state : State}
    (extracted : State.extract room parent owner = .ok state) (manager : String) :
    (Attribution.fieldManager (.text manager)).Blames state ↔
      manager = "" ∨ state.controllerManager = .text "" ∨
        state.controllerManager = .text manager := by
  have unnamed : (Json.text manager).isFalsy = true ↔ manager = "" := by
    simp [Json.isFalsy]
  have unknown : state.controllerManager.isFalsy = true ↔ state.controllerManager = .text "" := by
    obtain ⟨name, found, -, rfl⟩ := State.extract_eq_ok_iff.mp extracted
    exact Provenance.isFalsy_iff_of_manager_eq found
  have equal (j : Json) : j.same (.text manager) = true ↔ j = .text manager := by
    cases j <;> simp [Json.same]
  rw [Attribution.Blames, unnamed, unknown, equal]

/-- An attribution turns drift into no drift if the change comes from somebody else. -/
lemma Accords.isDrift_iff_blames {plain d : Decision}
    (h : Accords room client strategies .unknown child plain)
    (h' : Accords room client strategies attribution child d) :
    d.isDrift = true ↔ plain.isDrift = true ∧
      ∃ state, plain.parentState = some state ∧ attribution.Blames state := by
  rw [h.isDrift_iff, h'.isDrift_iff]
  constructor
  · rintro ⟨l, parent, seeks, found, caughtUp, state, extracted, blames⟩
    exact ⟨⟨l, parent, seeks, found, caughtUp, state, extracted, trivial⟩, state,
      (h.parentState_iff _).mpr ⟨l, parent, seeks, found, extracted⟩, blames⟩
  · rintro ⟨⟨l, parent, seeks, found, caughtUp, state, extracted, -⟩, state', attached, blames⟩
    have snapshot := (h.parentState_iff _).mpr ⟨l, parent, seeks, found, extracted⟩
    obtain rfl := Option.some.inj (attached.symm.trans snapshot)
    exact ⟨l, parent, seeks, found, caughtUp, state', extracted, blames⟩

/-- A parent that does not defeat the decision has a snapshot. -/
lemma exists_extract_of_not_isDefeated {l : Lookup} {parent : Json}
    (fits : ¬ IsDefeated room client strategies attribution child) (seeks : Seeks child l)
    (found : client l = .ok (some parent)) :
    ∃ state, State.extract room parent l.owner = .ok state := by
  rcases extracted : State.extract room parent l.owner with e | state
  · refine absurd ⟨l, parent, seeks, found, ?_⟩ fits
    exact (defeats_iff strategies attribution).mpr ⟨e, by rw [extracted]; rfl⟩
  · exact ⟨state, rfl⟩

/-- Drift is reported when it should be, for all three ways to attribute a change.  Without
attribution it is drift exactly if the child has a controlling owner with a well-formed API version,
the client has an object for it, and that parent has caught up; a field manager makes it no drift if
the manager of the parent's stamp is known and another one, and a user makes it no drift unless the
user is known to be the controller.  The snapshot of the parent is attached if the client has an
object for it, and then the decision names it and its phase. -/
def ReportsDrift (room : Room) (client : Lookup → Except Failure (Option Json))
    (strategies : List Strategy) (child : Json) (manager username : String)
    (updaters : List String) : Prop :=
  ∃ plain managed used,
    Decides room client strategies .unknown child plain ∧
    Decides room client strategies (.fieldManager (.text manager)) child managed ∧
    Decides room client strategies (.user username updaters) child used ∧
    (plain.isDrift = true ↔ ∃ l parent, Seeks child l ∧ client l = .ok (some parent) ∧
      IsCaughtUp strategies l.owner parent) ∧
    (managed.isDrift = true ↔ plain.isDrift = true ∧
      ∃ state, plain.parentState = some state ∧ (manager = "" ∨
        state.controllerManager = .text "" ∨ state.controllerManager = .text manager)) ∧
    (used.isDrift = true ↔ plain.isDrift = true ∧
      ∃ state, plain.parentState = some state ∧
        standing state.controllers updaters username = .controller) ∧
    ∀ d ∈ [plain, managed, used],
      (∀ state, d.parentState = some state ↔ ∃ l parent, Seeks child l ∧
        client l = .ok (some parent) ∧ State.extract room parent l.owner = .ok state) ∧
      ∀ state, d.parentState = some state →
        d.parentRef = some state.ref ∧ d.phase = some (Lifecycle.phase strategies state)

/-- **When drift is reported.**  Whatever the client answers, drift is reported when it should be,
unless one of the three decisions is defeated by the parent.  A decision that is taken accords with
the child and with what the client answers all the same. -/
theorem reportsDrift_iff_not_isDefeated (room : Room) (strategies : List Strategy)
    (answers : ∀ l, IsAnswer (client l)) (child : Json) (manager username : String)
    (updaters : List String) :
    (ReportsDrift room client strategies child manager username updaters ↔
      ∀ attribution ∈ [.unknown, .fieldManager (.text manager), .user username updaters],
        ¬ IsDefeated room client strategies attribution child) ∧
    ∀ attribution d, Decides room client strategies attribution child d →
      Accords room client strategies attribution child d := by
  have exists_iff (attribution : Attribution) :
      (∃ d, Decides room client strategies attribution child d) ↔
        ¬ IsDefeated room client strategies attribution child :=
    exists_decides_iff strategies attribution answers
  refine ⟨?_, fun attribution d => accords_of_decides strategies attribution answers⟩
  simp only [List.forall_mem_cons, ← exists_iff]
  constructor
  · rintro ⟨plain, managed, used, decidesPlain, decidesManaged, decidesUsed, -⟩
    exact ⟨⟨plain, decidesPlain⟩, ⟨managed, decidesManaged⟩, ⟨used, decidesUsed⟩, by simp⟩
  · rintro ⟨⟨plain, decidesPlain⟩, ⟨managed, decidesManaged⟩, ⟨used, decidesUsed⟩, -⟩
    have accordsPlain := accords_of_decides strategies _ answers decidesPlain
    have accordsManaged := accords_of_decides strategies _ answers decidesManaged
    have accordsUsed := accords_of_decides strategies _ answers decidesUsed
    refine ⟨plain, managed, used, decidesPlain, decidesManaged, decidesUsed, ?_, ?_, ?_, ?_⟩
    · rw [accordsPlain.isDrift_iff]
      refine exists_congr fun l => exists_congr fun parent => and_congr_right fun seeks =>
        and_congr_right fun found => ⟨fun ⟨caughtUp, _⟩ => caughtUp, fun caughtUp => ?_⟩
      have fits := (exists_iff .unknown).mp ⟨plain, decidesPlain⟩
      obtain ⟨state, extracted⟩ := exists_extract_of_not_isDefeated strategies _ fits seeks found
      exact ⟨caughtUp, state, extracted, trivial⟩
    · rw [accordsPlain.isDrift_iff_blames strategies _ accordsManaged]
      refine and_congr_right fun _ => exists_congr fun state => and_congr_right fun attached => ?_
      obtain ⟨l, parent, -, -, extracted⟩ := (accordsPlain.parentState_iff state).mp attached
      exact blames_fieldManager_iff extracted manager
    · exact accordsPlain.isDrift_iff_blames strategies _ accordsUsed
    · intro d mem
      simp only [List.mem_cons, List.not_mem_nil, or_false] at mem
      rcases mem with rfl | rfl | rfl
      · exact ⟨accordsPlain.parentState_iff, accordsPlain.named⟩
      · exact ⟨accordsManaged.parentState_iff, accordsManaged.named⟩
      · exact ⟨accordsUsed.parentState_iff, accordsUsed.named⟩

/-- A child that a deployment controls, beside an owner reference that is no object. -/
def ownedChild : Json :=
  .object [("metadata", .object [("namespace", .text "default"), ("ownerReferences", .list
    [.text "web", .object [("apiVersion", .text "apps/v1"), ("kind", .text "Deployment"),
      ("name", .text "web"), ("controller", .bool true)]])])]

/-- A deployment that has caught up, with a payload in the managed fields of the manager `ctrl`. -/
def caughtUpDeployment (payload : Json) : Json :=
  .object [("metadata", .object [("generation", .int 5), ("managedFields", .list
      [.object [("manager", .text "ctrl"), ("fieldsV1", payload)]])]),
    ("status", .object [("observedGeneration", .int 5), ("conditions", .list
      [.object [("type", .text "Ready"), ("status", .text "True")]])])]

/-- The payload of a manager that has written the stamp of the status. -/
def stampPayload : Json :=
  .object [("f:status", .object [("f:observedGeneration", .object [])])]

/-- A change under a deployment that has caught up is drift, also if the only one who ever changed
the child makes it, and no drift if another field manager makes it. -/
theorem isDrift_of_caught_up_deployment :
    let client := fun _ : Lookup =>
      (.ok (some (caughtUpDeployment stampPayload)) : Except Failure (Option Json))
    let updaters := [Fingerprint.ofIdentity "alice"]
    ReportsDrift (.below 10) client [] ownedChild "kubectl" "alice" updaters ∧
    ∃ plain managed used,
      Decides (.below 10) client [] .unknown ownedChild plain ∧
      Decides (.below 10) client [] (.fieldManager (.text "kubectl")) ownedChild managed ∧
      Decides (.below 10) client [] (.user "alice" updaters) ownedChild used ∧
      plain.isDrift = true ∧ managed.isDrift = false ∧ used.isDrift = true := by
  intro client updaters
  have answers : ∀ l : Lookup, IsAnswer (client l) := fun _ => rfl
  have seeks : Seeks ownedChild _ := Resolution.lookup_eq_some_iff.mp rfl
  have manages : Provenance.manager (.below 10)
      (State.managedFields (caughtUpDeployment stampPayload)) = .ok (.text "ctrl") := by
    decide +kernel
  have extracted (owner : Owner) :
      State.extract (.below 10) (caughtUpDeployment stampPayload) owner =
        .ok (.ofObject (caughtUpDeployment stampPayload) owner (.text "ctrl")) :=
    State.extract_eq_ok_iff.mpr ⟨_, manages, rfl, rfl⟩
  have fits (attribution : Attribution)
      (named : ∀ name, attribution = .fieldManager name → name.IsShowable (Room.below 10).reason) :
      ¬ IsDefeated (.below 10) client [] attribution ownedChild := by
    have short : Json.IsShort 5 := by
      unfold Json.IsShort
      decide
    exact (exists_decides_iff [] attribution answers).mp ⟨_, decides_of_found [] attribution seeks
      rfl rfl (extracted _) (isWordable_reasonOn [] attribution short short named (.text "ctrl"))⟩
  obtain ⟨reports_iff, accords⟩ := reportsDrift_iff_not_isDefeated (.below 10) [] answers ownedChild
    "kubectl" "alice" updaters
  have reports := reports_iff.mpr (by
    simp only [List.forall_mem_cons]
    exact ⟨fits _ (by simp), fits _ (by rintro _ ⟨⟩; exact .text _), fits _ (by simp), by simp⟩)
  refine ⟨reports, ?_⟩
  obtain ⟨plain, managed, used, decidesPlain, decidesManaged, decidesUsed, isPlain, isManaged,
      isUsed, named⟩ := reports
  have drift : plain.isDrift = true := by
    refine isPlain.mpr ⟨_, _, seeks, rfl, fun time deletion => ?_, fun _ => rfl, .status rfl⟩
    simp [caughtUpDeployment, Object.lookup, Json.get?, Json.field?] at deletion
  have attached := ((named plain (by simp)).1 _).mpr ⟨_, _, seeks, rfl, extracted _⟩
  refine ⟨plain, managed, used, decidesPlain, decidesManaged, decidesUsed, drift, ?_, ?_⟩
  · rw [Bool.eq_false_iff]
    intro other
    obtain ⟨-, state, attached', same⟩ := isManaged.mp other
    obtain rfl := Option.some.inj (attached.symm.trans attached')
    simp [State.ofObject] at same
  · exact isUsed.mpr ⟨drift, _, attached, by simp [standing, updaters]⟩

/-- The deployment with a text of brackets that nothing closes in its managed fields. -/
def nestedDeployment : Json :=
  caughtUpDeployment (.text (Json.openBrackets 1000))

/-- The client that finds this deployment. -/
def nested (_ : Lookup) : Except Failure (Option Json) :=
  .ok (some nestedDeployment)

/-- The deployment defeats every decision. -/
lemma not_decides_nested (d : Decision) :
    ¬ Decides (.below 10) nested strategies attribution ownedChild d := by
  have overruns : Provenance.Overruns (.below 10)
      (.object [("manager", .text "ctrl"), ("fieldsV1", .text (Json.openBrackets 1000))]) :=
    ⟨_, rfl, .inl rfl, .inl ⟨.square, .text (Json.overrunsText_openBrackets (by decide))⟩⟩
  have answers (l : Lookup) : IsAnswer (nested l) := rfl
  have seeks : Seeks ownedChild _ := Resolution.lookup_eq_some_iff.mp rfl
  rintro ⟨logs, decided⟩
  obtain ⟨e, fails⟩ := exists_detect_eq_error strategies attribution answers
    ⟨_, nestedDeployment, seeks, rfl, .provenance ⟨_, ⟨[], [], rfl, by simp⟩, overruns⟩⟩
  simp [decided] at fails

/-- Drift is not reported under the deployment: there is no decision at all. -/
theorem not_reportsDrift_nested :
    ¬ ReportsDrift (.below 10) nested [] ownedChild "kubectl" "alice" [] := by
  rintro ⟨plain, managed, used, decides, -⟩
  exact not_decides_nested [] .unknown plain decides

/-! ### Denial -/

/-- A change is denied when it should be.  There is a decision, and the change is denied exactly if
the child has a controlling owner that cannot be read; then the decision carries nothing of a parent
and a reason that speaks of it.  The client is asked once for the controlling owner if its API
version is well-formed, and is not asked at all otherwise. -/
def FailsClosed (room : Room) (client : Lookup → Except Failure (Option Json))
    (strategies : List Strategy) (attribution : Attribution) (child : Json) : Prop :=
  ∃ d logs lookups,
    (detect room (recorded client) strategies attribution child).run [] = (.ok (d, logs), lookups) ∧
    (d.allowed = false ↔ IsUnreadable client child) ∧
    (d.allowed = false → d.isDrift = false ∧ d.parentRef = none ∧ d.parentState = none ∧
      d.phase = none ∧ ∃ error, d.reason = "failed to resolve parent: " ++ error) ∧
    (∀ l, Seeks child l → lookups = [l]) ∧
    ((∀ l, ¬ Seeks child l) → lookups = [])

/-- The client is asked once for the controlling owner, if its API version is well-formed, and is
not asked at all otherwise. -/
lemma lookups_of_run (room : Room) (client : Lookup → Except Failure (Option Json)) (child : Json) :
    (∀ l, Seeks child l →
      ((detect room (recorded client) strategies attribution child).run []).2 = [l]) ∧
    ((∀ l, ¬ Seeks child l) →
      ((detect room (recorded client) strategies attribution child).run []).2 = []) := by
  rw [run_detect_recorded]
  refine ⟨fun l seeks => ?_, fun unsought => ?_⟩
  · rw [Resolution.lookup_eq_some_iff.mpr seeks]
    rfl
  · cases sought : Resolution.lookup child with
    | error e => rfl
    | ok l? =>
        cases l? with
        | none => rfl
        | some l => exact absurd (Resolution.lookup_eq_some_iff.mp sought) (unsought l)

/-- **When a change is denied.**  Whatever the child is, whatever the client answers and whatever is
known of who makes the change, it is denied when it should be, unless the parent is found and
defeats the decision.  So it is denied whenever the parent cannot be read.  How often the client is
asked does not depend on what it answers. -/
theorem failsClosed_iff_not_isDefeated (room : Room) (answers : ∀ l, IsAnswer (client l))
    (child : Json) :
    (FailsClosed room client strategies attribution child ↔
      ¬ IsDefeated room client strategies attribution child) ∧
    (IsUnreadable client child → FailsClosed room client strategies attribution child) ∧
    (∀ l, Seeks child l →
      ((detect room (recorded client) strategies attribution child).run []).2 = [l]) ∧
    ((∀ l, ¬ Seeks child l) →
      ((detect room (recorded client) strategies attribution child).run []).2 = []) := by
  have lookups := lookups_of_run strategies attribution room client child
  have closed (fits : ¬ IsDefeated room client strategies attribution child) :
      FailsClosed room client strategies attribution child := by
    obtain ⟨d, ⟨logs, decided⟩, accords⟩ :=
      exists_decides_accords strategies attribution answers fits
    have run : (detect room (recorded client) strategies attribution child).run [] = _ :=
      run_detect_recorded strategies attribution []
    rw [decided] at run
    refine ⟨d, logs, _, run, accords.allowed_iff, fun denied => ?_, ?_, ?_⟩
    · have unfound {l : Lookup} {parent : Json} (seeks : Seeks child l)
          (found : client l = .ok (some parent)) : False :=
        not_isUnreadable_of_found seeks found (accords.allowed_iff.mp denied)
      obtain ⟨unnamed, phaseless, reason⟩ := accords.denied denied
      refine ⟨?_, unnamed, ?_, phaseless, reason⟩
      · rw [Bool.eq_false_iff]
        intro drift
        obtain ⟨l, parent, seeks, found, -⟩ := accords.isDrift_iff.mp drift
        exact unfound seeks found
      · rw [Option.eq_none_iff_forall_ne_some]
        intro state attached
        obtain ⟨l, parent, seeks, found, -⟩ := (accords.parentState_iff state).mp attached
        exact unfound seeks found
    · rw [run] at lookups
      exact lookups.1
    · rw [run] at lookups
      exact lookups.2
  refine ⟨⟨?_, closed⟩, fun unreadable => closed ?_, lookups⟩
  · rintro ⟨d, logs, _, run, -⟩
    rw [run_detect_recorded] at run
    exact (exists_decides_iff strategies attribution answers).mp ⟨d, logs, (Prod.mk.inj run).1⟩
  · rintro ⟨l, parent, seeks, found, -⟩
    exact not_isUnreadable_of_found seeks found unreadable

/-- The client that the server forbids to read anything. -/
def forbidden (_ : Lookup) : Except Failure (Option Json) :=
  .error (.fault (.api (.int 403) (.text "Forbidden")))

/-- A change of a child is denied if nobody may read its parent, and the parent is asked for
once. -/
theorem denied_of_forbidden : ∃ d logs owner,
    (detect (.below 10) (recorded forbidden) [] (.fieldManager (.text "kubectl"))
      ownedChild).run [] = (.ok (d, logs), [{ owner, namespaceName := "default" }]) ∧
    owner.name = "web" ∧ d.allowed = false := by
  have answers (l : Lookup) : IsAnswer (forbidden l) := rfl
  have seeks : Seeks ownedChild _ := Resolution.lookup_eq_some_iff.mp rfl
  have unreadable : IsUnreadable forbidden ownedChild := .unreachable seeks rfl
  obtain ⟨d, logs, lookups, run, denied_iff, -, once, -⟩ :=
    (failsClosed_iff_not_isDefeated [] (.fieldManager (.text "kubectl")) (.below 10) answers
      ownedChild).2.1 unreadable
  obtain rfl := once _ seeks
  exact ⟨d, logs, _, run, rfl, denied_iff.mpr unreadable⟩

/-- A change of a child of the deployment with a text of brackets is not decided on. -/
theorem not_failsClosed_nested : ¬ FailsClosed (.below 10) nested [] .unknown ownedChild := by
  rintro ⟨d, logs, _, run, -⟩
  rw [run_detect_recorded] at run
  exact not_decides_nested [] .unknown d ⟨logs, (Prod.mk.inj run).1⟩

end Decision

end Driftwatch
