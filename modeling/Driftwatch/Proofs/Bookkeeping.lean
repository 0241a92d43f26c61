/-
What is recorded on a parent does not disturb the decisions on its children.

* `Merge.Revises`: an object is another one under any resource version.
* `Parent.State.extract_of_keeps`: as long as all is kept that others have written, two snapshots
  of a parent differ in its roster and its recorded phase only, and if there is none of one there is
  none of the other.
* `Lifecycle.phase_withRecords`: the phase is the same then, or an initialization was recorded.
* `Decision.Agrees`: two decisions say the same, whatever snapshots they are based on.
* `Decision.EndsAlike`: two attempts at a decision fail alike, or the decisions agree.
* `Decision.agrees_of_recorded`: as long as the phase is the same, decisions by the generations and
  by field managers agree before and after a batch was folded into the parent.
-/
import Driftwatch.Proofs.Decision
import Driftwatch.Proofs.Traffic.Phases

namespace Driftwatch

/-! ### Resource versions -/

namespace Merge

variable {obj obj' : Json}

/-- The second object is the first one under any resource version. -/
structure Revises (obj obj' : Json) : Prop where
  fields : ∀ name ≠ "metadata", obj'.get? name = obj.get? name
  metadata : ∀ name ≠ "resourceVersion",
    (obj'.getOrNull "metadata").get? name = (obj.getOrNull "metadata").get? name

/-- The annotations are the same under any resource version. -/
lemma Revises.mapAt (h : Revises obj obj') :
    Object.mapAt obj' ["metadata", "annotations"] =
      Object.mapAt obj ["metadata", "annotations"] := by
  rw [Object.mapAt, Object.mapAt, Object.lookup_metadata, Object.lookup_metadata,
    h.metadata _ (by decide)]

/-- A revision keeps what others have written. -/
lemma Revises.keeps (h : Revises obj obj') : Keeps obj obj' where
  fields := h.fields
  metadata name _ version := h.metadata name version
  annotations _ _ _ := by rw [h.mapAt]

/-- An annotation shows the same under any resource version. -/
lemma Revises.annotationText (h : Revises obj obj') (name : String) :
    Object.annotationText obj' name = Object.annotationText obj name := by
  rw [Object.annotationText, Object.annotationText, h.mapAt]

lemma revises_withVersion (obj : Json) (version : String) :
    Revises obj (Store.withVersion obj version) where
  fields := (keeps_withVersion obj version).fields
  metadata _ other := get?_metadata_withVersion obj version other

end Merge

/-! ### Snapshots -/

namespace Parent.State

/-- A snapshot with another roster and another recorded phase. -/
def withRecords (s : State) (controllers : List String) (phaseText : String) : State :=
  { s with
    controllers
    isInitialized := phaseText == Vocabulary.initialized
    phaseText }

/-- As long as all is kept that others have written, snapshots differ in the roster and in the
recorded phase only. -/
lemma ofObject_of_keeps {obj obj' : Json} (h : Merge.Keeps obj obj') (owner : Owner)
    (manager : Json) :
    ofObject obj' owner manager =
      (ofObject obj owner manager).withRecords
        (Roster.parse (Object.annotationText obj' Vocabulary.controllers))
        (Object.annotationText obj' Vocabulary.phase) := by
  have status : Object.mapAt obj' ["status"] = Object.mapAt obj ["status"] := by
    rw [Object.mapAt, Object.mapAt, Object.lookup, Object.lookup, h.fields _ (by decide)]
  have namespaceName : Object.namespaceName obj' = Object.namespaceName obj := by
    rw [Object.namespaceName, Object.namespaceName, Object.textAt, Object.textAt,
      h.lookup _ (by decide) (by decide)]
  have generation : Object.intAt obj' ["metadata", "generation"] =
      Object.intAt obj ["metadata", "generation"] := by
    rw [Object.intAt, Object.intAt, h.lookup _ (by decide) (by decide)]
  have deletion : Object.deletionTimestamp obj' = Object.deletionTimestamp obj := by
    rw [Object.deletionTimestamp, Object.deletionTimestamp, h.lookup _ (by decide) (by decide)]
  rw [ofObject, status, namespaceName, generation, deletion]
  rfl

/-- What keeps a snapshot from being taken is what others have written. -/
lemma extract_of_keeps {obj obj' : Json} (h : Merge.Keeps obj obj') (room : Room) (owner : Owner) :
    extract room obj' owner = (extract room obj owner).map fun s =>
      s.withRecords (Roster.parse (Object.annotationText obj' Vocabulary.controllers))
        (Object.annotationText obj' Vocabulary.phase) := by
  have managed : managedFields obj' = managedFields obj := by
    rw [managedFields, managedFields, Object.listAt, Object.listAt,
      h.lookup _ (by decide) (by decide)]
  have hidden : Object.deletionObstacle? room.time obj' =
      Object.deletionObstacle? room.time obj := by
    rw [Object.deletionObstacle?, Object.deletionObstacle?, h.lookup _ (by decide) (by decide)]
  rw [extract, extract, managed, hidden]
  cases Provenance.manager room (managedFields obj) with
  | error e => rfl
  | ok manager =>
      cases Object.deletionObstacle? room.time obj with
      | some obstacle => rfl
      | none => exact congrArg Except.ok (ofObject_of_keeps h owner manager)

end Parent.State

/-! ### Phases -/

namespace Lifecycle

open Parent (State)

/-- The phase does not change with the records on a parent, but for an initialization that is
recorded now. -/
lemma phase_withRecords {s : State} {phaseText : String}
    (kept : s.isInitialized = true → phaseText = Vocabulary.initialized)
    (strategies : List Strategy) (controllers : List String) :
    phase strategies (s.withRecords controllers phaseText) = phase strategies s ∨
      phase strategies s = .initializing ∧
        phase strategies (s.withRecords controllers phaseText) = .initialized ∧
        phaseText = Vocabulary.initialized := by
  have deleting : (s.withRecords controllers phaseText).isDeleting = s.isDeleting := rfl
  have signalled : signals (s.withRecords controllers phaseText) = signals s := by
    funext strategy
    cases strategy <;> rfl
  have recorded : (s.withRecords controllers phaseText).isInitialized =
      (phaseText == Vocabulary.initialized) := rfl
  rw [phase, phase, phaseUnder, phaseUnder, deleting, signalled, recorded]
  by_cases now : phaseText = Vocabulary.initialized
  · cases s.isDeleting <;> cases s.isInitialized <;>
      cases (inForce strategies).any (signals s) <;> simp [now]
  · have before : s.isInitialized = false := by
      rw [Bool.eq_false_iff]
      exact fun recorded => now (kept recorded)
    simp [now, before]

end Lifecycle

/-! ### Decisions -/

namespace Decision

open Parent (State)

/-- Two decisions say the same, whatever snapshots they are based on. -/
structure Agrees (d d' : Decision) : Prop where
  allowed : d'.allowed = d.allowed
  reason : d'.reason = d.reason
  isDrift : d'.isDrift = d.isDrift
  parentRef : d'.parentRef = d.parentRef
  phase : d'.phase = d.phase

/-- Two attempts at a decision fail for the same reason, or the decisions agree. -/
inductive EndsAlike : Except Failure Logged → Except Failure Logged → Prop
  | failed (e : Failure) : EndsAlike (.error e) (.error e)
  | decided {d d' : Decision} {logs logs' : List Log.Entry} (agrees : Agrees d d') :
      EndsAlike (.ok (d, logs)) (.ok (d', logs'))

variable {s : State} {controllers : List String} {phaseText : String}

/-- By the generations, and by field managers, the records do not count for the reason. -/
lemma reasonOn_withRecords {strategies : List Strategy} {attribution : Attribution}
    (named : ∀ user updaters, attribution ≠ .user user updaters)
    (same : Lifecycle.phase strategies (s.withRecords controllers phaseText) =
      Lifecycle.phase strategies s) :
    reasonOn strategies attribution (s.withRecords controllers phaseText) =
      reasonOn strategies attribution s := by
  rw [reasonOn.eq_def, reasonOn.eq_def, same]
  cases Lifecycle.phase strategies s with
  | deleting => rfl
  | initializing => rfl
  | initialized =>
      cases attribution with
      | unknown => rfl
      | fieldManager name => rfl
      | user name updaters => exact absurd rfl (named name updaters)

/-- As long as the phase is the same, decisions agree that do not ask for users: they are taken for
one reason, and name the same parent. -/
lemma endsAlike_onState {room : Room} {strategies : List Strategy} {attribution : Attribution}
    (named : ∀ user updaters, attribution ≠ .user user updaters)
    (same : Lifecycle.phase strategies (s.withRecords controllers phaseText) =
      Lifecycle.phase strategies s) :
    EndsAlike (onState room strategies attribution s)
      (onState room strategies attribution (s.withRecords controllers phaseText)) := by
  rw [onState, onState, reasonOn_withRecords named same, same]
  cases (reasonOn strategies attribution s).obstacle? room.reason with
  | some obstacle => exact .failed _
  | none => exact .decided ⟨rfl, rfl, rfl, rfl, rfl⟩

/-- **Records do not disturb decisions.**  A batch is folded into a parent, which is then stored
under any resource version.  If there is no snapshot of the parent before, there is none after, for
the same reason.  Otherwise its phase is the same before and after, or it was initializing and is
initialized since this is what was recorded.  As long as the phase is the same, decisions by the
generations and on changes by field managers agree. -/
theorem agrees_of_recorded {limit : Int} {parent body parent' : Json} {batch : Batch}
    (folded : Merge.apply limit parent batch = .ok (some body))
    (revised : Merge.Revises body parent') (room : Room) (owner : Owner)
    (strategies : List Strategy) :
    (∃ e, State.extract room parent owner = .error e ∧
      State.extract room parent' owner = .error e) ∨
    ∃ state state', State.extract room parent owner = .ok state ∧
      State.extract room parent' owner = .ok state' ∧
      (Lifecycle.phase strategies state' = Lifecycle.phase strategies state ∨
        Lifecycle.phase strategies state = .initializing ∧
          Lifecycle.phase strategies state' = .initialized ∧
          Merge.phase (Object.annotationText parent Vocabulary.phase) (batch.values .phase) =
            Vocabulary.initialized) ∧
      (Lifecycle.phase strategies state' = Lifecycle.phase strategies state →
        EndsAlike (onState room strategies .unknown state)
          (onState room strategies .unknown state') ∧
        ∀ name, EndsAlike (onState room strategies (.fieldManager name) state)
          (onState room strategies (.fieldManager name) state')) := by
  have recorded : Object.annotationText parent' Vocabulary.phase =
      Merge.phase (Object.annotationText parent Vocabulary.phase) (batch.values .phase) := by
    rw [revised.annotationText, Merge.phase_apply folded]
  have extracted' := State.extract_of_keeps ((Merge.keeps_apply folded).trans revised.keeps) room
    owner
  rcases extracted : State.extract room parent owner with e | state
  · exact .inl ⟨e, rfl, by rw [extracted', extracted]; rfl⟩
  refine .inr ⟨state, _, rfl, by rw [extracted', extracted]; rfl, ?_, fun same => ?_⟩
  · rw [recorded]
    refine Lifecycle.phase_withRecords (fun initialized => ?_) strategies _
    -- no batch takes an initialization back
    obtain ⟨manager, -, -, rfl⟩ := State.extract_eq_ok_iff.mp extracted
    have initialized : Object.annotationText parent Vocabulary.phase = Vocabulary.initialized :=
      beq_iff_eq.mp initialized
    rw [initialized, Merge.phase_initialized]
  · exact ⟨endsAlike_onState (by simp) same, fun name => endsAlike_onState (by simp) same⟩

/-- A ready widget that has caught up with its generation, and has nothing recorded. -/
def readyWidget : Json :=
  .object [("apiVersion", .text "apps/v1"), ("kind", .text "Widget"),
    ("metadata", .object [("name", .text "web"), ("generation", .int 2), ("annotations", .null),
      ("resourceVersion", .text "7")]),
    ("status", .object [("observedGeneration", .int 2), ("conditions", .list [
      .object [("type", .text "Ready"), ("status", .text "True")]])])]

/-- A fingerprint and an initialization are recorded on a ready widget: a change by whatever field
manager is drift before and after. -/
theorem agrees_of_recorded_readyWidget : ∃ body state',
    Merge.apply 5 readyWidget
      [(.controllers, ["c5xzg"]), (.phase, [Vocabulary.initialized])] = .ok (some body) ∧
    Object.annotationText body Vocabulary.phase = Vocabulary.initialized ∧
    State.extract (.below 10) (Store.withVersion body "8") (.ofJson .null) = .ok state' ∧
    ∀ name, ∃ d logs, onState (.below 10) [] (.fieldManager name) state' = .ok (d, logs) ∧
      d.isDrift = true := by
  obtain ⟨body, folded, recorded⟩ : ∃ body,
      Merge.apply 5 readyWidget
        [(.controllers, ["c5xzg"]), (.phase, [Vocabulary.initialized])] = .ok (some body) ∧
      Object.annotationText body Vocabulary.phase = Vocabulary.initialized := ⟨_, rfl, rfl⟩
  have extracted : State.extract (.below 10) readyWidget (.ofJson .null) =
      .ok (.ofObject readyWidget (.ofJson .null) (.text "")) :=
    State.extract_eq_ok_iff.mpr ⟨_, rfl, rfl, rfl⟩
  obtain ⟨e, fails, -⟩ | ⟨state, state', extracted₁, extracted', phase, agrees⟩ :=
    agrees_of_recorded folded (Merge.revises_withVersion body "8") (.below 10) (.ofJson .null) []
  · simp [extracted] at fails
  obtain rfl := Except.ok.inj (extracted.symm.trans extracted₁)
  have ready : Lifecycle.phase [] (.ofObject readyWidget (.ofJson .null) (.text "")) =
      .initialized := rfl
  have same := phase.resolve_right fun moved => by simp [ready] at moved
  refine ⟨body, state', folded, recorded, extracted', fun name => ?_⟩
  have drift : reasonOn [] (.fieldManager name)
      (.ofObject readyWidget (.ofJson .null) (.text "")) = .drift 2 2 := by
    rw [reasonOn, ready]
    exact if_neg fun differs => differs.2.1 rfl
  have short : Json.IsShort 2 := by
    unfold Json.IsShort
    decide
  have wordable : (Reason.drift 2 2).IsWordable (Room.below 10).reason := by
    simp [Reason.IsWordable, Reason.shown, Json.IsShowable.int short]
  have alike := (agrees same).2 name
  rw [onState_of_isWordable [] _ (drift ▸ wordable), drift, logged] at alike
  generalize onState (.below 10) [] (.fieldManager name) state' = result at alike
  cases alike with
  | decided agrees => exact ⟨_, _, rfl, agrees.isDrift⟩

end Decision

end Driftwatch
