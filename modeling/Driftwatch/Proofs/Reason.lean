/-
Whom a reason names.

* `Reason.text_differentManager_inj`: the wording of a change by another field manager tells who
  made the change and who the controller is.
* `Decision.BlamesOther`: a decision puts a change down to a different actor.
* `Decision.reason_of_blamesOther`: where field managers are compared, the two managers that differ
  are then named; `Decision.exists_onState_of_differs`: there is such a decision if they differ.
* `Decision.reason_eq_iff`: two such decisions have the same wording exactly if they name the same
  managers.
-/
import Driftwatch.Decision
import Driftwatch.Proofs.Text.Quoted

namespace Driftwatch

open Parent (State)

/-! ### The wording -/

namespace Reason

lemma text_differentManager (manager controller : Json) :
    (differentManager manager controller).text =
      "change by different actor" ++ (" " ++ (manager.display ++ (" (controller is " ++
        (controller.display ++ ")")))) := by
  have start : "change by different actor" ++ " " = "change by different actor " := rfl
  simp only [← String.append_assoc, start]
  rfl

/-- Both managers can be read off the wording, whatever quotation marks, brackets or backslashes
their names hold. -/
lemma text_differentManager_inj {manager manager' controller controller' : String}
    (same : (differentManager (.text manager) (.text controller)).text =
      (differentManager (.text manager') (.text controller')).text) :
    manager = manager' ∧ controller = controller' := by
  have shown (s : String) : Json.display (.text s) = Text.quote s := by rw [Json.display]
  simp only [text_differentManager, shown, String.append_right_inj] at same
  obtain ⟨managers, tail⟩ := Text.quote_append_inj same
  rw [String.append_right_inj] at tail
  exact ⟨managers, (Text.quote_append_inj tail).1⟩

/-- A text begins with the first character of what stands first in it. -/
lemma head?_toList_append {s : String} {c : Char} (h : s.toList.head? = some c) (t : String) :
    (s ++ t).toList.head? = some c := by
  rw [String.toList_append, List.head?_append, h, Option.some_or]

/-- The reasons that speak of generations tell what was expected, or that drift was detected. -/
lemma head?_text_generations (generation observed : Int) :
    (unobserved generation).text.toList.head? = some 'e' ∧
      (behind generation observed).text.toList.head? = some 'e' ∧
      (drift generation observed).text.toList.head? = some 'd' := by
  have expected := head?_toList_append (s := "expected change: parent generation (") rfl
  exact ⟨head?_toList_append (expected _) _, head?_toList_append rfl _, head?_toList_append rfl _⟩

end Reason

/-! ### Changes by somebody else -/

namespace Decision

/-- The change is put down to somebody other than the controller. -/
def BlamesOther (d : Decision) : Prop :=
  ∃ whom, d.reason = "change by different actor" ++ whom

variable {room room' : Room} {strategies strategies' : List Strategy} {state state' : State}
  {d d' : Decision} {logs logs' : List Log.Entry}

/-- A reason that begins differently does not put the change down to somebody else. -/
lemma not_blamesOther_on {phase : Phase} {reason : Reason} {c : Char}
    (first : reason.text.toList.head? = some c) (h : c ≠ 'c') :
    ¬ (on state phase reason).BlamesOther := by
  rintro ⟨whom, same⟩
  have other := Reason.head?_toList_append (s := "change by different actor") rfl whom
  rw [← same] at other
  exact h (Option.some.inj (first.symm.trans other))

/-- A comparison of generations does not put the change down to somebody else. -/
lemma not_blamesOther_byGenerations (phase : Phase) :
    ¬ (on state phase (byGenerations state)).BlamesOther := by
  obtain ⟨unobserved, behind, drift⟩ :=
    Reason.head?_text_generations state.generation state.observed.value
  rw [byGenerations]
  split_ifs
  · exact not_blamesOther_on unobserved (by decide)
  · exact not_blamesOther_on behind (by decide)
  · exact not_blamesOther_on drift (by decide)

/-- The parent is initialized, and its stamp is known to come from another manager than the one
that makes the change. -/
structure Differs (strategies : List Strategy) (manager : Json) (state : State) : Prop where
  initialized : Lifecycle.phase strategies state = .initialized
  named : ¬ manager.isFalsy
  known : ¬ state.controllerManager.isFalsy
  other : ¬ state.controllerManager.same manager

/-- Where field managers are compared, the change is put down to somebody else if they differ, and
only then. -/
lemma reasonOn_fieldManager_cases (strategies : List Strategy) (manager : Json) (state : State) :
    Differs strategies manager state ∧
        reasonOn strategies (.fieldManager manager) state =
          .differentManager manager state.controllerManager ∨
      ¬ Differs strategies manager state ∧
        ¬ (on state (Lifecycle.phase strategies state)
          (reasonOn strategies (.fieldManager manager) state)).BlamesOther := by
  rw [reasonOn.eq_def]
  cases phase : Lifecycle.phase strategies state with
  | deleting =>
      dsimp only
      exact .inr ⟨fun h => by simpa [phase] using h.initialized,
        not_blamesOther_on (c := 'p') rfl (by decide)⟩
  | initializing =>
      dsimp only
      exact .inr ⟨fun h => by simpa [phase] using h.initialized,
        not_blamesOther_on (c := 'p') rfl (by decide)⟩
  | initialized =>
      dsimp only
      rw [byFieldManager]
      split_ifs with differs
      · exact .inl ⟨⟨phase, differs.1, differs.2.1, differs.2.2⟩, rfl⟩
      · exact .inr ⟨fun h => differs ⟨h.named, h.known, h.other⟩,
          not_blamesOther_byGenerations .initialized⟩

/-- A decision that is taken is the one for the reason that the state gives. -/
lemma eq_on_of_onState {attribution : Attribution}
    (decided : onState room strategies attribution state = .ok (d, logs)) :
    d = on state (Lifecycle.phase strategies state) (reasonOn strategies attribution state) := by
  rw [onState] at decided
  split at decided
  · simp at decided
  · exact (Prod.mk.inj (Except.ok.inj decided)).1.symm

/-- A decision that puts a change down to somebody else names the two managers. -/
lemma reason_of_blamesOther {manager : Json}
    (decided : onState room strategies (.fieldManager manager) state = .ok (d, logs))
    (h : d.BlamesOther) :
    d.reason = (Reason.differentManager manager state.controllerManager).text := by
  obtain rfl := eq_on_of_onState decided
  rcases reasonOn_fieldManager_cases strategies manager state with ⟨-, reason⟩ | ⟨-, own⟩
  · rw [reason]
    rfl
  · exact absurd h own

/-- If two managers with names differ, there is a decision, and it puts the change down to somebody
else. -/
lemma exists_onState_of_differs {manager controller : String}
    (known : state.controllerManager = .text controller)
    (differs : Differs strategies (.text manager) state) :
    ∃ d logs, onState room strategies (.fieldManager (.text manager)) state = .ok (d, logs) ∧
      d.BlamesOther := by
  rcases reasonOn_fieldManager_cases strategies (.text manager) state with
    ⟨-, reason⟩ | ⟨same, -⟩
  · refine ⟨_, _, by rw [onState, reason, known]; rfl, ?_⟩
    exact ⟨_, Reason.text_differentManager (.text manager) (.text controller)⟩
  · exact absurd differs same

/-- **Whom a reason names.**  Two decisions that put changes by field managers down to somebody
else give the same reason exactly if the changes were made by the same manager and the parents'
controllers have the same name. -/
theorem reason_eq_iff {manager manager' controller controller' : String}
    (known : state.controllerManager = .text controller)
    (known' : state'.controllerManager = .text controller')
    (decided : onState room strategies (.fieldManager (.text manager)) state = .ok (d, logs))
    (decided' :
      onState room' strategies' (.fieldManager (.text manager')) state' = .ok (d', logs'))
    (blames : d.BlamesOther) (blames' : d'.BlamesOther) :
    d.reason = d'.reason ↔ manager = manager' ∧ controller = controller' := by
  rw [reason_of_blamesOther decided blames, reason_of_blamesOther decided' blames', known, known']
  constructor
  · exact Reason.text_differentManager_inj
  · rintro ⟨rfl, rfl⟩
    rfl

/-- An initialized parent whose stamp comes from a manager. -/
def initializedBy (controller : String) : State :=
  { ref := { apiVersion := "apps/v1", kind := "Deployment", namespaceName := "default",
             name := "web" }
    generation := 2
    observed := { value := 1, present := true }
    controllerManager := .text controller
    controllers := []
    deletionTimestamp := none
    conditions := []
    isInitialized := true
    phaseText := "" }

/-- Two pairs of managers whose reasons would be the same if apostrophes in names were shown as they
are. -/
theorem reason_ne_of_shifted_bracket : ∃ d d' logs logs',
    onState (.below 10) [] (.fieldManager (.text "a' (controller is 'b")) (initializedBy "c") =
        .ok (d, logs) ∧
      onState (.below 10) [] (.fieldManager (.text "a")) (initializedBy "b' (controller is 'c") =
        .ok (d', logs') ∧
      d.reason ≠ d'.reason := by
  obtain ⟨d, logs, decided, blames⟩ : ∃ d logs,
      onState (.below 10) [] (.fieldManager (.text "a' (controller is 'b")) (initializedBy "c") =
        .ok (d, logs) ∧ d.BlamesOther :=
    exists_onState_of_differs rfl ⟨rfl, by decide, by decide, by decide⟩
  obtain ⟨d', logs', decided', blames'⟩ : ∃ d logs,
      onState (.below 10) [] (.fieldManager (.text "a")) (initializedBy "b' (controller is 'c") =
        .ok (d, logs) ∧ d.BlamesOther :=
    exists_onState_of_differs rfl ⟨rfl, by decide, by decide, by decide⟩
  refine ⟨d, d', logs, logs', decided, decided', ?_⟩
  rw [ne_eq, reason_eq_iff rfl rfl decided decided' blames blames']
  decide

end Decision

end Driftwatch
