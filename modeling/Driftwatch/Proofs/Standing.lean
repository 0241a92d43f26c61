/-
Whether a user is a parent's controller, judged by fingerprints.

* `Decision.IsTelling`: two rosters tell who the controller is.
* `Decision.standing_eq_undetermined_iff`, `Decision.standing_eq_controller_iff`: a user's standing
  by membership in the rosters.
* `Decision.standing_congr`: it depends on how many have changed the child, on who they are, and on
  which of them have updated the parent's status.
* `Decision.answer_iff_isTelling`: the laws of the answer.
-/
import Driftwatch.Decision
import Mathlib.Tactic.Lemma

namespace Driftwatch

/-- Two rosters share a fingerprint if something stands in both. -/
lemma Roster.common_ne_nil_iff {first second : List String} :
    common first second ≠ [] ↔ ∃ s ∈ first, s ∈ second := by
  rw [← List.isEmpty_eq_false_iff, List.isEmpty_eq_false_iff_exists_mem]
  exact exists_congr fun s => mem_common.trans and_comm

namespace Decision

/-! ### Answers -/

namespace Standing

variable {s t : Standing}

lemma answer_fst_iff : s.answer.1 = true ↔ s = .controller := by
  cases s <;> simp [answer]

lemma answer_snd_iff : s.answer.2 = true ↔ s ≠ .undetermined := by
  cases s <;> simp [answer]

/-- Nobody is said to be the controller while that cannot be told. -/
lemma answer_ne (s : Standing) : s.answer ≠ (true, false) := by
  cases s <;> simp [answer]

/-- Two users stand alike if it can be told of both or of none, and both or none are controllers. -/
lemma eq_of_iff (told : s = .undetermined ↔ t = .undetermined)
    (controls : s = .controller ↔ t = .controller) : s = t := by
  cases s <;> cases t <;> simp at told controls ⊢

end Standing

/-! ### Two rosters -/

variable {controllers updaters : List String}

/-- Two rosters tell who the controller is: only one has ever changed the child, or some of those
who have changed it have updated the parent's status as well. -/
def IsTelling (controllers updaters : List String) : Prop :=
  updaters.length = 1 ∨ 2 ≤ updaters.length ∧ ∃ s ∈ updaters, s ∈ controllers

instance : Decidable (IsTelling controllers updaters) :=
  inferInstanceAs (Decidable (_ ∨ _))

/-- A fingerprint in both rosters makes them tell. -/
lemma isTelling_of_mem {s : String} (changed : s ∈ updaters) (updated : s ∈ controllers) :
    IsTelling controllers updaters := by
  have some : 0 < updaters.length := List.length_pos_of_mem changed
  by_cases one : updaters.length = 1
  · exact .inl one
  · exact .inr ⟨by omega, s, changed, updated⟩

/-- Among several, those who stand in both rosters are the controllers. -/
lemma standing_of_several (several : 2 ≤ updaters.length) (username : String) :
    standing controllers updaters username =
      if Roster.common updaters controllers = [] then .undetermined
      else if Fingerprint.ofIdentity username ∈ Roster.common updaters controllers then .controller
      else .other := by
  match updaters with
  | [] => simp at several
  | [_] => simp at several
  | _ :: _ :: _ => rfl

/-- Among several, the rosters tell if they share a fingerprint. -/
lemma isTelling_of_several (several : 2 ≤ updaters.length) :
    IsTelling controllers updaters ↔ Roster.common updaters controllers ≠ [] := by
  rw [Roster.common_ne_nil_iff, IsTelling]
  have more : updaters.length ≠ 1 := by omega
  simp [more, several]

/-- It cannot be told of a user if the rosters do not tell. -/
lemma standing_eq_undetermined_iff (username : String) :
    standing controllers updaters username = .undetermined ↔ ¬ IsTelling controllers updaters := by
  match updaters with
  | [] => simp [standing, IsTelling]
  | [only] => by_cases own : Fingerprint.ofIdentity username = only <;>
      simp [standing, IsTelling, own]
  | first :: second :: rest =>
      have several : 2 ≤ (first :: second :: rest).length := by simp
      rw [standing_of_several several, isTelling_of_several several]
      by_cases none : Roster.common (first :: second :: rest) controllers = []
      · simp [none]
      · rw [if_neg none]
        split <;> simp [none]

/-- A user is the controller if the rosters tell, and the user is the only one, or is in both. -/
lemma standing_eq_controller_iff (username : String) :
    standing controllers updaters username = .controller ↔
      IsTelling controllers updaters ∧ Fingerprint.ofIdentity username ∈ updaters ∧
        (updaters.length = 1 ∨ Fingerprint.ofIdentity username ∈ controllers) := by
  match updaters with
  | [] => simp [standing]
  | [only] => by_cases own : Fingerprint.ofIdentity username = only <;>
      simp [standing, IsTelling, own]
  | first :: second :: rest =>
      have several : 2 ≤ (first :: second :: rest).length := by simp
      have more : (first :: second :: rest).length ≠ 1 := by simp
      rw [standing_of_several several, isTelling_of_several several, or_iff_right more,
        and_comm (a := _ ∈ _), ← Roster.mem_common]
      by_cases none : Roster.common (first :: second :: rest) controllers = []
      · simp [none]
      · rw [if_neg none]
        split <;> simp [*]

/-- How many have changed the child, who they are, and which of them have updated the parent's
status: nothing else matters. -/
lemma standing_congr {controllers' updaters' : List String}
    (number : updaters'.length = updaters.length) (members : ∀ s, s ∈ updaters' ↔ s ∈ updaters)
    (shared : ∀ s ∈ updaters, s ∈ controllers' ↔ s ∈ controllers) (username : String) :
    standing controllers' updaters' username = standing controllers updaters username := by
  have both (s : String) : s ∈ updaters' ∧ s ∈ controllers' ↔ s ∈ updaters ∧ s ∈ controllers := by
    rw [members]
    exact and_congr_right (shared s)
  have telling : IsTelling controllers' updaters' ↔ IsTelling controllers updaters := by
    rw [IsTelling, IsTelling, number]
    exact or_congr_right (and_congr_right fun _ => exists_congr both)
  have named (s : String) : s ∈ updaters' ∧ (updaters'.length = 1 ∨ s ∈ controllers') ↔
      s ∈ updaters ∧ (updaters.length = 1 ∨ s ∈ controllers) := by
    rw [and_or_left, and_or_left, both, members, number]
  refine Standing.eq_of_iff ?_ ?_
  · rw [standing_eq_undetermined_iff, standing_eq_undetermined_iff, telling]
  · rw [standing_eq_controller_iff, standing_eq_controller_iff, telling, named]

/-- **Who is told to be the controller.**  It can be told whether a user is the controller exactly
if one has changed the child, or several have and one of them has updated the parent's status as
well; and then the user is the controller exactly if they have changed the child, and are the only
one or have updated the status.  So nobody is said to be the controller while it cannot be told.
Neither the order of those who have changed the child matters, nor the order and the number of times
in which those stand who have updated the status; one more of these who has not changed the child
makes no difference, and a user in both rosters is always told to be the controller. -/
theorem answer_iff_isTelling (controllers updaters : List String) (username : String) :
    ((standing controllers updaters username).answer.2 = true ↔
      updaters.length = 1 ∨ 2 ≤ updaters.length ∧ ∃ s ∈ updaters, s ∈ controllers) ∧
    ((standing controllers updaters username).answer.1 = true ↔
      (standing controllers updaters username).answer.2 = true ∧
        Fingerprint.ofIdentity username ∈ updaters ∧
        (updaters.length = 1 ∨ Fingerprint.ofIdentity username ∈ controllers)) ∧
    (standing controllers updaters username).answer ≠ (true, false) ∧
    (∀ controllers' updaters', updaters'.Perm updaters →
      (∀ s, s ∈ controllers' ↔ s ∈ controllers) →
      (standing controllers' updaters' username).answer =
        (standing controllers updaters username).answer) ∧
    (∀ earlier later s, controllers = earlier ++ later → s ∉ updaters →
      (standing (earlier ++ s :: later) updaters username).answer =
        (standing controllers updaters username).answer) ∧
    (Fingerprint.ofIdentity username ∈ updaters → Fingerprint.ofIdentity username ∈ controllers →
      (standing controllers updaters username).answer = (true, true)) := by
  have determined : (standing controllers updaters username).answer.2 = true ↔
      IsTelling controllers updaters := by
    rw [Standing.answer_snd_iff, ne_eq, standing_eq_undetermined_iff, Decidable.not_not]
  refine ⟨determined, ?_, Standing.answer_ne _, fun controllers' updaters' permuted same => ?_,
    fun earlier later s split other => ?_, fun changed updated => ?_⟩
  · rw [Standing.answer_fst_iff, standing_eq_controller_iff, determined]
  · rw [standing_congr permuted.length_eq (fun _ => permuted.mem_iff) fun s _ => same s]
  · rw [standing_congr rfl (fun _ => Iff.rfl) fun t changed => ?_]
    have apart : t ≠ s := fun same => other (same ▸ changed)
    simp [split, apart]
  · have controller : standing controllers updaters username = .controller :=
      (standing_eq_controller_iff username).mpr
        ⟨isTelling_of_mem changed updated, changed, .inr updated⟩
    rw [controller]
    rfl

/-- The child was changed three times by two users.  Of these `carol` is told to be the controller
and `alice` is not, for `carol` has updated the parent's status too.  The order of the changes does
not matter, nor do repetitions among those who have updated the status, nor somebody who has done
nothing else. -/
theorem answer_iff_isTelling_carol :
    (standing ["l4npj", "zznkr"] ["c5xzg", "l4npj", "c5xzg"] "carol").answer = (true, true) ∧
    (standing ["l4npj", "zznkr"] ["c5xzg", "l4npj", "c5xzg"] "alice").answer = (false, true) ∧
    (standing ["zznkr", "l4npj", "zznkr"] ["l4npj", "c5xzg", "c5xzg"] "carol").answer =
      (true, true) ∧
    (standing ["l4npj", "00000", "zznkr"] ["c5xzg", "l4npj", "c5xzg"] "carol").answer =
      (true, true) := by
  have carol : Fingerprint.ofIdentity "carol" = "l4npj" := by decide +kernel
  have alice : Fingerprint.ofIdentity "alice" = "c5xzg" := by decide +kernel
  obtain ⟨-, -, -, reordered, extended, both⟩ :=
    answer_iff_isTelling ["l4npj", "zznkr"] ["c5xzg", "l4npj", "c5xzg"] "carol"
  obtain ⟨told, controls, -, -, -, -⟩ :=
    answer_iff_isTelling ["l4npj", "zznkr"] ["c5xzg", "l4npj", "c5xzg"] "alice"
  have controller := both (by rw [carol]; decide) (by rw [carol]; decide)
  refine ⟨controller, Prod.ext ?_ ?_, ?_, ?_⟩
  · rw [Bool.eq_false_iff, ne_eq, controls, alice]
    simp
  · exact told.mpr (.inr ⟨by decide, "l4npj", by decide, by decide⟩)
  · exact (reordered _ _ (by decide) (by simp [or_comm])).trans controller
  · exact (extended ["l4npj"] ["zznkr"] "00000" rfl (by decide)).trans controller

end Decision

end Driftwatch
