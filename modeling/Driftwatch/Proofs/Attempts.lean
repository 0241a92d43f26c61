/-
How a flush writes one batch: attempt after attempt.

* `Flush.Deed`, `Flush.Advance`, `Flush.Writes`: what a flush does in one step, and in any number of
  steps, while its calls are answered by anybody in any way.  The flushes of traffic and those of
  rehearsals go on by such steps (`exists_advance_of_move`, `exists_advance_of_complete`).
* `Flush.Conflicted`, `Flush.Concluded`: the calls of an attempt that is followed by another one,
  and of one that is not, with what the latter ends in.
* `Flush.retries`: attempts that met conflicts, each with its warning and its pause.
* `Flush.Stands`: where the writing of a batch stands after what was done; every step keeps to it.
* `attempts_of_writes`: the writing of a batch is never stuck, takes a bounded number of attempts,
  and has this shape when it is over.
-/
import Driftwatch.Proofs.Rehearsal.Threads
import Driftwatch.Proofs.Traffic.Returns

namespace Driftwatch

namespace Merge

/-- A batch that cannot be folded into an object meets no conflict: the object has the wrong
shape. -/
lemma not_isConflict_of_apply {limit : Int} {obj : Json} {batch : Batch} {e : Failure}
    (h : apply limit obj batch = .error e) : e.isConflict = false := by
  obtain ⟨shape, name, rfl⟩ : ∃ shape name, e = .lacking shape name := by
    rw [apply] at h
    split at h
    · simp at h
    · rw [annotate, metadataOf] at h
      grind [annotationFields]
  rfl

end Merge

namespace Flush

variable {settings : Settings} {key : String} {target : Target} {batch : Batch}

/-! ### Steps -/

/-- What a flush does while it writes a batch. -/
inductive Deed
  /-- It asks for the object that stands in a place, and is answered. -/
  | get (target : Target) (answer : Except Failure (Option Json))
  /-- It asks to replace an object, and is answered. -/
  | replace (body : Json) (answer : Except Failure Unit)
  /-- It waits for so many seconds. -/
  | pause (seconds : Float)
  | log (entry : Log.Entry)

namespace Deed

/-- It asks for an object. -/
def isGet : Deed → Bool
  | .get _ _ => true
  | _ => false

/-- It waits. -/
def isPause : Deed → Bool
  | .pause _ => true
  | _ => false

/-- It logs a line of a level. -/
def isLogAt (level : Log.Level) : Deed → Bool
  | .log entry => entry.level = level
  | _ => false

/-- Its call of the server, if it is one, is answered with this when it reads, and with that when
it writes. -/
def IsAnswered (read : Except Failure (Option Json)) (write : Except Failure Unit) : Deed → Prop
  | .get _ answer => answer = read
  | .replace _ answer => answer = write
  | _ => True

end Deed

/-- A flush that has just taken a batch. -/
def withBatch (settings : Settings) (key : String) (target : Target) (batch : Batch) : Flush :=
  { key, target, stage := afterTake settings (some batch) }

/-- An answer that is no interrupt. -/
def IsCalm {α : Type} (answer : Except Failure α) : Prop :=
  ∀ e, answer = .error e → e.isInterrupt = false

lemma isCalm_ok {α : Type} (result : α) : IsCalm (.ok result) := by
  simp [IsCalm]

lemma isCalm_error {α : Type} {e : Failure} (h : e.isInterrupt = false) :
    IsCalm (.error e : Except Failure α) := by
  rintro e' ⟨⟩
  exact h

/-- One step of a flush that writes a batch, with all it does in it.  A call may be answered in any
way but by an interrupt, and chance may lengthen a pause. -/
inductive Advance (settings : Settings) (f : Flush) : List Deed → Flush → Prop
  | read {a : Attempt} (answer : Except Failure (Option Json)) (stage : f.stage = .reading a)
      (calm : IsCalm answer) :
      Advance settings f
        (.get f.target answer :: (afterRead settings f.key a answer).2.map .log)
        { f with stage := (afterRead settings f.key a answer).1 }
  | write {a : Attempt} {body : Json} (answer : Except Failure Unit)
      (stage : f.stage = .writing a body) (calm : IsCalm answer) :
      Advance settings f
        (.replace body answer :: (afterWrite settings f.key a answer).2.map .log)
        { f with stage := (afterWrite settings f.key a answer).1 }
  | pause {a : Attempt} (chance : Float) (stage : f.stage = .pausing a) :
      Advance settings f [.pause (pauseLength settings chance a)]
        { f with stage := afterPause settings a }

/-- Any number of steps, with all that is done in them, in order. -/
inductive Writes (settings : Settings) (f : Flush) : List Deed → Flush → Prop
  | nil : Writes settings f [] f
  | snoc {deeds more : List Deed} {f' f'' : Flush} (writes : Writes settings f deeds f')
      (step : Advance settings f' more f'') : Writes settings f (deeds ++ more) f''

/-- A flush that goes on keeps what it works for. -/
lemma Advance.origin {f f' : Flush} {deeds : List Deed} (step : Advance settings f deeds f') :
    f'.key = f.key ∧ f'.target = f.target := by
  cases step <;> exact ⟨rfl, rfl⟩

/-- What a flush does in traffic on ledgers, without the table and without an interrupt, is such a
step. -/
theorem exists_advance_of_move {t : Nat} {f f' : Traffic.Frame} {act : Traffic.Act}
    (move : f.Move settings act f') (calm : (Traffic.Event.flush t f act).Calm) :
    ∃ deeds, Advance settings f.flush deeds f'.flush := by
  have failed (a : Attempt) {e : Failure} (he : e.isInterrupt = false) :
      (f.afterFailure settings a e).flush =
        { f.flush with stage := (afterFailure settings f.flush.key a e).1 } := by
    rw [Traffic.Frame.afterFailure, he, if_neg Bool.false_ne_true, Traffic.Frame.proceed]
  cases move with
  | read answer stage =>
      cases answer with
      | ok found => exact ⟨_, .read (.ok found) stage (isCalm_ok _)⟩
      | error e =>
          rw [Traffic.Frame.afterRead, failed _ calm]
          exact ⟨_, .read (.error e) stage (isCalm_error calm)⟩
  | write answer stage =>
      cases answer with
      | ok _ => exact ⟨_, .write (.ok ()) stage (isCalm_ok _)⟩
      | error e =>
          rw [Traffic.Frame.afterWrite, failed _ calm]
          exact ⟨_, .write (.error e) stage (isCalm_error calm)⟩
  | pause stage => exact ⟨_, .pause 0.0 stage⟩

/-- The call of a flush ends in a rehearsal: the flush goes on by such a step, and the log shows
what it logs. -/
theorem exists_advance_of_complete {w : Rehearsal.World} {f : Flush}
    (calling : Rehearsal.isCalling f = true) :
    ∃ call entries, Advance w.settings f (call :: entries.map .log) (w.complete f).2 ∧
      (w.complete f).1.logs = w.logs ++ entries := by
  rw [Rehearsal.World.complete]
  split
  · rename_i a stage
    exact ⟨_, _, .read _ stage (isCalm_ok _), rfl⟩
  · rename_i a body stage
    split
    · exact ⟨_, _, .write (.ok ()) stage (isCalm_ok _), rfl⟩
    · rename_i e refused
      have calm := Store.isInterrupt_of_replace refused
      exact ⟨_, _, .write (.error e) stage (isCalm_error calm), rfl⟩
  · simp_all [Rehearsal.isCalling]

/-- The call of a flush fails in a rehearsal, but not in an interrupt. -/
theorem exists_advance_of_fail {w : Rehearsal.World} {f : Flush} {e : Failure}
    (calling : Rehearsal.isCalling f = true) (calm : e.isInterrupt = false) :
    ∃ call entries, Advance w.settings f (call :: entries.map .log) (w.fail f e).2 ∧
      (w.fail f e).1.logs = w.logs ++ entries := by
  rw [Rehearsal.World.fail]
  split
  · rename_i a stage
    exact ⟨_, _, .read (.error e) stage (isCalm_error calm), rfl⟩
  · rename_i a body stage
    exact ⟨_, _, .write (.error e) stage (isCalm_error calm), rfl⟩
  · simp_all [Rehearsal.isCalling]

/-- The pause of a flush in a rehearsal is such a step, and is on record. -/
theorem exists_advance_of_tickFlush {w : Rehearsal.World} {f : Flush} {a : Attempt}
    (stage : f.stage = .pausing a) (worker : Option Nat) (below : List Rehearsal.Frame) :
    ∃ seconds f', Advance w.settings f [.pause seconds] f' ∧
      Rehearsal.Machine.tickFlush w f worker below =
        { world := w.paused seconds, frames := .flush f' worker :: below, failure := none } := by
  refine ⟨_, _, .pause w.chance stage, ?_⟩
  simp only [Rehearsal.Machine.tickFlush, stage]

/-! ### Attempts -/

/-- The calls of an attempt that met a conflict, when it read or when it wrote. -/
inductive Conflicted (limit : Int) (target : Target) (batch : Batch) : List Deed → Prop
  | read {e : Failure} (conflict : e.isConflict = true) :
      Conflicted limit target batch [.get target (.error e)]
  | write {current body : Json} {e : Failure}
      (folded : Merge.apply limit current batch = .ok (some body))
      (conflict : e.isConflict = true) :
      Conflicted limit target batch [.get target (.ok (some current)), .replace body (.error e)]

/-- The calls of an attempt that is not followed by another one, the failure that it met, if any,
and the line that is logged about it. -/
inductive Concluded (limit : Int) (key : String) (target : Target) (batch : Batch) :
    List Deed → Option Failure → Log.Entry → Prop
  /-- The object cannot be read. -/
  | unread {e : Failure} :
      Concluded limit key target batch [.get target (.error e)] (some e) (failureNotice key)
  /-- There is no object. -/
  | gone : Concluded limit key target batch [.get target (.ok none)] none (goneNotice key)
  /-- The batch changes nothing. -/
  | applied {current : Json} (folded : Merge.apply limit current batch = .ok none) :
      Concluded limit key target batch [.get target (.ok (some current))] none (appliedNotice key)
  /-- The batch cannot be folded into what was read. -/
  | unfolded {current : Json} {e : Failure}
      (folded : Merge.apply limit current batch = .error e) :
      Concluded limit key target batch [.get target (.ok (some current))] (some e)
        (failureNotice key)
  /-- The write is refused. -/
  | refused {current body : Json} {e : Failure}
      (folded : Merge.apply limit current batch = .ok (some body)) :
      Concluded limit key target batch
        [.get target (.ok (some current)), .replace body (.error e)] (some e) (failureNotice key)
  /-- The write is accepted. -/
  | accepted {current body : Json} (folded : Merge.apply limit current batch = .ok (some body)) :
      Concluded limit key target batch
        [.get target (.ok (some current)), .replace body (.ok ())] none (recordedNotice key batch)

/-- An attempt that met a conflict: its calls, and for how many seconds the flush waited then. -/
structure Try where
  calls : List Deed
  seconds : Float

/-- All that is done in an attempt of a number that met a conflict: after its calls comes a warning,
and then a pause. -/
def Try.deeds (settings : Settings) (key : String) (number : Nat) (t : Try) : List Deed :=
  t.calls ++ [.log (conflictNotice key number (attempts settings)), .pause t.seconds]

/-- What is done in the first attempts if they met conflicts. -/
def retries (settings : Settings) (key : String) (tries : List Try) : List Deed :=
  (tries.zipIdx 1).flatMap fun (t, number) => t.deeds settings key number

/-- One attempt more. -/
lemma retries_concat (tries : List Try) (t : Try) :
    retries settings key (tries ++ [t]) =
      retries settings key tries ++ t.deeds settings key (tries.length + 1) := by
  simp [retries, List.zipIdx_append, Nat.add_comm]

/-- If every attempt does so much of one sort, all of them together do it so many times. -/
lemma countP_retries {p : Deed → Bool} {n : Nat} {tries : List Try}
    (each : ∀ t ∈ tries, ∀ number, (t.deeds settings key number).countP p = n) :
    (retries settings key tries).countP p = n * tries.length := by
  induction tries using List.reverseRecOn with
  | nil => rfl
  | append_singleton tries t ih =>
      rw [retries_concat, List.countP_append, ih fun t ht => each t (by simp [ht]),
        each t (by simp), List.length_append, List.length_singleton, Nat.mul_add, Nat.mul_one]

/-- An attempt that met a conflict does four things at most. -/
lemma length_retries_le {limit : Int} {tries : List Try}
    (all : ∀ t ∈ tries, Conflicted limit target batch t.calls) :
    (retries settings key tries).length ≤ 4 * tries.length := by
  induction tries using List.reverseRecOn with
  | nil => simp [retries]
  | append_singleton tries t ih =>
      have before := ih fun t ht => all t (by simp [ht])
      have last : (t.deeds settings key (tries.length + 1)).length ≤ 4 := by
        have conflicted := all t (by simp)
        rw [Try.deeds]
        generalize t.calls = calls at conflicted
        cases conflicted <;> simp
      rw [retries_concat, List.length_append, List.length_append, List.length_singleton]
      omega

/-! ### Where the writing of a batch stands -/

/-- The attempts before one that is under way: each met a conflict, and then one was left. -/
structure Tried (settings : Settings) (target : Target) (batch : Batch) (tries : List Try) :
    Prop where
  conflicted : ∀ t ∈ tries, Conflicted settings.maxFingerprints target batch t.calls
  left : tries.length < attempts settings

/-- The attempts before one that is under way leave room for what this one does. -/
lemma Tried.length_le {tries : List Try} (tried : Tried settings target batch tries)
    (key : String) : (retries settings key tries).length + 4 ≤ 4 * attempts settings := by
  have few : (retries settings key tries).length ≤ _ := length_retries_le tried.conflicted
  have left := tried.left
  omega

/-- Where the writing of a batch stands after what was done. -/
inductive Stands (settings : Settings) (key : String) (target : Target) (batch : Batch) :
    Stage → List Deed → Prop
  /-- An attempt begins. -/
  | reading {tries : List Try} {pause : Float} (tried : Tried settings target batch tries) :
      Stands settings key target batch (.reading { batch, number := tries.length + 1, pause })
        (retries settings key tries)
  /-- The batch was folded into the object that this attempt has read. -/
  | writing {tries : List Try} {pause : Float} {current body : Json}
      (tried : Tried settings target batch tries)
      (folded : Merge.apply settings.maxFingerprints current batch = .ok (some body)) :
      Stands settings key target batch
        (.writing { batch, number := tries.length + 1, pause } body)
        (retries settings key tries ++ [.get target (.ok (some current))])
  /-- The attempt met a conflict, and another one is left. -/
  | pausing {tries : List Try} {pause : Float} {calls : List Deed}
      (tried : Tried settings target batch tries)
      (conflicted : Conflicted settings.maxFingerprints target batch calls)
      (left : tries.length + 1 < attempts settings) :
      Stands settings key target batch (.pausing { batch, number := tries.length + 1, pause })
        (retries settings key tries ++
          (calls ++ [.log (conflictNotice key (tries.length + 1) (attempts settings))]))
  /-- The batch is written or given up. -/
  | done {tries : List Try} {last : List Deed} {failure : Option Failure} {notice : Log.Entry}
      (tried : Tried settings target batch tries)
      (concluded : Concluded settings.maxFingerprints key target batch last failure notice)
      (spent : ∀ e, failure = some e → e.isConflict = true →
        tries.length + 1 = attempts settings) :
      Stands settings key target batch .draining
        (retries settings key tries ++ (last ++ [.log notice]))

/-- An attempt meets a failure: it is followed by another one after a conflict if one is left, and
else it is the last one. -/
lemma Stands.of_failure {tries : List Try} {calls : List Deed} {pause : Float} {e : Failure}
    (tried : Tried settings target batch tries)
    (conflicted : e.isConflict = true →
      Conflicted settings.maxFingerprints target batch calls)
    (concluded : Concluded settings.maxFingerprints key target batch calls (some e)
      (failureNotice key)) :
    Stands settings key target batch
      (afterFailure settings key ⟨batch, tries.length + 1, pause⟩ e).1
      (retries settings key tries ++
        (calls ++ (afterFailure settings key ⟨batch, tries.length + 1, pause⟩ e).2.map .log)) := by
  rw [afterFailure]
  split
  · rename_i again
    exact .pausing tried (conflicted again.1) again.2
  · rename_i final
    refine .done tried concluded ?_
    rintro e' ⟨⟩ conflict
    have left := tried.left
    have none : ¬ tries.length + 1 < attempts settings := fun less => final ⟨conflict, less⟩
    omega

/-- **The writing of a batch, one step**: where it stands afterwards is again such a place. -/
lemma Stands.step {f f' : Flush} {deeds more : List Deed}
    (h : Stands settings f.key f.target batch f.stage deeds) (step : Advance settings f more f') :
    Stands settings f'.key f'.target batch f'.stage (deeds ++ more) := by
  cases step with
  | read answer stage calm =>
      rw [stage] at h
      cases h with
      | reading tried =>
          cases answer with
          | error e => exact .of_failure tried .read .unread
          | ok found =>
              cases found with
              | none => exact .done tried .gone (by simp)
              | some current =>
                  rw [afterRead]
                  cases folded : Merge.apply settings.maxFingerprints current batch with
                  | error e =>
                      -- such a failure is no conflict, so that this attempt is the last one
                      have other := Merge.not_isConflict_of_apply folded
                      exact .of_failure tried (by simp [other]) (.unfolded folded)
                  | ok body =>
                      cases body with
                      | none => exact .done tried (.applied folded) (by simp)
                      | some body => exact .writing tried folded
  | write answer stage calm =>
      rw [stage] at h
      cases h with
      | writing tried folded =>
          rw [List.append_assoc]
          cases answer with
          | error e => exact .of_failure tried (.write folded) (.refused folded)
          | ok _ => exact .done tried (.accepted folded) (by simp)
  | pause chance stage =>
      rw [stage] at h
      cases h with
      | @pausing tries pause calls tried conflicted left =>
          let t : Try := ⟨calls, pauseLength settings chance ⟨batch, tries.length + 1, pause⟩⟩
          have all : Tried settings f.target batch (tries ++ [t]) := by
            refine ⟨fun t' ht => ?_, by simpa using left⟩
            rcases List.mem_append.mp ht with before | last
            · exact tried.conflicted t' before
            · rw [List.mem_singleton.mp last]
              exact conflicted
          have next := @Stands.reading settings f.key f.target batch (tries ++ [t])
            (pause * settings.pauseFactor) all
          rw [retries_concat, List.length_append, List.length_singleton, Try.deeds] at next
          rw [List.append_assoc, List.append_assoc]
          exact next

/-- **The writing of a batch, all steps.** -/
lemma Writes.stands {f f' : Flush} {deeds : List Deed} (writes : Writes settings f deeds f')
    (first : Stands settings f.key f.target batch f.stage []) :
    Stands settings f'.key f'.target batch f'.stage deeds ∧ f'.key = f.key ∧
      f'.target = f.target := by
  induction writes with
  | nil => exact ⟨first, rfl, rfl⟩
  | snoc writes step ih =>
      obtain ⟨stands, key, target⟩ := ih
      exact ⟨stands.step step, step.origin.1.trans key, step.origin.2.trans target⟩

/-- So much is done at most while a batch is written. -/
lemma Stands.length_le {stage : Stage} {deeds : List Deed}
    (h : Stands settings key target batch stage deeds) : deeds.length ≤ 4 * attempts settings := by
  cases h with
  | reading tried =>
      have room := tried.length_le key
      omega
  | writing tried folded =>
      have room := tried.length_le key
      rw [List.length_append, List.length_singleton]
      omega
  | pausing tried conflicted left =>
      have room := tried.length_le key
      cases conflicted <;> simp only [List.length_append, List.length_cons, List.length_nil] <;>
        omega
  | done tried concluded spent =>
      have room := tried.length_le key
      cases concluded <;> simp only [List.length_append, List.length_cons, List.length_nil] <;>
        omega

/-- As long as a batch is neither written nor given up, its flush does its next step with whatever
its call is answered. -/
lemma Stands.exists_advance {f : Flush} {deeds : List Deed}
    (h : Stands settings key target batch f.stage deeds) (busy : f.stage ≠ .draining)
    {read : Except Failure (Option Json)} {write : Except Failure Unit} (readCalm : IsCalm read)
    (writeCalm : IsCalm write) :
    ∃ more f', Advance settings f more f' ∧ more ≠ [] ∧
      ∀ d ∈ more, d.IsAnswered read write := by
  cases stage : f.stage with
  | draining => exact absurd stage busy
  | reading a => exact ⟨_, _, .read read stage readCalm, by simp, by simp [Deed.IsAnswered]⟩
  | writing a body => exact ⟨_, _, .write write stage writeCalm, by simp, by simp [Deed.IsAnswered]⟩
  | pausing a => exact ⟨_, _, .pause 0.0 stage, by simp, by simp [Deed.IsAnswered]⟩
  | ended =>
      rw [stage] at h
      cases h

/-! ### Counting -/

/-- The calls of one attempt: one of them reads, and nothing else is done. -/
structure IsAttempt (calls : List Deed) : Prop where
  gets : calls.countP Deed.isGet = 1
  pauses : calls.countP Deed.isPause = 0
  lines : ∀ level, calls.countP (Deed.isLogAt level) = 0

lemma Conflicted.isAttempt {limit : Int} {calls : List Deed}
    (h : Conflicted limit target batch calls) : IsAttempt calls := by
  cases h <;> exact ⟨rfl, rfl, fun _ => rfl⟩

lemma Concluded.isAttempt {limit : Int} {calls : List Deed} {failure : Option Failure}
    {notice : Log.Entry} (h : Concluded limit key target batch calls failure notice) :
    IsAttempt calls := by
  cases h <;> exact ⟨rfl, rfl, fun _ => rfl⟩

/-- What is done in an attempt that is followed by another one. -/
lemma IsAttempt.deeds {t : Try} (h : IsAttempt t.calls) (settings : Settings) (key : String)
    (number : Nat) :
    (t.deeds settings key number).countP Deed.isGet = 1 ∧
      (t.deeds settings key number).countP Deed.isPause = 1 ∧
      (t.deeds settings key number).countP (Deed.isLogAt .warning) = 1 ∧
      (t.deeds settings key number).countP (Deed.isLogAt .error) = 0 := by
  simp [Try.deeds, h.gets, h.pauses, h.lines, Deed.isGet, Deed.isPause, Deed.isLogAt,
    conflictNotice]

/-- What is logged about the last attempt is an error exactly if it met a failure. -/
lemma Concluded.level {limit : Int} {calls : List Deed} {failure : Option Failure}
    {notice : Log.Entry} (h : Concluded limit key target batch calls failure notice) :
    notice.level = if failure.isSome then .error else .debug := by
  cases h <;> rfl

lemma attempts_eq (settings : Settings) : (attempts settings : Int) = max 1 settings.attempts := by
  rw [attempts]
  omega

/-- **Attempt after attempt.**  Let a flush write any batch to any place under any settings, and let
its calls end in any way but in an interrupt.  Until the batch is written or given up, the flush
goes on with whatever its next call is answered, and all it does is bounded.  When it is over, there
were so many attempts, at least one and at most as many as the settings allow: all but the last read
the object and met a conflict, in this call or in the write of what the batch makes of that very
object, and each of them was followed by one warning and one pause; the last one ended in an
accepted write, with no object, with nothing to change, or in a failure, about which one error is
logged and none otherwise; and if this failure is a conflict, no attempt was left. -/
theorem attempts_of_writes {deeds : List Deed} {f : Flush}
    (writes : Writes settings (withBatch settings key target batch) deeds f) :
    deeds.length ≤ 4 * attempts settings ∧
    (f.stage ≠ .draining → ∀ read write, IsCalm read → IsCalm write →
      ∃ more f', Advance settings f more f' ∧ more ≠ [] ∧
        ∀ d ∈ more, d.IsAnswered read write) ∧
    (f.stage = .draining → ∃ tries last failure notice,
      deeds = retries settings key tries ++ (last ++ [.log notice]) ∧
      (∀ t ∈ tries, Conflicted settings.maxFingerprints target batch t.calls) ∧
      Concluded settings.maxFingerprints key target batch last failure notice ∧
      (tries.length + 1 : Int) ≤ max 1 settings.attempts ∧
      (∀ e, failure = some e → e.isConflict = true →
        (tries.length + 1 : Int) = max 1 settings.attempts) ∧
      deeds.countP Deed.isGet = tries.length + 1 ∧
      deeds.countP Deed.isPause = tries.length ∧
      deeds.countP (Deed.isLogAt .warning) = tries.length ∧
      deeds.countP (Deed.isLogAt .error) = if failure.isSome then 1 else 0) := by
  have first : Stands settings key target batch (afterTake settings (some batch)) [] :=
    @Stands.reading settings key target batch [] settings.firstPause
      ⟨by simp, one_le_attempts settings⟩
  obtain ⟨stands, rfl, rfl⟩ := writes.stands first
  refine ⟨stands.length_le, fun busy read write => stands.exists_advance busy, fun ended => ?_⟩
  rw [ended] at stands
  cases stands with
  | @done tries last failure notice tried concluded spent =>
      have total := attempts_eq settings
      have left := tried.left
      have each (t : Try) (ht : t ∈ tries) (number : Nat) :=
        (tried.conflicted t ht).isAttempt.deeds settings f.key number
      have one := concluded.isAttempt
      refine ⟨tries, last, failure, notice, rfl, tried.conflicted, concluded, by omega,
        fun e he conflict => ?_, ?_, ?_, ?_, ?_⟩
      · have all := spent e he conflict
        omega
      all_goals rw [List.countP_append, List.countP_append, List.countP_singleton]
      · rw [countP_retries fun t ht number => (each t ht number).1, one.gets]
        simp [Deed.isGet]
      · rw [countP_retries fun t ht number => (each t ht number).2.1, one.pauses]
        simp [Deed.isPause]
      · rw [countP_retries fun t ht number => (each t ht number).2.2.1, one.lines, Deed.isLogAt,
          concluded.level]
        cases failure <;> simp
      · rw [countP_retries fun t ht number => (each t ht number).2.2.2, one.lines, Deed.isLogAt,
          concluded.level]
        cases failure <;> simp

/-- Two attempts to write the phase of a widget meet conflicts, one when it reads and one when it
writes; the third one is accepted. -/
theorem attempts_of_writes_third :
    ∃ deeds f tries last notice,
      Writes {} (withBatch {} "Widget/default/web" (.of (Traffic.widget "apps/v1" "web"))
        [(.phase, ["initializing"])]) deeds f ∧
      f.stage = .draining ∧
      deeds = retries {} "Widget/default/web" tries ++ (last ++ [.log notice]) ∧
      tries.length = 2 ∧ deeds.countP Deed.isPause = 2 ∧
      deeds.countP (Deed.isLogAt .warning) = 2 ∧ deeds.countP (Deed.isLogAt .error) = 0 := by
  have conflict {α : Type} : IsCalm (.error (.fault (.api (.int 409) .null)) : Except Failure α) :=
    isCalm_error rfl
  have writes : Writes {} (withBatch {} "Widget/default/web"
    (.of (Traffic.widget "apps/v1" "web")) [(.phase, ["initializing"])]) [] _ := .nil
  have writes := writes.snoc (.read _ rfl conflict)
  have writes := writes.snoc (.pause 0.0 rfl)
  have writes := writes.snoc (.read (.ok (some (Traffic.widget "apps/v1" "web"))) rfl (isCalm_ok _))
  have writes := writes.snoc (.write _ rfl conflict)
  have writes := writes.snoc (.pause 0.0 rfl)
  have writes := writes.snoc (.read (.ok (some (Traffic.widget "apps/v1" "web"))) rfl (isCalm_ok _))
  have writes := writes.snoc (.write (.ok ()) rfl (isCalm_ok _))
  obtain ⟨-, -, ended⟩ := attempts_of_writes writes
  obtain ⟨tries, last, failure, notice, shape, -, -, -, -, gets, pauses, warnings, -⟩ := ended rfl
  have two : tries.length = 2 := (Nat.succ.inj gets).symm
  exact ⟨_, _, tries, last, notice, writes, rfl, shape, two, pauses.trans two, warnings.trans two,
    rfl⟩

end Flush

end Driftwatch
