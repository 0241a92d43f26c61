/-
Where flushes and what they write come from.

* `Requested`: a request reached a ledger.
* `Frame.IsFounded`: a flush works for the place of a request, and the values it is busy with
  were asked for under its key; after every run this holds of all flushes (`Run.isFounded`).
* `Frame.WritesMerge`: what a flush is writing is its copy of the object with its batch folded
  in; after every run this holds of all flushes (`Run.writesMerge`).
* `Effect.forall_copies`: the copy of a flush is what it read last, so that what holds of every
  object that is read holds of all copies.
-/
import Driftwatch.Proofs.Traffic.Arrivals

namespace Driftwatch.Traffic

variable {settings : Nat → Settings}

/-! ### Stages -/

/-- After a failure the batch is given up, or there is a pause. -/
lemma stage_afterFailure (settings : Settings) (key : String) (a : Attempt) (e : Failure) :
    (Flush.afterFailure settings key a e).1 = .draining ∨
      (Flush.afterFailure settings key a e).1 = .pausing a := by
  rw [Flush.afterFailure]
  split
  · exact .inr rfl
  · exact .inl rfl

/-- After the object was read it is written with the batch folded in, unless there is nothing to
write or the batch cannot be folded in. -/
lemma stage_afterRead (settings : Settings) (key : String) (a : Attempt) (found : Option Json) :
    (Flush.afterRead settings key a (.ok found)).1 = .draining ∨
      (Flush.afterRead settings key a (.ok found)).1 = .pausing a ∨
      ∃ current body, found = some current ∧
        Merge.apply settings.maxFingerprints current a.batch = .ok (some body) ∧
        (Flush.afterRead settings key a (.ok found)).1 = .writing a body := by
  cases found with
  | none => exact .inl rfl
  | some current =>
      rw [Flush.afterRead]
      cases merged : Merge.apply settings.maxFingerprints current a.batch with
      | error e => exact (stage_afterFailure settings key a e).imp id .inl
      | ok body =>
          cases body with
          | none => exact .inl rfl
          | some body => exact .inr (.inr ⟨current, body, rfl, merged, rfl⟩)

/-! ### Requests -/

/-- A request reached a ledger. -/
def Requested (i : Nat) (q : Request) (events : List Event) : Prop :=
  ∃ t obj r, .report i t obj r ∈ events ∧ r.request obj = some q

lemma Requested.append {i : Nat} {q : Request} {events : List Event} (h : Requested i q events)
    (more : List Event) : Requested i q (events ++ more) := by
  obtain ⟨t, obj, r, mem, request⟩ := h
  exact ⟨t, obj, r, List.mem_append_left more mem, request⟩

/-- A value that waits was asked for. -/
lemma IsWaiting.requested {i : Nat} {key value : String} {slot : Slot} {events : List Event}
    (h : IsWaiting i key slot value events) :
    ∃ q, Requested i q events ∧ q.key = key ∧ q.slot = slot ∧ q.value = value := by
  obtain ⟨before, e, after, rfl, asked, -⟩ := h
  cases e with
  | flush t f act => simp [Event.asked] at asked
  | report j t obj r =>
      rw [Event.asked] at asked
      cases request : r.request obj with
      | none => simp [request] at asked
      | some q =>
          simp only [request, Option.ite_none_right_eq_some, Option.some.injEq] at asked
          obtain ⟨⟨rfl, key, slot⟩, value⟩ := asked
          exact ⟨q, ⟨t, obj, r, by simp, request⟩, key, slot, value⟩

/-! ### Flushes and their batches -/

/-- The batch that a flush is busy with. -/
def Frame.batch (f : Frame) : Batch :=
  match f.flush.stage with
  | .reading a | .writing a _ | .pausing a => a.batch
  | .draining | .ended => []

namespace Frame

/-- A flush that goes on from one stage with its batch to another keeps it. -/
lemma batch_proceed {f : Frame} {a : Attempt} {stage : Flush.Stage} (same : f.batch = a.batch)
    (next : stage = .draining ∨ stage = .pausing a) :
    (f.proceed stage).batch = f.batch ∨ (f.proceed stage).batch = [] := by
  rcases next with rfl | rfl
  · exact .inr rfl
  · exact .inl same.symm

/-- After a failure the batch is tried again or given up. -/
lemma batch_afterFailure (settings : Settings) {f : Frame} {a : Attempt}
    (same : f.batch = a.batch) (e : Failure) :
    (f.afterFailure settings a e).batch = f.batch ∨
      (f.afterFailure settings a e).batch = [] := by
  rw [afterFailure]
  split
  · exact .inl rfl
  · exact batch_proceed same (stage_afterFailure settings f.flush.key a e)

/-- A flush that goes on keeps its batch, or is done with it. -/
lemma Move.batch_eq {settings : Settings} {f f' : Frame} {act : Act}
    (move : f.Move settings act f') : f'.batch = f.batch ∨ f'.batch = [] := by
  cases move with
  | @read a answer stage =>
      have same : f.batch = a.batch := by rw [batch, stage]
      cases answer with
      | error e => exact batch_afterFailure settings same e
      | ok found =>
          rcases stage_afterRead settings f.flush.key a found with
            next | next | ⟨current, body, -, -, next⟩
          · exact batch_proceed same (.inl next)
          · exact batch_proceed same (.inr next)
          · refine .inl ?_
            rw [same, afterRead, batch, proceed, next]
  | @write a body answer stage =>
      have same : f.batch = a.batch := by rw [batch, stage]
      cases answer with
      | error e => exact batch_afterFailure settings same e
      | ok _ => exact .inr rfl
  | @pause a stage =>
      have same : f.batch = a.batch := by rw [batch, stage]
      exact .inl same.symm

end Frame

/-- A flush works for the place of a request, and the values it is busy with were asked for
under its key. -/
structure Frame.IsFounded (events : List Event) (f : Frame) : Prop where
  origin : ∃ q, Requested f.ledger q events ∧ q.key = f.flush.key ∧ q.target = f.flush.target
  values : ∀ slot, ∀ value ∈ f.batch.values slot,
    ∃ q, Requested f.ledger q events ∧ q.key = f.flush.key ∧ q.slot = slot ∧ q.value = value

/-- What was asked for before is asked for later. -/
lemma Frame.IsFounded.append {events : List Event} {f : Frame} (h : f.IsFounded events)
    (more : List Event) : f.IsFounded (events ++ more) := by
  refine ⟨?_, fun slot value mem => ?_⟩
  · obtain ⟨q, requested, same⟩ := h.origin
    exact ⟨q, requested.append more, same⟩
  · obtain ⟨q, requested, same⟩ := h.values slot value mem
    exact ⟨q, requested.append more, same⟩

/-- **Foundation, one step.** -/
lemma Effect.isFounded {s s' : State} {events : List Event} {e : Event}
    (effect : Effect settings s s' e) (waiting : s.HoldsWaiting events)
    (h : ∀ f ∈ s.frames, f.IsFounded events) : ∀ f ∈ s'.frames, f.IsFounded (events ++ [e]) := by
  refine effect.forall_frames h (fun f hf => hf.append [e]) ?_ ?_ ?_
  · rintro i t obj r q rfl request
    refine ⟨⟨q, ⟨t, obj, r, by simp [Frame.start], request⟩, rfl, rfl⟩, fun slot value mem => ?_⟩
    exact absurd mem List.not_mem_nil
  · rintro t f batch - taken hf
    refine ⟨(hf.append [e]).origin, fun slot value mem => ?_⟩
    -- the batch held the values that waited
    have held : value ∈ (((s.ledgers f.ledger).batch? f.flush.key).getD []).values slot := by
      rw [← Ledger.values_take, taken]
      exact mem
    rw [waiting, List.mem_eraseDups, mem_waiting_iff] at held
    obtain ⟨q, requested, same⟩ := held.requested
    exact ⟨q, requested.append [e], same⟩
  · rintro t f act f' - move hf
    have hf := hf.append [e]
    obtain ⟨ledger, key, target⟩ := move.origin
    refine ⟨by rw [ledger, key, target]; exact hf.origin, fun slot value mem => ?_⟩
    rw [ledger, key]
    rcases move.batch_eq with same | none
    · exact hf.values slot value (same ▸ mem)
    · rw [none] at mem
      exact absurd mem List.not_mem_nil

/-- **Foundation**, after every run. -/
lemma Run.isFounded {n : Nat} {events : List Event} {s : State}
    (run : Run settings (.start n) events s) : ∀ f ∈ s.frames, f.IsFounded events :=
  run.induct (P := fun events s => ∀ f ∈ s.frames, f.IsFounded events) (by simp)
    fun run effect h => effect.isFounded run.holdsWaiting h

/-! ### Copies -/

/-- What a flush is writing is its copy of the object with its batch folded in. -/
def Frame.WritesMerge (settings : Nat → Settings) (f : Frame) : Prop :=
  ∀ a body, f.flush.stage = .writing a body → ∃ copy, f.copy = some copy ∧
    Merge.apply (settings f.ledger).maxFingerprints copy a.batch = .ok (some body)

namespace Frame

/-- The copy of a flush is what it read last. -/
lemma Move.copy_eq {settings : Settings} {f f' : Frame} {act : Act}
    (move : f.Move settings act f') :
    f'.copy = f.copy ∨ ∃ found, act = .read (.ok found) ∧ f'.copy = found := by
  have failed (a : Attempt) (e : Failure) : (f.afterFailure settings a e).copy = f.copy := by
    rw [afterFailure]
    split <;> rfl
  cases move with
  | read answer stage =>
      cases answer with
      | error e => exact .inl (failed _ e)
      | ok found => exact .inr ⟨found, rfl, rfl⟩
  | write answer stage =>
      cases answer with
      | error e => exact .inl (failed _ e)
      | ok _ => exact .inl rfl
  | pause stage => exact .inl rfl

end Frame

/-- What holds of every object that is read holds of all copies, one step. -/
lemma Effect.forall_copies {P : Target → Json → Prop} {s s' : State} {e : Event}
    (effect : Effect settings s s' e)
    (h : ∀ f ∈ s.frames, ∀ copy, f.copy = some copy → P f.flush.target copy)
    (answer : ∀ {t f obj}, e = .flush t f (.read (.ok (some obj))) → P f.flush.target obj) :
    ∀ f ∈ s'.frames, ∀ copy, f.copy = some copy → P f.flush.target copy := by
  refine effect.forall_frames h (fun f hf => hf) ?_ (fun _ _ hf => hf) ?_
  · intro i t obj r q _ _ copy holds
    simp [Frame.start] at holds
  · rintro t f act f' rfl move hf copy holds
    rw [move.origin.2.2]
    rcases move.copy_eq with same | ⟨found, rfl, same⟩
    · exact hf copy (same ▸ holds)
    · rw [same] at holds
      subst holds
      exact answer rfl

namespace Frame

/-- A flush that does not write writes what it should. -/
lemma writesMerge_of_stage {f : Frame} (h : ∀ a body, f.flush.stage ≠ .writing a body) :
    f.WritesMerge settings :=
  fun a body stage => absurd stage (h a body)

/-- A call that fails changes nothing, or nothing is written after it. -/
lemma WritesMerge.afterFailure {f : Frame} (h : f.WritesMerge settings) (a : Attempt)
    (e : Failure) : (f.afterFailure (settings f.ledger) a e).WritesMerge settings := by
  rw [Frame.afterFailure]
  split
  · exact h
  · refine writesMerge_of_stage fun a' body stage => ?_
    change (Flush.afterFailure (settings f.ledger) f.flush.key a e).1 = _ at stage
    rcases stage_afterFailure (settings f.ledger) f.flush.key a e with next | next <;>
      simp [next] at stage

/-- **What is written, one step.** -/
lemma Move.writesMerge {f f' : Frame} {act : Act} (move : f.Move (settings f.ledger) act f')
    (h : f.WritesMerge settings) : f'.WritesMerge settings := by
  cases move with
  | @read a answer stage =>
      cases answer with
      | error e => exact h.afterFailure a e
      | ok found =>
          intro a' body writing
          change (Flush.afterRead (settings f.ledger) f.flush.key a (.ok found)).1 = _ at writing
          rcases stage_afterRead (settings f.ledger) f.flush.key a found with
            next | next | ⟨current, merged, rfl, apply, next⟩
          · simp [next] at writing
          · simp [next] at writing
          · rw [next] at writing
            obtain ⟨rfl, rfl⟩ := by simpa using writing
            exact ⟨current, rfl, apply⟩
  | @write a body answer stage =>
      cases answer with
      | error e => exact h.afterFailure a e
      | ok _ =>
          exact writesMerge_of_stage fun a' body' => by simp [afterWrite, proceed, Flush.afterWrite]
  | pause stage => exact writesMerge_of_stage fun a' body' => by simp [proceed, Flush.afterPause]

end Frame

/-- **What is written**, after every run. -/
lemma Run.writesMerge {n : Nat} {events : List Event} {s : State}
    (run : Run settings (.start n) events s) : ∀ f ∈ s.frames, f.WritesMerge settings := by
  refine run.induct (P := fun _ s => ∀ f ∈ s.frames, f.WritesMerge settings) (by simp)
    fun _ effect h => ?_
  refine effect.forall_frames h (fun f hf => hf) ?_ ?_ ?_
  · intro i t obj r q _ _
    exact Frame.writesMerge_of_stage fun a body => by simp [Frame.start, Flush.start]
  · intro t f batch _ _ _
    exact Frame.writesMerge_of_stage fun a body => by simp [Frame.proceed, Flush.afterTake]
  · intro t f act f' _ move hf
    exact move.writesMerge hf

end Driftwatch.Traffic
