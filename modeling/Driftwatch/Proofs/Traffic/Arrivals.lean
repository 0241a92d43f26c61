/-
What becomes of requests: none is lost and none is repeated.

* `Event.asked`, `Event.Takes`: what an event asks for under a key; the events in which a batch
  of a key is taken.
* `waiting`, `IsWaiting`: the values that were asked for since a batch was last taken.
* `State.HoldsWaiting`: the batch of a key holds the waiting values; every effect preserves this.
* `State.InOrder`: no flush is being interrupted, and every key with a batch is marked; every
  effect of a calm event preserves this.
* `no_request_lost_or_repeated`: both, and what they say about the batches that are taken.
-/
import Driftwatch.Proofs.Traffic.Marks

namespace Driftwatch.Traffic

variable {settings : Nat → Settings}

/-! ### Requests that wait -/

/-- The value that an event asks for under a key of a ledger. -/
def Event.asked (i : Nat) (key : String) (slot : Slot) : Event → Option String
  | .report j _ obj r =>
    match r.request obj with
    | some q => if j = i ∧ q.key = key ∧ q.slot = slot then some q.value else none
    | none => none
  | .flush _ _ _ => none

/-- A flush asks the table for the batch of a key. -/
def Event.Takes (i : Nat) (key : String) : Event → Prop
  | .flush _ f (.take _) => f.WorksFor i key
  | _ => False

instance (i : Nat) (key : String) : DecidablePred (Event.Takes i key) := fun e =>
  match e with
  | .flush _ f (.take _) => inferInstanceAs (Decidable (f.WorksFor i key))
  | .flush _ _ (.read _) | .flush _ _ (.write _ _) | .flush _ _ .pause | .flush _ _ .unwind
  | .report _ _ _ _ => isFalse id

/-- The values that were asked for since a batch was last taken, in order of arrival. -/
def waiting (i : Nat) (key : String) (slot : Slot) (events : List Event) : List String :=
  events.foldl (fun values e =>
    if e.Takes i key then [] else values ++ (e.asked i key slot).toList) []

/-- A value was asked for, and no batch has been taken since. -/
def IsWaiting (i : Nat) (key : String) (slot : Slot) (value : String) (events : List Event) :
    Prop :=
  ∃ before e after, events = before ++ e :: after ∧ e.asked i key slot = some value ∧
    ∀ g ∈ after, ¬ g.Takes i key

lemma waiting_concat_of_takes {i : Nat} {key : String} {e : Event} (h : e.Takes i key)
    (slot : Slot) (events : List Event) : waiting i key slot (events ++ [e]) = [] := by
  rw [waiting, List.foldl_append, List.foldl_cons, if_pos h, List.foldl_nil]

lemma waiting_concat_of_not_takes {i : Nat} {key : String} {e : Event} (h : ¬ e.Takes i key)
    (slot : Slot) (events : List Event) : waiting i key slot (events ++ [e]) =
      waiting i key slot events ++ (e.asked i key slot).toList := by
  rw [waiting, List.foldl_append, List.foldl_cons, if_neg h, List.foldl_nil, waiting]

/-- An event that asks for something takes nothing. -/
lemma Event.not_takes_of_asked {i : Nat} {key value : String} {slot : Slot} {e : Event}
    (h : e.asked i key slot = some value) : ¬ e.Takes i key := by
  cases e with
  | report j t obj r => exact id
  | flush t f act => simp [asked] at h

/-- The last event asks for a value, or the value waited before and the event takes nothing. -/
lemma isWaiting_concat_iff {i : Nat} {key value : String} {slot : Slot} {events : List Event}
    {e : Event} : IsWaiting i key slot value (events ++ [e]) ↔
      e.asked i key slot = some value ∨ IsWaiting i key slot value events ∧ ¬ e.Takes i key := by
  constructor
  · rintro ⟨before, e', after, split, asked, quiet⟩
    rcases List.eq_nil_or_concat' after with rfl | ⟨after, last, rfl⟩
    · obtain ⟨rfl, rfl⟩ := by simpa using List.append_inj' split rfl
      exact .inl asked
    · rw [← List.cons_append, ← List.append_assoc] at split
      obtain ⟨rfl, rfl⟩ := by simpa using List.append_inj' split rfl
      exact .inr ⟨⟨before, e', after, rfl, asked, fun g hg => quiet g (by simp [hg])⟩,
        quiet e (by simp)⟩
  · rintro (asked | ⟨⟨before, e', after, rfl, asked, quiet⟩, idle⟩)
    · exact ⟨events, e, [], rfl, asked, by simp⟩
    · refine ⟨before, e', after ++ [e], by simp, asked, fun g hg => ?_⟩
      rcases List.mem_append.mp hg with hg | hg
      · exact quiet g hg
      · rwa [List.mem_singleton.mp hg]

/-- The waiting values are those that were asked for since a batch was last taken. -/
lemma mem_waiting_iff {i : Nat} {key value : String} {slot : Slot} (events : List Event) :
    value ∈ waiting i key slot events ↔ IsWaiting i key slot value events := by
  induction events using List.reverseRecOn with
  | nil => simp [waiting, IsWaiting]
  | append_singleton events e ih =>
      rw [isWaiting_concat_iff]
      by_cases takes : e.Takes i key
      · have : e.asked i key slot ≠ some value := fun h => e.not_takes_of_asked h takes
        simp [waiting_concat_of_takes takes, takes, this]
      · simp [waiting_concat_of_not_takes takes, takes, ih, or_comm]

/-! ### Batches and waiting values -/

/-- A value that arrives is told apart from those before it. -/
lemma eraseDups_concat (values : List String) (value : String) :
    (values ++ [value]).eraseDups = Batch.arrive values.eraseDups value := by
  rw [List.eraseDups_append, Batch.arrive]
  by_cases h : value ∈ values <;>
    simp [h, List.mem_eraseDups, List.removeAll, List.eraseDups_cons]

lemma nodup_eraseDups (values : List String) : values.eraseDups.Nodup := by
  induction values using List.reverseRecOn with
  | nil => simp
  | append_singleton values value ih =>
      rw [eraseDups_concat, Batch.arrive]
      split
      · exact ih
      · rename_i new
        rw [← List.concat_eq_append]
        exact List.Nodup.concat new ih

/-- The batch of each key holds the waiting values. -/
def State.HoldsWaiting (events : List Event) (s : State) : Prop :=
  ∀ i key slot,
    (((s.ledgers i).batch? key).getD []).values slot = (waiting i key slot events).eraseDups

lemma State.holdsWaiting_start (n : Nat) : (start n).HoldsWaiting [] := by
  intro i key slot
  rfl

/-- A request puts its value behind those that wait. -/
lemma State.HoldsWaiting.of_submit {s s' : State} {events : List Event}
    (h : s.HoldsWaiting events) {j t : Nat} {obj : Json} {r : Report} {q : Request}
    (request : r.request obj = some q)
    (ledgers : s'.ledgers =
      Function.update s.ledgers j ((s.ledgers j).submit q.key q.slot q.value).2) :
    s'.HoldsWaiting (events ++ [.report j t obj r]) := by
  intro i key slot
  have idle : ¬ (Event.report j t obj r).Takes i key := id
  rw [waiting_concat_of_not_takes idle, ledgers]
  by_cases hi : j = i
  · subst hi
    rw [Function.update_self, Ledger.batch?_submit]
    by_cases hk : q.key = key
    · subst hk
      rw [if_pos rfl, Option.getD_some, Batch.values_add]
      by_cases hs : q.slot = slot
      · subst hs
        simp [Event.asked, request, eraseDups_concat, h j q.key q.slot]
      · simp [Event.asked, request, hs, Ne.symm hs, h j q.key slot]
    · simp [Event.asked, request, hk, Ne.symm hk, h j key slot]
  · simp [Event.asked, request, hi, Ne.symm hi, h i key slot]

/-- A batch that is asked for leaves nothing that waits. -/
lemma State.HoldsWaiting.of_take {s s' : State} {events : List Event} (h : s.HoldsWaiting events)
    {t : Nat} {f : Frame} {taken : Option Batch}
    (ledgers : s'.ledgers =
      Function.update s.ledgers f.ledger ((s.ledgers f.ledger).take f.flush.key).2) :
    s'.HoldsWaiting (events ++ [.flush t f (.take taken)]) := by
  intro i key slot
  rw [ledgers]
  by_cases takes : (Event.flush t f (.take taken)).Takes i key
  · rw [waiting_concat_of_takes takes]
    obtain ⟨rfl, rfl⟩ := takes
    rw [Function.update_self, Ledger.batch?_take, if_pos rfl]
    rfl
  · rw [waiting_concat_of_not_takes takes]
    by_cases hi : f.ledger = i
    · subst hi
      have other : key ≠ f.flush.key := fun same => takes ⟨rfl, same.symm⟩
      simp [Ledger.batch?_take, other, Event.asked, h f.ledger key slot]
    · simp [Ne.symm hi, Event.asked, h i key slot]

/-- An event that neither asks nor takes leaves what waits. -/
lemma State.HoldsWaiting.of_quiet {s s' : State} {events : List Event} (h : s.HoldsWaiting events)
    {e : Event} (quiet : ∀ i key slot, ¬ e.Takes i key ∧ e.asked i key slot = none)
    (batches : ∀ i key, (s'.ledgers i).batch? key = (s.ledgers i).batch? key) :
    s'.HoldsWaiting (events ++ [e]) := by
  intro i key slot
  obtain ⟨idle, silent⟩ := quiet i key slot
  rw [waiting_concat_of_not_takes idle, silent, batches, h i key slot]
  simp

/-- **The batches hold what waits, one step.** -/
lemma Effect.holdsWaiting {s s' : State} {events : List Event} {e : Event}
    (effect : Effect settings s s' e) (h : s.HoldsWaiting events) :
    s'.HoldsWaiting (events ++ [e]) := by
  cases effect with
  | ignore request ledgers frames =>
      exact h.of_quiet (fun i key slot => ⟨id, by simp [Event.asked, request]⟩) (by simp [ledgers])
  | join request marked ledgers frames => exact h.of_submit request ledgers
  | launch request unmarked ledgers frames => exact h.of_submit request ledgers
  | take calm stage taken ledgers before after => exact h.of_take ledgers
  | drain calm stage taken ledgers frames => exact h.of_take ledgers
  | move calm move ledgers before after =>
      refine h.of_quiet (fun i key slot => ⟨?_, rfl⟩) (by simp [ledgers])
      cases move <;> exact id
  | @unwind t f e raised ledgers frames =>
      refine h.of_quiet (fun i key slot => ⟨id, rfl⟩) fun i key => ?_
      rw [ledgers]
      by_cases hi : i = f.ledger
      · subst hi
        simp [Ledger.abandon, Ledger.batch?]
      · simp [hi]

/-- **The batches hold what waits**, after every run. -/
lemma Run.holdsWaiting {n : Nat} {events : List Event} {s : State}
    (run : Run settings (.start n) events s) : s.HoldsWaiting events :=
  run.induct (P := fun events s => s.HoldsWaiting events) (State.holdsWaiting_start n)
    fun _ effect h => effect.holdsWaiting h

/-- The batch that a flush takes holds the values that waited. -/
lemma Step.values_taken {s s' : State} {events : List Event} {t : Nat} {f : Frame}
    {taken : Option Batch} (step : Step settings s (.flush t f (.take taken)) s')
    (h : s.HoldsWaiting events) (slot : Slot) :
    (taken.getD []).values slot = (waiting f.ledger f.flush.key slot events).eraseDups := by
  rw [← h, ← Ledger.values_take]
  cases step with
  | take top calm stage taken => rw [taken]
  | drain top calm stage taken => rw [taken]
  | move top calm move => cases move

/-! ### Calm runs -/

/-- No call of the server ends in an interrupt. -/
def Event.Calm : Event → Prop
  | .flush _ _ (.read (.error e)) | .flush _ _ (.write _ (.error e)) => e.isInterrupt = false
  | _ => True

/-- A flush that is not interrupted goes on without an interrupt. -/
lemma Frame.Move.calm {settings : Settings} {t : Nat} {f f' : Frame} {act : Act}
    (move : f.Move settings act f') (h : f.interrupt = none)
    (calm : (Event.flush t f act).Calm) : f'.interrupt = none := by
  have failed (a : Attempt) (e : Failure) (he : e.isInterrupt = false) :
      (f.afterFailure settings a e).interrupt = none := by
    rw [afterFailure, he]
    exact h
  cases move with
  | read answer stage =>
      cases answer with
      | ok found => exact h
      | error e => exact failed _ e calm
  | write answer stage =>
      cases answer with
      | ok _ => exact h
      | error e => exact failed _ e calm
  | pause stage => exact h

/-- No flush is being interrupted, and every key that has a batch is marked. -/
structure State.InOrder (s : State) : Prop where
  calm : ∀ f ∈ s.frames, f.interrupt = none
  marked : ∀ i key, (s.ledgers i).batch? key ≠ none → key ∈ (s.ledgers i).active

lemma State.inOrder_start (n : Nat) : (start n).InOrder :=
  ⟨by simp, fun _ _ h => absurd rfl h⟩

/-- A request keeps the keys that have a batch marked. -/
lemma State.InOrder.marked_of_submit {s s' : State} (h : s.InOrder) {j : Nat} {q : Request}
    (ledgers : s'.ledgers =
      Function.update s.ledgers j ((s.ledgers j).submit q.key q.slot q.value).2)
    (i : Nat) (key : String) (some : (s'.ledgers i).batch? key ≠ none) :
    key ∈ (s'.ledgers i).active := by
  rw [ledgers] at some ⊢
  by_cases hi : i = j
  · subst hi
    rw [Function.update_self, Ledger.batch?_submit] at some
    rw [Function.update_self, Ledger.mem_active_submit]
    by_cases hk : key = q.key
    · exact .inl hk
    · rw [if_neg hk] at some
      exact .inr (h.marked i key some)
  · rw [Function.update_of_ne hi] at some ⊢
    exact h.marked i key some

/-- A batch that is asked for keeps the keys that have a batch marked. -/
lemma State.InOrder.marked_of_take {s s' : State} (h : s.InOrder) {f : Frame}
    (ledgers : s'.ledgers =
      Function.update s.ledgers f.ledger ((s.ledgers f.ledger).take f.flush.key).2)
    (i : Nat) (key : String) (some : (s'.ledgers i).batch? key ≠ none) :
    key ∈ (s'.ledgers i).active := by
  rw [ledgers] at some ⊢
  by_cases hi : i = f.ledger
  · subst hi
    rw [Function.update_self, Ledger.batch?_take] at some
    rw [Function.update_self]
    by_cases hk : key = f.flush.key
    · simp [hk] at some
    · rw [if_neg hk] at some
      have marked := h.marked f.ledger key some
      cases taken : ((s.ledgers f.ledger).take f.flush.key).1 with
      | some batch => rwa [Ledger.active_take_of_some taken]
      | none => exact (Ledger.mem_active_take_of_none taken key).mpr ⟨hk, marked⟩
  · rw [Function.update_of_ne hi] at some ⊢
    exact h.marked i key some

/-- **Calm order, one step.** -/
lemma Effect.inOrder {s s' : State} {e : Event} (effect : Effect settings s s' e) (calm : e.Calm)
    (h : s.InOrder) : s'.InOrder := by
  refine ⟨?_, ?_⟩
  · exact effect.forall_frames h.calm (fun f still => still) (fun _ _ => rfl)
      (fun _ _ still => still) fun event move still => move.calm still (event ▸ calm)
  · cases effect with
    | ignore request ledgers frames => exact ledgers ▸ h.marked
    | join request marked ledgers frames => exact h.marked_of_submit ledgers
    | launch request unmarked ledgers frames => exact h.marked_of_submit ledgers
    | take still stage taken ledgers before after => exact h.marked_of_take ledgers
    | drain still stage taken ledgers frames => exact h.marked_of_take ledgers
    | move still move ledgers before after => exact ledgers ▸ h.marked
    | @unwind t f e raised ledgers frames =>
        have still := h.calm f (by simp [frames])
        rw [raised] at still
        exact absurd still (by simp)

/-- **Calm order**, after every run without interrupts. -/
lemma Run.inOrder {n : Nat} {events : List Event} {s : State}
    (run : Run settings (.start n) events s) (calm : ∀ e ∈ events, e.Calm) : s.InOrder := by
  refine run.induct (P := fun events s => (∀ e ∈ events, e.Calm) → s.InOrder)
    (fun _ => State.inOrder_start n) (fun _ effect h calm => ?_) calm
  exact effect.inOrder (calm _ (by simp)) (h fun e he => calm e (by simp [he]))

/-- A table without batches and marks is empty. -/
lemma ledger_eq_empty {ledger : Ledger} (batches : ∀ key, ledger.batch? key = none)
    (marks : ∀ key, key ∉ ledger.active) : ledger = .empty := by
  obtain ⟨pending, active⟩ := ledger
  obtain rfl : active = [] := List.eq_nil_iff_forall_not_mem.mpr marks
  cases pending with
  | nil => rfl
  | cons entry rest =>
      have := batches entry.1
      simp [Ledger.batch?] at this

/-- **No request is lost and none is repeated.**  In a run without interrupts every key that has
a batch is marked; when a flush asks for the batch of its key, the batch holds exactly the values
that were asked for under the key since a batch of it was last taken, once each and in order of
arrival; and when no flush is under way, the table is empty. -/
theorem no_request_lost_or_repeated {n : Nat} {events : List Event} {s : State}
    (run : Run settings (.start n) events s) (calm : ∀ e ∈ events, e.Calm) :
    (∀ i key, (s.ledgers i).batch? key ≠ none → key ∈ (s.ledgers i).active) ∧
    (∀ {before t f taken after}, events = before ++ .flush t f (.take taken) :: after → ∀ slot,
      (taken.getD []).values slot = (waiting f.ledger f.flush.key slot before).eraseDups ∧
      ((taken.getD []).values slot).Nodup ∧
      ∀ value, value ∈ (taken.getD []).values slot ↔
        IsWaiting f.ledger f.flush.key slot value before) ∧
    ∀ i, (∀ f ∈ s.frames, f.ledger ≠ i) → s.ledgers i = .empty := by
  have order := run.inOrder calm
  refine ⟨order.marked, fun {before t f taken after} split slot => ?_, fun i none => ?_⟩
  · subst split
    obtain ⟨s₁, s₂, run, step⟩ := run.step_of_split
    have values := step.values_taken run.holdsWaiting slot
    refine ⟨values, ?_, fun value => ?_⟩
    · rw [values]
      exact nodup_eraseDups _
    · rw [values, List.mem_eraseDups, mem_waiting_iff]
  · have unmarked (key : String) : key ∉ (s.ledgers i).active := by
      intro marked
      have one : s.flushes i key = 1 := by rw [run.marksFlushes, if_pos marked]
      obtain ⟨f, hf, works⟩ := Multiset.countP_pos.mp (one ▸ Nat.one_pos)
      exact none f hf works.1
    refine ledger_eq_empty (fun key => ?_) unmarked
    by_contra batch
    exact unmarked key (order.marked i key batch)

/-- Two threads report that a widget is initialized while the first of them reads it for an
earlier report: the next batch holds the phase once, and then nothing is left. -/
theorem no_request_lost_or_repeated_during_read :
    ∃ events t f batch s,
      Run (fun _ => {}) (.start 2) (events ++ [.flush t f (.take (some batch))]) s ∧
      batch.values .phase = ["initialized"] ∧ (batch.values .phase).Nodup ∧
      IsWaiting 0 "Widget/default/web" .phase "initialized" events ∧
      ∃ more s', Run (fun _ => {}) s more s' ∧ s'.ledgers 0 = .empty := by
  have run : Run (fun _ => {}) (.start 2) [] (.start 2) := .nil
  have run := run.snoc (e := .report 0 0 (widget "apps/v1" "web") (.phase "initializing"))
    (.submit ⟨_, rfl, by simp⟩ rfl)
  have run := run.snoc (.take (t := 0) rfl rfl rfl rfl)
  have run := run.snoc (e := .report 0 1 (widget "apps/v1" "web") (.phase "initialized"))
    (.submit ⟨_, rfl, by simp⟩ rfl)
  have run := run.snoc (e := .report 0 0 (widget "apps/v1" "web") (.phase "initialized"))
    (.submit ⟨_, rfl, by decide⟩ rfl)
  have run := run.snoc (.move (t := 0) rfl rfl (.read (.ok none) rfl))
  have run := run.snoc (.take (t := 0) rfl rfl rfl rfl)
  obtain ⟨-, taken, -⟩ := no_request_lost_or_repeated run (by simp [Event.Calm])
  obtain ⟨-, nodup, waits⟩ := taken rfl .phase
  refine ⟨_, _, _, _, _, run, rfl, nodup, (waits _).mp (List.mem_singleton_self _), ?_⟩
  have last := run.snoc (.move (t := 0) rfl rfl (.read (.ok none) rfl))
  have last := last.snoc (.drain (t := 0) rfl rfl rfl rfl)
  obtain ⟨-, -, empty⟩ := no_request_lost_or_repeated last (by simp [Event.Calm])
  exact ⟨_, _, .snoc (.snoc .nil (.move (t := 0) rfl rfl (.read (.ok none) rfl)))
    (.drain (t := 0) rfl rfl rfl rfl), empty 0 fun f hf => (Multiset.notMem_zero f hf).elim⟩

end Driftwatch.Traffic
