/-
How often a flush writes, how often it calls the server, and that it ends.

* `Event.requests`, `Event.rounds`, `Event.calls`, `Event.steps`: what one event adds to each count;
  `total` sums it up for a run.
* `Run.total_le`: what is gained in a run was there at first or was paid for, if this is so for
  every step.
* `Effect.rounds_le`, `Effect.calls_le`, `Effect.steps_le`: the three accounts, one step: a round is
  paid for by what waits, a call by the attempts that are left, and a step by both.
* `Execution`: traffic that goes on forever; it comes to rest after the last request, if it never
  stalls (`Execution.exists_rest`).
* `flush_ends_within_requests`: the rounds and calls of a flush are bounded by the requests for its
  key, such a request calls nobody, and with finitely many requests all flushes end.
-/
import Driftwatch.Proofs.Traffic.Desk
import Driftwatch.Proofs.Traffic.Interrupts
import Driftwatch.Proofs.Traffic.Returns
import Mathlib.Algebra.BigOperators.Group.Multiset.Basic
import Mathlib.Algebra.BigOperators.Ring.List
import Mathlib.Algebra.Order.BigOperators.Group.Multiset
import Mathlib.Algebra.Order.Ring.Nat

namespace Driftwatch

/-! ### Stages -/

namespace Flush

/-- How often a flush calls the server at most for its batch from a stage on, if a batch is worth so
many attempts. -/
def Stage.callsLeft (total : Nat) : Stage → Nat
  | .reading a => 2 * (total - a.number) + 2
  | .writing a _ => 2 * (total - a.number) + 1
  | .pausing a => 2 * (total - a.number)
  | .draining | .ended => 0

/-- After a failed attempt a flush calls the server in the attempts that are left only. -/
lemma callsLeft_afterFailure (settings : Settings) (key : String) (a : Attempt)
    (failure : Failure) (total : Nat) :
    (afterFailure settings key a failure).1.callsLeft total ≤ 2 * (total - a.number) := by
  rw [afterFailure]
  split
  · exact le_refl _
  · exact Nat.zero_le _

/-- Once the object was read, a flush writes it at most before the next attempt. -/
lemma callsLeft_afterRead (settings : Settings) (key : String) (a : Attempt)
    (answer : Except Failure (Option Json)) (total : Nat) :
    (afterRead settings key a answer).1.callsLeft total ≤ 2 * (total - a.number) + 1 := by
  have failed (e : Failure) := callsLeft_afterFailure settings key a e total
  cases answer with
  | error e => exact (failed e).trans (Nat.le_succ _)
  | ok found =>
      cases found with
      | none => exact Nat.zero_le _
      | some current =>
          rw [afterRead]
          cases Merge.apply settings.maxFingerprints current a.batch with
          | error e => exact (failed e).trans (Nat.le_succ _)
          | ok body => cases body <;> simp [Stage.callsLeft]

end Flush

namespace Traffic

variable {settings : Nat → Settings}

/-! ### Counting -/

/-- What the events of a run amount to. -/
def total (amount : Event → Nat) (events : List Event) : Nat :=
  (events.map amount).sum

lemma total_append (amount : Event → Nat) (events more : List Event) :
    total amount (events ++ more) = total amount events + total amount more := by
  simp [total]

lemma total_singleton (amount : Event → Nat) (e : Event) : total amount [e] = amount e := by
  simp [total]

/-- A call of the server. -/
def Act.calls : Act → Nat
  | .read _ | .write _ _ => 1
  | _ => 0

/-- A batch that is taken. -/
def Act.rounds : Act → Nat
  | .take (some _) => 1
  | _ => 0

namespace Event

/-- A request for a key of a ledger. -/
def requests (i : Nat) (key : String) : Event → Nat
  | .report j _ obj r =>
    match r.request obj with
    | some q => if j = i ∧ q.key = key then 1 else 0
    | none => 0
  | .flush _ _ _ => 0

/-- A round of a flush that works for a key: its batch is taken. -/
def rounds (i : Nat) (key : String) : Event → Nat
  | .flush _ f act => if f.WorksFor i key then act.rounds else 0
  | .report _ _ _ _ => 0

/-- A call of the server by a flush that works for a key. -/
def calls (i : Nat) (key : String) : Event → Nat
  | .flush _ f act => if f.WorksFor i key then act.calls else 0
  | .report _ _ _ _ => 0

/-- A step of a flush. -/
def steps : Event → Nat
  | .flush _ _ _ => 1
  | .report _ _ _ _ => 0

/-- How many steps of flushes a request is good for. -/
def allowance (settings : Nat → Settings) : Event → Nat
  | .report j _ obj r =>
    match r.request obj with
    | some _ => 3 * Flush.attempts (settings j) + 2
    | none => 0
  | .flush _ _ _ => 0

end Event

/-- An event that asks for nothing is good for no steps. -/
lemma Event.allowance_eq_zero {e : Event} (silent : ∀ i key, e.requests i key = 0) :
    e.allowance settings = 0 := by
  cases e with
  | report j t obj r =>
      rw [allowance]
      cases request : r.request obj with
      | none => rfl
      | some q => simpa [requests, request] using silent j q.key
  | flush t f act => rfl

/-- **An account, all steps**: what is gained in a run and what is left were there at first or were
paid for, if this is so for every step. -/
lemma Run.total_le {P : State → Prop} {stock : State → Nat} {gain price : Event → Nat}
    {s s' : State} {events : List Event} (run : Run settings s events s') (first : P s)
    (keep : ∀ {s₁ s₂ e}, Effect settings s₁ s₂ e → P s₁ → P s₂)
    (each : ∀ {s₁ s₂} e, Effect settings s₁ s₂ e → P s₁ → gain e + stock s₂ ≤ stock s₁ + price e) :
    P s' ∧ total gain events + stock s' ≤ stock s + total price events := by
  induction run with
  | nil => exact ⟨first, by simp [total]⟩
  | snoc run step ih =>
      obtain ⟨holds, account⟩ := ih
      refine ⟨keep step.effect holds, ?_⟩
      have last := each _ step.effect holds
      rw [total_append, total_append, total_singleton, total_singleton]
      omega

/-! ### Rounds -/

/-- Whether a batch waits for a key. -/
def State.waits (s : State) (i : Nat) (key : String) : Nat :=
  if (s.ledgers i).batch? key = none then 0 else 1

lemma State.waits_le_one (s : State) (i : Nat) (key : String) : s.waits i key ≤ 1 := by
  rw [waits]
  split <;> omega

/-- A request lets a batch wait for its key. -/
lemma State.waits_of_submit {s s' : State} {j t : Nat} {obj : Json} {r : Report} {q : Request}
    (request : r.request obj = some q)
    (ledgers : s'.ledgers =
      Function.update s.ledgers j ((s.ledgers j).submit q.key q.slot q.value).2)
    (i : Nat) (key : String) :
    s'.waits i key ≤ s.waits i key + (Event.report j t obj r).requests i key := by
  simp only [Event.requests, request]
  by_cases here : j = i ∧ q.key = key
  · have one := s'.waits_le_one i key
    rw [if_pos here]
    omega
  · rw [if_neg here, waits, waits, ledgers]
    by_cases hi : i = j
    · subst hi
      have other : key ≠ q.key := fun same => here ⟨rfl, same.symm⟩
      rw [Function.update_self, Ledger.batch?_submit, if_neg other]
      exact le_refl _
    · rw [Function.update_of_ne hi]
      exact le_refl _

/-- A flush that asks for a batch leaves none for its key, and those of all other keys. -/
lemma State.waits_of_take {s s' : State} {f : Frame}
    (ledgers : s'.ledgers =
      Function.update s.ledgers f.ledger ((s.ledgers f.ledger).take f.flush.key).2)
    (i : Nat) (key : String) :
    s'.waits i key = if f.WorksFor i key then 0 else s.waits i key := by
  rw [waits, ledgers]
  by_cases hi : i = f.ledger
  · subst hi
    rw [Function.update_self, Ledger.batch?_take]
    by_cases hk : key = f.flush.key
    · simp [Frame.WorksFor, hk]
    · simp [Frame.WorksFor, hk, Ne.symm hk, waits]
  · simp [Frame.WorksFor, hi, Ne.symm hi, waits]

/-- **Rounds, one step**: a round is paid for by the batch that waits, and this one by a request. -/
lemma Effect.rounds_le {s s' : State} {e : Event} (effect : Effect settings s s' e) (i : Nat)
    (key : String) : e.rounds i key + s'.waits i key ≤ s.waits i key + e.requests i key := by
  have same (batches : (s'.ledgers i).batch? key = (s.ledgers i).batch? key) :
      s'.waits i key = s.waits i key := by
    rw [State.waits, State.waits, batches]
  cases effect with
  | @ignore j t obj r request ledgers frames =>
      rw [same (by rw [ledgers])]
      simp [Event.rounds]
  | @join j t obj r q request marked ledgers frames =>
      simpa [Event.rounds] using State.waits_of_submit request ledgers i key
  | @launch j t obj r q request unmarked ledgers frames =>
      simpa [Event.rounds] using State.waits_of_submit request ledgers i key
  | @take t f batch rest calm stage taken ledgers before after =>
      rw [State.waits_of_take ledgers i key]
      by_cases works : f.WorksFor i key
      · obtain ⟨rfl, rfl⟩ := works
        have waited : s.waits f.ledger f.flush.key = 1 := by
          rw [State.waits, (Ledger.batch?_of_take taken).1, if_neg (Option.some_ne_none _)]
        simp [Event.rounds, Event.requests, Act.rounds, Frame.WorksFor, waited]
      · simp [Event.rounds, Event.requests, works]
  | @drain t f calm stage taken ledgers frames =>
      rw [State.waits_of_take ledgers i key]
      by_cases works : f.WorksFor i key <;> simp [Event.rounds, Event.requests, Act.rounds, works]
  | @move t f f' act rest calm move ledgers before after =>
      rw [same (by rw [ledgers])]
      cases move <;> simp [Event.rounds, Event.requests, Act.rounds]
  | @unwind t f e raised ledgers frames =>
      have batches : (s'.ledgers i).batch? key = (s.ledgers i).batch? key := by
        rw [ledgers]
        by_cases hi : i = f.ledger
        · subst hi
          rw [Function.update_self]
          rfl
        · rw [Function.update_of_ne hi]
      rw [same batches]
      simp [Event.rounds, Event.requests, Act.rounds]

/-! ### Calls -/

namespace Frame

/-- How often a flush calls the server at most for its batch.  One that is being interrupted does
not call it again. -/
def callsLeft (settings : Settings) (f : Frame) : Nat :=
  match f.interrupt with
  | some _ => 0
  | none => f.flush.stage.callsLeft (Flush.attempts settings)

/-- How many steps a flush takes at most, if nothing waits. -/
def stepsLeft (settings : Settings) (f : Frame) : Nat :=
  match f.interrupt with
  | some _ => 1
  | none => f.flush.stage.stepsLeft (Flush.attempts settings) + 1

lemma callsLeft_of_calm {f : Frame} (calm : f.interrupt = none) (settings : Settings) :
    f.callsLeft settings = f.flush.stage.callsLeft (Flush.attempts settings) := by
  rw [callsLeft, calm]

lemma stepsLeft_of_calm {f : Frame} (calm : f.interrupt = none) (settings : Settings) :
    f.stepsLeft settings = f.flush.stage.stepsLeft (Flush.attempts settings) + 1 := by
  rw [stepsLeft, calm]

lemma stepsLeft_interrupted (f : Frame) (e : Failure) (settings : Settings) :
    (f.interrupted e).stepsLeft settings = 1 := rfl

/-- The answer of its call interrupts a flush, or it goes on without an interrupt. -/
lemma Move.interrupted_or_calm {settings : Settings} {t : Nat} {f f' : Frame} {act : Act}
    (move : f.Move settings act f') :
    (∃ e, f' = f.interrupted e) ∨ (Event.flush t f act).Calm := by
  have failed (a : Attempt) (e : Failure) :
      (∃ e', f.afterFailure settings a e = f.interrupted e') ∨ e.isInterrupt = false := by
    cases raised : e.isInterrupt with
    | true => exact .inl ⟨e, by rw [afterFailure, if_pos raised, interrupted]⟩
    | false => exact .inr rfl
  cases move with
  | @read a answer stage =>
      cases answer with
      | ok found => exact .inr trivial
      | error e => exact failed a e
  | @write a body answer stage =>
      cases answer with
      | ok _ => exact .inr trivial
      | error e => exact failed a e
  | pause stage => exact .inr trivial

/-- A call that fails leaves the calls of the attempts that are left. -/
lemma callsLeft_afterFailure {settings : Settings} {f : Frame} (calm : f.interrupt = none)
    (a : Attempt) (e : Failure) :
    (f.afterFailure settings a e).callsLeft settings ≤
      2 * (Flush.attempts settings - a.number) := by
  rw [afterFailure]
  split
  · exact Nat.zero_le _
  · rw [callsLeft_of_calm (by exact calm)]
    exact Flush.callsLeft_afterFailure settings f.flush.key a e _

/-- **Calls, one move**: a call is one of those that were left. -/
lemma Move.calls_le {settings : Settings} {f f' : Frame} {act : Act}
    (move : f.Move settings act f') (calm : f.interrupt = none)
    (goesOn : f.flush.stage.GoesOn (Flush.attempts settings)) :
    act.calls + f'.callsLeft settings ≤ f.callsLeft settings := by
  rw [callsLeft_of_calm calm]
  cases move with
  | @read a answer stage =>
      rw [stage, Flush.Stage.callsLeft, Act.calls]
      cases answer with
      | ok found =>
          have few := Flush.callsLeft_afterRead settings f.flush.key a (.ok found)
            (Flush.attempts settings)
          rw [callsLeft_of_calm (by exact calm)]
          simp only [afterRead, proceed]
          omega
      | error e =>
          have few : (f.afterFailure settings a e).callsLeft settings ≤ _ :=
            callsLeft_afterFailure calm a e
          rw [afterRead]
          omega
  | @write a body answer stage =>
      rw [stage, Flush.Stage.callsLeft, Act.calls]
      cases answer with
      | ok _ =>
          rw [callsLeft_of_calm (by exact calm)]
          simp only [afterWrite, proceed, Flush.afterWrite, Flush.Stage.callsLeft]
          omega
      | error e =>
          have few : (f.afterFailure settings a e).callsLeft settings ≤ _ :=
            callsLeft_afterFailure calm a e
          rw [afterWrite]
          omega
  | @pause a stage =>
      rw [stage] at goesOn
      have another : a.number < Flush.attempts settings := goesOn
      rw [stage, callsLeft_of_calm (by exact calm)]
      simp only [Act.calls, proceed, Flush.afterPause, Flush.Stage.callsLeft]
      omega

/-- A flush that goes on does so after each of its moves. -/
lemma Move.goesOn {settings : Settings} {f f' : Frame} {act : Act}
    (move : f.Move settings act f') (goesOn : f.flush.stage.GoesOn (Flush.attempts settings)) :
    f'.flush.stage.GoesOn (Flush.attempts settings) := by
  rcases move.interrupted_or_calm (t := 0) with ⟨e, rfl⟩ | still
  · exact goesOn
  · exact (move.stepsLeft_lt still goesOn).1

/-- **Steps, one move**: a move leaves a flush fewer steps, also one that interrupts it. -/
lemma Move.steps_lt {settings : Settings} {f f' : Frame} {act : Act}
    (move : f.Move settings act f') (calm : f.interrupt = none)
    (goesOn : f.flush.stage.GoesOn (Flush.attempts settings)) :
    f'.stepsLeft settings < f.stepsLeft settings := by
  rw [stepsLeft_of_calm calm]
  rcases move.interrupted_or_calm (t := 0) with ⟨e, rfl⟩ | still
  · rw [stepsLeft_interrupted]
    cases stage : f.flush.stage with
    | ended =>
        rw [stage] at goesOn
        exact goesOn.elim
    | _ => simp [Flush.Stage.stepsLeft]
  · rw [stepsLeft_of_calm (move.calm calm still)]
    have less := (move.stepsLeft_lt still goesOn).2
    omega

end Frame

/-- Every flush under way goes on. -/
def State.GoesOn (settings : Nat → Settings) (s : State) : Prop :=
  ∀ f ∈ s.frames, f.flush.stage.GoesOn (Flush.attempts (settings f.ledger))

/-- Every flush under way goes on, one step. -/
lemma Effect.goesOn {s s' : State} {e : Event} (effect : Effect settings s s' e)
    (h : s.GoesOn settings) : s'.GoesOn settings := by
  refine effect.forall_frames h (fun f on => on) (fun _ _ => trivial) (fun _ _ _ => trivial) ?_
  intro t f act f' _ move on
  rw [move.origin.1]
  exact move.goesOn on

/-- The flushes under way, each with its weight. -/
def State.sum (weight : Frame → Nat) (s : State) : Nat :=
  (s.frames.map weight).sum

lemma State.sum_cons {s : State} {f : Frame} {rest : Multiset Frame} (h : s.frames = f ::ₘ rest)
    (weight : Frame → Nat) : s.sum weight = weight f + (rest.map weight).sum := by
  rw [sum, h, Multiset.map_cons, Multiset.sum_cons]

/-- What a flush that works for a key has left to call. -/
def Frame.callsFor (settings : Nat → Settings) (i : Nat) (key : String) (f : Frame) : Nat :=
  if f.WorksFor i key then f.callsLeft (settings i) else 0

/-- **Calls, one step**: a call is one of those that are left, and a round is good for two of them
in each attempt. -/
lemma Effect.calls_le {s s' : State} {e : Event} (effect : Effect settings s s' e)
    (h : s.GoesOn settings) (i : Nat) (key : String) :
    e.calls i key + s'.sum (Frame.callsFor settings i key) ≤
      s.sum (Frame.callsFor settings i key) +
        2 * Flush.attempts (settings i) * e.rounds i key := by
  cases effect with
  | ignore request ledgers frames => simp [State.sum, frames, Event.calls]
  | join request marked ledgers frames => simp [State.sum, frames, Event.calls]
  | @launch j t obj r q request unmarked ledgers frames =>
      have nothing : (Frame.start j q).callsFor settings i key = 0 := by
        rw [Frame.callsFor]
        split <;> rfl
      rw [State.sum_cons frames, nothing]
      simp [Event.calls, State.sum]
  | @take t f batch rest calm stage taken ledgers before after =>
      rw [State.sum_cons before, State.sum_cons after]
      by_cases works : f.WorksFor i key
      · obtain ⟨rfl, rfl⟩ := works
        have one := Flush.one_le_attempts (settings f.ledger)
        have round : (f.proceed (Flush.afterTake (settings f.ledger) (some batch))).callsFor
            settings f.ledger f.flush.key =
              2 * (Flush.attempts (settings f.ledger) - 1) + 2 := by
          rw [Frame.callsFor, if_pos ⟨rfl, rfl⟩, Frame.callsLeft_of_calm (by exact calm)]
          rfl
        have here : f.WorksFor f.ledger f.flush.key := ⟨rfl, rfl⟩
        simp only [Event.calls, Event.rounds, Act.calls, Act.rounds, if_pos here, round]
        omega
      · simp [Event.calls, Event.rounds, Frame.callsFor, Frame.worksFor_proceed, works]
  | @drain t f calm stage taken ledgers frames =>
      rw [State.sum_cons frames, State.sum]
      simp only [Event.calls, Act.calls, ite_self]
      omega
  | @move t f f' act rest calm move ledgers before after =>
      rw [State.sum_cons before, State.sum_cons after]
      by_cases works : f.WorksFor i key
      · have works' := (move.worksFor_iff i key).mpr works
        obtain ⟨rfl, rfl⟩ := works
        have less := move.calls_le calm (h f (by simp [before]))
        have here : f.WorksFor f.ledger f.flush.key := ⟨rfl, rfl⟩
        simp only [Event.calls, Frame.callsFor, if_pos here, if_pos works']
        omega
      · simp [Event.calls, Frame.callsFor, move.worksFor_iff, works]
  | @unwind t f e raised ledgers frames =>
      rw [State.sum_cons frames, State.sum]
      simp only [Event.calls, Act.calls, ite_self]
      omega

/-! ### Steps -/

/-- What a flush under way has left to do, what waits for its key counted in. -/
def Frame.load (settings : Nat → Settings) (s : State) (f : Frame) : Nat :=
  f.stepsLeft (settings f.ledger) +
    3 * Flush.attempts (settings f.ledger) * s.waits f.ledger f.flush.key

/-- What all flushes under way have left to do. -/
def State.load (settings : Nat → Settings) (s : State) : Nat :=
  s.sum (Frame.load settings s)

/-- What a step adds to the load of a flush that stays as it is: a request is good for one round of
the flush that works for its key. -/
lemma Effect.load_le {s s' : State} {e : Event} (effect : Effect settings s s' e) (f : Frame) :
    f.load settings s' ≤ f.load settings s +
      3 * Flush.attempts (settings f.ledger) * e.requests f.ledger f.flush.key := by
  have waits := effect.rounds_le f.ledger f.flush.key
  have more := Nat.mul_le_mul_left (3 * Flush.attempts (settings f.ledger))
    (Nat.le_of_add_left_le waits)
  rw [Nat.mul_add] at more
  rw [Frame.load, Frame.load]
  omega

/-- A sum in which some terms grow, and by so much at most. -/
lemma sum_map_le_of_grows {weight weight' : Frame → Nat} {p : Frame → Prop} [DecidablePred p]
    {growth : Nat} (frames : Multiset Frame)
    (grows : ∀ f ∈ frames, weight' f ≤ weight f + if p f then growth else 0) :
    (frames.map weight').sum ≤ (frames.map weight).sum + growth * frames.countP p := by
  induction frames using Multiset.induction_on with
  | empty => simp
  | cons f rest ih =>
      have first := grows f (by simp)
      have others := ih fun g hg => grows g (by simp [hg])
      rw [Multiset.map_cons, Multiset.map_cons, Multiset.sum_cons, Multiset.sum_cons]
      by_cases here : p f
      · rw [if_pos here] at first
        rw [Multiset.countP_cons_of_pos rest here, Nat.mul_add, Nat.mul_one]
        omega
      · rw [if_neg here] at first
        rw [Multiset.countP_cons_of_neg rest here]
        omega

/-- What is left of the flushes that were under way before a request: it adds one round for each of
them that works for its key. -/
lemma Effect.load_of_request {s s' : State} {j t : Nat} {obj : Json} {r : Report} {q : Request}
    (effect : Effect settings s s' (.report j t obj r)) (request : r.request obj = some q) :
    (s.frames.map (Frame.load settings s')).sum ≤
      s.load settings + 3 * Flush.attempts (settings j) * s.flushes j q.key := by
  refine sum_map_le_of_grows s.frames fun f _ => ?_
  have more := effect.load_le f
  simp only [Event.requests, request] at more
  by_cases works : f.WorksFor j q.key
  · obtain ⟨rfl, same⟩ := works
    rw [if_pos ⟨rfl, same.symm⟩, Nat.mul_one] at more
    rwa [if_pos ⟨rfl, same⟩]
  · rw [if_neg fun here => works ⟨here.1.symm, here.2.symm⟩, Nat.mul_zero] at more
    rwa [if_neg works]

/-- A flush that takes a batch was about to ask for it. -/
lemma Effect.draining_of_take {s s' : State} {t : Nat} {f : Frame} {batch : Batch}
    (effect : Effect settings s s' (.flush t f (.take (some batch)))) :
    f.flush.stage = .draining := by
  cases effect with
  | take calm stage taken ledgers before after => exact stage
  | move calm move ledgers before after => cases move

/-- What is left of other flushes does not grow while one does something. -/
lemma Effect.load_of_flush {s s' : State} {t : Nat} {f : Frame} {act : Act}
    (effect : Effect settings s s' (.flush t f act)) (rest : Multiset Frame) :
    (rest.map (Frame.load settings s')).sum ≤ (rest.map (Frame.load settings s)).sum :=
  Multiset.sum_map_le_sum_map _ _ fun g _ => effect.load_le g

/-- A batch that is taken has waited, and none waits then: a round has fewer steps than it was paid
for. -/
lemma Effect.load_lt_of_take {s s' : State} {t : Nat} {f : Frame} {batch : Batch}
    (effect : Effect settings s s' (.flush t f (.take (some batch)))) (calm : f.interrupt = none) :
    (f.proceed (Flush.afterTake (settings f.ledger) (some batch))).load settings s' <
      f.load settings s := by
  have one := Flush.one_le_attempts (settings f.ledger)
  have paid := effect.rounds_le f.ledger f.flush.key
  have full := s.waits_le_one f.ledger f.flush.key
  have here : f.WorksFor f.ledger f.flush.key := ⟨rfl, rfl⟩
  simp only [Event.rounds, Event.requests, Act.rounds, if_pos here] at paid
  have waited : s.waits f.ledger f.flush.key = 1 := by omega
  have nothing : s'.waits f.ledger f.flush.key = 0 := by omega
  have before : f.load settings s = 2 + 3 * Flush.attempts (settings f.ledger) := by
    rw [Frame.load, waited, Frame.stepsLeft_of_calm calm, effect.draining_of_take,
      Flush.Stage.stepsLeft]
    omega
  have after : (f.proceed (Flush.afterTake (settings f.ledger) (some batch))).load settings s' =
      3 * (Flush.attempts (settings f.ledger) - 1) + 3 + 1 := by
    rw [Frame.load, Frame.stepsLeft_of_calm (by exact calm)]
    simp only [Frame.proceed, nothing]
    rfl
  omega

/-- **Steps, one step**: a step of a flush is one of those that are left, and a request is good for
one round and for the end of a flush. -/
lemma Effect.steps_le {s s' : State} {e : Event} (effect : Effect settings s s' e)
    (h : s.GoesOn settings) (marks : s.MarksFlushes) :
    e.steps + s'.load settings ≤ s.load settings + e.allowance settings := by
  have account := effect
  cases effect with
  | @ignore j t obj r request ledgers frames =>
      have same : Frame.load settings s' = Frame.load settings s := by
        funext f
        rw [Frame.load, Frame.load, State.waits, State.waits, ledgers]
      rw [State.load, State.load, State.sum, State.sum, frames, same]
      simp [Event.steps]
  | @join j t obj r q request marked ledgers frames =>
      have before := account.load_of_request request
      rw [marks j q.key, if_pos marked] at before
      rw [State.load, State.sum, frames]
      simp only [Event.steps, Event.allowance, request]
      omega
  | @launch j t obj r q request unmarked ledgers frames =>
      have before := account.load_of_request request
      rw [marks j q.key, if_neg unmarked] at before
      have waits := s'.waits_le_one j q.key
      have first : (Frame.start j q).load settings s' ≤ 2 + 3 * Flush.attempts (settings j) := by
        have round := Nat.mul_le_mul_left (3 * Flush.attempts (settings j)) waits
        rw [Frame.load, Frame.stepsLeft_of_calm rfl]
        simp only [Frame.start, Flush.start, Flush.Stage.stepsLeft]
        omega
      rw [State.load, State.sum_cons frames]
      simp only [Event.steps, Event.allowance, request]
      omega
  | @take t f batch rest calm stage taken ledgers before after =>
      have others := account.load_of_flush rest
      have less := account.load_lt_of_take calm
      rw [State.load, State.load, State.sum_cons before, State.sum_cons after]
      simp only [Event.steps]
      omega
  | @drain t f calm stage taken ledgers frames =>
      have others := account.load_of_flush s'.frames
      have first : 2 ≤ f.load settings s := by
        rw [Frame.load, Frame.stepsLeft_of_calm calm, stage, Flush.Stage.stepsLeft]
        omega
      rw [State.load, State.load, State.sum_cons frames, State.sum]
      simp only [Event.steps]
      omega
  | @move t f f' act rest calm move ledgers before after =>
      have others := account.load_of_flush rest
      have less := move.steps_lt calm (h f (by simp [before]))
      have moved : f'.load settings s' < f.load settings s := by
        obtain ⟨sameLedger, sameKey, -⟩ := move.origin
        rw [Frame.load, Frame.load, State.waits, State.waits, ledgers, sameLedger, sameKey]
        omega
      rw [State.load, State.load, State.sum_cons before, State.sum_cons after]
      simp only [Event.steps]
      omega
  | @unwind t f e raised ledgers frames =>
      have others := account.load_of_flush s'.frames
      have first : 1 ≤ f.load settings s := by
        have one : f.stepsLeft (settings f.ledger) = 1 := by rw [Frame.stepsLeft, raised]
        rw [Frame.load, one]
        omega
      rw [State.load, State.load, State.sum_cons frames, State.sum]
      simp only [Event.steps]
      omega

/-! ### Runs -/

/-- Every flush under way goes on, and the marks and the flushes are in step: after every run. -/
lemma Run.sound {n : Nat} {events : List Event} {s : State}
    (run : Run settings (.start n) events s) : s.GoesOn settings ∧ s.MarksFlushes := by
  refine run.induct (P := fun _ s => s.GoesOn settings ∧ s.MarksFlushes)
    ⟨by simp [State.GoesOn], State.marksFlushes_start n⟩ fun _ effect h => ?_
  exact ⟨effect.goesOn h.1, effect.marksFlushes h.2⟩

/-- **Rounds, all steps.** -/
lemma Run.rounds_le {s s' : State} {events : List Event} (run : Run settings s events s') (i : Nat)
    (key : String) :
    total (Event.rounds i key) events ≤ s.waits i key + total (Event.requests i key) events := by
  have account := (run.total_le (P := fun _ => True) trivial (fun _ _ => trivial)
    fun _ effect _ => effect.rounds_le i key).2
  omega

/-- **Calls, all steps.** -/
lemma Run.calls_le {s s' : State} {events : List Event} (run : Run settings s events s')
    (h : s.GoesOn settings) (i : Nat) (key : String) :
    total (Event.calls i key) events ≤ s.sum (Frame.callsFor settings i key) +
      2 * Flush.attempts (settings i) * total (Event.rounds i key) events := by
  have account := (run.total_le h (fun effect h => effect.goesOn h)
    fun _ effect h => effect.calls_le h i key).2
  have paid : total (fun e => 2 * Flush.attempts (settings i) * e.rounds i key) events =
      2 * Flush.attempts (settings i) * total (Event.rounds i key) events :=
    List.sum_map_mul_left _ _ _
  omega

/-- **Steps, all steps.** -/
lemma Run.steps_le {s s' : State} {events : List Event} (run : Run settings s events s')
    (goesOn : s.GoesOn settings) (marks : s.MarksFlushes) :
    total Event.steps events ≤ s.load settings + total (Event.allowance settings) events := by
  have account := (run.total_le (P := fun s => s.GoesOn settings ∧ s.MarksFlushes) ⟨goesOn, marks⟩
    (fun effect h => ⟨effect.goesOn h.1, effect.marksFlushes h.2⟩)
    fun _ effect h => effect.steps_le h.1 h.2).2
  omega

/-- A flush that is about to ask for a batch has no calls left, and no other one works for its
key. -/
lemma State.MarksFlushes.sum_callsFor {s : State} (h : s.MarksFlushes) {f : Frame}
    (here : f ∈ s.frames) (idle : f.flush.stage = .draining) :
    s.sum (Frame.callsFor settings f.ledger f.flush.key) = 0 := by
  refine Multiset.sum_eq_zero fun calls mem => ?_
  obtain ⟨g, there, rfl⟩ := Multiset.mem_map.mp mem
  rw [Frame.callsFor]
  split
  · rename_i works
    obtain rfl := h.unique there here works ⟨rfl, rfl⟩
    rw [Frame.callsLeft, idle]
    cases f.interrupt <;> rfl
  · rfl

/-- **One round**: from a batch that is taken to the next one, the flushes for its key call the
server at most twice in each attempt. -/
lemma Run.calls_of_round {s s₁ s' : State} {round : List Event} {t : Nat} {f : Frame}
    {batch : Batch} (run : Run settings s₁ round s')
    (first : Step settings s (.flush t f (.take (some batch))) s₁) (goesOn : s.GoesOn settings)
    (marks : s.MarksFlushes) (last : total (Event.rounds f.ledger f.flush.key) round = 0) :
    total (Event.calls f.ledger f.flush.key) round ≤
      2 * Flush.attempts (settings f.ledger) := by
  have account := ((Run.nil.snoc first).append run).calls_le goesOn f.ledger f.flush.key
  have nothing : s.sum (Frame.callsFor settings f.ledger f.flush.key) = 0 :=
    marks.sum_callsFor first.effect.mem_frames first.effect.draining_of_take
  have here : f.WorksFor f.ledger f.flush.key := ⟨rfl, rfl⟩
  simp only [List.nil_append, total_append, total_singleton, nothing, last, Event.calls,
    Event.rounds, Act.calls, Act.rounds, if_pos here] at account
  omega

/-- A run without events stays where it is. -/
lemma Run.eq_of_nil {s s' : State} (run : Run settings s [] s') : s' = s := by
  generalize h : ([] : List Event) = events at run
  cases run with
  | nil => rfl
  | snoc run step => simp at h

/-- The first event of a run is a step from where it starts. -/
lemma Run.uncons {s s'' : State} {e : Event} {after : List Event}
    (run : Run settings s (e :: after) s'') :
    ∃ s', Step settings s e s' ∧ Run settings s' after s'' := by
  have run : Run settings s ([e] ++ after) s'' := run
  obtain ⟨s', first, rest⟩ := run.split
  generalize h : [e] = events at first
  cases first with
  | nil => simp at h
  | @snoc early s₁ _ e' run step =>
      have h : [] ++ [e] = early ++ [e'] := h
      obtain ⟨rfl, rfl⟩ := by simpa using List.append_inj' h rfl
      exact ⟨s', run.eq_of_nil ▸ step, rest⟩

/-- A request for a key that a flush works for changes no thread. -/
lemma Step.threads_of_request {s s' : State} {i t : Nat} {obj : Json} {r : Report} {q : Request}
    (step : Step settings s (.report i t obj r) s') (request : r.request obj = some q)
    (marked : q.key ∈ (s.ledgers i).active) : s'.threads = s.threads := by
  cases step with
  | ignore free nothing => rfl
  | submit free request' =>
      obtain rfl := Option.some.inj (request.symm.trans request')
      rw [State.submit_of_mem marked, State.threads_setLedger]

/-- **A flush is never stuck**, also one that is being interrupted. -/
lemma State.GoesOn.exists_step {s : State} (h : s.GoesOn settings) {t : Nat} {f : Frame}
    {below : List Frame} (top : s.threads[t]? = some (f :: below))
    (read : Except Failure (Option Json)) (write : Except Failure Unit) :
    ∃ act s', Step settings s (.flush t f act) s' ∧ act.IsAnswered read write := by
  cases raised : f.interrupt with
  | some e => exact ⟨_, _, .unwind top raised, trivial⟩
  | none => exact State.exists_step top raised (h f (by simp [State.frames_pop top])) read write

/-! ### Traffic that goes on forever -/

/-- Traffic that goes on forever; at times nothing happens. -/
structure Execution (settings : Nat → Settings) where
  state : Nat → State
  event : Nat → Option Event
  next : ∀ k, match event k with
    | some e => Step settings (state k) e (state (k + 1))
    | none => state (k + 1) = state k

namespace Execution

variable (x : Execution settings)

/-- As long as a flush is under way, some flush does something sooner or later. -/
def NeverStalls : Prop :=
  ∀ k, (x.state k).frames ≠ 0 → ∃ m ≥ k, ∃ t f act, x.event m = some (.flush t f act)

/-- At some time the last request has been made. -/
def EndsRequests : Prop :=
  ∃ m, ∀ k ≥ m, ∀ e, x.event k = some e → ∀ i key, e.requests i key = 0

variable {x}

/-- An account of what is kept holds at all times. -/
lemma holds {P : State → Prop} (first : P (x.state 0))
    (keep : ∀ {s s' e}, Effect settings s s' e → P s → P s') (k : Nat) : P (x.state k) := by
  induction k with
  | zero => exact first
  | succ k ih =>
      have next := x.next k
      split at next
      · exact keep next.effect ih
      · exact next ▸ ih

/-- While nothing is asked for, the load does not grow, and each step of a flush lowers it. -/
lemma load_succ (sound : ∀ k, (x.state k).GoesOn settings ∧ (x.state k).MarksFlushes) {k : Nat}
    (silent : ∀ e, x.event k = some e → ∀ i key, e.requests i key = 0) :
    (x.state (k + 1)).load settings ≤ (x.state k).load settings ∧
      ∀ t f act, x.event k = some (.flush t f act) →
        (x.state (k + 1)).load settings < (x.state k).load settings := by
  have next := x.next k
  split at next
  · rename_i e happens
    have account := next.effect.steps_le (sound k).1 (sound k).2
    rw [Event.allowance_eq_zero (silent e happens)] at account
    refine ⟨by omega, fun t f act flush => ?_⟩
    obtain rfl := Option.some.inj (happens.symm.trans flush)
    rw [Event.steps] at account
    omega
  · rename_i idle
    rw [next]
    exact ⟨le_refl _, fun t f act flush => by simp [idle] at flush⟩

/-- **Traffic with finitely many requests comes to an end**: at some time the last flush has done
its last step. -/
lemma exists_last (sound : ∀ k, (x.state k).GoesOn settings ∧ (x.state k).MarksFlushes)
    (requests : x.EndsRequests) :
    ∃ m, ∀ k ≥ m, ∀ t f act, x.event k ≠ some (.flush t f act) := by
  obtain ⟨m, silent⟩ := requests
  have shrinks {j k : Nat} (late : m ≤ j) (later : j ≤ k) :
      (x.state k).load settings ≤ (x.state j).load settings := by
    induction k, later using Nat.le_induction with
    | base => exact le_refl _
    | succ k later ih => exact (load_succ sound (silent k (late.trans later))).1.trans ih
  -- either no flush does anything any more, or the load gets smaller
  have last (load k : Nat) (late : m ≤ k) (few : (x.state k).load settings ≤ load) :
      ∃ m, ∀ k ≥ m, ∀ t f act, x.event k ≠ some (.flush t f act) := by
    induction load generalizing k with
    | zero =>
        refine ⟨k, fun j later t f act flush => ?_⟩
        have less := (load_succ sound (silent j (late.trans later))).2 t f act flush
        have before := shrinks late later
        omega
    | succ load ih =>
        by_cases quiet : ∀ j ≥ k, ∀ t f act, x.event j ≠ some (.flush t f act)
        · exact ⟨k, quiet⟩
        · push Not at quiet
          obtain ⟨j, later, t, f, act, flush⟩ := quiet
          have less := (load_succ sound (silent j (late.trans later))).2 t f act flush
          have before := shrinks late later
          exact ih (j + 1) (by omega) (by omega)
  exact last _ m (le_refl m) (le_refl _)

/-- If it never stalls, it comes to rest: at some time all flushes have ended, and none starts
again. -/
lemma exists_rest (sound : ∀ k, (x.state k).GoesOn settings ∧ (x.state k).MarksFlushes)
    (lively : x.NeverStalls) (requests : x.EndsRequests) :
    ∃ m, ∀ k ≥ m, (x.state k).frames = 0 := by
  obtain ⟨m, last⟩ := exists_last sound requests
  refine ⟨m, fun k late => ?_⟩
  by_contra busy
  obtain ⟨j, later, t, f, act, flush⟩ := lively k busy
  exact last j (late.trans later) t f act flush

end Execution

/-- After a run nothing more need happen. -/
lemma Run.exists_execution {s s' : State} {events : List Event} (run : Run settings s events s') :
    ∃ x : Execution settings, x.state 0 = s ∧ (∀ k, x.event k = events[k]?) ∧
      ∀ k ≥ events.length, x.state k = s' := by
  induction run with
  | nil => exact ⟨⟨fun _ => s, fun _ => none, fun _ => rfl⟩, rfl, fun k => by simp, fun _ _ => rfl⟩
  | @snoc events s' s'' e run step ih =>
      obtain ⟨x, first, same, last⟩ := ih
      refine ⟨⟨fun k => if k ≤ events.length then x.state k else s'',
        fun k => (events ++ [e])[k]?, fun k => ?_⟩, by simp [first], fun k => rfl, fun k late => ?_⟩
      · rcases Nat.lt_trichotomy k events.length with early | rfl | late
        · have next := x.next k
          rw [same] at next
          rw [List.getElem?_append_left early]
          simpa [early.le, Nat.succ_le_of_lt early] using next
        · simpa [last] using step
        · have past : (events ++ [e])[k]? = none := List.getElem?_eq_none (by simp; omega)
          rw [past, if_neg (by omega), if_neg (by omega)]
      · have later : ¬ k ≤ events.length := by
          rw [List.length_append, List.length_singleton] at late
          omega
        exact if_neg later

/-! ### Bounds -/

/-- **A flush ends within its requests.**  Let a flush be under way, in any traffic, that is about
to ask for a batch, as it is when it has been started; and let the traffic go on in any way: the
calls of the server may end in anything, interrupts included, and reports may be made by any thread,
also during these calls.  Then the flush has no more rounds than one, and one for each request for
its key that is made from then on; in each round it calls the server at most twice as often as a
batch is worth attempts; such a request, made while a flush for the key is under way, changes no
thread, so that it calls nobody; a flush that is under way on top of its thread does its next step
with whatever its call is answered; all flushes together take no more steps than all requests are
good for; and traffic that never stalls comes to rest after the last request. -/
theorem flush_ends_within_requests {n : Nat} {before : List Event} {s : State} {f : Frame}
    (run : Run settings (.start n) before s) (here : f ∈ s.frames)
    (idle : f.flush.stage = .draining) :
    (∀ {during : List Event} {s' : State}, Run settings s during s' →
      total (Event.rounds f.ledger f.flush.key) during ≤
        1 + total (Event.requests f.ledger f.flush.key) during ∧
      total (Event.calls f.ledger f.flush.key) during ≤ 2 * Flush.attempts (settings f.ledger) *
        total (Event.rounds f.ledger f.flush.key) during ∧
      (∀ {early round : List Event} {t : Nat} {g : Frame} {batch : Batch},
        during = early ++ .flush t g (.take (some batch)) :: round →
        total (Event.rounds g.ledger g.flush.key) round = 0 →
        total (Event.calls g.ledger g.flush.key) round ≤
          2 * Flush.attempts (settings g.ledger)) ∧
      (∀ {i t : Nat} {g : Frame} {obj : Json} {r : Report} {q : Request} {s'' : State},
        g ∈ s'.frames → g.WorksFor i q.key → r.request obj = some q →
        Step settings s' (.report i t obj r) s'' → s''.threads = s'.threads) ∧
      (∀ {t : Nat} {g : Frame} {below : List Frame}, s'.threads[t]? = some (g :: below) →
        ∀ read write, ∃ act s'', Step settings s' (.flush t g act) s'' ∧
          act.IsAnswered read write) ∧
      total Event.steps (before ++ during) ≤ total (Event.allowance settings) (before ++ during)) ∧
    ∀ x : Execution settings, x.state 0 = s → x.NeverStalls → x.EndsRequests →
      ∃ m, ∀ k ≥ m, (x.state k).frames = 0 := by
  obtain ⟨goesOn, marks⟩ := run.sound
  refine ⟨fun {during s'} more => ?_, fun x start lively requests => ?_⟩
  · obtain ⟨goesOn', marks'⟩ := (run.append more).sound
    refine ⟨?_, ?_, ?_, ?_, fun top => goesOn'.exists_step top, ?_⟩
    · have rounds := more.rounds_le f.ledger f.flush.key
      have one := s.waits_le_one f.ledger f.flush.key
      omega
    · have calls := more.calls_le goesOn f.ledger f.flush.key
      rwa [marks.sum_callsFor here idle, Nat.zero_add] at calls
    · rintro early round t g batch rfl last
      obtain ⟨s₁, first, rest⟩ := more.split
      obtain ⟨s₂, taken, round⟩ := rest.uncons
      obtain ⟨goesOn₁, marks₁⟩ := (run.append first).sound
      exact round.calls_of_round taken goesOn₁ marks₁ last
    · intro i t g obj r q s'' mem works request step
      refine step.threads_of_request request ?_
      by_contra unmarked
      have none := marks' i q.key
      rw [if_neg unmarked] at none
      exact Multiset.countP_eq_zero.mp none g mem works
    · have start : Run settings (.start n) [] (.start n) := .nil
      obtain ⟨goesOn₀, marks₀⟩ := start.sound
      have steps := (run.append more).steps_le goesOn₀ marks₀
      have nothing : (State.start n).load settings = 0 := by simp [State.load, State.sum]
      omega
  · refine Execution.exists_rest (fun k => ?_) lively requests
    refine x.holds (P := fun s => s.GoesOn settings ∧ s.MarksFlushes) ?_ ?_ k
    · exact start ▸ ⟨goesOn, marks⟩
    · exact fun effect h => ⟨effect.goesOn h.1, effect.marksFlushes h.2⟩

/-- While a widget is read for its first phase, its second phase is reported in the same thread: the
flush has two rounds and ends, and if nothing happens after that, this is traffic that comes to
rest. -/
theorem flush_ends_within_requests_reported_twice :
    ∃ before s f during s', Run (fun _ => {}) (.start 1) before s ∧ f ∈ s.frames ∧
      f.flush.stage = .draining ∧ Run (fun _ => {}) s during s' ∧
      total (Event.rounds f.ledger f.flush.key) during = 2 ∧
      total (Event.requests f.ledger f.flush.key) during = 1 ∧
      total (Event.calls f.ledger f.flush.key) during ≤ 2 * 4 * 2 ∧
      total Event.steps (before ++ during) ≤ (3 * 4 + 2) + (3 * 4 + 2) ∧
      ∃ x : Execution fun _ => {}, x.state 0 = s ∧ x.NeverStalls ∧ x.EndsRequests ∧
        ∃ m, ∀ k ≥ m, (x.state k).frames = 0 := by
  have run : Run (fun _ => {}) (.start 1) [] (.start 1) := .nil
  have run := run.snoc (e := .report 0 0 (widget "apps/v1" "web") (.phase "initializing"))
    (.submit ⟨_, rfl, by simp⟩ rfl)
  have more : Run (fun _ => {}) _ [] _ :=
    .nil (s := State.submit {} (.start 1) 0 0 (.of (widget "apps/v1" "web") .phase "initializing"))
  have more := more.snoc (.take (t := 0) rfl rfl rfl rfl)
  have more := more.snoc (e := .report 0 0 (widget "apps/v1" "web") (.phase "initialized"))
    (.submit ⟨_, rfl, by decide⟩ rfl)
  have more := more.snoc (.move (t := 0) rfl rfl (.read (.ok none) rfl))
  have more := more.snoc (.take (t := 0) rfl rfl rfl rfl)
  have more := more.snoc (.move (t := 0) rfl rfl (.read (.ok none) rfl))
  have more := more.snoc (.drain (t := 0) rfl rfl rfl rfl)
  have here : Frame.start 0 (.of (widget "apps/v1" "web") .phase "initializing") ∈
      (State.submit {} (.start 1) 0 0
        (.of (widget "apps/v1" "web") .phase "initializing")).frames := List.mem_singleton_self _
  obtain ⟨bounds, rests⟩ := flush_ends_within_requests run here rfl
  obtain ⟨-, calls, -, -, -, steps⟩ := bounds more
  obtain ⟨x, first, same, last⟩ := more.exists_execution
  have lively : x.NeverStalls := by
    intro k busy
    by_cases early : k ≤ 5
    · exact ⟨5, early, 0, _, _, same 5⟩
    · exact absurd (congrArg State.frames (last k (Nat.lt_of_not_le early))) busy
  have requests : x.EndsRequests := by
    refine ⟨6, fun k late e happens => ?_⟩
    rw [same, List.getElem?_eq_none late] at happens
    simp at happens
  exact ⟨_, _, _, _, _, run, here, rfl, more, rfl, rfl, calls, steps, x, first, lively, requests,
    rests x first lively requests⟩

end Traffic

end Driftwatch
