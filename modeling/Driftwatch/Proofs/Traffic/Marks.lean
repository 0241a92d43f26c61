/-
The marks of the tables: a key is marked as long as a flush works for it.

* `Frame.WorksFor`, `State.flushes`: the flushes under way that work for a key of a ledger.
* `State.MarksFlushes`: their number is one if the key is marked and zero if it is not; every
  effect preserves this (`Effect.marksFlushes`), and so does every run (`Run.marksFlushes`).
* `marked_iff_flushes_eq_one`: a key is marked exactly as long as one flush works for it, there
  are never two, and a flush that has ended leaves its key without a mark.
-/
import Driftwatch.Proofs.Traffic.Effect
import Mathlib.Data.Multiset.Filter

namespace Driftwatch.Traffic

variable {settings : Nat → Settings}

/-! ### The flushes that work for a key -/

/-- A flush works for a key of a ledger. -/
def Frame.WorksFor (i : Nat) (key : String) (f : Frame) : Prop :=
  f.ledger = i ∧ f.flush.key = key

instance (i : Nat) (key : String) : DecidablePred (Frame.WorksFor i key) := fun f =>
  inferInstanceAs (Decidable (f.ledger = i ∧ f.flush.key = key))

/-- A flush is busy with a batch: it reads, writes, or waits before it tries again. -/
def Frame.isBusy (f : Frame) : Bool :=
  match f.flush.stage with
  | .reading _ | .writing _ _ | .pausing _ => true
  | .draining | .ended => false

/-- The number of flushes under way that work for a key of a ledger. -/
def State.flushes (s : State) (i : Nat) (key : String) : Nat :=
  s.frames.countP (Frame.WorksFor i key)

namespace Frame

lemma worksFor_proceed (f : Frame) (stage : Flush.Stage) (i : Nat) (key : String) :
    (f.proceed stage).WorksFor i key ↔ f.WorksFor i key := Iff.rfl

/-- A failure leaves a flush what it works for. -/
lemma afterFailure_origin (settings : Settings) (f : Frame) (a : Attempt) (e : Failure) :
    (f.afterFailure settings a e).ledger = f.ledger ∧
      (f.afterFailure settings a e).flush.key = f.flush.key ∧
      (f.afterFailure settings a e).flush.target = f.flush.target := by
  rw [afterFailure]
  split <;> exact ⟨rfl, rfl, rfl⟩

/-- A flush that goes on keeps what it works for. -/
lemma Move.origin {settings : Settings} {f f' : Frame} {act : Act}
    (move : f.Move settings act f') :
    f'.ledger = f.ledger ∧ f'.flush.key = f.flush.key ∧ f'.flush.target = f.flush.target := by
  cases move with
  | read answer stage =>
      cases answer with
      | ok found => exact ⟨rfl, rfl, rfl⟩
      | error e => exact afterFailure_origin settings f _ e
  | write answer stage =>
      cases answer with
      | ok _ => exact ⟨rfl, rfl, rfl⟩
      | error e => exact afterFailure_origin settings f _ e
  | pause stage => exact ⟨rfl, rfl, rfl⟩

lemma Move.worksFor_iff {settings : Settings} {f f' : Frame} {act : Act}
    (move : f.Move settings act f') (i : Nat) (key : String) :
    f'.WorksFor i key ↔ f.WorksFor i key := by
  obtain ⟨ledger, same, -⟩ := move.origin
  rw [WorksFor, WorksFor, ledger, same]

end Frame

/-! ### Marks and flushes -/

namespace State

lemma flushes_eq_of_frames_eq {s s' : State} (h : s'.frames = s.frames) (i : Nat)
    (key : String) : s'.flushes i key = s.flushes i key := by
  rw [flushes, flushes, h]

lemma flushes_cons {s : State} {f : Frame} {rest : Multiset Frame} (h : s.frames = f ::ₘ rest)
    (i : Nat) (key : String) :
    s.flushes i key = rest.countP (Frame.WorksFor i key) + if f.WorksFor i key then 1 else 0 := by
  rw [flushes, h, Multiset.countP_cons]

/-- Every key is marked as often as a flush works for it: once or not at all. -/
def MarksFlushes (s : State) : Prop :=
  ∀ i key, s.flushes i key = if key ∈ (s.ledgers i).active then 1 else 0

lemma marksFlushes_start (n : Nat) : (start n).MarksFlushes := by
  intro i key
  simp [flushes, start, frames, Ledger.empty]

/-- The marks and the flushes change together: a flush ends as its key loses its mark. -/
lemma MarksFlushes.of_end {s s' : State} (h : s.MarksFlushes) {f : Frame} {ledger : Ledger}
    (frames : s.frames = f ::ₘ s'.frames)
    (ledgers : s'.ledgers = Function.update s.ledgers f.ledger ledger)
    (active : ∀ key, key ∈ ledger.active ↔
      key ≠ f.flush.key ∧ key ∈ (s.ledgers f.ledger).active) : s'.MarksFlushes := by
  intro i key
  have count := h i key
  rw [flushes_cons frames, ← flushes] at count
  rw [ledgers]
  by_cases works : f.WorksFor i key
  · obtain ⟨rfl, rfl⟩ := works
    have marked : f.flush.key ∈ (s.ledgers f.ledger).active := by
      by_contra unmarked
      simp [Frame.WorksFor, unmarked] at count
    simpa [Frame.WorksFor, marked, active] using count
  · rw [if_neg works, Nat.add_zero] at count
    rw [count]
    by_cases hi : i = f.ledger
    · subst hi
      have other : key ≠ f.flush.key := fun same => works ⟨rfl, same.symm⟩
      simp [active, other]
    · simp [hi]

end State

/-- **Marks and flushes, one step**: every effect keeps the marks and the flushes in step. -/
lemma Effect.marksFlushes {s s' : State} {e : Event} (effect : Effect settings s s' e)
    (h : s.MarksFlushes) : s'.MarksFlushes := by
  cases effect with
  | ignore request ledgers frames =>
      intro i key
      rw [State.flushes_eq_of_frames_eq frames, ledgers]
      exact h i key
  | @join j t obj r q request marked ledgers frames =>
      intro i key
      rw [State.flushes_eq_of_frames_eq frames, ledgers, h i key]
      by_cases hi : i = j
      · subst hi
        have : key ∈ ((s.ledgers i).submit q.key q.slot q.value).2.active ↔
            key ∈ (s.ledgers i).active := by
          rw [Ledger.mem_active_submit]
          exact ⟨fun hm => hm.elim (fun he => he ▸ marked) id, Or.inr⟩
        simp [this]
      · simp [hi]
  | @launch j t obj r q request unmarked ledgers frames =>
      intro i key
      rw [State.flushes_cons frames, ← State.flushes, h i key, ledgers]
      by_cases hi : i = j
      · subst hi
        by_cases hk : key = q.key
        · subst hk
          simp [Frame.WorksFor, Frame.start, Flush.start, unmarked, Ledger.mem_active_submit]
        · simp [Frame.WorksFor, Frame.start, Flush.start, Ne.symm hk, hk,
            Ledger.mem_active_submit]
      · simp [Frame.WorksFor, Frame.start, Ne.symm hi, hi]
  | @take t f batch rest calm stage taken ledgers before after =>
      intro i key
      have count := h i key
      rw [State.flushes_cons before] at count
      rw [State.flushes_cons after, ledgers]
      by_cases hi : i = f.ledger
      · subst hi
        simpa [Frame.worksFor_proceed, Ledger.active_take_of_some taken] using count
      · simpa [Frame.worksFor_proceed, hi] using count
  | drain calm stage taken ledgers frames =>
      exact h.of_end frames ledgers (Ledger.mem_active_take_of_none taken)
  | move calm move ledgers before after =>
      intro i key
      have count := h i key
      rw [State.flushes_cons before] at count
      rw [State.flushes_cons after, ledgers]
      simpa only [move.worksFor_iff] using count
  | unwind raised ledgers frames =>
      exact h.of_end frames ledgers (Ledger.mem_active_abandon _ _)

/-- **Marks and flushes**: they are in step after every run. -/
lemma Run.marksFlushes {n : Nat} {events : List Event} {s : State}
    (run : Run settings (.start n) events s) : s.MarksFlushes :=
  run.induct (P := fun _ s => s.MarksFlushes) (State.marksFlushes_start n)
    fun _ effect h => effect.marksFlushes h

/-- A step that ends a flush. -/
def Act.Ends : Act → Prop
  | .take none | .unwind => True
  | _ => False

/-- A flush that ends takes the mark of its key with it. -/
lemma Effect.flushes_eq_zero_of_ends {s s' : State} {t : Nat} {f : Frame} {act : Act}
    (effect : Effect settings s s' (.flush t f act)) (ends : act.Ends) (h : s.MarksFlushes) :
    s'.flushes f.ledger f.flush.key = 0 := by
  have one : s.flushes f.ledger f.flush.key ≤ 1 := by
    rw [h]
    split <;> omega
  have left (frames : s.frames = f ::ₘ s'.frames) : s'.flushes f.ledger f.flush.key = 0 := by
    rw [State.flushes_cons frames, ← State.flushes, if_pos ⟨rfl, rfl⟩] at one
    omega
  cases effect with
  | take calm stage taken ledgers before after => exact ends.elim
  | drain calm stage taken ledgers frames => exact left frames
  | move calm move ledgers before after => cases move <;> exact ends.elim
  | unwind raised ledgers frames => exact left frames

/-- **One flush for each key**: whatever the threads do and however the calls end, a key of a
ledger is marked exactly if one flush works for it; there are never two, so that at most one
reads and writes; and a flush that ends, with its last batch or in an interrupt, leaves its key
without a mark. -/
theorem marked_iff_flushes_eq_one {n : Nat} {events : List Event} {s : State}
    (run : Run settings (.start n) events s) :
    (∀ i key, (key ∈ (s.ledgers i).active ↔ s.flushes i key = 1) ∧ s.flushes i key ≤ 1 ∧
      s.frames.countP (fun f => f.WorksFor i key ∧ f.isBusy = true) ≤ 1) ∧
    ∀ {t : Nat} {f : Frame} {act : Act} {s' : State}, Step settings s (.flush t f act) s' →
      act.Ends → f.flush.key ∉ (s'.ledgers f.ledger).active := by
  refine ⟨fun i key => ?_, fun {t f act s'} step ends => ?_⟩
  · have count := run.marksFlushes i key
    have one : s.flushes i key ≤ 1 := by
      rw [count]
      split <;> omega
    refine ⟨?_, one, ?_⟩
    · rw [count]
      split <;> simp_all
    · refine le_trans ?_ one
      rw [State.flushes, Multiset.countP_eq_card_filter, Multiset.countP_eq_card_filter]
      exact Multiset.card_le_card (Multiset.monotone_filter_right _ fun _ busy => busy.1)
  · have count := (run.snoc step).marksFlushes f.ledger f.flush.key
    rw [step.effect.flushes_eq_zero_of_ends ends run.marksFlushes] at count
    intro marked
    simp [marked] at count

/-- A widget, an object of the given API version. -/
def widget (apiVersion name : String) : Json :=
  .object [("apiVersion", .text apiVersion), ("kind", .text "Widget"),
    ("metadata", .object [("name", .text name), ("namespace", .text "default")])]

/-- A flush is interrupted that was started within a call of another one: until it has ended both
keys are marked, and then only the key of the outer one is. -/
theorem marked_iff_flushes_eq_one_nested :
    ∃ events s, Run (fun _ => {}) (.start 1) events s ∧
      "Widget/default/web" ∈ (s.ledgers 0).active ∧
      s.flushes 0 "Widget/default/api" ≤ 1 ∧
      ∃ t f s', Step (fun _ => {}) s (.flush t f .unwind) s' ∧ f.flush.key = "Widget/default/api" ∧
        f.flush.key ∉ (s'.ledgers f.ledger).active := by
  have run : Run (fun _ => {}) (.start 1) [] (.start 1) := .nil
  have run := run.snoc (e := .report 0 0 (widget "apps/v1" "web") (.phase "initializing"))
    (.submit ⟨_, rfl, by simp⟩ rfl)
  have run := run.snoc (.take (t := 0) rfl rfl rfl rfl)
  -- while the object is read, another one is reported on in the same thread
  have run := run.snoc (e := .report 0 0 (widget "apps/v1" "api") (.phase "initializing"))
    (.submit ⟨_, rfl, by decide⟩ rfl)
  have run := run.snoc (.take (t := 0) rfl rfl rfl rfl)
  have run := run.snoc (.move (t := 0) rfl rfl (.read (.error (.fault (.interrupt ""))) rfl))
  obtain ⟨marks, ended⟩ := marked_iff_flushes_eq_one run
  refine ⟨_, _, run, (marks 0 _).1.mpr rfl, (marks 0 _).2.1, 0, _, _, .unwind rfl rfl, rfl, ?_⟩
  exact ended (.unwind (t := 0) rfl rfl) trivial

end Driftwatch.Traffic
