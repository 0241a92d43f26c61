/-
What a step does, whatever thread it is in.

* `State.frames`: the flushes under way in all threads, in no order.
* `Effect`: what a step changes in the tables and in the flushes under way.
* `Step.effect`: every step has one of these effects; what is preserved by the effects is
  preserved by every run (`Run.induct`).
* `Effect.forall_frames`: what holds of every flush under way, one step.
-/
import Driftwatch.Proofs.Traffic.Basic
import Mathlib.Data.Multiset.AddSub

namespace Driftwatch.Traffic

/-- The flushes under way in all threads. -/
def State.frames (s : State) : Multiset Frame :=
  (s.threads.flatten : List Frame)

/-! ### Flushes under way after a change of one thread -/

/-- Another stack in the place of one moves the flushes of the first out and those of the second
in. -/
lemma flatten_set_perm {threads : List (List Frame)} {t : Nat} {stack : List Frame}
    (h : threads[t]? = some stack) (stack' : List Frame) :
    (stack ++ (threads.set t stack').flatten).Perm (stack' ++ threads.flatten) := by
  induction threads generalizing t with
  | nil => simp at h
  | cons first rest ih =>
      cases t with
      | zero =>
          obtain rfl : first = stack := by simpa using h
          simp only [List.set_cons_zero, List.flatten_cons]
          exact List.perm_append_comm_assoc _ _ _
      | succ t =>
          simp only [List.set_cons_succ, List.flatten_cons]
          calc (stack ++ (first ++ (rest.set t stack').flatten)).Perm
                (first ++ (stack ++ (rest.set t stack').flatten)) :=
              List.perm_append_comm_assoc _ _ _
            _ |>.Perm (first ++ (stack' ++ rest.flatten)) :=
              (ih (by simpa using h)).append_left first
            _ |>.Perm (stack' ++ (first ++ rest.flatten)) :=
              List.perm_append_comm_assoc _ _ _

namespace State

@[simp] lemma ledgers_setLedger (s : State) (i : Nat) (ledger : Ledger) :
    (s.setLedger i ledger).ledgers = Function.update s.ledgers i ledger := rfl

lemma ledgers_setLedger_self (s : State) (i : Nat) (ledger : Ledger) :
    (s.setLedger i ledger).ledgers i = ledger := by
  rw [ledgers_setLedger, Function.update_self]

@[simp] lemma threads_setLedger (s : State) (i : Nat) (ledger : Ledger) :
    (s.setLedger i ledger).threads = s.threads := rfl

@[simp] lemma frames_start (n : Nat) : (start n).frames = 0 := by
  simp [frames, start]

/-- The flushes of a thread are replaced. -/
lemma frames_setThread {s : State} {t : Nat} {stack : List Frame}
    (h : s.threads[t]? = some stack) (stack' : List Frame) :
    (stack : Multiset Frame) + (s.setThread t stack').frames =
      (stack' : Multiset Frame) + s.frames :=
  Quot.sound (flatten_set_perm h stack')

/-- A flush is added to a thread. -/
lemma frames_push {s : State} {t : Nat} {stack : List Frame} (h : s.threads[t]? = some stack)
    (f : Frame) : (s.setThread t (f :: stack)).frames = f ::ₘ s.frames := by
  have := frames_setThread h (f :: stack)
  rw [← Multiset.cons_coe, Multiset.cons_add, ← Multiset.add_cons] at this
  exact Multiset.add_right_inj.mp this

/-- The innermost flush leaves a thread. -/
lemma frames_pop {s : State} {t : Nat} {f : Frame} {below : List Frame}
    (h : s.threads[t]? = some (f :: below)) : s.frames = f ::ₘ (s.setThread t below).frames := by
  have := frames_setThread h below
  rw [← Multiset.cons_coe, Multiset.cons_add, ← Multiset.add_cons] at this
  exact (Multiset.add_right_inj.mp this).symm

/-- The innermost flush of a thread goes on. -/
lemma frames_replace {s : State} {t : Nat} {f : Frame} {below : List Frame}
    (h : s.threads[t]? = some (f :: below)) (f' : Frame) :
    ∃ rest, s.frames = f ::ₘ rest ∧ (s.setThread t (f' :: below)).frames = f' ::ₘ rest := by
  refine ⟨(s.setThread t below).frames, frames_pop h, ?_⟩
  have := frames_setThread h (f' :: below)
  rw [frames_pop h, ← Multiset.cons_coe, ← Multiset.cons_coe, Multiset.cons_add,
    Multiset.cons_add, Multiset.add_cons, Multiset.cons_swap, Multiset.cons_inj_right,
    ← Multiset.add_cons] at this
  exact Multiset.add_right_inj.mp this

/-- A flush is launched. -/
lemma frames_launch {s : State} {t : Nat} (h : s.CanReport t) (settings : Settings) (f : Frame) :
    (s.launch settings t f).frames = f ::ₘ s.frames := by
  obtain ⟨stack, h, -⟩ := h
  rw [launch]
  split
  · rw [h]
    exact frames_push h f
  · show ((s.threads ++ [[f]]).flatten : Multiset Frame) = f ::ₘ s.frames
    rw [List.flatten_append, ← Multiset.coe_add, Multiset.add_comm]
    rfl

/-- A request for a marked key joins the flush that is under way. -/
lemma submit_of_mem {s : State} {i : Nat} {q : Request} (h : q.key ∈ (s.ledgers i).active)
    (settings : Settings) (t : Nat) : s.submit settings i t q =
      s.setLedger i ((s.ledgers i).submit q.key q.slot q.value).2 := by
  have joins : ((s.ledgers i).submit q.key q.slot q.value).1 = false := by
    have starts := (s.ledgers i).submit_starts_iff q.key q.slot q.value
    simpa [h] using starts
  simp [submit, joins]

/-- A request for any other key starts a flush. -/
lemma submit_of_not_mem {s : State} {i : Nat} {q : Request} (h : q.key ∉ (s.ledgers i).active)
    (settings : Settings) (t : Nat) : s.submit settings i t q =
      (s.setLedger i ((s.ledgers i).submit q.key q.slot q.value).2).launch settings t
        (.start i q) := by
  have starts : ((s.ledgers i).submit q.key q.slot q.value).1 = true :=
    ((s.ledgers i).submit_starts_iff q.key q.slot q.value).mpr h
  simp [submit, starts]

lemma ledgers_launch (s : State) (settings : Settings) (t : Nat) (f : Frame) :
    (s.launch settings t f).ledgers = s.ledgers := by
  rw [launch]
  split <;> rfl

end State

/-! ### Effects -/

/-- What a step changes in the tables and in the flushes under way. -/
inductive Effect (settings : Nat → Settings) (s s' : State) : Event → Prop
  /-- Nothing changes. -/
  | ignore {i t : Nat} {obj : Json} {r : Report} (request : r.request obj = none)
      (ledgers : s'.ledgers = s.ledgers) (frames : s'.frames = s.frames) :
      Effect settings s s' (.report i t obj r)
  /-- The table changes; a flush is under way already. -/
  | join {i t : Nat} {obj : Json} {r : Report} {q : Request}
      (request : r.request obj = some q) (marked : q.key ∈ (s.ledgers i).active)
      (ledgers : s'.ledgers =
        Function.update s.ledgers i ((s.ledgers i).submit q.key q.slot q.value).2)
      (frames : s'.frames = s.frames) : Effect settings s s' (.report i t obj r)
  /-- The table changes, and a flush is started. -/
  | launch {i t : Nat} {obj : Json} {r : Report} {q : Request}
      (request : r.request obj = some q) (unmarked : q.key ∉ (s.ledgers i).active)
      (ledgers : s'.ledgers =
        Function.update s.ledgers i ((s.ledgers i).submit q.key q.slot q.value).2)
      (frames : s'.frames = .start i q ::ₘ s.frames) : Effect settings s s' (.report i t obj r)
  /-- A flush takes a batch. -/
  | take {t : Nat} {f : Frame} {batch : Batch} {rest : Multiset Frame}
      (calm : f.interrupt = none) (stage : f.flush.stage = .draining)
      (taken : ((s.ledgers f.ledger).take f.flush.key).1 = some batch)
      (ledgers : s'.ledgers =
        Function.update s.ledgers f.ledger ((s.ledgers f.ledger).take f.flush.key).2)
      (before : s.frames = f ::ₘ rest)
      (after : s'.frames =
        f.proceed (Flush.afterTake (settings f.ledger) (some batch)) ::ₘ rest) :
      Effect settings s s' (.flush t f (.take (some batch)))
  /-- A flush finds no batch and ends. -/
  | drain {t : Nat} {f : Frame} (calm : f.interrupt = none) (stage : f.flush.stage = .draining)
      (taken : ((s.ledgers f.ledger).take f.flush.key).1 = none)
      (ledgers : s'.ledgers =
        Function.update s.ledgers f.ledger ((s.ledgers f.ledger).take f.flush.key).2)
      (frames : s.frames = f ::ₘ s'.frames) : Effect settings s s' (.flush t f (.take none))
  /-- A flush goes on. -/
  | move {t : Nat} {f f' : Frame} {act : Act} {rest : Multiset Frame}
      (calm : f.interrupt = none) (move : f.Move (settings f.ledger) act f')
      (ledgers : s'.ledgers = s.ledgers) (before : s.frames = f ::ₘ rest)
      (after : s'.frames = f' ::ₘ rest) : Effect settings s s' (.flush t f act)
  /-- A flush gives up its key and ends. -/
  | unwind {t : Nat} {f : Frame} {e : Failure} (raised : f.interrupt = some e)
      (ledgers : s'.ledgers =
        Function.update s.ledgers f.ledger ((s.ledgers f.ledger).abandon f.flush.key))
      (frames : s.frames = f ::ₘ s'.frames) : Effect settings s s' (.flush t f .unwind)

variable {settings : Nat → Settings}

/-- Every step has an effect. -/
theorem Step.effect {s s' : State} {e : Event} (step : Step settings s e s') :
    Effect settings s s' e := by
  cases step with
  | ignore free request => exact .ignore request rfl rfl
  | @submit i t obj r q free request =>
      by_cases h : q.key ∈ (s.ledgers i).active
      · rw [State.submit_of_mem h]
        exact .join request h rfl rfl
      · rw [State.submit_of_not_mem h]
        refine .launch request h ?_ ?_
        · rw [State.ledgers_launch, State.ledgers_setLedger]
        · exact State.frames_launch (s := s.setLedger i _) free _ _
  | take top calm stage taken =>
      obtain ⟨rest, before, after⟩ := State.frames_replace top _
      exact .take calm stage taken rfl before after
  | drain top calm stage taken =>
      exact .drain calm stage taken rfl (State.frames_pop top)
  | move top calm move =>
      obtain ⟨rest, before, after⟩ := State.frames_replace top _
      exact .move calm move rfl before after
  | unwind top raised => exact .unwind raised rfl (State.frames_pop top)

/-- What a flush does, it does while it is under way. -/
lemma Effect.mem_frames {s s' : State} {t : Nat} {f : Frame} {act : Act}
    (effect : Effect settings s s' (.flush t f act)) : f ∈ s.frames := by
  cases effect with
  | take calm stage taken ledgers before after => simp [before]
  | drain calm stage taken ledgers frames => simp [frames]
  | move calm move ledgers before after => simp [before]
  | unwind raised ledgers frames => simp [frames]

/-- What holds of every flush under way, one step: a flush that is under way afterwards was so
before and has done nothing, has just been started, has taken a batch, or has gone on. -/
theorem Effect.forall_frames {P P' : Frame → Prop} {s s' : State} {e : Event}
    (effect : Effect settings s s' e) (h : ∀ f ∈ s.frames, P f) (keep : ∀ f, P f → P' f)
    (start : ∀ {i t obj r q}, e = .report i t obj r → r.request obj = some q →
      P' (.start i q))
    (take : ∀ {t f batch}, e = .flush t f (.take (some batch)) →
      ((s.ledgers f.ledger).take f.flush.key).1 = some batch → P f →
      P' (f.proceed (Flush.afterTake (settings f.ledger) (some batch))))
    (move : ∀ {t f act f'}, e = .flush t f act → f.Move (settings f.ledger) act f' → P f →
      P' f') : ∀ f ∈ s'.frames, P' f := by
  have one {g : Frame} {rest : Multiset Frame} (after : s'.frames = g ::ₘ rest) (new : P' g)
      (old : ∀ f ∈ rest, f ∈ s.frames) : ∀ f ∈ s'.frames, P' f := by
    intro f hf
    rw [after, Multiset.mem_cons] at hf
    exact hf.elim (fun same => same ▸ new) fun hf => keep f (h f (old f hf))
  cases effect with
  | ignore request ledgers frames => exact fun f hf => keep f (h f (frames ▸ hf))
  | join request marked ledgers frames => exact fun f hf => keep f (h f (frames ▸ hf))
  | launch request unmarked ledgers frames =>
      exact one frames (start rfl request) fun f hf => hf
  | @take t f batch rest calm stage taken ledgers before after =>
      exact one after (take rfl taken (h f (by simp [before]))) fun g hg => by simp [before, hg]
  | drain calm stage taken ledgers frames =>
      exact fun g hg => keep g (h g (by simp [frames, hg]))
  | @move t f f' act rest calm moved ledgers before after =>
      exact one after (move rfl moved (h f (by simp [before]))) fun g hg => by simp [before, hg]
  | unwind raised ledgers frames => exact fun g hg => keep g (h g (by simp [frames, hg]))

/-- What holds at first and is preserved by every effect holds after every run. -/
theorem Run.induct {P : List Event → State → Prop} {s s' : State} {events : List Event}
    (run : Run settings s events s') (first : P [] s)
    (next : ∀ {before s₁ s₂ e}, Run settings s before s₁ → Effect settings s₁ s₂ e →
      P before s₁ → P (before ++ [e]) s₂) : P events s' := by
  induction run with
  | nil => exact first
  | snoc run step ih => exact next run step.effect ih

end Driftwatch.Traffic
