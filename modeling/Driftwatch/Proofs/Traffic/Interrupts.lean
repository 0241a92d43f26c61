/-
What an interrupt leaves, and who sees to it.

* `Act.Raises`, `Frame.interrupted`: a call of the server ends in an interrupt, and its flush is
  about to end in it.
* `Step.eq_unwind`: a thread whose flush is being interrupted can do nothing but end the flush.
* `Event.Asks`: something is asked for under a key.
* `Run.unmarked_of_quiet`: a key without a mark stays so until something is asked for under it.
* `Effect.mem_frames_start`: a flush that was started stays as it is until it takes a batch.
* `PicksUp`: the next request for a key starts a flush, whose first batch begins with what is left.
* `interrupt_leaves_requests`: an interrupted flush ends in the interrupt and leaves its key without
  a mark and all batches as they are, and the next request picks up what is left.
-/
import Driftwatch.Proofs.Traffic.Arrivals

namespace Driftwatch.Traffic

variable {settings : Nat → Settings}

/-! ### Threads -/

/-- The thread that an event happens in. -/
def Event.thread : Event → Nat
  | .report _ t _ _ | .flush t _ _ => t

/-- Another stack in one thread leaves every other thread. -/
lemma State.getElem?_setThread_of_ne {s : State} {t u : Nat} (other : u ≠ t)
    (stack : List Frame) : (s.setThread u stack).threads[t]? = s.threads[t]? :=
  List.getElem?_set_ne other

/-- A flush that is launched by one thread leaves every other thread that there is. -/
lemma State.getElem?_launch_of_ne {s : State} {t u : Nat} (other : u ≠ t) {stack : List Frame}
    (there : s.threads[t]? = some stack) (settings : Settings) (f : Frame) :
    (s.launch settings u f).threads[t]? = some stack := by
  rw [State.launch]
  split
  · rw [State.getElem?_setThread_of_ne other, there]
  · obtain ⟨inside, -⟩ := List.getElem?_eq_some_iff.mp there
    rw [List.getElem?_append_left inside, there]

/-- What happens in one thread leaves every other thread that there is. -/
lemma Step.getElem?_of_ne {s s' : State} {e : Event} (step : Step settings s e s') {t : Nat}
    (other : e.thread ≠ t) {stack : List Frame} (there : s.threads[t]? = some stack) :
    s'.threads[t]? = some stack := by
  cases step with
  | ignore free request => exact there
  | @submit i u obj r q free request =>
      by_cases marked : q.key ∈ (s.ledgers i).active
      · rw [State.submit_of_mem marked]
        exact there
      · rw [State.submit_of_not_mem marked]
        exact State.getElem?_launch_of_ne (s := s.setLedger i _) other there _ _
  | take top calm stage taken => exact (State.getElem?_setThread_of_ne other _).trans there
  | drain top calm stage taken => exact (State.getElem?_setThread_of_ne other _).trans there
  | move top calm move => exact (State.getElem?_setThread_of_ne other _).trans there
  | unwind top raised => exact (State.getElem?_setThread_of_ne other _).trans there

/-- As long as nothing happens in a thread, its stack stays. -/
lemma Run.getElem?_of_ne {s s' : State} {events : List Event} (run : Run settings s events s')
    {t : Nat} (away : ∀ e ∈ events, e.thread ≠ t) {stack : List Frame}
    (there : s.threads[t]? = some stack) : s'.threads[t]? = some stack := by
  induction run with
  | nil => exact there
  | @snoc events s' s'' e run step ih =>
      exact step.getElem?_of_ne (away e (by simp)) (ih fun g hg => away g (by simp [hg]))

/-! ### Interrupted flushes -/

/-- A call of the server ends in an interrupt. -/
def Act.Raises (e : Failure) : Act → Prop
  | .read (.error e') | .write _ (.error e') => e' = e ∧ e.isInterrupt = true
  | _ => False

/-- The flush is about to end in an interrupt. -/
def Frame.interrupted (f : Frame) (e : Failure) : Frame :=
  { f with interrupt := some e }

/-- A flush whose call ends in an interrupt is about to end in it. -/
lemma Step.of_raises {s s' : State} {t : Nat} {f : Frame} {act : Act} {e : Failure}
    (step : Step settings s (.flush t f act) s') (raises : act.Raises e) :
    ∃ below, s.threads[t]? = some (f :: below) ∧
      s' = s.setThread t (f.interrupted e :: below) := by
  have failed (a : Attempt) {e' : Failure} (h : e' = e ∧ e.isInterrupt = true) :
      f.afterFailure (settings f.ledger) a e' = f.interrupted e := by
    obtain ⟨rfl, interrupt⟩ := h
    rw [Frame.afterFailure, if_pos interrupt, Frame.interrupted]
  cases step with
  | take top calm stage taken => exact raises.elim
  | drain top calm stage taken => exact raises.elim
  | @move _ _ f' below _ top calm move =>
      refine ⟨below, top, ?_⟩
      cases move with
      | read answer stage =>
          cases answer with
          | ok found => exact raises.elim
          | error e' => rw [Frame.afterRead, failed _ raises]
      | write answer stage =>
          cases answer with
          | ok _ => exact raises.elim
          | error e' => rw [Frame.afterWrite, failed _ raises]
      | pause stage => exact raises.elim
  | unwind top raised => exact raises.elim

/-- **An interrupt is not held up.**  A thread whose flush is being interrupted can do nothing but
end the flush. -/
lemma Step.eq_unwind {s s' : State} {g : Event} {f : Frame} {below : List Frame} {e : Failure}
    (step : Step settings s g s') (top : s.threads[g.thread]? = some (f :: below))
    (raised : f.interrupt = some e) : g = .flush g.thread f .unwind := by
  have report {t : Nat} (here : s.threads[t]? = some (f :: below)) : ¬ s.CanReport t := by
    rintro ⟨stack, there, calling⟩
    obtain rfl : f :: below = stack := Option.some.inj (here.symm.trans there)
    have calling := calling f rfl
    simp [Frame.isCalling, raised] at calling
  have calm {t : Nat} {f' : Frame} {below' : List Frame}
      (here : s.threads[t]? = some (f :: below)) (there : s.threads[t]? = some (f' :: below')) :
      f' = f := by
    obtain ⟨rfl, -⟩ := by simpa using there.symm.trans here
    rfl
  cases step with
  | ignore free request => exact absurd free (report top)
  | submit free request => exact absurd free (report top)
  | take there still stage taken => simp [calm top there, raised] at still
  | drain there still stage taken => simp [calm top there, raised] at still
  | move there still move => simp [calm top there, raised] at still
  | unwind there raised' => rw [calm top there]; rfl

/-- A flush that ends in an interrupt gives up its key. -/
lemma Step.ledgers_of_unwind {s s' : State} {t : Nat} {f : Frame}
    (step : Step settings s (.flush t f .unwind) s') :
    s'.ledgers = Function.update s.ledgers f.ledger
      ((s.ledgers f.ledger).abandon f.flush.key) := by
  cases step with
  | move top calm move => cases move
  | unwind top raised => rfl

/-- A flush that ends in an interrupt leaves all that waits, for its own key and for all others. -/
lemma Step.pending_of_unwind {s s' : State} {t : Nat} {f : Frame}
    (step : Step settings s (.flush t f .unwind) s') (i : Nat) :
    (s'.ledgers i).pending = (s.ledgers i).pending := by
  rw [step.ledgers_of_unwind]
  by_cases here : i = f.ledger
  · subst here
    rw [Function.update_self, Ledger.abandon]
  · rw [Function.update_of_ne here]

/-- A flush that ends in an interrupt takes the mark of its own key with it, and no other. -/
lemma Step.marked_of_unwind {s s' : State} {t : Nat} {f : Frame}
    (step : Step settings s (.flush t f .unwind) s') (i : Nat) (key : String) :
    key ∈ (s'.ledgers i).active ↔ ¬ f.WorksFor i key ∧ key ∈ (s.ledgers i).active := by
  rw [step.ledgers_of_unwind, Frame.WorksFor]
  by_cases here : i = f.ledger
  · subst here
    rw [Function.update_self, Ledger.mem_active_abandon]
    simp [eq_comm]
  · rw [Function.update_of_ne here]
    simp [Ne.symm here]

/-! ### Keys under which nothing is asked for -/

/-- Something is asked for under a key of a ledger. -/
def Event.Asks (i : Nat) (key : String) (e : Event) : Prop :=
  ∃ slot value, e.asked i key slot = some value

/-- A report asks under the key of its request. -/
lemma Event.asks_report_iff {i j t : Nat} {key : String} {obj : Json} {r : Report} {q : Request}
    (request : r.request obj = some q) :
    (Event.report j t obj r).Asks i key ↔ j = i ∧ q.key = key := by
  simp only [Asks, asked, request]
  constructor
  · rintro ⟨slot, value, asked⟩
    simp only [Option.ite_none_right_eq_some] at asked
    exact ⟨asked.1.1, asked.1.2.1⟩
  · rintro ⟨rfl, rfl⟩
    exact ⟨q.slot, q.value, by simp⟩

/-- Where no flush works for a key, nothing is taken under it. -/
lemma Effect.not_takes_of_unmarked {s s' : State} {e : Event} (effect : Effect settings s s' e)
    (marks : s.MarksFlushes) {i : Nat} {key : String} (unmarked : key ∉ (s.ledgers i).active) :
    ¬ e.Takes i key := by
  intro takes
  have none : s.flushes i key = 0 := by rw [marks, if_neg unmarked]
  cases e with
  | report j t obj r => exact takes
  | flush t f act =>
      cases act with
      | take batch => exact Multiset.countP_eq_zero.mp none f effect.mem_frames takes
      | _ => exact takes

/-- **A key without a mark, one step**: it stays so unless something is asked for under it. -/
lemma Effect.unmarked_of_quiet {s s' : State} {e : Event} (effect : Effect settings s s' e)
    {i : Nat} {key : String} (quiet : ¬ e.Asks i key)
    (unmarked : key ∉ (s.ledgers i).active) : key ∉ (s'.ledgers i).active := by
  have submitted {j t : Nat} {obj : Json} {r : Report} {q : Request}
      (request : r.request obj = some q) (quiet : ¬ (Event.report j t obj r).Asks i key)
      (ledgers : s'.ledgers =
        Function.update s.ledgers j ((s.ledgers j).submit q.key q.slot q.value).2) :
      key ∉ (s'.ledgers i).active := by
    rw [Event.asks_report_iff request] at quiet
    rw [ledgers]
    by_cases here : i = j
    · subst here
      rw [Function.update_self, Ledger.mem_active_submit]
      exact fun marked => marked.elim (fun same => quiet ⟨rfl, same.symm⟩) unmarked
    · rwa [Function.update_of_ne here]
  have fewer {j : Nat} {ledger : Ledger} (ledgers : s'.ledgers = Function.update s.ledgers j ledger)
      (less : ∀ k, k ∈ ledger.active → k ∈ (s.ledgers j).active) : key ∉ (s'.ledgers i).active := by
    rw [ledgers]
    by_cases here : i = j
    · subst here
      rw [Function.update_self]
      exact fun marked => unmarked (less key marked)
    · rwa [Function.update_of_ne here]
  cases effect with
  | ignore request ledgers frames => rwa [ledgers]
  | join request marked ledgers frames => exact submitted request quiet ledgers
  | launch request unmarked' ledgers frames => exact submitted request quiet ledgers
  | take calm stage taken ledgers before after =>
      exact fewer ledgers fun k hk => by rwa [Ledger.active_take_of_some taken] at hk
  | drain calm stage taken ledgers frames =>
      exact fewer ledgers fun k hk => ((Ledger.mem_active_take_of_none taken k).mp hk).2
  | move calm move ledgers before after => rwa [ledgers]
  | unwind raised ledgers frames =>
      exact fewer ledgers fun k hk => ((Ledger.mem_active_abandon _ _ k).mp hk).2

/-- **A key without a mark**: as long as nothing is asked for under it, it stays so, and nothing is
taken under it. -/
lemma Run.unmarked_of_quiet {n : Nat} {before quiet : List Event} {s s' : State}
    (past : Run settings (.start n) before s) (run : Run settings s quiet s') {i : Nat}
    {key : String} (silent : ∀ e ∈ quiet, ¬ e.Asks i key)
    (unmarked : key ∉ (s.ledgers i).active) :
    key ∉ (s'.ledgers i).active ∧ ∀ e ∈ quiet, ¬ e.Takes i key := by
  induction run with
  | nil => exact ⟨unmarked, by simp⟩
  | @snoc quiet s' s'' e run step ih =>
      obtain ⟨still, idle⟩ := ih fun g hg => silent g (by simp [hg])
      refine ⟨step.effect.unmarked_of_quiet (silent e (by simp)) still, fun g hg => ?_⟩
      rcases List.mem_append.mp hg with hg | hg
      · exact idle g hg
      · rw [List.mem_singleton.mp hg]
        exact step.effect.not_takes_of_unmarked (past.append run).marksFlushes still

/-! ### What waits on top of what is left -/

/-- As long as nothing is taken, what waited before waits still, and more behind it. -/
lemma isPrefix_waiting {i : Nat} {key : String} {more : List Event}
    (idle : ∀ e ∈ more, ¬ e.Takes i key) (slot : Slot) (events : List Event) :
    waiting i key slot events <+: waiting i key slot (events ++ more) := by
  induction more using List.reverseRecOn with
  | nil => simp
  | append_singleton more e ih =>
      rw [← List.append_assoc, waiting_concat_of_not_takes (idle e (by simp))]
      exact (ih fun g hg => idle g (by simp [hg])).trans (List.prefix_append _ _)

/-- What nobody asks for or takes does not change what waits. -/
lemma waiting_of_quiet {i : Nat} {key : String} {quiet : List Event}
    (silent : ∀ e ∈ quiet, ¬ e.Asks i key) (idle : ∀ e ∈ quiet, ¬ e.Takes i key) (slot : Slot)
    (events : List Event) : waiting i key slot (events ++ quiet) = waiting i key slot events := by
  induction quiet using List.reverseRecOn with
  | nil => simp
  | append_singleton quiet e ih =>
      have none : e.asked i key slot = none := by
        by_contra some
        obtain ⟨value, asked⟩ := Option.ne_none_iff_exists'.mp some
        exact silent e (by simp) ⟨slot, value, asked⟩
      rw [← List.append_assoc, waiting_concat_of_not_takes (idle e (by simp)), none,
        Option.toList_none, List.append_nil]
      exact ih (fun g hg => silent g (by simp [hg])) fun g hg => idle g (by simp [hg])

/-- The first of some values stay the first when they are told apart. -/
lemma isPrefix_eraseDups {values more : List String} (h : values <+: more) :
    values.eraseDups <+: more.eraseDups := by
  obtain ⟨rest, rfl⟩ := h
  rw [List.eraseDups_append]
  exact List.prefix_append _ _

/-! ### Flushes that were started -/

/-- A flush that was started stays as it is until it takes a batch. -/
lemma Effect.mem_frames_start {s s' : State} {e : Event} (effect : Effect settings s s' e)
    {i : Nat} {q : Request} (idle : ¬ e.Takes i q.key) (h : Frame.start i q ∈ s.frames) :
    Frame.start i q ∈ s'.frames := by
  have other {f : Frame} {rest : Multiset Frame} (before : s.frames = f ::ₘ rest)
      (apart : Frame.start i q ≠ f) : Frame.start i q ∈ rest := by
    rw [before, Multiset.mem_cons] at h
    exact h.resolve_left apart
  cases effect with
  | ignore request ledgers frames => rwa [frames]
  | join request marked ledgers frames => rwa [frames]
  | launch request unmarked ledgers frames =>
      rw [frames]
      exact Multiset.mem_cons_of_mem h
  | take calm stage taken ledgers before after =>
      rw [after]
      refine Multiset.mem_cons_of_mem (other before ?_)
      rintro rfl
      exact idle ⟨rfl, rfl⟩
  | drain calm stage taken ledgers frames =>
      refine other frames ?_
      rintro rfl
      exact idle ⟨rfl, rfl⟩
  | move calm move ledgers before after =>
      rw [after]
      refine Multiset.mem_cons_of_mem (other before ?_)
      rintro rfl
      cases move <;> simp_all [Frame.start, Flush.start]
  | unwind raised ledgers frames =>
      refine other frames ?_
      rintro rfl
      simp [Frame.start] at raised

/-- A flush that was started stays as it is as long as nothing is taken under its key. -/
lemma Run.mem_frames_start {s s' : State} {events : List Event} (run : Run settings s events s')
    {i : Nat} {q : Request} (idle : ∀ e ∈ events, ¬ e.Takes i q.key)
    (h : Frame.start i q ∈ s.frames) : Frame.start i q ∈ s'.frames := by
  induction run with
  | nil => exact h
  | @snoc events s' s'' e run step ih =>
      exact step.effect.mem_frames_start (idle e (by simp))
        (ih fun g hg => idle g (by simp [hg]))

/-- No two flushes work for one key. -/
lemma State.MarksFlushes.unique {s : State} (h : s.MarksFlushes) {i : Nat} {key : String}
    {f g : Frame} (hf : f ∈ s.frames) (hg : g ∈ s.frames) (works : f.WorksFor i key)
    (works' : g.WorksFor i key) : g = f := by
  obtain ⟨rest, split⟩ := Multiset.exists_cons_of_mem hf
  have one : s.flushes i key ≤ 1 := by
    rw [h]
    split <;> omega
  rw [State.flushes_cons split, if_pos works] at one
  rw [split, Multiset.mem_cons] at hg
  refine hg.resolve_right fun hg => ?_
  have := Multiset.countP_pos.mpr ⟨g, hg, works'⟩
  omega

/-! ### The next request -/

/-- The next request for a key, whenever it is made, starts a flush; and the first batch that is
taken under the key after that is taken by this flush and begins, for each annotation, with the
values that are left, followed by the new one unless it is among them. -/
def PicksUp (settings : Nat → Settings) (i : Nat) (key : String) (left : Slot → List String)
    (s : State) : Prop :=
  ∀ {quiet : List Event} {s₁ : State}, Run settings s quiet s₁ → (∀ e ∈ quiet, ¬ e.Asks i key) →
    ∀ {t : Nat} {obj : Json} {r : Report} {q : Request} {s₂ : State}, r.request obj = some q →
      q.key = key → Step settings s₁ (.report i t obj r) s₂ →
      s₂.frames = .start i q ::ₘ s₁.frames ∧
      ∀ {more : List Event} {s₃ : State}, Run settings s₂ more s₃ →
        (∀ e ∈ more, ¬ e.Takes i key) →
        ∀ {u : Nat} {g : Frame} {taken : Option Batch} {s₄ : State},
          Step settings s₃ (.flush u g (.take taken)) s₄ → g.WorksFor i key →
          g = .start i q ∧ ∃ batch, taken = some batch ∧ ∀ slot,
            (if slot = q.slot then Batch.arrive (left slot) q.value else left slot) <+:
              batch.values slot

/-- **What is left is picked up.**  This is so wherever a key has no mark. -/
lemma Run.picksUp {n : Nat} {events : List Event} {s : State}
    (run : Run settings (.start n) events s) {i : Nat} {key : String}
    (unmarked : key ∉ (s.ledgers i).active) :
    PicksUp settings i key (fun slot => (waiting i key slot events).eraseDups) s := by
  rintro quiet s₁ silentRun silent t obj r q s₂ request rfl step
  obtain ⟨still, idle⟩ := run.unmarked_of_quiet silentRun silent unmarked
  have run₁ := run.append silentRun
  have launched : s₂.frames = .start i q ::ₘ s₁.frames := by
    cases step.effect with
    | ignore request' ledgers frames => simp [request] at request'
    | join request' marked ledgers frames =>
        obtain rfl : q = _ := Option.some.inj (request.symm.trans request')
        exact absurd marked still
    | launch request' unmarked ledgers frames =>
        obtain rfl : q = _ := Option.some.inj (request.symm.trans request')
        exact frames
  refine ⟨launched, fun {more s₃} later idle' {u g taken s₄} take works => ?_⟩
  have run₃ := (run₁.snoc step).append later
  have here := later.mem_frames_start idle' (launched ▸ Multiset.mem_cons_self _ _)
  have values := take.values_taken run₃.holdsWaiting
  obtain ⟨rfl, key⟩ := works
  rw [key] at values
  -- what waits begins with what is left and what the request asks for
  have begins (slot : Slot) :
      (if slot = q.slot then Batch.arrive (waiting g.ledger q.key slot events).eraseDups q.value
        else (waiting g.ledger q.key slot events).eraseDups) <+: (taken.getD []).values slot := by
    rw [values slot, ← waiting_of_quiet silent idle slot events]
    refine List.IsPrefix.trans ?_ (isPrefix_eraseDups (isPrefix_waiting idle' slot _))
    rw [waiting_concat_of_not_takes (e := .report g.ledger t obj r) id]
    by_cases same : slot = q.slot
    · subst same
      simp [Event.asked, request, eraseDups_concat]
    · simp [Event.asked, request, same, Ne.symm same]
  refine ⟨run₃.marksFlushes.unique here take.effect.mem_frames ⟨rfl, rfl⟩ ⟨rfl, key⟩, ?_⟩
  cases taken with
  | some batch => exact ⟨batch, rfl, begins⟩
  | none =>
      have some := begins q.slot
      rw [if_pos rfl, Option.getD_none] at some
      have arrived : q.value ∈
          Batch.arrive (waiting g.ledger q.key q.slot events).eraseDups q.value := by
        rw [Batch.arrive]
        split
        · assumption
        · simp
      exact absurd (some.subset arrived) List.not_mem_nil

/-- **An interrupt leaves what waits.**  When a call of a flush ends in an interrupt, the thread
can do nothing but end the flush in this interrupt, whatever other threads do until then.  When the
flush has ended, its key has no mark and all other marks stand; all batches are as before, and the
one of the key holds the values that were asked for since a batch of it was last taken; and the
next request for the key starts a flush that picks them up. -/
theorem interrupt_leaves_requests {n : Nat} {before between : List Event} {s s₁ s₂ : State}
    {t : Nat} {f : Frame} {act : Act} {e : Failure} (run : Run settings (.start n) before s)
    (raised : Step settings s (.flush t f act) s₁) (raises : act.Raises e)
    (others : Run settings s₁ between s₂) (away : ∀ g ∈ between, g.thread ≠ t) :
    (∀ {g : Event} {s₃ : State}, Step settings s₂ g s₃ → g.thread = t →
      g = .flush t (f.interrupted e) .unwind) ∧
    (∃ s₃, Step settings s₂ (.flush t (f.interrupted e) .unwind) s₃) ∧
    ∀ {s₃ : State}, Step settings s₂ (.flush t (f.interrupted e) .unwind) s₃ →
      (∀ i key, key ∈ (s₃.ledgers i).active ↔
        ¬ f.WorksFor i key ∧ key ∈ (s₂.ledgers i).active) ∧
      (∀ i, (s₃.ledgers i).pending = (s₂.ledgers i).pending) ∧
      (∀ slot, (((s₃.ledgers f.ledger).batch? f.flush.key).getD []).values slot =
        (waiting f.ledger f.flush.key slot (before ++ .flush t f act :: between)).eraseDups) ∧
      PicksUp settings f.ledger f.flush.key (fun slot =>
        (waiting f.ledger f.flush.key slot (before ++ .flush t f act :: between)).eraseDups)
        s₃ := by
  obtain ⟨below, top, rfl⟩ := raised.of_raises raises
  obtain ⟨inside, -⟩ := List.getElem?_eq_some_iff.mp top
  have top₂ : s₂.threads[t]? = some (f.interrupted e :: below) :=
    others.getElem?_of_ne away (List.getElem?_set_self inside)
  refine ⟨fun {g s₃} step here => ?_, ⟨_, .unwind top₂ rfl⟩, fun {s₃} unwind => ?_⟩
  · subst here
    exact step.eq_unwind top₂ rfl
  · have run₂ : Run settings (.start n) (before ++ .flush t f act :: between) s₂ := by
      simpa using (run.snoc raised).append others
    have run₃ := run₂.snoc unwind
    have left (slot : Slot) : waiting f.ledger f.flush.key slot
        ((before ++ .flush t f act :: between) ++ [.flush t (f.interrupted e) .unwind]) =
        waiting f.ledger f.flush.key slot (before ++ .flush t f act :: between) := by
      rw [waiting_concat_of_not_takes (e := .flush t (f.interrupted e) .unwind) id]
      exact List.append_nil _
    have marks := unwind.marked_of_unwind
    refine ⟨marks, unwind.pending_of_unwind, fun slot => ?_, ?_⟩
    · rw [run₃.holdsWaiting, left]
    · simp only [← left]
      exact run₃.picksUp fun marked => ((marks _ _).mp marked).1 ⟨rfl, rfl⟩

/-- A phase is reported within the read of an earlier report on the widget, and the read is
interrupted, by way of a flush that was started within it: the phase stays, and heads the first
batch of the flush that the next report starts. -/
theorem interrupt_leaves_requests_nested :
    ∃ events s, Run (fun _ => {}) (.start 1) events s ∧ s.frames = 0 ∧
      "Widget/default/web" ∉ (s.ledgers 0).active ∧
      (((s.ledgers 0).batch? "Widget/default/web").getD []).values .phase = ["initialized"] ∧
      ∃ s' s'' u g batch,
        Step (fun _ => {}) s (.report 0 0 (widget "apps/v1" "web") (.phase "initializing")) s' ∧
        Step (fun _ => {}) s' (.flush u g (.take (some batch))) s'' ∧
        ["initialized", "initializing"] <+: batch.values .phase := by
  have run : Run (fun _ => {}) (.start 1) [] (.start 1) := .nil
  have run := run.snoc (e := .report 0 0 (widget "apps/v1" "web") (.phase "initializing"))
    (.submit ⟨_, rfl, by simp⟩ rfl)
  have run := run.snoc (.take (t := 0) rfl rfl rfl rfl)
  have run := run.snoc (e := .report 0 0 (widget "apps/v1" "web") (.phase "initialized"))
    (.submit ⟨_, rfl, by decide⟩ rfl)
  have run := run.snoc (e := .report 0 0 (widget "apps/v1" "api") (.phase "initializing"))
    (.submit ⟨_, rfl, by decide⟩ rfl)
  have run := run.snoc (.take (t := 0) rfl rfl rfl rfl)
  have run := run.snoc (.move (t := 0) rfl rfl (.read (.error (.fault (.interrupt ""))) rfl))
  have run := run.snoc (.unwind (t := 0) rfl rfl)
  -- the interrupt reaches the read that the flush was started within
  obtain ⟨-, -, rest⟩ := interrupt_leaves_requests run
    (.move (t := 0) rfl rfl (.read (.error (.fault (.interrupt ""))) rfl)) ⟨rfl, rfl⟩ .nil (by simp)
  obtain ⟨marks, -, left, picksUp⟩ := rest (.unwind (t := 0) rfl rfl)
  have run := run.snoc (.move (t := 0) rfl rfl (.read (.error (.fault (.interrupt ""))) rfl))
  have run := run.snoc (.unwind (t := 0) rfl rfl)
  have report {s' : State} (step : Step (fun _ => {}) _
      (.report 0 0 (widget "apps/v1" "web") (.phase "initializing")) s') :=
    And.intro step (picksUp .nil (by simp) rfl rfl step)
  obtain ⟨step, -, first⟩ := report (.submit ⟨[], rfl, by simp⟩ rfl)
  have taken {s'' : State} {u : Nat} {g : Frame} {batch : Batch}
      (take : Step (fun _ => {}) _ (.flush u g (.take (some batch))) s'')
      (works : g.WorksFor 0 _) :=
    And.intro take (first .nil (by simp) take works)
  obtain ⟨take, -, batch, same, begins⟩ := taken (.take (t := 0) rfl rfl rfl rfl) ⟨rfl, rfl⟩
  obtain rfl := Option.some.inj same
  exact ⟨_, _, run, rfl, fun marked => ((marks _ _).mp marked).1 ⟨rfl, rfl⟩, left .phase, _, _, _,
    _, _, step, take, begins .phase⟩

end Driftwatch.Traffic
