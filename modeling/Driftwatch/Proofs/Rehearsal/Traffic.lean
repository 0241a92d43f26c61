/-
Rehearsals are traffic: what the machine does on its stack is what threads do.

* `Matches`: a state of the traffic matches a world and a stack.
* `Matches.unwind`, `Matches.perform`, `Matches.tick`: what a failure does on its way down, a
  step, and a small step are matched by steps of the traffic.
* `Reachable`: the machines that come up in a rehearsal.
* `Reachable.run`: every rehearsal is a run of the traffic, so that what holds of all runs holds
  of all rehearsals; `Reachable.marked_iff` is an instance.
-/
import Driftwatch.Proofs.Rehearsal.Threads
import Driftwatch.Proofs.Traffic.Origins

namespace Driftwatch.Rehearsal

variable {settings : Nat → Settings}

/-! ### Matching states -/

/-- The traffic goes from one state to another in any number of steps. -/
def Leads (settings : Nat → Settings) (s s' : Traffic.State) : Prop :=
  ∃ events, Traffic.Run settings s events s'

lemma Leads.refl (s : Traffic.State) : Leads settings s s :=
  ⟨[], .nil⟩

lemma Leads.of_step {s s' : Traffic.State} {e : Traffic.Event}
    (step : Traffic.Step settings s e s') : Leads settings s s' :=
  ⟨_, .snoc .nil step⟩

lemma Leads.trans {s s' s'' : Traffic.State} (h : Leads settings s s')
    (h' : Leads settings s' s'') : Leads settings s s'' := by
  obtain ⟨before, first⟩ := h
  obtain ⟨after, second⟩ := h'
  exact ⟨_, first.append second⟩

/-- Two worlds do not differ in what the traffic shows. -/
structure Alike (w w' : World) : Prop where
  settings : w'.settings = w.settings
  ledger : w'.ledger = w.ledger
  workers : w'.workers.statuses.length = w.workers.statuses.length
  delayed : w'.delayed = w.delayed

/-- Nothing is shown of a worker that comes to its end. -/
lemma alike_finish (w : World) (worker : Option Nat) : Alike w (w.finish worker) := by
  cases worker with
  | none => exact ⟨rfl, rfl, rfl, rfl⟩
  | some number => exact ⟨rfl, rfl, List.length_set, rfl⟩

/-- A request joins the flush that is under way, or starts one: at once without a delay, else in
a worker of its own. -/
lemma World.submit_eq (w : World) (q : Request) :
    w.submit q =
      if q.key ∈ w.ledger.active then
        { w with ledger := (w.ledger.submit q.key q.slot q.value).2 }.done .null
      else if w.settings.delay <= 0.0 then
        { answer := .null
          world := { w with ledger := (w.ledger.submit q.key q.slot q.value).2 }
          started := some ⟨Flush.start q, none⟩ }
      else
        { w with
          ledger := (w.ledger.submit q.key q.slot q.value).2
          workers := (w.workers.create.2.enlist w.workers.create.1).start w.workers.create.1
          delayed := w.delayed ++ [Delayed.mk w.workers.create.1 (Flush.start q)] }.done .null := by
  have starts := w.ledger.submit_starts_iff q.key q.slot q.value
  by_cases marked : q.key ∈ w.ledger.active
  · have joins : (w.ledger.submit q.key q.slot q.value).1 = false := by simpa [marked] using starts
    simp [World.submit, joins, marked]
  · have starts : (w.ledger.submit q.key q.slot q.value).1 = true := starts.mpr marked
    simp [World.submit, starts, marked]

/-- A computation that comes to a result has gone through its first part. -/
lemma bind_eq_ok {α β : Type} {x : Except Failure α} {f : α → Except Failure β} {b : β}
    (h : x >>= f = .ok b) : ∃ a, x = .ok a ∧ f a = .ok b := by
  cases x with
  | error e => cases h
  | ok a => exact ⟨a, rfl, h⟩

/-- What is read as an object is one. -/
lemma isObject_of_read {source : Object.Source} {obj : Json} (h : source.read = .ok obj) :
    obj.isObject = true := by
  rw [Object.Source.read.eq_def] at h
  split at h
  · obtain rfl := Except.ok.inj h
    rfl
  · split at h
    · rename_i object
      obtain rfl := Except.ok.inj h
      exact object
    · simp at h

/-- A state of the traffic matches a world and a stack. -/
structure Matches (settings : Nat → Settings) (w : World) (stack : List Frame)
    (s : Traffic.State) : Prop where
  settings : settings 0 = w.settings
  stands : Stands stack
  ledger : s.ledgers 0 = w.ledger
  carries : Carries w.workers.statuses.length w.delayed stack s.threads

namespace Matches

variable {w w' : World} {stack below : List Frame} {s : Traffic.State} {f : Flush}
  {worker : Option Nat}

lemma of_alike (h : Matches settings w stack s) (alike : Alike w w') :
    Matches settings w' stack s where
  settings := by rw [alike.settings, h.settings]
  stands := h.stands
  ledger := by rw [alike.ledger, h.ledger]
  carries := by rw [alike.workers, alike.delayed]; exact h.carries

/-- The flush on top goes on without the table. -/
lemma proceed (h : Matches settings w (.flush f worker :: below) s)
    (next : Flush.Stage × List Log.Entry) (alive : isOver f = false)
    (alive' : isOver { f with stage := next.1 } = false)
    (move : ∀ copy, ∃ act copy', Traffic.Frame.Move w.settings ⟨0, f, copy, none⟩ act
      ⟨0, { f with stage := next.1 }, copy', none⟩) :
    ∃ s', Leads settings s s' ∧
      Matches settings (w.proceed f next).1 (.flush (w.proceed f next).2 worker :: below) s' := by
  obtain ⟨copy, rest, top⟩ := h.carries.top alive
  obtain ⟨act, copy', move⟩ := move copy
  rw [← h.settings] at move
  exact ⟨_, .of_step (.move top rfl move), h.settings, h.stands, h.ledger,
    h.carries.replace alive alive' top⟩

/-! ### Answers -/

/-- A failure that is no interrupt is met within the flush. -/
lemma afterFailure_eq {e : Failure} (calm : e.isInterrupt = false) (settings : Settings)
    (a : Attempt) (copy : Option Json) :
    Traffic.Frame.afterFailure settings ⟨0, f, copy, none⟩ a e =
      ⟨0, { f with stage := (Flush.afterFailure settings f.key a e).1 }, copy, none⟩ := by
  rw [Traffic.Frame.afterFailure, calm]
  rfl

lemma isOver_afterFailure (settings : Settings) (a : Attempt) (e : Failure) :
    isOver { f with stage := (Flush.afterFailure settings f.key a e).1 } = false := by
  rcases Traffic.stage_afterFailure settings f.key a e with stage | stage <;> rw [isOver, stage]

/-- The call of the flush on top reads, and fails. -/
lemma failRead {a : Attempt} {e : Failure} (h : Matches settings w (.flush f worker :: below) s)
    (stage : f.stage = .reading a) (calm : e.isInterrupt = false) :
    ∃ s', Leads settings s s' ∧
      Matches settings (w.proceed f (Flush.afterRead w.settings f.key a (.error e))).1
        (.flush (w.proceed f (Flush.afterRead w.settings f.key a (.error e))).2 worker :: below)
        s' := by
  refine h.proceed _ (by rw [isOver, stage]) (isOver_afterFailure _ a e) fun copy =>
    ⟨.read (.error e), copy, ?_⟩
  have answered : Traffic.Frame.Move w.settings ⟨0, f, copy, none⟩ _ _ := .read (.error e) stage
  rwa [Traffic.Frame.afterRead, afterFailure_eq calm] at answered

/-- The call of the flush on top writes, and fails. -/
lemma failWrite {a : Attempt} {body : Json} {e : Failure}
    (h : Matches settings w (.flush f worker :: below) s) (stage : f.stage = .writing a body)
    (calm : e.isInterrupt = false) :
    ∃ s', Leads settings s s' ∧
      Matches settings (w.proceed f (Flush.afterWrite w.settings f.key a (.error e))).1
        (.flush (w.proceed f (Flush.afterWrite w.settings f.key a (.error e))).2 worker :: below)
        s' := by
  refine h.proceed _ (by rw [isOver, stage]) (isOver_afterFailure _ a e) fun copy =>
    ⟨.write body (.error e), copy, ?_⟩
  have answered : Traffic.Frame.Move w.settings ⟨0, f, copy, none⟩ _ _ := .write (.error e) stage
  rwa [Traffic.Frame.afterWrite, afterFailure_eq calm] at answered

/-- The call of the flush on top fails, but not in an interrupt. -/
lemma fail {e : Failure} (h : Matches settings w (.flush f worker :: below) s)
    (calling : isCalling f = true) (calm : e.isInterrupt = false) :
    ∃ s', Leads settings s s' ∧
      Matches settings (w.fail f e).1 (.flush (w.fail f e).2 worker :: below) s' := by
  rw [World.fail]
  split
  · rename_i a stage
    exact h.failRead stage calm
  · rename_i a body stage
    exact h.failWrite stage calm
  · simp_all [isCalling]

/-- The call of the flush on top ends well, as far as the call is concerned. -/
lemma complete (h : Matches settings w (.flush f worker :: below) s)
    (calling : isCalling f = true) :
    ∃ s', Leads settings s s' ∧
      Matches settings (w.complete f).1 (.flush (w.complete f).2 worker :: below) s' := by
  rw [World.complete]
  split
  · rename_i a stage
    refine h.proceed _ (by rw [isOver, stage]) ?_ fun copy =>
      ⟨.read (.ok (w.store.get? (World.storeKey f.target))), _, .read (.ok _) stage⟩
    rcases Traffic.stage_afterRead w.settings f.key a
      (w.store.get? (World.storeKey f.target)) with next | next | ⟨_, _, _, _, next⟩ <;>
      rw [isOver, next]
  · rename_i a body stage
    split
    · rename_i store _
      have written : Matches settings { w with store } (.flush f worker :: below) s :=
        h.of_alike ⟨rfl, rfl, rfl, rfl⟩
      exact written.proceed _ (by rw [isOver, stage]) rfl fun copy =>
        ⟨.write body (.ok ()), _, .write (.ok ()) stage⟩
    · rename_i e refused
      exact h.failWrite stage (Store.isInterrupt_of_replace refused)
  · simp_all [isCalling]

/-! ### Failures on their way down -/

/-- The call of the flush on top is interrupted: the flush gives up its key and ends. -/
lemma interrupt {e : Failure} (h : Matches settings w (.flush f worker :: below) s)
    (calling : isCalling f = true) (raised : e.isInterrupt = true) :
    ∃ s', Leads settings s s' ∧
      Matches settings { w with ledger := w.ledger.abandon f.key } below s' := by
  obtain ⟨copy, rest, top⟩ := h.carries.top (isOver_of_isCalling calling)
  -- the call is answered by the interrupt, and then the flush ends in it
  have failed (a : Attempt) : Traffic.Frame.afterFailure (settings 0) ⟨0, f, copy, none⟩ a e =
      ⟨0, f, copy, some e⟩ := by
    rw [Traffic.Frame.afterFailure, raised]
    rfl
  have answered : ∃ act, Traffic.Frame.Move (settings 0) ⟨0, f, copy, none⟩ act
      ⟨0, f, copy, some e⟩ := by
    rw [isCalling] at calling
    split at calling
    · rename_i a stage
      have move : Traffic.Frame.Move (settings 0) ⟨0, f, copy, none⟩ _ _ :=
        .read (.error e) stage
      rw [Traffic.Frame.afterRead, failed] at move
      exact ⟨_, move⟩
    · rename_i a body stage
      have move : Traffic.Frame.Move (settings 0) ⟨0, f, copy, none⟩ _ _ :=
        .write (.error e) stage
      rw [Traffic.Frame.afterWrite, failed] at move
      exact ⟨_, move⟩
    · simp at calling
  obtain ⟨act, move⟩ := answered
  have inside := (List.getElem?_eq_some_iff.mp top).1
  have first := Leads.of_step (Traffic.Step.move top rfl move)
  have second : Leads settings _ _ := .of_step (.unwind
    (s := s.setThread _ (⟨0, f, copy, some e⟩ :: rest)) (List.getElem?_set_self inside) rfl)
  refine ⟨_, first.trans second, h.settings, Waits.stands h.stands, ?_, ?_⟩
  · change Function.update s.ledgers 0 ((s.ledgers 0).abandon f.key) 0 = w.ledger.abandon f.key
    rw [Function.update_self, h.ledger]
  · have carries := h.carries.pop (isOver_of_isCalling calling) top
    rwa [← List.set_set] at carries

/-- **A failure on its way down** is matched by steps of the traffic. -/
lemma unwind (e : Failure) (waits : Waits stack) (h : Matches settings w stack s) :
    ∃ s', Leads settings s s' ∧ Matches settings (Machine.unwind w e stack).world
      (Machine.unwind w e stack).frames s' := by
  induction waits generalizing w s with
  | nil => exact ⟨s, .refl s, h⟩
  | bottom => exact ⟨s, .refl s, h.settings, .nil, h.ledger, h.carries.of_call⟩
  | @above f worker below steps fault calling waits ih =>
      have h : Matches settings w (.flush f worker :: below) s :=
        ⟨h.settings, waits, h.ledger, h.carries.of_call⟩
      rw [Machine.unwind, Machine.unwind]
      split
      · rename_i raised
        obtain ⟨s', leads, ended⟩ := h.interrupt calling raised
        cases worker with
        | some number => exact ⟨s', leads, ended.of_alike (alike_finish _ (some number))⟩
        | none =>
            obtain ⟨s'', leads', below⟩ := ih ended
            exact ⟨s'', leads.trans leads', below⟩
      · rename_i calm
        exact h.fail calling (by simpa using calm)

/-! ### Requests -/

/-- On a stack on which a step can be taken its thread can report. -/
lemma canReport (waits : Waits stack) (h : Matches settings w stack s) :
    s.CanReport (thread stack) := by
  obtain ⟨frames, there⟩ := h.carries.getElem?
  refine ⟨frames, there, fun g hg => ?_⟩
  have holds := h.carries.holds _ _ there
  have none : waiting 0 w.delayed = [] := by
    rw [waiting, List.map_eq_nil_iff, List.filter_eq_nil_iff]
    simp
  cases waits with
  | nil =>
      rw [thread, none] at holds
      obtain rfl : frames = [] := by simpa [flushes] using holds
      simp at hg
  | bottom =>
      change List.map Traffic.Frame.flush frames = [] ++ waiting 0 w.delayed at holds
      rw [none] at holds
      obtain rfl : frames = [] := by simpa using holds
      simp at hg
  | @above f worker below steps fault calling waits =>
      obtain ⟨copy, rest, top⟩ :=
        h.carries.of_call.top (isOver_of_isCalling calling)
      obtain rfl : frames = ⟨0, f, copy, Option.none⟩ :: rest :=
        Option.some.inj (there.symm.trans top)
      obtain rfl : ⟨0, f, copy, Option.none⟩ = g := by simpa using hg
      rw [isCalling] at calling
      rw [Traffic.Frame.isCalling]
      split at calling <;> simp_all

/-- **A request** is matched by a report in the thread of the top of the stack. -/
lemma submit {obj : Json} {r : Traffic.Report} {q : Request} (waits : Waits stack)
    (h : Matches settings w stack s) (request : r.request obj = some q) :
    ∃ s', Leads settings s s' ∧ Matches settings (w.submit q).world
      (((w.submit q).started.map World.Started.frame).toList ++ stack) s' := by
  have report : Leads settings s _ := .of_step (.submit (i := 0) (h.canReport waits) request)
  refine ⟨_, report, ?_⟩
  have table : (s.ledgers 0).submit q.key q.slot q.value = w.ledger.submit q.key q.slot q.value :=
    by rw [h.ledger]
  have ledger := s.ledgers_setLedger_self 0 (w.ledger.submit q.key q.slot q.value).2
  rw [World.submit_eq]
  split
  · rename_i marked
    rw [Traffic.State.submit_of_mem (h.ledger ▸ marked), table]
    exact ⟨h.settings, h.stands, ledger, h.carries⟩
  · rename_i unmarked
    rw [Traffic.State.submit_of_not_mem (h.ledger ▸ unmarked), table, h.settings,
      Traffic.State.launch]
    obtain ⟨frames, there⟩ := h.carries.getElem?
    split
    · rw [Traffic.State.threads_setLedger, there]
      exact ⟨h.settings, waits, ledger, h.carries.push rfl waits there⟩
    · refine ⟨h.settings, h.stands, ledger, ?_⟩
      have length : ((w.workers.create.2.enlist w.workers.create.1).start
          w.workers.create.1).statuses.length = w.workers.statuses.length + 1 := by
        simp [Workers.start, Workers.enlist, Workers.create]
      change Carries ((w.workers.create.2.enlist w.workers.create.1).start
        w.workers.create.1).statuses.length _ stack _
      rw [length]
      exact h.carries.create rfl

/-- A report that asks for nothing is matched by one. -/
lemma ignore {obj : Json} {r : Traffic.Report} (waits : Waits stack)
    (h : Matches settings w stack s) (request : r.request obj = none) :
    ∃ s', Leads settings s s' ∧ Matches settings w stack s' :=
  ⟨s, .of_step (.ignore (i := 0) (h.canReport waits) request), h⟩

/-- **A step of a rehearsal** is matched by steps of the traffic. -/
lemma perform {step : Step} {effect : World.Effect} (waits : Waits stack)
    (h : Matches settings w stack s) (performed : w.perform step = .ok effect) :
    ∃ s', Leads settings s s' ∧ Matches settings effect.world
      ((effect.started.map World.Started.frame).toList ++ stack) s' := by
  cases step with
  | controller source actor =>
      obtain ⟨obj, found, performed⟩ := bind_eq_ok performed
      obtain ⟨name, -, performed⟩ := bind_eq_ok performed
      have request : (Traffic.Report.controller name).request obj = Request.controller obj name :=
        if_pos (isObject_of_read found)
      cases asked : Request.controller obj name with
      | some q =>
          rw [asked] at performed request
          obtain rfl := Except.ok.inj performed
          exact h.submit waits request
      | none =>
          rw [asked] at performed request
          obtain rfl := Except.ok.inj performed
          obtain ⟨s', leads, h⟩ := h.ignore waits request
          exact ⟨s', leads, h.of_alike ⟨rfl, rfl, rfl, rfl⟩⟩
  | phase source phase =>
      obtain ⟨obj, found, performed⟩ := bind_eq_ok performed
      have request : (Traffic.Report.phase phase).request obj = Request.phase obj phase :=
        if_pos (isObject_of_read found)
      cases asked : Request.phase obj phase with
      | some q =>
          rw [asked] at performed request
          obtain rfl := Except.ok.inj performed
          exact h.submit waits request
      | none =>
          rw [asked] at performed request
          obtain rfl := Except.ok.inj performed
          exact h.ignore waits request
  | put obj =>
      obtain rfl := Except.ok.inj performed
      exact ⟨s, .refl s, h.of_alike ⟨rfl, rfl, rfl, rfl⟩⟩
  | remove key =>
      obtain rfl := Except.ok.inj performed
      exact ⟨s, .refl s, h.of_alike ⟨rfl, rfl, rfl, rfl⟩⟩
  | look key =>
      obtain rfl := Except.ok.inj performed
      exact ⟨s, .refl s, h⟩
  | waitIdle =>
      obtain rfl := Except.ok.inj performed
      exact ⟨s, .refl s, h.of_alike ⟨rfl, rfl, rfl, rfl⟩⟩
  | release key =>
      rw [World.perform] at performed
      split at performed
      · obtain rfl := Except.ok.inj performed
        exact ⟨s, .refl s, h⟩
      · rename_i d found
        obtain rfl := Except.ok.inj performed
        have mem := List.mem_of_find?_eq_some found
        exact ⟨s, .refl s, h.settings, waits, h.ledger, h.carries.release mem⟩

/-! ### Small steps -/

/-- The flush on top asks the table for a batch. -/
lemma drain (h : Matches settings w (.flush f worker :: below) s) (stage : f.stage = .draining) :
    ∃ s', Leads settings s s' ∧
      Matches settings { w with ledger := (w.ledger.take f.key).2 }
        (.flush { f with stage := Flush.afterTake w.settings (w.ledger.take f.key).1 } worker ::
          below) s' := by
  have alive : isOver f = false := by rw [isOver, stage]
  obtain ⟨copy, rest, top⟩ := h.carries.top alive
  have ledger := s.ledgers_setLedger_self 0 (w.ledger.take f.key).2
  cases taken : (w.ledger.take f.key).1 with
  | some batch =>
      have step : Leads settings s _ := .of_step
        (.take top rfl stage (by rw [← taken, ← h.ledger]))
      rw [h.ledger] at step
      refine ⟨_, step, h.settings, h.stands, ledger, ?_⟩
      rw [← h.settings]
      exact h.carries.replace alive rfl top
  | none =>
      have step : Leads settings s _ := .of_step
        (.drain top rfl stage (by rw [← taken, ← h.ledger]))
      rw [h.ledger] at step
      exact ⟨_, step, h.settings, h.stands, ledger,
        (h.carries.pop alive top).to_over rfl fun k same => h.carries.known f k (by simp [same])⟩

/-- The flush on top takes a small step. -/
lemma tickFlush (h : Matches settings w (.flush f worker :: below) s) :
    ∃ s', Leads settings s s' ∧ Matches settings (Machine.tickFlush w f worker below).world
      (Machine.tickFlush w f worker below).frames s' := by
  rw [Machine.tickFlush]
  split
  · rename_i stage
    exact h.drain stage
  · rename_i a stage
    refine ⟨s, .refl s, h.settings, .above _ _ ?_ h.stands, h.ledger, h.carries.call⟩
    rw [isCalling, stage]
  · rename_i a body stage
    refine ⟨s, .refl s, h.settings, .above _ _ ?_ h.stands, h.ledger, h.carries.call⟩
    rw [isCalling, stage]
  · rename_i a stage
    obtain ⟨s', leads, h⟩ := h.proceed (Flush.afterPause w.settings a, [])
      (by rw [isOver, stage]) rfl fun copy => ⟨.pause, copy, .pause stage⟩
    exact ⟨s', leads, h.of_alike ⟨rfl, rfl, rfl, rfl⟩⟩
  · rename_i stage
    have ended : Matches settings w below s :=
      ⟨h.settings, Waits.stands h.stands, h.ledger, h.carries.of_over (by rw [isOver, stage])⟩
    exact ⟨s, .refl s, ended.of_alike (alike_finish w worker)⟩

/-- **A small step of the machine** is matched by steps of the traffic. -/
theorem tick {m : Machine} {s : Traffic.State} (h : Matches settings m.world m.frames s) :
    ∃ s', Leads settings s s' ∧ Matches settings m.tick.world m.tick.frames s' := by
  obtain ⟨w, frames, failure⟩ := m
  cases frames with
  | nil => exact ⟨s, .refl s, h⟩
  | cons frame below =>
      cases frame with
      | flush f worker => exact h.tickFlush
      | call steps fault =>
          have waits : Waits (.call steps fault :: below) := h.stands
          have down (e : Failure) := unwind e waits h
          cases steps with
          | cons step rest =>
              rw [Machine.tick]
              dsimp only
              cases performed : w.perform step with
              | error e => exact down e
              | ok effect =>
                  have waits := waits.call rest fault
                  have h : Matches settings w (.call rest fault :: below) s :=
                    ⟨h.settings, waits.stands, h.ledger, h.carries.of_call.call⟩
                  exact h.perform waits performed
          | nil =>
              cases fault with
              | some fault => exact down (.fault fault)
              | none =>
                  cases waits with
                  | bottom =>
                      exact ⟨s, .refl s, h.settings, .nil, h.ledger, h.carries.of_call⟩
                  | @above f worker below _ _ calling waits =>
                      have h : Matches settings w (.flush f worker :: below) s :=
                        ⟨h.settings, waits, h.ledger, h.carries.of_call⟩
                      exact h.complete calling

end Matches

/-! ### Rehearsals -/

/-- The machines that come up in a rehearsal: small steps are made, and on an empty stack a step
is taken, or the record is cleared. -/
inductive Reachable (w : World) : Machine → Prop
  | start : Reachable w { world := w, frames := [], failure := none }
  | tick {m : Machine} (reach : Reachable w m) : Reachable w m.tick
  | take {m : Machine} {step : Step} {effect : World.Effect} (reach : Reachable w m)
      (rest : m.frames = []) (performed : m.world.perform step = .ok effect) :
      Reachable w
        { world := effect.world
          frames := (effect.started.map World.Started.frame).toList
          failure := none }
  | clear {m : Machine} (reach : Reachable w m) (rest : m.frames = []) :
      Reachable w { world := m.world.cleared, frames := [], failure := none }

/-- Any number of small steps is made. -/
lemma Reachable.runFor {w : World} {m : Machine} (reach : Reachable w m) (fuel : Nat) :
    Reachable w (Machine.runFor fuel m) := by
  induction fuel generalizing m with
  | zero => exact reach
  | succ fuel ih =>
      rw [Machine.runFor]
      split
      · exact reach
      · exact ih reach.tick

/-- At the start of a rehearsal one thread has nothing to do. -/
lemma matches_start (settings : Settings) (chance : Float) (store : Store)
    (readCues writeCues : List Cue) :
    Matches (fun _ => settings) (.start settings chance store readCues writeCues) []
      (.start 1) where
  settings := rfl
  stands := .nil
  ledger := rfl
  carries := by
    refine ⟨rfl, fun i frames there => ?_, fun i frames there => ?_, by simp, .nil,
      by simp [World.start], by simp [World.start]⟩
    · obtain rfl := List.mem_singleton.mp (List.mem_of_getElem? there)
      rfl
    · obtain rfl := List.mem_singleton.mp (List.mem_of_getElem? there)
      simp

/-- **Every rehearsal is a run of the traffic** of one thread and of the workers that it
creates. -/
theorem Reachable.run {settings : Settings} {chance : Float} {store : Store}
    {readCues writeCues : List Cue} {m : Machine}
    (reach : Reachable (.start settings chance store readCues writeCues) m) :
    ∃ events s, Traffic.Run (fun _ => settings) (.start 1) events s ∧
      Matches (fun _ => settings) m.world m.frames s := by
  have led : ∃ s, Leads (fun _ => settings) (.start 1) s ∧
      Matches (fun _ => settings) m.world m.frames s := by
    induction reach with
    | start => exact ⟨_, .refl _, matches_start settings chance store readCues writeCues⟩
    | tick reach ih =>
        obtain ⟨s, leads, h⟩ := ih
        obtain ⟨s', leads', h⟩ := h.tick
        exact ⟨s', leads.trans leads', h⟩
    | take reach rest performed ih =>
        obtain ⟨s, leads, h⟩ := ih
        rw [rest] at h
        obtain ⟨s', leads', h⟩ := h.perform .nil performed
        rw [List.append_nil] at h
        exact ⟨s', leads.trans leads', h⟩
    | clear reach rest ih =>
        obtain ⟨s, leads, h⟩ := ih
        rw [rest] at h
        exact ⟨s, leads, h.of_alike ⟨rfl, rfl, rfl, rfl⟩⟩
  obtain ⟨s, ⟨events, run⟩, h⟩ := led
  exact ⟨events, s, run, h⟩

/-- **Marks in a rehearsal**: a key is marked exactly as long as a flush for it is on the stack
and not over, or waits for its delay. -/
theorem Reachable.marked_iff {settings : Settings} {chance : Float} {store : Store}
    {readCues writeCues : List Cue} {m : Machine}
    (reach : Reachable (.start settings chance store readCues writeCues) m) (key : String) :
    key ∈ m.world.ledger.active ↔
      ∃ f : Flush, f.key = key ∧ ((isOver f = false ∧ ∃ worker, Frame.flush f worker ∈ m.frames) ∨
        ∃ d ∈ m.world.delayed, d.flush = f) := by
  obtain ⟨events, s, run, h⟩ := reach.run
  have count := run.marksFlushes 0 key
  rw [h.ledger] at count
  have marked : key ∈ m.world.ledger.active ↔ 0 < s.flushes 0 key := by
    rw [count]
    split <;> simp_all
  rw [marked, Traffic.State.flushes, Multiset.countP_pos]
  constructor
  · rintro ⟨g, mem, -, same⟩
    obtain ⟨frames, inside, mem⟩ := List.mem_flatten.mp mem
    exact ⟨g.flush, same, (h.carries.exists_mem_iff _).mp ⟨frames, inside, g, mem, rfl⟩⟩
  · rintro ⟨f, same, somewhere⟩
    obtain ⟨frames, inside, g, mem, rfl⟩ := (h.carries.exists_mem_iff f).mpr somewhere
    obtain ⟨i, there⟩ := List.mem_iff_getElem?.mp inside
    exact ⟨g, List.mem_flatten.mpr ⟨frames, inside, mem⟩,
      (h.carries.plain i frames there g mem).1, same⟩

end Driftwatch.Rehearsal
