/-
What there is to do on one object, as long as nobody disturbs the ledger.

* `Desk`: what is stored, what waits, and where the flush stands, if one is under way.
* `Desk.Step`, `Desk.Run`: what can be done there.
* `World.Undisturbed`: nobody else writes, no call of the server fails, and reports are made to one
  ledger and on one object only.
* `World.Shows`: a world shows a desk; every undisturbed step is one at the desk.
* `Desk.Accounts`: what is stored, with the batch under way and the one that waits, makes a record;
  every step at the desk adds to the record what it asks for.
* `Desk.Run.calls_le`: the object is read and written once for each batch.
-/
import Driftwatch.Proofs.Record
import Driftwatch.Proofs.Traffic.Phases
import Driftwatch.Proofs.Traffic.Targets
import Driftwatch.Rehearsal.World

namespace Driftwatch

namespace Ledger

/-- What is taken was there, and was something. -/
lemma batch?_of_take {l : Ledger} {key : String} {batch : Batch}
    (h : (l.take key).1 = some batch) : l.batch? key = some batch ∧ batch ≠ [] := by
  rw [take] at h
  split at h
  · rename_i p rest found
    obtain rfl := Option.some.inj h
    exact ⟨found, List.cons_ne_nil p rest⟩
  · simp at h

/-- Nothing is taken exactly if nothing waits. -/
lemma take_eq_none_iff {l : Ledger} {key : String} :
    (l.take key).1 = none ↔ (l.batch? key).getD [] = [] := by
  rw [take]
  rcases h : l.batch? key with _ | _ | ⟨p, rest⟩ <;> simp

end Ledger

namespace Traffic

variable {settings : Nat → Settings}

/-! ### Desks -/

/-- What there is to do on one object: the object that is stored, the values that wait, and the
stage of the flush that is under way for it, if there is one. -/
structure Desk where
  stored : Json
  pending : Batch
  stage : Option Flush.Stage

/-- What an event asks for. -/
def World.Event.request? : World.Event → Option Request
  | .inner (.report _ _ obj r) => r.request obj
  | _ => none

namespace Desk

/-- What can be done on one object with a key. -/
inductive Step (settings : Settings) (key : String) : Desk → World.Event → Desk → Prop
  /-- What is reported asks for nothing. -/
  | ignore {d : Desk} {i t : Nat} {obj : Json} {r : Report} (request : r.request obj = none) :
      Step settings key d (.inner (.report i t obj r)) d
  /-- What is reported waits, and a flush is under way then. -/
  | ask {d : Desk} {i t : Nat} {obj : Json} {r : Report} {q : Request}
      (request : r.request obj = some q) :
      Step settings key d (.inner (.report i t obj r))
        { d with pending := d.pending.add q.slot q.value
                 stage := some (d.stage.getD .draining) }
  /-- The flush takes what waits. -/
  | take {d : Desk} {t : Nat} {f : Frame} (stage : d.stage = some .draining)
      (waits : d.pending ≠ []) :
      Step settings key d (.inner (.flush t f (.take (some d.pending))))
        { d with pending := [], stage := some (Flush.afterTake settings (some d.pending)) }
  /-- Nothing waits, and the flush ends. -/
  | drain {d : Desk} {t : Nat} {f : Frame} (stage : d.stage = some .draining)
      (none : d.pending = []) :
      Step settings key d (.inner (.flush t f (.take .none)))
        { d with pending := [], stage := .none }
  /-- The flush reads what is stored. -/
  | read {d : Desk} {t : Nat} {f : Frame} {a : Attempt}
      {answer : Except Failure (Option Json)} (stage : d.stage = some (.reading a)) :
      Step settings key d (.inner (.flush t f (.read answer)))
        { d with stage := some (Flush.afterRead settings key a (.ok (some d.stored))).1 }
  /-- The server accepts what the flush writes. -/
  | accept {d : Desk} {f : Frame} {a : Attempt} {body : Json} {version : String}
      (stage : d.stage = some (.writing a body))
      (folded : Merge.apply settings.maxFingerprints d.stored a.batch = .ok (some body)) :
      Step settings key d (.accept f body version)
        { d with stored := Store.withVersion body version }
  /-- The write is answered after it was accepted. -/
  | write {d : Desk} {t : Nat} {f : Frame} {a : Attempt} {body : Json} {version : String}
      {answer : Except Failure Unit} (stage : d.stage = some (.writing a body))
      (accepted : d.stored = Store.withVersion body version) :
      Step settings key d (.inner (.flush t f (.write body answer)))
        { d with stage := some .draining }
  /-- The flush waits before the next attempt. -/
  | pause {d : Desk} {t : Nat} {f : Frame} {a : Attempt} (stage : d.stage = some (.pausing a)) :
      Step settings key d (.inner (.flush t f .pause))
        { d with stage := some (Flush.afterPause settings a) }

/-- Any number of steps, with what was done in them, in order. -/
inductive Run (settings : Settings) (key : String) (d : Desk) : List World.Event → Desk → Prop
  | nil : Run settings key d [] d
  | snoc {events : List World.Event} {d' d'' : Desk} {e : World.Event}
      (run : Run settings key d events d') (step : Step settings key d' e d'') :
      Run settings key d (events ++ [e]) d''

end Desk

/-! ### What a world shows -/

namespace World

/-- The key under which the object of a place is stored. -/
abbrev placeKey (target : Target) : String :=
  Rehearsal.World.storeKey target

/-- Nobody else writes, reads find what is stored, writes are answered after they were accepted,
and reports are made to one ledger and on one object. -/
def Undisturbed (i : Nat) (parent : Json) (w : World) : Event → Prop
  | .inner (.report j _ obj _) => j = i ∧ Target.of obj = Target.of parent
  | .inner (.flush _ f (.read answer)) =>
    answer = .ok (w.server.store.get? (placeKey f.flush.target))
  | .inner (.flush _ _ (.write body answer)) =>
    answer = .ok () ∧ ∃ version,
      w.server.store.get? (Store.keyOf body) = some (Store.withVersion body version)
  | .write _ | .remove _ => False
  | _ => True

/-- A flush works for an object in a ledger, and is not being interrupted. -/
structure IsFor (i : Nat) (parent : Json) (f : Frame) : Prop where
  ledger : f.ledger = i
  key : f.flush.key = Object.key parent
  target : f.flush.target = Target.of parent
  calm : f.interrupt = none

/-- No flush is under way, or one for the object, which stands at a stage. -/
inductive UnderWay (i : Nat) (parent : Json) : Multiset Frame → Option Flush.Stage → Prop
  | none : UnderWay i parent 0 none
  | one {f : Frame} (works : IsFor i parent f) : UnderWay i parent {f} (some f.flush.stage)

/-- A world shows what there is to do on an object in a ledger. -/
structure Shows (i : Nat) (parent : Json) (w : World) (d : Desk) : Prop where
  found : w.server.store.get? (placeKey (Target.of parent)) = some d.stored
  pending : ((w.traffic.ledgers i).batch? (Object.key parent)).getD [] = d.pending
  flushes : UnderWay i parent w.traffic.frames d.stage

/-- Copies have the keys of the places that they were read from. -/
lemma Reachable.keyOf_copy {w : World} (reach : Reachable settings w) :
    ∀ f ∈ w.traffic.frames, ∀ copy, f.copy = some copy →
      Store.keyOf copy = placeKey f.flush.target := by
  induction reach with
  | start n =>
      intro f hf
      exact absurd hf (by rw [World.start, State.frames_start]; exact Multiset.notMem_zero f)
  | step reach step ih =>
      cases step with
      | inner step answer =>
          refine step.effect.forall_copies
            (P := fun target copy => Store.keyOf copy = placeKey target) ih ?_
          rintro t f obj rfl
          exact answer.2
      | accept frame stage accepts new => exact ih
      | write new => exact ih
      | remove key => exact ih

/-- What a flush writes has the key of the place that it works for. -/
lemma Reachable.keyOf_body {w : World} (reach : Reachable settings w) {f : Frame}
    (frame : f ∈ w.traffic.frames) {a : Attempt} {body : Json}
    (stage : f.flush.stage = .writing a body) :
    Store.keyOf body = placeKey f.flush.target := by
  obtain ⟨n, events, run⟩ := reach.run
  obtain ⟨copy, holds, merged⟩ := run.writesMerge f frame a body stage
  rw [(Merge.keeps_apply merged).keyOf, reach.keyOf_copy f frame copy holds]

variable {i : Nat} {parent : Json}

/-- Reports on an object go under its key. -/
lemma key_of_request {obj : Json} {r : Report} {q : Request} (request : r.request obj = some q)
    (place : Target.of obj = Target.of parent) :
    q.key = Object.key parent ∧ q.target = Target.of parent := by
  obtain ⟨key, target⟩ := Report.origin_of_request request
  exact ⟨key.trans (Object.key_eq_of_target place), target.trans place⟩

lemma IsFor.proceed {f : Frame} (h : IsFor i parent f) (stage : Flush.Stage) :
    IsFor i parent (f.proceed stage) :=
  ⟨h.ledger, h.key, h.target, h.calm⟩

namespace UnderWay

/-- A flush that is under way is the one for the object. -/
lemma of_cons {f : Frame} {frames rest : Multiset Frame} {stage : Option Flush.Stage}
    (h : UnderWay i parent frames stage) (split : frames = f ::ₘ rest) :
    rest = 0 ∧ IsFor i parent f ∧ stage = some f.flush.stage := by
  cases h with
  | none => exact absurd split Multiset.zero_ne_cons
  | one works =>
      obtain ⟨rfl, none⟩ := (Multiset.singleton_eq_cons_iff rest).mp split
      exact ⟨none, works, rfl⟩

/-- No flush is under way if none stands anywhere. -/
lemma eq_zero {frames : Multiset Frame} {stage : Option Flush.Stage}
    (h : UnderWay i parent frames stage) (idle : stage = .none) : frames = 0 := by
  cases h with
  | none => rfl
  | one works => simp at idle

/-- The key is marked exactly as long as a flush is under way. -/
lemma marked_iff {s : State} {stage : Option Flush.Stage} (h : UnderWay i parent s.frames stage)
    (marks : s.MarksFlushes) :
    Object.key parent ∈ (s.ledgers i).active ↔ stage.isSome = true := by
  have count := marks i (Object.key parent)
  rw [State.flushes] at count
  generalize s.frames = frames at h count
  cases h with
  | none =>
      rw [Multiset.countP_zero] at count
      split at count
      · simp at count
      · simpa
  | @one f works =>
      rw [← Multiset.cons_zero, Multiset.countP_cons, Multiset.countP_zero,
        if_pos ⟨works.ledger, works.key⟩] at count
      split at count
      · simpa
      · simp at count

end UnderWay

/-- What is asked for waits, and a flush is under way then. -/
lemma Shows.ask {w w' : World} {d : Desk} (h : w.Shows i parent d) {q : Request}
    (key : q.key = Object.key parent) (server : w'.server = w.server)
    (ledgers : w'.traffic.ledgers = Function.update w.traffic.ledgers i
      ((w.traffic.ledgers i).submit q.key q.slot q.value).2)
    (flushes : UnderWay i parent w'.traffic.frames (some (d.stage.getD .draining))) :
    w'.Shows i parent { d with pending := d.pending.add q.slot q.value
                               stage := some (d.stage.getD .draining) } where
  found := by
    rw [server]
    exact h.found
  pending := by
    rw [ledgers, Function.update_self, Ledger.batch?_submit, key, if_pos rfl, Option.getD_some,
      h.pending]
  flushes := flushes

/-- Nothing waits any more after a batch was asked for. -/
lemma Shows.take {w : World} {d : Desk} (h : w.Shows i parent d) {f : Frame}
    (works : IsFor i parent f) {s : State}
    (ledgers : s.ledgers = Function.update w.traffic.ledgers f.ledger
      ((w.traffic.ledgers f.ledger).take f.flush.key).2) {stage : Option Flush.Stage}
    (flushes : UnderWay i parent s.frames stage) :
    Shows i parent { w with traffic := s } { d with pending := [], stage } where
  found := h.found
  pending := by
    rw [ledgers, works.ledger, works.key, Function.update_self, Ledger.batch?_take, if_pos rfl]
    rfl
  flushes := flushes

/-- The flush goes on to a stage. -/
lemma Shows.move {w : World} {d : Desk} (h : w.Shows i parent d) {f : Frame}
    (works : IsFor i parent f) {s : State} (ledgers : s.ledgers = w.traffic.ledgers)
    {stage : Flush.Stage} (same : f.flush.stage = stage) (frames : s.frames = {f}) :
    Shows i parent { w with traffic := s } { d with stage := some stage } where
  found := h.found
  pending := by
    rw [ledgers]
    exact h.pending
  flushes := by
    rw [frames, ← same]
    exact .one works

/-- Every undisturbed step of a thread is one at the desk. -/
lemma Shows.inner {w : World} {s : State} {e : Traffic.Event} {d : Desk}
    (h : w.Shows i parent d) (reach : Reachable settings w)
    (effect : Effect settings w.traffic s e) (calm : Undisturbed i parent w (.inner e)) :
    ∃ d', Desk.Step (settings i) (Object.key parent) d (.inner e) d' ∧
      Shows i parent { w with traffic := s } d' := by
  obtain ⟨n, events, run⟩ := reach.run
  have marked := h.flushes.marked_iff run.marksFlushes
  cases effect with
  | ignore request ledgers frames =>
      refine ⟨d, .ignore request, h.found, ?_, ?_⟩
      · rw [ledgers]
        exact h.pending
      · rw [frames]
        exact h.flushes
  | join request mark ledgers frames =>
      obtain ⟨rfl, place⟩ := calm
      obtain ⟨key, -⟩ := key_of_request request place
      obtain ⟨stage, standing⟩ := Option.isSome_iff_exists.mp (marked.mp (key ▸ mark))
      refine ⟨_, .ask request, h.ask key rfl ledgers ?_⟩
      rw [frames, standing, Option.getD_some, ← standing]
      exact h.flushes
  | launch request unmarked ledgers frames =>
      obtain ⟨rfl, place⟩ := calm
      obtain ⟨key, target⟩ := key_of_request request place
      have idle : d.stage = none := by
        rw [← Option.not_isSome_iff_eq_none]
        exact fun standing => unmarked (key ▸ marked.mpr standing)
      refine ⟨_, .ask request, h.ask key rfl ledgers ?_⟩
      have none : w.traffic.frames = 0 := h.flushes.eq_zero idle
      rw [frames, none, idle]
      exact .one ⟨rfl, key, target, rfl⟩
  | @take t f batch rest still stage taken ledgers before after =>
      obtain ⟨rfl, works, standing⟩ := h.flushes.of_cons before
      rw [works.ledger, works.key] at taken
      obtain ⟨found, some⟩ := Ledger.batch?_of_take taken
      obtain rfl : d.pending = batch := by rw [← h.pending, found, Option.getD_some]
      refine ⟨_, .take (standing.trans (congrArg _ stage)) some, h.take works ledgers ?_⟩
      rw [after, works.ledger]
      exact .one (works.proceed _)
  | drain still stage taken ledgers frames =>
      obtain ⟨none, works, standing⟩ := h.flushes.of_cons frames
      rw [works.ledger, works.key, Ledger.take_eq_none_iff, h.pending] at taken
      refine ⟨_, .drain (standing.trans (congrArg _ stage)) taken, h.take works ledgers ?_⟩
      rw [none]
      exact .none
  | @move t f f' act rest still move ledgers before after =>
      obtain ⟨rfl, works, standing⟩ := h.flushes.of_cons before
      rw [works.ledger] at move
      cases move with
      | @read a answer stage =>
          obtain rfl : answer = .ok (some d.stored) := by
            rw [← h.found, ← works.target]
            exact calm
          refine ⟨_, .read (standing.trans (congrArg _ stage)), ?_⟩
          rw [← works.key]
          exact h.move (f := f.afterRead (settings i) a (.ok (some d.stored)))
            ⟨works.ledger, works.key, works.target, works.calm⟩ ledgers rfl after
      | @write a body answer stage =>
          obtain ⟨rfl, version, accepted⟩ := calm
          rw [reach.keyOf_body (by simp [before]) stage, works.target, h.found] at accepted
          exact ⟨_, .write (standing.trans (congrArg _ stage)) (Option.some.inj accepted),
            h.move (works.proceed _) ledgers rfl after⟩
      | @pause a stage =>
          exact ⟨_, .pause (standing.trans (congrArg _ stage)),
            h.move (works.proceed _) ledgers rfl after⟩
  | unwind raised ledgers frames =>
      obtain ⟨-, works, -⟩ := h.flushes.of_cons frames
      rw [works.calm] at raised
      simp at raised

/-- **One step at the desk.**  Every undisturbed step is one. -/
lemma Step.shows {w w' : World} {e : Event} {d : Desk} (step : Step settings w e w')
    (reach : Reachable settings w) (calm : Undisturbed i parent w e) (h : w.Shows i parent d) :
    ∃ d', Desk.Step (settings i) (Object.key parent) d e d' ∧ w'.Shows i parent d' := by
  cases step with
  | inner step answer => exact h.inner reach step.effect calm
  | @accept f a body version frame stage accepts new =>
      obtain ⟨rest, split⟩ := Multiset.exists_cons_of_mem frame
      obtain ⟨-, works, standing⟩ := h.flushes.of_cons split
      obtain ⟨stored, found, -, folded⟩ := reach.exists_apply frame stage accepts
      have here : Store.keyOf body = placeKey (Target.of parent) := by
        rw [reach.keyOf_body frame stage, works.target]
      obtain rfl : stored = d.stored := by
        rw [here, h.found] at found
        exact (Option.some.inj found).symm
      rw [works.ledger] at folded
      refine ⟨_, .accept (standing.trans (congrArg _ stage)) folded, ?_, h.pending, h.flushes⟩
      rw [Server.keep, Store.get?_insert, (Merge.keeps_withVersion body version).keyOf,
        if_pos here]
  | write new => exact calm.elim
  | remove key => exact calm.elim

end World

/-! ### What is recorded -/

/-- The record with what an event asks for. -/
def World.Event.addTo (r : Record) (e : World.Event) : Record :=
  e.request?.elim r fun q => r.add q.slot q.value

lemma World.Event.length_le_addTo (r : Record) (e : World.Event) :
    r.roster.length ≤ (e.addTo r).roster.length := by
  rw [addTo]
  cases e.request? with
  | none => exact le_rfl
  | some q => exact r.length_le_add q.slot q.value

namespace Desk

variable {early : String} {d d' : Desk} {e : World.Event} {total : Record} {key : String}

/-- The batch that the flush is busy with. -/
def batch (d : Desk) : Batch :=
  match d.stage with
  | some (.reading a) | some (.writing a _) | some (.pausing a) => a.batch
  | some .draining | some .ended | none => []

/-- What is stored, with the batch under way and the one that waits, makes a record; and nothing is
in the way of writing them. -/
structure Accounts (early : String) (d : Desk) (total : Record) : Prop where
  same : ((Record.of d.stored).merge d.batch).merge d.pending = total
  annotatable : Merge.IsAnnotatable d.stored
  pending : d.pending.IsPlain early
  batch : d.batch.IsPlain early
  written : ∀ a body, d.stage = some (.writing a body) →
    Merge.IsAnnotatable body ∧ (Record.of body).merge a.batch = Record.of body
  idle : d.stage = none → d.pending = []
  steady : ∀ a, d.stage ≠ some (.pausing a)

/-- There is room for the batch under way if there is room for the whole record. -/
lemma Accounts.length_le (h : d.Accounts early total) {limit : Int}
    (room : (total.roster.length : Int) ≤ limit) :
    (((Record.of d.stored).merge d.batch).roster.length : Int) ≤ limit := by
  have fewer := ((Record.of d.stored).merge d.batch).length_le_merge d.pending
  rw [h.same] at fewer
  omega

/-- What a flush that reads goes on to. -/
lemma Accounts.afterRead {settings : Settings} (h : d.Accounts early total) {a : Attempt}
    (stage : d.stage = some (.reading a))
    (room : (total.roster.length : Int) ≤ settings.maxFingerprints) (key : String) :
    ((Flush.afterRead settings key a (.ok (some d.stored))).1 = .draining ∧
        (Record.of d.stored).merge a.batch = Record.of d.stored) ∨
      ∃ body, (Flush.afterRead settings key a (.ok (some d.stored))).1 = .writing a body ∧
        Record.of body = (Record.of d.stored).merge a.batch ∧ Merge.IsAnnotatable body := by
  have batch : d.batch = a.batch := by rw [Desk.batch, stage]
  have fits := h.length_le room
  have plain := h.batch
  rw [batch] at fits plain
  rcases Record.of_apply h.annotatable plain fits with
    ⟨skipped, same⟩ | ⟨body, folded, same, annotatable⟩
  · exact .inl ⟨by rw [Flush.afterRead, skipped], same⟩
  · exact .inr ⟨body, by rw [Flush.afterRead, folded], same, annotatable⟩

/-- **What is recorded, one step.**  A step adds to the record what it asks for. -/
lemma Step.accounts {settings : Settings} (step : Step settings key d e d')
    (h : d.Accounts early total)
    (admits : ∀ q, e.request? = some q → Slot.Admits early q.slot q.value)
    (room : (total.roster.length : Int) ≤ settings.maxFingerprints) :
    d'.Accounts early (e.addTo total) := by
  cases step with
  | @ignore i t obj r request =>
      rw [World.Event.addTo, World.Event.request?, request]
      exact h
  | @ask i t obj r q request =>
      have asked : (World.Event.inner (.report i t obj r)).request? = some q := request
      have batch : Desk.batch { d with pending := d.pending.add q.slot q.value
                                       stage := some (d.stage.getD .draining) } = d.batch := by
        rw [Desk.batch, Desk.batch]
        cases d.stage <;> rfl
      rw [World.Event.addTo, asked, Option.elim_some]
      refine ⟨?_, h.annotatable, h.pending.add (admits q asked), batch ▸ h.batch,
        fun a body writing => ?_, by simp, fun a pausing => ?_⟩
      · rw [batch, Record.merge_add _ h.pending, h.same]
      · cases standing : d.stage with
        | none => simp [standing] at writing
        | some stage => exact h.written a body (by simpa [standing] using writing)
      · cases standing : d.stage with
        | none => simp [standing] at pausing
        | some stage => exact h.steady a (by simpa [standing] using pausing)
  | take stage waits =>
      have same := h.same
      rw [batch, stage] at same
      exact ⟨same, h.annotatable, Batch.isPlain_nil early, h.pending, by simp [Flush.afterTake],
        by simp, by simp [Flush.afterTake]⟩
  | drain stage none =>
      have same := h.same
      rw [batch, stage, none] at same
      exact ⟨same, h.annotatable, Batch.isPlain_nil early, Batch.isPlain_nil early, by simp,
        by simp, by simp⟩
  | @read t f a answer stage =>
      have same := h.same
      have plain := h.batch
      rw [batch, stage] at same plain
      rcases h.afterRead stage room key with ⟨next, nothing⟩ | ⟨body, next, folded, annotatable⟩
      · rw [next]
        dsimp only at same
        rw [nothing] at same
        exact ⟨same, h.annotatable, h.pending, Batch.isPlain_nil early, by simp, by simp, by simp⟩
      · rw [next]
        refine ⟨same, h.annotatable, h.pending, plain, fun a' body' writing => ?_, by simp,
          by simp⟩
        obtain ⟨rfl, rfl⟩ := by simpa using writing
        exact ⟨annotatable, by rw [folded, Record.merge_merge _ plain]⟩
  | @accept f a body version stage folded =>
      have same := h.same
      have plain := h.batch
      have fits := h.length_le room
      rw [batch, stage] at same plain fits
      obtain ⟨annotatable, recorded⟩ := h.written a body stage
      -- the batch is in what is stored now, and it still is the one under way
      refine ⟨?_, annotatable.withVersion version, h.pending, h.batch, h.written, h.idle, h.steady⟩
      rw [batch, stage]
      dsimp only at same plain fits ⊢
      rw [Record.of_withVersion, recorded, Record.of_folded h.annotatable plain fits folded, same]
      rfl
  | @write t f a body version answer stage accepted =>
      have same := h.same
      rw [batch, stage] at same
      dsimp only at same
      rw [accepted, Record.of_withVersion, (h.written a body stage).2] at same
      refine ⟨?_, h.annotatable, h.pending, Batch.isPlain_nil early, by simp, by simp, by simp⟩
      rw [accepted, Record.of_withVersion]
      exact same
  | pause stage => exact absurd stage (h.steady _)

/-- The record with all that events ask for. -/
def recorded (r : Record) (events : List World.Event) : Record :=
  events.foldl (fun r e => e.addTo r) r

lemma recorded_concat (r : Record) (events : List World.Event) (e : World.Event) :
    recorded r (events ++ [e]) = e.addTo (recorded r events) := by
  rw [recorded, List.foldl_append]
  rfl

/-- A run in which nothing is asked for adds nothing. -/
lemma recorded_of_quiet (r : Record) {events : List World.Event}
    (quiet : ∀ e ∈ events, e.request? = none) : recorded r events = r := by
  induction events with
  | nil => rfl
  | cons e rest ih =>
      rw [recorded, List.foldl_cons, ← recorded, World.Event.addTo, quiet e (by simp),
        Option.elim_none, ih fun e he => quiet e (by simp [he])]

/-- **What is recorded**, after every run. -/
lemma Run.accounts {settings : Settings} {events : List World.Event}
    (run : Run settings key d events d') (h : d.Accounts early total)
    (admits : ∀ e ∈ events, ∀ q, e.request? = some q → Slot.Admits early q.slot q.value)
    (room : ((recorded total events).roster.length : Int) ≤ settings.maxFingerprints) :
    d'.Accounts early (recorded total events) := by
  induction run with
  | nil => exact h
  | @snoc events d' d'' e run step ih =>
      rw [recorded_concat] at room ⊢
      have fewer := e.length_le_addTo (recorded total events)
      exact step.accounts (ih (fun e he => admits e (by simp [he])) (by omega))
        (admits e (by simp)) (by omega)

/-! ### Calls -/

/-- How many reads there are yet to be, if nothing more is asked for. -/
def readsLeft (d : Desk) : Nat :=
  (if d.pending = [] then 0 else 1) +
    match d.stage with
    | some (.reading _) => 1
    | _ => 0

/-- How many writes there are yet to be at most, if nothing more is asked for. -/
def writesLeft (d : Desk) : Nat :=
  (if d.pending = [] then 0 else 1) +
    match d.stage with
    | some (.reading _) | some (.writing _ _) => 1
    | _ => 0

end Desk

/-- A call that reads is answered. -/
def World.Event.isRead : World.Event → Bool
  | .inner (.flush _ _ (.read _)) => true
  | _ => false

/-- A call that writes is answered. -/
def World.Event.isWrite : World.Event → Bool
  | .inner (.flush _ _ (.write _ _)) => true
  | _ => false

namespace Desk

variable {early : String} {d d' : Desk} {e : World.Event} {total : Record} {key : String}

/-- **Calls, one step.**  No step leads back to a call. -/
lemma Step.calls_le {settings : Settings} (step : Step settings key d e d')
    (h : d.Accounts early total) (quiet : e.request? = none)
    (room : (total.roster.length : Int) ≤ settings.maxFingerprints) :
    (if e.isRead then 1 else 0) + d'.readsLeft ≤ d.readsLeft ∧
      (if e.isWrite then 1 else 0) + d'.writesLeft ≤ d.writesLeft := by
  cases step with
  | ignore request => exact ⟨(Nat.zero_add _).le, (Nat.zero_add _).le⟩
  | ask request =>
      change _ = none at quiet
      rw [World.Event.request?, request] at quiet
      simp at quiet
  | take stage waits =>
      simp [readsLeft, writesLeft, stage, waits, Flush.afterTake, World.Event.isRead,
        World.Event.isWrite]
  | drain stage none =>
      simp [readsLeft, writesLeft, World.Event.isRead, World.Event.isWrite]
  | read stage =>
      rcases h.afterRead stage room key with ⟨next, -⟩ | ⟨body, next, -⟩ <;>
        simp [readsLeft, writesLeft, stage, next, World.Event.isRead, World.Event.isWrite] <;>
        omega
  | accept stage folded => exact ⟨(Nat.zero_add _).le, (Nat.zero_add _).le⟩
  | write stage accepted =>
      simp [readsLeft, writesLeft, stage, World.Event.isRead, World.Event.isWrite]
      omega
  | pause stage => exact absurd stage (h.steady _)

/-- **Calls**, in a run in which nothing more is asked for. -/
lemma Run.calls_le {settings : Settings} {events : List World.Event}
    (run : Run settings key d events d') (h : d.Accounts early total)
    (quiet : ∀ e ∈ events, e.request? = none)
    (room : (total.roster.length : Int) ≤ settings.maxFingerprints) :
    events.countP World.Event.isRead + d'.readsLeft ≤ d.readsLeft ∧
      events.countP World.Event.isWrite + d'.writesLeft ≤ d.writesLeft := by
  induction run with
  | nil => exact ⟨(Nat.zero_add _).le, (Nat.zero_add _).le⟩
  | @snoc events d' d'' e run step ih =>
      have quiet' : ∀ e ∈ events, e.request? = none := fun e he => quiet e (by simp [he])
      have nothing := recorded_of_quiet total quiet'
      have accounts := run.accounts h (fun e he q asked => by simp [quiet' e he] at asked)
        (by rwa [nothing])
      rw [nothing] at accounts
      obtain ⟨reads, writes⟩ := step.calls_le accounts (quiet e (by simp)) room
      obtain ⟨reads', writes'⟩ := ih quiet'
      rw [List.countP_append, List.countP_append, List.countP_singleton, List.countP_singleton]
      omega

/-- As long as there are nothing but reports, no flush goes on. -/
lemma Run.stage_of_reports {settings : Settings} {events : List World.Event}
    (run : Run settings key d events d') (h : d.stage = none)
    (reports : ∀ e ∈ events, ∃ i t obj r, e = .inner (.report i t obj r)) :
    d'.stage = none ∨ d'.stage = some .draining := by
  induction run with
  | nil => exact .inl h
  | @snoc events d' d'' e run step ih =>
      have before := ih fun e he => reports e (by simp [he])
      obtain ⟨i, t, obj, r, rfl⟩ := reports e (by simp)
      cases step with
      | ignore request => exact before
      | ask request =>
          refine .inr ?_
          rcases before with none | draining
          · simp [none]
          · simp [draining]

end Desk

/-- **At the desk.**  Every undisturbed run is one there. -/
lemma World.Run.shows {i : Nat} {parent : Json} {w w' : World} {events : List World.Event}
    {d : Desk} (run : World.Run settings (World.Undisturbed i parent) w events w')
    (reach : World.Reachable settings w) (h : w.Shows i parent d) :
    ∃ d', Desk.Run (settings i) (Object.key parent) d events d' ∧ w'.Shows i parent d' := by
  induction run with
  | nil => exact ⟨d, .nil, h⟩
  | snoc run step calm ih =>
      obtain ⟨d', desk, shows⟩ := ih
      obtain ⟨d'', step, shows⟩ := step.shows (run.reachable reach) calm shows
      exact ⟨d'', desk.snoc step, shows⟩

end Traffic

end Driftwatch
