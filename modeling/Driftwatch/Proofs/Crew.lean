/-
Workers that carry out delayed flushes, and those who wait for them.

* `Crew`: the table and the workers, with the reports that are about to hire one and those who
  wait until nothing is under way.
* `Crew.Step`, `Crew.Run`: every operation on the table or on the list of workers is one step, and
  so is the creation, the start, the joining and the end of a worker; any number of reports and of
  those who wait go on in any order.
* `Crew.DroppedEarly`: between the listing and the start of a worker all workers were dropped that
  did not run.
* `Crew.Tracks`: where a worker stands, and whether it is listed; every step preserves this
  (`Crew.Step.sound`).
* `Crew.idle_iff_droppedEarly`: who waits is told that nothing is under way exactly if all workers
  that run were dropped early.
* `Crew.idle_while_running`: so it is told, where two reports cross, while a worker runs whose
  report has returned.
* `Crew.idle_iff_of_serial`: where no reports cross it is told exactly if no worker runs.
-/
import Driftwatch.Ledger.Request
import Driftwatch.Ledger.Workers
import Mathlib.Data.List.Induction

namespace Driftwatch

/-! ### The list of workers -/

namespace Workers

lemma isRunning_iff {w : Workers} {n : Nat} :
    w.isRunning n = true ↔ w.statuses[n]? = some .running := by
  simp [isRunning]

@[simp] lemma statuses_enlist (w : Workers) (n : Nat) : (w.enlist n).statuses = w.statuses := rfl

@[simp] lemma statuses_settle (w : Workers) : w.settle.2.statuses = w.statuses := rfl

lemma mem_listed_enlist {w : Workers} {n m : Nat} : m ∈ (w.enlist n).listed ↔
    (m ∈ w.listed ∧ w.statuses[m]? = some .running) ∨ m = n := by
  simp [enlist, isRunning_iff]

lemma mem_listed_settle {w : Workers} {m : Nat} : m ∈ w.settle.2.listed ↔
    m ∈ w.listed ∧ w.statuses[m]? = some .running := by
  simp [settle, isRunning_iff]

/-- Nobody is left exactly if no worker runs that is listed. -/
lemma settle_eq_true_iff {w : Workers} :
    w.settle.1 = true ↔ ∀ n, w.statuses[n]? = some .running → n ∉ w.listed := by
  simp only [settle, List.isEmpty_iff, List.filter_eq_nil_iff, isRunning_iff]
  exact forall_congr' fun n => imp_not_comm

end Workers

/-! ### The machine -/

namespace Crew

/-- How far the report has come that a worker was created for. -/
inductive Stage
  /-- The worker is to be listed. -/
  | unlisted
  /-- The worker was listed, and is to be started. -/
  | unstarted
  /-- The worker was started, and the report has returned. -/
  | started
  /-- The flush of the worker has ended. -/
  | leaving
  deriving DecidableEq

/-- What a worker is there for. -/
structure Post where
  key : String
  stage : Stage
  deriving DecidableEq

/-- Where someone stands who waits until nothing is under way. -/
inductive Wait
  /-- These workers are to be joined yet. -/
  | joining (left : List Nat)
  /-- The answer is whether nothing was under way. -/
  | answered (idle : Bool)
  /-- There was a worker to be joined that had not been started. -/
  | refused
  deriving DecidableEq

end Crew

/-- The workers of a ledger with a delay, and all that have to do with them. -/
structure Crew where
  ledger : Ledger
  workers : Workers
  /-- The keys for which a worker is to be created. -/
  hiring : List String
  /-- What each worker that was created is there for. -/
  posts : List Crew.Post
  /-- Those who wait, in the order in which they began to. -/
  waits : List Crew.Wait

namespace Crew

/-- Nothing has been reported yet. -/
def start : Crew :=
  { ledger := .empty, workers := .empty, hiring := [], posts := [], waits := [] }

/-- The crew with a worker at another stage. -/
def setStage (s : Crew) (n : Nat) (key : String) (stage : Stage) : Crew :=
  { s with posts := s.posts.set n { key, stage } }

/-- The crew with another table. -/
def setLedger (s : Crew) (ledger : Ledger) : Crew :=
  { s with ledger }

/-- The crew with other workers. -/
def setWorkers (s : Crew) (workers : Workers) : Crew :=
  { s with workers }

/-- The crew where one of those who wait has come further. -/
def setWait (s : Crew) (c : Nat) (wait : Wait) : Crew :=
  { s with waits := s.waits.set c wait }

/-- What is done in a step. -/
inductive Event
  /-- Something is asked of the table. -/
  | report (request : Request)
  /-- A worker is created. -/
  | create (worker : Nat)
  /-- A worker is listed, and all that are not running are dropped. -/
  | enlist (worker : Nat)
  /-- A worker starts. -/
  | start (worker : Nat)
  /-- The flush of a worker asks the table for a batch. -/
  | take (worker : Nat) (batch : Option Batch)
  /-- The flush of a worker ends in an interrupt. -/
  | abandon (worker : Nat)
  /-- A worker comes to its end. -/
  | finish (worker : Nat)
  /-- Someone begins to wait for all workers that are listed. -/
  | await (wait : Nat)
  /-- Someone who waits joins a worker. -/
  | join (wait worker : Nat)
  /-- Someone who waits cannot join a worker. -/
  | refuse (wait worker : Nat)
  /-- Someone who waits drops all workers that are not running, and is told whether none is left. -/
  | settle (wait : Nat) (idle : Bool)

/-- One step of a report, of a worker, or of someone who waits. -/
inductive Step : Crew → Event → Crew → Prop
  /-- A worker sees to the request already, or will do so. -/
  | join {s : Crew} {q : Request} (marked : q.key ∈ s.ledger.active) :
      Step s (.report q) (s.setLedger (s.ledger.submit q.key q.slot q.value).2)
  /-- The request needs a worker. -/
  | hire {s : Crew} {q : Request} (unmarked : q.key ∉ s.ledger.active) :
      Step s (.report q)
        { s.setLedger (s.ledger.submit q.key q.slot q.value).2 with hiring := q.key :: s.hiring }
  | create {s : Crew} {key : String} (mem : key ∈ s.hiring) :
      Step s (.create s.workers.create.1)
        { s.setWorkers s.workers.create.2 with
          hiring := s.hiring.erase key, posts := s.posts ++ [{ key, stage := .unlisted }] }
  | enlist {s : Crew} {n : Nat} {key : String}
      (post : s.posts[n]? = some { key, stage := .unlisted }) :
      Step s (.enlist n) ((s.setWorkers (s.workers.enlist n)).setStage n key .unstarted)
  | start {s : Crew} {n : Nat} {key : String}
      (post : s.posts[n]? = some { key, stage := .unstarted }) :
      Step s (.start n) ((s.setWorkers (s.workers.start n)).setStage n key .started)
  | take {s : Crew} {n : Nat} {key : String} {batch : Batch}
      (post : s.posts[n]? = some { key, stage := .started })
      (taken : (s.ledger.take key).1 = some batch) :
      Step s (.take n (some batch)) (s.setLedger (s.ledger.take key).2)
  | drain {s : Crew} {n : Nat} {key : String}
      (post : s.posts[n]? = some { key, stage := .started })
      (taken : (s.ledger.take key).1 = none) :
      Step s (.take n none) ((s.setLedger (s.ledger.take key).2).setStage n key .leaving)
  | abandon {s : Crew} {n : Nat} {key : String}
      (post : s.posts[n]? = some { key, stage := .started }) :
      Step s (.abandon n) ((s.setLedger (s.ledger.abandon key)).setStage n key .leaving)
  | finish {s : Crew} {n : Nat} {key : String}
      (post : s.posts[n]? = some { key, stage := .leaving })
      (running : s.workers.isRunning n = true) :
      Step s (.finish n) (s.setWorkers (s.workers.finish n))
  | await {s : Crew} :
      Step s (.await s.waits.length) { s with waits := s.waits ++ [.joining s.workers.listed] }
  /-- A worker is joined when it has ended. -/
  | joined {s : Crew} {c n : Nat} {left : List Nat}
      (wait : s.waits[c]? = some (.joining (n :: left)))
      (ended : s.workers.statuses[n]? = some .ended) :
      Step s (.join c n) (s.setWait c (.joining left))
  | refuse {s : Crew} {c n : Nat} {left : List Nat}
      (wait : s.waits[c]? = some (.joining (n :: left)))
      (created : s.workers.statuses[n]? = some .created) :
      Step s (.refuse c n) (s.setWait c .refused)
  | settle {s : Crew} {c : Nat} (wait : s.waits[c]? = some (.joining [])) :
      Step s (.settle c s.workers.settle.1)
        ((s.setWorkers s.workers.settle.2).setWait c (.answered s.workers.settle.1))

/-- Any number of steps, with what was done in them, in order. -/
inductive Run (s : Crew) : List Event → Crew → Prop
  | nil : Run s [] s
  | snoc {events : List Event} {s' s'' : Crew} {e : Event} (run : Run s events s')
      (step : Step s' e s'') : Run s (events ++ [e]) s''

/-! ### Workers that are dropped -/

/-- The workers that are not running are dropped from the list. -/
def Event.Drops : Event → Prop
  | .enlist _ | .settle _ _ => True
  | _ => False

/-- Some event happens after others with which it stands in a relation. -/
def Occurs (R : List Event → Event → Prop) (events : List Event) : Prop :=
  ∃ before e after, events = before ++ e :: after ∧ R before e

lemma occurs_concat {R : List Event → Event → Prop} {events : List Event} {e : Event} :
    Occurs R (events ++ [e]) ↔ Occurs R events ∨ R events e := by
  constructor
  · rintro ⟨before, g, after, split, related⟩
    cases after using List.reverseRecOn with
    | nil =>
        obtain ⟨rfl, same⟩ := List.append_inj' split rfl
        obtain rfl := List.singleton_inj.mp same
        exact .inr related
    | append_singleton after last =>
        rw [← List.cons_append, ← List.append_assoc] at split
        obtain ⟨rfl, -⟩ := List.append_inj' split rfl
        exact .inl ⟨before, g, after, rfl, related⟩
  · rintro (⟨before, g, after, rfl, related⟩ | related)
    · exact ⟨before, g, after ++ [e], by simp, related⟩
    · exact ⟨events, e, [], rfl, related⟩

/-- Since a worker was listed all workers were dropped that did not run. -/
def Dropped (n : Nat) : List Event → Prop :=
  Occurs fun before e => e.Drops ∧ .enlist n ∈ before

/-- Between the listing and the start of a worker all workers were dropped that did not run. -/
def DroppedEarly (n : Nat) : List Event → Prop :=
  Occurs fun before e => e = .start n ∧ Dropped n before

lemma dropped_concat {n : Nat} {events : List Event} {e : Event} :
    Dropped n (events ++ [e]) ↔ Dropped n events ∨ e.Drops ∧ .enlist n ∈ events :=
  occurs_concat

lemma droppedEarly_concat {n : Nat} {events : List Event} {e : Event} :
    DroppedEarly n (events ++ [e]) ↔ DroppedEarly n events ∨ e = .start n ∧ Dropped n events :=
  occurs_concat

/-- What was not listed has not been dropped since. -/
lemma not_dropped_of_not_mem {n : Nat} {events : List Event} (never : .enlist n ∉ events) :
    ¬ Dropped n events := by
  rintro ⟨before, e, after, rfl, -, listed⟩
  exact never (by simp [listed])

/-- What was not started has not been dropped before its start. -/
lemma not_droppedEarly_of_not_mem {n : Nat} {events : List Event} (never : .start n ∉ events) :
    ¬ DroppedEarly n events := by
  rintro ⟨before, e, after, rfl, rfl, -⟩
  exact never (by simp)

/-! ### Where a worker stands -/

/-- Where a worker stands after some events, if it has this status, is listed or not, and is at this
stage: a worker that was listed but not started is listed as long as nothing was dropped, and a
worker that runs is listed unless it was dropped before its start. -/
def Tracks (n : Nat) (events : List Event) (status : Option Workers.Status) (listed : Prop) :
    Option Stage → Prop
  | none => status = none ∧ ¬ listed ∧ .enlist n ∉ events ∧ .start n ∉ events
  | some .unlisted => status = some .created ∧ ¬ listed ∧ .enlist n ∉ events ∧ .start n ∉ events
  | some .unstarted =>
    status = some .created ∧ (listed ↔ ¬ Dropped n events) ∧ .enlist n ∈ events ∧
      .start n ∉ events
  | some .started => status = some .running ∧ (listed ↔ ¬ DroppedEarly n events)
  | some .leaving =>
    status = some .running ∧ (listed ↔ ¬ DroppedEarly n events) ∨ status = some .ended

namespace Tracks

variable {n : Nat} {events : List Event} {status : Option Workers.Status} {listed : Prop}
  {stage : Option Stage} {e : Event}

/-- What drops nobody and has to do with others leaves a worker where it stands. -/
lemma keep (h : Tracks n events status listed stage) (enlist : e ≠ .enlist n)
    (start : e ≠ .start n) (drops : ¬ e.Drops) : Tracks n (events ++ [e]) status listed stage := by
  match stage, h with
  | none, h | some .unlisted, h | some .unstarted, h | some .started, h | some .leaving, h =>
    simpa [Tracks, dropped_concat, droppedEarly_concat, enlist.symm, start.symm, start, drops]
      using h

/-- What drops all workers that are not running leaves a worker where it stands. -/
lemma drop (h : Tracks n events status listed stage) (drops : e.Drops) (enlist : e ≠ .enlist n) :
    Tracks n (events ++ [e]) status (listed ∧ status = some .running) stage := by
  have start : e ≠ .start n := by
    rintro rfl
    exact drops
  -- only a worker that is listed and does not run loses its place, and that is one to be started
  match stage, h with
  | none, ⟨status, h⟩ | some .unlisted, ⟨status, h⟩ =>
    simpa [Tracks, status, enlist.symm, start.symm] using h.2
  | some .unstarted, ⟨status, kept, listed, idle⟩ =>
    simp [Tracks, status, dropped_concat, drops, listed, idle, start.symm]
  | some .started, ⟨status, kept⟩ =>
    simpa [Tracks, status, droppedEarly_concat, start] using kept
  | some .leaving, .inl ⟨status, kept⟩ =>
    simpa [Tracks, status, droppedEarly_concat, start] using kept
  | some .leaving, .inr status => simp [Tracks, status]

/-! ### What a worker goes through -/

lemma create (h : Tracks n events status listed none) :
    Tracks n (events ++ [.create n]) (some .created) listed (some .unlisted) := by
  obtain ⟨-, unlisted, never, idle⟩ := h
  simpa [Tracks, unlisted, never] using idle

/-- Nothing has been dropped since a worker was just listed. -/
lemma enlist (h : Tracks n events status listed (some .unlisted)) :
    Tracks n (events ++ [.enlist n]) status True (some .unstarted) := by
  obtain ⟨status, -, never, idle⟩ := h
  simpa [Tracks, status, dropped_concat, never, not_dropped_of_not_mem never] using idle

/-- A worker that was dropped since it was listed is dropped early when it starts. -/
lemma start (h : Tracks n events status listed (some .unstarted)) :
    Tracks n (events ++ [.start n]) (some .running) listed (some .started) := by
  obtain ⟨-, kept, -, idle⟩ := h
  simpa [Tracks, droppedEarly_concat, not_droppedEarly_of_not_mem idle] using kept

lemma leave (h : Tracks n events status listed (some .started)) (start : e ≠ .start n) :
    Tracks n (events ++ [e]) status listed (some .leaving) := by
  obtain ⟨status, kept⟩ := h
  exact .inl ⟨status, by simpa [droppedEarly_concat, start] using kept⟩

end Tracks

/-- Every worker stands somewhere. -/
structure Sound (events : List Event) (s : Crew) : Prop where
  aligned : s.posts.length = s.workers.statuses.length
  tracks : ∀ n, Tracks n events s.workers.statuses[n]? (n ∈ s.workers.listed)
    (s.posts[n]?.map Post.stage)

lemma sound_start : Sound [] start :=
  ⟨rfl, fun n => by simp [Tracks, start, Workers.empty]⟩

namespace Sound

variable {events : List Event} {s : Crew} {n : Nat} {key : String} {stage : Stage} {e : Event}

/-- A worker is at the stage that its post shows. -/
lemma tracks_of_post (h : Sound events s) (post : s.posts[n]? = some { key, stage }) :
    Tracks n events s.workers.statuses[n]? (n ∈ s.workers.listed) (some stage) := by
  have := h.tracks n
  rwa [post] at this

/-- What drops nobody and moves no worker keeps all of them where they stand. -/
lemma keep (h : Sound events s) {s' : Crew} (workers : s'.workers = s.workers)
    (posts : s'.posts = s.posts) (others : ∀ n, e ≠ .enlist n ∧ e ≠ .start n) (drops : ¬ e.Drops) :
    Sound (events ++ [e]) s' where
  aligned := by rw [posts, workers, h.aligned]
  tracks n := by
    rw [posts, workers]
    exact (h.tracks n).keep (others n).1 (others n).2 drops

/-- A worker goes on to another stage, and all others stay where they stand. -/
lemma move (h : Sound events s) {s' : Crew} {stage' : Stage}
    (post : s.posts[n]? = some { key, stage })
    (length : s'.workers.statuses.length = s.workers.statuses.length)
    (posts : s'.posts = s.posts.set n { key, stage := stage' })
    (own : Tracks n (events ++ [e]) s'.workers.statuses[n]? (n ∈ s'.workers.listed) (some stage'))
    (others : ∀ m, n ≠ m → Tracks m (events ++ [e]) s'.workers.statuses[m]?
      (m ∈ s'.workers.listed) (s.posts[m]?.map Post.stage)) : Sound (events ++ [e]) s' where
  aligned := by rw [length, posts, List.length_set, h.aligned]
  tracks m := by
    rw [posts]
    by_cases same : n = m
    · subst same
      obtain ⟨inside, -⟩ := List.getElem?_eq_some_iff.mp post
      rw [List.getElem?_set_self inside]
      exact own
    · rw [List.getElem?_set_ne same]
      exact others m same

end Sound

lemma getElem?_concat_of_ne {α : Type} {l : List α} {a : α} {n : Nat} (other : n ≠ l.length) :
    (l ++ [a])[n]? = l[n]? := by
  rcases Nat.lt_or_gt_of_ne other with inside | outside
  · exact List.getElem?_append_left inside
  · rw [List.getElem?_eq_none (by simp; omega), List.getElem?_eq_none (by omega)]

/-- **Where workers stand, one step.** -/
theorem Step.sound {events : List Event} {s s' : Crew} {e : Event} (step : Step s e s')
    (h : Sound events s) : Sound (events ++ [e]) s' := by
  cases step with
  | join marked => exact h.keep rfl rfl (by simp) id
  | hire unmarked => exact h.keep rfl rfl (by simp) id
  | take post taken => exact h.keep rfl rfl (by simp) id
  | await => exact h.keep rfl rfl (by simp) id
  | joined wait ended => exact h.keep rfl rfl (by simp) id
  | refuse wait created => exact h.keep rfl rfl (by simp) id
  | @create key mem =>
      refine ⟨by simp [Workers.create, setWorkers, h.aligned], fun n => ?_⟩
      have old := h.tracks n
      simp only [Workers.create, setWorkers]
      by_cases new : n = s.posts.length
      · -- workers and posts are numbered alike, so the new worker stood nowhere
        subst new
        have status : (s.workers.statuses ++ [.created])[s.posts.length]? = some .created := by
          rw [h.aligned, List.getElem?_concat_length]
        rw [List.getElem?_eq_none (Nat.le_refl _)] at old
        rw [status, List.getElem?_concat_length, ← h.aligned]
        exact old.create
      · rw [getElem?_concat_of_ne new, getElem?_concat_of_ne (h.aligned ▸ new)]
        exact old.keep (by simp) (by simp) id
  | @enlist n key post =>
      refine h.move post rfl rfl ?_ fun m other => ?_
      · simpa [setStage, setWorkers, Workers.mem_listed_enlist] using
          (h.tracks_of_post post).enlist
      · simpa [setStage, setWorkers, Workers.mem_listed_enlist, Ne.symm other] using
          (h.tracks m).drop (e := .enlist n) trivial (by simpa using other)
  | @start n key post =>
      refine h.move post (by simp [setStage, setWorkers, Workers.start]) rfl ?_ fun m other => ?_
      · obtain ⟨inside, -⟩ := List.getElem?_eq_some_iff.mp (h.tracks_of_post post).1
        simpa [setStage, setWorkers, Workers.start, inside] using (h.tracks_of_post post).start
      · simpa [setStage, setWorkers, Workers.start, other] using
          (h.tracks m).keep (by simp) (by simpa using other) id
  | @drain n key post taken =>
      exact h.move post rfl rfl ((h.tracks_of_post post).leave (by simp)) fun m other =>
        (h.tracks m).keep (by simp) (by simp) id
  | @abandon n key post =>
      exact h.move post rfl rfl ((h.tracks_of_post post).leave (by simp)) fun m other =>
        (h.tracks m).keep (by simp) (by simp) id
  | @finish n key post running =>
      obtain ⟨inside, -⟩ := List.getElem?_eq_some_iff.mp (Workers.isRunning_iff.mp running)
      have same : s.posts = s.posts.set n { key, stage := .leaving } := by
        obtain ⟨inside, same⟩ := List.getElem?_eq_some_iff.mp post
        rw [← same, List.set_getElem_self]
      refine h.move post (by simp [setWorkers, Workers.finish]) same ?_ fun m other => ?_
      · exact .inr (by simp [setWorkers, Workers.finish, inside])
      · simpa [setWorkers, Workers.finish, other] using
          (h.tracks m).keep (by simp) (by simp) id
  | settle wait =>
      refine ⟨h.aligned, fun n => ?_⟩
      simpa [setWait, setWorkers, Workers.mem_listed_settle] using
        (h.tracks n).drop (e := .settle _ _) trivial (by simp)

/-- **Where workers stand**, after every run. -/
lemma Run.sound {events : List Event} {s : Crew} (run : Run start events s) : Sound events s := by
  induction run with
  | nil => exact sound_start
  | snoc run step ih => exact step.sound ih

/-! ### Those who wait -/

namespace Sound

variable {events : List Event} {s : Crew} {n : Nat}

/-- A worker that was started runs until it has ended. -/
lemma running_or_ended (h : Sound events s) (started : .start n ∈ events) :
    s.workers.statuses[n]? = some .running ∨ s.workers.statuses[n]? = some .ended := by
  have stands := h.tracks n
  match s.posts[n]?.map Post.stage, stands with
  | none, ⟨_, _, _, idle⟩ | some .unlisted, ⟨_, _, _, idle⟩ | some .unstarted, ⟨_, _, _, idle⟩ =>
    exact absurd started idle
  | some .started, ⟨status, _⟩ | some .leaving, .inl ⟨status, _⟩ => exact .inl status
  | some .leaving, .inr status => exact .inr status

/-- A worker that runs is listed unless it was dropped before its start. -/
lemma mem_listed_iff (h : Sound events s) (running : s.workers.statuses[n]? = some .running) :
    n ∈ s.workers.listed ↔ ¬ DroppedEarly n events := by
  have stands := h.tracks n
  match s.posts[n]?.map Post.stage, stands with
  | none, ⟨status, _⟩ | some .unlisted, ⟨status, _⟩ | some .unstarted, ⟨status, _⟩
  | some .leaving, .inr status => simp [running] at status
  | some .started, ⟨_, kept⟩ | some .leaving, .inl ⟨_, kept⟩ => exact kept

/-- Nobody is left who is listed exactly if all workers that run were dropped early. -/
lemma settle_eq_true_iff (h : Sound events s) : s.workers.settle.1 = true ↔
    ∀ n, s.workers.isRunning n = true → DroppedEarly n events := by
  rw [Workers.settle_eq_true_iff]
  refine forall_congr' fun n => ?_
  rw [Workers.isRunning_iff]
  refine forall_congr' fun running => ?_
  rw [h.mem_listed_iff running, not_not]

end Sound

/-! ### Reports that cross -/

/-- The phase of a widget is asked for. -/
def phaseOf (name : String) : Request :=
  .of (.object [("kind", .text "Widget"), ("metadata", .object [("name", .text name)])]) .phase
    "initializing"

/-- A report lists its worker while another one has listed its own and not started it yet; then both
workers are started, and the second one comes to its end. -/
def crossing : List Event :=
  [.report (phaseOf "web"), .create 0, .enlist 0, .report (phaseOf "api"), .create 1, .enlist 1,
    .start 0, .start 1, .take 1 (some [(.phase, ["initializing"])]), .take 1 none, .finish 1]

/-- Who waits after the reports is told that nothing is under way. -/
lemma exists_run_crossing : ∃ s s', Run start (crossing ++ [.await 0, .join 0 1]) s ∧
    Step s (.settle 0 true) s' ∧ s.workers.statuses = [.running, .ended] := by
  have run : Run start [] start := .nil
  have run := run.snoc (.hire (q := phaseOf "web") (by decide))
  have run := run.snoc (.create List.mem_cons_self)
  have run := run.snoc (.enlist (n := 0) rfl)
  have run := run.snoc (.hire (q := phaseOf "api") (by decide))
  have run := run.snoc (.create List.mem_cons_self)
  have run := run.snoc (.enlist (n := 1) rfl)
  have run := run.snoc (.start (n := 0) rfl)
  have run := run.snoc (.start (n := 1) rfl)
  have run := run.snoc (.take (n := 1) rfl rfl)
  have run := run.snoc (.drain (n := 1) rfl rfl)
  have run := run.snoc (.finish (n := 1) rfl rfl)
  have run := run.snoc .await
  have run := run.snoc (.joined (c := 0) rfl rfl)
  exact ⟨_, _, run, .settle (c := 0) rfl, rfl⟩

/-! ### What those who wait are told -/

/-- **Who waits does not see the workers that were dropped early.**  Whatever reports, workers and
those who wait do, and in whatever order: who has joined all workers that were listed when the wait
began is told that nothing is under way exactly if every worker that runs was dropped from the list
between its listing and its start; so that all workers that were started before, and were not
dropped in this way, have ended by then. -/
theorem idle_iff_droppedEarly {events : List Event} {s s' : Crew} {c : Nat} {idle : Bool}
    (run : Run start events s) (step : Step s (.settle c idle) s') :
    (idle = true ↔ ∀ n, s.workers.isRunning n = true → DroppedEarly n events) ∧
    (idle = true → ∀ n, .start n ∈ events →
      DroppedEarly n events ∨ s.workers.statuses[n]? = some .ended) := by
  have seen : idle = true ↔ ∀ n, s.workers.isRunning n = true → DroppedEarly n events := by
    cases step
    exact run.sound.settle_eq_true_iff
  refine ⟨seen, fun told n started => ?_⟩
  rcases run.sound.running_or_ended started with running | ended
  · exact .inl (seen.mp told n (Workers.isRunning_iff.mpr running))
  · exact .inr ended

/-- Where two reports cross, the worker that still runs was dropped early. -/
theorem idle_iff_droppedEarly_crossing : ∃ events s s', Run start events s ∧
    Step s (.settle 0 true) s' ∧ s.workers.isRunning 0 = true ∧ DroppedEarly 0 events := by
  obtain ⟨s, s', run, step, statuses⟩ := exists_run_crossing
  have running : s.workers.isRunning 0 = true := by simp [Workers.isRunning, statuses]
  exact ⟨_, s, s', run, step, running, (idle_iff_droppedEarly run step).1.mp rfl 0 running⟩

/-- **Idle too early.**  Two reports cross, and both have returned before somebody begins to wait,
who is then told that nothing is under way while the first worker runs. -/
theorem idle_while_running : ∃ s s', Run start (crossing ++ [.await 0, .join 0 1]) s ∧
    Step s (.settle 0 true) s' ∧ .start 0 ∈ crossing ∧ s.workers.isRunning 0 = true := by
  obtain ⟨s, s', run, step, statuses⟩ := exists_run_crossing
  exact ⟨s, s', run, step, by simp [crossing], by simp [Workers.isRunning, statuses]⟩

/-! ### Reports that do not cross -/

/-- Every worker is started as soon as it is listed, before anything else is done. -/
def Serial (events : List Event) : Prop :=
  ∀ before n e after, events = before ++ .enlist n :: e :: after → e = .start n

/-- Where workers are started as soon as they are listed, nothing is dropped before that. -/
lemma Serial.start_mem {events : List Event} (serial : Serial events) {n : Nat}
    (dropped : Dropped n events) : .start n ∈ events := by
  obtain ⟨before, e, after, rfl, drops, listed⟩ := dropped
  obtain ⟨earlier, later, rfl⟩ := List.append_of_mem listed
  cases later with
  | nil =>
      obtain rfl : e = .start n := serial earlier n e after (by simp)
      exact drops.elim
  | cons g later =>
      obtain rfl : g = .start n := serial earlier n g (later ++ e :: after) (by simp)
      simp

/-- No worker is started twice. -/
lemma Sound.start_not_mem {events : List Event} {s s' : Crew} {n : Nat} (h : Sound events s)
    (step : Step s (.start n) s') : .start n ∉ events := by
  cases step with
  | start post =>
      obtain ⟨-, -, -, idle⟩ := h.tracks_of_post post
      exact idle

/-- No worker is dropped early where workers are started as soon as they are listed. -/
lemma Run.not_droppedEarly {events : List Event} {s : Crew} (run : Run Crew.start events s)
    (serial : Serial events) (n : Nat) : ¬ DroppedEarly n events := by
  induction run with
  | nil => exact not_droppedEarly_of_not_mem List.not_mem_nil
  | @snoc events s' s'' e run step ih =>
      have earlier : Serial events := fun before m g after split =>
        serial before m g (after ++ [e]) (by rw [split]; simp)
      rw [droppedEarly_concat]
      rintro (early | ⟨rfl, dropped⟩)
      · exact ih earlier early
      · exact run.sound.start_not_mem step (earlier.start_mem dropped)

/-- **Who waits is told what is so where reports do not cross.**  If every worker is started as soon
as it is listed, who waits is told that nothing is under way exactly if no worker runs. -/
theorem idle_iff_of_serial {events : List Event} {s s' : Crew} {c : Nat} {idle : Bool}
    (run : Run start events s) (serial : Serial events) (step : Step s (.settle c idle) s') :
    idle = true ↔ ∀ n, s.workers.isRunning n = false := by
  cases step
  rw [run.sound.settle_eq_true_iff]
  refine forall_congr' fun n => ?_
  rw [← Bool.not_eq_true]
  exact imp_congr_right fun _ => iff_false_intro (run.not_droppedEarly serial n)

end Crew

end Driftwatch
