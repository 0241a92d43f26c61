/-
The threads of a rehearsal: which flush of the machine's stack is in which thread.

* `Waits`, `Stands`: the shape of the stacks that come up.
* `thread`, `flushes`, `waiting`: the threads that flushes are in.  Every worker is a thread of its
  own; what is started without a delay is in the thread that started it.
* `Carries`: threads hold the flushes of a stack and those that wait for their delay.
* `Carries.replace`, `Carries.pop`, `Carries.push`, `Carries.create`, `Carries.release`: the
  changes of a stack, and of the threads with it.
-/
import Driftwatch.Proofs.Traffic.Basic
import Driftwatch.Rehearsal.Machine
import Mathlib.Data.List.Nodup

namespace Driftwatch.Rehearsal

/-! ### Stacks -/

/-- The flush has called the store and waits for the answer. -/
def isCalling (f : Flush) : Bool :=
  match f.stage with
  | .reading _ | .writing _ _ => true
  | _ => false

/-- The flush is over. -/
def isOver (f : Flush) : Bool :=
  match f.stage with
  | .ended => true
  | _ => false

/-- A stack on which a step can be taken: nothing is under way, or there is a call on top, and
every flush under a call has made it. -/
inductive Waits : List Frame → Prop
  | nil : Waits []
  | bottom (steps : List Step) (fault : Option Fault) : Waits [.call steps fault]
  | above {f : Flush} {worker : Option Nat} {below : List Frame} (steps : List Step)
      (fault : Option Fault) (calling : isCalling f = true) (waits : Waits below) :
      Waits (.call steps fault :: .flush f worker :: below)

/-- A stack as it comes up: a step can be taken on it, or a flush is on top. -/
def Stands : List Frame → Prop
  | .flush _ _ :: below => Waits below
  | stack => Waits stack

/-- The thread that the top of a stack is in. -/
def thread : List Frame → Nat
  | [] => 0
  | .call _ _ :: below | .flush _ none :: below => thread below
  | .flush _ (some worker) :: _ => worker + 1

/-- The flushes of a stack that are in a thread, the innermost first. -/
def flushes (i : Nat) : List Frame → List Flush
  | [] => []
  | .call _ _ :: below => flushes i below
  | .flush f worker :: below =>
    if isOver f = false ∧ thread (.flush f worker :: below) = i then f :: flushes i below
    else flushes i below

/-- The flushes of a thread that wait for their delay. -/
def waiting (i : Nat) (delayed : List Delayed) : List Flush :=
  (delayed.filter fun d => d.worker + 1 = i).map Delayed.flush

lemma waiting_cons (i : Nat) (d : Delayed) (rest : List Delayed) : waiting i (d :: rest) =
    if d.worker + 1 = i then d.flush :: waiting i rest else waiting i rest := by
  by_cases h : d.worker + 1 = i <;> simp [waiting, h]

/-- Without one worker nothing waits in its thread, and everything else waits as before. -/
lemma waiting_filter (i k : Nat) (delayed : List Delayed) :
    waiting i (delayed.filter fun d => d.worker != k) =
      if i = k + 1 then [] else waiting i delayed := by
  induction delayed with
  | nil => simp [waiting]
  | cons d rest ih =>
      by_cases hd : d.worker = k
      · rw [List.filter_cons_of_neg (by simp [hd]), ih, waiting_cons, hd]
        by_cases hi : i = k + 1
        · simp [hi]
        · simp [hi, Ne.symm hi]
      · rw [List.filter_cons_of_pos (by simp [hd]), waiting_cons, ih, waiting_cons]
        by_cases hi : i = k + 1
        · simp [hi, hd]
        · simp [hi]

lemma isOver_of_isCalling {f : Flush} (h : isCalling f = true) : isOver f = false := by
  rw [isOver]
  split
  · rename_i stage
    simp [isCalling, stage] at h
  · rfl

/-- Steps can also be taken if other steps were to be taken, or another fault was to come. -/
lemma Waits.call {steps : List Step} {fault : Option Fault} {below : List Frame}
    (h : Waits (.call steps fault :: below)) (steps' : List Step) (fault' : Option Fault) :
    Waits (.call steps' fault' :: below) := by
  cases h with
  | bottom => exact .bottom steps' fault'
  | above _ _ calling waits => exact .above steps' fault' calling waits

lemma Waits.stands {stack : List Frame} (h : Waits stack) : Stands stack := by
  cases h with
  | nil => exact .nil
  | bottom => exact .bottom _ _
  | above _ _ calling waits => exact .above _ _ calling waits

/-- The top of a stack is in the first thread, or it is in a thread with a flush. -/
lemma Waits.thread_eq_zero_or {stack : List Frame} (h : Waits stack) :
    thread stack = 0 ∨ flushes (thread stack) stack ≠ [] := by
  cases h with
  | nil => exact .inl rfl
  | bottom => exact .inl rfl
  | above _ _ calling waits =>
      refine .inr ?_
      simp [thread, flushes, isOver_of_isCalling calling]

/-- The top of a stack is in the thread of a worker in it, or in the first one. -/
lemma thread_le {stack : List Frame} {n : Nat}
    (h : ∀ f k, Frame.flush f (some k) ∈ stack → k < n) : thread stack ≤ n := by
  induction stack with
  | nil => exact Nat.zero_le n
  | cons frame below ih =>
      have ih := ih fun f k mem => h f k (List.mem_cons_of_mem _ mem)
      cases frame with
      | call steps fault => exact ih
      | flush f worker =>
          cases worker with
          | none => exact ih
          | some k => exact h f k List.mem_cons_self

/-- No flush is in the thread of a worker that does not exist. -/
lemma flushes_eq_nil {stack : List Frame} {n i : Nat}
    (h : ∀ f k, Frame.flush f (some k) ∈ stack → k < n) (hi : n < i) : flushes i stack = [] := by
  induction stack with
  | nil => rfl
  | cons frame below ih =>
      have ih := ih fun f k mem => h f k (List.mem_cons_of_mem _ mem)
      cases frame with
      | call steps fault => exact ih
      | flush f worker =>
          have bound := thread_le h
          rw [flushes, if_neg (by omega), ih]

/-- The flushes in a thread are on the stack. -/
lemma mem_of_mem_flushes {stack : List Frame} {i : Nat} {f : Flush} (h : f ∈ flushes i stack) :
    isOver f = false ∧ ∃ worker, Frame.flush f worker ∈ stack := by
  induction stack with
  | nil => exact absurd h List.not_mem_nil
  | cons frame below ih =>
      have later (h : f ∈ flushes i below) :
          isOver f = false ∧ ∃ worker, Frame.flush f worker ∈ frame :: below := by
        obtain ⟨alive, worker, mem⟩ := ih h
        exact ⟨alive, worker, List.mem_cons_of_mem _ mem⟩
      cases frame with
      | call steps fault => exact later h
      | flush g worker =>
          rw [flushes] at h
          split at h
          · rename_i here
            rcases List.mem_cons.mp h with rfl | h
            · exact ⟨here.1, worker, List.mem_cons_self⟩
            · exact later h
          · exact later h

/-- The flushes on a stack are in threads. -/
lemma exists_mem_flushes {stack : List Frame} {n : Nat} {f : Flush} {worker : Option Nat}
    (known : ∀ f k, Frame.flush f (some k) ∈ stack → k < n) (alive : isOver f = false)
    (mem : Frame.flush f worker ∈ stack) : ∃ i ≤ n, f ∈ flushes i stack := by
  induction stack with
  | nil => exact absurd mem List.not_mem_nil
  | cons frame below ih =>
      rcases List.mem_cons.mp mem with rfl | mem
      · exact ⟨_, thread_le known, by rw [flushes, if_pos ⟨alive, rfl⟩]; exact List.mem_cons_self⟩
      · obtain ⟨i, hi, held⟩ := ih (fun f k mem => known f k (List.mem_cons_of_mem _ mem)) mem
        refine ⟨i, hi, ?_⟩
        cases frame with
        | call steps fault => exact held
        | flush g worker =>
            rw [flushes]
            split
            · exact List.mem_cons_of_mem _ held
            · exact held

/-- Only the thread of a new flush has it. -/
lemma flushes_of_ne {f : Flush} {worker : Option Nat} {below : List Frame} {i : Nat}
    (h : i ≠ thread (.flush f worker :: below)) :
    flushes i (.flush f worker :: below) = flushes i below := by
  rw [flushes, if_neg fun both => h both.2.symm]

/-- The thread of the top is the same for any flush that is on top. -/
lemma thread_flush (f f' : Flush) (worker : Option Nat) (below : List Frame) :
    thread (.flush f' worker :: below) = thread (.flush f worker :: below) := by
  cases worker <;> rfl

/-! ### Threads that carry a stack -/

/-- Threads hold the flushes of a stack and those that wait for their delay. -/
structure Carries (workers : Nat) (delayed : List Delayed) (stack : List Frame)
    (threads : List (List Traffic.Frame)) : Prop where
  length : threads.length = workers + 1
  holds : ∀ (i : Nat) (frames : List Traffic.Frame), threads[i]? = some frames →
    frames.map Traffic.Frame.flush = flushes i stack ++ waiting i delayed
  plain : ∀ (i : Nat) (frames : List Traffic.Frame), threads[i]? = some frames →
    ∀ g ∈ frames, g.ledger = 0 ∧ g.interrupt = none
  known : ∀ f k, Frame.flush f (some k) ∈ stack → k < workers
  distinct : (delayed.map Delayed.worker).Nodup
  apart : ∀ d ∈ delayed, d.worker < workers ∧ flushes (d.worker + 1) stack = []
  fresh : ∀ d ∈ delayed, d.flush.stage = .draining

namespace Carries

variable {workers : Nat} {delayed : List Delayed} {stack below : List Frame}
  {threads : List (List Traffic.Frame)}

/-- Calls are in no thread. -/
lemma call {steps : List Step} {fault : Option Fault} (h : Carries workers delayed below threads) :
    Carries workers delayed (.call steps fault :: below) threads :=
  ⟨h.length, h.holds, h.plain, fun f k mem => h.known f k (by simpa using mem), h.distinct,
    h.apart, h.fresh⟩

/-- The other way round. -/
lemma of_call {steps : List Step} {fault : Option Fault}
    (h : Carries workers delayed (.call steps fault :: below) threads) :
    Carries workers delayed below threads :=
  ⟨h.length, h.holds, h.plain, fun f k mem => h.known f k (List.mem_cons_of_mem _ mem),
    h.distinct, h.apart, h.fresh⟩

/-- A flush that is over is in no thread. -/
lemma of_over {f : Flush} {worker : Option Nat} (ended : isOver f = true)
    (h : Carries workers delayed (.flush f worker :: below) threads) :
    Carries workers delayed below threads := by
  have same (i : Nat) : flushes i (.flush f worker :: below) = flushes i below := by
    rw [flushes, if_neg (by simp [ended])]
  exact
    { h with
      holds := fun i frames there => same i ▸ h.holds i frames there
      known := fun f k mem => h.known f k (List.mem_cons_of_mem _ mem)
      apart := fun d mem => ⟨(h.apart d mem).1, same _ ▸ (h.apart d mem).2⟩ }

/-- The other way round, if the worker exists. -/
lemma to_over {f : Flush} {worker : Option Nat} (ended : isOver f = true)
    (exist : ∀ k, worker = some k → k < workers) (h : Carries workers delayed below threads) :
    Carries workers delayed (.flush f worker :: below) threads := by
  have same (i : Nat) : flushes i (.flush f worker :: below) = flushes i below := by
    rw [flushes, if_neg (by simp [ended])]
  exact
    { h with
      holds := fun i frames there => same i ▸ h.holds i frames there
      known := fun g k mem => by
        rcases List.mem_cons.mp mem with here | mem
        · cases here
          exact exist k rfl
        · exact h.known g k mem
      apart := fun d mem => ⟨(h.apart d mem).1, same _ ▸ (h.apart d mem).2⟩ }

/-- The thread of the top of a stack. -/
lemma getElem? (h : Carries workers delayed stack threads) :
    ∃ frames, threads[thread stack]? = some frames := by
  have bound := thread_le h.known
  exact ⟨_, List.getElem?_eq_getElem (by rw [h.length]; omega)⟩

/-- The flush on top of a stack is the innermost one of its thread. -/
lemma top {f : Flush} {worker : Option Nat} (alive : isOver f = false)
    (h : Carries workers delayed (.flush f worker :: below) threads) :
    ∃ copy rest, threads[thread (.flush f worker :: below)]? =
      some (⟨0, f, copy, none⟩ :: rest) := by
  obtain ⟨frames, there⟩ := h.getElem?
  have holds := h.holds _ _ there
  rw [flushes, if_pos ⟨alive, rfl⟩, List.cons_append, List.map_eq_cons_iff] at holds
  obtain ⟨⟨ledger, flush, copy, interrupt⟩, rest, rfl, rfl, -⟩ := holds
  obtain ⟨rfl, rfl⟩ := h.plain _ _ there _ List.mem_cons_self
  exact ⟨copy, rest, there⟩

/-- No worker with a delay is in a thread with a flush, or in the first one. -/
lemma ne_of_flushes {i : Nat} (h : Carries workers delayed stack threads)
    (some : i = 0 ∨ flushes i stack ≠ []) : ∀ d ∈ delayed, d.worker + 1 ≠ i := by
  rintro d mem rfl
  rcases some with zero | some
  · omega
  · exact some (h.apart d mem).2

/-- One thread changes with the stack. -/
lemma set {stack' : List Frame} {i : Nat} {frames : List Traffic.Frame}
    (h : Carries workers delayed stack threads) (busy : ∀ d ∈ delayed, d.worker + 1 ≠ i)
    (others : ∀ j ≠ i, flushes j stack' = flushes j stack)
    (holds : frames.map Traffic.Frame.flush = flushes i stack' ++ waiting i delayed)
    (plain : ∀ g ∈ frames, g.ledger = 0 ∧ g.interrupt = none)
    (known : ∀ f k, Frame.flush f (some k) ∈ stack' → k < workers) :
    Carries workers delayed stack' (threads.set i frames) where
  length := by rw [List.length_set, h.length]
  holds j frames' there := by
    rw [List.getElem?_set] at there
    split at there
    · rename_i here
      subst here
      obtain ⟨-, rfl⟩ := by simpa using there
      exact holds
    · rename_i other
      rw [others j (Ne.symm other)]
      exact h.holds j frames' there
  plain j frames' there := by
    rw [List.getElem?_set] at there
    split at there
    · obtain ⟨-, rfl⟩ := by simpa using there
      exact plain
    · exact h.plain j frames' there
  known := known
  distinct := h.distinct
  apart d mem := ⟨(h.apart d mem).1, by rw [others _ (busy d mem), (h.apart d mem).2]⟩
  fresh := h.fresh

/-- The flush on top goes on. -/
lemma replace {f f' : Flush} {worker : Option Nat} {copy copy' : Option Json}
    {rest : List Traffic.Frame} (alive : isOver f = false) (alive' : isOver f' = false)
    (h : Carries workers delayed (.flush f worker :: below) threads)
    (top : threads[thread (.flush f worker :: below)]? = some (⟨0, f, copy, none⟩ :: rest)) :
    Carries workers delayed (.flush f' worker :: below)
      (threads.set (thread (.flush f worker :: below)) (⟨0, f', copy', none⟩ :: rest)) := by
  have here := thread_flush f f' worker below
  have holds := h.holds _ _ top
  rw [flushes, if_pos ⟨alive, rfl⟩, List.map_cons, List.cons_append, List.cons.injEq] at holds
  refine h.set (h.ne_of_flushes (.inr ?_)) (fun j hj => ?_) ?_ (fun g hg => ?_) fun g k mem => ?_
  · simp [flushes, alive]
  · rw [flushes_of_ne hj, flushes_of_ne (here ▸ hj)]
  · rw [flushes, if_pos ⟨alive', here⟩, List.map_cons, holds.2, List.cons_append]
  · rcases List.mem_cons.mp hg with rfl | hg
    · exact ⟨rfl, rfl⟩
    · exact h.plain _ _ top g (List.mem_cons_of_mem _ hg)
  · rcases List.mem_cons.mp mem with same | mem
    · obtain ⟨rfl, rfl⟩ := by simpa using same
      exact h.known f k List.mem_cons_self
    · exact h.known g k (List.mem_cons_of_mem _ mem)

/-- The flush on top comes to its end. -/
lemma pop {f : Flush} {worker : Option Nat} {copy : Option Json} {rest : List Traffic.Frame}
    (alive : isOver f = false) (h : Carries workers delayed (.flush f worker :: below) threads)
    (top : threads[thread (.flush f worker :: below)]? = some (⟨0, f, copy, none⟩ :: rest)) :
    Carries workers delayed below (threads.set (thread (.flush f worker :: below)) rest) := by
  have holds := h.holds _ _ top
  rw [flushes, if_pos ⟨alive, rfl⟩, List.map_cons, List.cons_append, List.cons.injEq] at holds
  refine h.set (h.ne_of_flushes (.inr ?_)) (fun j hj => ?_) holds.2 (fun g hg => ?_)
    fun g k mem => ?_
  · simp [flushes, alive]
  · rw [flushes_of_ne hj]
  · exact h.plain _ _ top g (List.mem_cons_of_mem _ hg)
  · exact h.known g k (List.mem_cons_of_mem _ mem)

/-- A flush is started without a delay. -/
lemma push {f : Flush} {copy : Option Json} {frames : List Traffic.Frame}
    (alive : isOver f = false) (waits : Waits stack)
    (h : Carries workers delayed stack threads) (top : threads[thread stack]? = some frames) :
    Carries workers delayed (.flush f none :: stack)
      (threads.set (thread stack) (⟨0, f, copy, none⟩ :: frames)) := by
  refine h.set (h.ne_of_flushes waits.thread_eq_zero_or) (fun j hj => flushes_of_ne hj) ?_
    (fun g hg => ?_) fun g k mem => ?_
  · rw [flushes, if_pos ⟨alive, rfl⟩, List.map_cons, h.holds _ _ top, List.cons_append]
  · rcases List.mem_cons.mp hg with rfl | hg
    · exact ⟨rfl, rfl⟩
    · exact h.plain _ _ top g hg
  · exact h.known g k (by simpa using mem)

/-- A flush is started with a delay, in a worker of its own. -/
lemma create {f : Flush} (stage : f.stage = .draining)
    (h : Carries workers delayed stack threads) :
    Carries (workers + 1) (delayed ++ [⟨workers, f⟩]) stack
      (threads ++ [[⟨0, f, none, none⟩]]) where
  length := by simp [h.length]
  holds i frames there := by
    rw [List.getElem?_append, h.length] at there
    split at there
    · rename_i old
      have other : workers + 1 ≠ i := by omega
      simp [h.holds i frames there, waiting, other]
    · rename_i new
      obtain ⟨here, rfl⟩ := by simpa [List.getElem?_singleton] using there
      obtain rfl : i = workers + 1 := by omega
      have others : ∀ d ∈ delayed, d.worker ≠ workers := fun d mem =>
        Nat.ne_of_lt (h.apart d mem).1
      simpa [flushes_eq_nil h.known, waiting] using others
  plain i frames there := by
    rw [List.getElem?_append] at there
    split at there
    · exact h.plain i frames there
    · obtain ⟨-, rfl⟩ := by simpa [List.getElem?_singleton] using there
      simp
  known f k mem := Nat.lt_succ_of_lt (h.known f k mem)
  distinct := by
    rw [List.map_append, List.map_singleton, ← List.concat_eq_append]
    refine List.Nodup.concat (fun mem => ?_) h.distinct
    obtain ⟨d, mem, same⟩ := List.mem_map.mp mem
    exact Nat.ne_of_lt (h.apart d mem).1 same
  apart d mem := by
    rcases List.mem_append.mp mem with mem | mem
    · exact ⟨Nat.lt_succ_of_lt (h.apart d mem).1, (h.apart d mem).2⟩
    · obtain rfl := List.mem_singleton.mp mem
      exact ⟨Nat.lt_succ_self _, flushes_eq_nil h.known (Nat.lt_succ_self _)⟩
  fresh d mem := by
    rcases List.mem_append.mp mem with mem | mem
    · exact h.fresh d mem
    · obtain rfl := List.mem_singleton.mp mem
      exact stage

/-- A flush is the only one that waits in its thread. -/
lemma waiting_eq {d : Delayed} (distinct : (delayed.map Delayed.worker).Nodup)
    (mem : d ∈ delayed) : waiting (d.worker + 1) delayed = [d.flush] := by
  induction delayed with
  | nil => simp at mem
  | cons first rest ih =>
      rw [List.map_cons, List.nodup_cons] at distinct
      rw [waiting_cons]
      rcases List.mem_cons.mp mem with rfl | mem
      · have none : waiting (d.worker + 1) rest = [] := by
          rw [waiting, List.map_eq_nil_iff, List.filter_eq_nil_iff]
          intro e he same
          exact distinct.1 (List.mem_map.mpr ⟨e, he, by simpa using same⟩)
        rw [if_pos rfl, none]
      · have other : first.worker ≠ d.worker := fun same =>
          distinct.1 (List.mem_map.mpr ⟨d, mem, same.symm⟩)
        rw [if_neg (by omega), ih distinct.2 mem]

/-- A delay is over: the flush goes on in the thread that it was in. -/
lemma release {d : Delayed} (mem : d ∈ delayed) (h : Carries workers delayed stack threads) :
    Carries workers (delayed.filter fun e => e.worker != d.worker)
      (.flush d.flush (some d.worker) :: stack) threads where
  length := h.length
  holds i frames there := by
    have alive : isOver d.flush = false := by rw [isOver, h.fresh d mem]
    rw [h.holds i frames there, flushes, waiting_filter]
    by_cases hi : i = d.worker + 1
    · subst hi
      rw [waiting_eq h.distinct mem, (h.apart d mem).2, if_pos ⟨alive, rfl⟩, if_pos rfl]
      rfl
    · rw [if_neg fun both => hi both.2.symm, if_neg hi]
  plain := h.plain
  known f k hk := by
    rcases List.mem_cons.mp hk with same | hk
    · obtain ⟨rfl, rfl⟩ := by simpa using same
      exact (h.apart d mem).1
    · exact h.known f k hk
  distinct := h.distinct.sublist (List.filter_sublist.map _)
  apart e he := by
    obtain ⟨he, other⟩ := List.mem_filter.mp he
    have other : e.worker + 1 ≠ d.worker + 1 := by simpa using other
    rw [flushes_of_ne other]
    exact h.apart e he
  fresh e he := h.fresh e (List.mem_of_mem_filter he)

/-- The flushes in all threads are those of the stack that are not over and those that wait for
their delay. -/
lemma exists_mem_iff (h : Carries workers delayed stack threads) (f : Flush) :
    (∃ frames ∈ threads, ∃ g ∈ frames, g.flush = f) ↔
      (isOver f = false ∧ ∃ worker, Frame.flush f worker ∈ stack) ∨
        ∃ d ∈ delayed, d.flush = f := by
  constructor
  · rintro ⟨frames, mem, g, hg, rfl⟩
    obtain ⟨i, there⟩ := List.mem_iff_getElem?.mp mem
    have held : g.flush ∈ flushes i stack ++ waiting i delayed := by
      rw [← h.holds i frames there]
      exact List.mem_map_of_mem hg
    rcases List.mem_append.mp held with held | held
    · exact .inl (mem_of_mem_flushes held)
    · obtain ⟨d, hd, same⟩ := List.mem_map.mp held
      exact .inr ⟨d, List.mem_of_mem_filter hd, same⟩
  · intro somewhere
    obtain ⟨i, hi, held⟩ : ∃ i ≤ workers, f ∈ flushes i stack ++ waiting i delayed := by
      rcases somewhere with ⟨alive, worker, mem⟩ | ⟨d, mem, rfl⟩
      · obtain ⟨i, hi, mem⟩ := exists_mem_flushes h.known alive mem
        exact ⟨i, hi, List.mem_append_left _ mem⟩
      · refine ⟨d.worker + 1, (h.apart d mem).1, List.mem_append_right _ ?_⟩
        exact List.mem_map.mpr ⟨d, List.mem_filter.mpr ⟨mem, by simp⟩, rfl⟩
    have inside : i < threads.length := by rw [h.length]; omega
    have there := List.getElem?_eq_getElem inside
    rw [← h.holds i _ there] at held
    obtain ⟨g, hg, same⟩ := List.mem_map.mp held
    exact ⟨_, List.getElem_mem inside, g, hg, same⟩

end Carries

end Driftwatch.Rehearsal
