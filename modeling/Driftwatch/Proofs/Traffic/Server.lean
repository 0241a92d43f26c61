/-
The server that ledgers and others write to.

* `Server`: the objects that are stored, and all that ever were.
* `Server.Accepts`: a write is accepted exactly if the object has not changed since it was read:
  the resource version that it shows must be the stored one.
* `World`, `World.Step`, `World.Reachable`: traffic on ledgers next to the server, which answers
  their reads, accepts their writes, and is written to by anybody else.
* `World.IsCoherent`: the stored objects are told apart from all earlier ones by their versions,
  and flushes hold copies of objects that were stored; every step preserves this.
* `accepted_write_folds_into_stored`: an accepted write is the stored object with the batch
  folded in.
-/
import Driftwatch.Proofs.Merge
import Driftwatch.Proofs.Traffic.Origins

namespace Driftwatch.Traffic

variable {settings : Nat → Settings}

/-! ### The server -/

/-- A server with conditional writes. -/
structure Server where
  store : Store
  /-- All objects that are stored or were stored before. -/
  past : Set Json

namespace Server

/-- Nothing has been stored yet. -/
def empty : Server := { store := .empty, past := ∅ }

/-- The server with an object stored under its key. -/
def keep (server : Server) (obj : Json) : Server :=
  { store := server.store.insert (Store.keyOf obj) obj, past := insert obj server.past }

/-- The server without the object under a key. -/
def remove (server : Server) (key : String) : Server :=
  { server with store := server.store.remove key }

/-- A write is accepted if the resource version that it shows is the stored one. -/
def Accepts (server : Server) (body : Json) : Prop :=
  ∃ stored, server.store.get? (Store.keyOf body) = some stored ∧
    (Store.versionOf stored).same (Store.versionOf body) = true

/-- The resource version of an object has not been used before for its key. -/
def IsNew (server : Server) (obj : Json) : Prop :=
  ∀ old ∈ server.past, Store.keyOf old = Store.keyOf obj →
    (Store.versionOf obj).same (Store.versionOf old) = false

/-- A read is answered with an object that is stored under the key of the place, or was so
before.  Nothing is said about other answers: any call can fail, and any object can be gone. -/
def Answers (server : Server) : Event → Prop
  | .flush _ f (.read (.ok (some obj))) =>
    obj ∈ server.past ∧ Store.keyOf obj = Store.keyText f.flush.target.apiVersion
      f.flush.target.kind (.text f.flush.target.namespaceName) (.text f.flush.target.name)
  | _ => True

/-- The store that runs accepts what such a server accepts, and nothing else, as long as the
stored objects have metadata. -/
theorem accepts_of_replace {store store' : Store} {body : Json}
    (h : store.replace body = .ok store')
    (metadata : ∀ stored, store.get? (Store.keyOf body) = some stored →
      (stored.getOrNull "metadata").isObject = true) (past : Set Json) :
    (Server.mk store past).Accepts body ∧ ∃ version,
      store' = ((Server.mk store past).keep (Store.withVersion body version)).store := by
  rw [Store.replace] at h
  cases found : store.get? (Store.keyOf body) with
  | none => simp [found] at h
  | some stored =>
      simp only [found, metadata stored found, if_true] at h
      split at h
      · rename_i same
        split at h
        · rename_i version _
          refine ⟨⟨stored, found, same⟩, version, ?_⟩
          rw [keep, (Merge.keeps_withVersion body version).keyOf]
          exact (Except.ok.inj h).symm
        · simp at h
      · simp at h

end Server

/-! ### The world -/

/-- Traffic on ledgers next to a server. -/
structure World where
  traffic : State
  server : Server

namespace World

/-- So many threads, and nothing has been reported or stored yet. -/
def start (n : Nat) : World := { traffic := .start n, server := .empty }

/-- What is done in a step. -/
inductive Event
  /-- A thread does something. -/
  | inner (e : Traffic.Event)
  /-- The server accepts what a flush writes, and gives it a resource version. -/
  | accept (frame : Frame) (body : Json) (version : String)
  /-- Anybody else writes an object. -/
  | write (obj : Json)
  /-- Anybody removes the object under a key. -/
  | remove (key : String)

/-- One step of a thread, of the server, or of anybody else.  A write can be accepted at any time
while its call is under way, whatever the call is answered. -/
inductive Step (settings : Nat → Settings) : World → Event → World → Prop
  | inner {w : World} {e : Traffic.Event} {s : State} (step : Traffic.Step settings w.traffic e s)
      (answer : w.server.Answers e) : Step settings w (.inner e) { w with traffic := s }
  | accept {w : World} {f : Frame} {a : Attempt} {body : Json} {version : String}
      (frame : f ∈ w.traffic.frames) (stage : f.flush.stage = .writing a body)
      (accepts : w.server.Accepts body)
      (new : w.server.IsNew (Store.withVersion body version)) :
      Step settings w (.accept f body version)
        { w with server := w.server.keep (Store.withVersion body version) }
  | write {w : World} {obj : Json} (new : w.server.IsNew obj) :
      Step settings w (.write obj) { w with server := w.server.keep obj }
  | remove {w : World} (key : String) :
      Step settings w (.remove key) { w with server := w.server.remove key }

/-- A world after any number of steps. -/
inductive Reachable (settings : Nat → Settings) : World → Prop
  | start (n : Nat) : Reachable settings (.start n)
  | step {w w' : World} {e : Event} (reach : Reachable settings w) (step : Step settings w e w') :
      Reachable settings w'

/-- The threads run as they do without a server. -/
lemma Reachable.run {w : World} (reach : Reachable settings w) :
    ∃ n events, Run settings (.start n) events w.traffic := by
  induction reach with
  | start n => exact ⟨n, [], .nil⟩
  | step reach step ih =>
      obtain ⟨n, events, run⟩ := ih
      cases step with
      | inner step answer => exact ⟨n, _, run.snoc step⟩
      | accept frame stage accepts new => exact ⟨n, events, run⟩
      | write new => exact ⟨n, events, run⟩
      | remove key => exact ⟨n, events, run⟩

/-! ### Coherence -/

/-- Every object is stored under its key, and is told apart by its version from all objects that
were stored under the key before; and flushes hold copies of objects that were stored. -/
structure IsCoherent (w : World) : Prop where
  keyed : ∀ key stored, w.server.store.get? key = some stored → Store.keyOf stored = key
  current : ∀ key stored, w.server.store.get? key = some stored →
    ∀ old ∈ w.server.past, Store.keyOf old = key →
      (Store.versionOf stored).same (Store.versionOf old) = true → old = stored
  copies : ∀ f ∈ w.traffic.frames, ∀ copy, f.copy = some copy → copy ∈ w.server.past

lemma isCoherent_start (n : Nat) : (start n).IsCoherent := by
  refine ⟨fun key stored h => ?_, fun key stored h => ?_, fun f hf => ?_⟩
  · simp [start, Server.empty, Store.empty, Store.get?, Json.field?] at h
  · simp [start, Server.empty, Store.empty, Store.get?, Json.field?] at h
  · simp [start] at hf

/-- A new object is told apart from all earlier ones. -/
lemma IsCoherent.keep {w : World} (h : w.IsCoherent) {obj : Json} (new : w.server.IsNew obj) :
    IsCoherent { w with server := w.server.keep obj } where
  keyed key stored found := by
    rw [Server.keep, Store.get?_insert] at found
    split at found
    · rename_i same
      obtain rfl := Option.some.inj found
      exact same
    · exact h.keyed key stored found
  current key stored found old mem place same := by
    rw [Server.keep, Store.get?_insert] at found
    rcases mem with rfl | mem
    · rw [if_pos place] at found
      exact Option.some.inj found
    · split at found
      · rename_i here
        obtain rfl := Option.some.inj found
        rw [new old mem (place.trans here.symm)] at same
        exact absurd same Bool.false_ne_true
      · exact h.current key stored found old mem place same
  copies f hf copy holds := Or.inr (h.copies f hf copy holds)

/-- Without an object there is less to tell apart. -/
lemma IsCoherent.remove {w : World} (h : w.IsCoherent) (key : String) :
    IsCoherent { w with server := w.server.remove key } := by
  have before {other : String} {stored : Json}
      (found : (w.server.store.remove key).get? other = some stored) :
      w.server.store.get? other = some stored := by
    rw [Store.get?_remove] at found
    split at found
    · simp at found
    · exact found
  exact ⟨fun other stored found => h.keyed other stored (before found),
    fun other stored found => h.current other stored (before found), h.copies⟩

/-- What a thread reads was stored. -/
lemma IsCoherent.inner {w : World} (h : w.IsCoherent) {e : Traffic.Event} {s : State}
    (effect : Effect settings w.traffic s e) (answer : w.server.Answers e) :
    IsCoherent { w with traffic := s } where
  keyed := h.keyed
  current := h.current
  copies := by
    refine effect.forall_copies (P := fun _ copy => copy ∈ w.server.past) h.copies ?_
    rintro t f obj rfl
    exact answer.1

/-- **Coherence, one step.** -/
lemma Step.isCoherent {w w' : World} {e : Event} (step : Step settings w e w')
    (h : w.IsCoherent) : w'.IsCoherent := by
  cases step with
  | inner step answer => exact h.inner step.effect answer
  | accept frame stage accepts new => exact h.keep new
  | write new => exact h.keep new
  | remove key => exact h.remove key

/-- **Coherence**: it holds in every world that is reached. -/
lemma Reachable.isCoherent {w : World} (reach : Reachable settings w) : w.IsCoherent := by
  induction reach with
  | start n => exact isCoherent_start n
  | step reach step ih => exact step.isCoherent ih

end World

/-! ### Accepted writes -/

/-- **Nothing is overwritten.**  Whatever any number of threads and anybody else do, when the
server accepts what a flush writes, the copy that the flush holds is the object that is stored at
that moment; what gets stored in its place is this object with the batch folded in, under a new
resource version; it keeps what others have written; and all other objects stay. -/
theorem accepted_write_folds_into_stored {w w' : World} {f : Frame} {body : Json}
    {version : String} (reach : World.Reachable settings w)
    (step : World.Step settings w (.accept f body version) w') :
    ∃ a stored, f.flush.stage = .writing a body ∧
      w.server.store.get? (Store.keyOf body) = some stored ∧ f.copy = some stored ∧
      Merge.apply (settings f.ledger).maxFingerprints stored a.batch = .ok (some body) ∧
      Merge.Keeps stored (Store.withVersion body version) ∧
      ∀ key, w'.server.store.get? key =
        if Store.keyOf body = key then some (Store.withVersion body version)
        else w.server.store.get? key := by
  cases step with
  | @accept _ a _ _ frame stage accepts new =>
      obtain ⟨n, events, run⟩ := reach.run
      obtain ⟨copy, holds, merged⟩ := run.writesMerge f frame a body stage
      obtain ⟨stored, found, same⟩ := accepts
      have coherent := reach.isCoherent
      -- the body shows the version of the copy, and no two objects share one
      have place : Store.keyOf copy = Store.keyOf body := (Merge.keeps_apply merged).keyOf.symm
      rw [Merge.versionOf_apply merged] at same
      obtain rfl := coherent.current _ stored found copy (coherent.copies f frame copy holds)
        place same
      refine ⟨a, copy, stage, found, holds, merged,
        (Merge.keeps_apply merged).trans (Merge.keeps_withVersion body version), fun key => ?_⟩
      rw [Server.keep, Store.get?_insert, (Merge.keeps_withVersion body version).keyOf]

/-- Somebody changes a widget after a flush has read it: the write meets a conflict, the flush
reads again, and what is accepted then is the changed widget with the phase folded in. -/
theorem accepted_write_folds_into_changed :
    ∃ w f body w', World.Reachable (fun _ => {}) w ∧
      World.Step (fun _ => {}) w (.accept f body "3") w' ∧
      f.copy = w.server.store.get? (Store.keyOf body) ∧
      Merge.Keeps (Store.withVersion ((widget "apps/v1" "web").set "spec" (.text "new")) "2")
        (Store.withVersion body "3") := by
  have reach : World.Reachable (fun _ => {}) (.start 1) := .start 1
  have reach := reach.step (e := .write (Store.withVersion (widget "apps/v1" "web") "1"))
    (.write fun _ h => h.elim)
  have reach := reach.step
    (e := .inner (.report 0 0 (widget "apps/v1" "web") (.phase "initializing")))
    (.inner (.submit ⟨_, rfl, by simp⟩ rfl) trivial)
  have reach := reach.step (.inner (.take (t := 0) rfl rfl rfl rfl) trivial)
  have reach := reach.step (.inner (.move (t := 0) rfl rfl (.read (.ok (some _)) rfl))
    ⟨.inl rfl, rfl⟩)
  have reach := reach.step
    (e := .write (Store.withVersion ((widget "apps/v1" "web").set "spec" (.text "new")) "2"))
    (.write (by
      rintro old (rfl | none) -
      · rfl
      · exact none.elim))
  have reach := reach.step (.inner (.move (t := 0) rfl rfl (.write (.error Store.conflict) rfl))
    trivial)
  have reach := reach.step (.inner (.move (t := 0) rfl rfl (.pause rfl)) trivial)
  have reach := reach.step (.inner (.move (t := 0) rfl rfl (.read (.ok (some _)) rfl))
    ⟨.inl rfl, rfl⟩)
  have law f body w' (step : World.Step _ _ (.accept f body "3") w') :=
    And.intro step (accepted_write_folds_into_stored reach step)
  obtain ⟨step, a, stored, -, found, holds, -, keeps, -⟩ :=
    law _ _ _ (.accept (Multiset.mem_singleton_self _) rfl ⟨_, rfl, rfl⟩
      (by
        rintro old (rfl | rfl | none) -
        · rfl
        · rfl
        · exact none.elim))
  refine ⟨_, _, _, _, reach, step, holds.trans found.symm, ?_⟩
  obtain rfl := Option.some.inj (holds.symm.trans rfl)
  exact keeps

end Driftwatch.Traffic
