/-
Which objects the values of requests are written to.

* `Misdirects`: a flush adds a value to an object that was not asked for on that object.
* `NeverMisdirects`: no flush for a ledger ever does, as long as nothing else than some given
  reports is made to the ledger.
* `Collide`: two requests have the same key and different places, and the values differ.
* `Collide.misdirects`: if two requests collide, there is a run in which the second value is
  written to the place of the first request.
* `neverMisdirects_iff`: nothing is misdirected exactly if no two of the reports collide.
-/
import Driftwatch.Proofs.Merge
import Driftwatch.Proofs.Traffic.Origins

namespace Driftwatch.Traffic

variable {settings : Nat → Settings}

/-! ### Faithful reads -/

/-- A read that finds an object finds the one that was asked for. -/
def Event.Faithful : Event → Prop
  | .flush _ f (.read (.ok (some obj))) => Target.of obj = f.flush.target
  | _ => True

/-- After a run with faithful reads, copies have the place that their flushes work for. -/
lemma Run.target_copy {n : Nat} {events : List Event} {s : State}
    (run : Run settings (.start n) events s) (faithful : ∀ e ∈ events, e.Faithful) :
    ∀ f ∈ s.frames, ∀ copy, f.copy = some copy → Target.of copy = f.flush.target := by
  refine run.induct (P := fun events s => (∀ e ∈ events, e.Faithful) →
      ∀ f ∈ s.frames, ∀ copy, f.copy = some copy → Target.of copy = f.flush.target)
    (fun _ => by simp) (fun {before s₁ s₂ e} _ effect h faithful => ?_) faithful
  refine effect.forall_copies (P := fun target copy => Target.of copy = target)
    (h fun e he => faithful e (by simp [he])) fun {t f obj} event => ?_
  have answer := faithful e (by simp)
  rw [event] at answer
  exact answer

/-! ### Misdirected values -/

/-- A flush that writes an object adds a value to it that was not asked for on that object. -/
def Misdirects (events : List Event) (f : Frame) (body : Json) : Prop :=
  ∃ copy value slot, f.copy = some copy ∧ Merge.Adds copy body value slot ∧
    ∀ q, Requested f.ledger q events → q.target = Target.of body → q.slot = slot →
      q.value ≠ value

/-- As long as nothing else than the given reports is made to a ledger, and reads find what was
asked for, no flush for it misdirects a value, whatever the threads do and however the calls
end. -/
def NeverMisdirects (settings : Nat → Settings) (i : Nat) (reports : Set (Json × Report)) : Prop :=
  ∀ n events s, Run settings (.start n) events s → (∀ e ∈ events, e.Faithful) →
    (∀ t obj r, .report i t obj r ∈ events → (obj, r) ∈ reports) →
    ∀ f ∈ s.frames, f.ledger = i → ∀ a body, f.flush.stage = .writing a body →
      ¬ Misdirects events f body

/-- Two requests go under the same key but ask for different values in different places, and
there is room for the second value. -/
structure Collide (limit : Int) (q₁ q₂ : Request) : Prop where
  key : q₁.key = q₂.key
  target : q₁.target ≠ q₂.target
  value : q₁.slot = q₂.slot → q₁.value ≠ q₂.value
  room : Merge.HasRoom limit q₂.slot

/-- What is asked for when an actor is reported on an object, and when a phase is. -/
lemma Report.cases_of_request {obj : Json} {r : Report} {q : Request}
    (h : r.request obj = some q) :
    (∃ actor, r = .controller actor ∧ q = .of obj .controllers (Fingerprint.ofIdentity actor)) ∨
      ∃ p, r = .phase p ∧ q = .of obj .phase p := by
  cases r with
  | controller actor =>
      simp only [request, Request.controller, Option.ite_none_left_eq_some,
        Option.ite_none_right_eq_some, Option.some.injEq] at h
      exact .inl ⟨actor, rfl, h.2.2.symm⟩
  | phase p =>
      simp only [request, Request.phase, Option.ite_none_left_eq_some,
        Option.ite_none_right_eq_some, Option.some.injEq] at h
      exact .inr ⟨p, rfl, h.2.2.2.symm⟩

/-- A request goes under the key and to the place of the object that was reported on. -/
lemma Report.origin_of_request {obj : Json} {r : Report} {q : Request}
    (h : r.request obj = some q) : q.key = Object.key obj ∧ q.target = Target.of obj := by
  obtain ⟨actor, -, rfl⟩ | ⟨p, -, rfl⟩ := cases_of_request h <;> exact ⟨rfl, rfl⟩

/-- Fingerprints that are asked for can stand in rosters. -/
lemma Report.isClean_of_request {obj : Json} {r : Report} {q : Request}
    (h : r.request obj = some q) (slot : q.slot = .controllers) : Roster.IsClean q.value := by
  obtain ⟨actor, -, rfl⟩ | ⟨p, -, rfl⟩ := cases_of_request h
  · exact Fingerprint.isClean_ofIdentity actor
  · simp [Request.of] at slot

/-- What is misdirected comes from a collision. -/
lemma Misdirects.collide {n : Nat} {events : List Event} {s : State}
    (run : Run settings (.start n) events s) (faithful : ∀ e ∈ events, e.Faithful) {f : Frame}
    (hf : f ∈ s.frames) {a : Attempt} {body : Json} (stage : f.flush.stage = .writing a body)
    (h : Misdirects events f body) :
    ∃ q₁ q₂, Requested f.ledger q₁ events ∧ Requested f.ledger q₂ events ∧
      Collide (settings f.ledger).maxFingerprints q₁ q₂ := by
  obtain ⟨copy, value, slot, holds, adds, unasked⟩ := h
  obtain ⟨copy', holds', merged⟩ := run.writesMerge f hf a body stage
  obtain rfl : copy = copy' := Option.some.inj (holds.symm.trans holds')
  obtain ⟨origin, values⟩ := run.isFounded f hf
  have batch : f.batch = a.batch := by rw [Frame.batch, stage]
  rw [batch] at values
  have clean : ∀ v ∈ a.batch.values .controllers, Roster.IsClean v := by
    intro v hv
    obtain ⟨q, ⟨t, obj, r, -, request⟩, -, slot, rfl⟩ := values .controllers v hv
    exact Report.isClean_of_request request slot
  obtain ⟨taken, room⟩ := adds.mem_values merged clean
  obtain ⟨q₁, requested₁, key₁, target₁⟩ := origin
  obtain ⟨q₂, requested₂, key₂, rfl, rfl⟩ := values slot value taken
  -- the flush works for the place of the first request, and that is where it writes
  have place : q₁.target = Target.of body := by
    rw [target₁, (Merge.keeps_apply merged).target, run.target_copy faithful f hf copy holds]
  refine ⟨q₁, q₂, requested₁, requested₂, key₁.trans key₂.symm, fun same => ?_, ?_, room⟩
  · exact unasked q₂ requested₂ (same ▸ place) rfl rfl
  · exact unasked q₁ requested₁ place

/-! ### A lone flush -/

/-- One flush is under way in a thread, and the second thread has nothing to do. -/
structure State.Lone (s : State) (t : Nat) (f : Frame) : Prop where
  top : s.threads[t]? = some [f]
  idle : s.threads[1]? = some []

namespace State.Lone

variable {s : State} {t : Nat} {f : Frame}

lemma ne_one (lone : s.Lone t f) : t ≠ 1 := by
  rintro rfl
  simpa using lone.top.symm.trans lone.idle

lemma mem_frames (lone : s.Lone t f) : f ∈ s.frames := by
  rw [State.frames_pop lone.top]
  exact Multiset.mem_cons_self _ _

lemma setThread (lone : s.Lone t f) (f' : Frame) : (s.setThread t [f']).Lone t f' where
  top := by
    obtain ⟨ht, -⟩ := List.getElem?_eq_some_iff.mp lone.top
    simp [State.setThread, ht]
  idle := by
    rw [State.setThread, List.getElem?_set_ne lone.ne_one]
    exact lone.idle

lemma setLedger (lone : s.Lone t f) (i : Nat) (ledger : Ledger) :
    (s.setLedger i ledger).Lone t f :=
  ⟨lone.top, lone.idle⟩

/-- The second of two threads has nothing to do when the first one starts a flush. -/
lemma launch {s : State} (threads : s.threads = [[], []]) (settings : Settings) (f : Frame) :
    ∃ t, (s.launch settings 0 f).Lone t f := by
  rw [State.launch]
  split
  · exact ⟨0, by simp [State.setThread, threads], by simp [State.setThread, threads]⟩
  · exact ⟨2, by simp [threads], by simp [threads]⟩

/-- The flush goes on. -/
lemma move (settings : Nat → Settings) (lone : s.Lone t f) (calm : f.interrupt = none)
    {act : Act} {f' : Frame} (move : f.Move (settings f.ledger) act f') :
    ∃ s', Step settings s (.flush t f act) s' ∧ s'.Lone t f' ∧ s'.ledgers = s.ledgers :=
  ⟨_, .move lone.top calm move, lone.setThread f', rfl⟩

/-- The flush takes a batch. -/
lemma take (settings : Nat → Settings) (lone : s.Lone t f) (calm : f.interrupt = none)
    (stage : f.flush.stage = .draining) {batch : Batch}
    (taken : ((s.ledgers f.ledger).take f.flush.key).1 = some batch) :
    ∃ s', Step settings s (.flush t f (.take (some batch))) s' ∧
      s'.Lone t (f.proceed (Flush.afterTake (settings f.ledger) (some batch))) ∧
      s'.ledgers f.ledger = ((s.ledgers f.ledger).take f.flush.key).2 :=
  ⟨_, .take lone.top calm stage taken, (lone.setLedger _ _).setThread _,
    Function.update_self _ _ _⟩

/-- The second thread reports something for the key of the flush. -/
lemma join (settings : Nat → Settings) (lone : s.Lone t f) {obj : Json} {r : Report} {q : Request}
    (request : r.request obj = some q) (marked : q.key ∈ (s.ledgers f.ledger).active) :
    ∃ s', Step settings s (.report f.ledger 1 obj r) s' ∧ s'.Lone t f ∧
      s'.ledgers f.ledger = ((s.ledgers f.ledger).submit q.key q.slot q.value).2 := by
  refine ⟨_, .submit ⟨[], lone.idle, by simp⟩ request, ?_⟩
  rw [State.submit_of_mem marked]
  exact ⟨lone.setLedger _ _, Function.update_self _ _ _⟩

end State.Lone

/-- A value that is the first to be asked for under its key is all that is taken. -/
lemma take_submit {l : Ledger} {key : String} (none : l.batch? key = none) (slot : Slot)
    (value : String) : ((l.submit key slot value).2.take key).1 = some [(slot, [value])] := by
  rw [Ledger.take, Ledger.batch?_submit, if_pos rfl, none]
  rfl

/-! ### Collisions -/

/-- The object of a place that shows a phase and nothing else. -/
def blank (target : Target) (phase : String) : Json :=
  .object [("apiVersion", target.apiVersion), ("kind", target.kind),
    ("metadata", .object [("name", .text target.name), ("namespace", .text target.namespaceName),
      ("annotations", .object [(Vocabulary.phase, .text phase)])])]

lemma target_blank (target : Target) (phase : String) : Target.of (blank target phase) = target :=
  rfl

lemma controllers_blank (target : Target) (phase : String) :
    Roster.parse (Object.annotationText (blank target phase) Vocabulary.controllers) = [] := by
  have text : Object.annotationText (blank target phase) Vocabulary.controllers = "" := rfl
  rw [text]
  decide

lemma phase_blank (target : Target) (phase : String) :
    Object.annotationText (blank target phase) Vocabulary.phase = phase := rfl

/-- A batch that changes something is written to a blank object. -/
lemma apply_blank {limit : Int} {target : Target} {phase : String} {batch : Batch}
    (h : Merge.changes limit (blank target phase) batch ≠ []) :
    ∃ body, Merge.apply limit (blank target phase) batch = .ok (some body) := by
  rw [Merge.apply]
  split
  · exact absurd ‹_› h
  · exact ⟨_, rfl⟩

/-- A fingerprint can be added to some object of any place, if there is room for it. -/
lemma exists_adds_controllers {limit : Int} (room : 1 ≤ limit) {value : String}
    (clean : Roster.IsClean value) (target : Target) :
    ∃ obj body, Target.of obj = target ∧
      Merge.apply limit obj [(.controllers, [value])] = .ok (some body) ∧
      Merge.Adds obj body value .controllers := by
  have values : Batch.values [(.controllers, [value])] .controllers = [value] := rfl
  have merged : Merge.fingerprints limit [] [value] = [value] := by
    have all : (1 - limit).toNat = 0 := by omega
    simp [Merge.fingerprints, Roster.append, Roster.newest, all]
  have change : Merge.changes limit (blank target "") [(.controllers, [value])] ≠ [] := by
    simp [Merge.changes, Merge.controllersChange, controllers_blank, values, merged]
  obtain ⟨body, written⟩ := apply_blank change
  refine ⟨blank target "", body, target_blank target "", written, ?_, ?_⟩
  · rw [Merge.roster_apply written (by simpa [values] using clean), controllers_blank, values,
      merged]
    exact List.mem_singleton_self value
  · rw [controllers_blank]
    exact List.not_mem_nil

/-- A phase can be added to some object of any place. -/
lemma exists_adds_phase (limit : Int) (value : String) (target : Target) :
    ∃ obj body, Target.of obj = target ∧
      Merge.apply limit obj [(.phase, [value])] = .ok (some body) ∧
      Merge.Adds obj body value .phase := by
  have values : Batch.values [(.phase, [value])] .phase = [value] := rfl
  -- the object shows another phase, and one that something can follow on
  obtain ⟨shown, other, unfinished⟩ : ∃ shown, shown ≠ value ∧ shown ≠ Vocabulary.initialized := by
    by_cases h : value = ""
    · exact ⟨"x", by simp [h], by decide⟩
    · exact ⟨"", Ne.symm h, by decide⟩
  have merged : Merge.phase shown [value] = value := by simp [Merge.phase, unfinished]
  have change : Merge.changes limit (blank target shown) [(.phase, [value])] ≠ [] := by
    simp [Merge.changes, Merge.phaseChange, phase_blank, values, merged, Ne.symm other]
  obtain ⟨body, written⟩ := apply_blank change
  refine ⟨blank target shown, body, target_blank target shown, written, ?_, ?_⟩
  · rw [Merge.phase_apply written, phase_blank, values, merged]
  · rwa [phase_blank]

/-- Any value can be added to some object of any place, if there is room for it. -/
lemma exists_adds {limit : Int} {slot : Slot} {value : String} (room : Merge.HasRoom limit slot)
    (clean : slot = .controllers → Roster.IsClean value) (target : Target) :
    ∃ obj body, Target.of obj = target ∧
      Merge.apply limit obj [(slot, [value])] = .ok (some body) ∧
      Merge.Adds obj body value slot := by
  cases slot with
  | controllers => exact exists_adds_controllers room (clean rfl) target
  | phase => exact exists_adds_phase limit value target

/-- A first request starts a flush. -/
lemma exists_run_start (settings : Nat → Settings) (i : Nat) {obj : Json} {r : Report}
    {q : Request} (request : r.request obj = some q) :
    ∃ s t, Run settings (.start 2) [.report i 0 obj r] s ∧ s.Lone t (.start i q) ∧
      s.ledgers i = (Ledger.empty.submit q.key q.slot q.value).2 := by
  have run : Run settings (.start 2) [] (.start 2) := .nil
  have run := run.snoc (e := .report i 0 obj r) (.submit ⟨[], rfl, by simp⟩ request)
  rw [State.submit_of_not_mem List.not_mem_nil] at run
  obtain ⟨t, lone⟩ := State.Lone.launch
    (s := (State.start 2).setLedger i (Ledger.empty.submit q.key q.slot q.value).2) rfl
    (settings i) (.start i q)
  refine ⟨_, t, run, lone, ?_⟩
  rw [State.ledgers_launch]
  exact Function.update_self _ _ _

/-- Two requests with the same key, one after the other: the flush that the first one starts is
about to read the object for the second one alone. -/
lemma exists_run_reading (settings : Nat → Settings) (i : Nat) {obj₁ obj₂ : Json}
    {r₁ r₂ : Report} {q₁ q₂ : Request} (request₁ : r₁.request obj₁ = some q₁)
    (request₂ : r₂.request obj₂ = some q₂) (key : q₁.key = q₂.key) :
    ∃ events s t f a, Run settings (.start 2) events s ∧ (∀ e ∈ events, e.Faithful) ∧
      (∀ j t obj r, .report j t obj r ∈ events →
        obj = obj₁ ∧ r = r₁ ∨ obj = obj₂ ∧ r = r₂) ∧
      s.Lone t f ∧ f.interrupt = none ∧ f.ledger = i ∧ f.flush.target = q₁.target ∧
      f.flush.stage = .reading a ∧ a.batch = [(q₂.slot, [q₂.value])] := by
  obtain ⟨s₁, t, run, lone, table₁⟩ := exists_run_start settings i request₁
  -- the object is gone when the first batch is to be written
  have taken₁ : ((s₁.ledgers i).take q₁.key).1 = some [(q₁.slot, [q₁.value])] := by
    rw [table₁]
    exact take_submit rfl _ _
  obtain ⟨s₂, step₁, lone, table₂⟩ := lone.take settings rfl rfl taken₁
  obtain ⟨s₃, step₂, lone, table₃⟩ := lone.move settings rfl (.read (.ok none) rfl)
  -- then there is the second request, and nothing else
  have table₃ : s₃.ledgers i = ((s₁.ledgers i).take q₁.key).2 := by
    rw [table₃]
    exact table₂
  have marked : q₂.key ∈ (s₃.ledgers i).active := by
    rw [table₃, Ledger.active_take_of_some taken₁, table₁, Ledger.mem_active_submit]
    exact .inl key.symm
  have none : (s₃.ledgers i).batch? q₂.key = none := by
    rw [table₃, Ledger.batch?_take, if_pos key.symm]
  obtain ⟨s₄, step₃, lone, table₄⟩ := lone.join settings request₂ marked
  have taken₂ : ((s₄.ledgers i).take q₁.key).1 = some [(q₂.slot, [q₂.value])] := by
    rw [key]
    exact (congrArg (fun l => (Ledger.take l q₂.key).1) table₄).trans (take_submit none _ _)
  obtain ⟨s₅, step₄, lone, -⟩ := lone.take settings rfl rfl taken₂
  refine ⟨_, s₅, t, _, _, (((run.snoc step₁).snoc step₂).snoc step₃).snoc step₄, ?_, ?_, lone, rfl,
    rfl, rfl, rfl, rfl⟩
  · simp [Event.Faithful]
  · intro j t' obj r h
    have h : j = i ∧ t' = 0 ∧ obj = obj₁ ∧ r = r₁ ∨ j = i ∧ t' = 1 ∧ obj = obj₂ ∧ r = r₂ := by
      simpa [Frame.start, Frame.proceed, Frame.afterRead] using h
    exact h.imp (fun h => h.2.2) fun h => h.2.2

/-- **A collision misdirects.**  The first request starts a flush, whose first read finds no
object; the second one joins the flush, and its value is written to the place of the first. -/
lemma Collide.misdirects {i : Nat} {obj₁ obj₂ : Json} {r₁ r₂ : Report} {q₁ q₂ : Request}
    (request₁ : r₁.request obj₁ = some q₁) (request₂ : r₂.request obj₂ = some q₂)
    (collide : Collide (settings i).maxFingerprints q₁ q₂) :
    ¬ NeverMisdirects settings i {(obj₁, r₁), (obj₂, r₂)} := by
  intro never
  obtain ⟨events, s, t, f, a, run, faithful, reports, lone, calm, ledger, target, stage, batch⟩ :=
    exists_run_reading settings i request₁ request₂ collide.key
  subst ledger
  obtain ⟨obj, body, place, written, adds⟩ := exists_adds collide.room
    (fun slot => Report.isClean_of_request request₂ slot) q₁.target
  -- the object that is read now shows something else than the second value
  obtain ⟨s', step, lone, -⟩ := lone.move settings calm (.read (.ok (some obj)) stage)
  have writing : (f.afterRead (settings f.ledger) a (.ok (some obj))).flush.stage =
      .writing a body := by
    rw [Frame.afterRead, Frame.proceed, Flush.afterRead, batch, written]
  refine never 2 _ s' (run.snoc step) (fun e he => ?_) (fun t' obj' r' h => ?_) _
    lone.mem_frames rfl a body writing ?_
  · rcases List.mem_append.mp he with he | he
    · exact faithful e he
    · rw [List.mem_singleton.mp he]
      exact place.trans target.symm
  · have h := reports f.ledger t' obj' r' (by simpa using h)
    simpa using h
  · refine ⟨obj, q₂.value, q₂.slot, rfl, adds, fun q requested same slot value => ?_⟩
    obtain ⟨t', obj', r', h, request⟩ := requested
    rw [(Merge.keeps_apply written).target, place] at same
    have h := (List.mem_append.mp h).resolve_right (by simp)
    rcases reports f.ledger t' obj' r' h with ⟨rfl, rfl⟩ | ⟨rfl, rfl⟩
    · obtain rfl := Option.some.inj (request₁.symm.trans request)
      exact collide.value slot value
    · obtain rfl := Option.some.inj (request₂.symm.trans request)
      exact collide.target same.symm

/-- **Where values go**: no value is ever written to an object on which it was not asked for,
exactly if no two of the requests that can reach the ledger go under the same key for different
places, with different values and room for the second one. -/
theorem neverMisdirects_iff (settings : Nat → Settings) (i : Nat) (reports : Set (Json × Report)) :
    NeverMisdirects settings i reports ↔
      ∀ c₁ ∈ reports, ∀ c₂ ∈ reports, ∀ q₁ q₂, c₁.2.request c₁.1 = some q₁ →
        c₂.2.request c₂.1 = some q₂ → ¬ Collide (settings i).maxFingerprints q₁ q₂ := by
  constructor
  · rintro never c₁ h₁ c₂ h₂ q₁ q₂ request₁ request₂ collide
    refine collide.misdirects request₁ request₂ fun n events s run faithful within => ?_
    refine never n events s run faithful fun t obj r h => ?_
    rcases within t obj r h with same | same
    · exact same ▸ h₁
    · exact (Set.mem_singleton_iff.mp same) ▸ h₂
  · rintro apart n events s run faithful within f hf rfl a body stage misdirects
    obtain ⟨q₁, q₂, ⟨t₁, obj₁, r₁, h₁, request₁⟩, ⟨t₂, obj₂, r₂, h₂, request₂⟩, collide⟩ :=
      misdirects.collide run faithful hf stage
    exact apart _ (within t₁ obj₁ r₁ h₁) _ (within t₂ obj₂ r₂ h₂) q₁ q₂ request₁ request₂ collide

/-- Two widgets of different API versions go under the same key: the phase of the second one can
be written to the first one. -/
theorem phase_written_to_other_widget : ¬ NeverMisdirects (fun _ => {}) 0
    {(widget "apps.example.org/v1" "web", .phase "initializing"),
      (widget "infra.example.org/v1" "web", .phase "initialized")} :=
  Collide.misdirects rfl rfl
    { key := rfl
      target := by decide
      value := fun _ => by decide
      room := trivial }

end Driftwatch.Traffic
