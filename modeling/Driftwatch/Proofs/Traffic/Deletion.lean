/-
What is recorded on objects that are being deleted.

* `Object.IsDeleting`: the deletion of an object was asked for.
* `RecordsOnDeleting`: what a flush writes is such an object, and its phase is not the one of the
  copy that was read.
* `World.OnlyReports`: nothing else than some given reports is made to a ledger.
* `World.SparesDeleting`: no flush for the ledger records a phase on such an object then.
* `sparesDeleting_iff`: this is so exactly if none of the reports asks for a phase: the marker is
  looked for in the object that is reported on, and not in the one that is read.
-/
import Driftwatch.Proofs.Traffic.Phases
import Driftwatch.Proofs.Traffic.Targets

namespace Driftwatch

/-! ### Deletion and phases -/

/-- The deletion of an object was asked for. -/
def Object.IsDeleting (obj : Json) : Prop :=
  (Object.deletionTimestamp obj).isSome = true

/-- What stands in the annotations of an object as its phase, be it a text or not. -/
def Object.phaseField? (obj : Json) : Option Json :=
  (Object.mapAt obj ["metadata", "annotations"]).get? Vocabulary.phase

namespace Merge

/-- Folding a batch in keeps the marker of a deletion. -/
lemma Keeps.isDeleting_iff {obj obj' : Json} (h : Keeps obj obj') :
    Object.IsDeleting obj' ↔ Object.IsDeleting obj := by
  rw [Object.IsDeleting, Object.IsDeleting, Object.deletionTimestamp, Object.deletionTimestamp,
    h.lookup "deletionTimestamp" (by decide) (by decide)]

/-- A batch without phases leaves the phase as it stands. -/
lemma phaseField?_of_values_eq_nil {limit : Int} {obj body : Json} {batch : Batch}
    (h : apply limit obj batch = .ok (some body)) (none : batch.values .phase = []) :
    Object.phaseField? body = Object.phaseField? obj := by
  have same : phaseChange obj batch = .none := by simp [phaseChange, none, phase]
  obtain ⟨fields, before, after⟩ := mapAt_annotate (annotate_of_apply h)
  rw [Object.phaseField?, Object.phaseField?, before, after]
  refine field?_setTexts_of_ne (fun c hc => ?_) fields
  rw [changes, same, Option.toList_none, List.map_nil, List.append_nil, List.mem_map] at hc
  obtain ⟨v, -, rfl⟩ := hc
  change Vocabulary.controllers ≠ Vocabulary.phase
  decide

/-- Where the same stands as a phase, the same phase is shown. -/
lemma annotationText_of_phaseField? {obj obj' : Json}
    (h : Object.phaseField? obj' = Object.phaseField? obj) :
    Object.annotationText obj' Vocabulary.phase = Object.annotationText obj Vocabulary.phase := by
  rw [Object.annotationText, ← Object.phaseField?, h, Object.phaseField?, ← Object.annotationText]

end Merge

namespace Traffic

variable {settings : Nat → Settings}

/-- A flush that writes an object that is being deleted changes its phase. -/
def RecordsOnDeleting (f : Frame) (body : Json) : Prop :=
  Object.IsDeleting body ∧
    ∃ copy, f.copy = some copy ∧ Object.phaseField? body ≠ Object.phaseField? copy

namespace World

/-- Nothing else than the given reports is made to a ledger. -/
def OnlyReports (i : Nat) (reports : Set (Json × Report)) (_ : World) : Event → Prop
  | .inner (.report j _ obj r) => j = i → (obj, r) ∈ reports
  | _ => True

/-- As long as nothing else than the given reports is made to a ledger, no flush for it records a
phase on an object that is being deleted, whatever the threads and others do and however the calls
end. -/
def SparesDeleting (settings : Nat → Settings) (i : Nat) (reports : Set (Json × Report)) : Prop :=
  ∀ n events w, Run settings (OnlyReports i reports) (.start n) events w →
    ∀ f ∈ w.traffic.frames, f.ledger = i → ∀ a body, f.flush.stage = .writing a body →
      ¬ RecordsOnDeleting f body

variable {i : Nat} {reports : Set (Json × Report)}

/-- All reports of such a run are among the given ones. -/
lemma Run.mem_reports {w w' : World} {events : List Event}
    (run : Run settings (OnlyReports i reports) w events w') {t : Nat} {obj : Json} {r : Report}
    (h : Traffic.Event.report i t obj r ∈ events.filterMap Event.inner?) : (obj, r) ∈ reports := by
  induction run with
  | nil => simp at h
  | @snoc events w' w'' e run step only ih =>
      rw [List.filterMap_append, List.mem_append] at h
      rcases h with h | h
      · exact ih h
      · cases e with
        | inner e =>
            obtain rfl : Traffic.Event.report i t obj r = e := by simpa [Event.inner?] using h
            exact only rfl
        | _ => simp [Event.inner?] at h

/-- What threads do on their own, they do next to a server that answers it. -/
lemma Run.of_inner {w : World} {events : List Traffic.Event} {s : State}
    (run : Traffic.Run settings w.traffic events s) (answers : ∀ e ∈ events, w.server.Answers e)
    (only : ∀ e ∈ events, OnlyReports i reports w (.inner e)) :
    Run settings (OnlyReports i reports) w (events.map .inner) { w with traffic := s } := by
  induction run with
  | nil => exact .nil
  | @snoc events s' s'' e run step ih =>
      rw [List.map_append]
      have before := ih (fun e he => answers e (by simp [he])) fun e he => only e (by simp [he])
      exact before.snoc (.inner step (answers e (by simp))) (only e (by simp))

/-- Without phases among what is asked for, the phases of all objects stay. -/
lemma sparesDeleting_of_controllers
    (h : ∀ c ∈ reports, ∀ q, c.2.request c.1 = some q → q.slot ≠ .phase) :
    SparesDeleting settings i reports := by
  rintro n events w run f hf rfl a body stage ⟨-, copy, holds, changed⟩
  obtain ⟨copy', holds', merged⟩ := run.inner.writesMerge f hf a body stage
  obtain rfl : copy = copy' := Option.some.inj (holds.symm.trans holds')
  have batch : f.batch = a.batch := by rw [Frame.batch, stage]
  refine changed (Merge.phaseField?_of_values_eq_nil merged ?_)
  refine List.eq_nil_iff_forall_not_mem.mpr fun value mem => ?_
  obtain ⟨q, ⟨t, obj, r, reported, request⟩, -, slot, -⟩ :=
    (run.inner.isFounded f hf).values .phase value (batch ▸ mem)
  exact h _ (run.mem_reports reported) q request slot

/-! ### A phase that is recorded -/

/-- The object of a place that shows a phase and is being deleted. -/
def doomed (target : Target) (phase : String) : Json :=
  .object [("apiVersion", target.apiVersion), ("kind", target.kind),
    ("metadata", .object [("name", .text target.name), ("namespace", .text target.namespaceName),
      ("deletionTimestamp", .text "2024-05-01T10:00:00Z"), ("resourceVersion", .text "1"),
      ("annotations", .object [(Vocabulary.phase, .text phase)])])]

lemma keyOf_doomed (target : Target) (phase : String) :
    Store.keyOf (doomed target phase) = Store.keyText target.apiVersion target.kind
      (.text target.namespaceName) (.text target.name) := rfl

/-- There is an object of any place that is being deleted and that a phase can be written to. -/
lemma exists_recordsOnDeleting (limit : Int) (target : Target) (value : String) :
    ∃ shown body, Merge.apply limit (doomed target shown) [(.phase, [value])] = .ok (some body) ∧
      Object.phaseField? body ≠ Object.phaseField? (doomed target shown) := by
  -- the object shows another phase, and one that something can follow on
  obtain ⟨shown, other, unfinished⟩ : ∃ shown, shown ≠ value ∧ shown ≠ Vocabulary.initialized := by
    by_cases h : value = ""
    · exact ⟨"x", by simp [h], by decide⟩
    · exact ⟨"", Ne.symm h, by decide⟩
  have values : Batch.values [(.phase, [value])] .phase = [value] := rfl
  have before : Object.annotationText (doomed target shown) Vocabulary.phase = shown := rfl
  have merged : Merge.phase shown [value] = value := by simp [Merge.phase, unfinished]
  have change : Merge.changes limit (doomed target shown) [(.phase, [value])] ≠ [] := by
    simp [Merge.changes, Merge.phaseChange, before, values, merged, Ne.symm other]
  obtain ⟨body, written⟩ : ∃ body,
      Merge.apply limit (doomed target shown) [(.phase, [value])] = .ok (some body) := by
    rw [Merge.apply]
    split
    · exact absurd ‹_› change
    · exact ⟨_, rfl⟩
  refine ⟨shown, body, written, fun same => other ?_⟩
  have after := Merge.phase_apply written
  rw [Merge.annotationText_of_phaseField? same, before, values, merged] at after
  exact after

/-- **A phase that is asked for is recorded on an object that is being deleted**, if the object that
is reported on is a copy from before. -/
lemma not_sparesDeleting {obj : Json} {r : Report} {q : Request}
    (request : r.request obj = some q) (slot : q.slot = .phase) :
    ¬ SparesDeleting settings i {(obj, r)} := by
  intro spares
  obtain ⟨shown, body, written, changed⟩ :=
    exists_recordsOnDeleting (settings i).maxFingerprints q.target q.value
  have placed : Run settings (OnlyReports i {(obj, r)}) (.start 2) ([] ++ [.write _])
      { (start 2) with server := Server.empty.keep (doomed q.target shown) } :=
    .snoc .nil (.write fun _ none => none.elim) trivial
  -- the report starts a flush, which takes its batch and reads what is stored
  obtain ⟨s₁, t, run, lone, table⟩ := exists_run_start settings i request
  have taken : ((s₁.ledgers i).take q.key).1 = some [(.phase, [q.value])] := by
    rw [table, ← slot]
    exact take_submit rfl _ _
  obtain ⟨s₂, take, lone, -⟩ := lone.take settings rfl rfl taken
  obtain ⟨s₃, read, lone, -⟩ :=
    lone.move settings rfl (.read (.ok (some (doomed q.target shown))) rfl)
  have whole : Run settings (OnlyReports i {(obj, r)}) _ _ _ := Run.of_inner
    (w := { (start 2) with server := Server.empty.keep (doomed q.target shown) })
    ((run.snoc take).snoc read)
    (by
      rintro e he
      simp only [List.append_assoc, List.mem_append, List.mem_cons, List.not_mem_nil,
        or_false] at he
      rcases he with rfl | rfl | rfl
      · trivial
      · trivial
      · exact ⟨.inl rfl, keyOf_doomed q.target shown⟩)
    (by simp [OnlyReports])
  let a : Attempt :=
    { batch := [(.phase, [q.value])], number := 1, pause := (settings i).firstPause }
  have writing : (Flush.afterRead (settings i) q.key a (.ok (some (doomed q.target shown)))).1 =
      .writing a body := by
    rw [Flush.afterRead, written]
  exact spares 2 _ _ (placed.append whole) _ lone.mem_frames rfl a body writing
    ⟨(Merge.keeps_apply written).isDeleting_iff.mpr rfl, _, rfl, changed⟩

end World

/-- **Phases of objects that are being deleted**: no phase is ever recorded on one exactly if no
phase is asked for at all.  One that is asked for on a copy without the marker of the deletion is
recorded on the object that is read, with the marker. -/
theorem sparesDeleting_iff (settings : Nat → Settings) (i : Nat) (reports : Set (Json × Report)) :
    World.SparesDeleting settings i reports ↔
      ∀ c ∈ reports, ∀ q, c.2.request c.1 = some q → q.slot ≠ .phase := by
  refine ⟨fun spares c hc q request slot => ?_, World.sparesDeleting_of_controllers⟩
  have recorded : ¬ World.SparesDeleting settings i {(c.1, c.2)} :=
    World.not_sparesDeleting request slot
  refine recorded fun n events w run => spares n events w (run.mono fun _ e only => ?_)
  cases e with
  | inner e =>
      cases e with
      | report j t obj r =>
          intro same
          rw [Set.mem_singleton_iff.mp (only same)]
          exact hc
      | flush t f act => trivial
  | _ => trivial

/-- A widget is reported as initialized on a copy from before its deletion was asked for: the phase
is written to the widget that is being deleted. -/
theorem phase_recorded_on_deleting_widget :
    ¬ World.SparesDeleting (fun _ => {}) 0 {(widget "apps/v1" "web", .phase "initialized")} :=
  World.not_sparesDeleting (q := .of (widget "apps/v1" "web") .phase "initialized") rfl rfl

end Traffic

end Driftwatch
