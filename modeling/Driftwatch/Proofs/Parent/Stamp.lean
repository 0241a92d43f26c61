/-
Which generation a parent has caught up with.

* `Stamp.lookup_foldl_note`: going through the conditions once finds the first stamp of each type.
* `Stamp.IsFirst`: the first condition of a type that has a stamp shows a generation.
* `Stamp.Shows`: a parent shows that it has caught up with a generation: in its status, or else in
  a condition of type `Synced`, or else in one of type `Ready`.
* `Stamp.ofStatus_iff`: this is the stamp that is read off the status of the parent.
* `Stamp.Alike`: lists of conditions with the same stamps, apart from their order and from what is
  no stamp.
* `State.extract_eq_ok_iff`: what the snapshot of a parent is, and when there is one.
* `State.observed_of_conditions`: the generation of a snapshot is the one that its parent shows, and
  it is the same for conditions that are alike.
-/
import Driftwatch.Parent.State
import Mathlib.Tactic.Lemma

namespace Driftwatch

/-! ### Paths -/

namespace Object

/-- A path through an object, or through one without fields in its place, leads where the whole
path leads. -/
lemma lookup_mapAt (j : Json) (name next : String) (path : List String) :
    lookup (mapAt j [name]) (next :: path) = lookup j (name :: next :: path) := by
  simp only [mapAt, lookup]
  cases j.get? name with
  | none => rfl
  | some value => cases value <;> rfl

lemma intAt_mapAt (j : Json) (name next : String) (path : List String) :
    intAt (mapAt j [name]) (next :: path) = intAt j (name :: next :: path) := by
  rw [intAt, intAt, lookup_mapAt]

lemma listAt_mapAt (j : Json) (name next : String) (path : List String) :
    listAt (mapAt j [name]) (next :: path) = listAt j (name :: next :: path) := by
  rw [listAt, listAt, lookup_mapAt]

/-- The integer in a field. -/
lemma intAt_singleton_eq_some_iff {j : Json} {name : String} {n : Int} :
    intAt j [name] = some n ↔ j.get? name = some (.int n) := by
  cases found : j.get? name with
  | none => simp [intAt, lookup, found]
  | some value => cases value <;> simp [intAt, lookup, found]

end Object

namespace Parent

namespace Stamp

/-! ### Stamps of conditions -/

/-- The stamp of a condition of the given type. -/
def ofCondition? (type : String) (condition : Json) : Option Int :=
  if condition.getOrNull "type" = .text type then
    Object.intAt condition ["observedGeneration"]
  else none

/-- A condition is noted if it has a stamp of a type that is looked for, and none was found
before. -/
lemma lookup_note {type : String} (known : type ∈ Vocabulary.stampTypes) (found : Found)
    (condition : Json) :
    (note found condition).lookup type =
      (found.lookup type).or (ofCondition? type condition) := by
  rw [note, ofCondition?]
  cases condition.getOrNull "type" with
  | text other =>
      by_cases same : other = type
      · subst same
        cases held : found.lookup other with
        | none => cases Object.intAt condition ["observedGeneration"] <;> simp [known, held]
        | some n => simp [held]
      · have apart : (type == other) = false := beq_eq_false_iff_ne.mpr (Ne.symm same)
        cases Object.intAt condition ["observedGeneration"] <;> dsimp only <;> split <;>
          simp [same, List.lookup_cons, apart]
  | _ => simp

/-- Going through the conditions finds the first stamp of each type, unless there was one
before. -/
lemma lookup_foldl_note {type : String} (known : type ∈ Vocabulary.stampTypes)
    (conditions : List Json) (found : Found) :
    (conditions.foldl note found).lookup type =
      (found.lookup type).or (conditions.findSome? (ofCondition? type)) := by
  induction conditions generalizing found with
  | nil => simp
  | cons condition rest ih =>
      rw [List.foldl_cons, ih, lookup_note known, Option.or_assoc, List.findSome?_cons]
      cases ofCondition? type condition <;> rfl

/-- The stamp of the conditions is the first one of the type that comes first. -/
lemma ofConditions_eq (status : Json) :
    ofConditions status = Vocabulary.stampTypes.findSome? fun type =>
      (Object.listAt status ["conditions"]).findSome? (ofCondition? type) := by
  have first {type : String} (known : type ∈ Vocabulary.stampTypes) :=
    lookup_foldl_note known (Object.listAt status ["conditions"]) []
  rw [ofConditions]
  simp only [Vocabulary.stampTypes, List.findSome?_cons, List.findSome?_nil]
  rw [first (by decide), first (by decide)]
  rfl

/-- The stamp of a condition of a type is the integer in its field. -/
lemma ofCondition?_eq_some_iff {type : String} {condition : Json} {n : Int} :
    ofCondition? type condition = some n ↔ condition.get? "type" = some (.text type) ∧
      condition.get? "observedGeneration" = some (.int n) := by
  have typed : condition.getOrNull "type" = .text type ↔
      condition.get? "type" = some (.text type) := by
    rw [Json.getOrNull]
    cases condition.get? "type" <;> simp
  rw [ofCondition?, Option.ite_none_right_eq_some, typed, Object.intAt_singleton_eq_some_iff]

/-- The first condition of the type that has a stamp shows the generation. -/
def IsFirst (parent : Json) (type : String) (n : Int) : Prop :=
  ∃ before condition after,
    Object.listAt parent ["status", "conditions"] = before ++ condition :: after ∧
    condition.get? "type" = some (.text type) ∧
    condition.get? "observedGeneration" = some (.int n) ∧
    ∀ c ∈ before, c.get? "type" = some (.text type) →
      ∀ m, c.get? "observedGeneration" ≠ some (.int m)

/-- The first stamp among the conditions of a type. -/
lemma findSome?_eq_some_iff {parent : Json} {type : String} {n : Int} :
    (Object.listAt parent ["status", "conditions"]).findSome? (ofCondition? type) = some n ↔
      IsFirst parent type n := by
  have bare (c : Json) : ofCondition? type c = none ↔ (c.get? "type" = some (.text type) →
      ∀ m, c.get? "observedGeneration" ≠ some (.int m)) := by
    simp only [Option.eq_none_iff_forall_ne_some, ne_eq, ofCondition?_eq_some_iff, not_and]
    exact forall_comm
  simp only [List.findSome?_eq_some_iff, ofCondition?_eq_some_iff, bare, IsFirst, and_assoc]

/-! ### Stamps of parents -/

/-- The parent shows that it has caught up with the generation: in its status, or else in the
first condition of type `Synced` that has a stamp, or else in the first one of type `Ready`. -/
inductive Shows (parent : Json) (n : Int) : Prop
  | status (own : Object.intAt parent ["status", "observedGeneration"] = some n)
  | synced (unsaid : Object.intAt parent ["status", "observedGeneration"] = none)
      (first : IsFirst parent "Synced" n)
  | ready (unsaid : Object.intAt parent ["status", "observedGeneration"] = none)
      (unsynced : ∀ m, ¬ IsFirst parent "Synced" m) (first : IsFirst parent "Ready" n)

/-- The stamp of the conditions is one of type `Synced`, or else one of type `Ready`. -/
lemma ofConditions_eq_some_iff {parent : Json} {n : Int} :
    ofConditions (Object.mapAt parent ["status"]) = some n ↔
      IsFirst parent "Synced" n ∨
        (∀ m, ¬ IsFirst parent "Synced" m) ∧ IsFirst parent "Ready" n := by
  rw [ofConditions_eq, Object.listAt_mapAt]
  simp only [Vocabulary.stampTypes, List.findSome?_cons, List.findSome?_nil,
    ← findSome?_eq_some_iff]
  cases synced : (Object.listAt parent ["status", "conditions"]).findSome?
      (ofCondition? "Synced") with
  | some m => simp
  | none =>
      cases (Object.listAt parent ["status", "conditions"]).findSome? (ofCondition? "Ready") <;>
        simp

/-- What the stamp of the status is worth. -/
theorem ofStatus_iff {parent : Json} {n : Int} :
    (ofStatus (Object.mapAt parent ["status"])).present = true ∧
        (ofStatus (Object.mapAt parent ["status"])).value = n ↔ Shows parent n := by
  have present (found : Option Int) : (ofOption found).present = true ∧
      (ofOption found).value = n ↔ found = some n := by
    cases found <;> simp [ofOption]
  rw [ofStatus, present, Object.intAt_mapAt]
  cases own : Object.intAt parent ["status", "observedGeneration"] with
  | some m =>
      refine ⟨fun same => .status (own.trans same), fun shows => ?_⟩
      cases shows with
      | status own' => exact own.symm.trans own'
      | synced unsaid first => simp [own] at unsaid
      | ready unsaid unsynced first => simp [own] at unsaid
  | none =>
      rw [ofConditions_eq_some_iff]
      constructor
      · rintro (first | ⟨unsynced, first⟩)
        · exact .synced own first
        · exact .ready own unsynced first
      · rintro (own' | ⟨-, first⟩ | ⟨-, unsynced, first⟩)
        · simp [own] at own'
        · exact .inl first
        · exact .inr ⟨unsynced, first⟩

/-- A stamp that is not there has the value zero. -/
lemma ofOption_of_absent {found : Option Int} (absent : (ofOption found).present = false) :
    ofOption found = { value := 0, present := false } := by
  cases found with
  | none => rfl
  | some n => simp [ofOption] at absent

/-! ### Conditions in another order -/

/-- The condition shows no stamp that is looked for: it is malformed, of another type, or has no
stamp. -/
def IsBare (condition : Json) : Prop :=
  ∀ type ∈ Vocabulary.stampTypes, condition.get? "type" = some (.text type) →
    ∀ n, condition.get? "observedGeneration" ≠ some (.int n)

/-- Lists of conditions with the same stamps.  Conditions of the two types can stand in another
order, those without a stamp can stand anywhere, and others can follow when a stamp of their type
was found. -/
inductive Alike : List Json → List Json → Prop
  | refl (conditions : List Json) : Alike conditions conditions
  | symm {conditions conditions' : List Json} : Alike conditions conditions' →
      Alike conditions' conditions
  | trans {conditions conditions' conditions'' : List Json} : Alike conditions conditions' →
      Alike conditions' conditions'' → Alike conditions conditions''
  | move (before after : List Json) {synced ready : Json}
      (isSynced : synced.get? "type" = some (.text "Synced"))
      (isReady : ready.get? "type" = some (.text "Ready")) :
      Alike (before ++ synced :: ready :: after) (before ++ ready :: synced :: after)
  | insert (before after : List Json) {condition : Json} (bare : IsBare condition) :
      Alike (before ++ after) (before ++ condition :: after)
  | append {conditions : List Json} {type : String} {found condition : Json} {n : Int}
      (mem : found ∈ conditions) (typed : found.get? "type" = some (.text type))
      (stamped : found.get? "observedGeneration" = some (.int n))
      (same : condition.get? "type" = some (.text type)) :
      Alike conditions (conditions ++ [condition])

instance : Trans Alike Alike Alike := ⟨.trans⟩

/-- A condition of one type has no stamp of another. -/
lemma ofCondition?_of_ne {type other : String} {condition : Json}
    (typed : condition.get? "type" = some (.text type)) (apart : type ≠ other) :
    ofCondition? other condition = none := by
  rw [Option.eq_none_iff_forall_ne_some]
  intro n stamped
  rw [(ofCondition?_eq_some_iff.mp stamped).1] at typed
  exact apart (Json.text.inj (Option.some.inj typed)).symm

/-- Alike conditions have the same first stamp of each type. -/
lemma Alike.findSome?_eq {conditions conditions' : List Json} (h : Alike conditions conditions')
    {type : String} (known : type ∈ Vocabulary.stampTypes) :
    conditions'.findSome? (ofCondition? type) = conditions.findSome? (ofCondition? type) := by
  induction h with
  | refl => rfl
  | symm _ ih => exact ih.symm
  | trans _ _ ih ih' => exact ih'.trans ih
  | move before after isSynced isReady =>
      -- one of the two is not of the type
      by_cases synced : type = "Synced"
      · have none := ofCondition?_of_ne isReady (by rw [synced]; decide : "Ready" ≠ type)
        simp [List.findSome?_append, List.findSome?_cons, none]
      · have none := ofCondition?_of_ne isSynced (Ne.symm synced)
        simp [List.findSome?_append, List.findSome?_cons, none]
  | @insert before after condition bare =>
      have none : ofCondition? type condition = none := by
        rw [Option.eq_none_iff_forall_ne_some]
        intro n stamped
        obtain ⟨typed, stamp⟩ := ofCondition?_eq_some_iff.mp stamped
        exact bare type known typed n stamp
      simp [List.findSome?_append, none]
  | @append conditions other found condition n mem typed stamped same =>
      rw [List.findSome?_append]
      by_cases apart : other = type
      · subst apart
        have shown : (conditions.findSome? (ofCondition? other)).isSome = true :=
          List.findSome?_isSome_iff.mpr ⟨found, mem, by
            rw [ofCondition?_eq_some_iff.mpr ⟨typed, stamped⟩]; rfl⟩
        exact Option.or_of_isSome shown
      · simp [ofCondition?_of_ne same apart]

end Stamp

namespace State

open Stamp (Shows Alike)

/-- A snapshot that is taken is one of the object, with the manager that is found, and the time of
the deletion can be shown. -/
lemma extract_eq_ok_iff {room : Room} {obj : Json} {owner : Owner} {state : State} :
    extract room obj owner = .ok state ↔
      ∃ manager, Provenance.manager room (managedFields obj) = .ok manager ∧
        Object.deletionObstacle? room.time obj = none ∧ ofObject obj owner manager = state := by
  rw [extract]
  cases Provenance.manager room (managedFields obj) with
  | error e => simp [bind, Except.bind]
  | ok manager =>
      cases Object.deletionObstacle? room.time obj with
      | some obstacle => simp [bind, Except.bind]
      | none => simp [bind, Except.bind, pure, Except.pure]

/-- **The generation that a parent has caught up with.**  A snapshot has the generation that the
parent shows: that of its status, or else of the first condition of type `Synced` that has a stamp,
or else of the first one of type `Ready`.  If the parent shows none, the value is zero.  Parents
without a generation in the status itself show the same if their conditions are alike. -/
theorem observed_of_conditions (parent : Json) (owner : Owner) (manager : Json) :
    (∀ room state, extract room parent owner = .ok state →
      ∃ manager, ofObject parent owner manager = state) ∧
    (∀ n, Shows parent n →
      (ofObject parent owner manager).observed = { value := n, present := true }) ∧
    ((∀ n, ¬ Shows parent n) →
      (ofObject parent owner manager).observed = { value := 0, present := false }) ∧
    ∀ parent' manager', Object.intAt parent ["status", "observedGeneration"] = none →
      Object.intAt parent' ["status", "observedGeneration"] = none →
      Alike (Object.listAt parent ["status", "conditions"])
        (Object.listAt parent' ["status", "conditions"]) →
      (ofObject parent' owner manager').observed = (ofObject parent owner manager).observed := by
  have observed (p name : Json) : (ofObject p owner name).observed =
      Stamp.ofStatus (Object.mapAt p ["status"]) := rfl
  simp only [observed]
  refine ⟨fun room state extracted => ?_, fun n shows => ?_, fun silent => ?_,
    fun parent' _ unsaid unsaid' alike => ?_⟩
  · obtain ⟨manager, -, -, rfl⟩ := extract_eq_ok_iff.mp extracted
    exact ⟨manager, rfl⟩
  · obtain ⟨present, value⟩ := Stamp.ofStatus_iff.mpr shows
    rw [← present, ← value]
  · have absent : (Stamp.ofStatus (Object.mapAt parent ["status"])).present = false := by
      rw [Bool.eq_false_iff]
      exact fun present => silent _ (Stamp.ofStatus_iff.mp ⟨present, rfl⟩)
    exact Stamp.ofOption_of_absent absent
  · rw [Stamp.ofStatus, Stamp.ofStatus, Object.intAt_mapAt, Object.intAt_mapAt, unsaid, unsaid',
      Stamp.ofConditions_eq, Stamp.ofConditions_eq, Object.listAt_mapAt, Object.listAt_mapAt]
    simp only [Vocabulary.stampTypes, List.findSome?_cons, List.findSome?_nil]
    rw [alike.findSome?_eq (by decide), alike.findSome?_eq (by decide)]

/-- A condition of a type, with a value in the place of its stamp. -/
def conditionOf (type : String) (stamp : Json) : Json :=
  .object [("type", .text type), ("observedGeneration", stamp)]

/-- A parent with conditions, and no generation in its status itself. -/
def withConditions (conditions : List Json) : Json :=
  .object [("status", .object
    [("observedGeneration", .bool true), ("conditions", .list conditions)])]

/-- A condition of type `Synced` behind one of type `Ready`, a number, and one of its own type whose
stamp is a text; another one of its type follows. -/
def scatteredConditions : List Json :=
  [conditionOf "Ready" (.int 3), .int 7, conditionOf "Synced" (.text "5"),
    conditionOf "Synced" (.int 4), conditionOf "Synced" (.int 6)]

/-- The parent shows the generation of the first condition of type `Synced` that has one, and so
does a parent that has nothing but this condition and the one of type `Ready`. -/
theorem observed_of_conditions_scattered :
    (ofObject (withConditions scatteredConditions) (.ofJson .null) (.text "")).observed =
        { value := 4, present := true } ∧
    (ofObject (withConditions [conditionOf "Synced" (.int 4), conditionOf "Ready" (.int 3)])
      (.ofJson .null) (.text "ctrl")).observed = { value := 4, present := true } := by
  have shows : Shows (withConditions scatteredConditions) 4 := by
    refine .synced rfl ⟨[conditionOf "Ready" (.int 3), .int 7, conditionOf "Synced" (.text "5")], _,
      [conditionOf "Synced" (.int 6)], rfl, rfl, rfl, fun c mem typed m stamp => ?_⟩
    simp only [List.mem_cons, List.not_mem_nil, or_false] at mem
    obtain rfl | rfl | rfl := mem
    · exact absurd typed (by decide)
    · exact absurd typed (by decide)
    · exact absurd stamp (by simp [conditionOf, Json.get?, Json.field?])
  have bare (before after : List Json) (condition : Json)
      (unstamped : ∀ n, condition.get? "observedGeneration" ≠ some (.int n)) :
      Alike (before ++ condition :: after) (before ++ after) :=
    .symm (.insert before after fun _ _ _ => unstamped)
  have alike : Alike scatteredConditions
      [conditionOf "Synced" (.int 4), conditionOf "Ready" (.int 3)] :=
    calc
      Alike scatteredConditions [conditionOf "Ready" (.int 3), .int 7,
          conditionOf "Synced" (.text "5"), conditionOf "Synced" (.int 4)] :=
        .symm (.append (List.mem_of_getLast? rfl) rfl rfl rfl)
      Alike _ [conditionOf "Ready" (.int 3), .int 7, conditionOf "Synced" (.int 4)] :=
        bare [_, _] _ _ (by simp [conditionOf, Json.get?, Json.field?])
      Alike _ [conditionOf "Ready" (.int 3), conditionOf "Synced" (.int 4)] :=
        bare [_] _ _ (by simp [Json.get?])
      Alike _ [conditionOf "Synced" (.int 4), conditionOf "Ready" (.int 3)] :=
        .symm (.move [] [] rfl rfl)
  have scattered := (observed_of_conditions _ (.ofJson .null) (.text "")).2.1 4 shows
  refine ⟨scattered, Eq.trans ?_ scattered⟩
  exact (observed_of_conditions (withConditions scatteredConditions) _ _).2.2.2
    (withConditions [conditionOf "Synced" (.int 4), conditionOf "Ready" (.int 3)]) _ rfl rfl alike

end State

end Parent

end Driftwatch
