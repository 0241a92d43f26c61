/-
Who owns the stamp of a parent.

* `StampField`: the fields that stamps stand in; `IsReadFrom`: the one that the stamp of a parent
  is read from.
* `Entry.Owns`: a managed-fields entry owns one of these fields; an entry that claims a stamp owns
  one of them (`Entry.exists_owns_of_claims`).
* `OwnsStamp`: the controller manager of a parent owns the field that its stamp is read from.
* `IsPreempted`: the first entry that claims a stamp owns another field, and its manager does not
  own that one.
* `ownsStamp_iff_not_isPreempted`: this is what can go wrong, and nothing else.
-/
import Driftwatch.Proofs.Parent.Stamp
import Driftwatch.Proofs.Search
import Mathlib.Data.List.Basic

namespace Driftwatch.Provenance

open Parent (Stamp State)

/-! ### Fields with stamps -/

/-- A field that a stamp stands in. -/
inductive StampField
  /-- The generation stamp of the status. -/
  | status
  /-- The generation stamp of a condition of a type. -/
  | condition (type : String)

/-- The fields that a stamp is looked for in, in order of preference. -/
def stampFields : List StampField :=
  .status :: Vocabulary.stampTypes.map .condition

/-- The stamp of a parent is read from a field: from the status if it has a stamp, or else from
the first condition of type `Synced` that has one, or else from the first one of type `Ready`. -/
inductive IsReadFrom (parent : Json) (n : Int) : StampField → Prop
  | status (own : Object.intAt parent ["status", "observedGeneration"] = some n) :
      IsReadFrom parent n .status
  | synced (unsaid : Object.intAt parent ["status", "observedGeneration"] = none)
      (first : Stamp.IsFirst parent "Synced" n) : IsReadFrom parent n (.condition "Synced")
  | ready (unsaid : Object.intAt parent ["status", "observedGeneration"] = none)
      (unsynced : ∀ m, ¬ Stamp.IsFirst parent "Synced" m)
      (first : Stamp.IsFirst parent "Ready" n) : IsReadFrom parent n (.condition "Ready")

variable {parent : Json}

/-- A parent that shows a stamp has a field that it is read from. -/
lemma exists_isReadFrom_iff {n : Int} :
    (∃ field, IsReadFrom parent n field) ↔ Stamp.Shows parent n := by
  constructor
  · rintro ⟨field, own | ⟨unsaid, first⟩ | ⟨unsaid, unsynced, first⟩⟩
    · exact .status own
    · exact .synced unsaid first
    · exact .ready unsaid unsynced first
  · rintro (own | ⟨unsaid, first⟩ | ⟨unsaid, unsynced, first⟩)
    · exact ⟨_, .status own⟩
    · exact ⟨_, .synced unsaid first⟩
    · exact ⟨_, .ready unsaid unsynced first⟩

/-- The stamp of a parent is read from no more than one field. -/
lemma IsReadFrom.unique {m n : Int} {field field' : StampField} (h : IsReadFrom parent n field)
    (h' : IsReadFrom parent m field') : field = field' := by
  cases h with
  | status own =>
      cases h' with
      | status own' => rfl
      | synced unsaid' first' => simp [own] at unsaid'
      | ready unsaid' unsynced' first' => simp [own] at unsaid'
  | synced unsaid first =>
      cases h' with
      | status own' => simp [unsaid] at own'
      | synced unsaid' first' => rfl
      | ready unsaid' unsynced' first' => exact absurd first (unsynced' n)
  | ready unsaid unsynced first =>
      cases h' with
      | status own' => simp [unsaid] at own'
      | synced unsaid' first' => exact absurd first' (unsynced m)
      | ready unsaid' unsynced' first' => rfl

/-! ### Ownership -/

/-- A field tree owns a field with a stamp: below the status, or below the item of a condition of
the type. -/
def OwnsField (room : Room) (tree : Json) : StampField → Prop
  | .status => ((tree.getOrNull "f:status").get? stampKey).isSome = true
  | .condition type =>
    ∃ item ∈ ((tree.getOrNull "f:status").getOrNull "f:conditions").fields, ∃ key,
      itemKey? room item.1 = .ok (some key) ∧ key.get? "type" = some (.text type) ∧
        (item.2.get? stampKey).isSome = true

/-- A value that is the same as a text is this text. -/
lemma same_iff_eq_text {j : Json} {s : String} : Json.same j (.text s) = true ↔ j = .text s := by
  cases j with
  | text t => simp [Json.same]
  | _ => simp [Json.same]

section

variable {room : Room}

/-- An item of the conditions has one of the types and owns a stamp. -/
lemma isOwnedStamp_eq_true_iff {types : List String} {item : String × Json} :
    isOwnedStamp room (types.map .text) item = .ok true ↔
      ∃ type ∈ types, ∃ key, itemKey? room item.1 = .ok (some key) ∧
        key.get? "type" = some (.text type) ∧ (item.2.get? stampKey).isSome = true := by
  have typed (key : Json) : (types.map Json.text).any (Json.same (key.getOrNull "type")) = true ↔
      ∃ type ∈ types, key.get? "type" = some (.text type) := by
    simp only [List.any_map, List.any_eq_true, Function.comp_apply, same_iff_eq_text]
    refine exists_congr fun type => and_congr_right fun _ => ?_
    rw [Json.getOrNull]
    cases key.get? "type" <;> simp
  rw [isOwnedStamp]
  rcases itemKey? room item.1 with e | _ | key
  · simp [bind, Except.bind]
  · simp [bind, Except.bind, pure, Except.pure]
  · simp only [bind, Except.bind, pure, Except.pure, Except.ok.injEq, Bool.and_eq_true, typed,
      Option.some.injEq, exists_eq_left', ← exists_and_right, and_assoc]

/-- An item is not looked into only if its key is not. -/
lemma isOwnedStamp_eq_error_iff {types : List Json} {item : String × Json} {e : Failure} :
    isOwnedStamp room types item = .error e ↔ itemKey? room item.1 = .error e := by
  rw [isOwnedStamp]
  rcases itemKey? room item.1 with e' | _ | key
  · simp [bind, Except.bind]
  · simp [bind, Except.bind, pure, Except.pure]
  · simp [bind, Except.bind, pure, Except.pure]

/-- The condition whose stamp a field tree is found to own is of one of the given types. -/
lemma exists_ownsField_of_ownsConditionStamp {types : List String} {tree : Json}
    (h : ownsConditionStamp room (types.map .text) tree = .ok true) :
    ∃ type ∈ types, OwnsField room tree (.condition type) := by
  obtain ⟨item, reached, owned⟩ := (Search.anyM_eq_iff (by simp)).mp h
  obtain ⟨type, among, owns⟩ := isOwnedStamp_eq_true_iff.mp owned
  exact ⟨type, among, item, reached.mem, owns⟩

/-- A managed-fields entry owns a field with a stamp. -/
def Entry.Owns (room : Room) (e : Entry) (field : StampField) : Prop :=
  e.coversStatus = true ∧
    ∃ tree, e.payload.read room = .ok (.tree tree) ∧ OwnsField room (.object tree) field

/-- What an entry with a field tree claims. -/
lemma Entry.claims_of_tree {e : Entry} {tree : List (String × Json)}
    (covers : e.coversStatus = true) (read : e.payload.read room = .ok (.tree tree)) :
    e.claims room = if ownsStamp (.object tree) then .ok true
      else ownsConditionStamp room stampTypes (.object tree) := by
  rw [claims, if_pos covers, read]
  rfl

/-- An entry that does not cover the status, or that has no field tree, does not claim a stamp. -/
lemma Entry.exists_tree_of_claims {e : Entry} (h : e.claims room = .ok true) :
    e.coversStatus = true ∧ ∃ tree, e.payload.read room = .ok (.tree tree) := by
  rw [claims] at h
  split_ifs at h with covers
  · refine ⟨covers, ?_⟩
    rcases read : e.payload.read room with f | tree | _ | _
    · simp [read, bind, Except.bind] at h
    · exact ⟨tree, rfl⟩
    · simp [read, bind, Except.bind, pure, Except.pure] at h
    · simp [read, bind, Except.bind, pure, Except.pure] at h
  · simp [pure, Except.pure] at h

/-- An entry that claims a stamp owns one of the fields that a stamp is looked for in. -/
lemma Entry.exists_owns_of_claims {e : Entry} (h : e.claims room = .ok true) :
    ∃ field ∈ stampFields, e.Owns room field := by
  obtain ⟨covers, tree, read⟩ := exists_tree_of_claims h
  rw [claims_of_tree covers read] at h
  split_ifs at h with own
  · exact ⟨.status, by simp [stampFields], covers, tree, read, own⟩
  · obtain ⟨type, among, owns⟩ := exists_ownsField_of_ownsConditionStamp h
    exact ⟨.condition type, by simp [stampFields, among], covers, tree, read, owns⟩

/-- The controller manager, if it is known, is the manager of the first entry that claims a
stamp. -/
lemma manager_eq_iff {entries : List Entry} {name : Json} (known : name ≠ .text "") :
    manager room entries = .ok name ↔
      ∃ e, Search.Reaches (Entry.claims room · = .ok false) entries e ∧
        e.claims room = .ok true ∧ e.manager.isFalsy = false ∧ e.manager = name := by
  have named (e : Entry) : e.managerName = name ↔ e.manager.isFalsy = false ∧ e.manager = name := by
    rw [Entry.managerName]
    split_ifs with falsy
    · simp [falsy, Ne.symm known]
    · simp [falsy]
  rw [manager]
  rcases found : entries.findM? (Entry.claims room) with f | _ | first
  · obtain ⟨e, reached, fails⟩ := Search.findM?_eq_error_iff.mp found
    refine ⟨fun same => by simp [bind, Except.bind] at same, ?_⟩
    rintro ⟨e', reached', claims, -⟩
    have found' := Search.findM?_eq_some_iff.mpr ⟨reached', claims⟩
    simp [found] at found'
  · refine ⟨fun same => absurd (Except.ok.inj same).symm known, ?_⟩
    rintro ⟨e, reached, claims, -⟩
    simp [Search.findM?_eq_none_iff.mp found e reached.mem] at claims
  · obtain ⟨reached, claims⟩ := Search.findM?_eq_some_iff.mp found
    constructor
    · intro same
      exact ⟨first, reached, claims, (named first).mp (Except.ok.inj same)⟩
    · rintro ⟨e, reached', claims', truthy, same⟩
      have found' := Search.findM?_eq_some_iff.mpr ⟨reached', claims'⟩
      obtain rfl : first = e := Option.some.inj (Except.ok.inj (found.symm.trans found'))
      exact congrArg Except.ok ((named first).mpr ⟨truthy, same⟩)

/-- A manager that is found is falsy only if it is empty. -/
lemma isFalsy_iff_of_manager_eq {entries : List Entry} {name : Json}
    (h : manager room entries = .ok name) : name.isFalsy = true ↔ name = .text "" := by
  refine ⟨fun falsy => ?_, fun empty => by simp [empty, Json.isFalsy]⟩
  by_contra known
  obtain ⟨e, -, -, truthy, rfl⟩ := (manager_eq_iff known).mp h
  simp [truthy] at falsy

end

/-! ### The owner of the stamp -/

/-- The controller manager of a parent, if it is known, owns the field that the stamp of the parent
is read from, if there is one. -/
def OwnsStamp (room : Room) (parent : Json) : Prop :=
  ∀ owner state, State.extract room parent owner = .ok state → state.observed.present = true →
    state.controllerManager ≠ .text "" →
    ∃ field, IsReadFrom parent state.observed.value field ∧
      ∃ e ∈ State.managedFields parent, e.manager = state.controllerManager ∧ e.Owns room field

/-- The snapshot of a parent is taken, and the first entry that claims a stamp owns another field
than the one that the stamp of the parent is read from, and no entry of its manager owns that
one. -/
def IsPreempted (room : Room) (parent : Json) : Prop :=
  Object.deletionObstacle? room.time parent = none ∧
  ∃ n field before e after, IsReadFrom parent n field ∧
    State.managedFields parent = before ++ e :: after ∧
    (∀ b ∈ before, b.claims room = .ok false) ∧ e.claims room = .ok true ∧
    e.manager.isFalsy = false ∧ (∃ other ∈ stampFields, other ≠ field ∧ e.Owns room other) ∧
    ∀ e' ∈ State.managedFields parent, e'.manager = e.manager → ¬ e'.Owns room field

/-- **Who owns the stamp.**  The controller manager of a parent owns the field that the stamp of the
parent is read from, unless it is preempted by an entry for another field. -/
theorem ownsStamp_iff_not_isPreempted (room : Room) (parent : Json) :
    OwnsStamp room parent ↔ ¬ IsPreempted room parent := by
  have stamped (owner : Owner) (manager : Json) (n : Int) :
      ((State.ofObject parent owner manager).observed.present = true ∧
        (State.ofObject parent owner manager).observed.value = n) ↔
      ∃ field, IsReadFrom parent n field :=
    Stamp.ofStatus_iff.trans exists_isReadFrom_iff.symm
  constructor
  · rintro owns
      ⟨shown, n, field, before, e, after, source, parts, earlier, claims, truthy, -, unowned⟩
    have known : e.manager ≠ .text "" := fun empty => by simp [empty, Json.isFalsy] at truthy
    have manages : manager room (State.managedFields parent) = .ok e.manager :=
      (manager_eq_iff known).mpr ⟨e, ⟨before, after, parts, earlier⟩, claims, truthy, rfl⟩
    have extracted : State.extract room parent (.ofJson .null) =
        .ok (State.ofObject parent (.ofJson .null) e.manager) :=
      State.extract_eq_ok_iff.mpr ⟨_, manages, shown, rfl⟩
    have present := ((stamped (.ofJson .null) e.manager n).mpr ⟨field, source⟩).1
    obtain ⟨field', source', e', mem, same, owned⟩ := owns _ _ extracted present known
    obtain rfl := source.unique source'
    exact unowned e' mem same owned
  · intro free owner state extracted present known
    obtain ⟨name, manages, shown, rfl⟩ := State.extract_eq_ok_iff.mp extracted
    obtain ⟨field, source⟩ := (stamped owner name _).mp ⟨present, rfl⟩
    obtain ⟨e, ⟨before, after, parts, earlier⟩, claims, truthy, rfl⟩ :=
      (manager_eq_iff known).mp manages
    obtain ⟨other, among, claimed⟩ := Entry.exists_owns_of_claims claims
    apply Classical.byContradiction
    intro disowned
    have unowned : ∀ e' ∈ State.managedFields parent, e'.manager = e.manager →
        ¬ e'.Owns room field :=
      fun e' mem same owned => disowned ⟨field, source, e', mem, same, owned⟩
    -- the field that the first claimant does own is then another one
    have apart : other ≠ field := by
      rintro rfl
      exact unowned e (by simp [parts]) rfl claimed
    exact free ⟨shown, _, field, before, e, after, source, parts, earlier, claims, truthy,
      ⟨other, among, apart, claimed⟩, unowned⟩

/-- What a manager is said to own of a status. -/
def statusEntry (manager : String) (owned : List (String × Json)) : Json :=
  .object [("manager", .text manager), ("subresource", .text "status"),
    ("fieldsV1", .object [("f:status", .object owned)])]

/-- A deployment of which the manager `deployment-controller` has written the stamp of the status,
and the manager `prober` the stamp of a condition. -/
def probedDeployment : Json :=
  .object [("apiVersion", .text "apps/v1"), ("kind", .text "Deployment"),
    ("metadata", .object [("generation", .int 5), ("name", .text "web"), ("managedFields", .list
      [statusEntry "prober" [("f:conditions", .object
        [("k:\x7b\"type\":\"Ready\"\x7d", .object [(stampKey, .object [])])])],
      statusEntry "deployment-controller" [(stampKey, .object [])]])]),
    ("status", .object [("observedGeneration", .int 5), ("conditions", .list
      [.object [("type", .text "Ready"), ("status", .text "True"),
        ("observedGeneration", .int 4)]])])]

/-- The controller manager of the deployment is `prober`, which does not own the stamp of the
status. -/
theorem not_ownsStamp_probedDeployment : ¬ OwnsStamp (.below 10) probedDeployment := by
  intro owns
  have managed : manager (.below 10) (State.managedFields probedDeployment) =
    .ok (.text "prober") := by decide +kernel
  have extracted : State.extract (.below 10) probedDeployment (.ofJson .null) =
      .ok (.ofObject probedDeployment (.ofJson .null) (.text "prober")) :=
    State.extract_eq_ok_iff.mpr ⟨_, managed, rfl, rfl⟩
  obtain ⟨field, source, e, mem, same, -, tree, read, owned⟩ :=
    owns _ _ extracted (by decide +kernel) (by simp [State.ofObject])
  obtain rfl : field = .status := source.unique (.status rfl)
  obtain rfl | mem := List.mem_cons.mp (show e ∈ [_, _] from mem)
  · rw [← Payload.Reading.tree.inj (Except.ok.inj read)] at owned
    cases owned
  · cases List.mem_singleton.mp mem
    exact absurd (Json.text.inj same) (by decide)

end Driftwatch.Provenance
