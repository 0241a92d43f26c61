/-
Claimants of stamps.

* `OwnsSomeStamp`: a field tree owns the stamp of the status, or the one of a condition.
* `Claims`: a managed-fields entry claims the stamp.
* `Overruns`: a managed-fields entry has a field tree, or a key in it, that is nested too deeply and
  has to be read all the same.
* `SearchOverruns`: the search for a claimant comes to such an entry; that is when it fails
  (`exists_manager_eq_error_iff`).
* `Attributes`: the manager is the one of the first claimant.
* `Alike`: lists of entries that differ by entries that do not claim the stamp, and by conditions of
  types other than `Synced` and `Ready`.
* `attributes_iff_not_searchOverruns`: the manager is the one of the first claimant, and nothing
  else matters, unless the search comes to a text that is nested too deeply.
-/
import Driftwatch.Proofs.Parent.StampOwner
import Driftwatch.Proofs.Provenance.Forms

namespace Driftwatch.Provenance

open Json (IsTextOf OverrunsText field? setField)

section

variable {room : Room}

/-! ### Keys -/

/-- The key of an item in a list of conditions: the mark `k:` and a JSON text of an object. -/
def IsKeyOf (room : Room) (key : String) (fields : List (String × Json)) : Prop :=
  ∃ cs, key.toList = 'k' :: ':' :: cs ∧ IsTextOf room.key cs (.object fields)

/-- Behind the mark `k:` there is a text that there is no room for. -/
def OverrunsKey (room : Room) (key : String) : Prop :=
  ∃ cs bracket, key.toList = 'k' :: ':' :: cs ∧ OverrunsText room.key bracket cs

lemma itemKey?_eq_some_iff {key : String} {j : Json} :
    itemKey? room key = .ok (some j) ↔ ∃ fields, j = .object fields ∧ IsKeyOf room key fields := by
  rw [itemKey?]
  split
  · rename_i cs parts
    have read {fields : List (String × Json)} :
        Json.Reader.wholeText room.key cs = .ok (.object fields) ↔ IsKeyOf room key fields := by
      rw [Json.Reader.wholeText_eq_ok_iff, IsKeyOf, parts]
      simp
    constructor
    · intro found
      split at found
      · rename_i fields whole
        exact ⟨fields, (Option.some.inj (Except.ok.inj found)).symm, read.mp whole⟩
      all_goals simp at found
    · rintro ⟨fields, rfl, isKey⟩
      rw [read.mpr isKey]
  · rename_i other
    simp only [Except.ok.injEq, reduceCtorEq, false_iff, not_exists, not_and]
    rintro fields rfl ⟨cs, parts, -⟩
    exact other cs parts

/-- A key is not looked into only if there is no room for it. -/
lemma exists_itemKey?_eq_error_iff {key : String} :
    (∃ e, itemKey? room key = .error e) ↔ OverrunsKey room key := by
  rw [itemKey?]
  split
  · rename_i cs parts
    have deep : OverrunsKey room key ↔
        ∃ bracket, Json.Reader.wholeText room.key cs = .error (.tooDeep bracket) := by
      simp [OverrunsKey, parts, Json.Reader.wholeText_eq_tooDeep_iff]
    rw [deep]
    split <;> simp_all
  · rename_i other
    simp only [reduceCtorEq, exists_false, false_iff]
    rintro ⟨cs, -, parts, -⟩
    exact other cs parts

/-- A key is one of no more than one object. -/
lemma IsKeyOf.unique {key : String} {fields fields' : List (String × Json)}
    (h : IsKeyOf room key fields) (h' : IsKeyOf room key fields') : fields = fields' := by
  have same := (itemKey?_eq_some_iff.mpr ⟨_, rfl, h⟩).symm.trans
    (itemKey?_eq_some_iff.mpr ⟨_, rfl, h'⟩)
  exact Json.object.inj (Option.some.inj (Except.ok.inj same))

/-! ### Field trees that own stamps -/

/-- An item of the conditions is one of a condition of a type `Synced` or `Ready`, and holds a
stamp. -/
def IsStamped (room : Room) (item : String × Json) : Prop :=
  ∃ fields, IsKeyOf room item.1 fields ∧
    (field? "type" fields = some (.text "Synced") ∨ field? "type" fields = some (.text "Ready")) ∧
    ∃ owned, item.2 = .object owned ∧ (field? stampKey owned).isSome

/-- A field tree owns the stamp of the status, or the stamp of a condition. -/
def OwnsSomeStamp (room : Room) (tree : List (String × Json)) : Prop :=
  ∃ status, field? "f:status" tree = some (.object status) ∧
    ((field? stampKey status).isSome ∨
      ∃ conditions, field? "f:conditions" status = some (.object conditions) ∧
        ∃ item ∈ conditions, IsStamped room item)

/-- Among items there is one with a key that there is no room for, and no stamped one before it. -/
def OverrunsItems (room : Room) (items : List (String × Json)) : Prop :=
  ∃ item, Search.Reaches (¬ IsStamped room ·) items item ∧ OverrunsKey room item.1

/-- A field tree does not own the stamp of the status, and the search for that of a condition comes
to a key that there is no room for. -/
def OverrunsTree (room : Room) (tree : List (String × Json)) : Prop :=
  ∃ status, field? "f:status" tree = some (.object status) ∧ field? stampKey status = none ∧
    ∃ conditions, field? "f:conditions" status = some (.object conditions) ∧
      OverrunsItems room conditions

/-- A managed-fields entry claims the stamp: it is about the object itself or its status, and its
field tree owns a stamp. -/
def Claims (room : Room) (j : Json) : Prop :=
  ∃ fields, j = .object fields ∧
    ((j.getOrNull "subresource").isFalsy ∨ j.getOrNull "subresource" = .text "status") ∧
    ∃ tree, tree ≠ [] ∧ Payload.Holds room tree (.value (j.getOrNull "fieldsV1")) ∧
      OwnsSomeStamp room tree

/-- A managed-fields entry is about the object itself or its status, and there is no room for the
text of its field tree, or for a key that has to be read. -/
def Overruns (room : Room) (j : Json) : Prop :=
  ∃ fields, j = .object fields ∧
    ((j.getOrNull "subresource").isFalsy ∨ j.getOrNull "subresource" = .text "status") ∧
    ((∃ bracket, Payload.Overruns room bracket (.value (j.getOrNull "fieldsV1"))) ∨
      ∃ tree, Payload.Holds room tree (.value (j.getOrNull "fieldsV1")) ∧ OverrunsTree room tree)

/-! ### Claims that are looked for -/

/-- The items of conditions that are looked for are those that are stamped. -/
lemma isOwnedStamp_iff_isStamped {item : String × Json} :
    isOwnedStamp room stampTypes item = .ok true ↔ IsStamped room item := by
  have types (P : String → Prop) :
      (∃ type ∈ Vocabulary.stampTypes, P type) ↔ P "Synced" ∨ P "Ready" := by
    simp [Vocabulary.stampTypes]
  have isSome : (item.2.get? stampKey).isSome = true ↔
      ∃ owned, item.2 = .object owned ∧ (field? stampKey owned).isSome = true := by
    cases item.2 <;> simp [Json.get?]
  rw [stampTypes, isOwnedStamp_eq_true_iff, types]
  simp only [itemKey?_eq_some_iff, isSome, IsStamped]
  constructor
  · rintro (⟨_, ⟨fields, rfl, isKey⟩, synced, owned⟩ | ⟨_, ⟨fields, rfl, isKey⟩, ready, owned⟩)
    · exact ⟨fields, isKey, .inl synced, owned⟩
    · exact ⟨fields, isKey, .inr ready, owned⟩
  · rintro ⟨fields, isKey, synced | ready, owned⟩
    · exact .inl ⟨_, ⟨fields, rfl, isKey⟩, synced, owned⟩
    · exact .inr ⟨_, ⟨fields, rfl, isKey⟩, ready, owned⟩

/-- The items that are not looked into are those with a key that there is no room for. -/
lemma exists_isOwnedStamp_eq_error_iff {item : String × Json} :
    (∃ e, isOwnedStamp room stampTypes item = .error e) ↔ OverrunsKey room item.1 := by
  simp only [isOwnedStamp_eq_error_iff, exists_itemKey?_eq_error_iff]

/-- The items that are passed are the others. -/
lemma isOwnedStamp_eq_false_iff {item : String × Json} :
    isOwnedStamp room stampTypes item = .ok false ↔
      ¬ IsStamped room item ∧ ¬ OverrunsKey room item.1 := by
  rw [← isOwnedStamp_iff_isStamped, ← exists_isOwnedStamp_eq_error_iff]
  rcases isOwnedStamp room stampTypes item with e | _ | _ <;> simp

/-- The search for the stamp of a condition fails if it comes to a key that there is no room for. -/
lemma exists_anyM_eq_error_iff {items : List (String × Json)} :
    (∃ e, items.anyM (isOwnedStamp room stampTypes) = .error e) ↔ OverrunsItems room items := by
  induction items with
  | nil => simp [OverrunsItems, Search.not_reaches_nil, pure, Except.pure]
  | cons item items ih =>
      rw [List.anyM, OverrunsItems, Search.exists_reaches_cons, ← OverrunsItems, ← ih,
        ← exists_isOwnedStamp_eq_error_iff, ← isOwnedStamp_iff_isStamped]
      rcases isOwnedStamp room stampTypes item with e | _ | _
      · simp [bind, Except.bind]
      · simp [bind, Except.bind]
      · simp [bind, Except.bind, pure, Except.pure]

/-- If it does not fail, it finds a stamped item if there is one. -/
lemma anyM_eq_true_iff {items : List (String × Json)} (fits : ¬ OverrunsItems room items) :
    items.anyM (isOwnedStamp room stampTypes) = .ok true ↔ ∃ item ∈ items, IsStamped room item := by
  constructor
  · intro found
    obtain ⟨item, reached, owned⟩ := (Search.anyM_eq_iff (by simp)).mp found
    exact ⟨item, reached.mem, isOwnedStamp_iff_isStamped.mp owned⟩
  · rintro ⟨item, mem, stamped⟩
    rcases answer : items.anyM (isOwnedStamp room stampTypes) with e | _ | _
    · exact absurd (exists_anyM_eq_error_iff.mp ⟨e, answer⟩) fits
    · have passed := isOwnedStamp_eq_false_iff.mp (Search.anyM_eq_false_iff.mp answer item mem)
      exact absurd stamped passed.1
    · rfl

/-- A field tree without a status owns nothing. -/
lemma search_of_no_status (room : Room) {tree : List (String × Json)}
    (missing : ∀ status, field? "f:status" tree ≠ some (.object status)) :
    ownsStamp (.object tree) = false ∧
      ownsConditionStamp room stampTypes (.object tree) = .ok false := by
  rw [ownsStamp, ownsConditionStamp, Json.getOrNull, Json.get?]
  rcases found : field? "f:status" tree with _ | value
  · exact ⟨rfl, rfl⟩
  · cases value with
    | object status => exact absurd found (missing status)
    | _ => exact ⟨rfl, rfl⟩

/-- A field tree with a status is looked through there. -/
lemma search_of_status (room : Room) {tree status : List (String × Json)}
    (found : field? "f:status" tree = some (.object status)) :
    ownsStamp (.object tree) = (field? stampKey status).isSome ∧
      ownsConditionStamp room stampTypes (.object tree) =
        ((Json.object status).getOrNull "f:conditions").fields.anyM
          (isOwnedStamp room stampTypes) := by
  have status : (Json.object tree).getOrNull "f:status" = .object status := by
    rw [Json.getOrNull, Json.get?, found]
    rfl
  rw [ownsStamp, ownsConditionStamp, status]
  exact ⟨rfl, rfl⟩

/-- The conditions of a status are those that are listed. -/
lemma fields_conditions {status conditions : List (String × Json)} :
    field? "f:conditions" status = some (.object conditions) →
      ((Json.object status).getOrNull "f:conditions").fields = conditions := by
  intro listed
  rw [Json.getOrNull, Json.get?, listed]
  rfl

/-- There are none if they are not listed. -/
lemma fields_no_conditions {status : List (String × Json)}
    (unlisted : ∀ conditions, field? "f:conditions" status ≠ some (.object conditions)) :
    ((Json.object status).getOrNull "f:conditions").fields = [] := by
  rw [Json.getOrNull, Json.get?]
  rcases listed : field? "f:conditions" status with _ | value
  · rfl
  · cases value with
    | object conditions => exact absurd listed (unlisted conditions)
    | _ => rfl

/-- What is found in a field tree. -/
def search (room : Room) (tree : List (String × Json)) : Except Failure Bool :=
  if ownsStamp (.object tree) then .ok true else ownsConditionStamp room stampTypes (.object tree)

/-- The search through a field tree fails if it comes to a key that there is no room for. -/
lemma exists_search_eq_error_iff {tree : List (String × Json)} :
    (∃ e, search room tree = .error e) ↔ OverrunsTree room tree := by
  rw [search]
  by_cases found : ∃ status, field? "f:status" tree = some (.object status)
  · obtain ⟨status, found⟩ := found
    obtain ⟨own, rest⟩ := search_of_status room found
    rw [own, rest]
    by_cases listed : ∃ conditions, field? "f:conditions" status = some (.object conditions)
    · obtain ⟨conditions, listed⟩ := listed
      rw [fields_conditions listed]
      simp only [OverrunsTree, found, Option.some.injEq, Json.object.injEq, exists_eq_left',
        listed, ← exists_anyM_eq_error_iff]
      cases field? stampKey status <;> simp
    · rw [fields_no_conditions (not_exists.mp listed)]
      have none : ¬ OverrunsTree room tree := by
        rintro ⟨status', found', -, conditions, listed', -⟩
        obtain rfl := Json.object.inj (Option.some.inj (found.symm.trans found'))
        exact listed ⟨conditions, listed'⟩
      cases field? stampKey status <;> simp [none, pure, Except.pure]
  · obtain ⟨own, rest⟩ := search_of_no_status room (not_exists.mp found)
    have none : ¬ OverrunsTree room tree := fun ⟨status, found', _⟩ => found ⟨status, found'⟩
    simp [own, rest, none]

/-- If it does not fail, it finds a stamp if the field tree owns one. -/
lemma search_eq_true_iff {tree : List (String × Json)} (fits : ¬ OverrunsTree room tree) :
    search room tree = .ok true ↔ OwnsSomeStamp room tree := by
  rw [search]
  by_cases found : ∃ status, field? "f:status" tree = some (.object status)
  · obtain ⟨status, found⟩ := found
    obtain ⟨own, rest⟩ := search_of_status room found
    rw [own, rest]
    simp only [OwnsSomeStamp, found, Option.some.injEq, Json.object.injEq, exists_eq_left']
    rcases stamp : field? stampKey status with _ | value
    · by_cases listed : ∃ conditions, field? "f:conditions" status = some (.object conditions)
      · obtain ⟨conditions, listed⟩ := listed
        have fits : ¬ OverrunsItems room conditions := fun deep =>
          fits ⟨status, found, stamp, conditions, listed, deep⟩
        rw [fields_conditions listed]
        simp [anyM_eq_true_iff fits, listed]
      · rw [fields_no_conditions (not_exists.mp listed)]
        have none := not_exists.mp listed
        simp [none, pure, Except.pure]
    · simp
  · obtain ⟨own, rest⟩ := search_of_no_status room (not_exists.mp found)
    have none : ¬ OwnsSomeStamp room tree := fun ⟨status, found', _⟩ => found ⟨status, found'⟩
    simp [own, rest, none]

/-- A field tree that owns a stamp is not empty. -/
lemma OwnsSomeStamp.ne_nil {tree : List (String × Json)} (h : OwnsSomeStamp room tree) :
    tree ≠ [] := by
  obtain ⟨status, found, -⟩ := h
  rintro rfl
  cases found

/-- An entry about the status is looked at, and fails if there is no room for its field tree or
for a key in it. -/
lemma Entry.exists_claims_eq_error_iff {e : Entry} :
    (∃ f, e.claims room = .error f) ↔ e.coversStatus = true ∧
      ((∃ bracket, e.payload.Overruns room bracket) ∨
        ∃ tree, e.payload.Holds room tree ∧ OverrunsTree room tree) := by
  simp only [← Payload.read_eq_tree_iff, ← exists_search_eq_error_iff]
  have deep : (∃ bracket, e.payload.Overruns room bracket) ↔
      ∃ f, e.payload.read room = .error f := by
    simp [Payload.read_eq_error_iff]
  rw [deep]
  by_cases covers : e.coversStatus = true
  · rcases read : e.payload.read room with f | tree | _ | _
    · simp [claims, covers, read, bind, Except.bind]
    · simp [claims_of_tree covers read, covers, search]
    · simp [claims, covers, read, bind, Except.bind, pure, Except.pure]
    · simp [claims, covers, read, bind, Except.bind, pure, Except.pure]
  · simp [claims, covers, pure, Except.pure]

/-- If it does not fail, an entry claims a stamp if its field tree owns one. -/
lemma Entry.claims_eq_true_iff {e : Entry} (fits : ¬ ∃ f, e.claims room = .error f) :
    e.claims room = .ok true ↔ e.coversStatus = true ∧
      ∃ tree, e.payload.Holds room tree ∧ OwnsSomeStamp room tree := by
  have fitsTree {tree : List (String × Json)} (covers : e.coversStatus = true)
      (held : e.payload.Holds room tree) : ¬ OverrunsTree room tree := fun deep =>
    fits (exists_claims_eq_error_iff.mpr ⟨covers, .inr ⟨tree, held, deep⟩⟩)
  constructor
  · intro claimed
    obtain ⟨covers, tree, read⟩ := exists_tree_of_claims claimed
    have held := Payload.read_eq_tree_iff.mp read
    rw [claims_of_tree covers read] at claimed
    exact ⟨covers, tree, held, (search_eq_true_iff (fitsTree covers held)).mp claimed⟩
  · rintro ⟨covers, tree, held, owns⟩
    rw [claims_of_tree covers (Payload.read_eq_tree_iff.mpr held)]
    exact (search_eq_true_iff (fitsTree covers held)).mpr owns

/-- An entry covers the status if it names no subresource or the status. -/
lemma Entry.coversStatus_iff {e : Entry} :
    e.coversStatus = true ↔ e.subresource.isFalsy = true ∨ e.subresource = .text "status" := by
  rw [Entry.coversStatus, Bool.or_eq_true, same_iff_eq_text]

/-- The entries that the search fails at are those that there is no room for. -/
lemma overruns_iff {j : Json} :
    Overruns room j ↔ ∃ e, Entry.ofJson? j = some e ∧ ∃ f, e.claims room = .error f := by
  simp only [Entry.exists_claims_eq_error_iff, Entry.coversStatus_iff]
  constructor
  · rintro ⟨fields, rfl, about, deep⟩
    exact ⟨_, Entry.ofJson?_of_isObject rfl, about, deep⟩
  · rintro ⟨e, described, about, deep⟩
    cases j with
    | object fields =>
        rw [Entry.ofJson?_of_isObject rfl] at described
        obtain rfl := Option.some.inj described
        exact ⟨fields, rfl, about, deep⟩
    | _ => cases described

/-- The other entries that are looked for are those that claim the stamp. -/
lemma claims_iff {j : Json} (fits : ¬ Overruns room j) :
    Claims room j ↔ ∃ e, Entry.ofJson? j = some e ∧ e.claims room = .ok true := by
  rw [overruns_iff] at fits
  constructor
  · rintro ⟨fields, rfl, about, tree, -, held, owns⟩
    have described := Entry.ofJson?_of_isObject (j := .object fields) rfl
    exact ⟨_, described, (Entry.claims_eq_true_iff fun fails => fits ⟨_, described, fails⟩).mpr
      ⟨Entry.coversStatus_iff.mpr about, tree, held, owns⟩⟩
  · rintro ⟨e, described, claimed⟩
    obtain ⟨covers, tree, held, owns⟩ :=
      (Entry.claims_eq_true_iff fun fails => fits ⟨e, described, fails⟩).mp claimed
    cases j with
    | object fields =>
        rw [Entry.ofJson?_of_isObject rfl] at described
        obtain rfl := Option.some.inj described
        exact ⟨fields, rfl, Entry.coversStatus_iff.mp covers, tree, owns.ne_nil, held, owns⟩
    | _ => cases described

/-! ### The first claimant -/

/-- The name of the manager of an entry; empty if it is missing or falsy. -/
def managerName (j : Json) : Json :=
  if (j.getOrNull "manager").isFalsy then .text "" else j.getOrNull "manager"

/-- The search comes to an entry that there is no room for: no entry before it claims the stamp. -/
def SearchOverruns (room : Room) (js : List Json) : Prop :=
  ∃ j, Search.Reaches (¬ Claims room ·) js j ∧ Overruns room j

lemma searchOverruns_cons {j : Json} {js : List Json} :
    SearchOverruns room (j :: js) ↔ Overruns room j ∨ ¬ Claims room j ∧ SearchOverruns room js :=
  Search.exists_reaches_cons

/-- The search fails at the first entry, if there is no room for it. -/
lemma exists_manager_entries_of_overruns {j : Json} (deep : Overruns room j) (js : List Json) :
    ∃ f, manager room (entries (j :: js)) = .error f := by
  obtain ⟨e, described, f, fails⟩ := overruns_iff.mp deep
  exact ⟨f, by rw [entries, List.filterMap_cons_some described, manager_cons, fails]; rfl⟩

/-- The manager is the one of the first entry, if that claims the stamp. -/
lemma manager_entries_of_claims {j : Json} (fits : ¬ Overruns room j) (claims : Claims room j)
    (js : List Json) : manager room (entries (j :: js)) = .ok (managerName j) := by
  obtain ⟨e, described, claimed⟩ := (claims_iff fits).mp claims
  rw [entries, List.filterMap_cons_some described, manager_cons, claimed]
  have object : j.isObject = true := by
    obtain ⟨fields, rfl, -⟩ := claims
    rfl
  rw [Entry.ofJson?_of_isObject object] at described
  obtain rfl := Option.some.inj described
  rfl

/-- An entry that there is room for, and that does not claim the stamp, does not matter. -/
lemma manager_entries_of_not_claims {j : Json} (fits : ¬ Overruns room j)
    (unclaimed : ¬ Claims room j) (js : List Json) :
    manager room (entries (j :: js)) = manager room (entries js) := by
  cases described : Entry.ofJson? j with
  | none => rw [entries, List.filterMap_cons_none described, entries]
  | some e =>
      have passed : e.claims room = .ok false := by
        rcases answer : e.claims room with f | _ | _
        · exact absurd (overruns_iff.mpr ⟨e, described, f, answer⟩) fits
        · rfl
        · exact absurd ((claims_iff fits).mpr ⟨e, described, answer⟩) unclaimed
      rw [entries, List.filterMap_cons_some described, manager_cons, passed]
      rfl

/-- The search fails if it comes to an entry that there is no room for. -/
lemma exists_manager_eq_error_iff {js : List Json} :
    (∃ f, manager room (entries js) = .error f) ↔ SearchOverruns room js := by
  induction js with
  | nil => simp [SearchOverruns, Search.not_reaches_nil, entries, manager, List.findM?, pure,
      Except.pure, bind, Except.bind]
  | cons j js ih =>
      rw [searchOverruns_cons]
      by_cases deep : Overruns room j
      · simp [deep, exists_manager_entries_of_overruns deep js]
      by_cases claims : Claims room j
      · simp [manager_entries_of_claims deep claims, deep, claims]
      · simp only [manager_entries_of_not_claims deep claims, deep, claims, not_false_eq_true,
          true_and, false_or, ih]

/-- The manager is the one of the first entry that claims the stamp, and it is empty if there is
none. -/
structure Attributes (room : Room) (js : List Json) : Prop where
  answers : ∃ name, manager room (entries js) = .ok name
  first : ∀ before j after, js = before ++ j :: after → (∀ b ∈ before, ¬ Claims room b) →
    Claims room j → manager room (entries js) = .ok (managerName j)
  none : (∀ j ∈ js, ¬ Claims room j) → manager room (entries js) = .ok (.text "")

/-- The manager is the one of the first claimant, if the search does not come to an entry that
there is no room for. -/
lemma attributes_of_not_searchOverruns {js : List Json} (fits : ¬ SearchOverruns room js) :
    Attributes room js where
  answers := by
    rcases answer : manager room (entries js) with f | name
    · exact absurd (exists_manager_eq_error_iff.mp ⟨f, answer⟩) fits
    · exact ⟨name, rfl⟩
  first := by
    rintro before j after rfl unclaimed claims
    induction before with
    | nil =>
        rw [List.nil_append, searchOverruns_cons, not_or] at fits
        exact manager_entries_of_claims fits.1 claims after
    | cons b before ih =>
        obtain ⟨first, others⟩ := List.forall_mem_cons.mp unclaimed
        rw [List.cons_append, searchOverruns_cons, not_or] at fits
        rw [List.cons_append, manager_entries_of_not_claims fits.1 first]
        exact ih (fun deep => fits.2 ⟨first, deep⟩) others
  none unclaimed := by
    induction js with
    | nil => rfl
    | cons j js ih =>
        obtain ⟨first, others⟩ := List.forall_mem_cons.mp unclaimed
        rw [searchOverruns_cons, not_or] at fits
        rw [manager_entries_of_not_claims fits.1 first]
        exact ih (fun deep => fits.2 ⟨first, deep⟩) others

end

/-! ### What does not matter -/

/-- A key of a condition of a type other than `Synced` and `Ready`. -/
def IsOtherKey (room : Room) (key : String) : Prop :=
  ∃ type, type ≠ "Synced" ∧ type ≠ "Ready" ∧ IsKeyOf room key [("type", .text type)]

/-- The same conditions, with others of other types among them. -/
inductive Widens (room : Room) : List (String × Json) → List (String × Json) → Prop
  | nil : Widens room [] []
  | keep (item : String × Json) {conditions wider : List (String × Json)}
      (rest : Widens room conditions wider) : Widens room (item :: conditions) (item :: wider)
  | add {key : String} (item : Json) (other : IsOtherKey room key)
      {conditions wider : List (String × Json)} (rest : Widens room conditions wider) :
      Widens room conditions ((key, item) :: wider)

/-- The same entry, with conditions of other types added to its field tree, which can come in any
form. -/
inductive Extends (room : Room) : Json → Json → Prop
  | intro {j payload : Json} {tree status conditions wider : List (String × Json)}
      (held : Payload.Holds room tree (.value (j.getOrNull "fieldsV1")))
      (found : field? "f:status" tree = some (.object status))
      (listed : field? "f:conditions" status = some (.object conditions))
      (widens : Widens room conditions wider)
      (held' : Payload.Holds room (setField "f:status"
        (.object (setField "f:conditions" (.object wider) status)) tree) (.value payload)) :
      Extends room j (j.set "fieldsV1" payload)

/-- The same entries, but for entries that do not claim the stamp and for conditions of other
types. -/
inductive Alike (room : Room) : List Json → List Json → Prop
  | nil : Alike room [] []
  | keep (j : Json) {js js' : List Json} (rest : Alike room js js') :
      Alike room (j :: js) (j :: js')
  | insert {j : Json} (unclaimed : ¬ Claims room j) {js js' : List Json}
      (rest : Alike room js js') : Alike room js (j :: js')
  | delete {j : Json} (unclaimed : ¬ Claims room j) {js js' : List Json}
      (rest : Alike room js js') : Alike room (j :: js) js'
  | extend {j j' : Json} (more : Extends room j j') {js js' : List Json}
      (rest : Alike room js js') : Alike room (j :: js) (j' :: js')

section

variable {room : Room}

/-- A condition of another type is not stamped. -/
lemma IsOtherKey.not_isStamped {key : String} (h : IsOtherKey room key) (item : Json) :
    ¬ IsStamped room (key, item) := by
  obtain ⟨type, unsynced, unready, isKey⟩ := h
  rintro ⟨fields, isKey', typed, -⟩
  obtain rfl := isKey.unique isKey'
  simp [field?, unsynced, unready] at typed

/-- Conditions of other types are not stamped. -/
lemma Widens.isStamped_iff {conditions wider : List (String × Json)}
    (h : Widens room conditions wider) :
    (∃ item ∈ wider, IsStamped room item) ↔ ∃ item ∈ conditions, IsStamped room item := by
  induction h with
  | nil => rfl
  | keep item _ ih => simp only [List.mem_cons, exists_eq_or_imp, ih]
  | add item other _ ih =>
      simp only [List.mem_cons, exists_eq_or_imp, ih, other.not_isStamped item, false_or]

/-- A field tree with a status that has conditions. -/
lemma ownsSomeStamp_iff_of_conditions {tree status conditions : List (String × Json)}
    (found : field? "f:status" tree = some (.object status))
    (listed : field? "f:conditions" status = some (.object conditions)) :
    OwnsSomeStamp room tree ↔
      (field? stampKey status).isSome = true ∨ ∃ item ∈ conditions, IsStamped room item := by
  simp [OwnsSomeStamp, found, listed]

/-- Conditions of other types do not make a field tree own a stamp. -/
lemma Widens.ownsSomeStamp_iff {tree status conditions wider : List (String × Json)}
    (found : field? "f:status" tree = some (.object status))
    (listed : field? "f:conditions" status = some (.object conditions))
    (widens : Widens room conditions wider) :
    OwnsSomeStamp room (setField "f:status"
      (.object (setField "f:conditions" (.object wider) status)) tree) ↔
        OwnsSomeStamp room tree := by
  have found' : field? "f:status" (setField "f:status"
      (.object (setField "f:conditions" (.object wider) status)) tree) =
        some (.object (setField "f:conditions" (.object wider) status)) := by
    rw [Json.field?_setField, if_pos rfl]
  have listed' : field? "f:conditions" (setField "f:conditions" (.object wider) status) =
      some (.object wider) := by
    rw [Json.field?_setField, if_pos rfl]
  have stamp : field? stampKey (setField "f:conditions" (.object wider) status) =
      field? stampKey status := by
    rw [Json.field?_setField, if_neg (by decide)]
  rw [ownsSomeStamp_iff_of_conditions found' listed',
    ownsSomeStamp_iff_of_conditions found listed, stamp, widens.isStamped_iff]

/-- An entry with a field tree claims the stamp if the field tree owns one. -/
lemma claims_iff_of_holds {j : Json} {tree : List (String × Json)} (object : j.isObject = true)
    (held : Payload.Holds room tree (.value (j.getOrNull "fieldsV1"))) :
    Claims room j ↔ ((j.getOrNull "subresource").isFalsy = true ∨
      j.getOrNull "subresource" = .text "status") ∧ OwnsSomeStamp room tree := by
  constructor
  · rintro ⟨fields, -, about, tree', -, held', owns⟩
    obtain rfl := held.unique held'
    exact ⟨about, owns⟩
  · rintro ⟨about, owns⟩
    cases j with
    | object fields => exact ⟨fields, rfl, about, tree, owns.ne_nil, held, owns⟩
    | _ => cases object

/-- Conditions of other types do not make an entry claim the stamp. -/
lemma Extends.claims_iff {j j' : Json} (h : Extends room j j') :
    (Claims room j' ↔ Claims room j) ∧ managerName j' = managerName j := by
  obtain ⟨held, found, listed, widens, held'⟩ := h
  rename_i payload tree status conditions wider
  have object : j.isObject = true := by
    cases j with
    | object fields => rfl
    | _ => cases held
  have object' : (j.set "fieldsV1" payload).isObject = true := isObject_set object _
  have replaced : (j.set "fieldsV1" payload).getOrNull "fieldsV1" = payload := by
    rw [getOrNull_set object, if_pos rfl]
  have subresource : (j.set "fieldsV1" payload).getOrNull "subresource" =
      j.getOrNull "subresource" := by
    rw [getOrNull_set object, if_neg (by decide)]
  have named : (j.set "fieldsV1" payload).getOrNull "manager" = j.getOrNull "manager" := by
    rw [getOrNull_set object, if_neg (by decide)]
  constructor
  · rw [claims_iff_of_holds object held, claims_iff_of_holds object' (by rwa [replaced]),
      subresource, widens.ownsSomeStamp_iff found listed]
  · rw [managerName, managerName, named]

/-- Where the search does not fail, what does not matter leaves the manager as it is. -/
lemma Alike.manager_eq {js js' : List Json} (h : Alike room js js')
    (fits : ¬ SearchOverruns room js) (fits' : ¬ SearchOverruns room js') :
    manager room (entries js) = manager room (entries js') := by
  induction h with
  | nil => rfl
  | keep j _ ih =>
      rw [searchOverruns_cons, not_or] at fits fits'
      by_cases claims : Claims room j
      · rw [manager_entries_of_claims fits.1 claims, manager_entries_of_claims fits.1 claims]
      · rw [manager_entries_of_not_claims fits.1 claims,
          manager_entries_of_not_claims fits.1 claims]
        exact ih (fun deep => fits.2 ⟨claims, deep⟩) (fun deep => fits'.2 ⟨claims, deep⟩)
  | insert unclaimed _ ih =>
      rw [searchOverruns_cons, not_or] at fits'
      rw [manager_entries_of_not_claims fits'.1 unclaimed]
      exact ih fits fun deep => fits'.2 ⟨unclaimed, deep⟩
  | delete unclaimed _ ih =>
      rw [searchOverruns_cons, not_or] at fits
      rw [manager_entries_of_not_claims fits.1 unclaimed]
      exact ih (fun deep => fits.2 ⟨unclaimed, deep⟩) fits'
  | @extend j j' more _ _ _ ih =>
      obtain ⟨same, named⟩ := more.claims_iff
      rw [searchOverruns_cons, not_or] at fits fits'
      by_cases claims : Claims room j
      · rw [manager_entries_of_claims fits.1 claims,
          manager_entries_of_claims fits'.1 (same.mpr claims), named]
      · have claims' := mt same.mp claims
        rw [manager_entries_of_not_claims fits.1 claims,
          manager_entries_of_not_claims fits'.1 claims']
        exact ih (fun deep => fits.2 ⟨claims, deep⟩) (fun deep => fits'.2 ⟨claims', deep⟩)

end

/-! ### The manager -/

/-- **The first claimant.**  The manager is the one of the first entry that claims the stamp, and it
is empty if there is none, unless the search comes to an entry that there is no room for.  Where it
does not, neither entries that do not claim the stamp matter, nor conditions of other types in those
that do, as long as the search does not come to an entry without room with them. -/
theorem attributes_iff_not_searchOverruns (room : Room) (js : List Json) :
    (Attributes room js ↔ ¬ SearchOverruns room js) ∧
    ∀ js', Alike room js js' → ¬ SearchOverruns room js →
      (manager room (entries js') = manager room (entries js) ↔ ¬ SearchOverruns room js') := by
  have answered {ks : List Json} {name : Json} (answer : manager room (entries ks) = .ok name) :
      ¬ SearchOverruns room ks := by
    rw [← exists_manager_eq_error_iff]
    rintro ⟨f, fails⟩
    simp [fails] at answer
  refine ⟨⟨fun attributes => ?_, attributes_of_not_searchOverruns⟩, fun js' alike fits => ?_⟩
  · obtain ⟨name, answer⟩ := attributes.answers
    exact answered answer
  · obtain ⟨name, answer⟩ := (attributes_of_not_searchOverruns fits).answers
    exact ⟨fun same => answered (same.trans answer),
      fun fits' => (alike.manager_eq fits fits').symm⟩

/-- The conditions of which a manager has written the stamps. -/
def syncedConditions : List (String × Json) :=
  [("k:\x7b\"type\":\"Synced\"\x7d", .object [(stampKey, .object [])])]

/-- The key of a condition of a type with a quote and a control character in it. -/
def oddKey : String :=
  "k:\x7b\"type\": \"So-called \\\"Ready\\\"\\n\"\x7d"

/-- An entry that claims the stamps of conditions. -/
def syncedEntry (conditions : List (String × Json)) : Json :=
  .object [("manager", .text "ctrl"), ("subresource", .text "status"),
    ("fieldsV1", .object [("f:status", .object [("f:conditions", .object conditions)])])]

/-- The conditions with one of an odd type before them. -/
def oddConditions : List (String × Json) :=
  (oddKey, .object [(stampKey, .object [])]) :: syncedConditions

/-- The manager stays the same when a text stands before its entry, and when an odd condition is
added to it. -/
theorem attributes_syncedEntry :
    Attributes (.below 10) [.text "ctrl", syncedEntry syncedConditions] ∧
      manager (.below 10) (entries [.text "ctrl", syncedEntry syncedConditions]) =
        .ok (.text "ctrl") ∧
      manager (.below 10) (entries [syncedEntry oddConditions]) = .ok (.text "ctrl") := by
  let room := Room.below 10
  have unclaimed : ¬ Claims room (.text "ctrl") := by
    rintro ⟨fields, same, -⟩
    cases same
  have other : IsOtherKey room oddKey := by
    refine ⟨"So-called \"Ready\"\n", by decide, by decide, _, rfl, ?_⟩
    rw [← Json.Reader.wholeText_eq_ok_iff]
    decide +kernel
  have extended : Extends room (syncedEntry syncedConditions) (syncedEntry oddConditions) :=
    @Extends.intro _ _
      (.object [("f:status", .object [("f:conditions", .object oddConditions)])])
      _ _ _ _ .object rfl rfl (.add _ other (.keep _ .nil)) .object
  have fits {js : List Json} (answer : ∃ name, manager room (entries js) = .ok name) :
      ¬ SearchOverruns room js := by
    obtain ⟨name, answer⟩ := answer
    rw [← exists_manager_eq_error_iff]
    rintro ⟨f, fails⟩
    simp [fails] at answer
  have first : manager room (entries [.text "ctrl", syncedEntry syncedConditions]) =
      .ok (.text "ctrl") := by decide +kernel
  have wider : ∃ name, manager room (entries [syncedEntry oddConditions]) = .ok name :=
    ⟨.text "ctrl", by decide +kernel⟩
  obtain ⟨attributes, alike⟩ :=
    attributes_iff_not_searchOverruns room [.text "ctrl", syncedEntry syncedConditions]
  have same := alike _ (.delete unclaimed (.extend extended .nil)) (fits ⟨_, first⟩)
  exact ⟨attributes.mpr (fits ⟨_, first⟩), first, (same.mpr (fits wider)).trans first⟩

/-- An entry with a text of brackets that nothing closes. -/
def nestedEntry : Json :=
  .object [("manager", .text "prober"), ("subresource", .text "status"),
    ("fieldsV1", .text (Json.openBrackets 1000))]

/-- The manager is not found when such an entry stands before the one that claims the stamp. -/
theorem not_attributes_nestedEntry :
    ¬ Attributes (.below 10) [nestedEntry, syncedEntry syncedConditions] := by
  intro attributes
  obtain ⟨name, answer⟩ := attributes.answers
  have overruns : Overruns (.below 10) nestedEntry :=
    ⟨_, rfl, .inr rfl, .inl ⟨.square, .text (Json.overrunsText_openBrackets (by decide))⟩⟩
  obtain ⟨f, fails⟩ := exists_manager_entries_of_overruns overruns [syncedEntry syncedConditions]
  simp [fails] at answer

end Driftwatch.Provenance
