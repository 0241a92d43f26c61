/-
The forms of field trees.

* `Payload.Holds`: a payload holds a field tree, as an object, as a text or as bytes.
* `Payload.Overruns`: a payload is a text that is nested too deeply.
* `Payload.read_eq_tree_iff`, `Payload.read_eq_error_iff`: a payload is read as the field tree that
  it holds, and the search for a manager ends in a failure if there is no room for it.
* `Entry.IsRespelled`: an entry with its field tree in another form.
* `Payload.read_forms`: a field tree may come in any form, and the manager stays the same.
* `longTree`: a field tree with an integer that is too long for a text.
-/
import Driftwatch.Proofs.Json.Printer
import Driftwatch.Provenance
import Mathlib.Data.List.Forall2

namespace Driftwatch.Provenance

open Json (Built IsShort IsTextOf IsBytesOf OverrunsText OverrunsBytes)

/-! ### Payloads -/

section

variable {room : Room} {fields : List (String × Json)} {bracket : Json.Reader.Bracket}
  {read : Except Json.Reader.Unread Json} {p : Payload} {e : Failure}

/-- A payload holds a field tree. -/
inductive Payload.Holds (room : Room) (fields : List (String × Json)) : Payload → Prop
  | object : Holds room fields (.value (.object fields))
  | text {s : String} (text : IsTextOf room.payload s.toList (.object fields)) :
      Holds room fields (.value (.text s))
  | bytes {bs : List UInt8} (text : IsBytesOf room.payload bs (.object fields)) :
      Holds room fields (.bytes bs)

/-- A payload is a text that there is no room for, or the bytes of one. -/
inductive Payload.Overruns (room : Room) (bracket : Json.Reader.Bracket) : Payload → Prop
  | text {s : String} (deep : OverrunsText room.payload bracket s.toList) :
      Overruns room bracket (.value (.text s))
  | bytes {bs : List UInt8} (deep : OverrunsBytes room.payload bracket bs) :
      Overruns room bracket (.bytes bs)

/-- A text or bytes are a field tree if they are read as an object. -/
lemma Payload.Reading.ofRead_eq_tree_iff :
    ofRead read = .ok (.tree fields) ↔ read = .ok (.object fields) := by
  rw [ofRead.eq_def]
  split <;> simp_all

/-- A text or bytes are a failure if there is no room for them. -/
lemma Payload.Reading.ofRead_eq_error_iff :
    ofRead read = .error e ↔
      ∃ bracket, e = .nestedText bracket ∧ read = .error (.tooDeep bracket) := by
  rw [ofRead.eq_def]
  split <;> simp_all [eq_comm]

/-- A payload is read as the field tree that it holds. -/
lemma Payload.read_eq_tree_iff : p.read room = .ok (.tree fields) ↔ p.Holds room fields := by
  constructor
  · intro read
    cases p with
    | value j =>
        cases j with
        | object fs =>
            obtain rfl := Payload.Reading.tree.inj (Except.ok.inj read)
            exact .object
        | text s =>
            exact .text (Json.read_eq_ok_iff.mp (Reading.ofRead_eq_tree_iff.mp read))
        | _ => cases read
    | bytes bs =>
        exact .bytes (Json.readBytes_eq_ok_iff.mp (Reading.ofRead_eq_tree_iff.mp read))
  · rintro (_ | text | text)
    · rfl
    · exact Reading.ofRead_eq_tree_iff.mpr (Json.read_eq_ok_iff.mpr text)
    · exact Reading.ofRead_eq_tree_iff.mpr (Json.readBytes_eq_ok_iff.mpr text)

/-- A payload is not read only if there is no room for it. -/
lemma Payload.read_eq_error_iff :
    p.read room = .error e ↔ ∃ bracket, e = .nestedText bracket ∧ p.Overruns room bracket := by
  constructor
  · intro fails
    cases p with
    | value j =>
        cases j with
        | text s =>
            obtain ⟨bracket, same, unread⟩ := Reading.ofRead_eq_error_iff.mp fails
            exact ⟨bracket, same, .text (Json.read_eq_tooDeep_iff.mp unread)⟩
        | _ => cases fails
    | bytes bs =>
        obtain ⟨bracket, same, unread⟩ := Reading.ofRead_eq_error_iff.mp fails
        exact ⟨bracket, same, .bytes (Json.readBytes_eq_tooDeep_iff.mp unread)⟩
  · rintro ⟨bracket, rfl, deep | deep⟩
    · exact Reading.ofRead_eq_error_iff.mpr ⟨bracket, rfl, Json.read_eq_tooDeep_iff.mpr deep⟩
    · exact Reading.ofRead_eq_error_iff.mpr ⟨bracket, rfl, Json.readBytes_eq_tooDeep_iff.mpr deep⟩

/-- A payload that there is room for, and that does not hold a field tree, is read as none. -/
lemma Payload.read_eq_none_of_not_holds (fits : ∀ bracket, ¬ p.Overruns room bracket)
    (empty : ∀ fields, ¬ p.Holds room fields) :
    p.read room = .ok .malformed ∨ p.read room = .ok .other := by
  cases read : p.read room with
  | error e =>
      obtain ⟨bracket, -, deep⟩ := read_eq_error_iff.mp read
      exact absurd deep (fits bracket)
  | ok reading =>
      cases reading with
      | tree fields => exact absurd (read_eq_tree_iff.mp read) (empty fields)
      | malformed => exact .inl rfl
      | other => exact .inr rfl

/-- A payload holds no more than one field tree. -/
lemma Payload.Holds.unique {fields' : List (String × Json)} (h : p.Holds room fields)
    (h' : p.Holds room fields') : fields = fields' :=
  Reading.tree.inj (Except.ok.inj ((read_eq_tree_iff.mpr h).symm.trans (read_eq_tree_iff.mpr h')))

end

/-! ### Entries -/

/-- An entry, or the same one with its field tree in another form. -/
inductive Entry.IsRespelled (room : Room) : Entry → Entry → Prop
  | refl (e : Entry) : IsRespelled room e e
  | other {manager subresource : Json} {fields : List (String × Json)} {p q : Payload}
      (before : p.Holds room fields) (after : q.Holds room fields) :
      IsRespelled room ⟨manager, subresource, p⟩ ⟨manager, subresource, q⟩

/-- An entry claims a stamp whatever the form of its field tree. -/
lemma Entry.IsRespelled.claims_eq {room : Room} {e e' : Entry} (h : e.IsRespelled room e') :
    e.claims room = e'.claims room ∧ e.managerName = e'.managerName := by
  cases h with
  | refl => exact ⟨rfl, rfl⟩
  | other before after =>
      rw [Entry.claims, Entry.claims, Payload.read_eq_tree_iff.mpr before,
        Payload.read_eq_tree_iff.mpr after]
      exact ⟨rfl, rfl⟩

/-- The manager of the first entry, if it claims a stamp; else of those after it. -/
lemma manager_cons (room : Room) (e : Entry) (es : List Entry) :
    manager room (e :: es) = (e.claims room).bind fun claimed =>
      if claimed then .ok e.managerName else manager room es := by
  rw [manager, List.findM?]
  rcases e.claims room with f | _ | _ <;> rfl

/-- The manager is the same whatever the forms of the field trees. -/
lemma manager_eq_of_isRespelled {room : Room} {es es' : List Entry}
    (h : List.Forall₂ (Entry.IsRespelled room) es es') : manager room es = manager room es' := by
  induction h with
  | nil => rfl
  | cons respelled _ ih =>
      obtain ⟨claims, same⟩ := respelled.claims_eq
      rw [manager_cons, manager_cons, claims, same, ih]

/-- The entry that an object describes. -/
lemma Entry.ofJson?_of_isObject {j : Json} (object : j.isObject = true) :
    Entry.ofJson? j = some
      ⟨j.getOrNull "manager", j.getOrNull "subresource", .value (j.getOrNull "fieldsV1")⟩ :=
  if_pos object

/-- An object is one still when a field was written. -/
lemma isObject_set {j value : Json} (object : j.isObject = true) (name : String) :
    (j.set name value).isObject = true := by
  cases j with
  | object fields => rfl
  | _ => cases object

/-- A field of an object of which a field was written. -/
lemma getOrNull_set {j value : Json} (object : j.isObject = true) (name other : String) :
    (j.set name value).getOrNull other = if name = other then value else j.getOrNull other := by
  cases j with
  | object fields =>
      simp only [Json.getOrNull, Json.get?, Json.set, Json.field?_setField]
      split <;> rfl
  | _ => cases object

/-- The entry that an object describes, with another payload. -/
lemma Entry.ofJson?_set {j : Json} (object : j.isObject = true) (payload : Json) :
    Entry.ofJson? (j.set "fieldsV1" payload) = some
      ⟨j.getOrNull "manager", j.getOrNull "subresource", .value payload⟩ := by
  rw [ofJson?_of_isObject (isObject_set object _), getOrNull_set object, getOrNull_set object,
    getOrNull_set object, if_neg (by decide), if_neg (by decide), if_pos rfl]

/-- The manager is the same if a field tree is replaced by a text of it. -/
lemma manager_entries_set {room : Room} {j : Json} {s : String} {fields : List (String × Json)}
    (tree : j.get? "fieldsV1" = some (.object fields))
    (text : IsTextOf room.payload s.toList (.object fields)) (before after : List Json) :
    manager room (entries (before ++ j.set "fieldsV1" (.text s) :: after)) =
      manager room (entries (before ++ j :: after)) := by
  have object : j.isObject = true := by
    cases j with
    | object fs => rfl
    | _ => cases tree
  have found : j.getOrNull "fieldsV1" = .object fields := by rw [Json.getOrNull, tree]; rfl
  simp only [entries, List.filterMap_append, List.filterMap_cons, Entry.ofJson?_set object,
    Entry.ofJson?_of_isObject object, found]
  have refl (es : List Entry) : List.Forall₂ (Entry.IsRespelled room) es es :=
    List.forall₂_same.mpr fun e _ => .refl e
  exact manager_eq_of_isRespelled
    (List.rel_append (refl _) (.cons (.other (.text text) .object) (refl _)))

/-! ### Every form -/

/-- **The form of field trees.**  The compact text of a field tree whose integers are not too long,
and which is not nested too deeply, is a JSON text of it.  Any JSON text of a field tree that there
is room for is read as the field tree itself is, and so are its bytes in every encoding, with a
byte-order mark or without it; no other text and no other bytes are read as a field tree, and they
are not a failure if there is room for them.  So the manager stays the same when field trees are
replaced by texts or bytes of them. -/
theorem Payload.read_forms (room : Room) :
    (∀ fields, Built IsShort room.payload (.object fields) →
      IsTextOf room.payload (Json.compact (.object fields)).toList (.object fields)) ∧
    (∀ fields, (value (.object fields)).read room = .ok (.tree fields)) ∧
    (∀ s fields, IsTextOf room.payload s.toList (.object fields) →
      (value (.text s)).read room = (value (.object fields)).read room ∧
      ∀ encoding : Json.Encoding,
        (bytes (encoding.encode s.toList)).read room = (value (.object fields)).read room ∧
        (bytes (encoding.mark ++ encoding.encode s.toList)).read room =
          (value (.object fields)).read room) ∧
    (∀ s fields, (value (.text s)).read room = .ok (.tree fields) →
      IsTextOf room.payload s.toList (.object fields)) ∧
    (∀ bs fields, (bytes bs).read room = .ok (.tree fields) →
      IsBytesOf room.payload bs (.object fields)) ∧
    (∀ s, (∀ bracket, ¬ OverrunsText room.payload bracket s.toList) →
      (∀ fields, ¬ IsTextOf room.payload s.toList (.object fields)) →
        (value (.text s)).read room = .ok .malformed ∨ (value (.text s)).read room = .ok .other) ∧
    (∀ bs, (∀ bracket, ¬ OverrunsBytes room.payload bracket bs) →
      (∀ fields, ¬ IsBytesOf room.payload bs (.object fields)) →
        (bytes bs).read room = .ok .malformed ∨ (bytes bs).read room = .ok .other) ∧
    (∀ es es', List.Forall₂ (Entry.IsRespelled room) es es' →
      manager room es = manager room es') ∧
    ∀ before j after s fields, j.get? "fieldsV1" = some (.object fields) →
      IsTextOf room.payload s.toList (.object fields) →
      manager room (entries (before ++ j.set "fieldsV1" (.text s) :: after)) =
        manager room (entries (before ++ j :: after)) := by
  refine ⟨fun fields => Json.isTextOf_compact, fun fields => rfl,
    fun s fields text => ⟨?_, fun encoding => ⟨?_, ?_⟩⟩,
    fun s fields read => ?_, fun bs fields read => ?_, fun s fits empty => ?_,
    fun bs fits empty => ?_, fun es es' => manager_eq_of_isRespelled,
    fun before j after s fields tree text => manager_entries_set tree text before after⟩
  · exact read_eq_tree_iff.mpr (.text text)
  · exact read_eq_tree_iff.mpr (.bytes (text.isBytesOf encoding).1)
  · exact read_eq_tree_iff.mpr (.bytes (text.isBytesOf encoding).2)
  · cases read_eq_tree_iff.mp read with
    | text text => exact text
  · cases read_eq_tree_iff.mp read with
    | bytes text => exact text
  · exact read_eq_none_of_not_holds (fun bracket h => by cases h; exact fits bracket ‹_›)
      (fun fields h => by cases h; exact empty fields ‹_›)
  · exact read_eq_none_of_not_holds (fun bracket h => by cases h; exact fits bracket ‹_›)
      (fun fields h => by cases h; exact empty fields ‹_›)

/-- The status of a field tree with a stamp needs room for two brackets. -/
lemma built_stamped (admits : Int → Prop) (room : Nat) :
    Built admits (room + 2) (.object [(stampKey, .object [])]) :=
  .object (by decide) (List.forall_mem_singleton.mpr (.object (by decide) (by simp)))

/-- A field tree with a stamp and values of every kind. -/
def notedTree : List (String × Json) :=
  [("f:status", .object [(stampKey, .object [])]),
    ("note", .list [.text "café 😀 \x22", .int (-4300), .null, .bool true])]

/-- The field tree needs room for three brackets. -/
lemma built_notedTree (room : Nat) : Built IsShort (room + 3) (.object notedTree) := by
  have noted : Built IsShort (room + 2)
      (.list [.text "café 😀 \x22", .int (-4300), .null, .bool true]) :=
    .list (by simpa using ⟨.text _, .int (by unfold IsShort; decide), .null, .bool true⟩)
  exact .object (by decide) (by simpa [notedTree] using ⟨built_stamped IsShort room, noted⟩)

/-- The entry of a manager for the status, with a payload. -/
def statusEntryOf (payload : Payload) : Entry :=
  ⟨.text "ctrl", .text "status", payload⟩

/-- The field tree is read from its compact text and from the bytes of that text, and the manager
is the same. -/
theorem Payload.read_forms_notedTree :
    let room := Room.below 10
    let text := Json.compact (.object notedTree)
    let utf16 := Json.Encoding.utf16 .little
    Built IsShort room.payload (.object notedTree) ∧
      (value (.text text)).read room = .ok (.tree notedTree) ∧
      (bytes (utf16.mark ++ utf16.encode text.toList)).read room = .ok (.tree notedTree) ∧
      manager room [statusEntryOf (.bytes (utf16.mark ++ utf16.encode text.toList))] =
        .ok (.text "ctrl") ∧
      manager room [statusEntryOf (.value (.object notedTree))] = .ok (.text "ctrl") ∧
      ((value (.text "[1")).read room = .ok .malformed ∨
        (value (.text "[1")).read room = .ok .other) := by
  intro room text utf16
  have built : Built IsShort room.payload (.object notedTree) := built_notedTree 977
  obtain ⟨printed, -, reads, readsText, readsBytes, restText, restBytes, manages, managesValues⟩ :=
    read_forms room
  have isText : IsTextOf room.payload text.toList (.object notedTree) := printed _ built
  have manager_eq := manages [statusEntryOf (.bytes (utf16.mark ++ utf16.encode text.toList))]
    [statusEntryOf (.value (.object notedTree))]
    (.cons (.other (.bytes (isText.isBytesOf utf16).2) .object) .nil)
  have known : manager room [statusEntryOf (.value (.object notedTree))] = .ok (.text "ctrl") := by
    decide +kernel
  have unread : Json.Reader.wholeText room.payload "[1".toList = .error .malformed := by
    decide +kernel
  obtain ⟨noText, fits⟩ := Json.Reader.wholeText_eq_malformed_iff.mp unread
  exact ⟨built, (reads _ _ isText).1, ((reads _ _ isText).2 utf16).2, manager_eq.trans known, known,
    restText _ fits fun fields => noText (.object fields)⟩

/-! ### Long integers -/

/-- A field tree with a stamp and an integer. -/
def countedTree (n : Int) : List (String × Json) :=
  [("f:status", .object [(stampKey, .object [])]), ("n", .int n)]

/-- The field tree needs room for three brackets. -/
lemma built_countedTree (n : Int) (room : Nat) :
    Built (fun _ => True) (room + 3) (.object (countedTree n)) :=
  .object (by decide : ["f:status", "n"].Nodup)
    (by simpa [countedTree] using ⟨built_stamped _ room, .int trivial⟩)

/-- The compact text of the field tree. -/
lemma toList_compact_countedTree (n : Int) :
    (Json.compact (.object (countedTree n))).toList =
      "\x7b\"f:status\":\x7b\"f:observedGeneration\":\x7b\x7d\x7d,\"n\":".toList ++
        ((toString n).toList ++ ['\x7d']) := by
  change (Json.Printer.value Json.Printer.oneLine 0 _).toList = _
  rw [Json.Printer.value, Json.Printer.toList_bracketed]
  simp [countedTree, Json.Printer.members, Json.Printer.value, Text.glue,
    Json.Printer.toList_bracketed, Json.Printer.toList_string]
  rfl

/-- The digits of a power of ten. -/
lemma toDigits_pow (k : Nat) : Nat.toDigits 10 (Nat.pow 10 k) = '1' :: List.replicate k '0' := by
  induction k with
  | zero => rfl
  | succ k ih =>
      have value : Nat.pow 10 (k + 1) = Nat.pow 10 k * 10 := rfl
      have positive : 0 < Nat.pow 10 k := Nat.pow_pos (by decide)
      rw [Nat.toDigits_of_base_le (by decide) (by omega), value,
        Nat.mul_div_cancel _ (by decide), ih, Nat.mul_mod_left, List.replicate_succ']
      rfl

/-- A field tree with an integer of one digit more than can be read. -/
def longTree : List (String × Json) :=
  countedTree (.ofNat (Nat.pow 10 Decimal.longestInteger))

/-- The compact text of the field tree is not read. -/
lemma wholeText_longTree :
    Json.Reader.wholeText (Room.below 10).payload (Json.compact (.object longTree)).toList =
      .error .malformed := by
  have digits : (toString (Int.ofNat (Nat.pow 10 Decimal.longestInteger))).toList =
      '1' :: List.replicate Decimal.longestInteger '0' :=
    Nat.toList_repr.trans (toDigits_pow Decimal.longestInteger)
  rw [longTree, toList_compact_countedTree, digits]
  decide +kernel

/-- Without a field tree the manager is not known. -/
lemma manager_statusEntryOf_malformed {room : Room} {p : Payload}
    (h : p.read room = .ok .malformed) : manager room [statusEntryOf p] = .ok (.text "") := by
  rw [manager_cons, Entry.claims, statusEntryOf, h]
  rfl

/-- The compact text of a field tree with an integer that is too long is not read, and the manager
is not known any more when it stands in the place of the field tree. -/
theorem Payload.not_read_longTree :
    let room := Room.below 10
    Built (fun _ => True) room.payload (.object longTree) ∧
      (value (.object longTree)).read room = .ok (.tree longTree) ∧
      manager room [statusEntryOf (.value (.object longTree))] = .ok (.text "ctrl") ∧
      (value (.text (Json.compact (.object longTree)))).read room = .ok .malformed ∧
      manager room [statusEntryOf (.value (.text (Json.compact (.object longTree))))] =
        .ok (.text "") := by
  intro room
  have known (n : Int) :
      manager room [statusEntryOf (.value (.object (countedTree n)))] = .ok (.text "ctrl") := rfl
  have unread : (value (.text (Json.compact (.object longTree)))).read room = .ok .malformed := by
    rw [Payload.read, Json.read, wholeText_longTree]
    rfl
  exact ⟨built_countedTree _ 977, rfl, known _, unread, manager_statusEntryOf_malformed unread⟩

end Driftwatch.Provenance
