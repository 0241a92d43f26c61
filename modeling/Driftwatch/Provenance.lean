/-
Provenance: which manager wrote the generation stamp of an object.

* `Payload`, `Payload.read`: the field tree of a managed-fields entry, which may come as an
  object, as a text or as bytes; a text that is nested too deeply ends the search.
* `ownsStamp`, `ownsConditionStamp`: what a field tree says about the stamp of the status and
  about the stamps of the conditions.
* `Entry.claims`: an entry that owns a stamp.
* `manager`: the manager of the first entry that claims the stamp.
* `malformedCount`: how many entries before that one have a payload that is not JSON.
-/
import Driftwatch.Json.Encoding
import Driftwatch.Log
import Driftwatch.Object.Basic
import Driftwatch.Room
import Driftwatch.Vocabulary

namespace Driftwatch.Provenance

/-! ### Field trees -/

/-- The form in which a field tree arrives. -/
inductive Payload
  | value (j : Json)
  | bytes (bs : List UInt8)

/-- What a payload turns out to be. -/
inductive Payload.Reading
  /-- A field tree. -/
  | tree (fields : List (String × Json))
  /-- A text or bytes that are not JSON. -/
  | malformed
  /-- Anything else. -/
  | other

/-- What a JSON text holds, if there is room for it. -/
def Payload.Reading.ofRead :
    Except Json.Reader.Unread Json → Except Failure Payload.Reading
  | .ok (.object fields) => .ok (.tree fields)
  | .ok _ => .ok .other
  | .error .malformed => .ok .malformed
  | .error (.tooDeep bracket) => .error (.nestedText bracket)

/-- The field tree of a payload. -/
def Payload.read (room : Room) : Payload → Except Failure Payload.Reading
  | .value (.object fields) => .ok (.tree fields)
  | .value (.text s) => Reading.ofRead (Json.read room.payload s)
  | .value _ => .ok .other
  | .bytes bs => Reading.ofRead (Json.readBytes room.payload bs)

/-- The payload is not JSON. -/
def Payload.isMalformed (room : Room) (p : Payload) : Bool :=
  match p.read room with
  | .ok .malformed => true
  | _ => false

/-! ### Ownership -/

/-- The key of the generation stamp in a field tree. -/
def stampKey : String := "f:observedGeneration"

/-- The object that a key of an associative list stands for, if there is room for it: what follows
the mark `k:`. -/
def itemKey? (room : Room) (key : String) : Except Failure (Option Json) :=
  match key.toList with
  | 'k' :: ':' :: rest =>
    match Json.Reader.wholeText room.key rest with
    | .ok (.object fields) => .ok (some (.object fields))
    | .ok _ | .error .malformed => .ok none
    | .error (.tooDeep bracket) => .error (.nestedText bracket)
  | _ => .ok none

/-- The field tree owns the stamp of the status. -/
def ownsStamp (tree : Json) : Bool :=
  ((tree.getOrNull "f:status").get? stampKey).isSome

/-- An item of the conditions has one of the given types and owns a stamp. -/
def isOwnedStamp (room : Room) (types : List Json) (item : String × Json) :
    Except Failure Bool := do
  match ← itemKey? room item.1 with
  | some key =>
    return types.any (Json.same (key.getOrNull "type")) && (item.2.get? stampKey).isSome
  | none => return false

/-- The field tree owns the stamp of a condition of one of the given types.  The conditions are gone
through up to the first such one. -/
def ownsConditionStamp (room : Room) (types : List Json) (tree : Json) : Except Failure Bool :=
  ((tree.getOrNull "f:status").getOrNull "f:conditions").fields.anyM (isOwnedStamp room types)

/-- The condition types with stamps, as values. -/
def stampTypes : List Json :=
  Vocabulary.stampTypes.map Json.text

/-! ### Entries -/

/-- A managed-fields entry. -/
structure Entry where
  manager : Json
  subresource : Json
  payload : Payload

/-- The entry that a value describes; only objects do. -/
def Entry.ofJson? (j : Json) : Option Entry :=
  if j.isObject then
    some { manager := j.getOrNull "manager"
           subresource := j.getOrNull "subresource"
           payload := .value (j.getOrNull "fieldsV1") }
  else none

/-- The entry is about the object itself or its status. -/
def Entry.coversStatus (e : Entry) : Bool :=
  e.subresource.isFalsy || e.subresource.same (.text "status")

/-- The entry owns a stamp.  The conditions are looked at only if the status does not have one. -/
def Entry.claims (room : Room) (e : Entry) : Except Failure Bool :=
  if e.coversStatus then do
    match ← e.payload.read room with
    | .tree fields =>
      if ownsStamp (.object fields) then return true
      else ownsConditionStamp room stampTypes (.object fields)
    | _ => return false
  else return false

/-- The name of the manager of an entry; empty if it is falsy. -/
def Entry.managerName (e : Entry) : Json :=
  if e.manager.isFalsy then .text "" else e.manager

/-- The manager of the first entry that claims the stamp; the empty text if there is none. -/
def manager (room : Room) (entries : List Entry) : Except Failure Json := do
  match ← entries.findM? (Entry.claims room) with
  | some e => return e.managerName
  | none => return .text ""

/-- The entry does not own a stamp, and the search goes on. -/
def Entry.isPassed (room : Room) (e : Entry) : Bool :=
  match e.claims room with
  | .ok false => true
  | _ => false

/-- The number of malformed payloads that are come across before the search ends. -/
def malformedCount (room : Room) (entries : List Entry) : Nat :=
  (entries.takeWhile (Entry.isPassed room)).countP fun e =>
    e.coversStatus && e.payload.isMalformed room

/-- The entries that a list of values describes. -/
def entries (managedFields : List Json) : List Entry :=
  managedFields.filterMap Entry.ofJson?

/-- The log line about a malformed payload. -/
def malformedNotice : Log.Entry :=
  { level := .debug, message := "Ignoring malformed fieldsV1 payload" }

end Driftwatch.Provenance
