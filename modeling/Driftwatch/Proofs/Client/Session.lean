/-
What the actions of a client do to its session.

* `outcome`: what an action ends in, and the session after it.
* `Session.noting`, `Session.consulted`: the session after calls, and after the server was asked for
  a plural.
* `Session.known_consulted`: of what is known only the plural that was told is new.
* `outcome_plural`: a plural that was told before is taken again, and the server is asked for any
  other.
* `session_plural`: what a lookup of a plural may do, whatever it is asked about.
* `outcome_read`, `outcome_replace`: reading and replacing are requests (`request`).
-/
import Driftwatch.Client.Session
import Mathlib.Tactic.Lemma
import Mathlib.Tactic.SplitIfs

namespace Driftwatch

/-- Only a text equals a text. -/
lemma Json.same_text_right_iff (j : Json) (s : String) : j.same (.text s) = true ↔ j = .text s := by
  cases j <;> simp [same]

namespace Client

/-! ### Outcomes -/

/-- What an action ends in, and the session after it. -/
def outcome {α : Type} (act : Act α) (s : Session) : Except Failure α × Session :=
  (ExceptT.run act).run s

section

variable {α β : Type} {s s' : Session} {act : Act α}

lemma outcome_bind (act : Act α) (next : α → Act β) (s : Session) :
    outcome (act >>= next) s =
      match outcome act s with
      | (.ok a, s') => outcome (next a) s'
      | (.error e, s') => (.error e, s') := by
  simp only [outcome, ExceptT.run_bind, StateT.run_bind]
  rcases StateT.run (ExceptT.run act) s with ⟨_ | _, s'⟩ <;> rfl

/-- An action goes on where the one before it has ended. -/
lemma outcome_bind_of_ok {a : α} (h : outcome act s = (.ok a, s')) (next : α → Act β) :
    outcome (act >>= next) s = outcome (next a) s' := by
  rw [outcome_bind, h]

/-- An action does not go on where the one before it has failed. -/
lemma outcome_bind_of_error {e : Failure} (h : outcome act s = (.error e, s'))
    (next : α → Act β) : outcome (act >>= next) s = (.error e, s') := by
  rw [outcome_bind, h]

/-- An action that does not fail is not caught. -/
lemma outcome_tryCatch_of_ok {a : α} (h : outcome act s = (.ok a, s'))
    (handle : Failure → Act α) : outcome (tryCatch act handle) s = (.ok a, s') := by
  rw [outcome] at h
  simp only [outcome, ExceptT.run_tryCatch, StateT.run_bind, h]
  rfl

/-- What is done after a failure goes on from where it has happened. -/
lemma outcome_tryCatch_of_error {e : Failure} (h : outcome act s = (.error e, s'))
    (handle : Failure → Act α) : outcome (tryCatch act handle) s = outcome (handle e) s' := by
  rw [outcome] at h
  simp only [outcome, ExceptT.run_tryCatch, StateT.run_bind, h]
  rfl

lemma outcome_ofResult (r : Except Failure α) (s : Session) : outcome (ofResult r) s = (r, s) := by
  cases r <;> rfl

end

/-! ### Plurals -/

namespace Session

/-- The session after further calls. -/
def noting (s : Session) (calls : List Call) : Session :=
  { s with calls := s.calls ++ calls }

/-- The session after the server was asked for a plural. -/
def consulted (s : Session) (api : Api) (apiVersion kind : Json) : Session :=
  let asked := s.noting [.discover apiVersion kind]
  match api.discover apiVersion kind with
  | .ok name => { asked with plurals := s.plurals ++ [((apiVersion, kind), name)] }
  | .error _ => asked

variable (s : Session) (api : Api) (apiVersion kind : Json)

lemma calls_consulted :
    (s.consulted api apiVersion kind).calls = s.calls ++ [.discover apiVersion kind] := by
  rw [consulted]
  cases api.discover apiVersion kind <;> rfl

/-- Calls do not change what is known. -/
lemma known_noting (calls : List Call) :
    (s.noting calls).known apiVersion kind = s.known apiVersion kind :=
  rfl

/-- After the server was asked, what it has told is known, and all that was known before. -/
lemma known_consulted (v k : String) :
    (s.consulted api apiVersion kind).known (.text v) (.text k) =
      (s.known (.text v) (.text k)).or
        (if apiVersion = .text v ∧ kind = .text k then (api.discover apiVersion kind).toOption
         else none) := by
  rw [consulted]
  cases answer : api.discover apiVersion kind with
  | error fault =>
      rw [known_noting]
      split_ifs <;> simp [Except.toOption]
  | ok name =>
      rw [known, known, List.find?_append, Option.map_or]
      congr 1
      by_cases own : apiVersion = .text v ∧ kind = .text k
      · simp [own, Json.same, Except.toOption]
      · have other : ¬ (apiVersion.same (.text v) = true ∧ kind.same (.text k) = true) := by
          rwa [Json.same_text_right_iff, Json.same_text_right_iff]
        simp [own, other]

end Session

variable (api : Api) {s : Session}

/-- What follows from the server's answer to a question for a plural: it tells one, or does not know
exactly one resource, so that the usual plural is taken, or fails. -/
def answered (api : Api) (apiVersion kind : Json) : Except Failure String :=
  match api.discover apiVersion kind with
  | .ok name => .ok name
  | .error (.notFound _) | .error (.notUnique _) => usualPlural kind
  | .error fault => .error (.fault fault)

/-- A plural that was told before is taken again, and the server is asked for any other. -/
lemma outcome_plural {apiVersion kind : Json}
    (hashable : outcome (requireHashable apiVersion) s = (.ok (), s))
    (hashable' : outcome (requireHashable kind) s = (.ok (), s)) :
    outcome (plural api apiVersion kind) s =
      match s.known apiVersion kind with
      | some name => (.ok name, s)
      | none => (answered api apiVersion kind, s.consulted api apiVersion kind) := by
  have current : outcome (get : Act Session) s = (.ok s, s) := rfl
  have asked : outcome (record (.discover apiVersion kind)) s =
      (.ok (), s.noting [.discover apiVersion kind]) := rfl
  rw [plural, outcome_bind_of_ok hashable, outcome_bind_of_ok hashable',
    outcome_bind_of_ok current]
  cases s.known apiVersion kind with
  | some name => rfl
  | none =>
      dsimp only
      rw [outcome_bind_of_ok asked, answered, Session.consulted]
      cases api.discover apiVersion kind with
      | ok name => rfl
      | error fault =>
          cases fault with
          | notFound message => exact outcome_ofResult _ _
          | notUnique message => exact outcome_ofResult _ _
          | _ => rfl

lemma outcome_plural_text (v k : String) (s : Session) :
    outcome (plural api (.text v) (.text k)) s =
      match s.known (.text v) (.text k) with
      | some name => (.ok name, s)
      | none => (answered api (.text v) (.text k), s.consulted api (.text v) (.text k)) :=
  outcome_plural api rfl rfl

/-- Whatever a plural is looked up for, the session is left as it is, or the server is asked for
what it has not told before. -/
lemma session_plural (apiVersion kind : Json) (s : Session) :
    (outcome (plural api apiVersion kind) s).2 = s ∨
      s.known apiVersion kind = none ∧
        (outcome (plural api apiVersion kind) s).2 = s.consulted api apiVersion kind := by
  have check (j : Json) : ∃ r, outcome (requireHashable j) s = (r, s) := by
    cases j <;> exact ⟨_, rfl⟩
  obtain ⟨first, hashable⟩ := check apiVersion
  obtain ⟨second, hashable'⟩ := check kind
  cases first with
  | error e => exact .inl (by rw [plural, outcome_bind_of_error hashable])
  | ok _ =>
      cases second with
      | error e =>
          refine .inl ?_
          rw [plural, outcome_bind_of_ok hashable, outcome_bind_of_error hashable']
      | ok _ =>
          rw [outcome_plural api hashable hashable']
          cases s.known apiVersion kind with
          | some name => exact .inl rfl
          | none => exact .inr ⟨rfl, rfl⟩

/-! ### Addresses and queries -/

/-- The part of an address for the namespace: none if it is empty. -/
def scopeOf (namespaceName : Json) : Option Json :=
  if namespaceName.isFalsy then none else some namespaceName

section

variable {version : ApiVersion} {apiVersion kind name namespaceName : Json} (s : Session)

/-- The address of an object of the core group depends on the kind alone. -/
lemma outcome_address_of_core (core : version.group = "") :
    outcome (address api version apiVersion kind name namespaceName) s =
      ((coreResource kind (scopeOf namespaceName).isSome).map fun resource =>
        { resource, namespaceName := scopeOf namespaceName, name }, s) := by
  rw [address, if_pos core]
  change outcome (ofResult (coreResource kind (scopeOf namespaceName).isSome) >>= _) s = _
  rw [outcome_bind, outcome_ofResult]
  cases coreResource kind (scopeOf namespaceName).isSome <;> rfl

/-- The address of an object of a named group takes the plural of its kind. -/
lemma outcome_address_of_grouped (grouped : version.group ≠ "") :
    outcome (address api version apiVersion kind name namespaceName) s =
      ((outcome (plural api apiVersion kind) s).1.map fun plural =>
        { resource := .grouped version plural, namespaceName := scopeOf namespaceName, name },
        (outcome (plural api apiVersion kind) s).2) := by
  rw [address, if_neg grouped]
  rw [outcome_bind]
  rcases outcome (plural api apiVersion kind) s with ⟨_ | _, s'⟩ <;> rfl

/-- A query is put on record, and its answer is passed on. -/
lemma session_ask (timeout : Float) (a : Address) (action : Action) :
    (outcome (ask api timeout a action) s).2 =
      s.noting [.query { address := a, action, timeout }] := by
  have recorded : outcome (record (.query { address := a, action, timeout })) s =
      (.ok (), s.noting [.query { address := a, action, timeout }]) := rfl
  rw [ask, outcome_bind_of_ok recorded]
  cases api.serve { address := a, action, timeout } <;> rfl

/-! ### Requests -/

/-- The address of an object is found, and a query is put to the server there. -/
def request (api : Api) (timeout : Float) (version : ApiVersion)
    (apiVersion kind name namespaceName : Json) (action : Action) : Act Json := do
  let a ← address api version apiVersion kind name namespaceName
  ask api timeout a action

/-- What does not exist reads as null. -/
def nullIfMissing : Except Failure Json → Except Failure Json
  | .ok j => .ok j
  | .error e => if e.isMissingObject then .ok .null else .error e

/-- Reading is a request. -/
lemma outcome_read (timeout : Float) (h : ApiVersion.ofJson apiVersion = .ok version) :
    outcome (read api timeout apiVersion kind name namespaceName) s =
      (nullIfMissing
        (outcome (request api timeout version apiVersion kind name namespaceName .read) s).1,
        (outcome (request api timeout version apiVersion kind name namespaceName .read) s).2) := by
  have known : outcome (ofResult (ApiVersion.ofJson apiVersion)) s = (.ok version, s) := by
    rw [outcome_ofResult, h]
  rw [read, outcome_bind_of_ok known]
  rcases done : outcome (request api timeout version apiVersion kind name namespaceName .read) s
    with ⟨e | j, s'⟩
  · refine (outcome_tryCatch_of_error done _).trans ?_
    rw [nullIfMissing]
    split_ifs <;> rfl
  · exact outcome_tryCatch_of_ok done _

/-- Replacing is a request for the object that the fields of the body identify. -/
lemma outcome_replace (timeout : Float) {obj : Json} {i : Identity}
    (identified : Identity.of obj = .ok i) (h : ApiVersion.ofJson i.apiVersion = .ok version) :
    outcome (replace api timeout obj) s =
      outcome (request api timeout version i.apiVersion i.kind i.name i.namespaceName
        (.replace obj)) s := by
  rw [replace, identified, outcome_bind, outcome_ofResult]
  dsimp only
  rw [h, outcome_bind, outcome_ofResult]
  rfl

end

end Client

end Driftwatch
