/-
Where a client reads and writes an object.

* `Names`: the texts that identify an object; `Names.CarriedBy`: a body has them in its fields.
* `Names.Requests`: the operations on an object: it is read, or written from such a body.
* `Names.place`: how the resource of an object is found: in the core group the kind gives it, and in
  a named group the plural does.
* `Names.calls_of_core`, `Names.calls_of_known`, `Names.calls_of_unknown`: where an operation on the
  object makes its query, and when it asks for the plural.
* `Names.requests_agree`: after any history, and whatever is done in between, an object is written
  where it is read.
-/
import Driftwatch.Proofs.ApiVersion
import Driftwatch.Proofs.Client.Visits

namespace Driftwatch.Client

/-! ### Objects by name -/

/-- The texts that identify an object.  The namespace is empty for an object of the whole
cluster. -/
structure Names where
  apiVersion : String
  kind : String
  name : String
  namespaceName : String

/-- A value has a text in a field; the field of an empty text may be missing. -/
def Bears (j : Json) (field text : String) : Prop :=
  j.member field = .ok (some (.text text)) ∨ text = "" ∧ j.member field = .ok none

/-- A value has a text in a field; the field of an empty text may be missing or null. -/
def BearsOrNull (j : Json) (field text : String) : Prop :=
  Bears j field text ∨ text = "" ∧ j.member field = .ok (some .null)

namespace Names

/-- A body and its metadata have the texts in the fields that identify an object. -/
structure CarriedBy (n : Names) (obj metadata : Json) : Prop where
  held : obj.member "metadata" = .ok (some metadata)
  apiVersion : BearsOrNull obj "apiVersion" n.apiVersion
  kind : Bears obj "kind" n.kind
  name : Bears metadata "name" n.name
  namespaceName : BearsOrNull metadata "namespace" n.namespaceName

/-- The operations on the object, with what is to be done with it. -/
inductive Requests (n : Names) : Operation → Action → Prop
  | read : n.Requests
      (.read (.text n.apiVersion) (.text n.kind) (.text n.name) (.text n.namespaceName)) .read
  | replace {obj metadata : Json} (carried : n.CarriedBy obj metadata) :
      n.Requests (.replace obj) (.replace obj)

/-- The namespace of the object in its address. -/
def scope (n : Names) : Option Json :=
  if n.namespaceName = "" then none else some (.text n.namespaceName)

/-- The address of the object, given its resource. -/
def under (n : Names) (resource : Resource) : Address :=
  { resource, namespaceName := n.scope, name := .text n.name }

/-- The query at the address of the object under a resource. -/
def query (n : Names) (timeout : Float) (action : Action) (resource : Resource) : Query :=
  { address := n.under resource, action, timeout }

/-- The resource of the object, if it belongs to the core group. -/
def core? (n : Names) : Option Resource :=
  Resource.core? n.kind n.scope.isSome

variable {n : Names} {obj metadata : Json}

/-! ### What a body identifies -/

lemma part_of_bears {j : Json} {field text : String} (h : Bears j field text) :
    part j field = .ok (.text text) := by
  obtain found | ⟨rfl, missing⟩ := h
  · rw [part, found]; rfl
  · rw [part, missing]; rfl

lemma part_of_bearsOrNull {j : Json} {field text : String} (h : BearsOrNull j field text) :
    ∃ value, part j field = .ok value ∧ (value = .text text ∨ text = "" ∧ value = .null) := by
  obtain borne | ⟨empty, null⟩ := h
  · exact ⟨_, part_of_bears borne, .inl rfl⟩
  · exact ⟨.null, by rw [part, null]; rfl, .inr ⟨empty, rfl⟩⟩

/-- Metadata without any fields count as none, and are replaced by the same. -/
lemma metadataOf_of_carriedBy (h : n.CarriedBy obj metadata) : metadataOf obj = .ok metadata := by
  have object : metadata.isObject = true := by
    obtain found | ⟨-, missing⟩ := h.name
    · by_contra other
      simp [Json.member, other] at found
    · by_contra other
      simp [Json.member, other] at missing
  rw [metadataOf, h.held]
  cases metadata with
  | object fields => cases fields <;> rfl
  | _ => cases object

/-- A body identifies the object that it carries the names of. -/
lemma identity_of_carriedBy (h : n.CarriedBy obj metadata) :
    ∃ i, Identity.of obj = .ok i ∧
      (i.apiVersion = .text n.apiVersion ∨ n.apiVersion = "" ∧ i.apiVersion = .null) ∧
      i.kind = .text n.kind ∧ i.name = .text n.name ∧ scopeOf i.namespaceName = n.scope := by
  obtain ⟨apiVersion, versioned, apiVersion_eq⟩ := part_of_bearsOrNull h.apiVersion
  obtain ⟨namespaceName, spaced, namespaceName_eq⟩ := part_of_bearsOrNull h.namespaceName
  refine ⟨{ apiVersion, kind := .text n.kind, name := .text n.name, namespaceName }, ?_,
    apiVersion_eq, rfl, rfl, ?_⟩
  · rw [Identity.of, metadataOf_of_carriedBy h]
    dsimp only [Bind.bind, Except.bind]
    rw [part_of_bears h.name, spaced, part_of_bears h.kind, versioned]
    rfl
  · rw [scope]
    obtain rfl | ⟨empty, rfl⟩ := namespaceName_eq
    · simp [scopeOf, Json.isFalsy]
    · rw [if_pos empty]
      rfl

/-! ### Places -/

variable (n) (version : ApiVersion) (api : Api) (timeout : Float) (s : Session)

/-- How the resource of the object is found, and the session after it. -/
def place : Except Failure Resource × Session :=
  if version.group = "" then
    (match n.core? with
      | some resource => .ok resource
      | none => .error (.unsupportedCoreKind n.kind), s)
  else
    let (named, s') := outcome (plural api (.text n.apiVersion) (.text n.kind)) s
    (named.map (.grouped version), s')

/-- What an operation on the object does: it finds the resource and makes a query there. -/
def visited (action : Action) : Session :=
  match n.place version api s with
  | (.ok resource, s') => s'.noting [.query (n.query timeout action resource)]
  | (.error _, s') => s'

variable {n version}

/-- The address of the object is the one under its resource. -/
lemma outcome_address {apiVersion namespaceName : Json}
    (versioned : apiVersion = .text n.apiVersion ∨ version.group = "")
    (inside : scopeOf namespaceName = n.scope) :
    outcome (address api version apiVersion (.text n.kind) (.text n.name) namespaceName) s =
      ((n.place version api s).1.map n.under, (n.place version api s).2) := by
  by_cases core : version.group = ""
  · rw [outcome_address_of_core api s core, place, if_pos core, inside, coreResource, core?]
    dsimp only [Json.asText]
    cases Resource.core? n.kind n.scope.isSome <;> rfl
  · obtain rfl := versioned.resolve_right core
    rw [outcome_address_of_grouped api s core, place, if_neg core, inside]
    rcases outcome (plural api (.text n.apiVersion) (.text n.kind)) s with ⟨_ | _, s'⟩ <;> rfl

/-- A request for the object fails if no resource is found, and makes its query there otherwise. -/
lemma outcome_request (action : Action) {apiVersion namespaceName : Json}
    (versioned : apiVersion = .text n.apiVersion ∨ version.group = "")
    (inside : scopeOf namespaceName = n.scope) :
    (outcome (request api timeout version apiVersion (.text n.kind) (.text n.name) namespaceName
        action) s).2 = n.visited version api timeout s action ∧
      ∀ e, (n.place version api s).1 = .error e →
        (outcome (request api timeout version apiVersion (.text n.kind) (.text n.name)
          namespaceName action) s).1 = .error e := by
  have located := outcome_address api s versioned inside
  rw [request, outcome_bind, located, visited]
  rcases n.place version api s with ⟨e | resource, s'⟩
  · exact ⟨rfl, fun _ failed => by cases failed; rfl⟩
  · exact ⟨session_ask api s' timeout _ action, fun _ failed => by cases failed⟩

/-- An operation on the object finds its resource and makes a query there; where no resource is
found, both operations fail in the same way. -/
lemma outcome_of_requests {action : Action}
    (valid : ApiVersion.parse n.apiVersion = .ok version) (v : Visit)
    (wanted : n.Requests v.operation action) :
    (v.outcome timeout s).2 = n.visited version v.api timeout s action ∧
      ∀ e, (n.place version v.api s).1 = .error e → e.isMissingObject = false →
        (v.outcome timeout s).1 = .error e := by
  obtain ⟨operation, api⟩ := v
  have read : ApiVersion.ofJson (.text n.apiVersion) = .ok version := by
    rw [ApiVersion.ofJson, ApiVersion.split_text, valid]
    rfl
  rw [Visit.outcome]
  dsimp only at wanted ⊢
  cases wanted with
  | read =>
      have inside : scopeOf (.text n.namespaceName) = n.scope := by
        simp [scopeOf, scope, Json.isFalsy]
      have versioned : Json.text n.apiVersion = .text n.apiVersion ∨ version.group = "" := .inl rfl
      obtain ⟨session, fails⟩ := outcome_request api timeout s .read versioned inside
      rw [Operation.perform, outcome_read api s timeout read]
      refine ⟨session, fun e failed present => ?_⟩
      rw [fails e failed, nullIfMissing, present]
      rfl
  | @replace obj metadata carried =>
      obtain ⟨i, identified, apiVersion, kind, name, inside⟩ := identity_of_carriedBy carried
      have parsed : ApiVersion.ofJson i.apiVersion = .ok version := by
        obtain same | ⟨empty, null⟩ := apiVersion
        · rw [same, read]
        · rw [null, ← read, empty]
          rfl
      have versioned : i.apiVersion = .text n.apiVersion ∨ version.group = "" := by
        refine apiVersion.imp_right fun missing => ?_
        rw [missing.1] at valid
        obtain rfl := Except.ok.inj valid
        rfl
      obtain ⟨session, fails⟩ := outcome_request api timeout s (.replace obj) versioned inside
      rw [Operation.perform, outcome_replace api s timeout identified parsed, kind, name]
      exact ⟨session, fun e failed _ => fails e failed⟩

/-! ### Queries -/

variable {api timeout s} {action : Action}

section

variable {v : Visit} (wanted : n.Requests v.operation action)
  (valid : ApiVersion.parse n.apiVersion = .ok version)

include wanted valid

/-- For an object of the core group there is one query, at the resource of its kind. -/
lemma calls_of_core (core : version.group = "") {resource : Resource}
    (found : n.core? = some resource) :
    v.calls timeout s = [.query (n.query timeout action resource)] := by
  rw [Visit.calls, (outcome_of_requests timeout s valid v wanted).1, visited, place, if_pos core,
    found]
  exact List.drop_left

/-- A kind that the core group does not have is refused without a call. -/
lemma refuses_of_core (core : version.group = "") (missing : n.core? = none) :
    v.calls timeout s = [] ∧ (v.outcome timeout s).1 = .error (.unsupportedCoreKind n.kind) := by
  obtain ⟨session, fails⟩ := outcome_of_requests timeout s valid v wanted
  constructor
  · rw [Visit.calls, session, visited, place, if_pos core, missing]
    exact List.drop_length
  · refine fails _ ?_ rfl
    rw [place, if_pos core, missing]

/-- For an object of a named group whose plural is known there is one query, at this plural. -/
lemma calls_of_known (grouped : version.group ≠ "") {plural : String}
    (known : s.known (.text n.apiVersion) (.text n.kind) = some plural) :
    v.calls timeout s = [.query (n.query timeout action (.grouped version plural))] := by
  rw [Visit.calls, (outcome_of_requests timeout s valid v wanted).1, visited, place, if_neg grouped,
    outcome_plural_text, known]
  exact List.drop_left

/-- For any other object of a named group the server is asked for the plural, and then there is a
query at what follows from its answer. -/
lemma calls_of_unknown (grouped : version.group ≠ "")
    (unknown : s.known (.text n.apiVersion) (.text n.kind) = none) :
    v.calls timeout s = .discover (.text n.apiVersion) (.text n.kind) ::
      match answered v.api (.text n.apiVersion) (.text n.kind) with
      | .ok plural => [.query (n.query timeout action (.grouped version plural))]
      | .error _ => [] := by
  rw [Visit.calls, (outcome_of_requests timeout s valid v wanted).1, visited, place, if_neg grouped,
    outcome_plural_text, unknown]
  dsimp only
  cases answered v.api (.text n.apiVersion) (.text n.kind) with
  | error e =>
      dsimp only [Except.map]
      rw [Session.calls_consulted]
      exact List.drop_left
  | ok plural =>
      dsimp only [Except.map, Session.noting]
      rw [Session.calls_consulted, List.append_assoc]
      exact List.drop_left

end

/-- An operation on an object of a named group makes its query at the plural that a lookup gives. -/
lemma queries_of_grouped {v : Visit} (wanted : n.Requests v.operation action)
    (valid : ApiVersion.parse n.apiVersion = .ok version) (grouped : version.group ≠ "")
    {plural : String} (given : resolved v.api s n.apiVersion n.kind = .ok plural) :
    v.queries timeout s = [n.query timeout action (.grouped version plural)] := by
  rw [Visit.queries]
  cases known : s.known (.text n.apiVersion) (.text n.kind) with
  | some name =>
      rw [resolved_of_known known] at given
      obtain rfl := Except.ok.inj given
      rw [calls_of_known wanted valid grouped known]
      rfl
  | none =>
      rw [resolved_of_unknown known] at given
      rw [calls_of_unknown wanted valid grouped known, given]
      rfl

/-! ### Agreement -/

/-- The server answers a question for the plural of the object's kind: it tells one, or does not
know exactly one resource. -/
def AnsweredBy (n : Names) (api : Api) : Prop :=
  ∀ fault, api.discover (.text n.apiVersion) (.text n.kind) = .error fault →
    ∃ message, fault = .notFound message ∨ fault = .notUnique message

/-- Then a lookup gives a plural. -/
lemma AnsweredBy.resolved (h : n.AnsweredBy api) (s : Session) :
    ∃ plural, resolved api s n.apiVersion n.kind = .ok plural := by
  cases known : s.known (.text n.apiVersion) (.text n.kind) with
  | some plural => exact ⟨plural, resolved_of_known known⟩
  | none =>
      rw [resolved_of_unknown known, answered]
      cases answer : api.discover (.text n.apiVersion) (.text n.kind) with
      | ok plural => exact ⟨plural, rfl⟩
      | error fault =>
          obtain ⟨message, rfl | rfl⟩ := h fault answer <;> exact ⟨_, rfl⟩

section

variable {first second : Visit} {action action' : Action}
  (valid : ApiVersion.parse n.apiVersion = .ok version)
  (wanted : n.Requests first.operation action) (wanted' : n.Requests second.operation action')

include valid wanted

/-- After a history in which the plural was told, an operation on an object of a named group uses it
without asking again. -/
lemma calls_of_told (grouped : version.group ≠ "") {history : List Visit} {plural : String}
    (told : WasTold timeout history n.apiVersion n.kind plural) :
    first.calls timeout (Session.start.after timeout history) =
      [.query (n.query timeout action (.grouped version plural))] :=
  calls_of_known wanted valid grouped
    ((known_after_iff timeout history n.apiVersion n.kind plural).mpr told)

/-- After any other history it asks. -/
lemma calls_of_untold (grouped : version.group ≠ "") {history : List Visit}
    (untold : ∀ plural, ¬ WasTold timeout history n.apiVersion n.kind plural) :
    first.calls timeout (Session.start.after timeout history) =
      .discover (.text n.apiVersion) (.text n.kind) ::
        match answered first.api (.text n.apiVersion) (.text n.kind) with
        | .ok plural => [.query (n.query timeout action (.grouped version plural))]
        | .error _ => [] := by
  refine calls_of_unknown wanted valid grouped ?_
  refine Option.eq_none_iff_forall_ne_some.mpr fun plural known => untold plural ?_
  exact (known_after_iff timeout history n.apiVersion n.kind plural).mp known

include wanted'

/-- Two operations on an object of the core group make their queries at one address, or are both
refused. -/
lemma agree_of_core (core : version.group = "") (s s' : Session) :
    (∃ resource, n.core? = some resource ∧
      first.queries timeout s = [n.query timeout action resource] ∧
      second.queries timeout s' = [n.query timeout action' resource]) ∨
    n.core? = none ∧
      (first.calls timeout s = [] ∧
        (first.outcome timeout s).1 = .error (.unsupportedCoreKind n.kind)) ∧
      second.calls timeout s' = [] ∧
        (second.outcome timeout s').1 = .error (.unsupportedCoreKind n.kind) := by
  cases found : n.core? with
  | none =>
      exact .inr ⟨rfl, refuses_of_core wanted valid core found,
        refuses_of_core wanted' valid core found⟩
  | some resource =>
      refine .inl ⟨resource, rfl, ?_, ?_⟩
      · rw [Visit.queries, calls_of_core wanted valid core found]
        rfl
      · rw [Visit.queries, calls_of_core wanted' valid core found]
        rfl

/-- Two operations on an object of a named group make their queries at one address, if the server's
answer stays the same from the first to the second. -/
lemma agree_of_grouped (grouped : version.group ≠ "") (settled : n.AnsweredBy first.api)
    {between : List Visit}
    (steady : ∀ v ∈ between ++ [second], v.api.discover (.text n.apiVersion) (.text n.kind) =
      first.api.discover (.text n.apiVersion) (.text n.kind)) (s : Session) :
    ∃ plural,
      first.queries timeout s = [n.query timeout action (.grouped version plural)] ∧
      second.queries timeout (s.after timeout (first :: between)) =
        [n.query timeout action' (.grouped version plural)] := by
  obtain ⟨plural, given⟩ := settled.resolved s
  have same := steady second (List.mem_append_right _ (List.mem_singleton_self _))
  have steadyBetween : ∀ v ∈ first :: between, v.api.discover (.text n.apiVersion) (.text n.kind) =
      first.api.discover (.text n.apiVersion) (.text n.kind) :=
    List.forall_mem_cons.mpr ⟨rfl, fun v inside => steady v (List.mem_append_left _ inside)⟩
  have given' : resolved second.api (s.after timeout (first :: between)) n.apiVersion n.kind =
      .ok plural := by
    rw [resolved_congr same, resolved_after timeout s (first :: between) steadyBetween, given]
  exact ⟨plural, queries_of_grouped wanted valid grouped given,
    queries_of_grouped wanted' valid grouped given'⟩

end

/-- **An object is written where it is read.**  After any history, the first operation on an object
of a named group uses the plural that was told, without asking again; if none was told it asks, and
uses what follows from the answer.  A second operation on the object, whatever is done in between,
makes its query at the same address, if the server answers the question for the plural and its
answer stays the same; or the object is of no kind of the core group, and both operations are
refused. -/
theorem requests_agree (valid : ApiVersion.parse n.apiVersion = .ok version)
    (timeout : Float) (history : List Visit)
    {first : Visit} {action : Action} (wanted : n.Requests first.operation action) :
    let s := Session.start.after timeout history
    (version.group ≠ "" →
      (∀ plural, WasTold timeout history n.apiVersion n.kind plural →
        first.calls timeout s = [.query (n.query timeout action (.grouped version plural))]) ∧
      ((∀ plural, ¬ WasTold timeout history n.apiVersion n.kind plural) →
        first.calls timeout s = .discover (.text n.apiVersion) (.text n.kind) ::
          match answered first.api (.text n.apiVersion) (.text n.kind) with
          | .ok plural => [.query (n.query timeout action (.grouped version plural))]
          | .error _ => [])) ∧
    ∀ (between : List Visit) (second : Visit) (action' : Action),
      n.Requests second.operation action' → n.AnsweredBy first.api →
      (∀ v ∈ between ++ [second], v.api.discover (.text n.apiVersion) (.text n.kind) =
        first.api.discover (.text n.apiVersion) (.text n.kind)) →
      let s' := s.after timeout (first :: between)
      (∃ resource, (if version.group = "" then n.core? = some resource
          else ∃ plural, resource = .grouped version plural) ∧
        first.queries timeout s = [n.query timeout action resource] ∧
        second.queries timeout s' = [n.query timeout action' resource]) ∨
      version.group = "" ∧ n.core? = none ∧
        (first.calls timeout s = [] ∧
          (first.outcome timeout s).1 = .error (.unsupportedCoreKind n.kind)) ∧
        second.calls timeout s' = [] ∧
          (second.outcome timeout s').1 = .error (.unsupportedCoreKind n.kind) := by
  intro s
  refine ⟨fun grouped => ⟨fun plural told => calls_of_told valid wanted grouped told,
    fun untold => calls_of_untold valid wanted grouped untold⟩, ?_⟩
  intro between second action' wanted' settled steady s'
  by_cases core : version.group = ""
  · simp only [if_pos core]
    exact (agree_of_core valid wanted wanted' core s s').imp_right fun refused => ⟨core, refused⟩
  · obtain ⟨plural, read, written⟩ :=
      agree_of_grouped valid wanted wanted' core settled steady s
    exact .inl ⟨.grouped version plural, by rw [if_neg core]; exact ⟨plural, rfl⟩, read, written⟩

/-- A deployment whose plural was looked up before is read at this plural without a question, and
written at the same address, although another object is read in between. -/
theorem requests_agree_of_lookup :
    let n : Names :=
      { apiVersion := "apps/v1", kind := "Deployment", name := "web", namespaceName := "shop" }
    let api : Api := { discover := fun _ _ => .ok "deployments", serve := fun _ => .ok .null }
    let body : Json := .object [("apiVersion", .text "apps/v1"), ("kind", .text "Deployment"),
      ("metadata", .object [("name", .text "web"), ("namespace", .text "shop")])]
    let lookup : Visit := { operation := .plural (.text "apps/v1") (.text "Deployment"), api }
    let reading : Visit :=
      { operation := .read (.text "apps/v1") (.text "Deployment") (.text "web") (.text "shop")
        api }
    let other : Visit :=
      { operation := .read (.text "v1") (.text "Pod") (.text "web-0") (.text "shop"), api }
    let writing : Visit := { operation := .replace body, api }
    let s := Session.start.after 5 [lookup]
    let resource := Resource.grouped { group := "apps", version := "v1" } "deployments"
    reading.calls 5 s = [.query (n.query 5 .read resource)] ∧
      ∃ resource, reading.queries 5 s = [n.query 5 .read resource] ∧
        writing.queries 5 (s.after 5 [reading, other]) = [n.query 5 (.replace body) resource] := by
  intro n api body lookup reading other writing s resource
  have valid : ApiVersion.parse n.apiVersion = .ok { group := "apps", version := "v1" } :=
    ApiVersion.parse_of_isSplit ⟨by decide, by decide, by decide, by decide⟩
  have carried : n.CarriedBy body (.object [("name", .text "web"), ("namespace", .text "shop")]) :=
    { held := rfl, apiVersion := .inl (.inl rfl), kind := .inl rfl, name := .inl rfl,
      namespaceName := .inl (.inl rfl) }
  have wanted : n.Requests reading.operation .read := .read
  have told : WasTold 5 [lookup] n.apiVersion n.kind "deployments" :=
    ⟨[], lookup, [], rfl, List.mem_singleton_self _, rfl⟩
  obtain ⟨plurals, agree⟩ := requests_agree valid 5 [lookup] wanted
  refine ⟨(plurals (by decide)).1 "deployments" told, ?_⟩
  obtain ⟨resource, -, read, written⟩ | ⟨core, -⟩ := agree [other] writing (.replace body)
    (.replace carried) nofun (by simp [writing, other, reading])
  · exact ⟨resource, read, written⟩
  · exact absurd core (by decide)

end Names

end Driftwatch.Client
