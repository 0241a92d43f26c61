/-
What a client knows after a history of operations.

* `Operation`, `Visit`: what a client is asked to do, and how the server answers meanwhile.
* `Session.Moves`: what an operation may do to a session: it makes queries, and before these it may
  ask for a plural that is not known.
* `Visit.moves`: every operation does one of these.
* `Visit.Tells`, `WasTold`: in an operation, or somewhere in a history, the server was asked for a
  plural and told it.
* `known_after_iff`: exactly the plurals that were told are known after a history.
* `resolved_after`: while the server's answer stays the same, so does what a lookup gives.
-/
import Driftwatch.Proofs.Client.Session
import Mathlib.Data.List.Induction

namespace Driftwatch.Client

/-! ### Operations -/

/-- What a client is asked to do. -/
inductive Operation
  | read (apiVersion kind name namespaceName : Json)
  | replace (obj : Json)
  | plural (apiVersion kind : Json)

/-- The operation as an action. -/
def Operation.perform (api : Api) (timeout : Float) : Operation → Act Json
  | .read apiVersion kind name namespaceName =>
    Client.read api timeout apiVersion kind name namespaceName
  | .replace obj => Client.replace api timeout obj
  | .plural apiVersion kind => do
    let name ← Client.plural api apiVersion kind
    return .text name

/-- An operation, and how the server answers while it is done. -/
structure Visit where
  operation : Operation
  api : Api

/-- What an operation ends in, and the session after it. -/
def Visit.outcome (timeout : Float) (v : Visit) (s : Session) : Except Failure Json × Session :=
  Client.outcome (v.operation.perform v.api timeout) s

/-- The calls that an operation makes. -/
def Visit.calls (timeout : Float) (v : Visit) (s : Session) : List Call :=
  (v.outcome timeout s).2.calls.drop s.calls.length

/-- The query that a call is, if it is one. -/
def Call.query? : Call → Option Query
  | .discover _ _ => none
  | .query q => some q

/-- The queries that an operation makes. -/
def Visit.queries (timeout : Float) (v : Visit) (s : Session) : List Query :=
  (v.calls timeout s).filterMap Call.query?

/-- The session after a history of operations. -/
def Session.after (timeout : Float) (s : Session) (history : List Visit) : Session :=
  history.foldl (fun s v => (v.outcome timeout s).2) s

lemma Session.after_concat (timeout : Float) (s : Session) (history : List Visit) (v : Visit) :
    s.after timeout (history ++ [v]) = (v.outcome timeout (s.after timeout history)).2 := by
  rw [after, List.foldl_append]
  rfl

/-! ### What an operation may do -/

/-- What an operation may do to a session, and with which calls: it makes queries, and before these
it may ask for a plural that is not known. -/
inductive Session.Moves (api : Api) (s : Session) : List Call → Session → Prop
  | quiet (queries : List Query) :
      Moves api s (queries.map .query) (s.noting (queries.map .query))
  | asks {apiVersion kind : Json} (unknown : s.known apiVersion kind = none)
      (queries : List Query) :
      Moves api s (.discover apiVersion kind :: queries.map .query)
        ((s.consulted api apiVersion kind).noting (queries.map .query))

variable {api : Api} {s s' : Session} {calls : List Call} (timeout : Float)

/-- The calls are those that were put on record. -/
lemma Session.Moves.calls_eq (h : s.Moves api calls s') : s'.calls = s.calls ++ calls := by
  cases h with
  | quiet queries => rfl
  | asks unknown queries => rw [noting, calls_consulted, List.append_assoc]; rfl

/-- Nothing is done. -/
lemma Session.Moves.refl (api : Api) (s : Session) : s.Moves api [] s := by
  have still : s.Moves api _ _ := .quiet []
  rwa [noting, List.map_nil, List.append_nil] at still

/-- One more query may follow. -/
lemma Session.Moves.concat (h : s.Moves api calls s') (q : Query) :
    s.Moves api (calls ++ [.query q]) (s'.noting [.query q]) := by
  cases h with
  | quiet queries =>
      have more : s.Moves api _ _ := .quiet (queries ++ [q])
      simpa [noting] using more
  | asks unknown queries =>
      have more : s.Moves api _ _ := .asks unknown (queries ++ [q])
      simpa [noting] using more

/-- A lookup of a plural may ask for it. -/
lemma moves_plural (api : Api) (apiVersion kind : Json) (s : Session) :
    ∃ calls, s.Moves api calls (outcome (plural api apiVersion kind) s).2 := by
  obtain same | ⟨unknown, asked⟩ := session_plural api apiVersion kind s
  · rw [same]
    exact ⟨_, .refl api s⟩
  · rw [asked]
    have asks : s.Moves api _ _ := .asks unknown []
    rw [Session.noting, List.map_nil, List.append_nil] at asks
    exact ⟨_, asks⟩

/-- So may the search for an address. -/
lemma moves_address (api : Api) (version : ApiVersion)
    (apiVersion kind name namespaceName : Json) (s : Session) :
    ∃ calls, s.Moves api calls
      (outcome (address api version apiVersion kind name namespaceName) s).2 := by
  by_cases core : version.group = ""
  · rw [outcome_address_of_core api s core]
    exact ⟨_, .refl api s⟩
  · rw [outcome_address_of_grouped api s core]
    exact moves_plural api apiVersion kind s

/-- A request is a query at an address. -/
lemma moves_request (api : Api) (version : ApiVersion)
    (apiVersion kind name namespaceName : Json) (action : Action) (s : Session) :
    ∃ calls, s.Moves api calls
      (outcome (request api timeout version apiVersion kind name namespaceName action) s).2 := by
  obtain ⟨calls, moves⟩ := moves_address api version apiVersion kind name namespaceName s
  rw [request, outcome_bind]
  rcases located : outcome (address api version apiVersion kind name namespaceName) s with
    ⟨e | a, s'⟩
  · rw [located] at moves
    exact ⟨calls, moves⟩
  · rw [located] at moves
    dsimp only
    rw [session_ask]
    exact ⟨_, moves.concat _⟩

/-- Every operation makes queries, and before these it may ask for a plural that is not known. -/
theorem Visit.moves (v : Visit) (s : Session) :
    s.Moves v.api (v.calls timeout s) (v.outcome timeout s).2 := by
  suffices some : ∃ calls, s.Moves v.api calls (v.outcome timeout s).2 by
    obtain ⟨calls, moves⟩ := some
    rw [Visit.calls, moves.calls_eq, List.drop_left]
    exact moves
  rw [Visit.outcome]
  cases v.operation with
  | read apiVersion kind name namespaceName =>
      rw [Operation.perform]
      cases parsed : ApiVersion.ofJson apiVersion with
      | error e =>
          rw [Client.read, parsed, outcome_bind, outcome_ofResult]
          exact ⟨_, .refl v.api s⟩
      | ok version =>
          rw [outcome_read v.api s timeout parsed]
          exact moves_request timeout v.api version apiVersion kind name namespaceName .read s
  | replace obj =>
      rw [Operation.perform]
      cases identified : Identity.of obj with
      | error e =>
          rw [Client.replace, identified, outcome_bind, outcome_ofResult]
          exact ⟨_, .refl v.api s⟩
      | ok i =>
          cases parsed : ApiVersion.ofJson i.apiVersion with
          | error e =>
              rw [Client.replace, identified, outcome_bind, outcome_ofResult]
              dsimp only
              rw [parsed, outcome_bind, outcome_ofResult]
              exact ⟨_, .refl v.api s⟩
          | ok version =>
              rw [outcome_replace v.api s timeout identified parsed]
              exact moves_request timeout v.api version i.apiVersion i.kind i.name
                i.namespaceName (.replace obj) s
  | plural apiVersion kind =>
      obtain ⟨calls, moves⟩ := moves_plural v.api apiVersion kind s
      rw [Operation.perform, outcome_bind]
      rcases looked : Client.outcome (Client.plural v.api apiVersion kind) s with ⟨e | name, s'⟩
      · rw [looked] at moves
        exact ⟨calls, moves⟩
      · rw [looked] at moves
        exact ⟨calls, moves⟩

/-! ### What is known after a history -/

lemma Session.Moves.known_of_quiet (h : s.Moves api calls s') (a k : String)
    (silent : Call.discover (.text a) (.text k) ∉ calls) :
    s'.known (.text a) (.text k) = s.known (.text a) (.text k) := by
  cases h with
  | quiet queries => rw [known_noting]
  | @asks apiVersion kind unknown queries =>
      have other : ¬ (apiVersion = .text a ∧ kind = .text k) := by
        rintro ⟨rfl, rfl⟩
        exact silent List.mem_cons_self
      rw [known_noting, known_consulted, if_neg other, Option.or_none]

/-- Only what is not known is asked for, and then what the server tells is known. -/
lemma Session.Moves.known_of_asked (h : s.Moves api calls s') (a k : String)
    (asked : Call.discover (.text a) (.text k) ∈ calls) :
    s.known (.text a) (.text k) = none ∧
      s'.known (.text a) (.text k) = (api.discover (.text a) (.text k)).toOption := by
  cases h with
  | quiet queries => simp at asked
  | @asks apiVersion kind unknown queries =>
      obtain ⟨rfl, rfl⟩ : apiVersion = .text a ∧ kind = .text k := by
        simpa [eq_comm] using asked
      rw [known_noting, known_consulted, if_pos ⟨rfl, rfl⟩, unknown, Option.none_or]
      exact ⟨rfl, rfl⟩

/-- In an operation the server was asked for the plural of a kind, and told it. -/
def Visit.Tells (v : Visit) (s : Session) (apiVersion kind plural : String) : Prop :=
  .discover (.text apiVersion) (.text kind) ∈ v.calls timeout s ∧
    v.api.discover (.text apiVersion) (.text kind) = .ok plural

/-- After an operation exactly the plurals are known that were known before, or that it was told. -/
lemma Visit.known_iff (v : Visit) (s : Session) (a k plural : String) :
    (v.outcome timeout s).2.known (.text a) (.text k) = some plural ↔
      s.known (.text a) (.text k) = some plural ∨ v.Tells timeout s a k plural := by
  have moves := v.moves timeout s
  rw [Tells]
  by_cases asked : Call.discover (.text a) (.text k) ∈ v.calls timeout s
  · obtain ⟨unknown, known⟩ := moves.known_of_asked a k asked
    rw [known, unknown]
    cases v.api.discover (.text a) (.text k) <;> simp [asked, Except.toOption]
  · rw [moves.known_of_quiet a k asked]
    simp [asked]

/-- Somewhere in a history the server was asked for the plural of a kind, and told it. -/
def WasTold (history : List Visit) (apiVersion kind plural : String) : Prop :=
  ∃ earlier visit later, history = earlier ++ visit :: later ∧
    visit.Tells timeout (Session.start.after timeout earlier) apiVersion kind plural

lemma not_wasTold_nil (a k plural : String) : ¬ WasTold timeout [] a k plural := by
  rintro ⟨earlier, visit, later, parts, -⟩
  simp at parts

/-- A history with one more operation was told what it was told before and what is told last. -/
lemma wasTold_concat (history : List Visit) (v : Visit) (a k plural : String) :
    WasTold timeout (history ++ [v]) a k plural ↔
      WasTold timeout history a k plural ∨
        v.Tells timeout (Session.start.after timeout history) a k plural := by
  constructor
  · rintro ⟨earlier, visit, later, parts, tells⟩
    obtain rfl | ⟨rest, last, rfl⟩ := later.eq_nil_or_concat
    · obtain ⟨rfl, same⟩ := List.append_inj' parts rfl
      obtain rfl : v = visit := by simpa using same
      exact .inr tells
    · refine .inl ⟨earlier, visit, rest, ?_, tells⟩
      rw [List.concat_eq_append, ← List.cons_append, ← List.append_assoc] at parts
      exact (List.append_inj' parts rfl).1
  · rintro (⟨earlier, visit, later, rfl, tells⟩ | tells)
    · exact ⟨earlier, visit, later ++ [v], by simp, tells⟩
    · exact ⟨history, v, [], rfl, tells⟩

/-- **Exactly the plurals that were told are known**: an answer is kept for good, and what the
server did not tell leaves no trace. -/
theorem known_after_iff (history : List Visit) (a k plural : String) :
    (Session.start.after timeout history).known (.text a) (.text k) = some plural ↔
      WasTold timeout history a k plural := by
  -- on the last operation of the history
  induction history using List.reverseRecOn with
  | nil => exact iff_of_false nofun (not_wasTold_nil timeout a k plural)
  | append_singleton history v ih =>
      rw [Session.after_concat, Visit.known_iff, ih, wasTold_concat]

/-! ### What a lookup gives -/

/-- The plural that a lookup gives: the one that is known, or what follows from the server's
answer. -/
def resolved (api : Api) (s : Session) (a k : String) : Except Failure String :=
  match s.known (.text a) (.text k) with
  | some plural => .ok plural
  | none => answered api (.text a) (.text k)

lemma resolved_of_known {a k plural : String} (known : s.known (.text a) (.text k) = some plural) :
    resolved api s a k = .ok plural := by
  rw [resolved, known]

lemma resolved_of_unknown {a k : String} (unknown : s.known (.text a) (.text k) = none) :
    resolved api s a k = answered api (.text a) (.text k) := by
  rw [resolved, unknown]

/-- What a lookup gives depends on the server's answer to this question alone. -/
lemma resolved_congr {api' : Api} {a k : String}
    (same : api'.discover (.text a) (.text k) = api.discover (.text a) (.text k)) :
    resolved api' s a k = resolved api s a k := by
  rw [resolved, resolved, answered, same, answered]

/-- An operation does not change what a lookup gives, if the server's answer is the same. -/
lemma resolved_outcome {v : Visit} {a k : String} (s : Session)
    (same : v.api.discover (.text a) (.text k) = api.discover (.text a) (.text k)) :
    resolved api (v.outcome timeout s).2 a k = resolved api s a k := by
  have moves := v.moves timeout s
  by_cases asked : Call.discover (.text a) (.text k) ∈ v.calls timeout s
  · obtain ⟨unknown, known⟩ := moves.known_of_asked a k asked
    rw [same] at known
    rw [resolved_of_unknown unknown, resolved, known, answered]
    cases api.discover (.text a) (.text k) <;> rfl
  · rw [resolved, moves.known_of_quiet a k asked, resolved]

/-- So a lookup gives the same before and after any operations during which the server's answer
stays the same. -/
lemma resolved_after {a k : String} (s : Session) (visits : List Visit)
    (steady : ∀ v ∈ visits,
      v.api.discover (.text a) (.text k) = api.discover (.text a) (.text k)) :
    resolved api (s.after timeout visits) a k = resolved api s a k := by
  induction visits generalizing s with
  | nil => rfl
  | cons v visits ih =>
      obtain ⟨same, steady⟩ := List.forall_mem_cons.mp steady
      exact (ih (v.outcome timeout s).2 steady).trans (resolved_outcome timeout s same)

end Driftwatch.Client
