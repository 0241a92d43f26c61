/-
Which API versions reach the cluster.

* `Resolution.run_resolve_recorded`: a search for a parent makes one lookup if there is something to
  be looked up, and none otherwise.
* `Resolution.refusal`, `Resolution.lookup_of_malformed`: how an API version is refused.
* `Resolution.reaches_iff_split`: which API versions can be split and into what, and that of these
  all but the empty one reach the cluster.
-/
import Driftwatch.Proofs.Decision

namespace Driftwatch.Parent.Resolution

/-- The search makes at most one lookup. -/
lemma run_resolve_recorded (room : Room) (client : Lookup → Except Failure (Option Json))
    (child : Json) (lookups : List Lookup) :
    (resolve room (Decision.recorded client) child).run lookups =
      (resolve (m := Id) room client child,
        match lookup child with
        | .ok (some l) => lookups ++ [l]
        | _ => lookups) := by
  rw [resolve, resolve]
  rcases lookup child with e | (_ | l) <;> rfl

/-- Why an API version is refused. -/
def refusal (apiVersion : String) : Error :=
  if apiVersion = "" then .emptyApiVersion
  else .malformedApiVersion apiVersion (.malformedApiVersion (.text apiVersion))

/-- A controlling reference with a malformed API version is refused. -/
lemma lookup_of_malformed {child ref : Json} (controls : Controls ref child)
    (malformed : ¬ ApiVersion.IsWellFormed (Owner.ofJson ref).apiVersion) :
    lookup child = .error (refusal (Owner.ofJson ref).apiVersion) := by
  rw [lookup, controller?_owners_eq_some_iff.mpr ⟨ref, controls, rfl⟩]
  by_cases empty : (Owner.ofJson ref).apiVersion = ""
  · simp [empty, refusal]
  · cases parsed : ApiVersion.parse (Owner.ofJson ref).apiVersion with
    | error cause =>
        obtain rfl := ApiVersion.parse_error parsed
        simp [empty, parsed, refusal]
    | ok v => exact absurd ((ApiVersion.exists_parse_iff empty).mp ⟨v, parsed⟩) malformed

/-- **Which API versions reach the cluster.**  A text can be split exactly if it is empty, or has no
slash, or has one slash with something on either side of it.  The group and the version have no
slashes, give the text when they are put together, and so are not those of any other text; only the
empty text has no version.  Every other text is reported as malformed.  A parent is looked up, once,
if the API version in the controlling reference can be split and is not empty; otherwise the search
fails without any lookup. -/
theorem reaches_iff_split (s : String) :
    ((∃ p, ApiVersion.split (.text s) = .ok p) ↔
      s = "" ∨ '/' ∉ s.toList ∨ ∃ group version : String, group ≠ "" ∧ '/' ∉ group.toList ∧
        version ≠ "" ∧ '/' ∉ version.toList ∧ s = group ++ "/" ++ version) ∧
    (∀ group value, ApiVersion.split (.text s) = .ok (group, value) ↔
      ∃ version, value = .text version ∧ ApiVersion.IsSplit s group version) ∧
    (∀ t p, ApiVersion.split (.text s) = .ok p → ApiVersion.split (.text t) = .ok p → s = t) ∧
    (∀ e, ApiVersion.split (.text s) = .error e → e = .malformedApiVersion (.text s)) ∧
    ∀ room client child ref, Controls ref child → (Owner.ofJson ref).apiVersion = s →
      ∃ found lookups, (resolve room (Decision.recorded client) child).run [] = (found, lookups) ∧
        ((s ≠ "" ∧ ∃ p, ApiVersion.split (.text s) = .ok p) →
          lookups = [{ owner := Owner.ofJson ref, namespaceName := Object.namespaceName child }]) ∧
        (¬ (s ≠ "" ∧ ∃ p, ApiVersion.split (.text s) = .ok p) →
          lookups = [] ∧ found = .ok (.failed (refusal s), [])) := by
  refine ⟨ApiVersion.exists_split_text_iff, fun group value => ApiVersion.split_text_eq_ok_iff,
    fun t p => ApiVersion.split_text_inj, fun e fails => ?_, ?_⟩
  · rw [ApiVersion.split_text] at fails
    cases parsed : ApiVersion.parse s with
    | error cause =>
        rw [parsed] at fails
        rw [← ApiVersion.parse_error parsed]
        exact (Except.error.inj fails).symm
    | ok v => simp [parsed, Except.map] at fails
  · rintro room client child ref controls rfl
    refine ⟨_, _, run_resolve_recorded room client child [], fun readable => ?_, fun refused => ?_⟩
    · rw [lookup_of_isWellFormed controls (ApiVersion.isWellFormed_iff.mpr readable)]
      rfl
    · have fails := lookup_of_malformed controls fun h =>
        refused (ApiVersion.isWellFormed_iff.mp h)
      rw [resolve, fails]
      exact ⟨rfl, rfl⟩

/-- A reference to a controlling deployment under an API version. -/
def deploymentReference (apiVersion : String) : Json :=
  .object [("apiVersion", .text apiVersion), ("kind", .text "Deployment"), ("name", .text "web"),
    ("controller", .bool true)]

/-- A child that the deployment controls. -/
def deploymentChild (apiVersion : String) : Json :=
  .object [("metadata", .object [("namespace", .text "default"),
    ("ownerReferences", .list [deploymentReference apiVersion])])]

lemma controls_deploymentReference (apiVersion : String) :
    Controls (deploymentReference apiVersion) (deploymentChild apiVersion) :=
  ⟨[], [], rfl, rfl, by simp⟩

/-- The deployment is looked up under a group and a version, and not under three parts. -/
theorem reaches_under_two_parts :
    (∃ found owner, (resolve (.below 10) (Decision.recorded Decision.forbidden)
      (deploymentChild "apps/v1")).run [] =
        (found, [{ owner, namespaceName := "default" }])) ∧
    (resolve (.below 10) (Decision.recorded Decision.forbidden)
      (deploymentChild "apps/v1/beta")).run [] = (.ok (.failed (.malformedApiVersion "apps/v1/beta"
        (.malformedApiVersion (.text "apps/v1/beta"))), []), []) := by
  constructor
  · obtain ⟨readable, -, -, -, searched⟩ := reaches_iff_split "apps/v1"
    obtain ⟨found, lookups, run, reached, -⟩ := searched (.below 10) Decision.forbidden _ _
      (controls_deploymentReference "apps/v1") rfl
    have split := readable.mpr (.inr (.inr ⟨"apps", "v1", by decide, by decide, by decide,
      by decide, rfl⟩))
    obtain rfl := reached ⟨by decide, split⟩
    exact ⟨found, _, run⟩
  · obtain ⟨-, -, -, -, searched⟩ := reaches_iff_split "apps/v1/beta"
    obtain ⟨found, lookups, run, -, refused⟩ := searched (.below 10) Decision.forbidden _ _
      (controls_deploymentReference "apps/v1/beta") rfl
    have unreadable : ¬ ∃ p, ApiVersion.split (.text "apps/v1/beta") = .ok p := by
      rintro ⟨p, split⟩
      cases split
    obtain ⟨rfl, rfl⟩ := refused fun readable => unreadable readable.2
    exact run

end Driftwatch.Parent.Resolution
