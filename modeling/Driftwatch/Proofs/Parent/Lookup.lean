/-
Which parent is looked up for a child.

* `Controls`: a reference is the first one in an object that says `controller: true`.
* `Seeks`: what is looked up for a child: what its controlling reference names, if the API version
  is well-formed, in the namespace of the child.
* `Resolution.lookup_eq_some_iff`: what the child seeks is looked up.
* `Resolution.lookup_of_not_isWellFormed`: a malformed API version ends the search before that.
-/
import Driftwatch.Parent.Resolution
import Driftwatch.Proofs.ApiVersion

namespace Driftwatch.Parent

/-! ### Controlling references -/

/-- The reference is the first of an object's owner references that says `controller: true`. -/
def Controls (ref child : Json) : Prop :=
  ∃ before after, Object.listAt child ["metadata", "ownerReferences"] = before ++ ref :: after ∧
    ref.get? "controller" = some (.bool true) ∧
    ∀ r ∈ before, r.get? "controller" ≠ some (.bool true)

/-- The owner that a value describes is the controller if the value says exactly `true`. -/
lemma isController_ofJson_iff (ref : Json) :
    (Owner.ofJson ref).isController = true ↔ ref.get? "controller" = some (.bool true) := by
  rw [Owner.ofJson, decide_eq_true_iff, Json.getOrNull]
  cases ref.get? "controller" <;> simp

/-- Only objects have fields. -/
lemma isObject_of_get? {j value : Json} {name : String} (h : j.get? name = some value) :
    j.isObject = true := by
  cases j with
  | object fields => rfl
  | _ => simp [Json.get?] at h

/-- The owner that controls an object is the one that its controlling reference describes. -/
lemma controller?_owners_eq_some_iff {child : Json} {owner : Owner} :
    Owner.controller? (Object.owners child) = some owner ↔
      ∃ ref, Controls ref child ∧ Owner.ofJson ref = owner := by
  have flagged (r : Json) : (r.isObject = true ∧ (Owner.isController ∘ Owner.ofJson) r = true) ↔
      r.get? "controller" = some (.bool true) := by
    rw [Function.comp_apply, isController_ofJson_iff]
    exact ⟨And.right, fun h => ⟨isObject_of_get? h, h⟩⟩
  rw [Owner.controller?, Object.owners, List.find?_map, List.find?_filter,
    Option.map_eq_some_iff]
  refine exists_congr fun ref => and_congr_left fun _ => ?_
  simp only [List.find?_eq_some_iff_append, flagged, Controls, decide_eq_true_eq,
    Bool.not_eq_true', decide_eq_false_iff_not]
  constructor
  · rintro ⟨flag, before, after, refs, first⟩
    exact ⟨before, after, refs, flag, first⟩
  · rintro ⟨before, after, refs, flag, first⟩
    exact ⟨flag, before, after, refs, first⟩

/-- No owner controls an object that has no controlling reference. -/
lemma controller?_owners_eq_none_iff {child : Json} :
    Owner.controller? (Object.owners child) = none ↔ ∀ ref, ¬ Controls ref child := by
  constructor
  · intro none ref controls
    have some := controller?_owners_eq_some_iff.mpr ⟨ref, controls, rfl⟩
    rw [none] at some
    simp at some
  · intro none
    rw [Option.eq_none_iff_forall_ne_some]
    intro owner some
    obtain ⟨ref, controls, -⟩ := controller?_owners_eq_some_iff.mp some
    exact none ref controls

/-! ### Lookups -/

/-- What is looked up for a child: what its controlling reference names, if the API version there
is well-formed, in the namespace of the child. -/
def Seeks (child : Json) (l : Lookup) : Prop :=
  ∃ ref, Controls ref child ∧ ApiVersion.IsWellFormed (Owner.ofJson ref).apiVersion ∧
    l = { owner := Owner.ofJson ref, namespaceName := Object.namespaceName child }

namespace Resolution

variable {child ref : Json}

/-- Nothing is looked up for a child that nobody controls. -/
lemma lookup_of_unowned (unowned : ∀ ref, ¬ Controls ref child) : lookup child = .ok none := by
  rw [lookup, controller?_owners_eq_none_iff.mpr unowned]

/-- What a controlling reference names is looked up. -/
lemma lookup_of_isWellFormed (controls : Controls ref child)
    (wellFormed : ApiVersion.IsWellFormed (Owner.ofJson ref).apiVersion) :
    lookup child =
      .ok (some { owner := Owner.ofJson ref, namespaceName := Object.namespaceName child }) := by
  obtain ⟨v, parsed⟩ := (ApiVersion.exists_parse_iff wellFormed.ne_empty).mpr wellFormed
  rw [lookup, controller?_owners_eq_some_iff.mpr ⟨ref, controls, rfl⟩]
  simp [wellFormed.ne_empty, parsed]

/-- A malformed API version ends the search. -/
lemma lookup_of_not_isWellFormed (controls : Controls ref child)
    (malformed : ¬ ApiVersion.IsWellFormed (Owner.ofJson ref).apiVersion) :
    ∃ e, lookup child = .error e := by
  rw [lookup, controller?_owners_eq_some_iff.mpr ⟨ref, controls, rfl⟩]
  by_cases empty : (Owner.ofJson ref).apiVersion = ""
  · simp [empty]
  · cases parsed : ApiVersion.parse (Owner.ofJson ref).apiVersion with
    | error cause => simp [empty, parsed]
    | ok v => exact absurd ((ApiVersion.exists_parse_iff empty).mp ⟨v, parsed⟩) malformed

/-- A lookup is made exactly if the child seeks it. -/
theorem lookup_eq_some_iff {l : Lookup} : lookup child = .ok (some l) ↔ Seeks child l := by
  constructor
  · intro found
    by_cases owned : ∃ ref, Controls ref child
    · obtain ⟨ref, controls⟩ := owned
      by_cases wellFormed : ApiVersion.IsWellFormed (Owner.ofJson ref).apiVersion
      · rw [lookup_of_isWellFormed controls wellFormed] at found
        exact ⟨ref, controls, wellFormed, (Option.some.inj (Except.ok.inj found)).symm⟩
      · obtain ⟨e, fails⟩ := lookup_of_not_isWellFormed controls wellFormed
        simp [fails] at found
    · simp [lookup_of_unowned (not_exists.mp owned)] at found
  · rintro ⟨ref, controls, wellFormed, rfl⟩
    exact lookup_of_isWellFormed controls wellFormed

end Resolution

/-- A child seeks no more than one parent. -/
lemma Seeks.unique {child : Json} {l l' : Lookup} (h : Seeks child l) (h' : Seeks child l') :
    l = l' := by
  rw [← Resolution.lookup_eq_some_iff] at h h'
  simpa using h.symm.trans h'

end Driftwatch.Parent
