/-
Which references a text stands for.

* `Parent.Ref.IsPlain`: the separators stand where they separate the parts of a reference.
* `Parent.Ref.text_inj`: such references are told apart by their texts.
* `Parent.Ref.mem_scope_iff`: the text tells whether there is a namespace.
* `Parent.Ref.text_tells_ref`: the same for the documents that the texts stand in.
-/
import Driftwatch.Proofs.Text.Pieces
import Driftwatch.Report.Document

namespace Driftwatch.Parent.Ref

/-! ### References -/

/-- The separators stand where they separate: there is no colon before the one behind the kind, no
slash in the kind, and none in the name.  The API version may have slashes, the name may have
colons, and the namespace may be any text. -/
structure IsPlain (r : Ref) : Prop where
  apiVersion_no_colon : ':' ∉ r.apiVersion.toList
  kind_no_colon : ':' ∉ r.kind.toList
  kind_no_slash : '/' ∉ r.kind.toList
  name_no_slash : '/' ∉ r.name.toList

variable {r r' : Ref}

/-- What stands behind the kind: the name, with the namespace before it if there is one. -/
def scope (r : Ref) : List Char :=
  if r.namespaceName = "" then r.name.toList
  else r.namespaceName.toList ++ '/' :: r.name.toList

lemma toList_text (r : Ref) :
    r.text.toList = (r.apiVersion.toList ++ '/' :: r.kind.toList) ++ ':' :: r.scope := by
  rw [text, scope]
  split <;> simp

/-- There is a slash behind the kind exactly if there is a namespace. -/
lemma mem_scope_iff (plain : r.IsPlain) : '/' ∈ r.scope ↔ r.namespaceName ≠ "" := by
  rw [scope]
  split
  · rename_i none
    simp [none, plain.name_no_slash]
  · rename_i some
    simp [some]

/-- The namespace and the name can be read off what stands behind the kind. -/
lemma scope_inj (plain : r.IsPlain) (plain' : r'.IsPlain) (same : r.scope = r'.scope) :
    r.namespaceName = r'.namespaceName ∧ r.name = r'.name := by
  have alike : r.namespaceName = "" ↔ r'.namespaceName = "" := by
    rw [← not_iff_not, ← ne_eq, ← ne_eq, ← mem_scope_iff plain, ← mem_scope_iff plain', same]
  rw [scope, scope] at same
  by_cases none : r.namespaceName = ""
  · rw [if_pos none, if_pos (alike.mp none)] at same
    exact ⟨none.trans (alike.mp none).symm, String.toList_inj.mp same⟩
  · rw [if_neg none, if_neg (alike.not.mp none)] at same
    obtain ⟨namespaces, names⟩ :=
      Text.append_cons_inj_right plain.name_no_slash plain'.name_no_slash same
    exact ⟨String.toList_inj.mp namespaces, String.toList_inj.mp names⟩

/-- There is no colon before what stands behind the kind. -/
lemma IsPlain.no_colon (plain : r.IsPlain) :
    ':' ∉ r.apiVersion.toList ++ '/' :: r.kind.toList := by
  simp [plain.apiVersion_no_colon, plain.kind_no_colon]

/-- All parts of a reference can be read off its text. -/
lemma text_inj (plain : r.IsPlain) (plain' : r'.IsPlain) : r.text = r'.text ↔ r = r' := by
  constructor
  · intro same
    have characters := congrArg String.toList same
    rw [toList_text, toList_text] at characters
    obtain ⟨fronts, scopes⟩ :=
      Text.append_cons_inj_left plain.no_colon plain'.no_colon characters
    obtain ⟨versions, kinds⟩ :=
      Text.append_cons_inj_right plain.kind_no_slash plain'.kind_no_slash fronts
    obtain ⟨namespaces, names⟩ := scope_inj plain plain' scopes
    rw [String.toList_inj] at versions kinds
    cases r
    cases r'
    simp only [mk.injEq]
    exact ⟨versions, kinds, namespaces, names⟩
  · exact congrArg text

/-- Behind its first colon a text holds what stands behind the kind. -/
lemma dropWhile_text (plain : r.IsPlain) :
    r.text.toList.dropWhile (· ≠ ':') = ':' :: r.scope := by
  have passed : ∀ c ∈ r.apiVersion.toList ++ '/' :: r.kind.toList, decide (c ≠ ':') = true :=
    fun c hc => decide_eq_true (ne_of_mem_of_not_mem hc plain.no_colon)
  rw [toList_text, List.dropWhile_append_of_pos passed]
  rfl

/-- **References are told apart by their texts.**  Two references with the same text are the same,
if neither API version nor kind has a colon and neither kind nor name has a slash.  The text tells
whether there is a namespace by a slash behind its first colon.  So the documents about parents, and
those about decisions, show one text only for one reference. -/
theorem text_tells_ref (plain : r.IsPlain) (plain' : r'.IsPlain) :
    (r.text = r'.text ↔ r = r') ∧
    ('/' ∈ r.text.toList.dropWhile (· ≠ ':') ↔ r.namespaceName ≠ "") ∧
    (∀ s s' : State, { s with ref := r }.document.get? "ref" =
      { s' with ref := r' }.document.get? "ref" ↔ r = r') ∧
    ∀ d d' : Decision, { d with parentRef := some r }.document.get? "parentRef" =
      { d' with parentRef := some r' }.document.get? "parentRef" ↔ r = r' := by
  refine ⟨text_inj plain plain', ?_, fun s s' => ?_, fun d d' => ?_⟩
  · rw [dropWhile_text plain, List.mem_cons, or_iff_right (by decide), mem_scope_iff plain]
  · have shown (s : State) : s.document.get? "ref" = some (.text s.ref.text) := rfl
    rw [shown, shown, Option.some_inj, Json.text.injEq, text_inj plain plain']
  · have shown (d : Decision) : d.document.get? "parentRef" =
        some (.ofText? (d.parentRef.map text)) := rfl
    rw [shown, shown, Option.some_inj, Option.map_some, Option.map_some, Json.ofText?,
      Json.ofText?, Json.text.injEq, text_inj plain plain']

/-- Without a namespace, but with a name that could be taken for a namespace and a name. -/
def colonNamed : Ref where
  apiVersion := "example.io/v1"
  kind := "Cluster"
  namespaceName := ""
  name := "default:web"

/-- The namespace and the name that it could be taken for. -/
def inDefault : Ref where
  apiVersion := "example.io/v1"
  kind := "Cluster"
  namespaceName := "default"
  name := "web"

/-- A colon in the name is not taken for the end of a namespace. -/
theorem text_tells_ref_colonNamed :
    colonNamed.IsPlain ∧ inDefault.IsPlain ∧ colonNamed.text = "example.io/v1/Cluster:default:web" ∧
      inDefault.text = "example.io/v1/Cluster:default/web" ∧ colonNamed.text ≠ inDefault.text ∧
      '/' ∉ colonNamed.text.toList.dropWhile (· ≠ ':') := by
  have plain : colonNamed.IsPlain := ⟨by decide, by decide, by decide, by decide⟩
  have plain' : inDefault.IsPlain := ⟨by decide, by decide, by decide, by decide⟩
  obtain ⟨same, namespaced, -, -⟩ := text_tells_ref plain plain'
  exact ⟨plain, plain', by decide +kernel, by decide +kernel, same.not.mpr (by decide),
    namespaced.not.mpr (by decide)⟩

end Driftwatch.Parent.Ref
