/-
Printed JSON values.

* `Built`: the values that are built from null, truth values, integers, texts, lists and objects.
* `Printer.spellsText_flatMap_char`: how texts are printed is a way of spelling them.
* `Printer.numeral_toString`: the same of integers that are not too long.
* `isTextOf_compact`: the compact text of a value is a text of it.
-/
import Driftwatch.Json.Printer
import Driftwatch.Proofs.Json.Display
import Driftwatch.Proofs.Json.Encodings

namespace Driftwatch.Json

/-! ### Values without floating-point numbers -/

/-- The values that are built from null, truth values, integers that are admitted, texts, lists, and
objects whose fields have different names.  Lists and objects are not nested more deeply than there
is room for. -/
inductive Built (admits : Int → Prop) : (room : Nat) → Json → Prop
  | null {room : Nat} : Built admits room .null
  | bool {room : Nat} (b : Bool) : Built admits room (.bool b)
  | int {room : Nat} {n : Int} (admitted : admits n) : Built admits room (.int n)
  | text {room : Nat} (s : String) : Built admits room (.text s)
  | list {room : Nat} {items : List Json} (built : ∀ j ∈ items, Built admits room j) :
      Built admits (room + 1) (.list items)
  | object {room : Nat} {fields : List (String × Json)} (distinct : (fields.map Prod.fst).Nodup)
      (built : ∀ p ∈ fields, Built admits room p.2) : Built admits (room + 1) (.object fields)

namespace Printer

/-! ### Texts -/

/-- A code unit is spelled by its escape. -/
lemma quotes_unitEscape {n : Nat} {us : List Nat} {cs : List Char} (narrow : n < 0x10000)
    (rest : Quotes us cs) : Quotes (n :: us) (unitEscape n ++ cs) := by
  have digit (m : Nat) : IsHexDigit (m % 16) (Text.hexDigit .lower (m % 16)) :=
    ⟨by omega, .inl rfl⟩
  have value : (((n / 16 / 16 / 16 % 16) * 16 + n / 16 / 16 % 16) * 16 + n / 16 % 16) * 16 +
      n % 16 = n := by omega
  have spelled := Quotes.hex (digit (n / 16 / 16 / 16)) (digit (n / 16 / 16)) (digit (n / 16))
    (digit n) rest
  rwa [value] at spelled

/-- A character is spelled as it is printed. -/
lemma quotes_char {c : Char} {us : List Nat} {cs : List Char} (rest : Quotes us cs) :
    Quotes (Text.unitsOfChar c ++ us) (char c ++ cs) := by
  have short {e : Char} (escape : (e, c.toNat) ∈ shortEscapes) (narrow : c.toNat < 0x10000) :
      Quotes (Text.unitsOfChar c ++ us) ('\\' :: e :: cs) := by
    rw [Text.unitsOfChar, if_pos narrow]
    exact rest.short escape
  rw [char]
  split_ifs with quote backslash feed ret tab back form printed
  · subst quote
    exact short (by decide) (by decide)
  · subst backslash
    exact short (by decide) (by decide)
  · subst feed
    exact short (by decide) (by decide)
  · subst ret
    exact short (by decide) (by decide)
  · subst tab
    exact short (by decide) (by decide)
  · subst back
    exact short (by decide) (by decide)
  · subst form
    exact short (by decide) (by decide)
  · rw [Text.unitsOfChar, if_pos (by omega)]
    exact rest.plain printed.1 quote backslash
  · have below := Text.toNat_lt c
    rw [Text.unitsOfChar]
    split_ifs with narrow
    · rw [List.flatMap_singleton]
      exact quotes_unitEscape narrow rest
    · rw [List.flatMap_cons, List.flatMap_singleton, List.append_assoc]
      exact quotes_unitEscape (by omega) (quotes_unitEscape (by omega) rest)

/-- A text is spelled as it is printed. -/
lemma spellsText_flatMap_char (s : String) : SpellsText (s.toList.flatMap char) s := by
  refine ⟨s.toList.flatMap Text.unitsOfChar, ?_, Encoding.isUnits_flatMap_unitsOfChar s.toList⟩
  induction s.toList with
  | nil => exact .nil
  | cons c cs ih =>
      rw [List.flatMap_cons, List.flatMap_cons]
      exact quotes_char ih

/-- A text between double quotes. -/
lemma toList_string (s : String) :
    (string s).toList = '\x22' :: (s.toList.flatMap char ++ ['\x22']) := by
  rw [string, String.toList_ofList, List.cons_append]

/-! ### Integers -/

/-- The digits of a number but zero do not begin with a zero. -/
lemma isWhole_toDigits (n : Nat) : IsWhole (Nat.toDigits 10 n) := by
  have digits : ∀ c ∈ Nat.toDigits 10 n, c.isDigit = true := fun c mem =>
    Nat.isDigit_of_mem_toDigits (by decide) (by decide) mem
  refine ⟨⟨Nat.toDigits_ne_nil, digits⟩, fun zero => ?_⟩
  clear digits
  induction n using Nat.strong_induction_on with
  | _ n ih =>
      by_cases single : n < 10
      · rw [Nat.toDigits_of_lt_base single] at zero ⊢
        rw [Option.some.inj zero]
      · rw [Nat.toDigits_of_base_le (by decide) (by omega),
          List.head?_append_of_ne_nil _ Nat.toDigits_ne_nil] at zero
        have value := Nat.ofDigitChars_ten_toDigits (n := n / 10)
        rw [ih (n / 10) (by omega) zero] at value
        have none : 0 = n / 10 := value
        omega

/-- An integer that is not too long is spelled as it is printed. -/
lemma numeral_toString {n : Int} (short : IsShort n) : Numeral (toString n).toList (.int n) := by
  have written (negative : Bool) (m : Nat)
      (short : (Nat.toDigits 10 m).length ≤ Decimal.longestInteger) :
      Numeral (minusIf negative ++ Nat.toDigits 10 m) (.int (if negative then -m else m)) := by
    have numeral := Numeral.integer negative (isWhole_toDigits m) short
    rwa [Nat.ofDigitChars_ten_toDigits] at numeral
  rw [Int.toString_eq_repr]
  cases n with
  | ofNat m =>
      rw [Int.repr, Nat.toList_repr]
      exact written false m short
  | negSucc m =>
      rw [Int.repr, String.toList_append, Nat.toList_repr]
      exact written true (m + 1) short

/-! ### Values on one line -/

/-- Everything on one line, without blanks. -/
def oneLine : Layout :=
  { lineBreak := fun _ => "", colon := ":" }

lemma lineBreak_oneLine (depth : Nat) : oneLine.lineBreak depth = "" :=
  rfl

lemma toList_parts (depth : Nat) (inner : List String) :
    (parts oneLine depth inner).toList = Text.glue ',' (inner.map String.toList) := by
  fun_induction parts oneLine depth inner with
  | case1 => rfl
  | case2 s => simp [Text.glue, lineBreak_oneLine]
  | case3 s t rest ih => simp [Text.glue, lineBreak_oneLine, ih]

/-- Parts between brackets. -/
lemma toList_bracketed (depth : Nat) (opening closing : String) (inner : List String) :
    (bracketed oneLine depth opening closing inner).toList =
      opening.toList ++ (Text.glue ',' (inner.map String.toList) ++ closing.toList) := by
  rw [bracketed]
  split
  · rename_i empty
    rw [List.isEmpty_iff.mp empty]
    simp [Text.glue]
  · simp [lineBreak_oneLine, toList_parts]

lemma items_eq_map (depth : Nat) (xs : List Json) :
    items oneLine depth xs = xs.map (value oneLine depth) := by
  induction xs with
  | nil => rfl
  | cons x xs ih => rw [items, ih, List.map_cons]

lemma members_eq_map (depth : Nat) (fs : List (String × Json)) :
    members oneLine depth fs = fs.map fun p => string p.1 ++ ":" ++ value oneLine depth p.2 := by
  induction fs with
  | nil => rfl
  | cons p fs ih =>
      rw [members, ih, List.map_cons]
      rfl

end Printer

/-- A field of a new name goes to the end. -/
lemma setField_of_not_mem {name : String} {value : Json} {fields : List (String × Json)}
    (h : name ∉ fields.map Prod.fst) : setField name value fields = fields ++ [(name, value)] := by
  induction fields with
  | nil => rfl
  | cons p fields ih =>
      rw [List.map_cons, List.mem_cons, not_or] at h
      rw [setField, if_neg (Ne.symm h.1), ih h.2]
      rfl

/-- Fields with different names are what is written. -/
lemma writtenFields_of_nodup {fields : List (String × Json)}
    (distinct : (fields.map Prod.fst).Nodup) : writtenFields fields = fields := by
  have written (before after : List (String × Json))
      (distinct : ((before ++ after).map Prod.fst).Nodup) :
      after.foldl (fun written p => setField p.1 p.2 written) before = before ++ after := by
    induction after generalizing before with
    | nil => rw [List.foldl_nil, List.append_nil]
    | cons p after ih =>
        have new : p.1 ∉ before.map Prod.fst := by
          rw [List.map_append, List.map_cons, List.nodup_append] at distinct
          exact fun mem => distinct.2.2 p.1 mem p.1 (by simp) rfl
        rw [List.append_cons] at distinct ⊢
        rw [List.foldl_cons, setField_of_not_mem new, ih _ distinct]
  exact written [] fields distinct

/-- A value as it stands in a list, without white space. -/
def Part.bare (text : List Char) (j : Json) : Part :=
  ⟨[], text, [], j⟩

lemma Part.chars_bare (text : List Char) (j : Json) : (bare text j).chars = text :=
  List.append_nil text

lemma Part.isPadded_bare (text : List Char) (j : Json) : (bare text j).IsPadded := by
  simp [bare, IsPadded, IsSpaces]

/-- A field as it stands in an object, without white space. -/
def Member.bare (name : String) (text : List Char) (j : Json) : Member :=
  ⟨[], name.toList.flatMap Printer.char, name, [], .bare text j⟩

lemma Member.chars_bare (name : String) (text : List Char) (j : Json) :
    (bare name text j).chars = (Printer.string name).toList ++ (':' :: text) := by
  simp [Member.chars, bare, Part.chars_bare, Printer.toList_string]

lemma Member.isPadded_bare (name : String) (text : List Char) (j : Json) :
    (bare name text j).IsPadded :=
  { before := by simp [bare, IsSpaces]
    name := Printer.spellsText_flatMap_char name
    between := by simp [bare, IsSpaces]
    part := Part.isPadded_bare text j }

/-- A value is spelled as it is printed on one line. -/
lemma Printer.spells_value {room : Nat} {j : Json} (built : Built IsShort room j) (depth : Nat) :
    Spells room (value oneLine depth j).toList j := by
  induction built generalizing depth with
  | null => exact .null
  | bool b =>
      cases b with
      | true => exact .yes
      | false => exact .no
  | int short => exact .number (numeral_toString short)
  | text s =>
      rw [value, toList_string]
      exact .text (spellsText_flatMap_char s)
  | @list room xs built ih =>
      let text (x : Json) : List Char := (value oneLine (depth + 1) x).toList
      let parts : List Part := xs.map fun x => .bare (text x) x
      have chars : parts.map Part.chars =
          (xs.map (value oneLine (depth + 1))).map String.toList := by
        simp only [parts, List.map_map]
        exact List.map_congr_left fun x _ => Part.chars_bare (text x) x
      have values : parts.map Part.value = xs := by
        simp only [parts, List.map_map]
        exact List.map_id'' (fun x => rfl) xs
      rw [value, toList_bracketed, items_eq_map, ← chars]
      by_cases some : parts = []
      · obtain rfl : xs = [] := by simpa [parts] using some
        exact .emptyList (by simp [IsSpaces])
      · have spelled := Spells.list some
          (List.forall_mem_map.mpr fun x _ => Part.isPadded_bare (text x) x)
          (List.forall_mem_map.mpr fun x mem => ih x mem (depth + 1))
        rwa [values] at spelled
  | @object room fields distinct built ih =>
      let text (p : String × Json) : List Char := (value oneLine (depth + 1) p.2).toList
      let members : List Member := fields.map fun p => .bare p.1 (text p) p.2
      have chars : members.map Member.chars = (fields.map fun p =>
          string p.1 ++ ":" ++ value oneLine (depth + 1) p.2).map String.toList := by
        simp only [members, List.map_map]
        exact List.map_congr_left fun p _ => by simp [Member.chars_bare, text]
      have values : members.map (fun m => (m.name, m.part.value)) = fields := by
        simp only [members, List.map_map]
        exact List.map_id'' (fun p => rfl) fields
      rw [value, toList_bracketed, members_eq_map, ← chars]
      by_cases some : members = []
      · obtain rfl : fields = [] := by simpa [members] using some
        exact .emptyObject (by simp [IsSpaces])
      · have spelled := Spells.object some
          (List.forall_mem_map.mpr fun p _ => Member.isPadded_bare p.1 (text p) p.2)
          (List.forall_mem_map.mpr fun p mem => ih p mem (depth + 1))
        rwa [values, writtenFields_of_nodup distinct] at spelled

/-- **Printing JSON values.**  The compact text of a value is a text of it. -/
theorem isTextOf_compact {room : Nat} {j : Json} (built : Built IsShort room j) :
    IsTextOf room (compact j).toList j :=
  ⟨.bare (compact j).toList j, (Part.chars_bare _ _).symm, rfl, Part.isPadded_bare _ _,
    Printer.spells_value built 0⟩

end Driftwatch.Json
