/-
Which strategies the settings ask for.

* `Strategy.Spells`, `Strategy.IsForeign`: the pieces of a text that name a strategy, and those that
  do not.
* `Strategy.ofPieces_eq_error_iff`: the first piece that names none is reported.
* `Strategy.Writes`, `Strategy.ofPieces_eq_ok_iff`: pieces are read as the strategies that they
  write.
* `Settings.strategies_of_environment`: when the settings are refused on account of the strategies,
  and the strategies that they have otherwise.
-/
import Driftwatch.Proofs.Lifecycle
import Driftwatch.Proofs.Roster
import Driftwatch.Settings

namespace Driftwatch

/-! ### Pieces -/

namespace Strategy

/-- The piece is the name of the strategy, with white space around it. -/
def Spells (piece : String) (strategy : Strategy) : Prop :=
  ∃ front back, Text.isBlankText front = true ∧ Text.isBlankText back = true ∧
    piece = front ++ strategy.name ++ back

/-- The piece is not blank, and no strategy has its name without the white space at its ends. -/
def IsForeign (piece : String) : Prop :=
  ¬ Text.isBlankText piece = true ∧ Text.trim piece ∉ all.map name

instance : DecidablePred IsForeign := fun piece =>
  inferInstanceAs (Decidable (¬ Text.isBlankText piece = true ∧ Text.trim piece ∉ all.map name))

lemma mem_all (strategy : Strategy) : strategy ∈ all := by
  cases strategy <;> decide

/-- A name can stand in a list of names. -/
lemma isClean_name (strategy : Strategy) : Roster.IsClean strategy.name := by
  cases strategy <;> decide

variable {piece : String} {pieces : List String} {strategy : Strategy}
  {strategies : List Strategy}

lemma spells_iff : Spells piece strategy ↔ Text.trim piece = strategy.name :=
  (Text.trim_eq_iff (isClean_name strategy).trimmed).symm

/-- A piece that spells a strategy is not blank. -/
lemma Spells.not_blank (h : Spells piece strategy) : ¬ Text.isBlankText piece = true := by
  rw [Text.isBlankText_iff_trim_eq, spells_iff.mp h]
  exact (isClean_name strategy).ne_empty

/-- A piece is blank, or spells a strategy, or is foreign. -/
lemma piece_cases (piece : String) :
    Text.isBlankText piece = true ∨ (∃ strategy, Spells piece strategy) ∨ IsForeign piece := by
  by_cases blank : Text.isBlankText piece = true
  · exact .inl blank
  · by_cases named : Text.trim piece ∈ all.map name
    · obtain ⟨strategy, -, same⟩ := List.mem_map.mp named
      exact .inr (.inl ⟨strategy, spells_iff.mpr same.symm⟩)
    · exact .inr (.inr ⟨blank, named⟩)

lemma Spells.not_isForeign (h : Spells piece strategy) : ¬ IsForeign piece := fun foreign =>
  foreign.2 (List.mem_map.mpr ⟨strategy, mem_all strategy, (spells_iff.mp h).symm⟩)

/-- What spells a strategy is read as it. -/
lemma Spells.parse_eq (h : Spells piece strategy) : parse piece = .ok strategy := by
  rw [parse, spells_iff.mp h]
  cases strategy <;> rfl

/-- What is foreign cannot be read. -/
lemma IsForeign.parse_eq (h : IsForeign piece) : parse piece = .error (.unknownStrategy piece) := by
  have unnamed : all.find? (fun p => p.name == Text.trim piece) = none := by
    rw [List.find?_eq_none]
    intro strategy known same
    exact h.2 (List.mem_map.mpr ⟨strategy, known, eq_of_beq same⟩)
  rw [parse, unnamed]

/-! ### Lists of pieces -/

/-- What is read from pieces; blank ones count for nothing. -/
def ofPieces (pieces : List String) : Except Failure (List Strategy) :=
  (pieces.filter fun piece => !Text.isBlankText piece).mapM parse

lemma ofPieces_blank (h : Text.isBlankText piece = true) :
    ofPieces (piece :: pieces) = ofPieces pieces := by
  rw [ofPieces, List.filter_cons_of_neg (by simp [h]), ← ofPieces]

lemma ofPieces_spelled (h : Spells piece strategy) :
    ofPieces (piece :: pieces) = (ofPieces pieces).map (strategy :: ·) := by
  rw [ofPieces, List.filter_cons_of_pos (by simp [h.not_blank]), List.mapM_cons, h.parse_eq,
    ← ofPieces]
  cases ofPieces pieces <;> rfl

lemma ofPieces_foreign (h : IsForeign piece) :
    ofPieces (piece :: pieces) = .error (.unknownStrategy piece) := by
  rw [ofPieces, List.filter_cons_of_pos (by simp [h.1]), List.mapM_cons, h.parse_eq]
  rfl

/-- Blank pieces are read as no strategies. -/
lemma ofPieces_of_blank (blank : ∀ p ∈ pieces, Text.isBlankText p = true) :
    ofPieces pieces = .ok [] := by
  have none : pieces.filter (fun piece => !Text.isBlankText piece) = [] := by
    simpa using blank
  rw [ofPieces, none]
  rfl

/-- Pieces cannot be read if one of them is foreign, and the first such one is reported. -/
lemma ofPieces_eq_error_iff {e : Failure} : ofPieces pieces = .error e ↔
    ∃ piece, pieces.find? (fun p => decide (IsForeign p)) = some piece ∧
      e = .unknownStrategy piece := by
  induction pieces with
  | nil => exact iff_of_false nofun nofun
  | cons piece pieces ih =>
      rcases piece_cases piece with blank | ⟨strategy, spelled⟩ | foreign
      · rw [ofPieces_blank blank, ih, List.find?_cons_of_neg (by simp [IsForeign, blank])]
      · rw [ofPieces_spelled spelled, List.find?_cons_of_neg (by simp [spelled.not_isForeign]),
          ← ih]
        cases ofPieces pieces <;> simp [Except.map]
      · rw [ofPieces_foreign foreign, List.find?_cons_of_pos (by simp [foreign])]
        simp [eq_comm]

/-- The pieces write the strategies: each of them is blank, or spells the next strategy. -/
inductive Writes : List String → List Strategy → Prop
  | nil : Writes [] []
  | blank {piece : String} {pieces : List String} {strategies : List Strategy}
      (empty : Text.isBlankText piece = true) (h : Writes pieces strategies) :
      Writes (piece :: pieces) strategies
  | spelled {piece : String} {pieces : List String} {strategy : Strategy}
      {strategies : List Strategy} (spells : Spells piece strategy)
      (h : Writes pieces strategies) : Writes (piece :: pieces) (strategy :: strategies)

/-- Pieces are read as the strategies that they write. -/
lemma ofPieces_eq_ok_iff : ofPieces pieces = .ok strategies ↔ Writes pieces strategies := by
  constructor
  · intro read
    induction pieces generalizing strategies with
    | nil =>
        obtain rfl : [] = strategies := Except.ok.inj read
        exact .nil
    | cons piece pieces ih =>
        rcases piece_cases piece with blank | ⟨strategy, spelled⟩ | foreign
        · rw [ofPieces_blank blank] at read
          exact .blank blank (ih read)
        · rw [ofPieces_spelled spelled] at read
          cases rest : ofPieces pieces with
          | error e => simp [rest, Except.map] at read
          | ok found =>
              rw [rest] at read
              obtain rfl : strategy :: found = strategies := Except.ok.inj read
              exact .spelled spelled (ih rest)
        · simp [ofPieces_foreign foreign] at read
  · intro h
    induction h with
    | nil => rfl
    | blank empty _ ih => rw [ofPieces_blank empty, ih]
    | spelled spells _ ih =>
        rw [ofPieces_spelled spells, ih]
        rfl

namespace Writes

/-- The strategies have the names that the pieces have without white space, in their order. -/
lemma names_eq (h : Writes pieces strategies) : strategies.map name =
    (pieces.filter fun piece => !Text.isBlankText piece).map Text.trim := by
  induction h with
  | nil => rfl
  | blank empty _ ih => rw [ih, List.filter_cons_of_neg (by simp [empty])]
  | spelled spells _ ih =>
      rw [List.filter_cons_of_pos (by simp [spells.not_blank]), List.map_cons, List.map_cons, ih,
        spells_iff.mp spells]

/-- There is no comma in the pieces. -/
lemma no_comma (h : Writes pieces strategies) {p : String} (hp : p ∈ pieces) :
    ',' ∉ p.toList := by
  have plain {s : String} (blank : Text.isBlankText s = true) : ',' ∉ s.toList := fun comma =>
    absurd (Text.isBlankText_iff.mp blank ',' comma) (by decide)
  induction h with
  | nil => cases hp
  | blank empty _ ih =>
      rcases List.mem_cons.mp hp with rfl | hp
      · exact plain empty
      · exact ih hp
  | spelled spells _ ih =>
      rcases List.mem_cons.mp hp with rfl | hp
      · obtain ⟨front, back, hf, hb, rfl⟩ := spells
        simp [plain hf, plain hb, (isClean_name _).no_comma]
      · exact ih hp

end Writes

end Strategy

/-! ### Settings -/

namespace Settings

/-- The text for the strategies. -/
def strategiesText (env : Environment) : String :=
  env.value "KAUSALITY_DETECTION_ORDER"

/-- The numbers of the settings are not set, or have values that are right. -/
structure NumbersValid (env : Environment) : Prop where
  delay : ∃ delay, delayOf (env.value "KAUSALITY_ASYNC_UPDATE_DELAY") = .ok delay
  timeout : ∃ timeout, numberOf 10.0 (env.value "KAUSALITY_REQUEST_TIMEOUT") = .ok timeout

/-- If the numbers are right, the settings are those of the strategies. -/
lemma ofEnvironment_of_numbersValid {env : Environment} (h : NumbersValid env) :
    ∃ settings : Settings, ofEnvironment env =
      (strategiesOf (strategiesText env)).map fun strategies => { settings with strategies } := by
  obtain ⟨delay, accepted⟩ := h.delay
  obtain ⟨requestTimeout, read⟩ := h.timeout
  let context := env.value "KAUSALITY_KUBE_CONTEXT"
  refine ⟨{ delay, requestTimeout, context := if context = "" then none else some context }, ?_⟩
  rw [ofEnvironment, accepted, read, strategiesText]
  cases strategiesOf (env.value "KAUSALITY_DETECTION_ORDER") <;> rfl

/-- The pieces of a text of commas and white space are blank. -/
lemma isBlankText_of_mem_split {text piece : String}
    (empty : ∀ c ∈ text.toList, c = ',' ∨ Text.isBlank c = true)
    (h : piece ∈ Text.split ',' text) : Text.isBlankText piece = true := by
  obtain ⟨p, hp, rfl⟩ := List.mem_map.mp h
  rw [Text.isBlankText_iff, String.toList_ofList]
  intro c hc
  refine (empty c (Text.mem_of_mem_pieces hp hc)).resolve_left ?_
  rintro rfl
  exact Text.not_mem_of_mem_pieces hp hc

/-- A text that is not blank asks for the strategies that its pieces write. -/
lemma strategiesOf_of_not_blank {text : String} (some : ¬ Text.isBlankText text = true) :
    strategiesOf text = Strategy.ofPieces (Text.split ',' text) := by
  rw [strategiesOf, if_neg some, parseStrategies, Strategy.ofPieces]

lemma strategiesOf_eq_error_iff {text : String} {e : Failure} : strategiesOf text = .error e ↔
    ∃ piece, (Text.split ',' text).find? (fun p => decide (Strategy.IsForeign p)) = some piece ∧
      e = .unknownStrategy piece := by
  by_cases blank : Text.isBlankText text = true
  · have unforeign : ∀ piece ∈ Text.split ',' text, ¬ Strategy.IsForeign piece := by
      intro piece hp foreign
      exact foreign.1 (isBlankText_of_mem_split
        (fun c hc => .inr (Text.isBlankText_iff.mp blank c hc)) hp)
    have none : (Text.split ',' text).find? (fun p => decide (Strategy.IsForeign p)) = none := by
      simpa using unforeign
    rw [strategiesOf, if_pos blank, none]
    exact iff_of_false nofun nofun
  · rw [strategiesOf_of_not_blank blank, Strategy.ofPieces_eq_error_iff]

/-- A text asks for no strategies if one of its pieces is foreign. -/
lemma exists_strategiesOf_eq_error_iff {text : String} :
    (∃ e, strategiesOf text = .error e) ↔
      ∃ p ∈ Text.split ',' text, Strategy.IsForeign p := by
  have reported : (∃ e, strategiesOf text = .error e) ↔
      ((Text.split ',' text).find? fun p => decide (Strategy.IsForeign p)).isSome = true := by
    simp only [strategiesOf_eq_error_iff, Option.isSome_iff_exists]
    exact ⟨fun ⟨_, p, first, _⟩ => ⟨p, first⟩, fun ⟨p, first⟩ => ⟨_, p, first, rfl⟩⟩
  rw [reported, List.find?_isSome]
  simp

/-- A text made of pieces that write strategies asks for these. -/
lemma strategiesOf_join {pieces : List String} {strategies : List Strategy}
    (some : strategies ≠ []) (h : Strategy.Writes pieces strategies) :
    strategiesOf (Text.join ',' pieces) = .ok strategies := by
  have read : Strategy.ofPieces pieces = .ok strategies := Strategy.ofPieces_eq_ok_iff.mpr h
  have nonempty : pieces ≠ [] := by
    rintro rfl
    exact some (Except.ok.inj read).symm
  have split : Text.split ',' (Text.join ',' pieces) = pieces :=
    Text.split_join nonempty fun p hp => h.no_comma hp
  rw [strategiesOf_of_not_blank, split, read]
  intro blank
  refine some (Except.ok.inj (read.symm.trans (Strategy.ofPieces_of_blank fun p hp => ?_)))
  rw [← split] at hp
  exact isBlankText_of_mem_split (fun c hc => .inr (Text.isBlankText_iff.mp blank c hc)) hp

/-- A text of commas and white space asks for the default strategies, or for none. -/
lemma strategiesOf_empty {text : String}
    (empty : ∀ c ∈ text.toList, c = ',' ∨ Text.isBlank c = true) :
    strategiesOf text = .ok Strategy.all ∨ strategiesOf text = .ok [] := by
  by_cases blank : Text.isBlankText text = true
  · rw [strategiesOf, if_pos blank]
    exact .inl rfl
  · rw [strategiesOf_of_not_blank blank]
    exact .inr (Strategy.ofPieces_of_blank fun p hp => isBlankText_of_mem_split empty hp)

/-- **The strategies of a text.**  With all else right, the settings are refused exactly if a piece
between the commas of the text for the strategies is not blank and has no strategy's name without
the white space at its ends; the first such piece is reported, with its white space.  Otherwise a
blank text gives the default strategies, and any other the ones that the pieces name that are not
blank, in order and with repetitions.  So any list of strategies, written with white space around
the names and with blank pieces among them, is read as it is; and under a text of commas and white
space the phase of a parent is the one under the default strategies. -/
theorem strategies_of_environment {env : Environment} {text : String} (valid : NumbersValid env)
    (asked : strategiesText env = text) :
    (Text.join ',' (Text.split ',' text) = text ∧ ∀ p ∈ Text.split ',' text, ',' ∉ p.toList) ∧
    ((∃ e, ofEnvironment env = .error e) ↔ ∃ p ∈ Text.split ',' text, Strategy.IsForeign p) ∧
    (∀ e, ofEnvironment env = .error e → ∃ p,
      (Text.split ',' text).find? (fun p => decide (Strategy.IsForeign p)) = some p ∧
        e = .unknownStrategy p ∧
        e.message = "unknown initialization strategy " ++ Text.quote p) ∧
    (∀ settings, ofEnvironment env = .ok settings →
      (Text.isBlankText text = true → settings.strategies = Strategy.all) ∧
      (¬ Text.isBlankText text = true → settings.strategies.map Strategy.name =
        ((Text.split ',' text).filter fun p => !Text.isBlankText p).map Text.trim)) ∧
    (∀ strategies pieces, strategies ≠ [] → Strategy.Writes pieces strategies →
      text = Text.join ',' pieces →
        ∃ settings, ofEnvironment env = .ok settings ∧ settings.strategies = strategies) ∧
    ((∀ c ∈ text.toList, c = ',' ∨ Text.isBlank c = true) →
      ∃ settings, ofEnvironment env = .ok settings ∧ ∀ state,
        Lifecycle.phaseOf? settings.strategies state =
          Lifecycle.phaseOf? Strategy.all state) := by
  obtain ⟨settings, built⟩ := ofEnvironment_of_numbersValid valid
  rw [asked] at built
  have refused {e : Failure} : ofEnvironment env = .error e ↔ strategiesOf text = .error e := by
    rw [built]
    cases strategiesOf text <;> simp [Except.map]
  have accepted {strategies : List Strategy} (found : strategiesOf text = .ok strategies) :
      ofEnvironment env = .ok { settings with strategies } := by
    rw [built, found]
    rfl
  refine ⟨⟨Text.join_split ',' text, fun p => Text.not_mem_of_mem_split⟩, ?_, ?_, ?_, ?_, ?_⟩
  · simp only [refused]
    exact exists_strategiesOf_eq_error_iff
  · intro e failed
    obtain ⟨p, first, rfl⟩ := strategiesOf_eq_error_iff.mp (refused.mp failed)
    exact ⟨p, first, rfl, rfl⟩
  · intro settings' done
    cases found : strategiesOf text with
    | error e => simp [refused.mpr found] at done
    | ok strategies =>
        obtain rfl := Except.ok.inj ((accepted found).symm.trans done)
        constructor
        · intro blank
          rw [strategiesOf, if_pos blank] at found
          exact (Except.ok.inj found).symm
        · intro some
          rw [strategiesOf_of_not_blank some] at found
          exact (Strategy.ofPieces_eq_ok_iff.mp found).names_eq
  · rintro strategies pieces some written rfl
    exact ⟨_, accepted (strategiesOf_join some written), rfl⟩
  · intro empty
    rcases strategiesOf_empty empty with default | none
    · exact ⟨_, accepted default, fun state => rfl⟩
    · exact ⟨_, accepted none, fun state => by cases state <;> rfl⟩

/-- The environment with a text for the strategies, and a delay. -/
def askingFor (text : String) : Environment :=
  [("KAUSALITY_DETECTION_ORDER", text), ("KAUSALITY_ASYNC_UPDATE_DELAY", "2.5")]

lemma numbersValid_askingFor (text : String) : NumbersValid (askingFor text) where
  delay := by
    change ∃ delay, delayOf "2.5" = .ok delay
    have accepted : (delayOf "2.5").toBool = true := by decide +kernel
    cases read : delayOf "2.5" with
    | ok delay => exact ⟨delay, rfl⟩
    | error e => simp [read, Except.toBool] at accepted
  timeout := ⟨_, rfl⟩

lemma strategiesText_askingFor (text : String) : strategiesText (askingFor text) = text :=
  rfl

/-- Names between blank pieces, one of them twice; a misspelled name behind a right one and before
another wrong one; commas and white space; and white space only. -/
theorem strategies_of_environment_scattered :
    (∃ settings, ofEnvironment
        (askingFor " ,ready-condition,observed-generation\u3000,\tready-condition") = .ok settings ∧
      settings.strategies = [.readyCondition, .observedGeneration, .readyCondition] ∧
      settings.strategies.map Strategy.name =
        ["ready-condition", "observed-generation", "ready-condition"]) ∧
    (',' ∉ " ready".toList ∧
      ∃ e, ofEnvironment (askingFor "ready-condition, ready,never") = .error e ∧
        e.message = "unknown initialization strategy ' ready'") ∧
    (∃ settings, ofEnvironment (askingFor ",\u2003,") = .ok settings ∧ ∀ state,
      Lifecycle.phaseOf? settings.strategies state = Lifecycle.phaseOf? Strategy.all state) ∧
    ∃ settings, ofEnvironment (askingFor "\u2003") = .ok settings ∧
      settings.strategies = Strategy.all := by
  have laws (text : String) :=
    strategies_of_environment (numbersValid_askingFor text) (strategiesText_askingFor text)
  have spelled {s : String} {strategy : Strategy} (h : Text.trim s = strategy.name) :
      Strategy.Spells s strategy := Strategy.spells_iff.mpr h
  have bare {text : String} (h : text.toList.all fun c => c == ',' || Text.isBlank c) :
      ∀ c ∈ text.toList, c = ',' ∨ Text.isBlank c = true := by
    simpa using h
  refine ⟨?_, ?_, ?_, ?_⟩
  · obtain ⟨-, -, -, named, listed, -⟩ :=
      laws " ,ready-condition,observed-generation\u3000,\tready-condition"
    have written : Strategy.Writes
        [" ", "ready-condition", "observed-generation\u3000", "\tready-condition"]
        [.readyCondition, .observedGeneration, .readyCondition] :=
      .blank (by decide) (.spelled (spelled (by decide +kernel))
        (.spelled (spelled (by decide +kernel)) (.spelled (spelled (by decide +kernel)) .nil)))
    obtain ⟨settings, done, same⟩ := listed _ _ (by decide) written (by decide +kernel)
    exact ⟨settings, done, same, ((named settings done).2 (by decide)).trans (by decide +kernel)⟩
  · obtain ⟨⟨-, plain⟩, refused, first, -⟩ := laws "ready-condition, ready,never"
    have piece : " ready" ∈ Text.split ',' "ready-condition, ready,never" := by decide +kernel
    obtain ⟨e, failed⟩ := refused.mpr ⟨" ready", piece, by decide +kernel⟩
    obtain ⟨p, found, -, message⟩ := first e failed
    have misspelled : (Text.split ',' "ready-condition, ready,never").find?
        (fun p => decide (Strategy.IsForeign p)) = some " ready" := by decide +kernel
    obtain rfl := Option.some.inj (misspelled.symm.trans found)
    exact ⟨plain " ready" piece, e, failed, message.trans (by decide +kernel)⟩
  · obtain ⟨-, -, -, -, -, empty⟩ := laws ",\u2003,"
    exact empty (bare (by decide))
  · obtain ⟨-, -, -, read, -, empty⟩ := laws "\u2003"
    obtain ⟨settings, done, -⟩ := empty (bare (by decide))
    exact ⟨settings, done, (read settings done).1 (by decide)⟩

end Settings

end Driftwatch
