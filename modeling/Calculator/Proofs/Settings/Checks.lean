import Calculator.Proofs.Results
import Calculator.Settings

/-!
# What keeps settings from being read

A configuration is checked part by part, and the first part that is no good decides what is said
about it (`Blocks`, `ofEntries_eq_error_iff`).  Most of what can be wrong is an error that the user
is told about.  The exceptions are the faults of `Spoils`: bytes that are no text, whole numbers
with too many digits, values nested too deeply, and whole numbers that are too large for a float
(`ofBytes_eq_fault_iff`).
-/

namespace Calculator

namespace Settings

/-! ### The parts of a configuration -/

/-- What is in the way of settings: an issue, or a whole number that is too large for a float. -/
inductive Obstacle where
  | issue (i : Issue)
  | tooLarge

/-- The failure of reading the settings at a path. -/
def Obstacle.failure (limits : Limits) (path : String) : Obstacle → Failure
  | issue i => i.failure limits path
  | tooLarge => .fault .tooLarge

/-- Whether a table, which may be left out, has the given entries. -/
inductive IsSection (entries : List (String × Value)) (name : String) :
    List (String × Value) → Prop
  | absent (h : entries.lookup name = none) : IsSection entries name []
  | table {inner : List (String × Value)} (h : entries.lookup name = some (.table inner)) :
      IsSection entries name inner

/-- Whether something stands in place of a table that is none. -/
structure IsNoSection (entries : List (String × Value)) (name : String) (value : Value) : Prop where
  found : entries.lookup name = some value
  no_table : ∀ inner, value ≠ .table inner

variable {limits : Limits} {entries logging prompt definitions : List (String × Value)}
  {path name : String} {value : Value}

theorem section?_eq_ok_iff {inner : List (String × Value)} : section? entries name = .ok inner ↔
    IsSection entries name inner := by
  constructor
  · intro h
    unfold section? at h
    split at h
    · next hnone =>
      cases h
      exact .absent hnone
    · next hsome =>
      cases h
      exact .table hsome
    · cases h
  · intro h
    unfold section?
    cases h with
    | absent h => rw [h]
    | table h => rw [h]

theorem section?_eq_error_iff {issue : Issue} : section? entries name = .error issue ↔
      ∃ value, IsNoSection entries name value ∧ issue = .notTable name value := by
  constructor
  · intro h
    unfold section? at h
    split at h
    · cases h
    · cases h
    · next value hno hsome =>
      cases h
      exact ⟨value, ⟨hsome, hno⟩, rfl⟩
  · rintro ⟨value, ⟨hsome, hno⟩, rfl⟩
    unfold section?
    rw [hsome]
    cases value with
    | table inner => exact absurd rfl (hno inner)
    | _ => rfl

/-- Whether the table of levels holds no level, or one that is a text. -/
def HasLevel (logging : List (String × Value)) : Prop :=
  ∀ value, logging.lookup "level" = some value → ∃ level, value = .text level

theorem exists_levelOf_iff : (∃ level, levelOf logging = .ok level) ↔ HasLevel logging := by
  unfold levelOf HasLevel
  cases logging.lookup "level" with
  | none => simp
  | some value => cases value <;> simp

theorem levelOf_eq_error_iff {issue : Issue} :
    levelOf logging = .error issue ↔
      ∃ value, logging.lookup "level" = some value ∧ (∀ level, value ≠ .text level) ∧
        issue = .badLevel value := by
  unfold levelOf
  cases logging.lookup "level" with
  | none => simp
  | some value => cases value <;> simp [eq_comm]

/-! ### Variables -/

/-- Whether a value can be that of a variable with the given name. -/
structure IsVariable (name : String) (value : Value) : Prop where
  number : isNumber value = true
  word : Text.isWord name = true
  float : ∃ x, value.toFloat = .ok x

/-- What is in the way of a variable: first that its value is no number, then its name, and then
that the number is too large. -/
inductive BlocksVariable (name : String) : Value → Obstacle → Prop
  | notNumber {value : Value} (h : isNumber value = false) :
      BlocksVariable name value (.issue (.notNumber name value))
  | badName {value : Value} (h : isNumber value = true) (hname : Text.isWord name = false) :
      BlocksVariable name value (.issue (.badName name))
  | tooLarge {n : Int} (hname : Text.isWord name = true) (h : intToFloat n = .error .tooLarge) :
      BlocksVariable name (.int n) .tooLarge

theorem exists_numberOf_iff :
    (∃ x, numberOf limits path name value = .ok x) ↔ IsVariable name value := by
  unfold numberOf
  constructor
  · rintro ⟨x, h⟩
    split at h
    · cases h
    · next hnumber =>
      split at h
      · cases h
      · next hword =>
        exact ⟨by simpa using hnumber, by simpa using hword, x, mapError_eq_ok.mp h⟩
  · rintro ⟨hnumber, hword, x, hx⟩
    exact ⟨x, by simp [hnumber, hword, hx, mapError_eq_ok]⟩

theorem exists_map_numberOf_iff {entry : String × Value} :
    (∃ binding, (numberOf limits path entry.1 entry.2).map (entry.1, ·) = .ok binding) ↔
      IsVariable entry.1 entry.2 := by
  rw [← @exists_numberOf_iff limits path]
  cases numberOf limits path entry.1 entry.2 <;> simp [Except.map]

/-- Of the numbers only a whole number can be too large for a float. -/
theorem toFloat_eq_error {fault : Fault} (hnumber : isNumber value = true)
    (h : value.toFloat = .error fault) :
    ∃ n, value = .int n ∧ intToFloat n = .error .tooLarge ∧ fault = .tooLarge := by
  cases value with
  | int n =>
    have hn : intToFloat n = .error fault := h
    have hfault : fault = .tooLarge := by
      unfold intToFloat at hn
      split at hn
      · cases hn
        rfl
      · cases hn
    exact ⟨n, rfl, hfault ▸ hn, hfault⟩
  | float x => cases h
  | _ => cases hnumber

theorem numberOf_eq_error_iff {f : Failure} :
    numberOf limits path name value = .error f ↔
      ∃ o, BlocksVariable name value o ∧ f = o.failure limits path := by
  constructor
  · intro h
    unfold numberOf at h
    split at h
    · next hnumber =>
      cases h
      exact ⟨_, .notNumber (by simpa using hnumber), rfl⟩
    · next hnumber =>
      rw [Bool.not_eq_true', Bool.not_eq_false] at hnumber
      split at h
      · next hword =>
        cases h
        exact ⟨_, .badName hnumber (by simpa using hword), rfl⟩
      · next hword =>
        rw [Bool.not_eq_true', Bool.not_eq_false] at hword
        obtain ⟨fault, hfault, rfl⟩ := mapError_eq_error.mp h
        obtain ⟨n, rfl, hn, rfl⟩ := toFloat_eq_error hnumber hfault
        exact ⟨_, .tooLarge hword hn, rfl⟩
  · rintro ⟨o, ho, rfl⟩
    unfold numberOf
    cases ho with
    | notNumber h => simp [h, Obstacle.failure]
    | badName h hname => simp [h, hname, Obstacle.failure]
    | @tooLarge n hname h =>
      have hnumber : isNumber (.int n) = true := rfl
      simp only [hnumber, hname, Bool.not_true, Bool.false_eq_true, ↓reduceIte]
      exact mapError_eq_error.mpr ⟨.tooLarge, h, rfl⟩

/-! ### Whole configurations -/

/-- What is in the way of the settings of a configuration: the first part that is no good, in the
order in which they are checked. -/
inductive Blocks (entries : List (String × Value)) : Obstacle → Prop
  | logging {value : Value} (h : IsNoSection entries "logging" value) :
      Blocks entries (.issue (.notTable "logging" value))
  | prompt {logging : List (String × Value)} {value : Value}
      (hlogging : IsSection entries "logging" logging) (h : IsNoSection entries "prompt" value) :
      Blocks entries (.issue (.notTable "prompt" value))
  | level {logging prompt : List (String × Value)} {value : Value}
      (hlogging : IsSection entries "logging" logging) (hprompt : IsSection entries "prompt" prompt)
      (h : logging.lookup "level" = some value) (no_text : ∀ level, value ≠ .text level) :
      Blocks entries (.issue (.badLevel value))
  | definitions {logging prompt : List (String × Value)} {value : Value}
      (hlogging : IsSection entries "logging" logging) (hprompt : IsSection entries "prompt" prompt)
      (hlevel : HasLevel logging) (h : IsNoSection entries "variables" value) :
      Blocks entries (.issue (.notTable "variables" value))
  | entry {logging prompt earlier later : List (String × Value)} {name : String} {value : Value}
      {o : Obstacle} (hlogging : IsSection entries "logging" logging)
      (hprompt : IsSection entries "prompt" prompt) (hlevel : HasLevel logging)
      (hdefinitions : IsSection entries "variables" (earlier ++ (name, value) :: later))
      (hearlier : ∀ entry ∈ earlier, IsVariable entry.1 entry.2)
      (h : BlocksVariable name value o) : Blocks entries o

theorem bindingsOf_eq_error_iff {f : Failure} :
    bindingsOf limits path definitions = .error f ↔
      ∃ earlier name value later o, definitions = earlier ++ (name, value) :: later ∧
        (∀ entry ∈ earlier, IsVariable entry.1 entry.2) ∧ BlocksVariable name value o ∧
        f = o.failure limits path := by
  unfold bindingsOf
  rw [map_eq_error, mapM_eq_error_iff]
  -- the entries in front of the first failure are those that have become bindings
  simp only [exists_map_numberOf_iff]
  constructor
  · rintro ⟨earlier, ⟨name, value⟩, later, rfl, hearlier, h⟩
    obtain ⟨o, ho, rfl⟩ := numberOf_eq_error_iff.mp (map_eq_error.mp h)
    exact ⟨earlier, name, value, later, o, rfl, hearlier, ho, rfl⟩
  · rintro ⟨earlier, name, value, later, o, rfl, hearlier, ho, rfl⟩
    exact ⟨earlier, (name, value), later, rfl, hearlier,
      map_eq_error.mpr (numberOf_eq_error_iff.mpr ⟨o, ho, rfl⟩)⟩

/-- The checks of a configuration, one behind the other. -/
theorem ofEntries_eq (limits : Limits) (path : String) (entries : List (String × Value)) :
    ofEntries limits path entries =
      ((section? entries "logging").mapError (Issue.failure limits path)).bind fun logging =>
        ((section? entries "prompt").mapError (Issue.failure limits path)).bind fun prompt =>
          ((levelOf logging).mapError (Issue.failure limits path)).bind fun level =>
            ((section? entries "variables").mapError
                (Issue.failure limits path)).bind fun definitions =>
              (bindingsOf limits path definitions).bind fun bindings =>
                .ok {
                  path := some path
                  level
                  bindings
                  prompts := ((prompt.lookup "enabled").map Value.isTruthy).getD true } :=
  rfl

/-- **The first part that is no good decides** with what failure settings are not read. -/
theorem ofEntries_eq_error_iff {f : Failure} :
    ofEntries limits path entries = .error f ↔
      ∃ o, Blocks entries o ∧ f = o.failure limits path := by
  -- a chain of checks fails with the first one that fails, so it splits into one case for each
  rw [ofEntries_eq]
  simp only [bind_eq_error, mapError_eq_error, mapError_eq_ok,
    levelOf_eq_error_iff, bindingsOf_eq_error_iff, section?_eq_ok_iff, section?_eq_error_iff]
  constructor
  · rintro (⟨_, ⟨value, h, rfl⟩, rfl⟩ | ⟨logging, hlogging, ⟨_, ⟨value, h, rfl⟩, rfl⟩ |
      ⟨prompt, hprompt, ⟨_, ⟨value, h, hno, rfl⟩, rfl⟩ | ⟨level, hlevel,
        ⟨_, ⟨value, h, rfl⟩, rfl⟩ | ⟨definitions, hdefinitions,
          ⟨earlier, name, value, later, o, rfl, hearlier, h, rfl⟩ | ⟨_, _, h⟩⟩⟩⟩⟩)
    · exact ⟨_, .logging h, rfl⟩
    · exact ⟨_, .prompt hlogging h, rfl⟩
    · exact ⟨_, .level hlogging hprompt h hno, rfl⟩
    · have hlevel := exists_levelOf_iff.mp ⟨level, hlevel⟩
      exact ⟨_, .definitions hlogging hprompt hlevel h, rfl⟩
    · have hlevel := exists_levelOf_iff.mp ⟨level, hlevel⟩
      exact ⟨o, .entry hlogging hprompt hlevel hdefinitions hearlier h, rfl⟩
    · cases h
  · rintro ⟨o, ho, rfl⟩
    cases ho with
    | logging h => exact .inl ⟨_, ⟨_, h, rfl⟩, rfl⟩
    | prompt hlogging h => exact .inr ⟨_, hlogging, .inl ⟨_, ⟨_, h, rfl⟩, rfl⟩⟩
    | level hlogging hprompt h hno =>
      exact .inr ⟨_, hlogging, .inr ⟨_, hprompt, .inl ⟨_, ⟨_, h, hno, rfl⟩, rfl⟩⟩⟩
    | definitions hlogging hprompt hlevel h =>
      obtain ⟨level, hlevel⟩ := exists_levelOf_iff.mpr hlevel
      exact .inr ⟨_, hlogging, .inr ⟨_, hprompt, .inr ⟨level, hlevel, .inl ⟨_, ⟨_, h, rfl⟩, rfl⟩⟩⟩⟩
    | entry hlogging hprompt hlevel hdefinitions hearlier h =>
      obtain ⟨level, hlevel⟩ := exists_levelOf_iff.mpr hlevel
      exact .inr ⟨_, hlogging, .inr ⟨_, hprompt, .inr ⟨level, hlevel, .inr ⟨_, hdefinitions,
        .inl ⟨_, _, _, _, _, rfl, hearlier, h, rfl⟩⟩⟩⟩⟩

/-! ### Faults -/

/-- The faults of reading the bytes of a configuration: bytes that are no text, a whole number with
too many digits, values nested too deeply, an issue whose value cannot be shown, and a whole number
that is too large for a float. -/
inductive Spoils (limits : Limits) (bytes : ByteArray) : Fault → Prop
  | undecodable (h : String.fromUTF8? bytes = none) : Spoils limits bytes .undecodable
  | tooManyDigits {text : String} {count : Nat} (h : String.fromUTF8? bytes = some text)
      (hread : Toml.read limits.room (Text.withLineFeeds text) = .error (.tooManyDigits count)) :
      Spoils limits bytes (.tooManyDigits count)
  | tooNested {text : String} (h : String.fromUTF8? bytes = some text)
      (hread : Toml.read limits.room (Text.withLineFeeds text) = .error .tooNested) :
      Spoils limits bytes .tooNested
  | unshowable {text : String} {entries : List (String × Value)} {issue : Issue} {fault : Fault}
      (h : String.fromUTF8? bytes = some text)
      (hread : Toml.read limits.room (Text.withLineFeeds text) = .ok entries)
      (hissue : Blocks entries (.issue issue)) (hshow : issue.hindrance? limits = some fault) :
      Spoils limits bytes fault
  | tooLarge {text : String} {entries : List (String × Value)}
      (h : String.fromUTF8? bytes = some text)
      (hread : Toml.read limits.room (Text.withLineFeeds text) = .ok entries)
      (hlarge : Blocks entries .tooLarge) : Spoils limits bytes .tooLarge

theorem failure_eq_fault_iff {o : Obstacle} {fault : Fault} :
    o.failure limits path = .fault fault ↔
      o = .tooLarge ∧ fault = .tooLarge ∨
        ∃ issue, o = .issue issue ∧ issue.hindrance? limits = some fault := by
  cases o with
  | tooLarge =>
    constructor
    · intro h
      cases h
      exact .inl ⟨rfl, rfl⟩
    · rintro (⟨-, rfl⟩ | ⟨issue, h, -⟩)
      · rfl
      · cases h
  | issue i =>
    unfold Obstacle.failure Issue.failure
    dsimp only
    constructor
    · intro h
      split at h
      · cases h
      · next hshow =>
        cases h
        exact .inr ⟨i, rfl, hshow⟩
    · rintro (⟨h, -⟩ | ⟨_, ⟨⟩, hshow⟩)
      · cases h
      · rw [hshow]

/-- **Faults of reading settings** are those of `Spoils`. -/
theorem ofBytes_eq_fault_iff {bytes : ByteArray} {fault : Fault} :
    ofBytes limits path bytes = .error (.fault fault) ↔ Spoils limits bytes fault := by
  constructor
  · intro h
    unfold ofBytes at h
    cases htext : String.fromUTF8? bytes with
    | none =>
      rw [htext] at h
      cases h
      exact .undecodable htext
    | some text =>
      rw [htext] at h
      dsimp only at h
      unfold ofText at h
      cases hread : Toml.read limits.room (Text.withLineFeeds text) with
      | error flaw =>
        rw [hread] at h
        cases flaw with
        | malformed =>
          -- the wording of this issue shows no value
          cases h
        | tooManyDigits count =>
          cases h
          exact .tooManyDigits htext hread
        | tooNested =>
          cases h
          exact .tooNested htext hread
      | ok entries =>
        rw [hread] at h
        obtain ⟨o, ho, hf⟩ := ofEntries_eq_error_iff.mp h
        obtain ⟨rfl, rfl⟩ | ⟨issue, rfl, hshow⟩ := failure_eq_fault_iff.mp hf.symm
        · exact .tooLarge htext hread ho
        · exact .unshowable htext hread ho hshow
  · intro h
    unfold ofBytes
    cases h with
    | undecodable htext => rw [htext]
    | tooManyDigits htext hread | tooNested htext hread =>
      rw [htext]
      dsimp only
      unfold ofText
      rw [hread]
    | unshowable htext hread hissue hshow =>
      rw [htext]
      dsimp only
      unfold ofText
      rw [hread]
      exact ofEntries_eq_error_iff.mpr
        ⟨_, hissue, (failure_eq_fault_iff.mpr (.inr ⟨_, rfl, hshow⟩)).symm⟩
    | tooLarge htext hread hlarge =>
      rw [htext]
      dsimp only
      unfold ofText
      rw [hread]
      exact ofEntries_eq_error_iff.mpr ⟨_, hlarge, rfl⟩

end Settings

end Calculator
