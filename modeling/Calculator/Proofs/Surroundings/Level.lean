import Calculator.Surroundings
import Mathlib.Data.List.ReduceOption

/-!
# The level that is chosen

The first of the texts that are given and name a level decides, with a warning for each text before
it that is not empty (`firstLevel_of_names`).  If no text names a level, the environment decides,
and may add a warning about its own name (`firstLevel_of_no_name`).  What is chosen is named by its
own name, so it is chosen again if it is given back (`level_chosen`).
-/

namespace Calculator

open Calculator.Text

namespace Level

/-! ### Texts that name levels -/

/-- A text as it is compared with the names of the levels. -/
def spelling (text : String) : String :=
  strip (toUpper text)

/-- The names of the levels. -/
def names : List String :=
  ["DEBUG", "INFO", "WARNING", "ERROR", "CRITICAL"]

theorem mem_names_iff {name : String} : name ∈ names ↔ ∃ level : Level, level.name = name := by
  constructor
  · intro h
    have hall : name ∈ all.map Level.name := h
    obtain ⟨level, -, hlevel⟩ := List.mem_map.mp hall
    exact ⟨level, hlevel⟩
  · rintro ⟨level, rfl⟩
    cases level <;> decide

theorem name_of_ofText? {text : String} {level : Level} (h : ofText? text = some level) :
    level.name = spelling text := by
  have hname := List.find?_some h
  exact of_decide_eq_true hname

theorem ofText?_eq_none_iff {text : String} : ofText? text = none ↔ spelling text ∉ names := by
  rw [mem_names_iff]
  constructor
  · rintro hnone ⟨level, hlevel⟩
    have hmem : level ∈ all := by cases level <;> decide
    have hne := List.find?_eq_none.mp hnone level hmem
    exact hne (decide_eq_true hlevel)
  · intro hno
    cases h : ofText? text with
    | none => rfl
    | some level => exact absurd ⟨level, name_of_ofText? h⟩ hno

theorem exists_ofText?_of_mem_names {text : String} (h : spelling text ∈ names) :
    ∃ level, ofText? text = some level :=
  Option.ne_none_iff_exists'.mp fun hnone => ofText?_eq_none_iff.mp hnone h

/-- A level is named by its own name, as that is in upper case and has no blanks around it. -/
theorem ofText?_name (level : Level) : ofText? level.name = some level := by
  cases level <;> decide +kernel

end Level

namespace Surroundings

variable {s : Surroundings} {text : String} {texts before after : List String}
  {candidates : List (Option String)}

/-! ### One candidate -/

/-- The warnings about texts that do not name a level: one for each that is not empty. -/
def warnings (texts : List String) : List Event :=
  (texts.filter fun text => text ≠ "").map .unknownLevel

theorem firstLevel_of_ofText? {level : Level} (h : Level.ofText? text = some level) :
    s.firstLevel (some text :: candidates) = (level, []) := by
  have hne : text ≠ "" := by
    rintro rfl
    have hempty : Level.ofText? "" = none := by decide +kernel
    cases hempty.symm.trans h
  rw [firstLevel, h]
  exact hne

theorem firstLevel_of_ofText?_eq_none (h : Level.ofText? text = none) :
    s.firstLevel (some text :: candidates) =
      ((s.firstLevel candidates).1, warnings [text] ++ (s.firstLevel candidates).2) := by
  by_cases hne : text = ""
  · subst hne
    rfl
  · have hwarnings : warnings [text] = [.unknownLevel text] := by simp [warnings, hne]
    rw [firstLevel, h, hwarnings]
    · rfl
    · exact hne

/-! ### All candidates -/

/-- Only the texts that are given count. -/
theorem firstLevel_reduceOption (s : Surroundings) (candidates : List (Option String)) :
    s.firstLevel (candidates.reduceOption.map some) = s.firstLevel candidates := by
  induction candidates with
  | nil => rfl
  | cons candidate candidates ih =>
    cases candidate with
    | none =>
      rw [List.reduceOption_cons_of_none, ih]
      rfl
    | some text =>
      rw [List.reduceOption_cons_of_some, List.map_cons]
      cases h : Level.ofText? text with
      | some level => rw [firstLevel_of_ofText? h, firstLevel_of_ofText? h]
      | none => rw [firstLevel_of_ofText?_eq_none h, firstLevel_of_ofText?_eq_none h, ih]

/-- Texts that do not name a level are passed over with their warnings. -/
theorem firstLevel_append (h : ∀ text ∈ before, Level.spelling text ∉ Level.names) :
    s.firstLevel (before.map some ++ candidates) =
      ((s.firstLevel candidates).1, warnings before ++ (s.firstLevel candidates).2) := by
  induction before with
  | nil => rfl
  | cons text texts ih =>
    have hnone : Level.ofText? text = none :=
      Level.ofText?_eq_none_iff.mpr (h text (List.mem_cons_self ..))
    have hwarnings : warnings (text :: texts) = warnings [text] ++ warnings texts := by
      unfold warnings
      rw [← List.map_append, ← List.filter_append, List.singleton_append]
    rw [List.map_cons, List.cons_append, firstLevel_of_ofText?_eq_none hnone,
      ih fun other hother => h other (List.mem_cons_of_mem text hother), hwarnings,
      List.append_assoc]

theorem firstLevel_of_name {level : Level}
    (hbefore : ∀ other ∈ before, Level.spelling other ∉ Level.names)
    (htext : Level.ofText? text = some level) :
    s.firstLevel ((before ++ text :: after).map some) = (level, warnings before) := by
  rw [List.map_append, firstLevel_append hbefore, List.map_cons, firstLevel_of_ofText? htext,
    List.append_nil]

theorem firstLevel_of_no_name (h : ∀ text ∈ texts, Level.spelling text ∉ Level.names) :
    s.firstLevel (texts.map some) =
      (s.defaultLevel.1, warnings texts ++ s.defaultLevel.2) := by
  rw [← List.append_nil (texts.map some), firstLevel_append h]
  rfl

/-! ### The environment -/

/-- The name of the environment, as it is compared with the names that are known. -/
def environmentSpelling (s : Surroundings) : String :=
  strip (toLower (s.environmentName.getD ""))

/-- Only production reports less than the others, and only a name that is not known is warned
about. -/
theorem defaultLevel_eq (s : Surroundings) :
    s.defaultLevel.1.name =
        (if s.environmentSpelling ∈ ["production", "prod"] then "WARNING" else "INFO") ∧
      s.defaultLevel.2 =
        if s.environmentSpelling ∈
            ["production", "prod", "test", "testing", "development", "dev", ""] then []
        else [.unknownEnvironment s.environmentSpelling] := by
  unfold defaultLevel environment environmentSpelling
  generalize strip (toLower (s.environmentName.getD "")) = name
  dsimp only
  unfold Environment.ofName?
  split_ifs <;> simp_all [Environment.level, Level.name]

/-! ### The choice -/

/-- **The first text that names a level decides.**  The level that is chosen has one of the five
names.  If one of the texts that are given (on the command line, in the surroundings, in the
settings) names a level in upper case and without blanks around it, the first of them is chosen;
there is one warning for each text before it that is not empty, and the environment makes no
difference.  If none of them does, the level is that of the environment, and behind the warnings
about the texts there is one about the environment if its name is not known.  The name of the level
that is chosen, given on the command line, is chosen again without a warning. -/
theorem level_chosen (s : Surroundings) (commandLine settings : Option String) :
    let given := [commandLine, s.levelName, settings].reduceOption
    let chosen := s.level commandLine settings
    chosen.1.name ∈ Level.names ∧
      (∀ before text after, given = before ++ text :: after →
        (∀ other ∈ before, Level.spelling other ∉ Level.names) →
          Level.spelling text ∈ Level.names →
            chosen.1.name = Level.spelling text ∧ chosen.2 = warnings before ∧
              ∀ environmentName,
                Surroundings.level { s with environmentName } commandLine settings = chosen) ∧
      ((∀ text ∈ given, Level.spelling text ∉ Level.names) →
        chosen.1.name =
            (if s.environmentSpelling ∈ ["production", "prod"] then "WARNING" else "INFO") ∧
          chosen.2 = warnings given ++
            if s.environmentSpelling ∈
                ["production", "prod", "test", "testing", "development", "dev", ""] then []
            else [.unknownEnvironment s.environmentSpelling]) ∧
      ∀ (others : Surroundings) (otherSettings : Option String),
        others.level (some chosen.1.name) otherSettings = (chosen.1, []) := by
  intro given chosen
  -- what is not given plays no part, and whatever is chosen is chosen from the texts that are
  have hgiven_eq : ∀ environmentName,
      Surroundings.level { s with environmentName } commandLine settings =
        Surroundings.firstLevel { s with environmentName } (given.map some) :=
    fun _ => (firstLevel_reduceOption _ _).symm
  refine ⟨Level.mem_names_iff.mpr ⟨chosen.1, rfl⟩, ?named, ?unnamed, ?again⟩
  case named =>
    intro before text after hgiven hbefore htext
    obtain ⟨level, hlevel⟩ := Level.exists_ofText?_of_mem_names htext
    have heq : ∀ environmentName,
        Surroundings.level { s with environmentName } commandLine settings =
          (level, warnings before) := by
      intro environmentName
      rw [hgiven_eq, hgiven, firstLevel_of_name hbefore hlevel]
    have hchosen : chosen = (level, warnings before) := heq s.environmentName
    rw [hchosen]
    exact ⟨Level.name_of_ofText? hlevel, rfl, heq⟩
  case unnamed =>
    intro hnone
    obtain ⟨hname, hevents⟩ := defaultLevel_eq s
    have hchosen : chosen = (s.defaultLevel.1, warnings given ++ s.defaultLevel.2) :=
      (hgiven_eq s.environmentName).trans (firstLevel_of_no_name hnone)
    rw [hchosen, ← hname, ← hevents]
    dsimp only
    exact ⟨rfl, rfl⟩
  case again =>
    intro others otherSettings
    exact firstLevel_of_ofText? (Level.ofText?_name chosen.1)

/-- The level of the surroundings, in lower case and with blanks around it, is chosen behind one
that is not known, and neither the settings nor the unknown environment come into it. -/
theorem level_chosen_surroundings :
    let s : Surroundings := { environmentName := some "staging", levelName := some "\terror " }
    let chosen := s.level (some "loud") (some "DEBUG")
    chosen.1.name = "ERROR" ∧ chosen.2 = [.unknownLevel "loud"] ∧
      ∀ environmentName,
        Surroundings.level { s with environmentName } (some "loud") (some "DEBUG") = chosen := by
  intro s chosen
  have hloud : Level.spelling "loud" ∉ Level.names := by decide +kernel
  have herror : Level.spelling "\terror " ∈ Level.names := by decide +kernel
  have hspelling : Level.spelling "\terror " = "ERROR" := by decide +kernel
  obtain ⟨hname, hwarnings, henvironment⟩ := (level_chosen s (some "loud") (some "DEBUG")).2.1
    ["loud"] "\terror " ["DEBUG"] rfl (List.forall_mem_singleton.mpr hloud) herror
  exact ⟨hname.trans hspelling, hwarnings, henvironment⟩

end Surroundings

end Calculator
