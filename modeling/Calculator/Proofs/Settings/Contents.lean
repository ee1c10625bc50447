import Calculator.Proofs.Settings.Checks
import Calculator.Proofs.Toml.Names

/-!
# What settings hold

A configuration makes settings exactly if its parts are in order (`IsInOrder`), and then they hold
what those parts state (`Holds`).  A configuration that makes none is refused for its first part
that is no good (`IsRefused`).  What else stands in a configuration makes no difference
(`ofEntries_eq_of_samePurport`).  `ofText_exact` says all of this about the text of a configuration.
-/

namespace Calculator.Settings

/-! ### Settings that are made -/

/-- Whether the given entries are those of the tables of levels, prompts and variables, and all of
them are in order. -/
structure IsInOrder (entries logging prompt definitions : List (String × Value)) : Prop where
  hasLogging : IsSection entries "logging" logging
  hasPrompt : IsSection entries "prompt" prompt
  hasLevel : HasLevel logging
  hasDefinitions : IsSection entries "variables" definitions
  areVariables : ∀ entry ∈ definitions, IsVariable entry.1 entry.2

/-- Whether a binding has the name of an entry, and the number that the value of the entry makes. -/
def Converts (entry : String × Value) (binding : String × Float) : Prop :=
  binding.1 = entry.1 ∧ entry.2.toFloat = .ok binding.2

/-- Whether settings hold what tables of levels, prompts and variables state: the level if there is
one, each variable with the number that its value makes, in their order and no others, and whether
prompts are wanted, which they are unless it is stated otherwise. -/
structure Holds (path : String) (logging prompt definitions : List (String × Value))
    (settings : Settings) : Prop where
  path : settings.path = some path
  level : settings.level.map Value.text = logging.lookup "level"
  bindings : List.Forall₂ Converts definitions settings.bindings.entries
  prompts : settings.prompts = (prompt.lookup "enabled").elim true Value.isTruthy

section Made

variable {limits : Limits} {entries logging prompt definitions : List (String × Value)}
  {path name : String} {value : Value}

theorem levelOf_eq_ok_iff {level : Option String} :
    levelOf logging = .ok level ↔ level.map Value.text = logging.lookup "level" := by
  unfold levelOf
  split
  · next hnone =>
    rw [hnone, Option.map_eq_none_iff, Except.ok.injEq, eq_comm]
  · next hsome =>
    rw [hsome, Option.map_eq_some_iff, Except.ok.injEq]
    simp [eq_comm]
  · next value hno hsome =>
    rw [hsome, Option.map_eq_some_iff]
    constructor
    · intro h
      cases h
    · rintro ⟨level, -, rfl⟩
      exact absurd rfl (hno level)

theorem numberOf_of_isVariable (h : IsVariable name value) :
    numberOf limits path name value = value.toFloat.mapError .fault := by
  unfold numberOf
  rw [h.number, h.word]
  rfl

theorem map_numberOf_eq_ok_iff {entry : String × Value} {binding : String × Float} :
    (numberOf limits path entry.1 entry.2).map (entry.1, ·) = .ok binding ↔
      IsVariable entry.1 entry.2 ∧ Converts entry binding := by
  rw [map_eq_ok]
  constructor
  · rintro ⟨x, hx, rfl⟩
    have hvariable := exists_numberOf_iff.mp ⟨x, hx⟩
    rw [numberOf_of_isVariable hvariable, mapError_eq_ok] at hx
    exact ⟨hvariable, rfl, hx⟩
  · rintro ⟨hvariable, hname, hx⟩
    rw [numberOf_of_isVariable hvariable]
    exact ⟨binding.2, mapError_eq_ok.mpr hx, Prod.ext hname.symm rfl⟩

theorem names_of_converts {bindings : List (String × Float)}
    (h : List.Forall₂ Converts definitions bindings) :
    bindings.map Prod.fst = definitions.map Prod.fst := by
  induction h with
  | nil => rfl
  | cons hfirst _ ih => rw [List.map_cons, List.map_cons, hfirst.1, ih]

/-- Variables with distinct names make as many bindings, in the same order. -/
theorem bindingsOf_eq_ok_iff (hnames : (definitions.map Prod.fst).Nodup) {b : Bindings Float} :
    bindingsOf limits path definitions = .ok b ↔
      (∀ entry ∈ definitions, IsVariable entry.1 entry.2) ∧
        List.Forall₂ Converts definitions b.entries := by
  unfold bindingsOf
  rw [map_eq_ok]
  simp only [mapM_eq_ok_iff, map_numberOf_eq_ok_iff, List.forall₂_and_left]
  constructor
  · rintro ⟨bindings, ⟨hvariables, hall⟩, rfl⟩
    -- the row has the names of the definitions, so none of them is bound twice
    rw [Bindings.entries_ofList (names_of_converts hall ▸ hnames)]
    exact ⟨hvariables, hall⟩
  · rintro ⟨hvariables, hall⟩
    exact ⟨b.entries, ⟨hvariables, hall⟩, Bindings.eq_of_entries (Bindings.entries_ofList b.nodup)⟩

theorem nodup_of_isSection {inner : List (String × Value)}
    (hentries : (Value.table entries).IsDistinct) (h : IsSection entries name inner) :
    (inner.map Prod.fst).Nodup := by
  cases h with
  | absent h => exact List.nodup_nil
  | table h =>
    obtain ⟨earlier, later, hsplit, -⟩ := List.lookup_eq_some_iff.mp h
    have hmem : (name, Value.table inner) ∈ entries := by
      rw [hsplit]
      exact List.mem_append_right _ (List.mem_cons_self ..)
    have hinner := (Value.isDistinct_table_iff.mp hentries).2 _ hmem
    exact (Value.isDistinct_table_iff.mp hinner).1

theorem ofEntries_eq_ok_iff (hentries : (Value.table entries).IsDistinct) {settings : Settings} :
    ofEntries limits path entries = .ok settings ↔
      ∃ logging prompt definitions, IsInOrder entries logging prompt definitions ∧
        Holds path logging prompt definitions settings := by
  rw [ofEntries_eq]
  simp only [bind_eq_ok, mapError_eq_ok, section?_eq_ok_iff]
  constructor
  · rintro ⟨logging, hlogging, prompt, hprompt, level, hlevel, definitions, hdefinitions, b, hb,
      heq⟩
    cases heq
    obtain ⟨hnumbers, hall⟩ :=
      (bindingsOf_eq_ok_iff (nodup_of_isSection hentries hdefinitions)).mp hb
    refine ⟨logging, prompt, definitions,
      ⟨hlogging, hprompt, exists_levelOf_iff.mp ⟨level, hlevel⟩, hdefinitions, hnumbers⟩,
      ⟨rfl, levelOf_eq_ok_iff.mp hlevel, hall, ?_⟩⟩
    cases prompt.lookup "enabled" <;> rfl
  · rintro ⟨logging, prompt, definitions, horder, hholds⟩
    have hb : bindingsOf limits path definitions = .ok settings.bindings :=
      (bindingsOf_eq_ok_iff (nodup_of_isSection hentries horder.hasDefinitions)).mpr
        ⟨horder.areVariables, hholds.bindings⟩
    have hlevel := levelOf_eq_ok_iff.mpr hholds.level
    refine ⟨logging, horder.hasLogging, prompt, horder.hasPrompt, settings.level, hlevel,
      definitions, horder.hasDefinitions, settings.bindings, hb, ?_⟩
    have hprompts := hholds.prompts
    have hpath := hholds.path
    obtain ⟨path', level, bindings, prompts⟩ := settings
    cases hpath
    cases hprompts
    cases prompt.lookup "enabled" <;> rfl

/-- Parts that are in order make settings. -/
theorem exists_ofEntries_of_isInOrder (limits : Limits) (path : String)
    (h : IsInOrder entries logging prompt definitions) :
    ∃ settings, ofEntries limits path entries = .ok settings := by
  obtain ⟨level, hlevel⟩ := exists_levelOf_iff.mpr h.hasLevel
  obtain ⟨row, hrow⟩ := exists_mapM_eq_ok_iff.mpr fun entry hentry =>
    (@exists_map_numberOf_iff limits path entry).mpr (h.areVariables entry hentry)
  have hb : bindingsOf limits path definitions = .ok (.ofList row) := map_eq_ok.mpr ⟨row, hrow, rfl⟩
  simp only [ofEntries_eq, bind_eq_ok, mapError_eq_ok, section?_eq_ok_iff]
  exact ⟨_, logging, h.hasLogging, prompt, h.hasPrompt, level, hlevel, definitions,
    h.hasDefinitions, _, hb, rfl⟩

end Made

/-! ### Configurations that are refused -/

/-- Why a configuration makes no settings: an error that words what is wrong with its first part
that is no good, what keeps the value of that part from being shown in the wording, or a number that
is too large for a float. -/
inductive IsRefused (limits : Limits) (path : String) (entries : List (String × Value)) :
    Failure → Prop
  | wrong {issue : Issue} (h : Blocks entries (.issue issue))
      (hshow : issue.hindrance? limits = none) :
      IsRefused limits path entries (.error { cause := .configuration (issue.message path) })
  | unshowable {issue : Issue} {fault : Fault} (h : Blocks entries (.issue issue))
      (hshow : issue.hindrance? limits = some fault) : IsRefused limits path entries (.fault fault)
  | tooLarge (h : Blocks entries .tooLarge) : IsRefused limits path entries (.fault .tooLarge)

theorem ofEntries_eq_error_iff_isRefused {limits : Limits} {path : String}
    {entries : List (String × Value)} {f : Failure} :
    ofEntries limits path entries = .error f ↔ IsRefused limits path entries f := by
  rw [ofEntries_eq_error_iff]
  constructor
  · rintro ⟨o, ho, rfl⟩
    cases o with
    | tooLarge => exact .tooLarge ho
    | issue issue =>
      unfold Obstacle.failure Issue.failure
      dsimp only
      cases hshow : issue.hindrance? limits with
      | none => exact .wrong ho hshow
      | some fault => exact .unshowable ho hshow
  · intro h
    cases h with
    | wrong ho hshow =>
      refine ⟨_, ho, ?_⟩
      unfold Obstacle.failure Issue.failure
      dsimp only
      rw [hshow]
    | unshowable ho hshow => exact ⟨_, ho, (failure_eq_fault_iff.mpr (.inr ⟨_, rfl, hshow⟩)).symm⟩
    | tooLarge ho => exact ⟨_, ho, rfl⟩

/-! ### What makes no difference -/

/-- Whether two configurations have the same under a name, or tables there that are related; a table
that is left out counts as one without entries. -/
inductive Relates (R : List (String × Value) → List (String × Value) → Prop)
    (entries entries' : List (String × Value)) (name : String) : Prop
  | same (h : entries.lookup name = entries'.lookup name)
  | tables {inner inner' : List (String × Value)} (h : IsSection entries name inner)
      (h' : IsSection entries' name inner') (related : R inner inner')

/-- Whether two configurations have the same level, the same variables, and the same to say about
prompts.  Whatever else they hold may differ. -/
structure SamePurport (entries entries' : List (String × Value)) : Prop where
  logging : Relates (fun inner inner' => inner.lookup "level" = inner'.lookup "level")
    entries entries' "logging"
  prompt : Relates (fun inner inner' => inner.lookup "enabled" = inner'.lookup "enabled")
    entries entries' "prompt"
  definitions : Relates (· = ·) entries entries' "variables"

section Purport

variable {entries entries' : List (String × Value)}

theorem Relates.error_or_ok {R : List (String × Value) → List (String × Value) → Prop}
    {name : String} (h : Relates R entries entries' name) (hrefl : ∀ inner, R inner inner) :
    (∃ issue, section? entries name = .error issue ∧ section? entries' name = .error issue) ∨
      ∃ inner inner', section? entries name = .ok inner ∧ section? entries' name = .ok inner' ∧
        R inner inner' := by
  cases h with
  | same h =>
    have hsame : section? entries name = section? entries' name := by
      unfold section?
      rw [h]
    rw [hsame]
    cases section? entries' name with
    | error issue => exact .inl ⟨issue, rfl, rfl⟩
    | ok inner => exact .inr ⟨inner, inner, rfl, rfl, hrefl inner⟩
  | tables h h' related =>
    exact .inr ⟨_, _, section?_eq_ok_iff.mpr h, section?_eq_ok_iff.mpr h', related⟩

/-- **Nothing but the level, the variables and what is said about prompts makes a difference.** -/
theorem ofEntries_eq_of_samePurport (limits : Limits) (path : String)
    (h : SamePurport entries entries') :
    ofEntries limits path entries = ofEntries limits path entries' := by
  -- either both configurations are refused for the same table, or the two tables are related
  rw [ofEntries_eq, ofEntries_eq]
  rcases h.logging.error_or_ok fun _ => rfl with
    ⟨issue, hl, hl'⟩ | ⟨logging, logging', hl, hl', hlevel⟩
  · rw [hl, hl']
    rfl
  rw [hl, hl']
  rcases h.prompt.error_or_ok fun _ => rfl with
    ⟨issue, hp, hp'⟩ | ⟨prompt, prompt', hp, hp', henabled⟩
  · rw [hp, hp']
    rfl
  have hlevels : levelOf logging = levelOf logging' := by
    unfold levelOf
    rw [hlevel]
  have hdefinitions : section? entries "variables" = section? entries' "variables" := by
    rcases h.definitions.error_or_ok fun _ => rfl with ⟨issue, hd, hd'⟩ | ⟨inner, _, hd, hd', rfl⟩
    · rw [hd, hd']
    · rw [hd, hd']
  rw [hp, hp']
  simp only [Except.mapError, Except.bind]
  rw [hlevels, hdefinitions, henabled]

end Purport

/-! ### Whole configurations -/

/-- **What a configuration comes to**: it makes settings exactly if its parts are in order, and they
hold what those parts state; otherwise it is refused for the first part that is no good; and a
configuration that differs from it in nothing but what is never looked at comes to the same. -/
theorem ofText_exact (limits : Limits) (path : String) {text : String}
    {entries : List (String × Value)}
    (h : Toml.read limits.room (Text.withLineFeeds text) = .ok entries) :
    (∀ settings, ofText limits path text = .ok settings ↔
      ∃ logging prompt definitions, IsInOrder entries logging prompt definitions ∧
        Holds path logging prompt definitions settings) ∧
      ((∃ settings, ofText limits path text = .ok settings) ↔
        ∃ logging prompt definitions, IsInOrder entries logging prompt definitions) ∧
      (∀ f, ofText limits path text = .error f ↔ IsRefused limits path entries f) ∧
      ∀ text' entries', Toml.read limits.room (Text.withLineFeeds text') = .ok entries' →
        SamePurport entries entries' → ofText limits path text = ofText limits path text' := by
  have htext : ∀ text' entries', Toml.read limits.room (Text.withLineFeeds text') = .ok entries' →
      ofText limits path text' = ofEntries limits path entries' := by
    intro text' entries' h'
    unfold ofText
    rw [h']
  have hok : ∀ settings, ofEntries limits path entries = .ok settings ↔
      ∃ logging prompt definitions, IsInOrder entries logging prompt definitions ∧
        Holds path logging prompt definitions settings := fun settings =>
    ofEntries_eq_ok_iff (Toml.isDistinct_of_read_eq_ok h)
  rw [htext text entries h]
  refine ⟨hok, ⟨?_, ?_⟩, fun f => ofEntries_eq_error_iff_isRefused, ?_⟩
  · rintro ⟨settings, hsettings⟩
    obtain ⟨logging, prompt, definitions, horder, -⟩ := (hok settings).mp hsettings
    exact ⟨logging, prompt, definitions, horder⟩
  · rintro ⟨logging, prompt, definitions, horder⟩
    exact exists_ofEntries_of_isInOrder limits path horder
  · intro text' entries' h' hsame
    rw [htext text' entries' h']
    exact ofEntries_eq_of_samePurport limits path hsame

/-- A configuration with two variables and an entry that is not looked at. -/
def quietText : String :=
  "[prompt]\nenabled = 0\n[variables]\nx = 2\ny = -7\n[other]\nlevel = 3\n"

/-- The parts of `quietText` are in order, and its settings hold what they state. -/
theorem ofText_exact_quiet :
    ∃ entries settings logging prompt definitions,
      Toml.read Limits.usual.room (Text.withLineFeeds quietText) = .ok entries ∧
        ofText .usual "reckon.toml" quietText = .ok settings ∧ settings.prompts = false ∧
        settings.bindings.entries = [("x", 2.0), ("y", -7.0)] ∧
        IsInOrder entries logging prompt definitions ∧
        Holds "reckon.toml" logging prompt definitions settings := by
  have hread : (Toml.read Limits.usual.room
      (Text.withLineFeeds quietText)).toOption.isSome = true := by
    decide +kernel
  have hmade : ((ofText .usual "reckon.toml" quietText).toOption.map fun settings =>
      (settings.prompts, settings.bindings.entries)) = some (false, [("x", 2.0), ("y", -7.0)]) := by
    decide +kernel
  cases hentries : Toml.read Limits.usual.room (Text.withLineFeeds quietText) with
  | error flaw =>
    rw [hentries] at hread
    cases hread
  | ok entries =>
    cases hsettings : ofText .usual "reckon.toml" quietText with
    | error f =>
      rw [hsettings] at hmade
      cases hmade
    | ok settings =>
      rw [hsettings] at hmade
      obtain ⟨hprompts, hbindings⟩ := Prod.ext_iff.mp (Option.some.inj hmade)
      obtain ⟨logging, prompt, definitions, horder, hholds⟩ :=
        ((ofText_exact .usual "reckon.toml" hentries).1 settings).mp hsettings
      exact ⟨entries, settings, logging, prompt, definitions, rfl, rfl, hprompts, hbindings, horder,
        hholds⟩

/-- Not every part that is no good is worded: a whole number with too many digits in place of a
table cannot be shown. -/
theorem not_forall_worded :
    ¬ ∀ (path : String) (entries : List (String × Value)) (issue : Issue),
      Blocks entries (.issue issue) → ofEntries .usual path entries =
        .error (.error { cause := .configuration (issue.message path) }) := by
  intro h
  obtain ⟨n, hn⟩ : ∃ n : Int, n.natAbs = Nat.pow 10 mostDigits := ⟨_, Int.natAbs_natCast _⟩
  have hblocks : Blocks [("logging", .int n)] (.issue (.notTable "logging" (.int n))) :=
    .logging ⟨rfl, nofun⟩
  have hshow : (Issue.notTable "logging" (.int n)).hindrance? .usual = some .unshowable := by
    unfold Issue.hindrance? Issue.value?
    rw [Option.bind_some, Limits.usual, Value.hindrance?]
    exact if_neg (Nat.not_lt.mpr (Nat.le_of_eq hn.symm))
  have hfault : ofEntries .usual "reckon.toml" [("logging", .int n)] =
      .error (.fault .unshowable) :=
    ofEntries_eq_error_iff_isRefused.mpr (.unshowable hblocks hshow)
  rw [h _ _ _ hblocks] at hfault
  cases hfault

end Calculator.Settings
