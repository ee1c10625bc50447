import Calculator.Proofs.Assignment.Checks
import Calculator.Proofs.Calculation.Agreement
import Calculator.Proofs.Calculation.Composition
import Calculator.Proofs.Decimal.Reading
import Calculator.Proofs.Resolver.Console
import Calculator.Proofs.Settings.Contents
import Calculator.Proofs.Toml.Definition

/-!
# Names of variables

Assignments, configurations and expressions are read by functions of their own, each of which has
to decide what a name is.  They agree: a name is a text with a single token, which is a word
(`IsName`).  Whoever binds a name finds its value again in an expression, unless it is the name of a
function; and whatever an expression has for a variable can be bound (`names_agree`).
-/

namespace Calculator

open Evaluation Grammar

/-! ### Texts of one word -/

/-- Whether the tokens of a text are one word, which starts and ends with the text, and the end. -/
def IsName (name : String) : Prop :=
  ∃ t, Token.ofText name = .ok [t, Token.atEnd name.length] ∧ t.pos = 0 ∧ t.text = name ∧
    (t.kind = .variable ∨ t.kind = .function)

section Words

variable {name : String}

/-- A word is its own token. -/
theorem ofText_of_isWord (h : Text.isWord name = true) :
    ∃ t, Token.ofText name = .ok [t, Token.atEnd name.length] ∧ t.pos = 0 ∧ t.text = name ∧
      t.kind = Token.wordKind name := by
  obtain ⟨hne, hletters⟩ := Text.isWord_iff.mp h
  obtain ⟨c, cs, rfl⟩ : ∃ c cs, name = String.ofList (c :: cs) := by
    obtain ⟨c, cs, hcs⟩ := List.exists_cons_of_ne_nil (mt String.toList_eq_nil_iff.mp hne)
    exact ⟨c, cs, by rw [← hcs, String.ofList_toList]⟩
  rw [String.toList_ofList] at hletters
  let t := Token.ofChars (Token.wordKind (String.ofList (c :: cs))) c cs 0 (Token.wordKind_ne_eof _)
  have hcovers : Token.Covers (String.ofList (c :: cs)).toList 0 [t] := by
    rw [String.toList_ofList]
    exact Token.covers_word hletters
  refine ⟨t, Token.ofText_eq_ok_iff_covers.mpr ⟨_, hcovers, ?_⟩, rfl, rfl, rfl⟩
  rw [String.length_toList]
  rfl

/-- The spelling of a variable or a function is a word. -/
theorem isWord_of_fits {cs : List Char} {t : Token} (h : Token.Fits cs t)
    (hkind : t.kind = .variable ∨ t.kind = .function) : Text.isWord t.text = true := by
  have hrun : Token.IsRun Text.isLetter cs t := by
    have hshaped := h.shaped
    unfold Token.IsShaped at hshaped
    rcases hkind with hkind | hkind
    · rw [hkind] at hshaped
      exact hshaped.1
    · rw [hkind] at hshaped
      exact hshaped.1
  exact Text.isWord_iff.mpr ⟨h.text_ne_empty, hrun.all⟩

/-- A token of a text that is a variable or a function is spelled by a word. -/
theorem isWord_of_mem {source : String} {tokens : List Token} {t : Token}
    (hlex : Token.ofText source = .ok tokens) (ht : t ∈ tokens)
    (hkind : t.kind = .variable ∨ t.kind = .function) : Text.isWord t.text = true := by
  obtain ⟨body, hcovers, rfl⟩ := Token.ofText_eq_ok_iff_covers.mp hlex
  rcases List.mem_append.mp ht with hbody | hlast
  · exact isWord_of_fits (hcovers.fits t hbody).2 hkind
  · rw [List.mem_singleton.mp hlast] at hkind
    rcases hkind with hkind | hkind <;> cases hkind

/-- The names are the words. -/
theorem isName_iff_isWord : IsName name ↔ Text.isWord name = true := by
  constructor
  · rintro ⟨t, hlex, -, rfl, hkind⟩
    exact isWord_of_mem hlex (List.mem_cons_self ..) hkind
  · intro h
    obtain ⟨t, hlex, hpos, htext, hkind⟩ := ofText_of_isWord h
    refine ⟨t, hlex, hpos, htext, ?_⟩
    rw [hkind]
    unfold Token.wordKind
    split
    · exact .inr rfl
    · exact .inl rfl

theorem kind_of_isWord {t : Token} (h : Text.isWord name = true)
    (ht : Token.ofText name = .ok [t, Token.atEnd name.length]) :
    t.kind = if name ∈ Token.functionNames then .function else .variable := by
  obtain ⟨t', hlex, -, -, hkind⟩ := ofText_of_isWord h
  obtain rfl : t = t' := (List.cons.inj (Except.ok.inj (ht.symm.trans hlex))).1
  rw [hkind, Token.wordKind]

/-- The variables of a text are words. -/
theorem isWord_of_hasVariable {source : String} (h : HasVariable source name) :
    Text.isWord name = true := by
  obtain ⟨tokens, hlex, t, ht, hkind, rfl⟩ := h
  exact isWord_of_mem hlex ht (.inl hkind)

end Words

/-! ### Names that configurations define -/

namespace Settings

/-- Whether a configuration text gives numbers to the given variables, and nothing is wrong with it
unless one of their names is. -/
def Defines (limits : Limits) (text : String) (definitions : List (String × Value)) : Prop :=
  ∃ entries logging prompt, Toml.read limits.room (Text.withLineFeeds text) = .ok entries ∧
    IsSection entries "logging" logging ∧ IsSection entries "prompt" prompt ∧ HasLevel logging ∧
    IsSection entries "variables" definitions ∧
    ∀ entry ∈ definitions, isNumber entry.2 = true ∧ ∃ x, entry.2.toFloat = .ok x

variable {limits : Limits} {text path name : String} {definitions : List (String × Value)}

theorem exists_ofText_iff (h : Defines limits text definitions) (path : String) :
    (∃ settings, ofText limits path text = .ok settings) ↔
      ∀ entry ∈ definitions, Text.isWord entry.1 = true := by
  obtain ⟨entries, logging, prompt, hread, hlogging, hprompt, hlevel, hdefinitions, hnumbers⟩ := h
  have htext : ofText limits path text = ofEntries limits path entries := by
    rw [ofText, hread]
  rw [htext]
  constructor
  · rintro ⟨settings, hsettings⟩
    obtain ⟨_, _, definitions', horder, -⟩ :=
      (ofEntries_eq_ok_iff (Toml.isDistinct_of_read_eq_ok hread)).mp hsettings
    have hsame : (.ok definitions' : Except Issue _) = .ok definitions := by
      rw [← section?_eq_ok_iff.mpr horder.hasDefinitions, section?_eq_ok_iff.mpr hdefinitions]
    cases hsame
    exact fun entry hentry => (horder.areVariables entry hentry).word
  · intro hwords
    refine exists_ofEntries_of_isInOrder limits path ⟨hlogging, hprompt, hlevel, hdefinitions, ?_⟩
    exact fun entry hentry => ⟨(hnumbers entry hentry).1, hwords entry hentry,
      (hnumbers entry hentry).2⟩

theorem toFloat_one : (Value.int 1).toFloat = .ok 1.0 := by
  decide +kernel

/-- Every text can stand in the place of a name. -/
theorem defines_definitionText (limits : Limits) (name : String) :
    Defines limits (Toml.definitionText name) [(name, .int 1)] := by
  refine ⟨_, [], [], Toml.read_withLineFeeds_definitionText name limits.room, .absent rfl,
    .absent rfl, nofun, .table rfl, ?_⟩
  · intro entry hentry
    rw [List.mem_singleton.mp hentry]
    exact ⟨rfl, 1.0, toFloat_one⟩

/-- A word is given the number of its definition. -/
theorem exists_ofText_definitionText (limits : Limits) (path : String)
    (h : Text.isWord name = true) :
    ∃ settings, ofText limits path (Toml.definitionText name) = .ok settings ∧
      settings.bindings.get? name = some 1.0 := by
  have hread := Toml.read_withLineFeeds_definitionText name limits.room
  let settings : Settings :=
    { path := some path, bindings := ⟨[(name, 1.0)], by simp⟩ }
  have hvariable : IsVariable name (.int 1) := ⟨rfl, h, 1.0, toFloat_one⟩
  have horder : IsInOrder [("variables", .table [(name, .int 1)])] [] [] [(name, .int 1)] :=
    ⟨.absent rfl, .absent rfl, nofun, .table rfl,
      fun entry hentry => List.mem_singleton.mp hentry ▸ hvariable⟩
  have hholds : Holds path [] [] [(name, .int 1)] settings :=
    ⟨rfl, rfl, .cons ⟨rfl, toFloat_one⟩ .nil, rfl⟩
  refine ⟨settings, ?_, Bindings.get?_of_mem (List.mem_singleton_self _)⟩
  rw [ofText, hread]
  exact (ofEntries_eq_ok_iff (Toml.isDistinct_of_read_eq_ok hread)).mpr
    ⟨[], [], _, horder, hholds⟩

/-- The names of settings are words. -/
theorem isWord_of_get? {settings : Settings} {x : Float}
    (h : ofText limits path text = .ok settings) (hx : settings.bindings.get? name = some x) :
    Text.isWord name = true := by
  obtain ⟨entries, hread, hentries⟩ :
      ∃ entries, Toml.read limits.room (Text.withLineFeeds text) = .ok entries ∧
        ofEntries limits path entries = .ok settings := by
    unfold ofText at h
    split at h
    · next entries hread => exact ⟨entries, hread, h⟩
    all_goals cases h
  obtain ⟨_, _, definitions, horder, hholds⟩ :=
    (ofEntries_eq_ok_iff (Toml.isDistinct_of_read_eq_ok hread)).mp hentries
  -- every binding has the name of a definition
  obtain ⟨earlier, later, hsplit, -⟩ := List.lookup_eq_some_iff.mp hx
  have hmem : name ∈ definitions.map Prod.fst := by
    rw [← names_of_converts hholds.bindings, hsplit]
    simp
  obtain ⟨entry, hentry, rfl⟩ := List.mem_map.mp hmem
  exact (horder.areVariables entry hentry).word

end Settings

/-! ### Names that assignments bind -/

namespace Assignment

variable {name value : String} {x : Float}

/-- Of an assignment with a number and a name that is written without anything else, only the name
can be wrong. -/
theorem exists_ofText_iff (hstrip : Text.strip name = name) (hsign : '=' ∉ name.toList)
    (hvalue : Decimal.float? value = some x) :
    (∃ entry, ofText (name ++ "=" ++ value) = .ok entry) ↔ Text.isWord name = true := by
  have hsplits : Splits (name ++ "=" ++ value) name value := ⟨name, rfl, hsign, hstrip⟩
  rw [ofText_of_splits hsplits, hvalue]
  constructor
  · rintro ⟨entry, h⟩
    split at h
    · cases h
    · split at h
      · assumption
      · cases h
  · intro hword
    rw [if_neg (Text.isWord_iff.mp hword).1, if_pos hword]
    exact ⟨_, rfl⟩

/-- If all other texts are assignments, it depends on one of them whether bindings are made. -/
theorem exists_bindings_iff {earlier later : List String} {text : String}
    (hothers : ∀ other ∈ earlier ++ later, ∃ entry, ofText other = .ok entry) :
    (∃ b, bindings (earlier ++ text :: later) = .ok b) ↔ ∃ entry, ofText text = .ok entry := by
  have hall : (∃ b, bindings (earlier ++ text :: later) = .ok b) ↔
      ∀ other ∈ earlier ++ text :: later, ∃ entry, ofText other = .ok entry := by
    unfold bindings
    simp only [map_eq_ok, ← exists_mapM_eq_ok_iff]
    constructor
    · rintro ⟨b, entries, hentries, -⟩
      exact ⟨entries, hentries⟩
    · rintro ⟨entries, hentries⟩
      exact ⟨_, entries, hentries, rfl⟩
  rw [hall]
  constructor
  · exact fun h => h text (by simp)
  · intro htext other hother
    rcases List.mem_append.mp hother with hearlier | hlater
    · exact hothers other (List.mem_append_left _ hearlier)
    · rcases List.mem_cons.mp hlater with rfl | hlater
      · exact htext
      · exact hothers other (List.mem_append_right _ hlater)

/-- A word is bound to any number. -/
theorem bindings_of_isWord (h : Text.isWord name = true) (hvalue : Decimal.float? value = some x) :
    ∃ b, bindings [name ++ "=" ++ value] = .ok b ∧ b.get? name = some x := by
  obtain ⟨hne, hletters⟩ := Text.isWord_iff.mp h
  have hstrip : Text.strip name = name := by
    refine Decimal.trim_eq_self fun c hc => Bool.eq_false_iff.mpr fun hblank => ?_
    have hletter := hletters c hc
    rw [Token.not_isLetter_of_isBlank hblank] at hletter
    cases hletter
  have hsign : '=' ∉ name.toList := by
    intro hmem
    have hletter := hletters '=' hmem
    revert hletter
    decide +kernel
  have htext : ofText (name ++ "=" ++ value) = .ok (name, x) :=
    ofText_eq_ok_iff_isAssignment.mpr ⟨⟨value, ⟨name, rfl, hsign, hstrip⟩, hvalue⟩, hne, hletters⟩
  refine ⟨.ofList [(name, x)], ?_, ?_⟩
  · rw [bindings, List.mapM_cons, htext]
    rfl
  · rw [Bindings.get?_ofList]
    simp

/-- The names that assignments bind are words. -/
theorem isWord_of_get? {texts : List String} {b : Bindings Float} (h : bindings texts = .ok b)
    (hx : b.get? name = some x) : Text.isWord name = true := by
  obtain ⟨entries, hentries, rfl⟩ := map_eq_ok.mp h
  rw [Bindings.get?_ofList] at hx
  obtain ⟨earlier, later, hsplit, -⟩ := List.lookup_eq_some_iff.mp hx
  have hmem : (name, x) ∈ entries := by
    rw [← List.mem_reverse, hsplit]
    simp
  obtain ⟨text, -, htext⟩ := exists_of_mem_mapM hentries hmem
  have hassignment := ofText_eq_ok_iff_isAssignment.mp htext
  exact Text.isWord_iff.mpr ⟨hassignment.name_ne_empty, hassignment.letters⟩

end Assignment

/-! ### Names that are calculated -/

/-- Whether bindings are those of assignments or of a configuration that are accepted, or of several
such with one another. -/
inductive AreAccepted : Bindings Float → Prop
  | assigned {texts : List String} {b : Bindings Float} (h : Assignment.bindings texts = .ok b) :
      AreAccepted b
  | configured {limits : Limits} {path text : String} {settings : Settings}
      (h : Settings.ofText limits path text = .ok settings) : AreAccepted settings.bindings
  | union {first second : Bindings Float} (h : AreAccepted first) (h' : AreAccepted second) :
      AreAccepted (first.union second)

section Calculated

variable {name : String} {x : Float}

theorem isWord_of_areAccepted {b : Bindings Float} (h : AreAccepted b)
    (hx : b.get? name = some x) : Text.isWord name = true := by
  induction h with
  | assigned h => exact Assignment.isWord_of_get? h hx
  | configured h => exact Settings.isWord_of_get? h hx
  | union _ _ ih ih' =>
    rw [Bindings.get?_union, Option.or_eq_some_iff] at hx
    rcases hx with hx | ⟨-, hx⟩
    · exact ih' hx
    · exact ih hx

/-- A name that is no function is calculated to whatever a resolver answers to it. -/
theorem result_calculateWithin_of_isWord {σ : Type} (R : Resolver σ) (limit : Nat) {state : σ}
    (hword : Text.isWord name = true) (hname : name ∉ Token.functionNames)
    (hanswer : (R.resolve state name).answer = .ok (.float x)) :
    (calculateWithin R limit state name).result = .ok x := by
  obtain ⟨t, hlex, -, htext, -⟩ := ofText_of_isWord hword
  have hkind : t.kind = .variable := by rw [kind_of_isWord hword hlex, if_neg hname]
  let e : Expression := .single (.single (.variable t hkind))
  have hmeaning : (e.meaning R { state }).1 = .ok x := by
    show (Transcript.query R { state } t).1 = .ok x
    rw [fst_query, htext, hanswer]
    rfl
  have hlexTree : Token.ofText name = .ok (e.tokens ++ [Token.atEnd name.length]) := hlex
  rw [result_calculateWithin hlexTree,
    result_of_tree (Nat.zero_le limit) (isTerminated_of_ofText hlexTree), hmeaning]
  rfl

/-- **Everyone agrees on what a name is**: a text whose tokens are a single word, which starts and
ends with the text.  A configuration in which nothing but this name can be wrong is accepted exactly
if it is one, and any text can stand in its place; assignments of which nothing but this name can be
wrong are accepted exactly if it is one.  The word is a variable unless it names a function.  A name
that is bound in either way, or in both, is calculated to its value, whether or not the user may be
asked for others.  Every name can be bound in both ways, and so can every variable that a text has.
The names of functions are among them, but no text makes a calculation query these. -/
theorem names_agree (limits : Limits) (name : String) :
    (∀ path text definitions, Settings.Defines limits text definitions →
      name ∈ definitions.map Prod.fst →
      (∀ other ∈ definitions.map Prod.fst, other ≠ name → IsName other) →
        ((∃ settings, Settings.ofText limits path text = .ok settings) ↔ IsName name)) ∧
      Settings.Defines limits (Toml.definitionText name) [(name, .int 1)] ∧
      (∀ earlier later value x, (∀ text ∈ earlier ++ later, ∃ entry,
          Assignment.ofText text = .ok entry) →
        Text.strip name = name → '=' ∉ name.toList → Decimal.float? value = some x →
          ((∃ b, Assignment.bindings (earlier ++ (name ++ "=" ++ value) :: later) = .ok b) ↔
            IsName name)) ∧
      (∀ t, IsName name → Token.ofText name = .ok [t, Token.atEnd name.length] →
        t.kind = if name ∈ Token.functionNames then .function else .variable) ∧
      (∀ b x, AreAccepted b → b.get? name = some x → name ∉ Token.functionNames →
        ∀ limit answers,
          (calculateWithin Resolver.table limit (b.map .float) name).result = .ok x ∧
            (calculateWithin Console.resolver limit { known := b.map .float, answers }
              name).result = .ok x) ∧
      (IsName name →
        (∀ value x, Decimal.float? value = some x →
          ∃ b, Assignment.bindings [name ++ "=" ++ value] = .ok b ∧ b.get? name = some x) ∧
        ∀ path, ∃ settings,
          Settings.ofText limits path (Toml.definitionText name) = .ok settings ∧
            settings.bindings.get? name = some 1.0) ∧
      (∀ source, HasVariable source name → IsName name) ∧
      (name ∈ Token.functionNames → IsName name ∧
        ∀ {σ : Type} (R : Resolver σ) (limit : Nat) (state : σ) (source : String),
          name ∉ (calculateWithin R limit state source).log.queries.toList) := by
  refine ⟨?_, Settings.defines_definitionText limits name, ?_, ?_, ?_, ?_, ?_, ?_⟩
  · intro path text definitions hdefines hmem hothers
    rw [Settings.exists_ofText_iff hdefines]
    constructor
    · intro hwords
      obtain ⟨entry, hentry, rfl⟩ := List.mem_map.mp hmem
      exact isName_iff_isWord.mpr (hwords entry hentry)
    · intro hname entry hentry
      by_cases hne : entry.1 = name
      · rw [hne]
        exact isName_iff_isWord.mp hname
      · exact isName_iff_isWord.mp (hothers entry.1 (List.mem_map_of_mem hentry) hne)
  · intro earlier later value x hothers hstrip hsign hvalue
    rw [Assignment.exists_bindings_iff hothers,
      Assignment.exists_ofText_iff hstrip hsign hvalue, isName_iff_isWord]
  · intro t hname ht
    exact kind_of_isWord (isName_iff_isWord.mp hname) ht
  · intro b x hb hx hname limit answers
    have hword := isWord_of_areAccepted hb hx
    have hknown : (b.map Value.float).get? name = some (.float x) := by
      rw [Bindings.get?_map, hx]
      rfl
    constructor
    · apply result_calculateWithin_of_isWord Resolver.table limit hword hname
      rw [Resolver.resolve_table, hknown]
      rfl
    · apply result_calculateWithin_of_isWord Console.resolver limit hword hname
      rw [Console.resolve_of_known hknown]
  · intro hname
    have hword := isName_iff_isWord.mp hname
    exact ⟨fun value x hvalue => Assignment.bindings_of_isWord hword hvalue,
      fun path => Settings.exists_ofText_definitionText limits path hword⟩
  · exact fun source hvariable => isName_iff_isWord.mpr (isWord_of_hasVariable hvariable)
  · intro hname
    refine ⟨isName_iff_isWord.mpr ?_, fun R limit state source hquery => ?_⟩
    · simp only [Token.functionNames, List.mem_cons, List.not_mem_nil, or_false] at hname
      rcases hname with rfl | rfl | rfl <;> decide +kernel
    · exact not_hasVariable_of_mem_functionNames hname (hasVariable_of_mem_queries hquery)

/-- `αβ` is a name that can be bound, and bound to 2 it is calculated to 2; `a_b` is none, so no
configuration defines it. -/
theorem names_agree_letters :
    (∃ b, Assignment.bindings ["αβ=2"] = .ok b ∧ b.get? "αβ" = some 2.0 ∧
      (calculateWithin Resolver.table Limits.usual.parentheses (b.map .float) "αβ").result =
        .ok 2.0) ∧
      Settings.Defines .usual (Toml.definitionText "a_b") [("a_b", .int 1)] ∧
      ¬ ∃ settings,
        Settings.ofText .usual "reckon.toml" (Toml.definitionText "a_b") = .ok settings := by
  have hname : IsName "αβ" := isName_iff_isWord.mpr (by decide +kernel)
  have hnoName : ¬ IsName "a_b" := by
    rw [isName_iff_isWord]
    decide +kernel
  have hvalue : Decimal.float? "2" = some 2.0 := by decide +kernel
  obtain ⟨-, -, -, -, hcalculate, hbind, -⟩ := names_agree .usual "αβ"
  obtain ⟨b, hb, hx⟩ := (hbind hname).1 "2" 2.0 hvalue
  obtain ⟨haccept, hdefines, -⟩ := names_agree .usual "a_b"
  refine ⟨⟨b, hb, hx, ?_⟩, hdefines, ?_⟩
  · exact (hcalculate b 2.0 (.assigned hb) hx (by decide) _ []).1
  · rw [haccept "reckon.toml" _ _ hdefines (List.mem_singleton_self _) (by simp)]
    exact hnoName

end Calculated

end Calculator
