import Calculator.Assignment
import Calculator.Proofs.Results
import Mathlib.Data.List.TakeWhile

/-!
# What assignments bind

An assignment has a name, a first equals sign and a value, and nothing else makes one
(`ofText_eq_ok_iff_isAssignment`); a text that is none is refused for the first of three reasons
that applies (`ofText_eq_error_iff_spoils`).  Several assignments bind each name to its last value,
in the order in which the names occur first, and the first bad text decides what is said about all
of them (`bindings_exact`).
-/

namespace Calculator.Assignment

open Calculator.Text

/-! ### One assignment -/

/-- Whether a text has the given value behind its first equals sign, and in front of it the given
name, with or without blanks around it. -/
def Splits (text name value : String) : Prop :=
  ∃ front, text = front ++ "=" ++ value ∧ '=' ∉ front.toList ∧ strip front = name

/-- Whether a text assigns a number to a name. -/
structure IsAssignment (text name : String) (x : Float) : Prop where
  splits : ∃ value, Splits text name value ∧ Decimal.float? value = some x
  name_ne_empty : name ≠ ""
  letters : ∀ c ∈ name.toList, isLetter c = true

/-- What is wrong with a text that is no assignment: first that it has no name, then that its name
does not consist of letters, and then that its value is no number. -/
inductive Spoils (text : String) : Flaw → Prop
  | noSign (h : '=' ∉ text.toList) : Spoils text (.noName text)
  | noName {value : String} (h : Splits text "" value) : Spoils text (.noName text)
  | badName {name value : String} {c : Char} (h : Splits text name value) (mem : c ∈ name.toList)
      (hc : isLetter c = false) : Spoils text (.badName name)
  | badValue {name value : String} (h : Splits text name value) (hname : name ≠ "")
      (letters : ∀ c ∈ name.toList, isLetter c = true) (hvalue : Decimal.float? value = none) :
      Spoils text (.badValue name value)

section Text

variable {text name value : String}

theorem mem_of_splits (h : Splits text name value) : '=' ∈ text.toList := by
  obtain ⟨front, rfl, -, -⟩ := h
  simp

/-- The first equals sign is where the characters in front of it come to an end. -/
theorem splits_iff : Splits text name value ↔
    '=' ∈ text.toList ∧ strip (String.ofList (text.toList.takeWhile beforeEquals)) = name ∧
      String.ofList ((text.toList.dropWhile beforeEquals).drop 1) = value := by
  constructor
  · intro h
    have hmem := mem_of_splits h
    obtain ⟨front, rfl, hfront, hname⟩ := h
    have hbefore : ∀ c ∈ front.toList, beforeEquals c = true := by
      intro c hc
      have hne : c ≠ '=' := by
        rintro rfl
        exact hfront hc
      simpa [beforeEquals] using hne
    have hlist : (front ++ "=" ++ value).toList = front.toList ++ '=' :: value.toList := by simp
    have htake : (front ++ "=" ++ value).toList.takeWhile beforeEquals = front.toList := by
      rw [hlist, List.takeWhile_append_of_pos hbefore]
      exact List.append_nil _
    have hdrop : (front ++ "=" ++ value).toList.dropWhile beforeEquals = '=' :: value.toList := by
      rw [hlist, List.dropWhile_append_of_pos hbefore]
      rfl
    refine ⟨hmem, ?_, ?_⟩
    · rw [htake, String.ofList_toList, hname]
    · rw [hdrop, List.drop_one, List.tail_cons, String.ofList_toList]
  · rintro ⟨hmem, rfl, rfl⟩
    have hsplit := List.takeWhile_append_dropWhile (p := beforeEquals) (l := text.toList)
    refine ⟨String.ofList (text.toList.takeWhile beforeEquals), ?_, ?_, rfl⟩
    · cases hrest : text.toList.dropWhile beforeEquals with
      | nil =>
        -- without a rest all characters would stand in front of an equals sign
        have hall := List.dropWhile_eq_nil_iff.mp hrest '=' hmem
        cases hall
      | cons c rest =>
        have hc : c = '=' := by
          have hfirst := List.head?_dropWhile_not beforeEquals text.toList
          rw [hrest] at hfirst
          simpa [beforeEquals] using hfirst
        rw [hrest, hc] at hsplit
        rw [List.drop_one, List.tail_cons]
        apply String.toList_inj.mp
        simpa using hsplit.symm
    · intro hfront
      rw [String.toList_ofList] at hfront
      have hno := List.mem_takeWhile_imp hfront
      cases hno

theorem exists_splits (h : '=' ∈ text.toList) : ∃ name value, Splits text name value :=
  ⟨_, _, splits_iff.mpr ⟨h, rfl, rfl⟩⟩

theorem ofText_of_notMem (h : '=' ∉ text.toList) : ofText text = .error (.noName text) := by
  unfold ofText
  exact if_pos (.inl h)

/-- The checks of a text with an equals sign, one behind the other. -/
theorem ofText_of_splits (h : Splits text name value) :
    ofText text =
      if name = "" then .error (.noName text)
      else if isWord name then
        (Decimal.float? value).elim (.error (.badValue name value)) fun x => .ok (name, x)
      else .error (.badName name) := by
  obtain ⟨hmem, hname, hvalue⟩ := splits_iff.mp h
  have hsign : ('=' ∉ text.toList ∨ name = "") ↔ name = "" :=
    or_iff_right (not_not.mpr hmem)
  unfold ofText
  rw [hname, hvalue]
  simp only [hsign, Bool.not_eq_true']
  generalize Decimal.float? value = number
  by_cases hne : name = ""
  · rw [if_pos hne, if_pos hne]
  · rw [if_neg hne, if_neg hne]
    cases isWord name with
    | false => rfl
    | true => cases number <;> rfl

theorem ofText_eq_ok_iff_isAssignment {x : Float} :
    ofText text = .ok (name, x) ↔ IsAssignment text name x := by
  constructor
  · intro h
    by_cases hmem : '=' ∈ text.toList
    · obtain ⟨name', value, hsplits⟩ := exists_splits hmem
      rw [ofText_of_splits hsplits] at h
      split at h
      · cases h
      · split at h
        · next hword =>
          obtain ⟨hne, hletters⟩ := isWord_iff.mp hword
          cases hvalue : Decimal.float? value with
          | none =>
            rw [hvalue] at h
            cases h
          | some y =>
            rw [hvalue] at h
            cases h
            exact ⟨⟨value, hsplits, hvalue⟩, hne, hletters⟩
        · cases h
    · rw [ofText_of_notMem hmem] at h
      cases h
  · rintro ⟨⟨value, hsplits, hvalue⟩, hne, hletters⟩
    have hword : isWord name = true := isWord_iff.mpr ⟨hne, hletters⟩
    rw [ofText_of_splits hsplits, if_neg hne, if_pos hword, hvalue]
    rfl

theorem ofText_eq_error_iff_spoils {flaw : Flaw} :
    ofText text = .error flaw ↔ Spoils text flaw := by
  constructor
  · intro h
    by_cases hmem : '=' ∈ text.toList
    · obtain ⟨name, value, hsplits⟩ := exists_splits hmem
      rw [ofText_of_splits hsplits] at h
      split at h
      · next hblank =>
        cases h
        exact .noName (hblank ▸ hsplits)
      · next hne =>
        split at h
        · next hword =>
          cases hvalue : Decimal.float? value with
          | none =>
            rw [hvalue] at h
            cases h
            exact .badValue hsplits hne (isWord_iff.mp hword).2 hvalue
          | some y =>
            rw [hvalue] at h
            cases h
        · next hword =>
          cases h
          -- a name that is no word has a character that is no letter
          rw [isWord_iff, not_and] at hword
          obtain ⟨c, hc⟩ := Classical.not_forall.mp (hword hne)
          obtain ⟨hmem, hletter⟩ := Classical.not_imp.mp hc
          exact .badName hsplits hmem (Bool.eq_false_iff.mpr hletter)
    · rw [ofText_of_notMem hmem] at h
      cases h
      exact .noSign hmem
  · intro h
    cases h with
    | noSign h => exact ofText_of_notMem h
    | noName h => rw [ofText_of_splits h, if_pos rfl]
    | @badName name value c h mem hc =>
      have hne : name ≠ "" := by
        rintro rfl
        cases mem
      have hword : ¬ isWord name = true := by
        intro hword
        have hletter := (isWord_iff.mp hword).2 c mem
        rw [hc] at hletter
        cases hletter
      rw [ofText_of_splits h, if_neg hne, if_neg hword]
    | badValue h hne hletters hvalue =>
      rw [ofText_of_splits h, if_neg hne, if_pos (isWord_iff.mpr ⟨hne, hletters⟩), hvalue]
      rfl

end Text

/-! ### Several assignments -/

/-- **Assignments bind what they say**: bindings are made exactly if every text is an assignment;
then the names stand in the order in which they occur first, each has the value that was assigned to
it last, and there are no others.  Otherwise the first text that is no assignment is refused for
what is wrong with it, whatever stands behind it. -/
theorem bindings_exact (texts : List String) :
    (∀ b, bindings texts = .ok b ↔
      ∃ entries : List (String × Float),
        List.Forall₂ (fun text entry => IsAssignment text entry.1 entry.2) texts entries ∧
          b.names = (entries.map Prod.fst).eraseDups ∧
          ∀ name, b.get? name = entries.reverse.lookup name) ∧
      ((∃ b, bindings texts = .ok b) ↔ ∀ text ∈ texts, ∃ name x, IsAssignment text name x) ∧
      ∀ flaw, bindings texts = .error flaw ↔
        ∃ earlier text later, texts = earlier ++ text :: later ∧
          (∀ other ∈ earlier, ∃ name x, IsAssignment other name x) ∧ Spoils text flaw := by
  have hread : ∀ text, (∃ entry, ofText text = .ok entry) ↔ ∃ name x, IsAssignment text name x := by
    intro text
    simp only [← ofText_eq_ok_iff_isAssignment, Prod.exists]
  have hrow : ∀ entries, texts.mapM ofText = .ok entries ↔
      List.Forall₂ (fun text entry => IsAssignment text entry.1 entry.2) texts entries := by
    intro entries
    simp only [mapM_eq_ok_iff, ← ofText_eq_ok_iff_isAssignment]
  refine ⟨fun b => ?_, ?_, fun flaw => ?_⟩
  · unfold bindings
    rw [map_eq_ok]
    simp only [hrow]
    constructor
    · rintro ⟨entries, hentries, rfl⟩
      exact ⟨entries, hentries, Bindings.names_ofList entries, Bindings.get?_ofList entries⟩
    · rintro ⟨entries, hentries, hnames, hget⟩
      have hsame : Bindings.ofList entries = b := by
        apply Bindings.eq_of_names_of_get?
        · rw [Bindings.names_ofList, hnames]
        · intro name
          rw [Bindings.get?_ofList, hget]
      exact ⟨entries, hentries, hsame⟩
  · unfold bindings
    simp only [map_eq_ok, ← hread, ← exists_mapM_eq_ok_iff]
    constructor
    · rintro ⟨b, entries, hentries, -⟩
      exact ⟨entries, hentries⟩
    · rintro ⟨entries, hentries⟩
      exact ⟨_, entries, hentries, rfl⟩
  · unfold bindings
    rw [map_eq_error, mapM_eq_error_iff]
    simp only [hread, ofText_eq_error_iff_spoils]

end Calculator.Assignment
