import Calculator.Version
import Mathlib.Data.List.TakeWhile

/-!
# The version that a description states

An assignment of a version is described by how it is spelled (`IsAssignment`), and is read where a
text begins with one (`assigned?_eq_some_iff`).  The version of a project is that of the earliest
assignment at the start of a line, whatever looks like one before it, and only a description without
any leaves it to the package that is installed (`find_earliest`).
-/

namespace Calculator.Version

open Calculator.Text

/-! ### Quotes and blanks -/

theorem isQuote_iff {c : Char} : isQuote c = true ↔ c = '"' ∨ c = '\'' := by
  unfold isQuote
  rw [Bool.or_eq_true, beq_iff_eq, beq_iff_eq]

theorem isQuote_eq_false_iff {c : Char} : isQuote c = false ↔ c ≠ '"' ∧ c ≠ '\'' := by
  rw [Bool.eq_false_iff, Ne, isQuote_iff, not_or]

theorem not_isBlank_of_isQuote {c : Char} (h : isQuote c = true) : isBlank c = false := by
  rcases isQuote_iff.mp h with rfl | rfl
  · rfl
  · rfl

/-- Blanks are dropped up to a character that is none. -/
theorem dropWhile_isBlank_iff {cs rest : List Char} {c : Char} (hc : isBlank c = false) :
    cs.dropWhile isBlank = c :: rest ↔
      ∃ gap, (∀ d ∈ gap, isBlank d = true) ∧ cs = gap ++ c :: rest := by
  constructor
  · intro h
    refine ⟨cs.takeWhile isBlank, fun d hd => List.mem_takeWhile_imp hd, ?_⟩
    rw [← h, List.takeWhile_append_dropWhile]
  · rintro ⟨gap, hgap, rfl⟩
    rw [List.dropWhile_append_of_pos hgap, List.dropWhile_cons_of_neg (by simp [hc])]

/-! ### The parts of an assignment -/

theorem behind?_eq_some_iff {start cs rest : List Char} :
    behind? start cs = some rest ↔ cs = start ++ rest := by
  induction start generalizing cs with
  | nil =>
    rw [behind?, Option.some.injEq]
    rfl
  | cons p ps ih =>
    cases cs with
    | nil => simp [behind?]
    | cons c cs =>
      rw [behind?]
      split
      · next h => rw [ih, h, List.cons_append, List.cons.injEq, and_iff_right rfl]
      · next h => simp [Ne.symm h]

/-- A quotation is what stands between two quotes: something, but no quote of either kind. -/
theorem quotation?_eq_some_iff {cs body : List Char} :
    quotation? cs = some body ↔
      ∃ first last rest, isQuote first = true ∧ isQuote last = true ∧ body ≠ [] ∧
        (∀ c ∈ body, isQuote c = false) ∧ cs = first :: (body ++ last :: rest) := by
  constructor
  · intro h
    cases cs with
    | nil => cases h
    | cons first cs =>
      simp only [quotation?, Option.ite_none_right_eq_some, Bool.and_eq_true,
        decide_eq_true_eq, Bool.not_eq_true', List.isEmpty_eq_false_iff, Option.some.injEq] at h
      obtain ⟨⟨⟨hfirst, hne⟩, hlt⟩, rfl⟩ := h
      have hsplit := List.takeWhile_append_dropWhile (p := (!isQuote ·)) (l := cs)
      have hplain : ∀ c ∈ cs.takeWhile (!isQuote ·), isQuote c = false := fun c hc => by
        simpa using List.mem_takeWhile_imp hc
      -- the body does not reach the end, so a quote stands behind it
      cases hdrop : cs.dropWhile (!isQuote ·) with
      | nil =>
        rw [hdrop, List.append_nil] at hsplit
        rw [hsplit] at hlt
        exact absurd hlt (Nat.lt_irrefl _)
      | cons last rest =>
        have hlast := List.head?_dropWhile_not (!isQuote ·) cs
        rw [hdrop] at hlast
        refine ⟨first, last, rest, hfirst, by simpa using hlast, hne, hplain, ?_⟩
        rw [← hdrop, hsplit]
  · rintro ⟨first, last, rest, hfirst, hlast, hne, hplain, rfl⟩
    have hbody : (body ++ last :: rest).takeWhile (!isQuote ·) = body := by
      rw [List.takeWhile_append_of_pos (by simpa using hplain),
        List.takeWhile_cons_of_neg (by simp [hlast]), List.append_nil]
    simp [quotation?, hbody, hfirst, hne]

/-! ### Assignments -/

/-- Whether a text begins with an assignment: `version`, an equals sign and a version between two
quotes, which may be of different kinds.  There may be blanks, line ends among them, before and
behind the equals sign; the version has at least one character and no quote of either kind. -/
structure IsAssignment (cs gap gap' version rest : List Char) (first last : Char) : Prop where
  split : cs = "version".toList ++ (gap ++ '=' :: (gap' ++ first :: (version ++ last :: rest)))
  gap_blank : ∀ c ∈ gap, isBlank c = true
  gap'_blank : ∀ c ∈ gap', isBlank c = true
  first_quote : first = '"' ∨ first = '\''
  last_quote : last = '"' ∨ last = '\''
  version_ne_nil : version ≠ []
  version_plain : ∀ c ∈ version, c ≠ '"' ∧ c ≠ '\''

/-- Whether a text begins with an assignment of the given version. -/
def Assigns (cs version : List Char) : Prop :=
  ∃ gap gap' rest first last, IsAssignment cs gap gap' version rest first last

theorem assigned?_eq_some_iff {cs version : List Char} :
    assigned? cs = some version ↔ Assigns cs version := by
  have hequals : isBlank '=' = false := by decide
  unfold assigned?
  constructor
  · intro h
    obtain ⟨behindKey, hkey, h⟩ := Option.bind_eq_some_iff.mp h
    obtain ⟨behindSign, hsign, h⟩ := Option.bind_eq_some_iff.mp h
    obtain ⟨gap, hgap, hgapSplit⟩ :=
      (dropWhile_isBlank_iff hequals).mp (behind?_eq_some_iff.mp hsign)
    obtain ⟨first, last, rest, hfirst, hlast, hne, hplain, hquotation⟩ :=
      quotation?_eq_some_iff.mp h
    obtain ⟨gap', hgap', hgapSplit'⟩ :=
      (dropWhile_isBlank_iff (not_isBlank_of_isQuote hfirst)).mp hquotation
    refine ⟨gap, gap', rest, first, last, ?_, hgap, hgap', isQuote_iff.mp hfirst,
      isQuote_iff.mp hlast, hne, fun c hc => isQuote_eq_false_iff.mp (hplain c hc)⟩
    rw [behind?_eq_some_iff.mp hkey, hgapSplit, hgapSplit']
    rfl
  · rintro ⟨gap, gap', rest, first, last, h⟩
    have hfirst : isQuote first = true := isQuote_iff.mpr h.first_quote
    refine Option.bind_eq_some_iff.mpr ⟨_, behind?_eq_some_iff.mpr h.split,
      Option.bind_eq_some_iff.mpr ⟨_, behind?_eq_some_iff.mpr
        ((dropWhile_isBlank_iff hequals).mpr ⟨gap, h.gap_blank, rfl⟩), ?_⟩⟩
    rw [quotation?_eq_some_iff]
    refine ⟨first, last, rest, hfirst, isQuote_iff.mpr h.last_quote, h.version_ne_nil,
      fun c hc => isQuote_eq_false_iff.mpr (h.version_plain c hc), ?_⟩
    exact (dropWhile_isBlank_iff (not_isBlank_of_isQuote hfirst)).mpr ⟨gap', h.gap'_blank, rfl⟩

theorem Assigns.unique {cs version version' : List Char} (h : Assigns cs version)
    (h' : Assigns cs version') : version = version' := by
  rw [← assigned?_eq_some_iff] at h h'
  rw [h, Option.some.injEq] at h'
  exact h'

/-! ### The earliest assignment -/

/-- Whether a version is assigned at the start of a line, behind the given part of the text. -/
structure AssignsBehind (cs before version : List Char) : Prop where
  starts_line : ∀ c, before.getLast? = some c → c = '\n'
  assigns : ∃ rest, cs = before ++ rest ∧ Assigns rest version

theorem assignsBehind_nil_iff {cs version : List Char} :
    AssignsBehind cs [] version ↔ Assigns cs version := by
  constructor
  · rintro ⟨-, rest, rfl, hrest⟩
    exact hrest
  · intro h
    exact ⟨by simp, cs, rfl, h⟩

/-- Behind the first character, a line starts if that character ends one. -/
theorem assignsBehind_cons_iff {c d : Char} {cs before version : List Char} :
    AssignsBehind (c :: cs) (d :: before) version ↔
      d = c ∧ (before = [] → c = '\n') ∧ AssignsBehind cs before version := by
  constructor
  · rintro ⟨hline, rest, hsplit, hrest⟩
    rw [List.cons_append, List.cons.injEq] at hsplit
    obtain ⟨rfl, hsplit⟩ := hsplit
    refine ⟨rfl, ?_, fun e he => hline e ?_, rest, hsplit, hrest⟩
    · rintro rfl
      exact hline _ rfl
    · rw [List.getLast?_cons, he]
      rfl
  · rintro ⟨rfl, hstart, hline, rest, rfl, hrest⟩
    refine ⟨fun e he => ?_, rest, rfl, hrest⟩
    cases before with
    | nil =>
      cases he
      exact hstart rfl
    | cons f before =>
      rw [List.getLast?_cons_cons] at he
      exact hline e he

theorem not_assignsBehind_of_nil {before version : List Char} :
    ¬ AssignsBehind [] before version := by
  rintro ⟨-, rest, hsplit, hrest⟩
  obtain ⟨-, rfl⟩ := List.nil_eq_append_iff.mp hsplit
  have hnone : assigned? [] = some version := assigned?_eq_some_iff.mpr hrest
  cases hnone

section Search

variable {atStart : Bool} {cs version : List Char}

/-- What is tried at the first character. -/
theorem eq_assigned?_iff :
    (if atStart then assigned? cs else none) = some version ↔
      atStart = true ∧ AssignsBehind cs [] version := by
  rw [Option.ite_none_right_eq_some, assigned?_eq_some_iff, assignsBehind_nil_iff]

/-- The search misses no assignment.  It starts inside of a line unless the flag is set. -/
theorem not_assignsBehind_of_firstAssigned? (h : firstAssigned? atStart cs = none)
    {before : List Char} (hstart : before = [] → atStart = true) :
    ¬ AssignsBehind cs before version := by
  induction cs generalizing atStart before with
  | nil => exact not_assignsBehind_of_nil
  | cons c cs ih =>
    rw [firstAssigned?] at h
    split at h
    · cases h
    · next htry =>
      cases before with
      | nil =>
        intro hassigns
        rw [eq_assigned?_iff.mpr ⟨hstart rfl, hassigns⟩] at htry
        cases htry
      | cons d before =>
        rw [assignsBehind_cons_iff]
        rintro ⟨-, hline, hassigns⟩
        exact ih h (fun hnil => beq_iff_eq.mpr (hline hnil)) hassigns

/-- The search finds an assignment, and no other one stands before it. -/
theorem exists_of_firstAssigned? (h : firstAssigned? atStart cs = some version) :
    ∃ before, (before = [] → atStart = true) ∧ AssignsBehind cs before version ∧
      ∀ before' version', (before' = [] → atStart = true) →
        AssignsBehind cs before' version' → before.length ≤ before'.length := by
  induction cs generalizing atStart with
  | nil => cases h
  | cons c cs ih =>
    rw [firstAssigned?] at h
    split at h
    · next htry =>
      cases h
      obtain ⟨hstart, hassigns⟩ := eq_assigned?_iff.mp htry
      exact ⟨[], fun _ => hstart, hassigns, fun _ _ _ _ => Nat.zero_le _⟩
    · next htry =>
      -- nothing is assigned at `c`, so what comes first behind `c` comes first of all
      obtain ⟨before, hline, hassigns, hfirst⟩ := ih h
      refine ⟨c :: before, by simp, assignsBehind_cons_iff.mpr ⟨rfl, ?_, hassigns⟩, ?_⟩
      · exact fun hnil => beq_iff_eq.mp (hline hnil)
      · intro before' version' hstart hassigns'
        cases before' with
        | nil =>
          rw [eq_assigned?_iff.mpr ⟨hstart rfl, hassigns'⟩] at htry
          cases htry
        | cons d before' =>
          obtain ⟨-, hline, hassigns'⟩ := assignsBehind_cons_iff.mp hassigns'
          exact Nat.succ_le_succ
            (hfirst before' version' (fun hnil => beq_iff_eq.mpr (hline hnil)) hassigns')

end Search

/-- At one place a text assigns no two versions. -/
theorem AssignsBehind.unique {cs before before' version version' : List Char}
    (h : AssignsBehind cs before version) (h' : AssignsBehind cs before' version')
    (hlength : before.length = before'.length) : version = version' := by
  obtain ⟨-, rest, hsplit, hrest⟩ := h
  obtain ⟨-, rest', hsplit', hrest'⟩ := h'
  obtain ⟨rfl, rfl⟩ := List.append_inj (hsplit.symm.trans hsplit') hlength
  exact hrest.unique hrest'

/-- **The earliest assignment counts.**  If the description of a project, with all line ends turned
into line feeds, assigns a version at the start of a line, the version of the project is the one
that it assigns first, whatever is installed.  If it assigns none, or if there is no description,
the version is that of the package that is installed, and `0.0.0` if it is not. -/
theorem find_earliest (description : Option String) (installed : Except Fault (Option String)) :
    (∀ text before version, description = some text →
        AssignsBehind (withLineFeeds text).toList before version →
          (∀ before' version', AssignsBehind (withLineFeeds text).toList before' version' →
            before.length ≤ before'.length) →
            find description installed = .ok (String.ofList version)) ∧
      ((∀ text before version, description = some text →
          ¬ AssignsBehind (withLineFeeds text).toList before version) →
        find description installed = installed.map fun version => version.getD "0.0.0") := by
  constructor
  · rintro text before version rfl hassigns hearliest
    cases hfirst : firstAssigned? true (withLineFeeds text).toList with
    | none => exact absurd hassigns (not_assignsBehind_of_firstAssigned? hfirst fun _ => rfl)
    | some found =>
      -- both places are the earliest one, and one place has one version
      obtain ⟨before', -, hassigns', hearliest'⟩ := exists_of_firstAssigned? hfirst
      have hlength : before.length = before'.length :=
        Nat.le_antisymm (hearliest before' found hassigns')
          (hearliest' before version (fun _ => rfl) hassigns)
      rw [hassigns.unique hassigns' hlength]
      simp only [find, stated?, Option.bind_some, hfirst, Option.map_some]
  · intro hnone
    cases description with
    | none => rfl
    | some text =>
      cases hfirst : firstAssigned? true (withLineFeeds text).toList with
      | none =>
        simp only [find, stated?, Option.bind_some, hfirst, Option.map_none]
        rfl
      | some found =>
        obtain ⟨before, -, hassigns, -⟩ := exists_of_firstAssigned? hfirst
        exact absurd hassigns (hnone text before found rfl)

/-- A version that is empty and a longer key are passed over, line ends stand around the equals
sign, and the quotes are of both kinds; without the assignment the installed version counts. -/
theorem find_earliest_passedOver :
    let passedOver := "version = \"\"\nversions = '1'\r\n"
    let text := passedOver ++ "version\r=\n '1.0\"\nversion = '2'"
    (∃ before, AssignsBehind (withLineFeeds text).toList before "1.0".toList) ∧
      find (some text) (.error unreadable) = .ok "1.0" ∧
      find (some passedOver) (.ok (some "3")) = .ok "3" := by
  intro passedOver text
  have hsome : firstAssigned? true (withLineFeeds text).toList = some "1.0".toList := by
    decide +kernel
  have hnone : firstAssigned? true (withLineFeeds passedOver).toList = none := by
    decide +kernel
  obtain ⟨before, -, hassigns, hfirst⟩ := exists_of_firstAssigned? hsome
  refine ⟨⟨before, hassigns⟩, ?_, ?_⟩
  · exact (find_earliest (some text) (.error unreadable)).1 text before "1.0".toList rfl hassigns
      fun before' version' hassigns' => hfirst before' version' (fun _ => rfl) hassigns'
  · refine (find_earliest (some passedOver) (.ok (some "3"))).2 fun other before version heq => ?_
    cases heq
    exact not_assignsBehind_of_firstAssigned? hnone fun _ => rfl

end Calculator.Version
