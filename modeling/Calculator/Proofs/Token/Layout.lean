import Calculator.Proofs.Token.Concatenation
import Mathlib.Data.List.Chain

/-!
# Other layouts of the same tokens

The tokens of a text may be laid out in another way: spelled in their order, with gaps of blanks
between them.  A gap may be left out unless it keeps apart two numbers or two names (`NeedsGap`).
The new text has the same tokens at their new positions (`ofText_laidOut`).
-/

namespace Calculator.Token

open Calculator.Text

/-- Tokens with a gap behind each of them, written one after the other. -/
def laidOut : List (Token × String) → String
  | [] => ""
  | (t, gap) :: row => t.text ++ gap ++ laidOut row

/-- The tokens at the positions where they are laid out, from the position `n` on. -/
def arranged (n : Nat) : List (Token × String) → List Token
  | [] => []
  | (t, gap) :: row => t.located n :: arranged (n + t.text.length + gap.length) row

/-- Whether a token is a word. -/
def IsWord (t : Token) : Prop :=
  t.kind = .variable ∨ t.kind = .function

/-- Whether two tokens run into each other unless there is a gap between them. -/
def NeedsGap (t u : Token) : Prop :=
  t.kind = .number ∧ u.kind = .number ∨ t.IsWord ∧ u.IsWord

instance (t : Token) : Decidable t.IsWord :=
  inferInstanceAs (Decidable (_ ∨ _))

instance (t u : Token) : Decidable (NeedsGap t u) :=
  inferInstanceAs (Decidable (_ ∨ _))

/-! ### The classes of characters in tokens -/

section Classes

variable {cs : List Char} {t : Token} {c : Char}

/-- What stands in a token that is neither a number nor a word is part of no run. -/
theorem Fits.cases_of_mem (hf : Fits cs t) (hc : c ∈ t.text.toList) :
    t.kind = .number ∧ inNumber c = true ∨ t.IsWord ∧ isLetter c = true ∨ EndsRuns c := by
  have hmark : ∀ d kind, markKind? d = some kind → t.text = String.singleton d → EndsRuns c := by
    intro d kind hd htext
    rw [htext, String.toList_singleton, List.mem_singleton] at hc
    exact hc ▸ endsRuns_of_markKind? hd
  have hs := hf.shaped
  unfold IsShaped at hs
  split at hs
  · next hk => exact .inl ⟨hk, hs.all c hc⟩
  · next hk => exact .inr (.inl ⟨.inl hk, hs.1.all c hc⟩)
  · next hk => exact .inr (.inl ⟨.inr hk, hs.1.all c hc⟩)
  · simp only [List.mem_cons, List.not_mem_nil, or_false] at hs
    rcases hs with h | h | h | h
    · exact .inr (.inr (hmark '+' _ rfl h))
    · exact .inr (.inr (hmark '-' _ rfl h))
    · exact .inr (.inr (hmark '*' _ rfl h))
    · exact .inr (.inr (hmark '/' _ rfl h))
  · exact .inr (.inr (hmark '(' _ rfl hs))
  · exact .inr (.inr (hmark ')' _ rfl hs))
  · exact hs.elim

theorem Fits.kind_of_inNumber (hf : Fits cs t) (hc : c ∈ t.text.toList) (h : inNumber c = true) :
    t.kind = .number := by
  rcases hf.cases_of_mem hc with ⟨hk, -⟩ | ⟨-, hletter⟩ | hends
  · exact hk
  · rw [not_inNumber_of_isLetter hletter] at h
    cases h
  · rw [hends.1] at h
    cases h

theorem Fits.isWord_of_isLetter (hf : Fits cs t) (hc : c ∈ t.text.toList)
    (h : isLetter c = true) : t.IsWord := by
  rcases hf.cases_of_mem hc with ⟨-, hnumber⟩ | ⟨hw, -⟩ | hends
  · rw [not_inNumber_of_isLetter h] at hnumber
    cases hnumber
  · exact hw
  · rw [hends.2] at h
    cases h

end Classes

/-! ### Tokens that are laid out -/

theorem arranged_add (m n : Nat) (row : List (Token × String)) :
    arranged (m + n) row = (arranged n row).map (shifted m) := by
  induction row generalizing n with
  | nil => rfl
  | cons entry row ih =>
    obtain ⟨t, gap⟩ := entry
    rw [arranged, arranged, List.map_cons, ← ih, Nat.add_assoc m n, Nat.add_assoc m (n + _)]
    rfl

theorem toList_laidOut_cons (t : Token) (gap : String) (row : List (Token × String)) :
    (laidOut ((t, gap) :: row)).toList =
      t.text.toList ++ (gap.toList ++ (laidOut row).toList) := by
  rw [laidOut, String.toList_append, String.toList_append, List.append_assoc]

/-- Between a token and the next one is a seam if there is a gap, or if none is needed. -/
theorem seam_laidOut {cs : List Char} {t : Token} {gap : String} {row : List (Token × String)}
    (hf : Fits cs t) (hfits : ∀ entry ∈ row, Fits cs entry.1)
    (hblank : ∀ c ∈ gap.toList, isBlank c = true)
    (hgap : ∀ entry ∈ row.head?, NeedsGap t entry.1 → gap ≠ "") :
    Seam (t.text.toList ++ (gap.toList ++ (laidOut row).toList)) t.text.toList.length := by
  cases hg : gap.toList with
  | cons c rest =>
    refine seam_of_head? fun d hd => ?_
    rw [List.cons_append, List.head?_cons, Option.some.injEq] at hd
    subst hd
    exact endsRuns_of_isBlank (hblank c (by rw [hg]; exact List.mem_cons_self ..))
  | nil =>
    have hempty : gap = "" := by rwa [String.toList_eq_nil_iff] at hg
    cases row with
    | nil => exact seam_of_head? fun d hd => by cases hd
    | cons entry row =>
      obtain ⟨u, gap'⟩ := entry
      have hneeds : ¬ NeedsGap t u := fun h => hgap _ rfl h hempty
      have hu := hfits _ (List.mem_cons_self ..)
      refine seam_append fun p hp c d hc hd hpd => ?_
      rw [Bool.eq_false_iff]
      intro hpc
      have hct := List.mem_of_getLast? hc
      have hdu : d ∈ u.text.toList := by
        have hne : u.text.toList ≠ [] := by
          rw [Ne, String.toList_eq_nil_iff]
          exact hu.text_ne_empty
        rw [List.nil_append, toList_laidOut_cons, List.head?_append_of_ne_nil _ hne] at hd
        exact List.mem_of_head? hd
      rcases hp with rfl | rfl
      · exact hneeds (.inl ⟨hf.kind_of_inNumber hct hpc, hu.kind_of_inNumber hdu hpd⟩)
      · exact hneeds (.inr ⟨hf.isWord_of_isLetter hct hpc, hu.isWord_of_isLetter hdu hpd⟩)

/-- Tokens that are laid out are the tokens of the text that they are laid out as. -/
theorem covers_laidOut {cs : List Char} {row : List (Token × String)}
    (hfits : ∀ entry ∈ row, Fits cs entry.1)
    (hblank : ∀ entry ∈ row, ∀ c ∈ entry.2.toList, isBlank c = true)
    (hgaps : row.IsChain fun entry next => NeedsGap entry.1 next.1 → entry.2 ≠ "") :
    Covers (laidOut row).toList 0 (arranged 0 row) := by
  induction row with
  | nil => exact covers_empty
  | cons entry row ih =>
    obtain ⟨t, gap⟩ := entry
    obtain ⟨hgap, hgaps⟩ := List.isChain_cons.mp hgaps
    have hft := hfits _ (List.mem_cons_self ..)
    have hfr := fun entry he => hfits entry (List.mem_cons_of_mem _ he)
    have hbt := hblank _ (List.mem_cons_self ..)
    have hrow := ih hfr (fun entry he => hblank entry (List.mem_cons_of_mem _ he)) hgaps
    have hbehind := (covers_nil hbt).append hrow
      (seam_of_getLast? fun c hc => endsRuns_of_isBlank (hbt c (List.mem_of_getLast? hc)))
    have hall := (covers_toList hft).append hbehind (seam_laidOut hft hfr hbt hgap)
    have hrest : arranged (0 + t.text.length + gap.length) row =
        ((arranged 0 row).map (shifted gap.length)).map (shifted t.text.length) := by
      rw [← arranged_add, ← arranged_add, Nat.zero_add, Nat.add_zero]
    rw [toList_laidOut_cons, arranged, hrest]
    rwa [List.nil_append, String.length_toList, String.length_toList, List.singleton_append]
      at hall

/-- Tokens stand where the text in front of them ends. -/
theorem getElem?_arranged {n i : Nat} {t : Token} {gap : String} {row : List (Token × String)}
    (h : row[i]? = some (t, gap)) :
    (arranged n row)[i]? = some (t.located (n + (laidOut (row.take i)).length)) := by
  induction row generalizing n i with
  | nil => cases h
  | cons entry row ih =>
    obtain ⟨u, gap'⟩ := entry
    cases i with
    | zero =>
      cases h
      rfl
    | succ i =>
      rw [List.getElem?_cons_succ] at h
      rw [arranged, List.getElem?_cons_succ, ih h, List.take_succ_cons, laidOut,
        String.length_append, String.length_append]
      congr 2
      omega

/-- **The same tokens may be laid out in another way**: if the gaps are blanks, and none is left out
that is needed, the text has the same tokens again, each where its spelling stands, and the end. -/
theorem ofText_laidOut {cs : List Char} {first : String} {row : List (Token × String)}
    (hfits : ∀ entry ∈ row, Fits cs entry.1)
    (hblank : ∀ gap ∈ first :: row.map Prod.snd, ∀ c ∈ gap.toList, isBlank c = true)
    (hgaps : row.IsChain fun entry next => NeedsGap entry.1 next.1 → entry.2 ≠ "") :
    ofText (first ++ laidOut row) =
      .ok (arranged first.length row ++ [atEnd (first ++ laidOut row).length]) := by
  have hfirst := hblank first (List.mem_cons_self ..)
  have hrow := covers_laidOut hfits
    (fun entry he => hblank entry.2 (List.mem_cons_of_mem _ (List.mem_map_of_mem he))) hgaps
  have hall := (covers_nil hfirst).append hrow
    (seam_of_getLast? fun c hc => endsRuns_of_isBlank (hfirst c (List.mem_of_getLast? hc)))
  rw [List.nil_append, String.length_toList, ← arranged_add, Nat.add_zero] at hall
  refine ofText_eq_ok_iff_covers.mpr ⟨_, ?_, by rw [String.length_toList]⟩
  rwa [String.toList_append]

end Calculator.Token
