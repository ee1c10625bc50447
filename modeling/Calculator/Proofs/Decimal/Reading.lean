import Calculator.Decimal.Reading
import Calculator.Proofs.Text.Classes
import Mathlib.Data.List.TakeWhile

/-!
# Reading digits and points

A text of digits and points is a written number exactly if it has a digit and no second point
(`numeral?_of_inNumber`); none of the other parts of a written number, such as signs, exponents,
low lines and words, can occur in it (`float?_of_inNumber`).  The scripts of its digits make no
difference (`float?_map_asciiDigit`).
-/

namespace Calculator.Decimal

open Calculator.Text
open Calculator.Token (inNumber)

/-! ### What occurs in no number token -/

section Characters

variable {c : Char}

theorem not_isMargin_of_inNumber (h : inNumber c = true) : isMargin c = false := by
  have hblank : isBlank c = false := by
    rw [Bool.eq_false_iff]
    intro hblank
    rw [Token.not_inNumber_of_isBlank hblank] at h
    cases h
  rw [isMargin, hblank, Bool.false_and]

theorem ne_of_inNumber {d : Char} (h : inNumber c = true) (hd : inNumber d = false) : c ≠ d := by
  rintro rfl
  rw [h] at hd
  cases hd

/-- Digits and points have no lower case. -/
theorem toLower_of_inNumber (h : inNumber c = true) : c.toLower = c := by
  have hapart : apart Token.numberRanges [(0x41, 0x5a)] = true := by decide +kernel
  rw [Token.inNumber_eq_inRanges] at h
  have hupper := inRanges_eq_false hapart h
  unfold Char.toLower
  rw [dif_neg]
  rintro ⟨hlow, hhigh⟩
  rw [Bool.eq_false_iff] at hupper
  exact hupper (inRanges_iff.mpr ⟨_, List.mem_singleton_self _, hlow, hhigh⟩)

end Characters

section Text

variable {cs : List Char}

theorem trim_eq_self {p : Char → Bool} {text : String} (h : ∀ c ∈ text.toList, p c = false) :
    trim p text = text := by
  have hdrop : ∀ cs : List Char, (∀ c ∈ cs, p c = false) → cs.dropWhile p = cs := fun cs hcs =>
    List.dropWhile_eq_self_iff.mpr fun hl => by simp [hcs _ (List.getElem_mem hl)]
  unfold trim
  rw [hdrop _ h, hdrop _ fun c hc => h c (List.mem_reverse.mp hc), List.reverse_reverse,
    String.ofList_toList]

theorem dropSeparators_eq_self (flag : Bool) (h : ∀ c ∈ cs, c ≠ '_') :
    dropSeparators flag cs = some cs := by
  fun_induction dropSeparators flag cs with
  | case1 => rfl
  | case2 => exact absurd rfl (h '_' (List.mem_cons_self ..))
  | case3 => exact absurd rfl (h '_' (List.mem_cons_self ..))
  | case4 => exact absurd rfl (h '_' (List.mem_cons_self ..))
  | case5 flag c cs _ _ ih =>
    rw [ih fun d hd => h d (List.mem_cons_of_mem c hd)]
    rfl

theorem takeSign_of_inNumber (h : ∀ c ∈ cs, inNumber c = true) : takeSign cs = (false, cs) := by
  unfold takeSign
  split
  · exact absurd rfl (ne_of_inNumber (h '-' (List.mem_cons_self ..)) rfl)
  · exact absurd rfl (ne_of_inNumber (h '+' (List.mem_cons_self ..)) rfl)
  · rfl

/-- Nothing but digits and points is no word. -/
theorem ofList_map_toLower_ne (h : ∀ c ∈ cs, inNumber c = true) (word : String) {d : Char}
    (hd : inNumber d = false) (hword : word.toList.head? = some d) :
    String.ofList (cs.map Char.toLower) ≠ word := by
  have hlower : cs.map Char.toLower = cs :=
    (List.map_congr_left fun c hc => toLower_of_inNumber (h c hc)).trans (List.map_id cs)
  rw [hlower]
  rintro rfl
  rw [String.toList_ofList] at hword
  exact ne_of_inNumber (h d (List.mem_of_mem_head? hword)) hd rfl

/-- Of a written number only the digits and the point are left. -/
theorem literal?_of_inNumber (h : ∀ c ∈ cs, inNumber c = true) :
    literal? cs = (numeral? cs).map (.finite false) := by
  have hinf := ofList_map_toLower_ne h "inf" (d := 'i') rfl rfl
  have hinfinity := ofList_map_toLower_ne h "infinity" (d := 'i') rfl rfl
  have hnan := ofList_map_toLower_ne h "nan" (d := 'n') rfl rfl
  rw [literal?, dropSeparators_eq_self false fun c hc => ne_of_inNumber (h c hc) rfl,
    Option.bind_some, takeSign_of_inNumber h]
  dsimp only
  rw [if_neg (not_or.mpr ⟨hinf, hinfinity⟩), if_neg hnan]

/-- A text of digits and points is read as the decimal that these stand for. -/
theorem float?_of_inNumber {text : String} (h : ∀ c ∈ text.toList, inNumber c = true) :
    float? text = (numeral? text.toList).map (Numeral.toFloat false) := by
  rw [float?, trim_eq_self fun c hc => not_isMargin_of_inNumber (h c hc), literal?_of_inNumber h,
    Option.map_map]
  rfl

end Text

/-! ### Digits around a point -/

/-- The decimal that digits around one point stand for. -/
def written (cs : List Char) : Numeral :=
  ⟨digitsValue (cs.filter isDigit), -((cs.dropWhile (· ≠ '.')).countP isDigit : Int)⟩

section Numeral

variable {whole fraction : List Char}

theorem takeWhile_append_point (h : ∀ c ∈ whole, isDigit c = true) (after : List Char) :
    (whole ++ '.' :: after).takeWhile isDigit = whole ∧
      (whole ++ '.' :: after).dropWhile isDigit = '.' :: after := by
  rw [List.takeWhile_append_of_pos h, List.dropWhile_append_of_pos h]
  exact ⟨List.append_nil whole, rfl⟩

/-- Digits and points are digits up to a first point, if there is one. -/
theorem exists_append_point {cs : List Char} (h : ∀ c ∈ cs, inNumber c = true) :
    (∀ c ∈ cs, isDigit c = true) ∨ ∃ before after, cs = before ++ '.' :: after ∧
      (∀ c ∈ before, isDigit c = true) ∧ ∀ c ∈ after, inNumber c = true := by
  induction cs with
  | nil => exact .inl fun c hc => nomatch hc
  | cons c cs ih =>
    have hc := h c (List.mem_cons_self ..)
    have hcs : ∀ d ∈ cs, inNumber d = true := fun d hd => h d (List.mem_cons_of_mem c hd)
    rcases Bool.or_eq_true_iff.mp hc with hdigit | hpoint
    · rcases ih hcs with hall | ⟨before, after, rfl, hbefore, hafter⟩
      · exact .inl (List.forall_mem_cons.mpr ⟨hdigit, hall⟩)
      · exact .inr ⟨c :: before, after, rfl, List.forall_mem_cons.mpr ⟨hdigit, hbefore⟩, hafter⟩
    · exact .inr ⟨[], cs, by rw [beq_iff_eq.mp hpoint]; rfl, (fun d hd => nomatch hd), hcs⟩

theorem numeral?_whole (h : ∀ c ∈ whole, isDigit c = true) :
    numeral? whole = if whole = [] then none else some ⟨digitsValue whole, 0⟩ := by
  unfold numeral?
  rw [List.takeWhile_eq_self_iff.mpr h, List.dropWhile_eq_nil_iff.mpr h]
  cases whole with
  | nil => rfl
  | cons c cs => simp [exponent?]

theorem numeral?_point (hw : ∀ c ∈ whole, isDigit c = true)
    (hf : ∀ c ∈ fraction, isDigit c = true) :
    numeral? (whole ++ '.' :: fraction) = if whole ++ fraction = [] then none
      else some ⟨digitsValue (whole ++ fraction), -(fraction.length : Int)⟩ := by
  unfold numeral?
  rw [(takeWhile_append_point hw fraction).1, (takeWhile_append_point hw fraction).2]
  simp only [List.head?_cons, ↓reduceIte, List.tail_cons, List.takeWhile_eq_self_iff.mpr hf,
    List.dropWhile_eq_nil_iff.mpr hf, exponent?]
  cases whole <;> cases fraction <;> simp

theorem numeral?_points (hw : ∀ c ∈ whole, isDigit c = true) (hf : ∀ c ∈ fraction, isDigit c = true)
    (after : List Char) :
    numeral? (whole ++ '.' :: (fraction ++ '.' :: after)) = none := by
  unfold numeral?
  rw [(takeWhile_append_point hw _).1, (takeWhile_append_point hw _).2]
  simp only [List.head?_cons, ↓reduceIte, List.tail_cons, (takeWhile_append_point hf after).1,
    (takeWhile_append_point hf after).2, exponent?]
  simp

theorem ne_point_of_isDigit {c : Char} (h : isDigit c = true) : c ≠ '.' := by
  rintro rfl
  cases h

theorem count_point_of_digits (h : ∀ c ∈ whole, isDigit c = true) : whole.count '.' = 0 :=
  List.count_eq_zero.mpr fun hmem => ne_point_of_isDigit (h _ hmem) rfl

theorem dropWhile_append_point (h : ∀ c ∈ whole, isDigit c = true) (after : List Char) :
    (whole ++ '.' :: after).dropWhile (· ≠ '.') = '.' :: after := by
  rw [List.dropWhile_append_of_pos fun c hc => by simpa using ne_point_of_isDigit (h c hc)]
  rfl

theorem written_whole (h : ∀ c ∈ whole, isDigit c = true) :
    written whole = ⟨digitsValue whole, 0⟩ := by
  have hdrop : whole.dropWhile (· ≠ '.') = [] :=
    List.dropWhile_eq_nil_iff.mpr fun c hc => by simpa using ne_point_of_isDigit (h c hc)
  rw [written, List.filter_eq_self.mpr h, hdrop]
  rfl

theorem written_point (hw : ∀ c ∈ whole, isDigit c = true) (hf : ∀ c ∈ fraction, isDigit c = true) :
    written (whole ++ '.' :: fraction) =
      ⟨digitsValue (whole ++ fraction), -(fraction.length : Int)⟩ := by
  have hpoint : isDigit '.' = false := rfl
  rw [written, dropWhile_append_point hw, List.filter_append, List.filter_cons, hpoint,
    if_neg Bool.false_ne_true, List.filter_eq_self.mpr hw, List.filter_eq_self.mpr hf,
    List.countP_cons, hpoint, if_neg Bool.false_ne_true, List.countP_eq_length.mpr hf]
  rfl

/-- **Digits and points are a written number exactly if there is a digit and no second point.** -/
theorem numeral?_of_inNumber {cs : List Char} (h : ∀ c ∈ cs, inNumber c = true) :
    numeral? cs = if cs.any isDigit = false ∨ 2 ≤ cs.count '.' then none
      else some (written cs) := by
  have hnone : ∀ digits : List Char, (∀ c ∈ digits, isDigit c = true) →
      (digits.any isDigit = false ↔ digits = []) := by
    intro digits hdigits
    cases digits with
    | nil => exact iff_of_true rfl rfl
    | cons c cs => simp [hdigits c (List.mem_cons_self ..)]
  rcases exists_append_point h with hwhole | ⟨whole, after, rfl, hwhole, hafter⟩
  · simp only [numeral?_whole hwhole, written_whole hwhole, hnone cs hwhole,
      count_point_of_digits hwhole]
    simp
  · rcases exists_append_point hafter with hafter | ⟨fraction, rest, rfl, hfraction, -⟩
    · have hdigits : ∀ c ∈ whole ++ after, isDigit c = true := fun c hc =>
        (List.mem_append.mp hc).elim (hwhole c) (hafter c)
      have hcount : (whole ++ '.' :: after).count '.' = 1 := by
        rw [List.count_append, List.count_cons_self, count_point_of_digits hwhole,
          count_point_of_digits hafter]
      have hempty : (whole ++ '.' :: after).any isDigit = false ↔ whole ++ after = [] := by
        have hpoint : isDigit '.' = false := rfl
        rw [← hnone _ hdigits, List.any_append, List.any_cons, hpoint, Bool.false_or,
          List.any_append]
      rw [numeral?_point hwhole hafter, written_point hwhole hafter]
      simp only [hcount, hempty]
      simp
    · have hcount : 2 ≤ (whole ++ '.' :: (fraction ++ '.' :: rest)).count '.' := by
        rw [List.count_append, List.count_cons_self, List.count_append, List.count_cons_self]
        omega
      rw [numeral?_points hwhole hfraction, if_pos (.inr hcount)]

end Numeral

/-! ### Scripts -/

/-- The digit with the same value that is written first in every table of characters. -/
def asciiDigit (c : Char) : Char :=
  match digitValue? c with
  | some n => Char.ofNat ('0'.toNat + n)
  | none => c

theorem digitValue?_asciiDigit (c : Char) : digitValue? (asciiDigit c) = digitValue? c := by
  unfold asciiDigit
  split
  · next n h =>
    have hall : ∀ n < 10, digitValue? (Char.ofNat ('0'.toNat + n)) = some n := by decide +kernel
    rw [h, hall n (digitValue?_lt h)]
  · rfl

theorem isDigit_asciiDigit (c : Char) : isDigit (asciiDigit c) = isDigit c := by
  rw [isDigit, digitValue?_asciiDigit]
  rfl

/-- Nothing but a point is written as a point. -/
theorem asciiDigit_eq_point_iff {c : Char} : asciiDigit c = '.' ↔ c = '.' := by
  constructor
  · intro h
    have hnone : digitValue? c = none := by
      rw [← digitValue?_asciiDigit, h]
      rfl
    rwa [asciiDigit, hnone] at h
  · rintro rfl
    rfl

section Script

variable {cs : List Char}

theorem inNumber_asciiDigit (c : Char) : inNumber (asciiDigit c) = inNumber c := by
  have hpoint : (asciiDigit c == '.') = (c == '.') := by
    rw [Bool.eq_iff_iff, beq_iff_eq, beq_iff_eq, asciiDigit_eq_point_iff]
  rw [inNumber, inNumber, isDigit_asciiDigit, hpoint]

theorem digitsValue_map_asciiDigit : digitsValue (cs.map asciiDigit) = digitsValue cs := by
  unfold digitsValue
  rw [List.foldl_map]
  simp only [digitValue?_asciiDigit]

theorem written_map_asciiDigit : written (cs.map asciiDigit) = written cs := by
  have hdigit : isDigit ∘ asciiDigit = isDigit := funext isDigit_asciiDigit
  have hpoint : (fun c => decide (c ≠ '.')) ∘ asciiDigit = fun c => decide (c ≠ '.') := by
    funext c
    simp only [Function.comp_apply, ne_eq, asciiDigit_eq_point_iff]
  unfold written
  rw [List.filter_map, digitsValue_map_asciiDigit, List.dropWhile_map, List.countP_map, hdigit,
    hpoint]

theorem count_map_asciiDigit : (cs.map asciiDigit).count '.' = cs.count '.' := by
  have hpoint : (· == '.') ∘ asciiDigit = (· == '.') := by
    funext c
    rw [Function.comp_apply, Bool.eq_iff_iff, beq_iff_eq, beq_iff_eq, asciiDigit_eq_point_iff]
  rw [List.count_eq_countP, List.count_eq_countP, List.countP_map, hpoint]

/-- **The scripts of digits make no difference.** -/
theorem float?_map_asciiDigit (h : ∀ c ∈ cs, inNumber c = true) :
    float? (String.ofList (cs.map asciiDigit)) = float? (String.ofList cs) := by
  have hmap : ∀ c ∈ cs.map asciiDigit, inNumber c = true := by
    rw [List.forall_mem_map]
    intro c hc
    rw [inNumber_asciiDigit, h c hc]
  have hany : (cs.map asciiDigit).any isDigit = cs.any isDigit := by
    rw [List.any_map]
    exact congrArg cs.any (funext isDigit_asciiDigit)
  rw [float?_of_inNumber (by rwa [String.toList_ofList]),
    float?_of_inNumber (by rwa [String.toList_ofList]), String.toList_ofList,
    String.toList_ofList, numeral?_of_inNumber hmap, numeral?_of_inNumber h]
  rw [hany, count_map_asciiDigit, written_map_asciiDigit]

end Script

end Calculator.Decimal
