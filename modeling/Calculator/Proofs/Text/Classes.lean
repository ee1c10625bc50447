import Calculator.Token.Lexer

/-!
# The classes of characters are disjoint

A character is a blank, part of a number, part of a name or a mark, and never two of these
(`not_inNumber_of_isBlank` and those after it).  The tables are sets of ranges, and two of them are
disjoint once every range of one lies before or behind every range of the other (`apart`).
-/

namespace Calculator.Text

/-! ### Tables of ranges -/

/-- Whether every range of one table lies before or behind every range of the other. -/
def apart (first second : List (Nat × Nat)) : Bool :=
  first.all fun a => second.all fun b => Nat.blt a.2 b.1 || Nat.blt b.2 a.1

theorem apart_iff {first second : List (Nat × Nat)} :
    apart first second = true ↔ ∀ a ∈ first, ∀ b ∈ second, a.2 < b.1 ∨ b.2 < a.1 := by
  simp [apart, Nat.blt_eq]

theorem inRanges_eq_false {first second : List (Nat × Nat)} {c : Char}
    (h : apart first second = true) (hc : inRanges first c = true) :
    inRanges second c = false := by
  rw [Bool.eq_false_iff]
  intro hc'
  obtain ⟨a, ha, hlow, hhigh⟩ := inRanges_iff.mp hc
  obtain ⟨b, hb, hlow', hhigh'⟩ := inRanges_iff.mp hc'
  have := apart_iff.mp h a ha b hb
  omega

/-- The digits of the scripts as ranges. -/
def digitRanges : List (Nat × Nat) :=
  zeroCodes.map fun start => (start, start + 9)

theorem isDigit_eq_inRanges (c : Char) : isDigit c = inRanges digitRanges c := by
  rw [Bool.eq_iff_iff, inRanges_iff, isDigit, digitValue?, Option.isSome_map, List.find?_isSome]
  simp only [Bool.and_eq_true, decide_eq_true_eq]
  constructor
  · rintro ⟨start, hs, hlow, hhigh⟩
    exact ⟨_, List.mem_map_of_mem hs, hlow, Nat.le_of_lt_succ hhigh⟩
  · rintro ⟨range, hr, hlow, hhigh⟩
    obtain ⟨start, hs, rfl⟩ := List.mem_map.mp hr
    exact ⟨start, hs, hlow, Nat.lt_succ_of_le hhigh⟩

end Calculator.Text

namespace Calculator.Token

open Calculator.Text

variable {c : Char}

/-! ### Classes of characters -/

/-- The characters of numbers as ranges. -/
def numberRanges : List (Nat × Nat) :=
  (0x2e, 0x2e) :: digitRanges

theorem inNumber_eq_inRanges (c : Char) : inNumber c = inRanges numberRanges c := by
  -- the point is a range of one character
  have hpoint : (c == '.') = (decide (0x2e ≤ c.toNat) && decide (c.toNat ≤ 0x2e)) := by
    rw [Bool.eq_iff_iff, beq_iff_eq, Bool.and_eq_true, decide_eq_true_eq, decide_eq_true_eq]
    constructor
    · rintro rfl
      decide
    · rintro ⟨hlow, hhigh⟩
      exact Char.toNat_inj.mp (Nat.le_antisymm hhigh hlow)
  rw [inNumber, isDigit_eq_inRanges, hpoint, Bool.or_comm]
  rfl

/-- The characters that are tokens by themselves as ranges. -/
def markRanges : List (Nat × Nat) :=
  [(0x28, 0x2b), (0x2d, 0x2d), (0x2f, 0x2f)]

theorem inRanges_of_markKind? {kind : Kind} (h : markKind? c = some kind) :
    inRanges markRanges c = true := by
  unfold markKind? at h
  split at h
  · next hc => rcases hc with rfl | rfl | rfl | rfl <;> rfl
  · split at h
    · next hc => exact hc ▸ rfl
    · split at h
      · next hc => exact hc ▸ rfl
      · cases h

theorem not_inNumber_of_isBlank (h : isBlank c = true) : inNumber c = false := by
  have hapart : apart blankRanges numberRanges = true := by decide +kernel
  rw [inNumber_eq_inRanges]
  exact inRanges_eq_false hapart h

theorem not_isLetter_of_isBlank (h : isBlank c = true) : isLetter c = false := by
  have hapart : apart blankRanges letterRanges = true := by decide +kernel
  exact inRanges_eq_false hapart h

theorem not_inNumber_of_isLetter (h : isLetter c = true) : inNumber c = false := by
  have hapart : apart letterRanges numberRanges = true := by decide +kernel
  rw [inNumber_eq_inRanges]
  exact inRanges_eq_false hapart h

/-- A mark is neither a blank nor part of a number or of a name. -/
theorem classes_of_markKind? {kind : Kind} (h : markKind? c = some kind) :
    isBlank c = false ∧ inNumber c = false ∧ isLetter c = false := by
  have hmark := inRanges_of_markKind? h
  have hblank : apart markRanges blankRanges = true := by decide +kernel
  have hnumber : apart markRanges numberRanges = true := by decide +kernel
  have hletter : apart markRanges letterRanges = true := by decide +kernel
  rw [inNumber_eq_inRanges]
  exact ⟨inRanges_eq_false hblank hmark, inRanges_eq_false hnumber hmark,
    inRanges_eq_false hletter hmark⟩

theorem markKind?_eq_none_of_isLetter (h : isLetter c = true) : markKind? c = none := by
  cases hk : markKind? c with
  | none => rfl
  | some kind =>
    have hletter := (classes_of_markKind? hk).2.2
    rw [h] at hletter
    cases hletter

end Calculator.Token
