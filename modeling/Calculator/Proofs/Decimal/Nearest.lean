import Calculator.Decimal.Nearest
import Mathlib.Algebra.Order.Field.Power
import Mathlib.Order.Monotone.Basic
import Mathlib.Tactic.FieldSimp
import Mathlib.Tactic.Linarith
import Mathlib.Tactic.NormNum
import Mathlib.Tactic.Positivity
import Mathlib.Tactic.Ring

/-!
# The nearest pattern

The patterns of the floats that are not negative are in the order of their values: the pattern `n`
stands for `steps n` times the least positive float (`strictMono_steps`), and infinity counts as the
power of two behind the largest float.  `nearestBits` gives the pattern nearest to a quotient, an
even one if two are equally near (`isNearest_nearestBits`): in the unit that `unitExponent` chooses,
the quotient has at most 53 bits and no fewer, unless the unit is the least one
(`bounds_unitExponent`), so that the patterns beside that of the rounded quotient are on the far
side of it or at least half a unit from the quotient (`beats_of_unit`).
-/

namespace Calculator.Decimal

/-! ### The values of patterns -/

/-- How many times the least positive float the value of a pattern is. -/
def steps (n : Nat) : Nat :=
  if n < 2 ^ 53 then n else (2 ^ 52 + n % 2 ^ 52) * 2 ^ (n / 2 ^ 52 - 1)

/-- A mantissa of 53 bits adds one to the exponent field, and a carry adds one more. -/
theorem steps_mantissa {k m : Nat} (hm : m ≤ 2 ^ 53) (hk : k = 0 ∨ 2 ^ 52 ≤ m) :
    steps (k * 2 ^ 52 + m) = m * 2 ^ k := by
  unfold steps
  rcases hk with rfl | hk
  · rw [Nat.zero_mul, Nat.zero_add, Nat.pow_zero, Nat.mul_one]
    rcases Nat.lt_or_eq_of_le hm with hlt | rfl
    · rw [if_pos hlt]
    · rfl
  · by_cases hsmall : k * 2 ^ 52 + m < 2 ^ 53
    · obtain rfl : k = 0 := by omega
      rw [if_pos hsmall, Nat.zero_mul, Nat.zero_add, Nat.pow_zero, Nat.mul_one]
    · rw [if_neg hsmall]
      rcases Nat.lt_or_eq_of_le hm with hlt | rfl
      · have hfield : (k * 2 ^ 52 + m) / 2 ^ 52 - 1 = k := by omega
        have hfraction : 2 ^ 52 + (k * 2 ^ 52 + m) % 2 ^ 52 = m := by omega
        rw [hfield, hfraction]
      · have hfield : (k * 2 ^ 52 + 2 ^ 53) / 2 ^ 52 - 1 = k + 1 := by omega
        have hfraction : 2 ^ 52 + (k * 2 ^ 52 + 2 ^ 53) % 2 ^ 52 = 2 ^ 52 := by omega
        rw [hfield, hfraction, Nat.pow_succ 2 k]
        ring

/-- Every pattern is made of an exponent field and a mantissa. -/
theorem exists_mantissa (n : Nat) :
    ∃ k m, n = k * 2 ^ 52 + m ∧ m < 2 ^ 53 ∧ (k = 0 ∨ 2 ^ 52 ≤ m) := by
  by_cases hn : n < 2 ^ 53
  · exact ⟨0, n, by omega, hn, .inl rfl⟩
  · exact ⟨n / 2 ^ 52 - 1, 2 ^ 52 + n % 2 ^ 52, by omega, by omega, .inr (by omega)⟩

theorem strictMono_steps : StrictMono steps := by
  refine strictMono_nat_of_lt_succ fun n => ?_
  obtain ⟨k, m, rfl, hm, hk⟩ := exists_mantissa n
  have hnext : steps (k * 2 ^ 52 + (m + 1)) = (m + 1) * 2 ^ k :=
    steps_mantissa hm (hk.imp_right fun h => by omega)
  rw [Nat.add_assoc, hnext, steps_mantissa hm.le hk]
  exact Nat.mul_lt_mul_of_pos_right (Nat.lt_succ_self m) (Nat.two_pow_pos k)

theorem cast_steps_lt {i j : Nat} (h : i < j) : (steps i : ℚ) < steps j := by
  exact_mod_cast strictMono_steps h

theorem cast_steps_le {i j : Nat} (h : i ≤ j) : (steps i : ℚ) ≤ steps j := by
  exact_mod_cast strictMono_steps.monotone h

/-! ### Nearness -/

/-- Whether the value of a pattern is nearer to `x` times the least positive float than that of
another one, or as near and the pattern is even. -/
def Beats (x : ℚ) (n i : Nat) : Prop :=
  |(steps n : ℚ) - x| < |(steps i : ℚ) - x| ∨
    |(steps n : ℚ) - x| = |(steps i : ℚ) - x| ∧ n % 2 = 0

theorem Beats.le {x : ℚ} {n i : Nat} (h : Beats x n i) :
    |(steps n : ℚ) - x| ≤ |(steps i : ℚ) - x| :=
  h.elim LT.lt.le fun h => h.1.le

/-- Of two patterns on the same side the inner one is nearer. -/
theorem beats_of_le_of_lt {x : ℚ} {n i : Nat} (hx : x ≤ steps n) (h : n < i) : Beats x n i := by
  have hlt := cast_steps_lt h
  rw [Beats, abs_of_nonneg (by linarith), abs_of_nonneg (by linarith)]
  exact .inl (by linarith)

theorem beats_of_ge_of_lt {x : ℚ} {n i : Nat} (hx : (steps n : ℚ) ≤ x) (h : i < n) :
    Beats x n i := by
  have hlt := cast_steps_lt h
  rw [Beats, abs_of_nonpos (by linarith), abs_of_nonpos (by linarith)]
  exact .inl (by linarith)

theorem beats_of_between {x d : ℚ} {n i : Nat} (hn : |(steps n : ℚ) - x| ≤ d)
    (hi : d ≤ |(steps i : ℚ) - x|) (htie : |(steps n : ℚ) - x| = d → n % 2 = 0) : Beats x n i := by
  rcases (hn.trans hi).lt_or_eq with hlt | heq
  · exact .inl hlt
  · exact .inr ⟨heq, htie (le_antisymm hn (heq ▸ hi))⟩

section Unit

variable {y : ℚ} {k m : Nat}

theorem cast_steps_mantissa (hm : m ≤ 2 ^ 53) (hk : k = 0 ∨ 2 ^ 52 ≤ m) :
    (steps (k * 2 ^ 52 + m) : ℚ) = m * 2 ^ k := by
  rw [steps_mantissa hm hk, Nat.cast_mul, Nat.cast_pow, Nat.cast_ofNat]

/-- Patterns below a mantissa that is half a unit away are at least as far away, -/
theorem half_le_of_le (hm : m ≤ 2 ^ 53) (hk : k = 0 ∨ 2 ^ 52 ≤ m) (hy : (m : ℚ) + 1 / 2 ≤ y)
    {i : Nat} (hi : i ≤ k * 2 ^ 52 + m) : (2 : ℚ) ^ k / 2 ≤ |(steps i : ℚ) - y * 2 ^ k| := by
  have hunit : (0 : ℚ) < 2 ^ k := pow_pos two_pos k
  have hsteps : (steps i : ℚ) ≤ m * 2 ^ k := cast_steps_mantissa hm hk ▸ cast_steps_le hi
  have hscaled := mul_le_mul_of_nonneg_right hy hunit.le
  rw [abs_sub_comm]
  refine le_trans ?_ (le_abs_self _)
  linarith

/-- and so are those above. -/
theorem half_le_of_ge (hm : m ≤ 2 ^ 53) (hk : k = 0 ∨ 2 ^ 52 ≤ m) (hy : y ≤ (m : ℚ) - 1 / 2)
    {i : Nat} (hi : k * 2 ^ 52 + m ≤ i) : (2 : ℚ) ^ k / 2 ≤ |(steps i : ℚ) - y * 2 ^ k| := by
  have hunit : (0 : ℚ) < 2 ^ k := pow_pos two_pos k
  have hsteps : (m : ℚ) * 2 ^ k ≤ steps i := cast_steps_mantissa hm hk ▸ cast_steps_le hi
  have hscaled := mul_le_mul_of_nonneg_right hy hunit.le
  refine le_trans ?_ (le_abs_self _)
  linarith

theorem le_of_cast_lt {a b : Nat} (h : (a : ℚ) < b + 1) : a ≤ b :=
  Nat.le_of_lt_succ (by exact_mod_cast h)

/-- A rounded number has at most 53 bits, or one more after a carry, if the number has at most 53
bits, and no fewer if the number has no fewer. -/
theorem bounds_mantissa (hlt : y < 2 ^ 53) (hk : k = 0 ∨ 2 ^ 52 ≤ y)
    (hnear : 2 * |(m : ℚ) - y| ≤ 1) : m ≤ 2 ^ 53 ∧ (k = 0 ∨ 2 ^ 52 ≤ m) := by
  have hbounds := abs_le.mp (show |(m : ℚ) - y| ≤ 1 / 2 by linarith)
  refine ⟨le_of_cast_lt ?_, hk.imp_right fun h => le_of_cast_lt ?_⟩
  · push_cast
    linarith
  · push_cast
    linarith

/-- In a unit of `2 ^ k` in which a number has at most 53 bits and no fewer, unless the unit is the
least one, the pattern of the rounded number is the nearest one. -/
theorem beats_of_unit (hlt : y < 2 ^ 53) (hk : k = 0 ∨ 2 ^ 52 ≤ y) (hnear : 2 * |(m : ℚ) - y| ≤ 1)
    (htie : 2 * |(m : ℚ) - y| = 1 → m % 2 = 0) {i : Nat} (hi : i ≠ k * 2 ^ 52 + m) :
    Beats (y * 2 ^ k) (k * 2 ^ 52 + m) i := by
  obtain ⟨hm, hleast⟩ := bounds_mantissa hlt hk hnear
  have hbounds := abs_le.mp (show |(m : ℚ) - y| ≤ 1 / 2 by linarith)
  have hunit : (0 : ℚ) < 2 ^ k := pow_pos two_pos k
  have hsteps := cast_steps_mantissa hm hleast
  have hdist : |(steps (k * 2 ^ 52 + m) : ℚ) - y * 2 ^ k| = |(m : ℚ) - y| * 2 ^ k := by
    rw [hsteps, ← sub_mul, abs_mul, abs_of_pos hunit]
  -- half a unit lies between the distances
  have hhalf : |(steps (k * 2 ^ 52 + m) : ℚ) - y * 2 ^ k| ≤ 2 ^ k / 2 := by
    rw [hdist, le_div_iff₀ two_pos, mul_right_comm, mul_comm _ (2 : ℚ)]
    exact mul_le_of_le_one_left hunit.le hnear
  have heven : |(steps (k * 2 ^ 52 + m) : ℚ) - y * 2 ^ k| = 2 ^ k / 2 →
      (k * 2 ^ 52 + m) % 2 = 0 := by
    intro heq
    rw [hdist] at heq
    have hone : 2 * |(m : ℚ) - y| = 1 := mul_right_cancel₀ hunit.ne' (by linarith)
    have := htie hone
    omega
  rcases Nat.lt_or_gt_of_ne hi with hbelow | habove
  · by_cases hy : (m : ℚ) ≤ y
    · exact beats_of_ge_of_lt (hsteps ▸ mul_le_mul_of_nonneg_right hy hunit.le) hbelow
    · -- the number is below its mantissa, so there is one before it
      cases m with
      | zero => omega
      | succ j =>
        push_cast at hy hbounds
        refine beats_of_between hhalf (half_le_of_le (m := j) (by omega) ?_ ?_ (by omega)) heven
        · exact hk.imp_right fun h => le_of_cast_lt (by push_cast; linarith)
        · linarith
  · by_cases hy : y ≤ m
    · exact beats_of_le_of_lt (hsteps ▸ mul_le_mul_of_nonneg_right hy hunit.le) habove
    · have hnext : m + 1 ≤ 2 ^ 53 := le_of_cast_lt (by push_cast; linarith)
      refine beats_of_between hhalf (half_le_of_ge hnext ?_ ?_ (by omega)) heven
      · exact hleast.imp_right fun h => by omega
      · push_cast
        linarith

end Unit

/-! ### Rounding to a whole number -/

/-- A quotient is a whole number and a fraction, and the remainder is compared with half of the
divisor as the fraction with one half. -/
theorem exists_fraction (num : Nat) {den : Nat} (hden : 0 < den) :
    ∃ t : ℚ, (num : ℚ) / den = (num / den : Nat) + t ∧ 0 ≤ t ∧ t < 1 ∧
      (den < 2 * (num % den) ↔ 1 < 2 * t) ∧ (2 * (num % den) = den ↔ 2 * t = 1) := by
  have hpos : (0 : ℚ) < den := by exact_mod_cast hden
  have hsplit : (num : ℚ) = den * (num / den : Nat) + (num % den : Nat) := by
    exact_mod_cast (Nat.div_add_mod num den).symm
  refine ⟨(num % den : Nat) / den, ?_, by positivity, ?_, ?_, ?_⟩
  · nth_rewrite 1 [hsplit]
    field_simp
  · rw [div_lt_one hpos]
    exact_mod_cast Nat.mod_lt num hden
  · rw [← mul_div_assoc, one_lt_div hpos]
    exact_mod_cast Iff.rfl
  · rw [← mul_div_assoc, div_eq_one_iff_eq hpos.ne']
    exact_mod_cast Iff.rfl

/-- The rounded quotient is within one half of the quotient, and even if it is one half away. -/
theorem near_roundQuotient (num : Nat) {den : Nat} (hden : 0 < den) :
    2 * |(roundQuotient num den : ℚ) - num / den| ≤ 1 ∧
      (2 * |(roundQuotient num den : ℚ) - num / den| = 1 → roundQuotient num den % 2 = 0) := by
  obtain ⟨t, hquotient, hnonneg, hlt, hmore, hhalf⟩ := exists_fraction num hden
  unfold roundQuotient
  dsimp only
  rw [hquotient]
  split
  · next hup =>
    rw [hmore, hhalf] at hup
    push_cast
    rw [show ((num / den : Nat) : ℚ) + 1 - ((num / den : Nat) + t) = 1 - t by ring,
      abs_of_pos (by linarith)]
    rcases hup with hup | ⟨hup, hodd⟩
    · exact ⟨by linarith, fun heq => by linarith⟩
    · exact ⟨by linarith, fun _ => by omega⟩
  · next hdown =>
    rw [hmore, hhalf, not_or, not_lt] at hdown
    rw [show ((num / den : Nat) : ℚ) - ((num / den : Nat) + t) = -t by ring, abs_neg,
      abs_of_nonneg hnonneg]
    refine ⟨hdown.1, fun heq => ?_⟩
    exact Nat.mod_two_ne_one.mp fun hodd => hdown.2 ⟨heq, hodd⟩

/-! ### The unit -/

section UnitExponent

variable {num den : Nat}

/-- A quotient in units of a power of two. -/
theorem inUnits_div (num den : Nat) (unit : Int) :
    ((inUnits num den unit).1 : ℚ) / (inUnits num den unit).2 = num / den / 2 ^ unit := by
  unfold inUnits
  dsimp only
  rw [Nat.pow_eq, Nat.pow_eq]
  push_cast
  rcases Int.le_total 0 unit with hunit | hunit
  · obtain ⟨e, rfl⟩ := Int.eq_ofNat_of_zero_le hunit
    rw [Int.toNat_natCast, Int.toNat_eq_zero.mpr (by omega), pow_zero, mul_one, zpow_natCast,
      div_div]
  · obtain ⟨e, rfl⟩ : ∃ e : Nat, unit = -e := ⟨unit.natAbs, by omega⟩
    rw [neg_neg, Int.toNat_natCast, Int.toNat_eq_zero.mpr (by omega), pow_zero, mul_one, zpow_neg,
      zpow_natCast, div_inv_eq_mul, mul_div_right_comm]

theorem snd_inUnits_pos (num : Nat) (hden : 0 < den) (unit : Int) : 0 < (inUnits num den unit).2 :=
  Nat.mul_pos hden (Nat.two_pow_pos _)

/-- The leading bits of two numbers bound their quotient. -/
theorem bounds_div (hnum : 0 < num) (hden : 0 < den) :
    (2 : ℚ) ^ ((num.log2 : Int) - den.log2 - 1) < num / den ∧
      (num : ℚ) / den < 2 ^ ((num.log2 : Int) - den.log2 + 1) := by
  have hnum' : (0 : ℚ) < num := by exact_mod_cast hnum
  have hden' : (0 : ℚ) < den := by exact_mod_cast hden
  have hlow : (2 : ℚ) ^ (num.log2 : Int) ≤ num := by
    exact_mod_cast Nat.log2_self_le hnum.ne'
  have hhigh : (num : ℚ) < 2 ^ ((num.log2 : Int) + 1) := by
    exact_mod_cast Nat.lt_log2_self
  have hlow' : (2 : ℚ) ^ (den.log2 : Int) ≤ den := by
    exact_mod_cast Nat.log2_self_le hden.ne'
  have hhigh' : (den : ℚ) < 2 ^ ((den.log2 : Int) + 1) := by
    exact_mod_cast Nat.lt_log2_self
  constructor
  · rw [lt_div_iff₀ hden']
    calc (2 : ℚ) ^ ((num.log2 : Int) - den.log2 - 1) * den
      _ < 2 ^ ((num.log2 : Int) - den.log2 - 1) * 2 ^ ((den.log2 : Int) + 1) := by gcongr
      _ = 2 ^ (num.log2 : Int) := by
        rw [← zpow_add₀ two_ne_zero]
        congr 1
        ring
      _ ≤ num := hlow
  · rw [div_lt_iff₀ hden']
    calc (num : ℚ) < 2 ^ ((num.log2 : Int) + 1) := hhigh
      _ = 2 ^ ((num.log2 : Int) - den.log2 + 1) * 2 ^ (den.log2 : Int) := by
        rw [← zpow_add₀ two_ne_zero]
        congr 1
        ring
      _ ≤ 2 ^ ((num.log2 : Int) - den.log2 + 1) * den := by gcongr

/-- Where the leading bits leave it open how many bits a quotient has, it is looked at itself. -/
theorem exists_full_unit (hnum : 0 < num) (hden : 0 < den) :
    ∃ unit, unitExponent num den = max unit leastExponent ∧
      2 ^ 52 ≤ (num : ℚ) / den / 2 ^ unit ∧ (num : ℚ) / den / 2 ^ unit < 2 ^ 53 := by
  obtain ⟨hlow, hhigh⟩ := bounds_div hnum hden
  obtain ⟨guess, hguess⟩ : ∃ guess : Int, guess = (num.log2 : Int) - den.log2 - 53 := ⟨_, rfl⟩
  have hsmall : (inUnits num den guess).1 / (inUnits num den guess).2 < Nat.pow 2 53 ↔
      (num : ℚ) / den / 2 ^ guess < 2 ^ 53 := by
    have hpos := snd_inUnits_pos num hden guess
    rw [← inUnits_div, Nat.div_lt_iff_lt_mul hpos, div_lt_iff₀ (by exact_mod_cast hpos)]
    exact_mod_cast Iff.rfl
  have hchoice : unitExponent num den =
      max (if (num : ℚ) / den / 2 ^ guess < 2 ^ 53 then guess else guess + 1) leastExponent := by
    unfold unitExponent
    simp only [← hguess, hsmall]
  have hpow : ∀ (k : Nat) (unit : Int), (2 : ℚ) ^ k * 2 ^ unit = 2 ^ (k + unit) := fun k unit => by
    rw [zpow_add₀ two_ne_zero, zpow_natCast]
  by_cases h : (num : ℚ) / den / 2 ^ guess < 2 ^ 53
  · refine ⟨guess, by rw [hchoice, if_pos h], ?_, h⟩
    rw [le_div_iff₀ (by positivity), hpow]
    refine le_trans ?_ hlow.le
    exact le_of_eq (congrArg _ (by push_cast; omega))
  · refine ⟨guess + 1, by rw [hchoice, if_neg h], ?_, ?_⟩
    · rw [not_lt, le_div_iff₀ (by positivity), hpow] at h
      rw [le_div_iff₀ (by positivity), hpow]
      refine le_trans (le_of_eq (congrArg _ ?_)) h
      push_cast
      ring
    · rw [div_lt_iff₀ (by positivity), hpow]
      refine lt_of_lt_of_eq hhigh (congrArg _ ?_)
      push_cast
      omega

/-- In the chosen unit, a quotient has at most 53 bits, and no fewer unless the unit is the least
one. -/
theorem bounds_unitExponent (hnum : 0 < num) (hden : 0 < den) :
    let unit := unitExponent num den
    leastExponent ≤ unit ∧ (num : ℚ) / den / 2 ^ unit < 2 ^ 53 ∧
      (unit = leastExponent ∨ 2 ^ 52 ≤ (num : ℚ) / den / 2 ^ unit) := by
  intro unit
  obtain ⟨full, hunit, hlow, hhigh⟩ := exists_full_unit hnum hden
  have hmax : unit = max full leastExponent := hunit
  refine ⟨hmax ▸ le_max_right .., ?_, ?_⟩
  · refine lt_of_le_of_lt ?_ hhigh
    rw [hmax]
    gcongr
    · norm_num
    · exact le_max_left ..
  · rcases le_total full leastExponent with h | h
    · exact .inl (hmax.trans (max_eq_right h))
    · rw [hmax, max_eq_left h]
      exact .inr hlow

end UnitExponent

/-! ### The nearest pattern -/

/-- Whether a pattern is nearest to `x` times the least positive float among those up to that of
infinity, and even if another one is as near. -/
structure IsNearest (x : ℚ) (n : Nat) : Prop where
  le : n ≤ infinityBits
  beats : ∀ i ≤ infinityBits, i ≠ n → Beats x n i

/-- Where patterns end, the last one is nearest to everything beyond. -/
theorem isNearest_min {x : ℚ} {n : Nat} (h : ∀ i, i ≠ n → Beats x n i) :
    IsNearest x (min infinityBits n) := by
  refine ⟨min_le_left .., fun i hi hne => ?_⟩
  rcases le_total n infinityBits with hn | hn
  · rw [min_eq_right hn] at hne ⊢
    exact h i hne
  · rw [min_eq_left hn] at hne ⊢
    have hlt : i < infinityBits := lt_of_le_of_ne hi hne
    rcases eq_or_lt_of_le hn with rfl | hbeyond
    · exact h i hne
    · -- `x` is nearer to the pattern beyond infinity than to infinity, so it is not below
      refine beats_of_ge_of_lt ?_ hlt
      have hnearer := (h infinityBits hbeyond.ne).le
      have hsteps := cast_steps_lt hbeyond
      by_contra hx
      rw [not_le] at hx
      rw [abs_of_pos (by linarith), abs_of_pos (by linarith)] at hnearer
      linarith

/-- **The nearest pattern is found.** -/
theorem isNearest_nearestBits {num den : Nat} (hden : 0 < den) :
    IsNearest ((num : ℚ) / den * 2 ^ 1074) (nearestBits num den) := by
  rcases Nat.eq_zero_or_pos num with rfl | hnum
  · refine ⟨Nat.zero_le _, fun i _ hi => beats_of_le_of_lt ?_ (Nat.pos_of_ne_zero hi)⟩
    rw [Nat.cast_zero, zero_div, zero_mul]
    exact Nat.cast_nonneg _
  · obtain ⟨hunit, hhigh, hlow⟩ := bounds_unitExponent hnum hden
    have hbits : nearestBits num den = min infinityBits
        ((unitExponent num den - leastExponent).toNat * 2 ^ 52 +
          roundQuotient (inUnits num den (unitExponent num den)).1
            (inUnits num den (unitExponent num den)).2) := by
      unfold nearestBits
      rw [if_neg hnum.ne']
      rfl
    obtain ⟨hnear, htie⟩ := near_roundQuotient (inUnits num den (unitExponent num den)).1
      (snd_inUnits_pos num hden (unitExponent num den))
    rw [inUnits_div] at hnear htie
    rw [hbits]
    generalize unitExponent num den = unit at *
    obtain ⟨k, rfl⟩ : ∃ k : Nat, unit = leastExponent + k :=
      ⟨(unit - leastExponent).toNat, by omega⟩
    have hk : (leastExponent + k - leastExponent).toNat = k := by omega
    have hscale : (num : ℚ) / den * 2 ^ 1074 =
        num / den / 2 ^ (leastExponent + (k : Int)) * 2 ^ k := by
      rw [zpow_add₀ two_ne_zero, zpow_natCast, leastExponent, zpow_neg]
      field_simp
    rw [hk, hscale]
    refine isNearest_min fun i hi => beats_of_unit hhigh ?_ hnear htie hi
    exact hlow.imp_left fun h => by omega

/-! ### Underflow and overflow -/

/-- Below one half of the least positive float, zero is nearest. -/
theorem isNearest_zero {x : ℚ} (hx : 0 ≤ x) (hhalf : x < 1 / 2) : IsNearest x 0 := by
  refine ⟨Nat.zero_le _, fun i _ hi => .inl ?_⟩
  have hone : (1 : ℚ) ≤ steps i := by
    exact_mod_cast le_trans (Nat.one_le_iff_ne_zero.mpr hi) (strictMono_steps.le_apply)
  rw [show steps 0 = 0 from rfl, Nat.cast_zero, zero_sub, abs_neg, abs_of_nonneg hx,
    abs_of_pos (by linarith)]
  linarith

theorem steps_infinityBits : steps infinityBits = 2 ^ 54 * 2 ^ 2044 := by
  have h := steps_mantissa (k := 2046) (m := 2 ^ 52) (by norm_num) (.inr le_rfl)
  rw [show infinityBits = 2046 * 2 ^ 52 + 2 ^ 52 from rfl, h, ← pow_add, ← pow_add]

theorem steps_largest : steps (infinityBits - 1) + 2 * 2 ^ 2044 = steps infinityBits := by
  have h := steps_mantissa (k := 2045) (m := 2 ^ 53 - 1) (by norm_num) (.inr (by norm_num))
  rw [steps_infinityBits, show infinityBits - 1 = 2045 * 2 ^ 52 + (2 ^ 53 - 1) from rfl, h,
    pow_succ 2 2044]
  omega

/-- Infinity is nearest from halfway between the largest float and the power of two behind it. -/
theorem IsNearest.eq_infinityBits_iff {x : ℚ} {n : Nat} (h : IsNearest x n) :
    n = infinityBits ↔ (2 ^ 54 - 1) * 2 ^ 2044 ≤ x := by
  have hinfinity : (steps infinityBits : ℚ) = 2 ^ 54 * 2 ^ 2044 := by
    rw [steps_infinityBits, Nat.cast_mul, Nat.cast_pow, Nat.cast_pow, Nat.cast_ofNat]
  have hlargest : (steps (infinityBits - 1) : ℚ) + 2 * 2 ^ 2044 = 2 ^ 54 * 2 ^ 2044 := by
    rw [← hinfinity, ← steps_largest, Nat.cast_add, Nat.cast_mul, Nat.cast_pow, Nat.cast_ofNat]
  have hunit : (0 : ℚ) < 2 ^ 2044 := pow_pos two_pos _
  generalize (2 : ℚ) ^ 2044 = unit at *
  constructor
  · rintro rfl
    have hle := (h.beats (infinityBits - 1) (Nat.sub_le ..) (by decide)).le
    by_contra hx
    rw [not_le] at hx
    rw [hinfinity, abs_of_pos (by linarith)] at hle
    rcases abs_cases ((steps (infinityBits - 1) : ℚ) - x) with ⟨heq, -⟩ | ⟨heq, -⟩ <;> linarith
  · intro hx
    by_contra hne
    have hn : n ≤ infinityBits - 1 := Nat.le_sub_one_of_lt (lt_of_le_of_ne h.le hne)
    have hsteps := cast_steps_le hn
    have hbeats := h.beats infinityBits le_rfl (Ne.symm hne)
    have hdist : |(steps n : ℚ) - x| = x - steps n := by
      rw [abs_of_nonpos (by linarith), neg_sub]
    have hle := hbeats.le
    rw [hdist, hinfinity] at hle
    rcases abs_cases (2 ^ 54 * unit - x) with ⟨heq, -⟩ | ⟨heq, -⟩
    · -- both are half a unit away, but the largest float has an odd pattern
      have hsame : (steps n : ℚ) = steps (infinityBits - 1) := by linarith
      have hn : n = infinityBits - 1 := strictMono_steps.injective (by exact_mod_cast hsame)
      rcases hbeats with hlt | ⟨-, heven⟩
      · rw [hdist, hinfinity] at hlt
        linarith
      · rw [hn] at heven
        exact absurd heven (by decide)
    · linarith

end Calculator.Decimal
