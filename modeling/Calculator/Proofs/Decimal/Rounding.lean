import Calculator.Decimal.Reading
import Calculator.Proofs.Decimal.Nearest
import Mathlib

/-!
# Correct rounding

A float stands for a rational number, unless it is infinite or undefined (`value?`), and which one
is seen from its bits (`value?_eq`).  Conversely the patterns up to that of infinity are those of
floats (`toBits_ofBits`), so that the float with the nearest pattern is a number correctly rounded
(`isRounded_ofBits`).  A written decimal is therefore rounded correctly (`isRounded_toFloat`): what
is too small or too large to be looked at as a quotient is below one half of the least positive
float or beyond the threshold of infinity anyway.
-/

namespace Calculator.Decimal

open Float.Model (Format UnpackedFloat)
open Float.Model.UnpackedFloat

/-! ### The values of floats -/

/-- One with a sign. -/
def unitOf : Sign → ℚ
  | .positive => 1
  | .negative => -1

/-- The number that the parts of a float stand for, if it is finite. -/
def number? : UnpackedFloat → Option ℚ
  | .finite s m e _ => some (unitOf s * (m * 2 ^ e))
  | .zero _ => some 0
  | .infinity _ | .notANumber => none

/-- The number that a float stands for, if it is finite. -/
def value? (x : Float) : Option ℚ :=
  number? x.toModel.unpack

section Parts

variable (b : BitVec Format.binary64.numBits)

theorem toNat_unpackMantissa : (unpackMantissa b).toNat = b.toNat % 2 ^ 63 % 2 ^ 52 := by
  rw [unpackMantissa_def, BitVec.extractLsb'_toNat, Nat.shiftRight_zero]
  exact (Nat.mod_mod_of_dvd _ (Nat.pow_dvd_pow 2 (by decide))).symm

theorem toNat_unpackExponent : (unpackExponent b).toNat = b.toNat % 2 ^ 63 / 2 ^ 52 := by
  rw [unpackExponent_def, BitVec.extractLsb'_toNat, Nat.shiftRight_eq_div_pow]
  show b.toNat / 2 ^ 52 % 2 ^ 11 = _
  omega

/-- The sign of a float is its first bit. -/
theorem ofBitVec_unpackSign :
    Sign.ofBitVec (unpackSign b) = if b.toNat < 2 ^ 63 then .positive else .negative := by
  have hbit : (unpackSign b).toNat = b.toNat / 2 ^ 63 := by
    have hlt : b.toNat < 2 ^ 64 := b.isLt
    rw [unpackSign_def, BitVec.extractLsb'_toNat, Nat.shiftRight_eq_div_pow]
    show b.toNat / 2 ^ 63 % 2 ^ 1 = _
    omega
  have hzero : unpackSign b = 0#1 ↔ b.toNat < 2 ^ 63 := by
    rw [← BitVec.toNat_inj, hbit, BitVec.toNat_ofNat]
    omega
  unfold Sign.ofBitVec
  simp only [hzero]

end Parts

theorem number?_finite (s : Sign) {m : Nat} (k : Nat) (hm : 0 < m) {e : Int} (he : e = k - 1074) :
    number? (.finite s m e hm) = some (unitOf s * ((m * 2 ^ k : Nat) / 2 ^ 1074)) := by
  show some _ = some _
  have hpow : (2 : ℚ) ^ (1074 : Int) = 2 ^ 1074 := zpow_natCast 2 1074
  rw [he, zpow_sub₀ two_ne_zero, zpow_natCast, hpow, Nat.cast_mul, Nat.cast_pow, Nat.cast_ofNat,
    mul_div_assoc]

section Unpack

variable (b : BitVec Format.binary64.numBits)

/-- The patterns with an exponent of ones are those of no finite float. -/
theorem number?_unpack_of_ones (h : unpackExponent b = -1#_) :
    number? (unpack .binary64 b) = none := by
  unfold unpack
  dsimp only
  rw [if_pos h]
  split <;> rfl

/-- With an exponent of zeros, the mantissa counts the steps. -/
theorem number?_unpack_of_zeros (h : unpackExponent b = 0#_) :
    number? (unpack .binary64 b) =
      some (unitOf (Sign.ofBitVec (unpackSign b)) * ((unpackMantissa b).toNat / 2 ^ 1074)) := by
  have hones : ¬ unpackExponent b = -1#_ := by
    rw [h]
    decide
  unfold unpack
  dsimp only
  rw [if_neg hones, if_pos h]
  by_cases hnone : unpackMantissa b = 0#_
  · rw [dif_pos hnone, hnone, BitVec.toNat_ofNat, Nat.zero_mod]
    simp [number?]
  · rw [dif_neg hnone, number?_finite _ 0, Nat.pow_zero, Nat.mul_one]
    rw [h, BitVec.toNat_ofNat]
    rfl

/-- With any other exponent, there is one more bit before the mantissa. -/
theorem number?_unpack_of_normal {k : Nat} (hones : unpackExponent b ≠ -1#_)
    (hk : (unpackExponent b).toNat = k + 1) :
    number? (unpack .binary64 b) =
      some (unitOf (Sign.ofBitVec (unpackSign b)) *
        (((2 ^ 52 + (unpackMantissa b).toNat) * 2 ^ k : Nat) / 2 ^ 1074)) := by
  have hzeros : ¬ unpackExponent b = 0#_ := by
    intro h
    rw [h] at hk
    cases hk
  have hnormal : (1#1 ++ unpackMantissa b).toNat = 2 ^ 52 + (unpackMantissa b).toNat := by
    rw [BitVec.toNat_append, ← Nat.shiftLeft_add_eq_or_of_lt (BitVec.isLt _)]
    rfl
  have hbias : (Format.binary64.exponentBias : Int) = 1023 := rfl
  have hsignificand : (Format.binary64.mantissaBitsWithoutImplicit : Int) = 52 := rfl
  unfold unpack
  dsimp only
  rw [if_neg hones, if_neg hzeros, number?_finite _ k, hnormal]
  rw [hk, hbias, hsignificand]
  push_cast
  ring

end Unpack

/-- **A pattern stands for its steps**, with the sign of its first bit, unless it is one of an
infinite float or of none. -/
theorem number?_unpack (b : BitVec Format.binary64.numBits) :
    number? (unpack .binary64 b) =
      if b.toNat % 2 ^ 63 < infinityBits then
        some (unitOf (Sign.ofBitVec (unpackSign b)) * (steps (b.toNat % 2 ^ 63) / 2 ^ 1074))
      else none := by
  have hmantissa := toNat_unpackMantissa b
  have hexponent := toNat_unpackExponent b
  have hlt : b.toNat % 2 ^ 63 < 2 ^ 63 := Nat.mod_lt _ (Nat.two_pow_pos _)
  have hinfinity : infinityBits = 2047 * 2 ^ 52 := rfl
  have hones : unpackExponent b = -1#_ ↔ (unpackExponent b).toNat = 2047 := BitVec.toNat_inj.symm
  generalize b.toNat % 2 ^ 63 = n at *
  by_cases hfull : n / 2 ^ 52 = 2047
  · rw [number?_unpack_of_ones b (hones.mpr (hexponent.trans hfull)), if_neg (by omega)]
  · rw [if_pos (by omega)]
    cases hfield : n / 2 ^ 52 with
    | zero =>
      have hzeros : unpackExponent b = 0#_ := BitVec.eq_of_toNat_eq (hexponent.trans hfield)
      have hsteps : steps n = (unpackMantissa b).toNat := by
        rw [hmantissa, steps, if_pos (by omega)]
        omega
      rw [number?_unpack_of_zeros b hzeros, hsteps]
    | succ k =>
      have hsteps : steps n = (2 ^ 52 + (unpackMantissa b).toNat) * 2 ^ k := by
        have hsplit : n = k * 2 ^ 52 + (2 ^ 52 + (unpackMantissa b).toNat) := by omega
        nth_rewrite 1 [hsplit]
        exact steps_mantissa (by omega) (.inr (by omega))
      have hnormal := mt hones.mp (hexponent ▸ hfull)
      rw [number?_unpack_of_normal b hnormal (hexponent.trans hfield), hsteps]

/-- A float has the value of the pattern that is left of its bits without the first one. -/
theorem value?_eq (x : Float) :
    value? x = if x.toBits.toNat % 2 ^ 63 < infinityBits then
        some (unitOf (if x.toBits.toNat < 2 ^ 63 then .positive else .negative) *
          (steps (x.toBits.toNat % 2 ^ 63) / 2 ^ 1074))
      else none := by
  rw [← UInt64.toNat_toBitVec, ← ofBitVec_unpackSign]
  exact number?_unpack x.toBits.toBitVec

/-! ### Floats from patterns -/

section Pattern

variable {n : Nat}

/-- A pattern up to that of infinity is that of a float. -/
theorem toBits_ofBits (hn : n ≤ infinityBits) :
    (Float.ofBits (UInt64.ofNat n)).toBits = UInt64.ofNat n := by
  have hlt : infinityBits < 2 ^ 63 := by decide
  have hnat : (UInt64.ofNat n).toBitVec.toNat = n := by
    rw [UInt64.toNat_toBitVec, UInt64.toNat_ofNat', Nat.mod_eq_of_lt (by omega)]
  have hnumber : @isNaNBits .binary64 (UInt64.ofNat n).toBitVec = false := by
    rw [isNaNBits, decide_eq_false_iff_not]
    rintro ⟨hones, hfraction⟩
    -- only the pattern of infinity has an exponent of ones, and it has no fraction
    have hexponent := toNat_unpackExponent (UInt64.ofNat n).toBitVec
    have hmantissa := toNat_unpackMantissa (UInt64.ofNat n).toBitVec
    have hinfinity : infinityBits = 2047 * 2 ^ 52 := rfl
    have hfield : (@unpackExponent .binary64 (UInt64.ofNat n).toBitVec).toNat = 2047 := by
      rw [hones]
      rfl
    rw [hnat] at hexponent hmantissa
    refine hfraction (BitVec.eq_of_toNat_eq ?_)
    rw [hmantissa, BitVec.toNat_ofNat, Nat.zero_mod]
    omega
  show UInt64.ofBitVec (pack .binary64 (unpack .binary64 (UInt64.ofNat n).toBitVec)) = _
  rw [pack_unpack, hnumber, if_neg Bool.false_ne_true]

theorem toNat_toBits_ofBits (hn : n ≤ infinityBits) :
    (Float.ofBits (UInt64.ofNat n)).toBits.toNat = n := by
  rw [toBits_ofBits hn, UInt64.toNat_ofNat', Nat.mod_eq_of_lt]
  exact lt_of_le_of_lt hn (by decide)

theorem value?_ofBits (hn : n < infinityBits) :
    value? (Float.ofBits (UInt64.ofNat n)) = some ((steps n : ℚ) / 2 ^ 1074) := by
  have hlt : n < 2 ^ 63 := lt_trans hn (by decide)
  rw [value?_eq, toNat_toBits_ofBits hn.le, Nat.mod_eq_of_lt hlt, if_pos hn, if_pos hlt, unitOf,
    one_mul]

theorem ofBits_infinityBits : Float.ofBits (UInt64.ofNat infinityBits) = 1.0 / 0.0 := by
  decide +kernel

end Pattern

/-- The values of the finite floats are those of the patterns before infinity, with both signs. -/
theorem exists_steps_of_value? {x : Float} {v : ℚ} (h : value? x = some v) :
    ∃ i < infinityBits, ∃ s, v = unitOf s * (steps i / 2 ^ 1074) := by
  rw [value?_eq] at h
  obtain ⟨hi, hv⟩ := Option.ite_none_right_eq_some.mp h
  exact ⟨_, hi, _, (Option.some_inj.mp hv).symm⟩

/-! ### Correct rounding -/

/-- From here on, halfway between the largest float and the power of two behind it, numbers are
rounded to infinity. -/
def overflowThreshold : ℚ :=
  2 ^ 1024 - 2 ^ 970

/-- Whether a float is a number that is not negative, correctly rounded: below the threshold it is
finite, no finite float is nearer, and if one with another value is as near, the float is the even
one; from the threshold on it is infinite. -/
structure IsRounded (q : ℚ) (x : Float) : Prop where
  finite : q < overflowThreshold → ∃ v, value? x = some v ∧ ∀ y w, value? y = some w →
    |v - q| ≤ |w - q| ∧ (|v - q| = |w - q| → w = v ∨ x.toBits.toNat % 2 = 0)
  infinite : overflowThreshold ≤ q → x = 1.0 / 0.0

theorem overflowThreshold_mul : overflowThreshold * 2 ^ 1074 = (2 ^ 54 - 1) * 2 ^ 2044 := by
  unfold overflowThreshold
  rw [sub_mul, sub_mul, ← pow_add, ← pow_add, ← pow_add, one_mul]

/-- A nearest pattern is nearer than those of negative floats, too. -/
theorem IsNearest.le_signed {x : ℚ} {n i : Nat} (h : IsNearest x n) (hx : 0 ≤ x)
    (hi : i ≤ infinityBits) (s : Sign) :
    |(steps n : ℚ) - x| ≤ |unitOf s * steps i - x| ∧
      (|(steps n : ℚ) - x| = |unitOf s * steps i - x| →
        unitOf s * steps i = steps n ∨ n % 2 = 0) := by
  have hpositive : ∀ i ≤ infinityBits, |(steps n : ℚ) - x| ≤ |(steps i : ℚ) - x| ∧
      (|(steps n : ℚ) - x| = |(steps i : ℚ) - x| → (steps i : ℚ) = steps n ∨ n % 2 = 0) := by
    intro i hi
    by_cases hne : i = n
    · rw [hne]
      exact ⟨le_rfl, fun _ => .inl rfl⟩
    · have hbeats := h.beats i hi hne
      exact ⟨hbeats.le, fun heq => .inr (hbeats.resolve_left heq.not_lt).2⟩
  cases s with
  | positive =>
    rw [unitOf, one_mul]
    exact hpositive i hi
  | negative =>
    -- zero is nearer than what is negative
    obtain ⟨hle, htie⟩ := hpositive 0 (Nat.zero_le _)
    have hsteps : (0 : ℚ) ≤ steps i := Nat.cast_nonneg _
    rw [show steps 0 = 0 from rfl, Nat.cast_zero, zero_sub, abs_neg, abs_of_nonneg hx] at hle htie
    rw [unitOf, neg_one_mul, abs_of_nonpos (by linarith : -(steps i : ℚ) - x ≤ 0)]
    refine ⟨by linarith, fun heq => ?_⟩
    have hzero : (steps i : ℚ) = 0 := by linarith
    rw [hzero, neg_zero]
    exact htie (by linarith)

/-- The float with the pattern nearest to a number is the number correctly rounded. -/
theorem isRounded_ofBits {q : ℚ} {n : Nat} (hq : 0 ≤ q) (h : IsNearest (q * 2 ^ 1074) n) :
    IsRounded q (Float.ofBits (UInt64.ofNat n)) := by
  have hunit : (0 : ℚ) < 2 ^ 1074 := pow_pos two_pos _
  have hinfinite : n = infinityBits ↔ overflowThreshold ≤ q := by
    rw [h.eq_infinityBits_iff, ← overflowThreshold_mul, mul_le_mul_iff_left₀ hunit]
  constructor
  · intro hlt
    have hn : n < infinityBits :=
      lt_of_le_of_ne h.le fun heq => absurd (hinfinite.mp heq) (not_le.mpr hlt)
    refine ⟨_, value?_ofBits hn, fun y w hw => ?_⟩
    rw [toNat_toBits_ofBits h.le]
    obtain ⟨i, hi, s, rfl⟩ := exists_steps_of_value? hw
    obtain ⟨hle, htie⟩ := h.le_signed (mul_nonneg hq hunit.le) hi.le s
    have hscale : ∀ z : ℚ, |z / 2 ^ 1074 - q| = |z - q * 2 ^ 1074| / 2 ^ 1074 := by
      intro z
      rw [← abs_of_pos hunit, ← abs_div, sub_div, abs_of_pos hunit,
        mul_div_cancel_right₀ q hunit.ne']
    rw [← mul_div_assoc, hscale, hscale, div_left_inj' hunit.ne', div_left_inj' hunit.ne',
      div_le_div_iff_of_pos_right hunit]
    exact ⟨hle, htie⟩
  · intro hle
    rw [hinfinite.mpr hle, ofBits_infinityBits]

/-! ### Neither negative nor undefined -/

theorem not_isNaN_of_value? {x : Float} {v : ℚ} (h : value? x = some v) : x.isNaN = false := by
  show x.toModel.unpack.isNaN = false
  unfold value? at h
  cases hx : x.toModel.unpack with
  | notANumber =>
    rw [hx] at h
    cases h
  | infinity s | zero s | finite s m e hm => rfl

theorem zero_le_of_value? {x : Float} {v : ℚ} (h : value? x = some v) (hv : 0 ≤ v) : 0.0 ≤ x := by
  refine decide_eq_true (?_ : (0.0 : Float).toModel.unpack.le x.toModel.unpack = true)
  rw [show (0.0 : Float).toModel.unpack = .zero .positive from rfl]
  unfold value? at h
  cases hx : x.toModel.unpack with
  | notANumber | infinity s =>
    rw [hx] at h
    cases h
  | zero s => rfl
  | finite s m e hm =>
    cases s with
    | positive => rfl
    | negative =>
      rw [hx] at h
      cases h
      have hpos : (0 : ℚ) < m * 2 ^ e := by positivity
      rw [unitOf, neg_one_mul] at hv
      linarith

/-- What a number that is not negative is rounded to is not negative either. -/
theorem IsRounded.nonneg {q : ℚ} {x : Float} (hq : 0 ≤ q) (h : IsRounded q x) :
    x.isNaN = false ∧ 0.0 ≤ x := by
  rcases lt_or_ge q overflowThreshold with hlt | hle
  · obtain ⟨v, hv, hnearest⟩ := h.finite hlt
    refine ⟨not_isNaN_of_value? hv, zero_le_of_value? hv ?_⟩
    have hzero := (hnearest 0.0 0 (by decide +kernel)).1
    rw [zero_sub, abs_neg, abs_of_nonneg hq] at hzero
    linarith [(abs_le.mp hzero).1]
  · rw [h.infinite hle]
    decide +kernel

/-! ### Decimals -/

/-- The number that a decimal stands for. -/
def Numeral.value (d : Numeral) : ℚ :=
  d.digits * 10 ^ d.exponent

theorem Numeral.value_nonneg (d : Numeral) : 0 ≤ d.value := by
  unfold value
  positivity

/-- A decimal is a quotient of natural numbers. -/
theorem Numeral.value_eq_div (d : Numeral) :
    d.value = (d.digits * Nat.pow 10 d.exponent.toNat : Nat) /
      (Nat.pow 10 (-d.exponent).toNat : Nat) := by
  unfold value
  rw [Nat.pow_eq, Nat.pow_eq]
  rcases Int.le_total 0 d.exponent with he | he
  · obtain ⟨e, he⟩ := Int.eq_ofNat_of_zero_le he
    rw [he, Int.toNat_natCast, Int.toNat_eq_zero.mpr (by omega), zpow_natCast]
    push_cast
    rw [div_one]
  · obtain ⟨e, he⟩ : ∃ e : Nat, d.exponent = -e := ⟨d.exponent.natAbs, by omega⟩
    rw [he, neg_neg, Int.toNat_natCast, Int.toNat_eq_zero.mpr (by omega), zpow_neg, zpow_natCast]
    push_cast
    rw [mul_one, div_eq_mul_inv]

/-- A number has no more decimal digits than `greatestDigitCount`. -/
theorem lt_pow_greatestDigitCount (n : Nat) : n < 10 ^ greatestDigitCount n := by
  calc n < 2 ^ (n.log2 + 1) := Nat.lt_log2_self
    _ ≤ 2 ^ (3 * (n.log2 / 3 + 1)) := Nat.pow_le_pow_right (by norm_num) (by omega)
    _ = 8 ^ greatestDigitCount n := by rw [Nat.pow_mul]; rfl
    _ ≤ 10 ^ greatestDigitCount n := Nat.pow_le_pow_left (by norm_num) _

/-- A positive number has no fewer decimal digits than `leastDigitCount`. -/
theorem pow_leastDigitCount_le {n : Nat} (hn : 0 < n) : 10 ^ (leastDigitCount n - 1) ≤ n := by
  have hpow : (10 ^ (3 * n.log2 / 10)) ^ 10 ≤ (2 ^ n.log2) ^ 10 := by
    calc (10 ^ (3 * n.log2 / 10)) ^ 10 = 10 ^ (3 * n.log2 / 10 * 10) := by rw [Nat.pow_mul]
      _ ≤ 10 ^ (3 * n.log2) := Nat.pow_le_pow_right (by norm_num) (by omega)
      _ = 1000 ^ n.log2 := by rw [Nat.pow_mul]
      _ ≤ 1024 ^ n.log2 := Nat.pow_le_pow_left (by norm_num) _
      _ = (2 ^ n.log2) ^ 10 := by rw [← Nat.pow_mul, Nat.mul_comm, Nat.pow_mul]
  calc 10 ^ (leastDigitCount n - 1) ≤ 2 ^ n.log2 := (Nat.pow_le_pow_iff_left (by norm_num)).mp hpow
    _ ≤ n := Nat.log2_self_le hn.ne'

/-- With more zeros behind the point than `smallestMagnitude` allows, zero is nearest. -/
theorem value_lt_of_small {d : Numeral}
    (h : greatestDigitCount d.digits + d.exponent < smallestMagnitude) :
    d.value * 2 ^ 1074 < 1 / 2 := by
  have hdigits : (d.digits : ℚ) < 10 ^ (greatestDigitCount d.digits : Int) := by
    exact_mod_cast lt_pow_greatestDigitCount d.digits
  have hvalue : d.value < 1 / 10 ^ 400 := by
    calc d.value < 10 ^ (greatestDigitCount d.digits : Int) * 10 ^ d.exponent := by
          unfold Numeral.value
          gcongr
      _ = 10 ^ (greatestDigitCount d.digits + d.exponent) := (zpow_add₀ (by norm_num) ..).symm
      _ ≤ 10 ^ (-400 : Int) := zpow_le_zpow_right₀ (by norm_num) h.le
      _ = 1 / 10 ^ 400 := by rw [zpow_neg, one_div]; rfl
  have hpow : (2 : ℚ) ^ 1075 ≤ 10 ^ 400 := by
    exact_mod_cast (by decide +kernel : 2 ^ 1075 ≤ 10 ^ 400)
  rw [lt_div_iff₀ (pow_pos (by norm_num) _)] at hvalue
  have hlt := (mul_le_mul_of_nonneg_left hpow d.value_nonneg).trans_lt hvalue
  rw [pow_succ, ← mul_assoc] at hlt
  generalize d.value * 2 ^ 1074 = x at hlt ⊢
  linarith only [hlt]

/-- With more digits before the point than `largestMagnitude` allows, infinity is nearest. -/
theorem overflowThreshold_le_of_large {d : Numeral} (hdigits : d.digits ≠ 0)
    (h : largestMagnitude < leastDigitCount d.digits + d.exponent) :
    overflowThreshold ≤ d.value := by
  have hleast : 1 ≤ leastDigitCount d.digits := Nat.le_add_left ..
  have hpow : (2 : ℚ) ^ 1024 ≤ 10 ^ 310 := by
    exact_mod_cast (by decide +kernel : 2 ^ 1024 ≤ 10 ^ 310)
  calc overflowThreshold ≤ 2 ^ 1024 := sub_le_self _ (pow_pos two_pos _).le
    _ ≤ 10 ^ (310 : Int) := hpow
    _ ≤ 10 ^ ((leastDigitCount d.digits - 1 : Nat) + d.exponent) := by
      refine zpow_le_zpow_right₀ (by norm_num) ?_
      unfold largestMagnitude at h
      omega
    _ = 10 ^ (leastDigitCount d.digits - 1) * 10 ^ d.exponent := by
      rw [zpow_add₀ (by norm_num), zpow_natCast]
    _ ≤ d.value := by
      unfold Numeral.value
      gcongr
      exact_mod_cast pow_leastDigitCount_le (Nat.pos_of_ne_zero hdigits)

theorem isRounded_nearest {num den : Nat} (hden : 0 < den) :
    IsRounded ((num : ℚ) / den) (nearest false num den) :=
  isRounded_ofBits (by positivity) (isNearest_nearestBits hden)

/-- **A decimal is rounded correctly.** -/
theorem isRounded_toFloat (d : Numeral) : IsRounded d.value (d.toFloat false) := by
  unfold Numeral.toFloat
  split
  · next hsmall =>
    refine isRounded_ofBits (n := 0) d.value_nonneg (isNearest_zero ?_ ?_)
    · exact mul_nonneg d.value_nonneg (pow_pos two_pos _).le
    · rcases hsmall with hzero | hsmall
      · rw [Numeral.value, hzero, Nat.cast_zero, zero_mul, zero_mul]
        norm_num
      · exact value_lt_of_small hsmall
  · next hsmall =>
    rw [not_or] at hsmall
    split
    · next hlarge =>
      have hle := overflowThreshold_le_of_large hsmall.1 hlarge
      have hinfinite : nearest false (Nat.pow 10 310) 1 = 1.0 / 0.0 := by decide +kernel
      exact ⟨fun hlt => absurd hlt (not_lt.mpr hle), fun _ => hinfinite⟩
    · rw [d.value_eq_div]
      exact isRounded_nearest (Nat.pow_pos (by norm_num))

end Calculator.Decimal
