import Calculator.Trig
import Mathlib.Algebra.Group.Nat.Defs

/-!
# Only infinite angles have no function

Turning degrees into radians never overflows: a float that is not infinite times `Trig.degree` is
not infinite (`isInf_mul_degree`), so a function fails exactly on an infinite angle
(`ofDegrees_eq_error_iff`).

The floats are taken apart for this.  The parts of a float are bounded (`bounds_of_unpack`), so
those of a product are, and rounding it to a significand of 53 bits raises the exponent by little
(`snd_shiftToTargetExponent`).  Putting the parts together again overflows only at a larger
exponent (`isInf_pack_of_lt`).
-/

namespace Calculator.Trig

open Float.Model (Format UnpackedFloat totalExponent)
open Float.Model.UnpackedFloat

/-! ### Packed floats -/

theorem isInf_unpack_iff {spec : Format} (b : BitVec spec.numBits) :
    (unpack spec b).isInf = true ↔ unpackExponent b = -1#_ ∧ unpackMantissa b = 0#_ := by
  unfold unpack
  dsimp only
  by_cases he : unpackExponent b = -1#_
  · rw [if_pos he]
    by_cases hm : unpackMantissa b = 0#_
    · rw [if_pos hm]
      exact iff_of_true rfl ⟨he, hm⟩
    · rw [if_neg hm]
      exact iff_of_false Bool.false_ne_true fun h => hm h.2
  · rw [if_neg he]
    by_cases hzero : unpackExponent b = 0#_
    · rw [if_pos hzero]
      by_cases hm : unpackMantissa b = 0#_
      · rw [dif_pos hm]
        exact iff_of_false Bool.false_ne_true fun h => he h.1
      · rw [dif_neg hm]
        exact iff_of_false Bool.false_ne_true fun h => he h.1
    · rw [if_neg hzero]
      exact iff_of_false Bool.false_ne_true fun h => he h.1

/-- An exponent that is all ones is the largest one. -/
theorem ne_allOnes_of_lt {n k : Nat} (h : k + 1 < 2 ^ n) : BitVec.ofNat n k ≠ -1#_ := by
  intro heq
  have hk := congrArg BitVec.toNat heq
  rw [BitVec.toNat_ofNat, Nat.mod_eq_of_lt (by omega), BitVec.neg_one_eq_allOnes,
    BitVec.toNat_allOnes] at hk
  omega

theorem zero_ne_allOnes (spec : Format) : (0#_ : BitVec spec.exponentBits) ≠ -1#_ := by
  have hbits : 2 ^ 1 ≤ 2 ^ spec.exponentBits := Nat.pow_le_pow_right (by decide) spec.he
  exact ne_allOnes_of_lt (by omega)

/-- Packing overflows only where the exponent is large. -/
theorem isInf_pack_of_lt {spec : Format} {s : Sign} {m : Nat} {e : Int} {hm : 0 < m}
    (he : (e + spec.exponentBias + spec.mantissaBitsWithoutImplicit).toNat + 1 <
      2 ^ spec.exponentBits) :
    (unpack spec (pack spec (.finite s m e hm))).isInf = false := by
  rw [Bool.eq_false_iff]
  unfold pack
  dsimp only
  rw [if_neg (by omega)]
  split
  · rw [Ne, isInf_unpack_iff, unpackExponent_packComponents]
    exact fun h => ne_allOnes_of_lt he h.1
  · rw [Ne, isInf_unpack_iff, unpackExponent_packComponents]
    exact fun h => zero_ne_allOnes spec h.1

theorem isInf_pack_zero {spec : Format} (s : Sign) :
    (unpack spec (pack spec (.zero s))).isInf = false := by
  rw [Bool.eq_false_iff, Ne, isInf_unpack_iff]
  show ¬ (unpackExponent (packComponents spec s 0 0) = _ ∧ _)
  rw [unpackExponent_packComponents]
  exact fun h => zero_ne_allOnes spec h.1

theorem isInf_pack_infinity {spec : Format} (s : Sign) :
    (unpack spec (pack spec (.infinity s))).isInf = true := by
  rw [isInf_unpack_iff]
  show unpackExponent (packComponents spec s _ 0) = _ ∧
    unpackMantissa (packComponents spec s _ 0) = _
  rw [unpackExponent_packComponents, unpackMantissa_packComponents]
  exact ⟨rfl, rfl⟩

theorem isInf_pack_notANumber :
    (unpack .binary64 (pack .binary64 .notANumber)).isInf = false := by
  decide +kernel

/-! ### Rounding -/

theorem mantissa_shiftRight (em : ExtendedMantissa) (n : Nat) :
    (em >>> n).mantissa = em.mantissa / 2 ^ n := by
  show (n.repeat ExtendedMantissa.shiftRightOne em).mantissa = _
  induction n with
  | zero => simp [Nat.repeat]
  | succ n ih =>
    show (n.repeat ExtendedMantissa.shiftRightOne em).mantissa / 2 = _
    rw [ih, Nat.div_div_eq_div_mul, Nat.pow_succ]

theorem roundedMantissa_le (em : ExtendedMantissa) : em.roundedMantissa ≤ em.mantissa + 1 := by
  unfold ExtendedMantissa.roundedMantissa Accuracy.roundToNearestEven
  split <;> omega

theorem log2_lt_of_lt {n k : Nat} (hk : 0 < k) (h : n < 2 ^ k) : n.log2 < k := by
  by_cases hn : n = 0
  · rw [hn, Nat.log2_zero]
    exact hk
  · exact (Nat.log2_lt hn).mpr h

theorem targetExponent_eq (k : Int) : Format.binary64.targetExponent k = max (k - 53) (-1074) :=
  rfl

/-- Shifting raises the exponent to the one that leaves 53 bits. -/
theorem snd_shiftToTargetExponent (m : Nat) (e : Int) (accuracy : Accuracy) :
    (shiftToTargetExponent .binary64 m e accuracy).2 =
      max e (max (m.log2 + 1 + e - 53) (-1074)) := by
  unfold shiftToTargetExponent shiftToExponent totalExponent
  dsimp only
  rw [targetExponent_eq]
  omega

/-- Shifting leaves at most 53 bits. -/
theorem mantissa_shiftToTargetExponent_lt (m : Nat) (e : Int) :
    (shiftToTargetExponent .binary64 m e .exact).1.mantissa < 2 ^ 53 := by
  unfold shiftToTargetExponent shiftToExponent totalExponent
  dsimp only
  rw [targetExponent_eq, mantissa_shiftRight]
  -- what is shifted out are the bits beyond the first 53
  show m / _ < _
  rw [Nat.div_lt_iff_lt_mul (Nat.two_pow_pos _), ← Nat.pow_add]
  calc m < 2 ^ (m.log2 + 1) := Nat.lt_log2_self
    _ ≤ _ := Nat.pow_le_pow_right (by decide) (by omega)

/-- Rounding shifts twice, as rounding up may take one more bit. -/
theorem roundWithAccuracy_cases (spec : Format) (s : Sign) (m : Nat) (e : Int)
    (accuracy : Accuracy) :
    let first := shiftToTargetExponent spec m e accuracy
    let second := shiftToTargetExponent spec first.1.roundedMantissa first.2 .exact
    roundWithAccuracy spec s m e accuracy = .zero s ∨
      ∃ h, roundWithAccuracy spec s m e accuracy = .finite s second.1.mantissa second.2 h := by
  intro first second
  by_cases hzero : second.1.mantissa = 0
  · exact .inl (dif_pos hzero)
  · exact .inr ⟨Nat.pos_of_ne_zero hzero, dif_neg hzero⟩

/-- A product that is not too large is not rounded to an infinite float. -/
theorem isInf_pack_roundWithAccuracy {s : Sign} {m : Nat} {e : Int} (hm : m < 2 ^ 106)
    (he : e ≤ 913) :
    (unpack .binary64 (pack .binary64 (roundWithAccuracy .binary64 s m e .exact))).isInf =
      false := by
  rcases roundWithAccuracy_cases .binary64 s m e .exact with hzero | ⟨hpos, hfinite⟩
  · rw [hzero]
    exact isInf_pack_zero s
  · rw [hfinite]
    refine isInf_pack_of_lt ?_
    -- a total exponent of 913 + 106 leaves 966 for the first shift and 967 for the second one
    have hfirst := snd_shiftToTargetExponent m e .exact
    have hbits := log2_lt_of_lt (by decide) hm
    have hround := roundedMantissa_le (shiftToTargetExponent .binary64 m e .exact).1
    have hlt := mantissa_shiftToTargetExponent_lt m e
    generalize shiftToTargetExponent .binary64 m e .exact = first at *
    have hbits' : first.1.roundedMantissa.log2 < 54 :=
      log2_lt_of_lt (by decide) (by omega)
    have hbias : (Format.binary64.exponentBias : Int) = 1023 := rfl
    have hcapacity : 2 ^ Format.binary64.exponentBits = 2048 := rfl
    have hsignificand : (Format.binary64.mantissaBitsWithoutImplicit : Int) = 52 := rfl
    rw [snd_shiftToTargetExponent, hbias, hcapacity, hsignificand]
    omega

/-! ### Products with one degree -/

/-- Whether a float that is not zero has a significand of 53 bits and an exponent up to `k`. -/
def isScaled (k : Int) : UnpackedFloat → Bool
  | .finite _ m e _ => decide (m < 2 ^ 53) && decide (e ≤ k)
  | _ => false

theorem isScaled_degree : isScaled (-58) degree.toModel.unpack = true := by
  decide +kernel

/-- The parts of a packed float are bounded. -/
theorem bounds_of_unpack {b : BitVec Format.binary64.numBits} {s : Sign} {m : Nat} {e : Int}
    {hm : 0 < m} (h : unpack .binary64 b = .finite s m e hm) : m < 2 ^ 53 ∧ e ≤ 971 := by
  have hexponent : (unpackExponent b).toNat < 2 ^ 11 := (unpackExponent b).isLt
  have hmantissa : (unpackMantissa b).toNat < 2 ^ 52 := (unpackMantissa b).isLt
  have hnormal : (1#1 ++ unpackMantissa b).toNat < 2 ^ 53 := (1#1 ++ unpackMantissa b).isLt
  have hbias : (Format.binary64.exponentBias : Int) = 1023 := rfl
  have hsignificand : (Format.binary64.mantissaBitsWithoutImplicit : Int) = 52 := rfl
  unfold unpack at h
  dsimp only at h
  by_cases hones : unpackExponent b = -1#_
  · rw [if_pos hones] at h
    by_cases hm : unpackMantissa b = 0#_
    · rw [if_pos hm] at h
      cases h
    · rw [if_neg hm] at h
      cases h
  · have hne : (unpackExponent b).toNat ≠ 2047 := by
      -- an exponent of ones only is no number's
      intro heq
      exact hones (BitVec.eq_of_toNat_eq (heq.trans rfl))
    rw [if_neg hones, hbias, hsignificand] at h
    by_cases hzero : unpackExponent b = 0#_
    · rw [if_pos hzero] at h
      by_cases hm : unpackMantissa b = 0#_
      · rw [dif_pos hm] at h
        cases h
      · rw [dif_neg hm] at h
        cases h
        rw [hzero, BitVec.toNat_ofNat, Nat.zero_mod]
        exact ⟨by omega, by omega⟩
    · rw [if_neg hzero] at h
      cases h
      exact ⟨hnormal, by omega⟩

/-- Radians are infinite where degrees are. -/
theorem isInf_mul_degree (x : Float) : (x * degree).isInf = x.isInf := by
  show (unpack .binary64 (pack .binary64
    (mul .binary64 x.toModel.unpack degree.toModel.unpack))).isInf = x.toModel.unpack.isInf
  have hdegree := isScaled_degree
  cases hd : degree.toModel.unpack with
  | notANumber | infinity _ | zero _ =>
    rw [hd] at hdegree
    cases hdegree
  | finite s₂ m₂ e₂ hm₂ =>
    rw [hd] at hdegree
    obtain ⟨hbits₂, hexponent₂⟩ : m₂ < 2 ^ 53 ∧ e₂ ≤ -58 := by
      obtain ⟨hb, he⟩ := Bool.and_eq_true_iff.mp hdegree
      exact ⟨of_decide_eq_true hb, of_decide_eq_true he⟩
    cases hx : x.toModel.unpack with
    | notANumber => exact isInf_pack_notANumber
    | infinity s => exact isInf_pack_infinity _
    | zero s => exact isInf_pack_zero _
    | finite s m e hm =>
      obtain ⟨hbits, hexponent⟩ := bounds_of_unpack hx
      refine isInf_pack_roundWithAccuracy ?_ (by omega)
      calc m * m₂ < 2 ^ 53 * 2 ^ 53 := Nat.mul_lt_mul'' hbits hbits₂
        _ = 2 ^ 106 := by decide

/-- **A function fails on infinite angles only**, and always in the same way. -/
theorem ofDegrees_eq_error_iff (f : Trig) (x : Float) (e : Fault) :
    f.ofDegrees x = .error e ↔ e = .infiniteAngle ∧ x.isInf = true := by
  unfold ofDegrees
  dsimp only
  rw [isInf_mul_degree]
  cases hx : x.isInf with
  | false => simp
  | true => simp [eq_comm]

end Calculator.Trig
