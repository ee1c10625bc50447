/-!
# The float nearest to a quotient

`nearest` gives the binary64 float nearest to a quotient of natural numbers, a tie going to the
even mantissa.  It works on exact integers: the quotient is scaled by a power of two so that its
whole part has the 53 bits of a mantissa, and rounded there once (`roundQuotient`).
-/

namespace Calculator.Decimal

/-- The whole number nearest to `num / den`; of two equally near the even one. -/
def roundQuotient (num den : Nat) : Nat :=
  let whole := num / den
  let rest := num % den
  if den < 2 * rest ∨ (2 * rest = den ∧ whole % 2 = 1) then whole + 1 else whole

/-- The least exponent of a mantissa's unit. -/
def leastExponent : Int := -1074

/-- The quotient `num / (den * 2 ^ unit)` as a pair of natural numbers. -/
def inUnits (num den : Nat) (unit : Int) : Nat × Nat :=
  (num * Nat.pow 2 (-unit).toNat, den * Nat.pow 2 unit.toNat)

/-- The exponent of the unit in which `num / den` has a mantissa of 53 bits, or the least exponent
if it has fewer bits even in that unit. -/
def unitExponent (num den : Nat) : Int :=
  let guess : Int := (num.log2 : Int) - den.log2 - 53
  let scaled := inUnits num den guess
  max (if scaled.1 / scaled.2 < Nat.pow 2 53 then guess else guess + 1) leastExponent

/-- The pattern of positive infinity. -/
def infinityBits : Nat := 0x7FF * Nat.pow 2 52

/-- The pattern of the float nearest to `num / den`, or of infinity if that is too large.  A
mantissa of 53 bits adds its leading one to the exponent field, and a carry out of rounding does
the same. -/
def nearestBits (num den : Nat) : Nat :=
  if num = 0 then 0
  else
    let unit := unitExponent num den
    let mantissa := roundQuotient (inUnits num den unit).1 (inUnits num den unit).2
    min infinityBits ((unit - leastExponent).toNat * Nat.pow 2 52 + mantissa)

/-- The float nearest to `num / den`, with the given sign. -/
def nearest (negative : Bool) (num den : Nat) : Float :=
  Float.ofBits (UInt64.ofNat (nearestBits num den + if negative then Nat.pow 2 63 else 0))

end Calculator.Decimal
