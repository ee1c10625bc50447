/-!
# The shortest decimal that reads back

A finite float stands for all reals that round to it.  `shortest` gives, of the decimals among
them with the fewest digits, the one nearest to the float itself.  The search works on exact
integers: on the grid of decimals with `n` digits only the two neighbours of the float's value can
be among those reals if any decimal of the grid is, so they are tested for `n = 1, 2, …`.
-/

namespace Calculator.Decimal

/-- The decimal `digits * 10 ^ exponent`. -/
structure Numeral where
  digits : Nat
  exponent : Int
deriving Repr, DecidableEq, Inhabited

/-- The value `mantissa * 2 ^ exponent` of a finite float without its sign. -/
structure Dyadic where
  mantissa : Nat
  exponent : Int
  /-- Whether the next float below is only half as far away as the next one above. -/
  narrowBelow : Bool
deriving Repr, DecidableEq

/-- The value of a finite float with the given pattern. -/
def Dyadic.ofBits (bits : UInt64) : Dyadic :=
  let field : Nat := (bits.toNat / Nat.pow 2 52) % Nat.pow 2 11
  let fraction := bits.toNat % Nat.pow 2 52
  if field = 0 then ⟨fraction, -1074, false⟩
  else ⟨Nat.pow 2 52 + fraction, (field : Int) - 1075, fraction = 0 ∧ field ≠ 1⟩

/-- Compares a decimal with `n * 2 ^ k`. -/
def Numeral.compareDyadic (d : Numeral) (n : Nat) (k : Int) : Ordering :=
  compare (d.digits * Nat.pow 10 d.exponent.toNat * Nat.pow 2 (-k).toNat)
    (n * Nat.pow 2 k.toNat * Nat.pow 10 (-d.exponent).toNat)

/-- Whether a decimal is among the reals that round to `x`.  They reach half way to the two
neighbours, and the half way points themselves belong to the even mantissa. -/
def Dyadic.roundsTo (x : Dyadic) (d : Numeral) : Bool :=
  let low := d.compareDyadic (if x.narrowBelow then 4 * x.mantissa - 1 else 4 * x.mantissa - 2)
    (x.exponent - 2)
  let high := d.compareDyadic (4 * x.mantissa + 2) (x.exponent - 2)
  if x.mantissa % 2 = 0 then low != .lt && high != .gt else low == .gt && high == .lt

/-- The number of decimal digits of `n`. -/
def digitCount (n : Nat) : Nat :=
  (Nat.toDigits 10 n).length

/-- The number of digits before the point of a positive value, which is not positive itself when
zeros follow the point. -/
def Dyadic.magnitude (x : Dyadic) : Int :=
  let num := x.mantissa * Nat.pow 2 x.exponent.toNat
  let den := Nat.pow 2 (-x.exponent).toNat
  if den ≤ num then digitCount (num / den) else 1 - digitCount (den / num)

/-- The largest multiple of `10 ^ grid` that is not above the value. -/
def Dyadic.floorOn (x : Dyadic) (grid : Int) : Numeral :=
  ⟨x.mantissa * Nat.pow 2 x.exponent.toNat * Nat.pow 10 (-grid).toNat /
    (Nat.pow 2 (-x.exponent).toNat * Nat.pow 10 grid.toNat), grid⟩

/-- Of two neighbours on a grid, the one nearer to the value; of two equally near the even one. -/
def Dyadic.nearer (x : Dyadic) (below above : Numeral) : Numeral :=
  match Numeral.compareDyadic ⟨below.digits + above.digits, below.exponent⟩ (2 * x.mantissa)
      x.exponent with
  | .lt => above
  | .gt => below
  | .eq => if below.digits % 2 = 0 then below else above

/-- The decimal on a grid that rounds to the value, the nearer one if there are two. -/
def Dyadic.onGrid? (x : Dyadic) (grid : Int) : Option Numeral :=
  let below := x.floorOn grid
  let above : Numeral := ⟨below.digits + 1, grid⟩
  match x.roundsTo below, x.roundsTo above with
  | true, true => some (x.nearer below above)
  | true, false => some below
  | false, true => some above
  | false, false => none

/-- The value itself, written out as a decimal. -/
def Dyadic.exact (x : Dyadic) : Numeral :=
  ⟨x.mantissa * Nat.pow 2 x.exponent.toNat * Nat.pow 5 (-x.exponent).toNat, min x.exponent 0⟩

/-- The digits without the zeros at their end. -/
def Numeral.trimmed (d : Numeral) : Numeral :=
  go (digitCount d.digits) d
where
  /-- Takes off at most the given number of zeros. -/
  go : Nat → Numeral → Numeral
    | 0, d => d
    | n + 1, d => if d.digits % 10 = 0 then go n ⟨d.digits / 10, d.exponent + 1⟩ else d

/-- The decimal with the fewest digits that rounds to a positive value, the nearest of those.
Seventeen digits always suffice. -/
def Dyadic.shortest (x : Dyadic) : Numeral :=
  let magnitude := x.magnitude
  (((List.range 17).findSome? fun (n : Nat) => x.onGrid? (magnitude - n - 1)).getD x.exact).trimmed

end Calculator.Decimal
