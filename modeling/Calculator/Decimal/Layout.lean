import Calculator.Decimal.Shortest

/-!
# Laying out the digits of a number

A number is written positionally while its exponent is moderate and with an exponent otherwise.
-/

namespace Calculator.Decimal

/-- The decisions about the written form of floats. -/
structure Layout where
  /-- The least exponent of the leading digit that is written positionally. -/
  least : Int
  /-- The first exponent of the leading digit that is no longer written positionally. -/
  limit : Int
  /-- The least number of digits of a written exponent. -/
  exponentWidth : Nat

/-- `n` in decimal, with zeros in front up to the given width. -/
def padded (width n : Nat) : String :=
  let digits := Nat.toDigits 10 n
  String.ofList (List.replicate (width - digits.length) '0' ++ digits)

/-- The digits with a point, `before` of them in front of it; zeros fill up on either side, and at
least one digit stands on both. -/
def positional (digits : List Char) (before : Int) : String :=
  let whole := digits.take before.toNat ++ List.replicate (before.toNat - digits.length) '0'
  let fraction := List.replicate (-before).toNat '0' ++ digits.drop before.toNat
  String.ofList ((if whole.isEmpty then ['0'] else whole) ++ '.' ::
    (if fraction.isEmpty then ['0'] else fraction))

/-- The first digit, the others behind a point, and the exponent with its sign. -/
def Layout.scientific (layout : Layout) (digits : List Char) (exponent : Int) : String :=
  let lead := String.ofList <| match digits with
    | [] => []
    | [d] => [d]
    | d :: ds => d :: '.' :: ds
  lead ++ (if exponent < 0 then "e-" else "e+") ++ padded layout.exponentWidth exponent.natAbs

/-- A decimal in its written form. -/
def Layout.numeral (layout : Layout) (d : Numeral) : String :=
  let digits := Nat.toDigits 10 d.digits
  let before : Int := digits.length + d.exponent
  if layout.least ≤ before - 1 ∧ before - 1 < layout.limit then positional digits before
  else layout.scientific digits (before - 1)

/-- A float in its written form: a sign where it is negative, and the shortest digits that read
back. -/
def Layout.float (layout : Layout) (x : Float) : String :=
  if x.isNaN then "nan"
  else
    let sign := if x.toBits < 0x8000000000000000 then "" else "-"
    let value := Dyadic.ofBits x.toBits
    if x.isInf then sign ++ "inf"
    else if value.mantissa = 0 then sign ++ "0.0"
    else sign ++ layout.numeral value.shortest

end Calculator.Decimal
