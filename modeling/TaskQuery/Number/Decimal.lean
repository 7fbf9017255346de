import TaskQuery.Number.Double

namespace TaskQuery

/-- The number `coefficient · 10 ^ exponent`, with a sign that a zero keeps. -/
structure Decimal where
  negative : Bool
  coefficient : Nat
  exponent : Int
  deriving DecidableEq

namespace Decimal

/-- The numerator of the magnitude over a power of ten. -/
def num (d : Decimal) : Nat :=
  d.coefficient * 10 ^ d.exponent.toNat

/-- The power of ten under the magnitude. -/
def den (d : Decimal) : Nat :=
  10 ^ (-d.exponent).toNat

/-- The double nearest to a decimal number.

Two shortcuts keep the powers of ten small. A coefficient of at least one with an exponent of 400 or more is beyond
the largest double, and a coefficient of `bits` binary digits with `10 ^ -k`, where `bits + 1100 ≤ 3 k`, lies below
2⁻¹¹⁰⁰, which rounds to zero. -/
def toDouble (d : Decimal) : Double :=
  if d.coefficient = 0 then .finite d.negative zeroCode
  else if 400 ≤ d.exponent then .infinite d.negative
  else if (d.coefficient.log2 + 1101 : Int) ≤ 3 * -d.exponent then .finite d.negative zeroCode
  else Double.ofRatio d.negative d.num d.den

end Decimal

example : (Decimal.mk false 1 400).toDouble = .infinite false := by decide +kernel

end TaskQuery
