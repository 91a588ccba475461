import CommandMetrics.Number.Basic
/-!
# Decimals — a whole number of powers of ten

What a text of digits stands for before it is rounded into the format. A
`Decimal` is exact; `Number.ofDecimal` is the one place where decimals
become numbers, so whatever reads digits rounds in the same way.
-/

namespace CommandMetrics

/-- A power of ten. -/
def tenPow (n : Nat) : Nat := Nat.pow 10 n

theorem tenPow_pos (n : Nat) : 0 < tenPow n := Nat.pow_pos (by decide)

/-- The exact value `digits * 10 ^ exponent`. -/
structure Decimal where
  digits : Nat
  exponent : Int
  deriving DecidableEq, Repr

namespace Decimal

/-- How many decimal digits a natural number is written with. -/
def length (n : Nat) : Nat := (Nat.toDigits 10 n).length

/-- A decimal that is not zero lies below `10 ^ magnitude`, and not below
the power of ten before. -/
def magnitude (d : Decimal) : Int := length d.digits + d.exponent

end Decimal

namespace Number

/-- **The number nearest to a decimal.** Beyond `10 ^ 310` every decimal
rounds to an infinity and below `10 ^ -330` to a zero, so powers of ten
are raised only in between, however large the exponent. -/
def ofDecimal (negative : Bool) (d : Decimal) : Number :=
  if d.digits = 0 ∨ d.magnitude < -330 then finite negative 0 Representable.zero
  else if 310 < d.magnitude then infinity negative
  else if 0 ≤ d.exponent then
    round negative (d.digits * tenPow d.exponent.toNat * unitsPerOne) 1
  else
    round negative (d.digits * unitsPerOne) (tenPow (-d.exponent).toNat)

end Number

end CommandMetrics
