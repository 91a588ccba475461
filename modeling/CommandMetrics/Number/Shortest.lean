import CommandMetrics.Number.Decimal
/-!
# The shortest digits — how a finite number is told apart

A finite number is written with the fewest digits that read back as that
number. Of two candidates of that length the nearer one is taken, and of
two equally near ones the even one. The search tries one digit, then two,
and so on: on each grid of decimals only the two neighbours of the number
can be the nearest that reads back. Seventeen digits always tell a number
of 53 bits apart; the exact expansion stands behind them, so that what is
found reads back by construction.
-/

namespace CommandMetrics

/-- Digits behind a decimal point: `0.d₁d₂d₃… * 10 ^ point`. -/
structure Digits where
  digits : List Char
  point : Int
  deriving DecidableEq, Repr

namespace Digits

/-- The digits of a decimal, without the zeros at their end. -/
def ofDecimal (d : Decimal) : Digits :=
  let all := Nat.toDigits 10 d.digits
  { digits := (all.reverse.dropWhile (· == '0')).reverse
    point := all.length + d.exponent }

/-- The one digit of zero, before the point. -/
def zero : Digits := ⟨['0'], 1⟩

end Digits

namespace Shortest

/-- The magnitude as a fraction of `10 ^ exponent`. -/
def fraction (units : Nat) (exponent : Int) : Nat × Nat :=
  if 0 ≤ exponent then (units, unitsPerOne * tenPow exponent.toNat)
  else (units * tenPow (-exponent).toNat, unitsPerOne)

/-- The power of ten just above a magnitude: it is below `10 ^ top`, and
not below the power before. Shifted up by 400 places, every positive
magnitude has a whole part. -/
def top (units : Nat) : Int :=
  Decimal.length (units * tenPow 400 / unitsPerOne) - 400

/-- The decimals of `count` digits next to a magnitude, the nearer one
first and the even one first of two equally near. -/
def neighbours (units count : Nat) : List Decimal :=
  let exponent := top units - count
  let (num, den) := fraction units exponent
  let below := num / den
  let twice := 2 * (num % den)
  if twice < den ∨ (twice = den ∧ below % 2 = 0) then [⟨below, exponent⟩, ⟨below + 1, exponent⟩]
  else [⟨below + 1, exponent⟩, ⟨below, exponent⟩]

/-- The whole expansion of a magnitude: a unit is `5 ^ 1074 * 10 ^ -1074`. -/
def exact (units : Nat) : Decimal := ⟨units * Nat.pow 5 1074, -1074⟩

/-- Whether a decimal reads back as a magnitude. -/
def readsBack (units : Nat) (d : Decimal) : Bool :=
  match Number.ofDecimal false d with
  | .finite _ read _ => read == units
  | _ => false

/-- **The shortest decimal that reads back as a magnitude.** -/
def decimal (units : Nat) : Decimal :=
  ((List.range 17).findSome? fun n => (neighbours units (n + 1)).find? (readsBack units)).getD
    (exact units)

end Shortest

/-- The shortest digits of a magnitude. -/
def Digits.ofUnits (units : Nat) : Digits :=
  if units = 0 then Digits.zero else Digits.ofDecimal (Shortest.decimal units)

end CommandMetrics
