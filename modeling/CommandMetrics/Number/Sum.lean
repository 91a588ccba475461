import CommandMetrics.Number.Basic
/-!
# Sums — how a list of numbers is added up

Every addition rounds, so a sum depends on how it is formed. A histogram adds
what it observes one by one. The sum of a list is formed by the interpreter
that runs the program: before version 3.12 it adds one by one as well
(`sumInOrder`), since then it keeps apart what rounding takes and puts it back
at the end (`sumCompensated`). What relies on the first says so
(`AddsInOrder`).
-/

namespace CommandMetrics.Number

/-- The number of the other sign. -/
protected def neg : Number → Number
  | nan => nan
  | infinity negative => infinity (!negative)
  | finite negative units representable => finite (!negative) units representable

instance : Neg Number := ⟨Number.neg⟩
instance : Sub Number := ⟨fun x y => x + -y⟩

/-- The number without its sign. -/
def abs : Number → Number
  | nan => nan
  | infinity _ => infinity false
  | finite _ units representable => finite false units representable

/-- **The sum of numbers, one by one** from zero on, as interpreters before
version 3.12 form it. -/
def sumInOrder (xs : List Number) : Number := xs.foldl (· + ·) 0

/-- A way to form sums that adds one by one. -/
def AddsInOrder (sum : List Number → Number) : Prop := ∀ xs, sum xs = sumInOrder xs

/-- A sum in the making, and what rounding took from it so far. -/
structure Compensation where
  sum : Number
  taken : Number

namespace Compensation

/-- Adds a number. What rounding takes is the difference between the smaller
of the two terms and what the new sum holds beside the larger one. -/
def add (c : Compensation) (x : Number) : Compensation :=
  let sum := c.sum + x
  let taken := if x.abs ≤ c.sum.abs then c.sum - sum + x else x - sum + c.sum
  ⟨sum, c.taken + taken⟩

/-- The sum with what was taken put back, unless that is no finite number. -/
def result (c : Compensation) : Number :=
  if c.taken.isNaN || c.taken.isInfinite || c.taken.same 0 then c.sum else c.sum + c.taken

end Compensation

/-- **The sum of numbers with what rounding took put back**, as interpreters
form it from version 3.12 on. -/
def sumCompensated : List Number → Number
  | [] => 0
  | x :: rest => (rest.foldl Compensation.add ⟨0 + x, 0⟩).result

end CommandMetrics.Number
