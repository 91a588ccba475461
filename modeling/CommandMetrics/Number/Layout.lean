import CommandMetrics.Number.Shortest
/-!
# Layouts — how a number is written out

Two texts of a number are in use: the plain one, in messages, and the one
of the metrics text, which turns to powers of ten sooner and names the
infinities with a sign. Both write the same shortest digits; a `Layout`
holds what they decide differently.
-/

namespace CommandMetrics

/-- What a way of writing numbers decides. -/
structure Layout where
  /-- A positive number is written out in full below ten to this power. -/
  positiveFull : Int
  /-- The same for the magnitude of a negative number. -/
  negativeFull : Int
  infinity : String
  negativeInfinity : String
  notANumber : String

namespace Layout

/-- Numbers in messages: in full below `10 ^ 16`. -/
def plain : Layout := ⟨16, 16, "inf", "-inf", "nan"⟩

/-- Numbers in the metrics text: positive ones in full below `10 ^ 6`. -/
def metrics : Layout := ⟨6, 16, "+Inf", "-Inf", "NaN"⟩

/-- Digits around a point, with at least one on either side. -/
def full (d : Digits) : List Char :=
  if d.point ≤ 0 then
    '0' :: '.' :: List.replicate (-d.point).toNat '0' ++ d.digits
  else
    let whole := d.point.toNat
    if whole < d.digits.length then d.digits.take whole ++ '.' :: d.digits.drop whole
    else d.digits ++ List.replicate (whole - d.digits.length) '0' ++ ['.', '0']

/-- An exponent: its sign, then at least two digits, as in `1e+06` and
`1e+10`. -/
def exponent (e : Int) : List Char :=
  let digits := Nat.toDigits 10 e.natAbs
  'e' :: (if e < 0 then '-' else '+') :: (if digits.length < 2 then '0' :: digits else digits)

/-- Digits with a power of ten: one before the point, which is left out
when none follow. -/
def scientific (d : Digits) : List Char :=
  let mantissa :=
    match d.digits with
    | first :: second :: rest => first :: '.' :: second :: rest
    | digits => digits
  mantissa ++ exponent (d.point - 1)

/-- The text of a magnitude: in full from `10 ^ -4` up to the layout's
limit. -/
def magnitude (limit : Int) (d : Digits) : List Char :=
  if -4 < d.point ∧ d.point ≤ limit then full d else scientific d

/-- **The text of a number.** -/
def write (layout : Layout) : Number → String
  | .nan => layout.notANumber
  | .infinity false => layout.infinity
  | .infinity true => layout.negativeInfinity
  | .finite false units _ => String.ofList (magnitude layout.positiveFull (.ofUnits units))
  | .finite true units _ => String.ofList ('-' :: magnitude layout.negativeFull (.ofUnits units))

end Layout

/-- The plain text of a number. -/
def Number.text (x : Number) : String := Layout.plain.write x

end CommandMetrics
