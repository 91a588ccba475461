/-!
# Numbers — the values that series, bounds and durations take

A measured value is a binary floating point number of 64 bits: a signed
magnitude of at most 53 significant bits, one of two infinities, or "not
a number". Every finite one is a whole number of units of `2 ^ -1074`,
the smallest positive number of the format, so a magnitude is kept as
that natural number. Order, equality and addition are then exact integer
arithmetic, and the only approximation is `Number.round`, which every
operation that can leave the format ends in.
-/

namespace CommandMetrics

/-- A power of two. -/
def twoPow (n : Nat) : Nat := Nat.pow 2 n

theorem twoPow_pos (n : Nat) : 0 < twoPow n := Nat.two_pow_pos n

theorem twoPow_add (m n : Nat) : twoPow (m + n) = twoPow m * twoPow n := Nat.pow_add 2 m n

theorem twoPow_le_twoPow {m n : Nat} (h : m ≤ n) : twoPow m ≤ twoPow n :=
  Nat.pow_le_pow_right (by decide) h

theorem twoPow_dvd_twoPow {m n : Nat} (h : m ≤ n) : twoPow m ∣ twoPow n := Nat.pow_dvd_pow 2 h

/-- The number of units in one. -/
def unitsPerOne : Nat := twoPow 1074

/-- The first magnitude too large for the format: `2 ^ 1024`, in units. -/
def unitsLimit : Nat := twoPow 2098

/-- A magnitude, in units of `2 ^ -1074`, that the format holds: no bit
below the leading 53, and below `2 ^ 1024`. -/
def Representable (units : Nat) : Prop :=
  units % twoPow (units.log2 - 52) = 0 ∧ units < unitsLimit

instance (units : Nat) : Decidable (Representable units) :=
  inferInstanceAs (Decidable (_ ∧ _))

namespace Representable

theorem zero : Representable 0 := ⟨Nat.zero_mod _, twoPow_pos _⟩

/-- A multiple of a power of two by at most `2 ^ 53` has no bit below the
leading 53. -/
theorem of_scaled {j s : Nat} (hj : j ≤ twoPow 53) (hlt : j * twoPow s < unitsLimit) :
    Representable (j * twoPow s) := by
  refine ⟨Nat.mod_eq_zero_of_dvd ?_, hlt⟩
  rcases Nat.eq_or_lt_of_le hj with rfl | hj
  · rw [← twoPow_add]
    have hlog : (twoPow (53 + s)).log2 = 53 + s := Nat.log2_two_pow
    exact twoPow_dvd_twoPow (by omega)
  · rcases Nat.eq_zero_or_pos j with rfl | hpos
    · simp
    · have hk : j * twoPow s ≠ 0 := Nat.ne_of_gt (Nat.mul_pos hpos (twoPow_pos s))
      have hlog : (j * twoPow s).log2 < 53 + s := by
        rw [Nat.log2_lt hk]
        exact Nat.lt_of_lt_of_eq (Nat.mul_lt_mul_of_pos_right hj (twoPow_pos s))
          (twoPow_add 53 s).symm
      exact Nat.dvd_trans (twoPow_dvd_twoPow (by omega)) (Nat.dvd_mul_left _ _)

end Representable

/-- A number: "not a number", an infinity, or a signed magnitude in units
of `2 ^ -1074`. Zero has both signs. -/
inductive Number where
  | nan
  | infinity (negative : Bool)
  | finite (negative : Bool) (units : Nat) (representable : Representable units)
  deriving DecidableEq

namespace Number

/-- Zero. -/
def zero : Number := finite false 0 Representable.zero

instance : Inhabited Number := ⟨zero⟩

/-! ## Rounding -/

/-- The nearest whole number to `num / den`, the even one of two that are
equally near. -/
def nearest (num den : Nat) : Nat :=
  let quotient := num / den
  let twice := 2 * (num % den)
  if den < twice ∨ (twice = den ∧ quotient % 2 = 1) then quotient + 1 else quotient

theorem nearest_le (num den : Nat) : nearest num den ≤ num / den + 1 := by
  unfold nearest
  dsimp only
  split <;> omega

/-- How many low bits the format has no room for in a magnitude of about
`units`. -/
def excessBits (units : Nat) : Nat := units.log2 - 52

theorem div_twoPow_excessBits_lt (units : Nat) : units / twoPow (excessBits units) < twoPow 53 := by
  rw [Nat.div_lt_iff_lt_mul (twoPow_pos _), ← twoPow_add]
  refine Nat.lt_of_lt_of_le Nat.lt_log2_self (twoPow_le_twoPow ?_)
  unfold excessBits
  omega

/-- **The format's number nearest to a rational** of `num / den` units,
ties to the even significand; an infinity where the nearest is too large
for the format. -/
def round (negative : Bool) (num den : Nat) : Number :=
  let step := twoPow (excessBits (num / den))
  let significand := nearest num (den * step)
  if h : significand * step < unitsLimit then
    finite negative (significand * step) <| by
      refine Representable.of_scaled (Nat.le_trans (nearest_le _ _) ?_) h
      rw [← Nat.div_div_eq_div_mul]
      exact div_twoPow_excessBits_lt (num / den)
  else
    infinity negative

/-! ## Whole numbers -/

/-- The number nearest to an integer, or an infinity. -/
def ofInt (n : Int) : Number :=
  round (decide (n < 0)) (n.natAbs * unitsPerOne) 1

instance (n : Nat) : OfNat Number n := ⟨ofInt n⟩

/-! ## Sign and kind -/

/-- Whether a value is "not a number". -/
def isNaN : Number → Bool
  | nan => true
  | _ => false

/-- Whether a value is one of the infinities. -/
def isInfinite : Number → Bool
  | infinity _ => true
  | _ => false

/-- A magnitude with its sign. -/
def signed (negative : Bool) (units : Nat) : Int :=
  if negative then -(units : Int) else units

/-! ## Order

Numbers are compared by their place on the line. "Not a number" has no
place, so it is neither below, nor above, nor equal to anything. -/

/-- The place of a number on the line, in units; the infinities lie beyond
every finite number. -/
def place : Number → Option Int
  | nan => none
  | infinity negative => some (signed negative unitsLimit)
  | finite negative units _ => some (signed negative units)

/-- Strictly below. -/
protected def lt (x y : Number) : Bool :=
  match x.place, y.place with
  | some a, some b => decide (a < b)
  | _, _ => false

/-- Below or equal. -/
protected def le (x y : Number) : Bool :=
  match x.place, y.place with
  | some a, some b => decide (a ≤ b)
  | _, _ => false

instance : LT Number := ⟨fun x y => x.lt y = true⟩
instance : LE Number := ⟨fun x y => x.le y = true⟩
instance (x y : Number) : Decidable (x < y) := inferInstanceAs (Decidable (_ = true))
instance (x y : Number) : Decidable (x ≤ y) := inferInstanceAs (Decidable (_ = true))

/-- Equal as numbers: the two zeros are, "not a number" is not even equal
to itself. -/
def same (x y : Number) : Bool :=
  match x.place, y.place with
  | some a, some b => decide (a = b)
  | _, _ => false

theorem lt_iff {x y : Number} :
    x < y ↔ ∃ a b, x.place = some a ∧ y.place = some b ∧ a < b := by
  change x.lt y = true ↔ _
  unfold Number.lt
  split <;> simp_all

theorem le_iff {x y : Number} :
    x ≤ y ↔ ∃ a b, x.place = some a ∧ y.place = some b ∧ a ≤ b := by
  change x.le y = true ↔ _
  unfold Number.le
  split <;> simp_all

/-! ## Addition -/

/-- The sum of two numbers, rounded. Opposite infinities have no sum, and
an exact zero is negative only when both terms are. -/
protected def add : Number → Number → Number
  | nan, _ => nan
  | _, nan => nan
  | infinity a, infinity b => if a = b then infinity a else nan
  | infinity a, finite .. => infinity a
  | finite .., infinity b => infinity b
  | finite a m _, finite b n _ =>
    let sum := signed a m + signed b n
    if sum = 0 then finite (a && b) 0 Representable.zero
    else round (decide (sum < 0)) sum.natAbs 1

instance : Add Number := ⟨Number.add⟩

end Number

end CommandMetrics
