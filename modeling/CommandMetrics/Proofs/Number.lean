import CommandMetrics.Number.Basic
/-!
# Numbers — counting is exact, and order is transitive

Rounding changes nothing that the format holds. The format holds every
whole number up to `2 ^ 53`, so a count kept as a number is exact that
far: `ticks` is what one reaches by adding one over and over, and
`ticks_eq_ofInt` says that it is the number of additions. From half way
between the largest number and `2 ^ 1024` on a whole number is beyond all of
them (`isInfinite_ofInt_iff`).

Order is that of places: only "not a number" has none, and nothing lies beyond
that of the infinite number (`lt_infinity_iff`). So of two numbers the one that
is not above lies below (`not_le_iff`).
-/

namespace CommandMetrics.Number

/-! ## Rounding what the format holds -/

/-- A multiple is its own nearest multiple. -/
theorem nearest_mul_cancel (k : Nat) {den : Nat} (h : 0 < den) : nearest (k * den) den = k := by
  unfold nearest
  rw [Nat.mul_div_cancel k h, Nat.mul_mod_left]
  simp only [Nat.mul_zero]
  rw [if_neg]
  omega

/-- **What the format holds is not rounded.** -/
theorem round_of_representable {units : Nat} (negative : Bool) (h : Representable units) :
    round negative units 1 = finite negative units h := by
  obtain ⟨k, hk⟩ := Nat.dvd_of_mod_eq_zero h.1
  have hunits : k * twoPow (units.log2 - 52) = units := by rw [Nat.mul_comm, ← hk]
  have hsig : nearest units (twoPow (units.log2 - 52)) = k := by
    have hcancel := nearest_mul_cancel k (twoPow_pos (units.log2 - 52))
    rwa [hunits] at hcancel
  unfold round excessBits
  simp only [Nat.div_one, Nat.one_mul, hsig, hunits, h.2, dif_pos]

/-! ## Whole numbers -/

theorem twoPow_lt_twoPow {m n : Nat} (h : m < n) : twoPow m < twoPow n :=
  Nat.pow_lt_pow_right (by decide) h

/-- Whole numbers up to `2 ^ 53` are held. -/
theorem representable_whole {n : Nat} (h : n ≤ twoPow 53) : Representable (n * unitsPerOne) := by
  refine Representable.of_scaled h ?_
  have hle : n * unitsPerOne ≤ twoPow 53 * unitsPerOne := Nat.mul_le_mul_right _ h
  unfold unitsLimit unitsPerOne at *
  rw [← twoPow_add] at hle
  exact Nat.lt_of_le_of_lt hle (twoPow_lt_twoPow (by decide))

theorem zero_eq_ofInt : (0 : Number) = ofInt (0 : Nat) := rfl

/-- **A whole number up to `2 ^ 53` is exact.** -/
theorem ofInt_natCast {n : Nat} (h : n ≤ twoPow 53) :
    ofInt n = finite false (n * unitsPerOne) (representable_whole h) := by
  have hneg : decide ((n : Int) < 0) = false := decide_eq_false (by omega)
  unfold ofInt
  rw [hneg, Int.natAbs_natCast]
  exact round_of_representable false (representable_whole h)

/-- **Sums of whole numbers are exact** as far as the sum is held. -/
theorem ofInt_add_ofInt {m n : Nat} (h : m + n ≤ twoPow 53) :
    ofInt m + ofInt n = ofInt (m + n : Nat) := by
  rw [ofInt_natCast (by omega : m ≤ twoPow 53), ofInt_natCast (by omega : n ≤ twoPow 53),
    ofInt_natCast h]
  change Number.add _ _ = _
  have hsum : signed false (m * unitsPerOne) + signed false (n * unitsPerOne)
      = ((m + n) * unitsPerOne : Nat) := by
    simp only [signed, Bool.false_eq_true, if_false]
    rw [Nat.add_mul, Int.natCast_add]
  simp only [Number.add, hsum]
  split
  · rename_i hzero
    have hz : (m + n) * unitsPerOne = 0 := by omega
    simp [hz]
  · have hneg : decide ((((m + n) * unitsPerOne : Nat) : Int) < 0) = false :=
      decide_eq_false (by omega)
    rw [hneg, Int.natAbs_natCast]
    exact round_of_representable false (representable_whole h)

/-- What is reached from zero by adding one, `n` times. -/
def ticks : Nat → Number
  | 0 => 0
  | n + 1 => ticks n + 1

@[simp] theorem ticks_zero : ticks 0 = 0 := rfl

theorem ticks_succ (n : Nat) : ticks (n + 1) = ticks n + 1 := rfl

/-- **Counting is exact** up to `2 ^ 53`. -/
theorem ticks_eq_ofInt {n : Nat} (h : n ≤ twoPow 53) : ticks n = ofInt n := by
  induction n with
  | zero => rfl
  | succ n ih =>
    rw [ticks_succ, ih (by omega)]
    exact ofInt_add_ofInt (m := n) (n := 1) h

/-- So are sums of counts. -/
theorem ofInt_add_ticks {m n : Nat} (h : m + n ≤ twoPow 53) :
    ofInt m + ticks n = ofInt (m + n : Nat) := by
  rw [ticks_eq_ofInt (by omega : n ≤ twoPow 53)]
  exact ofInt_add_ofInt h

/-- The least magnitude, in units, that is rounded to an infinity: half way
between the largest number and `2 ^ 1024`, for ties go to the even one. -/
def overflowUnits : Nat := (twoPow 54 - 1) * twoPow 2044

/-- The least whole number that is beyond every number. -/
def overflowWhole : Nat := (twoPow 54 - 1) * twoPow 970

theorem isInfinite_round_iff (negative : Bool) (units : Nat) :
    (round negative units 1).isInfinite = true ↔
      unitsLimit ≤ nearest units (twoPow (excessBits units)) * twoPow (excessBits units) := by
  unfold round
  simp only [Nat.div_one, Nat.one_mul]
  split
  · rename_i hlt
    simp only [isInfinite, Bool.false_eq_true, false_iff]
    omega
  · rename_i hge
    simp only [isInfinite, true_iff]
    omega

theorem div_le_nearest (num den : Nat) : num / den ≤ nearest num den := by
  unfold nearest
  dsimp only
  split <;> omega

/-- Below `2 ^ 53` steps, those magnitudes are rounded up to `2 ^ 53` that are
no more than half a step away. -/
theorem twoPow_le_nearest_iff {half units : Nat} (hhalf : 0 < half)
    (hlt : units < twoPow 53 * (2 * half)) :
    twoPow 53 ≤ nearest units (2 * half) ↔ (twoPow 54 - 1) * half ≤ units := by
  have h53 : twoPow 53 = 9007199254740992 := rfl
  have h54 : twoPow 54 = 18014398509481984 := rfl
  have hpos : 0 < 2 * half := by omega
  have hquotient : units / (2 * half) < twoPow 53 := (Nat.div_lt_iff_lt_mul hpos).2 hlt
  have hparts := Nat.div_add_mod units (2 * half)
  have hrest := Nat.mod_lt units hpos
  rw [h53] at hquotient ⊢
  rw [h54]
  unfold nearest
  dsimp only
  by_cases hlast : units / (2 * half) = 9007199254740991
  -- the quotient is odd, so a tie goes up
  · rw [hlast] at hparts ⊢
    split <;> omega
  · have hnext : 2 * half * (units / (2 * half) + 1) ≤ 2 * half * 9007199254740991 :=
      Nat.mul_le_mul_left _ (by omega)
    have hbelow : units < 2 * half * (units / (2 * half) + 1) := by
      rw [Nat.mul_add, Nat.mul_one]
      omega
    split <;> omega

/-- **A magnitude is rounded to an infinity** from half way between the
largest number and `2 ^ 1024` on. Where the last bit counts `2 ^ 2045` units
the rounding decides, below it is always finite and above it never. -/
theorem isInfinite_round_units (negative : Bool) (units : Nat) :
    (round negative units 1).isInfinite = true ↔ overflowUnits ≤ units := by
  have hlimit : unitsLimit = twoPow 53 * twoPow 2045 := by
    unfold unitsLimit
    rw [← twoPow_add]
  have hhalf : twoPow 2045 = 2 * twoPow 2044 := by
    have htwo : twoPow 1 = 2 := rfl
    rw [← htwo, ← twoPow_add]
  have h53 : twoPow 53 = 9007199254740992 := rfl
  have h54 : twoPow 54 = 18014398509481984 := rfl
  have hpos := twoPow_pos 2044
  rw [isInfinite_round_iff]
  unfold overflowUnits
  rcases Nat.lt_trichotomy units.log2 2097 with hlow | hmid | hhigh
  · have hle : nearest units (twoPow (excessBits units)) * twoPow (excessBits units) ≤
        twoPow 53 * twoPow 2044 := by
      refine Nat.mul_le_mul (Nat.le_trans (nearest_le _ _) (div_twoPow_excessBits_lt units))
        (twoPow_le_twoPow ?_)
      unfold excessBits
      omega
    have hunits : units < twoPow 53 * twoPow 2044 := by
      rw [← twoPow_add]
      exact Nat.lt_of_lt_of_le Nat.lt_log2_self (twoPow_le_twoPow (by omega))
    rw [h53] at hle hunits hlimit
    rw [h54]
    omega
  · have hexcess : excessBits units = 2045 := by
      unfold excessBits
      omega
    have hunits : units < twoPow 53 * (2 * twoPow 2044) := by
      rw [← hhalf, ← twoPow_add]
      exact Nat.lt_of_lt_of_le Nat.lt_log2_self (twoPow_le_twoPow (by omega))
    rw [hexcess, hlimit, Nat.mul_le_mul_right_iff (twoPow_pos 2045), hhalf]
    exact twoPow_le_nearest_iff hpos hunits
  · have hne : units ≠ 0 := by
      rintro rfl
      simp at hhigh
    have hexcess : 52 + excessBits units = units.log2 := by
      unfold excessBits
      omega
    have hunits : twoPow 52 * twoPow (excessBits units) ≤ units := by
      rw [← twoPow_add, hexcess]
      exact Nat.log2_self_le hne
    have hquotient : twoPow 52 ≤ units / twoPow (excessBits units) :=
      (Nat.le_div_iff_mul_le (twoPow_pos _)).2 hunits
    have hlarge : unitsLimit ≤ twoPow 52 * twoPow (excessBits units) := by
      rw [← twoPow_add]
      exact twoPow_le_twoPow (by omega)
    have hnearest := Nat.mul_le_mul_right (twoPow (excessBits units))
      (Nat.le_trans hquotient (div_le_nearest units (twoPow (excessBits units))))
    rw [h53] at hlimit
    rw [h54]
    omega

/-- **A whole number is beyond every number** from `2 ^ 1024 - 2 ^ 970` on, on
either side of zero. -/
theorem isInfinite_ofInt_iff {n : Int} :
    (ofInt n).isInfinite = true ↔ overflowWhole ≤ n.natAbs := by
  have hunits : overflowUnits = overflowWhole * unitsPerOne := by
    unfold overflowUnits overflowWhole unitsPerOne
    rw [Nat.mul_assoc, ← twoPow_add]
  have hpos : 0 < unitsPerOne := twoPow_pos 1074
  unfold ofInt
  rw [isInfinite_round_units, hunits, Nat.mul_le_mul_right_iff hpos]

/-! ## Order -/

theorem le_trans {x y z : Number} (hxy : x ≤ y) (hyz : y ≤ z) : x ≤ z := by
  obtain ⟨a, b, ha, hb, hab⟩ := le_iff.1 hxy
  obtain ⟨b', c, hb', hc, hbc⟩ := le_iff.1 hyz
  rw [hb] at hb'
  cases hb'
  exact le_iff.2 ⟨a, c, ha, hc, by omega⟩

/-- Whatever is a number has a place. -/
theorem exists_place {x : Number} (h : x.isNaN = false) : ∃ a, x.place = some a := by
  cases x with
  | nan => cases h
  | infinity negative => exact ⟨_, rfl⟩
  | finite negative units hrep => exact ⟨_, rfl⟩

/-- A sign takes no whole number above itself. -/
theorem signed_le (negative : Bool) (n : Nat) : signed negative n ≤ n := by
  unfold signed
  split <;> omega

/-- No place lies beyond the infinite one. -/
theorem place_le_unitsLimit {x : Number} {a : Int} (h : x.place = some a) : a ≤ unitsLimit := by
  cases x with
  | nan => cases h
  | infinity negative =>
    cases h
    exact signed_le negative unitsLimit
  | finite negative units hrep =>
    cases h
    have hbelow := hrep.2
    have hsigned := signed_le negative units
    omega

/-- What has a place is a number. -/
theorem isNaN_of_place {x : Number} {a : Int} (h : x.place = some a) : x.isNaN = false := by
  cases x with
  | nan => cases h
  | infinity => rfl
  | finite => rfl

/-- "Not a number" is below nothing. -/
theorem isNaN_of_le {x y : Number} (h : x ≤ y) : x.isNaN = false := by
  obtain ⟨a, -, ha, -, -⟩ := le_iff.1 h
  exact isNaN_of_place ha

/-- **Whatever is a number is at most infinite.** -/
theorem le_infinity_iff {x : Number} : x ≤ infinity false ↔ x.isNaN = false := by
  constructor
  · exact isNaN_of_le
  · intro h
    obtain ⟨a, ha⟩ := exists_place h
    exact le_iff.2 ⟨a, unitsLimit, ha, rfl, place_le_unitsLimit ha⟩

/-- "Not a number" lies below nothing, -/
theorem isNaN_of_lt {x y : Number} (h : x < y) : x.isNaN = false := by
  obtain ⟨a, -, ha, -, -⟩ := lt_iff.1 h
  exact isNaN_of_place ha

/-- and nothing lies below it. -/
theorem isNaN_of_gt {x y : Number} (h : x < y) : y.isNaN = false := by
  obtain ⟨-, b, -, hb, -⟩ := lt_iff.1 h
  exact isNaN_of_place hb

theorem lt_trans {x y z : Number} (hxy : x < y) (hyz : y < z) : x < z := by
  obtain ⟨a, b, ha, hb, hab⟩ := lt_iff.1 hxy
  obtain ⟨b', c, hb', hc, hbc⟩ := lt_iff.1 hyz
  have hsame : b = b' := Option.some.inj (hb.symm.trans hb')
  exact lt_iff.2 ⟨a, c, ha, hc, by omega⟩

theorem le_of_lt {x y : Number} (h : x < y) : x ≤ y := by
  obtain ⟨a, b, ha, hb, hab⟩ := lt_iff.1 h
  exact le_iff.2 ⟨a, b, ha, hb, by omega⟩

theorem lt_irrefl (x : Number) : ¬ x < x := by
  intro h
  obtain ⟨a, b, ha, hb, hab⟩ := lt_iff.1 h
  have hsame : a = b := Option.some.inj (ha.symm.trans hb)
  omega

/-- **Of two numbers one is at most the other or lies above it.** -/
theorem not_le_iff {x y : Number} (hx : x.isNaN = false) (hy : y.isNaN = false) :
    ¬ x ≤ y ↔ y < x := by
  obtain ⟨a, ha⟩ := exists_place hx
  obtain ⟨b, hb⟩ := exists_place hy
  rw [le_iff, lt_iff]
  constructor
  · intro hnot
    have hba : b < a := Int.not_le.1 fun hab => hnot ⟨a, b, ha, hb, hab⟩
    exact ⟨b, a, hb, ha, hba⟩
  · rintro ⟨b', a', hb', ha', hba⟩ ⟨a'', b'', ha'', hb'', hab⟩
    have hsame : a' = a'' := Option.some.inj (ha'.symm.trans ha'')
    have hsame' : b' = b'' := Option.some.inj (hb'.symm.trans hb'')
    omega

/-- Nothing lies above the infinite place. -/
theorem not_infinity_lt (x : Number) : ¬ infinity false < x := by
  intro h
  obtain ⟨a, b, ha, hb, hab⟩ := lt_iff.1 h
  have hlimit : (unitsLimit : Int) = a := Option.some.inj ha
  have hbelow := place_le_unitsLimit hb
  omega

/-- **Every other number lies below the infinite one.** -/
theorem lt_infinity_iff {x : Number} :
    x < infinity false ↔ x.isNaN = false ∧ x ≠ infinity false := by
  constructor
  · intro h
    refine ⟨isNaN_of_lt h, ?_⟩
    rintro rfl
    exact lt_irrefl _ h
  · rintro ⟨hnan, hne⟩
    have hlimit : (0 : Int) < unitsLimit := Int.natCast_pos.2 (twoPow_pos _)
    cases x with
    | nan => cases hnan
    | infinity negative =>
      cases negative with
      | false => exact absurd rfl hne
      | true => exact lt_iff.2 ⟨-unitsLimit, unitsLimit, rfl, rfl, by omega⟩
    | finite negative units hrep =>
      have hsigned := signed_le negative units
      have hbelow := hrep.2
      exact lt_iff.2 ⟨signed negative units, unitsLimit, rfl, rfl, by omega⟩

/-- Whether a value is a magnitude: neither an infinity nor "not a number". -/
def isFinite : Number → Bool
  | finite .. => true
  | _ => false

/-- **A number above zero is finite unless it is the infinite one.** -/
theorem isFinite_eq_false_iff {x : Number} (hpos : 0 < x) :
    x.isFinite = false ↔ x = infinity false := by
  constructor
  · intro h
    cases x with
    | nan => exact absurd (isNaN_of_gt hpos) (by decide)
    | infinity negative =>
      cases negative with
      | false => rfl
      | true => exact absurd hpos (by decide +kernel)
    | finite => cases h
  · rintro rfl
    rfl

end CommandMetrics.Number
