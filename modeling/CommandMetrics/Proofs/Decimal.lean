import CommandMetrics.Number.Shortest
import CommandMetrics.Proofs.Number
/-!
# Decimals — one value, however it is written

A decimal can be written with zeros at its end and a smaller exponent, and a
fraction with common factors. Rounding knows only the value
(`ofDecimal_mul_tenPow`), and the sign is no part of it
(`withSign_ofDecimal`). So whatever shows the digits of a magnitude reads
back as that magnitude (`ofDecimal_shortest`): the search for the shortest
digits keeps only what does, and the whole expansion behind it is exact.
-/

namespace CommandMetrics

theorem tenPow_zero : tenPow 0 = 1 := rfl

theorem tenPow_add (m n : Nat) : tenPow (m + n) = tenPow m * tenPow n := Nat.pow_add 10 m n

theorem tenPow_eq (n : Nat) : tenPow n = Nat.pow 5 n * twoPow n := Nat.mul_pow 5 2 n

namespace Number

variable {num den c : Nat} {negative : Bool}

/-! ## Fractions with a common factor -/

theorem nearest_mul_right (hc : 0 < c) : nearest (num * c) (den * c) = nearest num den := by
  have htwice : 2 * (num * c % (den * c)) = 2 * (num % den) * c := by
    rw [Nat.mul_mod_mul_right, Nat.mul_assoc]
  unfold nearest
  dsimp only
  rw [Nat.mul_div_mul_right num den hc, htwice]
  simp only [Nat.mul_lt_mul_right hc, Nat.mul_left_inj (Nat.ne_of_gt hc)]

/-- **A common factor does not matter** to rounding. -/
theorem round_mul_right (hc : 0 < c) :
    round negative (num * c) (den * c) = round negative num den := by
  have hnearest : ∀ step, nearest (num * c) (den * c * step) = nearest num (den * step) := by
    intro step
    rw [Nat.mul_right_comm, nearest_mul_right hc]
  unfold round
  simp only [Nat.mul_div_mul_right num den hc, hnearest]

/-! ## Signs -/

/-- A number with the sign that is given. -/
def withSign (negative : Bool) : Number → Number
  | nan => nan
  | infinity _ => infinity negative
  | finite _ units h => finite negative units h

/-- **The sign is no part of what is rounded.** -/
theorem withSign_round (other : Bool) (num den : Nat) :
    (round other num den).withSign negative = round negative num den := by
  unfold round
  dsimp only
  split <;> rfl

theorem withSign_ofDecimal (other : Bool) (d : Decimal) :
    (ofDecimal other d).withSign negative = ofDecimal negative d := by
  unfold ofDecimal
  split
  · rfl
  · split
    · rfl
    · split <;> exact withSign_round other _ _

/-! ## Zeros at the end of a decimal -/

/-- A number has at most as many digits as the power of ten it is below, -/
theorem length_le_iff {n k : Nat} (hk : 0 < k) : Decimal.length n ≤ k ↔ n < tenPow k :=
  Nat.length_toDigits_le_iff (by decide) hk

/-- and more than the power of ten it reaches. -/
theorem lt_length_iff {n k : Nat} (hk : 0 < k) : k < Decimal.length n ↔ tenPow k ≤ n := by
  rw [← Nat.not_le, length_le_iff hk, Nat.not_lt]

/-- Each power of ten is one more digit. -/
theorem length_mul_tenPow {n : Nat} (hn : 0 < n) (k : Nat) :
    Decimal.length (n * tenPow k) = Decimal.length n + k := by
  induction k with
  | zero => rw [tenPow_zero, Nat.mul_one, Nat.add_zero]
  | succ k ih =>
    have hdigit : n * tenPow (k + 1) = 10 * (n * tenPow k) + 0 := by
      rw [tenPow_add, ← Nat.mul_assoc, Nat.mul_comm, Nat.add_zero]
      rfl
    have hpos : 0 < n * tenPow k := Nat.mul_pos hn (tenPow_pos k)
    rw [hdigit, Decimal.length, ← Nat.toDigits_append_toDigits (by decide) hpos (by decide),
      List.length_append]
    show Decimal.length (n * tenPow k) + 1 = _
    rw [ih, Nat.add_assoc]

/-- **Zeros at the end of a decimal do not matter.** They are a common
factor, or raise the power of ten, or both where the exponent changes its
sign. -/
theorem ofDecimal_mul_tenPow (negative : Bool) (n k : Nat) (e : Int) :
    ofDecimal negative ⟨n * tenPow k, e⟩ = ofDecimal negative ⟨n, e + k⟩ := by
  rcases Nat.eq_zero_or_pos n with rfl | hn
  · simp only [ofDecimal, Nat.zero_mul, true_or, if_pos]
  have hmagnitude : Decimal.magnitude ⟨n * tenPow k, e⟩ = Decimal.magnitude ⟨n, e + k⟩ := by
    simp only [Decimal.magnitude, length_mul_tenPow hn]
    omega
  have hzero : n * tenPow k = 0 ↔ n = 0 := by
    rw [Nat.mul_eq_zero, or_iff_left (Nat.ne_of_gt (tenPow_pos k))]
  unfold ofDecimal
  rw [hmagnitude]
  dsimp only
  simp only [hzero]
  split
  · rfl
  split
  · rfl
  generalize unitsPerOne = unit
  rcases Int.lt_or_le e 0 with he | he
  · rw [if_neg (Int.not_le.2 he)]
    rcases Int.lt_or_le (e + k) 0 with hek | hek
    · rw [if_neg (Int.not_le.2 hek)]
      have hexponent : (-e).toNat = (-(e + k)).toNat + k := by omega
      rw [hexponent, tenPow_add, Nat.mul_right_comm]
      exact round_mul_right (tenPow_pos k)
    -- the zeros outweigh the exponent
    · rw [if_pos hek]
      have hzeros : n * tenPow k * unit =
          n * tenPow (e + k).toNat * unit * tenPow (-e).toNat := by
        rw [Nat.mul_right_comm _ unit, Nat.mul_assoc n (tenPow _) (tenPow _), ← tenPow_add]
        congr 3
        omega
      have hfactor : round negative (n * tenPow (e + k).toNat * unit * tenPow (-e).toNat)
          (1 * tenPow (-e).toNat) = round negative (n * tenPow (e + k).toNat * unit) 1 :=
        round_mul_right (tenPow_pos _)
      rwa [Nat.one_mul, ← hzeros] at hfactor
  · rw [if_pos he, if_pos (by omega)]
    have hexponent : (e + k).toNat = k + e.toNat := by omega
    rw [hexponent, tenPow_add, ← Nat.mul_assoc]

/-! ## The shortest digits -/

theorem readsBack_iff {units : Nat} {d : Decimal} :
    Shortest.readsBack units d = true ↔
      ∃ negative h, ofDecimal false d = finite negative units h := by
  unfold Shortest.readsBack
  split
  · rename_i negative read h heq
    rw [heq, beq_iff_eq]
    constructor
    · rintro rfl
      exact ⟨negative, h, rfl⟩
    · rintro ⟨_, _, hsame⟩
      cases hsame
      rfl
  · rename_i hnot
    constructor
    · intro h
      cases h
    · rintro ⟨negative, h, heq⟩
      exact absurd heq (hnot negative units h)

/-- What reads back does so with either sign. -/
theorem ofDecimal_of_readsBack {units : Nat} {d : Decimal} (h : Shortest.readsBack units d = true)
    (hrep : Representable units) (negative : Bool) :
    ofDecimal negative d = finite negative units hrep := by
  obtain ⟨sign, _, heq⟩ := readsBack_iff.1 h
  rw [← withSign_ofDecimal false, heq]
  rfl

/-- Fives make up for the twos that a unit is short of a power of ten. -/
theorem round_five_mul (units k : Nat) :
    round negative (units * Nat.pow 5 k * twoPow k) (tenPow k) = round negative units 1 := by
  have hfactor : round negative (units * tenPow k) (1 * tenPow k) = round negative units 1 :=
    round_mul_right (tenPow_pos k)
  rwa [Nat.one_mul, tenPow_eq, ← Nat.mul_assoc, ← tenPow_eq] at hfactor

/-- **The whole expansion is exact.** -/
theorem readsBack_exact {units : Nat} (hrep : Representable units) (hunits : 0 < units) :
    Shortest.readsBack units (Shortest.exact units) = true := by
  have hfive : 0 < Nat.pow 5 1074 := by decide +kernel
  have hdigits : 0 < units * Nat.pow 5 1074 := Nat.mul_pos hunits hfive
  have hlow : 744 < Decimal.length (units * Nat.pow 5 1074) := by
    rw [lt_length_iff (by decide)]
    have hpowers : tenPow 744 ≤ Nat.pow 5 1074 := by decide +kernel
    exact Nat.le_trans hpowers (Nat.le_mul_of_pos_left _ hunits)
  have hhigh : Decimal.length (units * Nat.pow 5 1074) ≤ 1383 := by
    rw [length_le_iff (by decide)]
    have hpowers : unitsLimit * Nat.pow 5 1074 ≤ tenPow 1383 := by decide +kernel
    exact Nat.lt_of_lt_of_le (Nat.mul_lt_mul_of_pos_right hrep.2 hfive) hpowers
  have hround : ∀ k, round false (units * Nat.pow 5 k * twoPow k) (tenPow k) =
      finite false units hrep := fun k => by
    rw [round_five_mul, round_of_representable false hrep]
  have hexact := hround 1074
  refine readsBack_iff.2 ⟨false, hrep, ?_⟩
  unfold ofDecimal Shortest.exact Decimal.magnitude
  generalize Nat.pow 5 1074 = five at *
  dsimp only
  rw [if_neg (by omega), if_neg (by omega), if_neg (by decide)]
  exact hexact

/-- **The shortest digits read back as their magnitude**, with either sign. -/
theorem ofDecimal_shortest {units : Nat} (hrep : Representable units) (hunits : 0 < units)
    (negative : Bool) :
    ofDecimal negative (Shortest.decimal units) = finite negative units hrep := by
  refine ofDecimal_of_readsBack ?_ hrep negative
  unfold Shortest.decimal
  cases hfound : (List.range 17).findSome? fun n =>
      (Shortest.neighbours units (n + 1)).find? (Shortest.readsBack units) with
  | none => exact readsBack_exact hrep hunits
  | some d =>
    obtain ⟨n, -, hn⟩ := List.exists_of_findSome?_eq_some hfound
    exact List.find?_some hn

end Number

end CommandMetrics
