import CommandMetrics.Number.Layout
import CommandMetrics.Numeral
import CommandMetrics.Proofs.Decimal
import Mathlib.Data.List.TakeWhile
/-!
# Numerals — what is written is read back

Digits around a point, or with a power of ten behind them, all stand for the
decimal of the digits (`Digits.decimal`), whatever zeros are added to place
the point. A layout only decides which of the two is written, so a finite
number is read back from any layout (`plain?_write_finite`), and one of the
metrics text is read back altogether (`plain?_metrics`).
-/

namespace CommandMetrics

namespace Numeral

variable {digits whole fraction rest : List Char}

/-! ## Runs of digits -/

theorem natural_eq (digits : List Char) : natural digits = Nat.ofDigitChars 10 digits 0 :=
  Nat.ofDigitChars_eq_foldl.symm

theorem natural_toDigits (n : Nat) : natural (Nat.toDigits 10 n) = n := by
  rw [natural_eq, Nat.ofDigitChars_ten_toDigits]

/-- Zeros behind a run of digits raise it by powers of ten, -/
theorem natural_append_zeros (digits : List Char) (k : Nat) :
    natural (digits ++ List.replicate k '0') = natural digits * tenPow k := by
  rw [natural_eq, natural_eq, Nat.ofDigitChars_append, Nat.ofDigitChars_replicate_zero,
    Nat.mul_comm]
  rfl

/-- and zeros in front of it do nothing. -/
theorem natural_zeros_append (digits : List Char) (k : Nat) :
    natural (List.replicate k '0' ++ digits) = natural digits := by
  rw [natural_eq, natural_eq, Nat.ofDigitChars_append, Nat.ofDigitChars_replicate_zero,
    Nat.mul_zero]

/-- Nothing but digits. -/
def AllDigits (digits : List Char) : Prop := ∀ c ∈ digits, c.isDigit = true

theorem allDigits_toDigits (n : Nat) : AllDigits (Nat.toDigits 10 n) := fun _ hc =>
  Nat.isDigit_of_mem_toDigits (b := 10) (by decide) (by decide) hc

theorem allDigits_zeros (k : Nat) : AllDigits (List.replicate k '0') := fun c hc => by
  rw [List.eq_of_mem_replicate hc]
  rfl

theorem AllDigits.append (hwhole : AllDigits whole) (hfraction : AllDigits fraction) :
    AllDigits (whole ++ fraction) := fun c hc =>
  (List.mem_append.1 hc).elim (hwhole c) (hfraction c)

/-- What does not begin with a digit. -/
def Stops (rest : List Char) : Prop := ∀ c, rest.head? = some c → c.isDigit = false

theorem stops_nil : Stops [] := fun c hc => by cases hc

theorem stops_cons {c : Char} (hc : c.isDigit = false) (rest : List Char) : Stops (c :: rest) :=
  fun _ heq => Option.some.inj heq ▸ hc

/-- A run of digits is taken whole, -/
theorem takeWhile_digits (hdigits : AllDigits digits) (hrest : Stops rest) :
    (digits ++ rest).takeWhile Char.isDigit = digits := by
  rw [List.takeWhile_append_of_pos hdigits]
  cases rest with
  | nil => rw [List.takeWhile_nil, List.append_nil]
  | cons c rest =>
    rw [List.takeWhile_cons_of_neg (by simp [hrest c rfl]), List.append_nil]

/-- and what follows it is left. -/
theorem dropWhile_digits (hdigits : AllDigits digits) (hrest : Stops rest) :
    (digits ++ rest).dropWhile Char.isDigit = rest := by
  rw [List.dropWhile_append_of_pos hdigits]
  cases rest with
  | nil => rfl
  | cons c rest => rw [List.dropWhile_cons_of_neg (by simp [hrest c rfl])]

/-! ## Decimals in a text -/

/-- **Digits without a point.** -/
theorem decimal?_whole (hwhole : AllDigits whole) (hne : whole ≠ []) (hrest : Stops rest)
    (hpoint : rest.head? ≠ some '.') :
    decimal? (whole ++ rest) = (exponent? rest).map fun e => ⟨natural whole, e⟩ := by
  unfold decimal?
  rw [takeWhile_digits hwhole hrest, dropWhile_digits hwhole hrest]
  have hempty : whole.isEmpty = false := List.isEmpty_eq_false_iff.2 hne
  dsimp only
  split
  · rename_i more
    exact absurd rfl hpoint
  · simp [hempty]

/-- **Digits around a point.** -/
theorem decimal?_point (hwhole : AllDigits whole) (hne : whole ≠ [])
    (hfraction : AllDigits fraction) (hrest : Stops rest) :
    decimal? (whole ++ '.' :: (fraction ++ rest)) =
      (exponent? rest).map fun e => ⟨natural (whole ++ fraction), e - fraction.length⟩ := by
  have hstop : Stops ('.' :: (fraction ++ rest)) := stops_cons rfl _
  have hempty : whole.isEmpty = false := List.isEmpty_eq_false_iff.2 hne
  unfold decimal?
  rw [takeWhile_digits hwhole hstop, dropWhile_digits hwhole hstop]
  simp only [takeWhile_digits hfraction hrest, dropWhile_digits hfraction hrest, hempty,
    Bool.false_and, Bool.false_eq_true, if_false]

/-- The same without an exponent. -/
theorem decimal?_fraction (hwhole : AllDigits whole) (hne : whole ≠ [])
    (hfraction : AllDigits fraction) :
    decimal? (whole ++ '.' :: fraction) =
      some ⟨natural (whole ++ fraction), -fraction.length⟩ := by
  have hread := decimal?_point hwhole hne hfraction stops_nil
  rw [List.append_nil] at hread
  rw [hread, exponent?, Option.map_some, Int.zero_sub]

/-- An exponent is the letter, a sign and the digits of its magnitude. -/
theorem exists_exponent (e : Int) : ∃ digits,
    Layout.exponent e = 'e' :: (if e < 0 then '-' else '+') :: digits ∧
      AllDigits digits ∧ digits ≠ [] ∧ natural digits = e.natAbs := by
  have hdigits := allDigits_toDigits e.natAbs
  have hvalue := natural_toDigits e.natAbs
  refine ⟨_, rfl, ?_⟩
  split
  · exact ⟨(allDigits_zeros 1).append hdigits, List.cons_ne_nil _ _,
      (natural_zeros_append _ 1).trans hvalue⟩
  · exact ⟨hdigits, Nat.toDigits_ne_nil, hvalue⟩

/-- **An exponent is read back.** -/
theorem exponent?_exponent (e : Int) : exponent? (Layout.exponent e) = some e := by
  obtain ⟨digits, heq, hdigits, hne, hvalue⟩ := exists_exponent e
  have hall : digits.all Char.isDigit = true := List.all_eq_true.2 hdigits
  have hempty : digits.isEmpty = false := List.isEmpty_eq_false_iff.2 hne
  have hbelow : exponent? ('e' :: '-' :: digits) = some (-(natural digits : Int)) := by
    simp [exponent?, sign, hall, hempty]
  have habove : exponent? ('e' :: '+' :: digits) = some (natural digits : Int) := by
    simp [exponent?, sign, hall, hempty]
  rw [heq]
  by_cases he : e < 0
  · rw [if_pos he, hbelow, hvalue]
    congr 1
    omega
  · rw [if_neg he, habove, hvalue]
    congr 1
    omega

/-! ## Characters that no decimal is written with -/

/-- A character that is neither a digit nor anything else of a decimal. -/
def IsStray (c : Char) : Prop := c.isDigit = false ∧ c ∉ ['.', 'e', 'E', '+', '-']

instance (c : Char) : Decidable (IsStray c) := inferInstanceAs (Decidable (_ ∧ _))

section Stray

variable {c : Char} {text : List Char}

theorem AllDigits.notMem (h : AllDigits digits) (hc : IsStray c) : c ∉ digits := fun hmem =>
  Bool.false_ne_true (hc.1 ▸ h _ hmem)

/-- A sign is taken off, or there is none. -/
theorem sign_cases (text : List Char) :
    (∃ first ∈ ['+', '-'], text = first :: (sign text).2) ∨ (sign text).2 = text := by
  unfold sign
  split
  · exact .inl ⟨'-', by decide, rfl⟩
  · exact .inl ⟨'+', by decide, rfl⟩
  · exact .inr rfl

/-- It takes no other character with it. -/
theorem mem_sign_iff (hc : IsStray c) : c ∈ (sign text).2 ↔ c ∈ text := by
  rcases sign_cases text with ⟨first, hfirst, heq⟩ | heq
  · have hne : c ≠ first := by
      rintro rfl
      exact hc.2 (List.mem_cons_of_mem _ (List.mem_cons_of_mem _ (List.mem_cons_of_mem _ hfirst)))
    have htext : c ∈ text ↔ c ∈ first :: (sign text).2 := by rw [← heq]
    rw [htext, List.mem_cons, or_iff_right hne]
  · rw [heq]

theorem notMem_of_exponent? (hc : IsStray c) {e : Int} (h : exponent? rest = some e) :
    c ∉ rest := by
  unfold exponent? at h
  split at h
  · exact List.not_mem_nil
  · rename_i letter rest
    dsimp only at h
    split at h
    · rename_i hform
      obtain ⟨hletter, -, hdigits⟩ := hform
      have hfirst : c ≠ letter := by
        rintro rfl
        exact hc.2 (by rcases hletter with rfl | rfl <;> decide)
      refine List.not_mem_cons_of_ne_of_not_mem hfirst fun hmem => ?_
      exact AllDigits.notMem (List.all_eq_true.1 hdigits) hc ((mem_sign_iff hc).2 hmem)
    · cases h

/-- **What reads as a decimal is written without such characters.** -/
theorem notMem_of_decimal? (hc : IsStray c) {d : Decimal} (h : decimal? text = some d) :
    c ∉ text := by
  have hrun : ∀ text : List Char, c ∉ text.dropWhile Char.isDigit → c ∉ text := by
    intro text hrest hmem
    have hsplit : text.takeWhile Char.isDigit ++ text.dropWhile Char.isDigit = text :=
      List.takeWhile_append_dropWhile
    rw [← hsplit, List.mem_append] at hmem
    rcases hmem with hmem | hmem
    · exact Bool.false_ne_true (hc.1 ▸ List.mem_takeWhile_imp hmem)
    · exact hrest hmem
  refine hrun text ?_
  unfold decimal? at h
  dsimp only at h
  split at h
  · rename_i more hafter
    split at h
    · cases h
    · obtain ⟨e, he, -⟩ := Option.map_eq_some_iff.1 h
      rw [hafter]
      have hpoint : c ≠ '.' := fun heq => hc.2 (heq ▸ List.mem_cons_self)
      exact List.not_mem_cons_of_ne_of_not_mem hpoint (hrun more (notMem_of_exponent? hc he))
  · split at h
    · cases h
    · obtain ⟨e, he, -⟩ := Option.map_eq_some_iff.1 h
      exact notMem_of_exponent? hc he

end Stray

end Numeral

/-! ## Digits behind a point -/

namespace Digits

variable {t : Digits}

/-- The decimal that digits behind a point stand for. -/
def decimal (t : Digits) : Decimal := ⟨Numeral.natural t.digits, t.point - t.digits.length⟩

/-- **Digits in order**: nothing else, and one at least. -/
structure Proper (t : Digits) : Prop where
  nonempty : t.digits ≠ []
  digit : Numeral.AllDigits t.digits

theorem proper_zero : zero.Proper where
  nonempty := List.cons_ne_nil _ _
  digit := Numeral.allDigits_zeros 1

/-- Zeros at the end of digits can be left out. -/
theorem exists_zeros (all : List Char) :
    ∃ k, all = (all.reverse.dropWhile (· == '0')).reverse ++ List.replicate k '0' := by
  obtain ⟨k, hzeros⟩ : ∃ k, all.reverse.takeWhile (· == '0') = List.replicate k '0' :=
    ⟨_, List.eq_replicate_iff.2 ⟨rfl, fun c hc => by simpa using List.mem_takeWhile_imp hc⟩⟩
  have hsplit : List.replicate k '0' ++ all.reverse.dropWhile (· == '0') = all.reverse := by
    rw [← hzeros]
    exact List.takeWhile_append_dropWhile
  refine ⟨k, ?_⟩
  rw [← List.reverse_replicate, ← List.reverse_append, hsplit, List.reverse_reverse]

/-- **What is left of a decimal without the zeros at its end** has its value, -/
theorem ofDecimal_decimal (negative : Bool) (d : Decimal) :
    Number.ofDecimal negative (ofDecimal d).decimal = Number.ofDecimal negative d := by
  obtain ⟨n, e⟩ := d
  obtain ⟨k, hk⟩ := exists_zeros (Nat.toDigits 10 n)
  have hdigits : n = Numeral.natural (ofDecimal ⟨n, e⟩).digits * tenPow k := by
    rw [← Numeral.natural_append_zeros]
    exact (Numeral.natural_toDigits n).symm.trans (congrArg _ hk)
  have hlength : (Nat.toDigits 10 n).length = (ofDecimal ⟨n, e⟩).digits.length + k := by
    have hsum := congrArg List.length hk
    rwa [List.length_append, List.length_replicate] at hsum
  have hpoint : (ofDecimal ⟨n, e⟩).point = (Nat.toDigits 10 n).length + e := rfl
  have hexponent : (ofDecimal ⟨n, e⟩).point - (ofDecimal ⟨n, e⟩).digits.length = e + k := by
    omega
  rw [decimal, hexponent, ← Number.ofDecimal_mul_tenPow, ← hdigits]

/-- and is in order, unless nothing is left. -/
theorem proper_ofDecimal {d : Decimal} (hd : d.digits ≠ 0) : (ofDecimal d).Proper where
  nonempty hnil := by
    obtain ⟨k, hk⟩ := exists_zeros (Nat.toDigits 10 d.digits)
    have hvalue := Numeral.natural_append_zeros (ofDecimal d).digits k
    have hall : Nat.toDigits 10 d.digits = (ofDecimal d).digits ++ List.replicate k '0' := hk
    rw [← hall, Numeral.natural_toDigits, hnil] at hvalue
    exact hd (hvalue.trans (Nat.zero_mul _))
  digit c hc := by
    obtain ⟨k, hk⟩ := exists_zeros (Nat.toDigits 10 d.digits)
    refine Numeral.allDigits_toDigits d.digits c ?_
    rw [hk]
    exact List.mem_append_left _ hc

/-- **The digits of a magnitude are in order**, -/
theorem proper_ofUnits {units : Nat} (hrep : Representable units) : (ofUnits units).Proper := by
  unfold ofUnits
  split
  · exact proper_zero
  · rename_i hunits
    refine proper_ofDecimal fun hzero => hunits ?_
    have hread := Number.ofDecimal_shortest hrep (Nat.pos_of_ne_zero hunits) false
    rw [Number.ofDecimal, if_pos (.inl hzero)] at hread
    injection hread with _ hsame
    exact hsame.symm

/-- and read back as the magnitude. -/
theorem ofDecimal_ofUnits {units : Nat} (hrep : Representable units) (negative : Bool) :
    Number.ofDecimal negative (ofUnits units).decimal = .finite negative units hrep := by
  unfold ofUnits
  split
  · rename_i hunits
    subst hunits
    rfl
  · rename_i hunits
    rw [ofDecimal_decimal]
    exact Number.ofDecimal_shortest hrep (Nat.pos_of_ne_zero hunits) negative

end Digits

/-! ## Layouts -/

namespace Layout

open Numeral

variable {t : Digits}

/-- **A text reads as a decimal**: it begins with a digit, and what it says
has the value of the decimal. -/
def ReadsAs (text : List Char) (d : Decimal) : Prop :=
  (∃ c rest, text = c :: rest ∧ c.isDigit = true) ∧
    ∃ read, decimal? text = some read ∧
      ∀ negative, Number.ofDecimal negative read = Number.ofDecimal negative d

/-- What begins with digits in order begins with one. -/
theorem exists_digit {digits : List Char} (hdigits : AllDigits digits) (hne : digits ≠ [])
    (rest : List Char) : ∃ c more, digits ++ rest = c :: more ∧ c.isDigit = true := by
  cases digits with
  | nil => exact absurd rfl hne
  | cons c more => exact ⟨c, more ++ rest, rfl, hdigits c List.mem_cons_self⟩

/-- **Digits around a point** read as what they stand for, wherever the point
is. -/
theorem readsAs_full (ht : t.Proper) : ReadsAs (full t) t.decimal := by
  obtain ⟨hne, hdigits⟩ := ht
  unfold full
  split
  -- zeros stand between the point and the digits
  · rename_i hpoint
    have hzeros := allDigits_zeros (-t.point).toNat
    have hread := decimal?_fraction (allDigits_zeros 1) (List.cons_ne_nil _ _)
      (hzeros.append hdigits)
    rw [natural_zeros_append, natural_zeros_append, List.length_append,
      List.length_replicate] at hread
    refine ⟨⟨'0', _, rfl, rfl⟩, _, hread, fun negative => ?_⟩
    rw [Digits.decimal]
    congr 2
    omega
  rename_i hpoint
  dsimp only
  split
  -- the point stands among the digits
  · rename_i hlt
    have hwhole : AllDigits (t.digits.take t.point.toNat) := fun c hc =>
      hdigits c (List.mem_of_mem_take hc)
    have hfraction : AllDigits (t.digits.drop t.point.toNat) := fun c hc =>
      hdigits c (List.mem_of_mem_drop hc)
    have hsome : t.digits.take t.point.toNat ≠ [] := by
      rw [ne_eq, List.take_eq_nil_iff, not_or]
      exact ⟨by omega, hne⟩
    refine ⟨exists_digit hwhole hsome _, _, decimal?_fraction hwhole hsome hfraction,
      fun negative => ?_⟩
    rw [List.take_append_drop, List.length_drop, Digits.decimal]
    congr 2
    omega
  -- zeros stand between the digits and the point, and one behind it
  · rename_i hge
    have hwhole := hdigits.append (allDigits_zeros (t.point.toNat - t.digits.length))
    have hsome := List.append_ne_nil_of_left_ne_nil hne
      (List.replicate (t.point.toNat - t.digits.length) '0')
    have hread := decimal?_fraction hwhole hsome (allDigits_zeros 1)
    rw [natural_append_zeros, natural_append_zeros, List.length_replicate] at hread
    refine ⟨exists_digit hwhole hsome _, _, hread, fun negative => ?_⟩
    rw [Number.ofDecimal_mul_tenPow, Number.ofDecimal_mul_tenPow, Digits.decimal]
    congr 2
    omega

/-- **Digits with a power of ten** read as what they stand for. -/
theorem readsAs_scientific (ht : t.Proper) : ReadsAs (scientific t) t.decimal := by
  obtain ⟨digits, point⟩ := t
  obtain ⟨hne, hdigits⟩ := ht
  have hstops : Stops (exponent (point - 1)) := stops_cons rfl _
  have hpoint : (exponent (point - 1)).head? ≠ some '.' := by simp [exponent]
  unfold scientific
  dsimp only at *
  split
  -- one digit stands before the point
  · rename_i first second rest
    have hwhole : AllDigits [first] := fun c hc => hdigits c (by simp_all)
    have hfraction : AllDigits (second :: rest) := fun c hc => hdigits c (List.mem_cons_of_mem _ hc)
    refine ⟨⟨first, _, rfl, hdigits first List.mem_cons_self⟩, _, ?_, fun _ => rfl⟩
    have hread := decimal?_point hwhole (List.cons_ne_nil _ _) hfraction hstops
    rw [exponent?_exponent] at hread
    refine hread.trans (congrArg some ?_)
    simp only [Digits.decimal, List.singleton_append, List.length_cons]
    congr 1
    omega
  -- there is but one, and no point
  · rename_i hmany
    refine ⟨exists_digit hdigits hne _, _, ?_, fun _ => rfl⟩
    rw [decimal?_whole hdigits hne hstops hpoint, exponent?_exponent]
    refine congrArg some ?_
    have hone : digits.length = 1 := by
      match digits, hne, hmany with
      | [c], _, _ => rfl
      | first :: second :: rest, _, hmany => exact absurd rfl (hmany first second rest)
    simp only [Digits.decimal, hone]
    rfl

/-- **The text of a magnitude** reads as its digits, with any limit. -/
theorem readsAs_magnitude (limit : Int) (ht : t.Proper) :
    ReadsAs (magnitude limit t) t.decimal := by
  unfold magnitude
  split
  · exact readsAs_full ht
  · exact readsAs_scientific ht

end Layout

/-! ## Numbers -/

namespace Numeral

/-- A digit is no letter and no sign. -/
theorem toLower_of_isDigit {c : Char} (hc : c.isDigit = true) :
    c.toLower = c ∧ c ≠ 'i' ∧ c ≠ 'n' ∧ c ≠ '-' ∧ c ≠ '+' := by
  refine ⟨?_, ?_, ?_, ?_, ?_⟩
  · unfold Char.toLower
    rw [dif_neg]
    rintro ⟨hupper, -⟩
    rw [Char.isDigit_iff_toNat] at hc
    have hge : 65 ≤ c.toNat := UInt32.le_iff_toNat_le.1 hupper
    have hle : c.toNat ≤ 57 := hc.2
    omega
  all_goals
    rintro rfl
    cases hc

/-- **A text that reads as a decimal** is none of the names, and is that
number, with either sign. -/
theorem plain?_of_readsAs {text : List Char} {d : Decimal} (h : Layout.ReadsAs text d)
    (negative : Bool) :
    plain? (if negative then '-' :: text else text) = some (Number.ofDecimal negative d) := by
  obtain ⟨⟨c, rest, rfl, hc⟩, read, hread, hvalue⟩ := h
  obtain ⟨hlower, hi, hn, hminus, hplus⟩ := toLower_of_isDigit hc
  have hsign : sign (if negative then '-' :: c :: rest else c :: rest) = (negative, c :: rest) := by
    cases negative with
    | true => rfl
    | false =>
      unfold sign
      split <;> simp_all
  have hname : ∀ name : String, name.toList.head? ≠ some c →
      String.ofList ((c :: rest).map Char.toLower) ≠ name := by
    rintro name hhead rfl
    rw [String.toList_ofList, List.map_cons, hlower] at hhead
    exact hhead rfl
  unfold plain?
  rw [hsign]
  dsimp only
  rw [if_neg, if_neg, hread, Option.map_some, hvalue]
  · exact hname "nan" fun heq => hn (Option.some.inj heq).symm
  · rintro (heq | heq)
    · exact hname "inf" (fun heq => hi (Option.some.inj heq).symm) heq
    · exact hname "infinity" (fun heq => hi (Option.some.inj heq).symm) heq

/-- **A finite number is read back**, whatever layout it was written in. -/
theorem plain?_write_finite (layout : Layout) (negative : Bool) {units : Nat}
    (hrep : Representable units) :
    plain? (layout.write (.finite negative units hrep)).toList =
      some (.finite negative units hrep) := by
  have hreads := fun limit => Layout.readsAs_magnitude limit (Digits.proper_ofUnits hrep)
  have hread := fun limit => (plain?_of_readsAs (hreads limit) negative).trans
    (congrArg some (Digits.ofDecimal_ofUnits hrep negative))
  cases negative with
  | true =>
    rw [Layout.write, String.toList_ofList]
    exact hread _
  | false =>
    rw [Layout.write, String.toList_ofList]
    exact hread _

/-- A number is written on one line. -/
theorem newline_notMem_metrics (x : Number) : '\n' ∉ (Layout.metrics.write x).toList := by
  cases x with
  | nan => decide +kernel
  | infinity negative => cases negative <;> decide +kernel
  | finite negative units hrep =>
    have hline : ∀ limit, '\n' ∉ Layout.magnitude limit (Digits.ofUnits units) := by
      intro limit
      obtain ⟨-, read, hread, -⟩ := Layout.readsAs_magnitude limit (Digits.proper_ofUnits hrep)
      exact notMem_of_decimal? (by decide) hread
    cases negative with
    | true =>
      rw [Layout.write, String.toList_ofList]
      exact List.not_mem_cons_of_ne_of_not_mem (by decide) (hline _)
    | false =>
      rw [Layout.write, String.toList_ofList]
      exact hline _

/-- **What the metrics text says of a number** is that number. -/
theorem plain?_metrics (x : Number) : plain? (Layout.metrics.write x).toList = some x := by
  cases x with
  | nan => decide +kernel
  | infinity negative => cases negative <;> decide +kernel
  | finite negative units hrep => exact plain?_write_finite _ negative hrep

end Numeral

end CommandMetrics
