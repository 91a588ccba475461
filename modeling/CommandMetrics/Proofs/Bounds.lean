import CommandMetrics.Config
import CommandMetrics.Proofs.Acceptable
import Mathlib.Data.List.Nodup
/-!
# Bucket bounds — from accepted bounds to the buckets of a histogram

The buckets of a histogram climb: what does not exceed one bound exceeds
none after it (`climbing_buckets`). The last bound is infinite
(`getLast?_buckets`). Acceptable bounds can always be laid out
(`Acceptable.buckets_eq`), and so can those that stand in for bounds that
were not given; what they are laid out as increases up to a single infinite
bound (`Acceptable.wellFormed_closed`).
-/

namespace CommandMetrics.Bounds

/-- What does not exceed a bound exceeds no bound after it. -/
def Climbing (buckets : List Number) : Prop :=
  buckets.Pairwise fun a b => ∀ x, x ≤ a → x ≤ b

theorem climbing_of_ordered {bounds : List Number} (h : ordered bounds = true) :
    Climbing bounds := by
  induction bounds with
  | nil => exact List.Pairwise.nil
  | cons a rest ih =>
    cases rest with
    | nil => exact List.pairwise_singleton _ _
    | cons b rest =>
      simp only [ordered, Bool.and_eq_true, decide_eq_true_eq] at h
      have hrest : Climbing (b :: rest) := ih h.2
      refine List.Pairwise.cons (fun c hc x hx => ?_) hrest
      have hxb : x ≤ b := Number.le_trans hx h.1
      rcases List.mem_cons.1 hc with rfl | hc
      · exact hxb
      · exact (List.pairwise_cons.1 hrest).1 c hc x hxb

/-- An infinite bound may always be added at the end. -/
theorem Climbing.concat_infinity {bounds : List Number} (h : Climbing bounds) :
    Climbing (bounds ++ [.infinity false]) := by
  refine List.pairwise_append.2 ⟨h, List.pairwise_singleton _ _, fun a _ b hb x hx => ?_⟩
  rw [List.mem_singleton.1 hb]
  exact Number.le_infinity_iff.2 (Number.isNaN_of_le hx)

/-- What bounds are laid out as, if they can be. -/
theorem buckets_eq_ok_iff {bounds laidOut : List Number} :
    buckets bounds = .ok laidOut ↔
      ordered bounds = true ∧ 2 ≤ (closed bounds).length ∧ laidOut = closed bounds := by
  unfold buckets
  cases ho : ordered bounds with
  | false => simp
  | true =>
    simp only [Bool.not_true, Bool.false_eq_true, if_false, true_and]
    by_cases hlen : (closed bounds).length < 2
    · rw [if_pos hlen]
      constructor
      · intro h
        cases h
      · rintro ⟨hlen', -⟩
        omega
    · simp only [if_neg hlen, Except.ok.injEq]
      exact ⟨fun h => ⟨by omega, h.symm⟩, fun h => h.2.symm⟩

/-- **The buckets of a histogram climb.** -/
theorem climbing_buckets {bounds laidOut : List Number} (h : buckets bounds = .ok laidOut) :
    Climbing laidOut := by
  obtain ⟨hord, -, rfl⟩ := buckets_eq_ok_iff.1 h
  have hclimb := climbing_of_ordered hord
  unfold closed
  split
  · split
    · exact hclimb
    · exact hclimb.concat_infinity
  · exact List.Pairwise.nil

/-- **The last bucket takes whatever is a number.** -/
theorem getLast?_buckets {bounds laidOut : List Number} (h : buckets bounds = .ok laidOut) :
    laidOut.getLast? = some (.infinity false) := by
  obtain ⟨-, hlen, rfl⟩ := buckets_eq_ok_iff.1 h
  unfold closed at hlen ⊢
  split
  · rename_i last hlast
    split
    · rename_i hinf
      rw [hlast, hinf]
    · simp
  · rename_i hlast
    simp [hlast] at hlen

/-! ## Acceptable bounds -/

variable {bounds accepted : List Number}

/-- Sound bounds are in order. -/
theorem Sound.ordered (h : Sound bounds) : ordered bounds = true := by
  have hincreasing := h.increasing
  clear h
  induction bounds with
  | nil => rfl
  | cons a rest ih =>
    cases rest with
    | nil => rfl
    | cons b rest =>
      have hab : a < b := (List.pairwise_cons.1 hincreasing).1 b List.mem_cons_self
      simp only [Bounds.ordered, Bool.and_eq_true, decide_eq_true_eq]
      exact ⟨Number.le_of_lt hab, ih (List.pairwise_cons.1 hincreasing).2⟩

/-- **The infinite bound is added where bounds do not end in it.** -/
theorem closed_eq (hne : bounds ≠ []) : closed bounds =
    if bounds.getLast? = some (.infinity false) then bounds else bounds ++ [.infinity false] := by
  unfold closed
  rw [List.getLast?_eq_some_getLast hne]
  simp only [Option.some.injEq]

/-- **Upper bounds as a histogram has them**: they increase, and the last one
and no other is infinite, besides which there is a finite one. -/
structure WellFormed (buckets : List Number) : Prop where
  increasing : buckets.Pairwise (· < ·)
  last : buckets.getLast? = some (.infinity false)
  once : buckets.count (.infinity false) = 1
  finite : ∃ x ∈ buckets, x.isFinite = true

/-- Increasing bounds hold the infinite one once where they end in it. -/
theorem count_infinity_eq_one (hincreasing : bounds.Pairwise (· < ·))
    (hlast : bounds.getLast? = some (.infinity false)) : bounds.count (.infinity false) = 1 := by
  have hnodup : bounds.Nodup := hincreasing.imp fun {a b} hab heq => by
    rw [heq] at hab
    exact Number.lt_irrefl b hab
  exact List.count_eq_one_of_mem hnodup (List.mem_of_getLast? hlast)

/-- **Acceptable bounds, ended by the infinite one, are well formed.** -/
theorem Acceptable.wellFormed_closed (h : Acceptable bounds) : WellFormed (closed bounds) := by
  have hsound := h.sound
  obtain ⟨x, hx, hfinite⟩ := h.finite
  rw [closed_eq h.nonempty]
  by_cases hlast : bounds.getLast? = some (.infinity false)
  · rw [if_pos hlast]
    exact ⟨hsound.increasing, hlast, count_infinity_eq_one hsound.increasing hlast, x, hx, hfinite⟩
  · rw [if_neg hlast]
    have hbelow : ∀ y ∈ bounds, y < Number.infinity false := by
      intro y hy
      refine Number.lt_infinity_iff.2 ⟨hsound.numbers y hy, ?_⟩
      rintro rfl
      obtain ⟨before, after, rfl⟩ := List.append_of_mem hy
      have hafter : after = [] := hsound.eq_nil_of_infinity
      exact hlast (by rw [hafter, List.getLast?_concat])
    have hincreasing : (bounds ++ [Number.infinity false]).Pairwise (· < ·) := by
      refine List.pairwise_append.2
        ⟨hsound.increasing, List.pairwise_singleton _ _, fun y hy z hz => ?_⟩
      rw [List.mem_singleton.1 hz]
      exact hbelow y hy
    have hend := List.getLast?_concat (l := bounds) (a := Number.infinity false)
    exact ⟨hincreasing, hend, count_infinity_eq_one hincreasing hend, x,
      List.mem_append_left _ hx, hfinite⟩

/-- **Acceptable bounds can be laid out.** They are in order, and there is a
finite one besides the infinite one. -/
theorem Acceptable.buckets_eq (h : Acceptable bounds) : buckets bounds = .ok (closed bounds) := by
  refine buckets_eq_ok_iff.2 ⟨h.sound.ordered, ?_, rfl⟩
  obtain ⟨-, hlast, -, x, hx, hfinite⟩ := h.wellFormed_closed
  have hinf : Number.infinity false ∈ closed bounds := List.mem_of_getLast? hlast
  have hpos := List.length_pos_of_mem hx
  rcases Nat.lt_or_ge (closed bounds).length 2 with hlen | hlen
  -- a list with one bound cannot hold both
  · obtain ⟨only, honly⟩ := List.length_eq_one_iff.1 (by omega : (closed bounds).length = 1)
    rw [honly, List.mem_singleton] at hx hinf
    rw [hx, ← hinf] at hfinite
    cases hfinite
  · exact hlen

/-- So accepted bounds can be. -/
theorem buckets_of_validate (h : validate bounds = .ok accepted) :
    ∃ laidOut, buckets bounds = .ok laidOut :=
  ⟨_, (validate_eq_ok_iff.1 h).2.buckets_eq⟩

/-- Accepted bounds are accepted again. -/
theorem validate_idem (h : validate bounds = .ok accepted) : validate accepted = .ok accepted := by
  obtain ⟨rfl, hacceptable⟩ := validate_eq_ok_iff.1 h
  exact validate_eq_ok_iff.2 ⟨rfl, hacceptable⟩

/-- The bounds that stand in for those not given are accepted themselves. -/
theorem validate_standard : validate standard = .ok standard := by
  have hfault : firstFault? none standard = none := by decide +kernel
  have hfinite : (standard.headD .nan).isInfinite = false := by decide +kernel
  unfold validate
  split
  · rename_i h
    exact absurd h (by decide +kernel)
  · rename_i first rest h
    rw [hfault]
    rw [h] at hfinite
    simp only [List.headD_cons] at hfinite
    simp [hfinite]

end CommandMetrics.Bounds
