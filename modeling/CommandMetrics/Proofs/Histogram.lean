import CommandMetrics.Histogram
import CommandMetrics.Proofs.Bounds
import Mathlib.Algebra.Ring.Nat
/-!
# Histograms — what the buckets tell about the observations

A histogram keeps one count for each bucket, and each observation is
counted in the first bucket that takes it. `Histogram.tallied` is the
histogram of given counts. Where the buckets climb, the counts up to a
bucket add up to the observations that do not exceed its bound
(`sum_binned`), so this is what is exported for it
(`cumulative_tallied`), as far as counting is exact.
-/

namespace CommandMetrics

namespace Histogram

-- numbers are counted here, never computed
attribute [local irreducible] Number.ofInt Number.add

/-- Counts an observation in its bucket, if it has one. -/
def bin (buckets : List Number) (x : Number) (h : Histogram) : Histogram :=
  match bucketOf? buckets x with
  | some bucket => h.countIn bucket
  | none => h

/-- Taking an observation in is two steps. -/
theorem observe_eq_bin_addToSum (buckets : List Number) (x : Number) :
    observe buckets x = bin buckets x ∘ addToSum x := by
  funext h
  cases hb : bucketOf? buckets x <;> simp [observe, bin, hb]

/-- The histogram of `n` buckets in which `received i` observations were
counted in bucket `i`. -/
def tallied (n : Nat) (sum : Number) (received : Nat → Nat) : Histogram :=
  ⟨sum, (List.range n).map fun i => Number.ticks (received i)⟩

theorem empty_eq_tallied (buckets : List Number) :
    empty buckets = tallied buckets.length 0 fun _ => 0 := by
  unfold empty tallied
  congr 1
  apply List.ext_getElem
  · simp
  · intro i h₁ h₂
    simp only [List.getElem_map]
    rfl

theorem addToSum_tallied (n : Nat) (sum : Number) (received : Nat → Nat) (x : Number) :
    (tallied n sum received).addToSum x = tallied n (sum + x) received := rfl

/-- One more observation in a bucket. -/
theorem countIn_tallied (n : Nat) (sum : Number) (received : Nat → Nat) (bucket : Nat) :
    (tallied n sum received).countIn bucket =
      tallied n sum fun i => received i + if bucket = i then 1 else 0 := by
  unfold countIn tallied
  congr 1
  apply List.ext_getElem
  · simp
  · intro i h₁ h₂
    simp only [List.getElem_modify, List.getElem_map, List.getElem_range]
    by_cases h : bucket = i
    · rw [if_pos h, if_pos h]
      exact (Number.ticks_succ _).symm
    · rw [if_neg h, if_neg h]
      rfl

/-! ## The bucket of an observation -/

variable {buckets : List Number} {x : Number}

/-- How many observations are counted in a bucket. -/
def binned (buckets xs : List Number) (i : Nat) : Nat :=
  xs.countP fun x => decide (bucketOf? buckets x = some i)

/-- An observation more, counted in its bucket. -/
theorem bin_tallied (xs : List Number) (sum : Number) (x : Number) :
    (tallied buckets.length sum (binned buckets xs)).bin buckets x =
      tallied buckets.length sum (binned buckets (xs ++ [x])) := by
  have happend : ∀ i, binned buckets (xs ++ [x]) i =
      binned buckets xs i + if bucketOf? buckets x = some i then 1 else 0 := fun i => by
    simp [binned, List.countP_append, List.countP_cons]
  unfold bin
  split
  · rename_i bucket hbucket
    rw [countIn_tallied]
    congr 1
    funext i
    rw [happend, hbucket]
    simp only [Option.some.injEq]
  · rename_i hnone
    congr 1
    funext i
    rw [happend, hnone, if_neg (by simp), Nat.add_zero]

theorem bucketOf?_eq_some_iff {i : Nat} :
    bucketOf? buckets x = some i ↔
      ∃ h : i < buckets.length, x ≤ buckets[i] ∧ ∀ j (hj : j < i), ¬ x ≤ buckets[j] := by
  unfold bucketOf?
  rw [List.findIdx?_eq_some_iff_getElem]
  simp only [decide_eq_true_eq]

/-- Where buckets climb, the bucket of an observation is the one that takes
it and whose predecessor does not. -/
theorem bucketOf?_eq_succ_iff (hb : Bounds.Climbing buckets) {i : Nat}
    (hi : i + 1 < buckets.length) :
    bucketOf? buckets x = some (i + 1) ↔ x ≤ buckets[i + 1] ∧ ¬ x ≤ buckets[i] := by
  rw [bucketOf?_eq_some_iff]
  constructor
  · rintro ⟨_, hle, hbefore⟩
    exact ⟨hle, hbefore i (by omega)⟩
  · rintro ⟨hle, hnot⟩
    refine ⟨hi, hle, fun j hj hxj => hnot ?_⟩
    rcases Nat.eq_or_lt_of_le (by omega : j ≤ i) with rfl | hlt
    · exact hxj
    · exact List.pairwise_iff_getElem.1 hb j i (by omega) (by omega) hlt x hxj

/-- Counting splits where a condition does. -/
theorem countP_eq_add {xs : List Number} {p q r : Number → Bool}
    (h : ∀ x, p x = (q x || r x)) (hdisjoint : ∀ x, (q x && r x) = false) :
    xs.countP p = xs.countP q + xs.countP r := by
  induction xs with
  | nil => rfl
  | cons x xs ih =>
    have hx := h x
    have hd := hdisjoint x
    rw [List.countP_cons, List.countP_cons, List.countP_cons, ih, hx]
    cases hq : q x <;> cases hr : r x <;> simp_all <;> omega

/-- **The counts up to a bucket add up** to the observations that do not
exceed its bound. By induction on the bucket: the next one counts those
that exceed this bound and not its own. -/
theorem sum_binned (hb : Bounds.Climbing buckets) (xs : List Number) {i : Nat}
    (hi : i < buckets.length) :
    ((List.range (i + 1)).map (binned buckets xs)).sum = xs.countP fun x => decide (x ≤ buckets[i])
    := by
  induction i with
  | zero =>
    rw [Nat.zero_add, List.range_one, List.map_singleton, List.sum_singleton, binned]
    refine List.countP_congr fun x _ => ?_
    simp only [decide_eq_true_eq, bucketOf?_eq_some_iff]
    exact ⟨fun h => h.2.1, fun h => ⟨hi, h, fun j hj => absurd hj (by omega)⟩⟩
  | succ i ih =>
    rw [List.range_succ, List.map_append, List.sum_append, ih (by omega)]
    simp only [List.map_cons, List.map_nil, List.sum_cons, List.sum_nil, Nat.add_zero, binned]
    -- the bucket takes what exceeds the bound before and not its own
    refine (countP_eq_add (fun x => ?_) fun x => ?_).symm
    · rw [Bool.eq_iff_iff]
      simp only [decide_eq_true_eq, Bool.or_eq_true, bucketOf?_eq_succ_iff hb hi]
      constructor
      · intro h
        by_cases hbefore : x ≤ buckets[i]
        · exact .inl hbefore
        · exact .inr ⟨h, hbefore⟩
      · rintro (h | h)
        · exact List.pairwise_iff_getElem.1 hb i (i + 1) (by omega) hi (by omega) x h
        · exact h.1
    · rw [Bool.eq_false_iff]
      simp only [ne_eq, Bool.and_eq_true, decide_eq_true_eq, bucketOf?_eq_succ_iff hb hi]
      exact fun h => h.2.2 h.1

/-! ## What is exported -/

/-- Running sums of zeros are zero. -/
theorem runningSums_zero {counts : List Number} (h : ∀ n ∈ counts, n = 0) :
    ∀ n ∈ runningSums 0 counts, n = 0 := by
  have hzero : (0 + 0 : Number) = 0 := by
    rw [Number.zero_eq_ofInt]
    exact Number.ofInt_add_ofInt (by decide)
  induction counts with
  | nil => simp [runningSums]
  | cons x rest ih =>
    rw [List.forall_mem_cons] at h
    rw [runningSums, h.1, hzero, List.forall_mem_cons]
    exact ⟨rfl, ih h.2⟩

/-- Running sums of counts are exact as long as the whole sum is. -/
theorem runningSums_ticks (received : List Nat) {before : Nat}
    (h : before + received.sum ≤ twoPow 53) :
    runningSums (Number.ofInt before) (received.map Number.ticks) =
      (List.range received.length).map fun i =>
        Number.ofInt (before + (received.take (i + 1)).sum : Nat) := by
  induction received generalizing before with
  | nil => rfl
  | cons k rest ih =>
    simp only [List.sum_cons] at h
    have hstep : Number.ofInt before + Number.ticks k = Number.ofInt (before + k : Nat) :=
      Number.ofInt_add_ticks (by omega)
    rw [List.map_cons, runningSums, hstep, ih (by omega), List.length_cons, List.range_succ_eq_map,
      List.map_cons, List.map_map]
    congr 1
    refine List.map_congr_left fun i _ => ?_
    rw [Function.comp_apply, List.take_succ_cons, List.sum_cons, Nat.add_assoc]

theorem sum_take_range (received : Nat → Nat) {n i : Nat} (hi : i < n) :
    (((List.range n).map received).take (i + 1)).sum =
      ((List.range (i + 1)).map received).sum := by
  rw [← List.map_take, List.take_range, Nat.min_eq_left (by omega)]

/-- The observations that are counted at all are no more than there are. -/
theorem sum_binned_le (hb : Bounds.Climbing buckets) (xs : List Number) :
    ((List.range buckets.length).map (binned buckets xs)).sum ≤ xs.length := by
  rcases Nat.eq_zero_or_pos buckets.length with h | h
  · simp [h]
  · have hsum := sum_binned hb xs (i := buckets.length - 1) (by omega)
    rw [Nat.sub_add_cancel h] at hsum
    rw [hsum]
    exact List.countP_le_length

/-- **The export of a bucket** is how many observations do not exceed its
bound, up to `2 ^ 53` of them. -/
theorem cumulative_tallied (hb : Bounds.Climbing buckets) (xs : List Number) (sum : Number)
    (hlen : xs.length ≤ twoPow 53) :
    (tallied buckets.length sum (binned buckets xs)).cumulative =
      buckets.map fun bound => Number.ofInt (xs.countP fun x => decide (x ≤ bound) : Nat) := by
  have hle := sum_binned_le hb xs
  have hcounts : (tallied buckets.length sum (binned buckets xs)).counts =
      ((List.range buckets.length).map (binned buckets xs)).map Number.ticks := by
    rw [List.map_map]
    rfl
  rw [cumulative, hcounts, Number.zero_eq_ofInt, runningSums_ticks _ (by omega)]
  apply List.ext_getElem
  · simp only [List.length_map, List.length_range]
  · intro i h₁ h₂
    have hi : i < buckets.length := by simpa only [List.length_map] using h₂
    simp only [List.getElem_map, List.getElem_range, Nat.zero_add]
    rw [sum_take_range _ hi, sum_binned hb xs hi]

/-- **The count of a histogram** is how many observations were numbers. -/
theorem count_tallied (hb : Bounds.Climbing buckets)
    (hlast : buckets.getLast? = some (.infinity false)) (xs : List Number) (sum : Number)
    (hlen : xs.length ≤ twoPow 53) :
    (tallied buckets.length sum (binned buckets xs)).count =
      Number.ofInt (xs.countP fun x => !x.isNaN : Nat) := by
  have hnumbers : (xs.countP fun x => decide (x ≤ .infinity false)) =
      xs.countP fun x => !x.isNaN :=
    List.countP_congr fun x _ => by
      rw [decide_eq_true_eq, Number.le_infinity_iff, Bool.not_eq_true']
  rw [count, cumulative_tallied hb xs sum hlen, List.getLast?_map, hlast, Option.map_some,
    Option.getD_some, hnumbers]

/-! ## What a histogram holds -/

/-- **A histogram holds observations**: their sum in the order they came in,
and for each bucket how many do not exceed its bound. Each count was
reached by adding one, bucket by bucket, so what is exported for a bucket
is exact as far as counting is. -/
structure Holds (h : Histogram) (buckets xs : List Number) : Prop where
  sum : h.sum = xs.foldl (· + ·) 0
  counts : ∃ received : List Nat, received.length = buckets.length ∧
    h.counts = received.map Number.ticks ∧
    ∀ i (hi : i < buckets.length),
      (received.take (i + 1)).sum = xs.countP fun x => decide (x ≤ buckets[i])
  cumulative : xs.length ≤ twoPow 53 →
    h.cumulative = buckets.map fun bound =>
      Number.ofInt (xs.countP fun x => decide (x ≤ bound) : Nat)
  count : xs.length ≤ twoPow 53 → h.count = Number.ofInt (xs.countP fun x => !x.isNaN : Nat)

theorem holds_tallied (hb : Bounds.Climbing buckets)
    (hlast : buckets.getLast? = some (.infinity false)) (xs : List Number) :
    (tallied buckets.length (xs.foldl (· + ·) 0) (binned buckets xs)).Holds buckets xs where
  sum := rfl
  counts := by
    refine ⟨(List.range buckets.length).map (binned buckets xs), by simp, ?_, fun i hi => ?_⟩
    · rw [List.map_map]
      rfl
    · rw [sum_take_range _ hi, sum_binned hb xs hi]
  cumulative := cumulative_tallied hb xs _
  count := count_tallied hb hlast xs _

end Histogram

end CommandMetrics
