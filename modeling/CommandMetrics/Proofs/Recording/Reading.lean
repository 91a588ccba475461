import CommandMetrics.Proofs.Histogram
import CommandMetrics.Proofs.Recording.Primitive
import Mathlib.Data.List.Induction
/-!
# Reading — what steps leave in the cells

What stands in a cell is read off the steps that were taken, in whatever
order they came: a counter holds one unit for each of its increments
(`get_counters_play`), the gauge what it was set to last
(`get_totalDuration_play`), the histogram the sum of what was added and
one unit in the bucket of each observation that was counted
(`get_runDuration_play`). A command has a cell in a series exactly if a
step on the two was taken (`mem_commands_play`), and never two
(`nodup_commands_play`).
-/

namespace CommandMetrics

-- numbers are counted here, never computed
attribute [local irreducible] Number.ofInt Number.add

namespace Primitive

/-- What a step sets the gauge of a command to. -/
def total? (command : Text) : Primitive → Option Number
  | setTotal other seconds => if other = command then some seconds else none
  | _ => none

/-- What a step adds to the sum of a command. -/
def summed? (command : Text) : Primitive → Option Number
  | addToSum other seconds => if other = command then some seconds else none
  | _ => none

/-- What a step counts in a bucket of a command. -/
def counted? (command : Text) : Primitive → Option Number
  | countIn other seconds => if other = command then some seconds else none
  | _ => none

/-! A step on another series or another command does none of this. -/

variable {p : Primitive} {command : Text}

theorem ne_increment {e : Event} (h : ¬ (p.series = .events e ∧ p.command = command)) :
    p ≠ .increment e command := by
  rintro rfl
  exact h ⟨rfl, rfl⟩

theorem total?_eq_none (h : ¬ (p.series = .totalDuration ∧ p.command = command)) :
    p.total? command = none := by
  cases p with
  | setTotal other seconds => exact if_neg fun heq => h ⟨rfl, heq⟩
  | _ => rfl

theorem summed?_eq_none (h : ¬ (p.series = .runDuration ∧ p.command = command)) :
    p.summed? command = none := by
  cases p with
  | addToSum other seconds => exact if_neg fun heq => h ⟨rfl, heq⟩
  | _ => rfl

theorem counted?_eq_none (h : ¬ (p.series = .runDuration ∧ p.command = command)) :
    p.counted? command = none := by
  cases p with
  | countIn other seconds => exact if_neg fun heq => h ⟨rfl, heq⟩
  | _ => rfl

end Primitive

theorem Children.getD_get?_update {α : Type} (c : Children α) (command other : Text) (new : α)
    (f : α → α) :
    ((c.update command new f).get? other).getD new =
      if other = command then f ((c.get? other).getD new) else (c.get? other).getD new := by
  rw [get?_update]
  by_cases h : other = command
  · rw [if_pos h, if_pos h, h]
    rfl
  · rw [if_neg h, if_neg h]

/-- An update of another cell, if there is one at all, goes unnoticed. -/
theorem Children.getD_get?_of_not {α : Type} {c : Children α} {P : Prop} [Decidable P]
    {command other : Text} (h : ¬ (P ∧ command = other)) (new : α) (f : α → α) :
    ((if P then c.update command new f else c).get? other).getD new =
      (c.get? other).getD new := by
  split
  · rename_i hP
    rw [getD_get?_update, if_neg fun heq => h ⟨hP, heq.symm⟩]
  · rfl

theorem Children.get?_eq_some_getD {α : Type} {c : Children α} {command : Text}
    (h : command ∈ c.commands) (new : α) : c.get? command = some ((c.get? command).getD new) := by
  obtain ⟨a, ha⟩ := mem_commands_iff.1 h
  rw [ha]
  rfl

namespace MetricSet

/-- A set in which nothing was recorded: no command has a cell. -/
def Unused (m : MetricSet) : Prop := ∀ s, m.commands s = []

theorem unused_fresh (registry : RegistryId) (bounds buckets : List Number) :
    (fresh registry bounds buckets).Unused := by
  intro s
  cases s with
  | events e => cases e <;> rfl
  | totalDuration => rfl
  | runDuration => rfl

/-- Where no command has a cell, no cell is found. -/
theorem get?_eq_none_of_nil {α : Type} {c : Children α} (h : c.commands = []) (command : Text) :
    c.get? command = none := by
  refine Children.get?_eq_none_of_notMem ?_
  rw [h]
  exact List.not_mem_nil

variable {m : MetricSet}

/-! ## The commands of a series -/

/-- **A command has a cell exactly where a step was taken.** -/
theorem mem_commands_play (h : m.Unused) (steps : List Primitive) (s : Series) (command : Text) :
    command ∈ (m.play steps).commands s ↔ ∃ p ∈ steps, p.series = s ∧ p.command = command := by
  induction steps using List.reverseRecOn with
  | nil => simp [h s]
  | append_singleton steps p ih =>
    simp only [play_concat, commands_apply, List.mem_append, List.mem_singleton, or_and_right,
      exists_or, exists_eq_left, ← ih]
    by_cases hs : p.series = s
    · by_cases hc : p.command ∈ (m.play steps).commands s
      · rw [if_neg fun hnot => hnot.2 hc]
        exact ⟨.inl, fun hor => hor.elim id fun heq => heq.2 ▸ hc⟩
      · rw [if_pos ⟨hs, hc⟩, List.mem_append, List.mem_singleton]
        simp only [hs, true_and, eq_comm]
    · simp [hs]

/-- **No command has two cells in a series.** -/
theorem nodup_commands_play (h : ∀ s, (m.commands s).Nodup) (steps : List Primitive) (s : Series) :
    ((m.play steps).commands s).Nodup := by
  induction steps using List.reverseRecOn with
  | nil => exact h s
  | append_singleton steps p ih =>
    rw [play_concat, commands_apply]
    split
    · rename_i hnew
      refine List.nodup_append.2 ⟨ih, List.pairwise_singleton _ _, fun a ha b hb heq => hnew.2 ?_⟩
      rw [← List.mem_singleton.1 hb, ← heq]
      exact ha
    · exact ih

/-- So no command of an unused set ever gets two. -/
theorem Unused.nodup_commands_play (h : m.Unused) (steps : List Primitive) (s : Series) :
    ((m.play steps).commands s).Nodup := by
  refine MetricSet.nodup_commands_play (fun s => ?_) steps s
  rw [h s]
  exact List.nodup_nil

/-! ## The cells -/

/-- **A counter holds one unit for each of its increments.** -/
theorem get_counters_play (h : m.Unused) (steps : List Primitive) (e : Event) (command : Text) :
    (((m.play steps).counters.get e).get? command).getD 0 =
      Number.ticks (steps.count (.increment e command)) := by
  induction steps using List.reverseRecOn with
  | nil =>
    rw [play_nil, get?_eq_none_of_nil (h (.events e))]
    rfl
  | append_singleton steps p ih =>
    rw [play_concat, get_counters_apply, List.count_append, List.count_singleton]
    by_cases hp : p.series = .events e ∧ p.command = command
    · rw [if_pos hp.1, Children.getD_get?_update, if_pos hp.2.symm, ih]
      cases p with
      | increment e' other =>
        obtain ⟨he, rfl⟩ := hp
        cases he
        rw [if_pos (by simp [Primitive.command])]
        exact (Number.ticks_succ _).symm
      | _ => rfl
    · have hne := Primitive.ne_increment hp
      rw [beq_false_of_ne hne, if_neg Bool.false_ne_true, Nat.add_zero, ← ih]
      exact Children.getD_get?_of_not hp _ _

/-- **The gauge holds what it was set to last.** -/
theorem get_totalDuration_play (h : m.Unused) (steps : List Primitive) (command : Text) :
    ((m.play steps).totalDuration.get? command).getD 0 =
      (steps.filterMap (Primitive.total? command)).getLast?.getD 0 := by
  induction steps using List.reverseRecOn with
  | nil =>
    rw [play_nil, get?_eq_none_of_nil (h .totalDuration)]
    rfl
  | append_singleton steps p ih =>
    rw [play_concat, totalDuration_apply, List.filterMap_append]
    by_cases hp : p.series = .totalDuration ∧ p.command = command
    · rw [if_pos hp.1, Children.getD_get?_update, if_pos hp.2.symm, ih]
      cases p with
      | setTotal other seconds =>
        obtain ⟨-, rfl⟩ := hp
        simp [Primitive.total?, Primitive.onGauge, Primitive.command]
      | _ => simp [Primitive.total?, Primitive.onGauge]
    · rw [List.filterMap_cons_none (Primitive.total?_eq_none hp), List.filterMap_nil,
        List.append_nil, ← ih]
      exact Children.getD_get?_of_not hp _ _

/-- **The histogram holds the sum of what was added** and one unit in the
bucket of each observation that was counted. -/
theorem get_runDuration_play (h : m.Unused) (steps : List Primitive) (command : Text) :
    ((m.play steps).runDuration.get? command).getD (.empty m.buckets) =
      Histogram.tallied m.buckets.length
        ((steps.filterMap (Primitive.summed? command)).foldl (· + ·) 0)
        (Histogram.binned m.buckets (steps.filterMap (Primitive.counted? command))) := by
  induction steps using List.reverseRecOn with
  | nil =>
    rw [play_nil, get?_eq_none_of_nil (h .runDuration)]
    exact Histogram.empty_eq_tallied m.buckets
  | append_singleton steps p ih =>
    rw [play_concat, runDuration_apply, buckets_play, List.filterMap_append, List.filterMap_append]
    by_cases hp : p.series = .runDuration ∧ p.command = command
    · rw [if_pos hp.1, Children.getD_get?_update, if_pos hp.2.symm, ih]
      cases p with
      | addToSum other seconds =>
        obtain ⟨-, rfl⟩ := hp
        simp [List.filterMap_cons, Primitive.summed?, Primitive.counted?, Primitive.onHistogram,
          Primitive.command, Histogram.addToSum_tallied]
      | countIn other seconds =>
        obtain ⟨-, rfl⟩ := hp
        simp [List.filterMap_cons, Primitive.summed?, Primitive.counted?, Primitive.onHistogram,
          Primitive.command, Histogram.bin_tallied]
      | _ =>
        simp [List.filterMap_cons, Primitive.summed?, Primitive.counted?, Primitive.onHistogram]
    · rw [List.filterMap_cons_none (Primitive.summed?_eq_none hp),
        List.filterMap_cons_none (Primitive.counted?_eq_none hp), List.filterMap_nil,
        List.filterMap_nil, List.append_nil, List.append_nil, ← ih]
      exact Children.getD_get?_of_not hp _ _

end MetricSet

end CommandMetrics
