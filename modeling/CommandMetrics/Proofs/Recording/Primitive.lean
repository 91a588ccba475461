import CommandMetrics.MetricSet
import CommandMetrics.Proofs.Children
import CommandMetrics.Proofs.Histogram
/-!
# Primitives — the single steps that recording is made of

Recording is a sequence of single steps on the cells of a set: a cell is
looked up, and made if it is not there; a counter goes up by one; the
gauge is set; an observation is added to the sum of a histogram, and
counted in its bucket. `MetricSet.play` takes such steps one after the
other. Making sure of a command (`ensure_eq_play`) and recording a signal
(`record_eq_play`) are what playing their steps is.
-/

namespace CommandMetrics

/-- A single step on the cells of a set. -/
inductive Primitive where
  /-- Looks up the cell of a command, and makes it if it is not there. -/
  | find (s : Series) (command : Text)
  | increment (e : Event) (command : Text)
  | setTotal (command : Text) (seconds : Number)
  | addToSum (command : Text) (seconds : Number)
  | countIn (command : Text) (seconds : Number)
  deriving DecidableEq

namespace Primitive

/-- The series that a step works on. -/
def series : Primitive → Series
  | find s _ => s
  | increment e _ => .events e
  | setTotal .. => .totalDuration
  | addToSum .. | countIn .. => .runDuration

/-- The command whose cell a step works on. -/
def command : Primitive → Text
  | find _ command | increment _ command | setTotal command _ | addToSum command _
  | countIn command _ => command

/-- What a step does to the cell of a counter. -/
def onCounter : Primitive → Number → Number
  | increment .. => (· + 1)
  | _ => id

/-- What a step does to the cell of the gauge. -/
def onGauge : Primitive → Number → Number
  | setTotal _ seconds => fun _ => seconds
  | _ => id

/-- What a step does to the cell of the histogram. -/
def onHistogram (buckets : List Number) : Primitive → Histogram → Histogram
  | addToSum _ seconds => .addToSum seconds
  | countIn _ seconds => .bin buckets seconds
  | _ => id

end Primitive

/-- The steps that make sure of a command. -/
def ensureSteps (command : Text) : List Primitive := Series.all.map (.find · command)

/-- The steps of recording a signal: the cell is looked up first, so it is
there also when the duration is refused. -/
def Signal.steps (command : Text) : Signal → List Primitive
  | .event e => [.find (.events e) command, .increment e command]
  | .totalDuration duration =>
    .find .totalDuration command ::
      match Duration.seconds duration with
      | .ok seconds => [.setTotal command seconds]
      | .error _ => []
  | .runDuration duration =>
    .find .runDuration command ::
      match Duration.seconds duration with
      | .ok seconds => [.addToSum command seconds, .countIn command seconds]
      | .error _ => []
  | .reset => []

namespace MetricSet

/-- Takes a single step. -/
def apply (m : MetricSet) (p : Primitive) : MetricSet :=
  match p.series with
  | .events e => { m with counters := m.counters.modify e (·.update p.command 0 p.onCounter) }
  | .totalDuration => { m with totalDuration := m.totalDuration.update p.command 0 p.onGauge }
  | .runDuration =>
    { m with
      runDuration := m.runDuration.update p.command (.empty m.buckets) (p.onHistogram m.buckets) }

/-- Takes steps one after the other. -/
def play (m : MetricSet) (steps : List Primitive) : MetricSet := steps.foldl apply m

@[simp] theorem play_nil (m : MetricSet) : m.play [] = m := rfl

theorem play_cons (m : MetricSet) (p : Primitive) (steps : List Primitive) :
    m.play (p :: steps) = (m.apply p).play steps := rfl

theorem play_append (m : MetricSet) (first second : List Primitive) :
    m.play (first ++ second) = (m.play first).play second :=
  List.foldl_append

theorem play_concat (m : MetricSet) (steps : List Primitive) (p : Primitive) :
    m.play (steps ++ [p]) = (m.play steps).apply p :=
  play_append m steps [p]

/-! ## One step, series by series -/

variable {m : MetricSet} {p : Primitive}

theorem get_counters_apply (e : Event) :
    (m.apply p).counters.get e =
      if p.series = .events e then (m.counters.get e).update p.command 0 p.onCounter
      else m.counters.get e := by
  unfold apply
  split
  · rename_i e' h
    rw [PerEvent.get_modify, h]
    simp only [Series.events.injEq]
  · rename_i h
    rw [h, if_neg (by simp)]
  · rename_i h
    rw [h, if_neg (by simp)]

theorem totalDuration_apply :
    (m.apply p).totalDuration =
      if p.series = .totalDuration then m.totalDuration.update p.command 0 p.onGauge
      else m.totalDuration := by
  unfold apply
  split <;> rename_i h <;> simp [h]

theorem runDuration_apply :
    (m.apply p).runDuration =
      if p.series = .runDuration then
        m.runDuration.update p.command (.empty m.buckets) (p.onHistogram m.buckets)
      else m.runDuration := by
  unfold apply
  split <;> rename_i h <;> simp [h]

/-- A step adds its command to its series, or nothing. -/
theorem commands_apply (s : Series) :
    (m.apply p).commands s =
      if p.series = s ∧ p.command ∉ m.commands s then m.commands s ++ [p.command]
      else m.commands s := by
  cases s with
  | events e =>
    simp only [commands, get_counters_apply]
    by_cases h : p.series = .events e
    · rw [if_pos h, Children.commands_update]
      by_cases hc : p.command ∈ (m.counters.get e).commands <;> simp [h, hc]
    · simp [h]
  | totalDuration =>
    simp only [commands, totalDuration_apply]
    by_cases h : p.series = .totalDuration
    · rw [if_pos h, Children.commands_update]
      by_cases hc : p.command ∈ m.totalDuration.commands <;> simp [h, hc]
    · simp [h]
  | runDuration =>
    simp only [commands, runDuration_apply]
    by_cases h : p.series = .runDuration
    · rw [if_pos h, Children.commands_update]
      by_cases hc : p.command ∈ m.runDuration.commands <;> simp [h, hc]
    · simp [h]

/-! Steps leave everything that is no cell as it is. -/

@[simp] theorem buckets_apply : (m.apply p).buckets = m.buckets := by
  unfold apply
  split <;> rfl

@[simp] theorem registry_apply : (m.apply p).registry = m.registry := by
  unfold apply
  split <;> rfl

@[simp] theorem registered_apply : (m.apply p).registered = m.registered := by
  unfold apply
  split <;> rfl

@[simp] theorem buckets_play (m : MetricSet) (steps : List Primitive) :
    (m.play steps).buckets = m.buckets := by
  induction steps generalizing m with
  | nil => rfl
  | cons p steps ih => rw [play_cons, ih, buckets_apply]

@[simp] theorem registry_play (m : MetricSet) (steps : List Primitive) :
    (m.play steps).registry = m.registry := by
  induction steps generalizing m with
  | nil => rfl
  | cons p steps ih => rw [play_cons, ih, registry_apply]

@[simp] theorem registered_play (m : MetricSet) (steps : List Primitive) :
    (m.play steps).registered = m.registered := by
  induction steps generalizing m with
  | nil => rfl
  | cons p steps ih => rw [play_cons, ih, registered_apply]

/-- Steps do not look at whether the set is registered. -/
theorem play_registered (m : MetricSet) (b : Bool) (steps : List Primitive) :
    ({ m with registered := b } : MetricSet).play steps =
      { m.play steps with registered := b } := by
  induction steps generalizing m with
  | nil => rfl
  | cons p steps ih =>
    rw [play_cons, play_cons, ← ih]
    congr 1
    unfold apply
    split <;> rfl

/-! ## Recording is playing -/

theorem modify_modify {α : Type} (t : PerEvent α) (e : Event) (f g : α → α) :
    (t.modify e f).modify e g = t.modify e (g ∘ f) := by
  cases e <;> rfl

/-- **Making sure of a command is playing its steps.** -/
theorem ensure_eq_play (m : MetricSet) (command : Text) :
    m.ensure command = m.play (ensureSteps command) := by
  simp only [ensure, Children.ensure_eq_update, ensureSteps, Series.all, Event.all, List.map_cons,
    List.map_nil, List.cons_append, List.nil_append, play_cons, play_nil, apply, Primitive.series,
    Primitive.command, PerEvent.modify, PerEvent.map]
  rfl

/-- **Recording a signal is playing its steps.** -/
theorem record_eq_play (m : MetricSet) (command : Text) (signal : Signal) :
    (m.record command signal).1 = m.play (signal.steps command) := by
  cases signal with
  | event e =>
    simp only [record, Signal.steps, play_cons, play_nil, apply, Primitive.series,
      Primitive.command, Primitive.onCounter, modify_modify]
    congr 2
    funext c
    exact (Children.update_update c command 0 id (· + 1)).symm
  | totalDuration duration =>
    cases hs : Duration.seconds duration with
    | ok seconds =>
      simp only [record, Signal.steps, hs, play_cons, play_nil, apply, Primitive.series,
        Primitive.command, Primitive.onGauge, Children.update_update]
      rfl
    | error fault =>
      simp only [record, Signal.steps, hs, play_cons, play_nil, apply, Primitive.series,
        Primitive.command, Primitive.onGauge, ← Children.ensure_eq_update]
      rfl
  | runDuration duration =>
    cases hs : Duration.seconds duration with
    | ok seconds =>
      simp only [record, Signal.steps, hs, play_cons, play_nil, apply, Primitive.series,
        Primitive.command, Primitive.onHistogram, Children.update_update,
        Histogram.observe_eq_bin_addToSum]
      rfl
    | error fault =>
      simp only [record, Signal.steps, hs, play_cons, play_nil, apply, Primitive.series,
        Primitive.command, Primitive.onHistogram, ← Children.ensure_eq_update]
      rfl
  | reset => rfl

end MetricSet

end CommandMetrics
