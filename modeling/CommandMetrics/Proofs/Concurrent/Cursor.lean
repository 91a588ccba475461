import CommandMetrics.Proofs.Recording.Operation
/-!
# Cursors — a cell is looked up, and changed later

A thread that records looks the cell of a command up and keeps hold of it:
its cursor is a series and a position. The change comes with a later step,
and acts on whatever stands where the cursor points, without asking for the
command again. Positions keep their commands (`getElem?_commands_apply`), so
a step through a cursor is a step on the command that was looked up
(`modifyAt_eq_apply`). In the steps of a log every change is led by a look-up
of its own cell (`led_logSteps`).
-/

namespace CommandMetrics

namespace MetricSet

/-- Looks up the cell of a command in a series, making it if there is none,
and tells its position. -/
def touch (m : MetricSet) (s : Series) (command : Text) : MetricSet × Nat :=
  match s with
  | .events e =>
    ({ m with counters := m.counters.modify e fun cells => (cells.touch command 0).1 },
      ((m.counters.get e).touch command 0).2)
  | .totalDuration =>
    ({ m with totalDuration := (m.totalDuration.touch command 0).1 },
      (m.totalDuration.touch command 0).2)
  | .runDuration =>
    ({ m with runDuration := (m.runDuration.touch command (.empty m.buckets)).1 },
      (m.runDuration.touch command (.empty m.buckets)).2)

/-- Changes the cell at a position of a series, whosever it is. -/
def modifyAt (m : MetricSet) (s : Series) (i : Nat) (p : Primitive) : MetricSet :=
  match s with
  | .events e => { m with counters := m.counters.modify e (·.modifyAt i p.onCounter) }
  | .totalDuration => { m with totalDuration := m.totalDuration.modifyAt i p.onGauge }
  | .runDuration =>
    { m with runDuration := m.runDuration.modifyAt i (p.onHistogram m.buckets) }

variable {m : MetricSet} {s : Series} {command : Text} {p : Primitive} {i : Nat}

/-- Looking a cell up is a single step. -/
theorem touch_eq_apply : (m.touch s command).1 = m.apply (.find s command) := by
  cases s with
  | events e =>
    have hensure : (fun cells : Children Number => (cells.touch command 0).1) =
        fun cells => cells.update command 0 id :=
      funext fun cells => cells.ensure_eq_update command 0
    unfold touch
    simp only [hensure]
    rfl
  | totalDuration =>
    have hensure := m.totalDuration.ensure_eq_update command 0
    exact congrArg (fun cells => { m with totalDuration := cells }) hensure
  | runDuration =>
    have hensure := m.runDuration.ensure_eq_update command (.empty m.buckets)
    exact congrArg (fun cells => { m with runDuration := cells }) hensure

/-- The position that is told is that of the command. -/
theorem getElem?_commands_touch :
    ((m.touch s command).1.commands s)[(m.touch s command).2]? = some command := by
  cases s with
  | events e =>
    have hget : (m.touch (.events e) command).1.counters.get e =
        ((m.counters.get e).touch command 0).1 := by
      simp only [touch, PerEvent.get_modify, if_true]
    have hcommands : (m.touch (.events e) command).1.commands (.events e) =
        ((m.counters.get e).touch command 0).1.commands := congrArg Children.commands hget
    rw [hcommands]
    exact Children.getElem?_commands_touch _ _ _
  | totalDuration => exact Children.getElem?_commands_touch _ _ _
  | runDuration => exact Children.getElem?_commands_touch _ _ _

/-- **A position keeps its command**, whatever steps are taken. -/
theorem getElem?_commands_apply (h : (m.commands s)[i]? = some command) :
    ((m.apply p).commands s)[i]? = some command := by
  obtain ⟨hi, -⟩ := List.getElem?_eq_some_iff.1 h
  rw [commands_apply]
  split
  · rw [List.getElem?_append_left hi, h]
  · exact h

/-- **A change through a cursor is a step on the command that was looked
up**, as no command has two cells. -/
theorem modifyAt_eq_apply (hnodup : (m.commands p.series).Nodup)
    (h : (m.commands p.series)[i]? = some p.command) :
    m.modifyAt p.series i p = m.apply p := by
  unfold modifyAt
  split
  · rename_i e hs
    rw [hs] at hnodup h
    have hcounters : m.counters.modify e (·.modifyAt i p.onCounter) =
        m.counters.modify e (·.update p.command 0 p.onCounter) := by
      refine PerEvent.ext_get fun e' => ?_
      rw [PerEvent.get_modify, PerEvent.get_modify]
      by_cases he : e = e'
      · subst he
        rw [if_pos rfl, if_pos rfl]
        exact Children.modifyAt_eq_update hnodup h 0 _
      · rw [if_neg he, if_neg he]
    simp only [apply, hs, hcounters]
  · rename_i hs
    rw [hs] at hnodup h
    simp only [apply, hs, Children.modifyAt_eq_update hnodup h 0]
  · rename_i hs
    rw [hs] at hnodup h
    simp only [apply, hs, Children.modifyAt_eq_update hnodup h (.empty m.buckets)]

end MetricSet

/-! ## Changes are led by look-ups -/

/-- Whether a step looks a cell up. -/
def Primitive.isFind : Primitive → Bool
  | .find .. => true
  | _ => false

/-- **Every change acts on the cell that was looked up last**, where `target`
was looked up before the first step. -/
def Led (target : Option (Series × Text)) : List Primitive → Prop
  | [] => True
  | p :: rest =>
    (p.isFind = true ∨ target = some (p.series, p.command)) ∧
      Led (some (p.series, p.command)) rest

theorem Led.append {target : Option (Series × Text)} {first second : List Primitive}
    (hfirst : Led target first) (hsecond : ∀ target, Led target second) :
    Led target (first ++ second) := by
  induction first generalizing target with
  | nil => exact hsecond target
  | cons p rest ih => exact ⟨hfirst.1, ih hfirst.2⟩

/-- Look-ups need none before them. -/
theorem led_of_isFind {steps : List Primitive} (h : ∀ p ∈ steps, p.isFind = true)
    (target : Option (Series × Text)) : Led target steps := by
  induction steps generalizing target with
  | nil => trivial
  | cons p rest ih =>
    exact ⟨.inl (h p List.mem_cons_self), ih (fun q hq => h q (List.mem_cons_of_mem _ hq)) _⟩

theorem Signal.led_steps (signal : Signal) (command : Text)
    (target : Option (Series × Text)) : Led target (signal.steps command) := by
  cases signal with
  | event e => exact ⟨.inl rfl, .inr rfl, trivial⟩
  | reset => trivial
  | totalDuration duration =>
    simp only [steps]
    cases Duration.seconds duration with
    | ok seconds => exact ⟨.inl rfl, .inr rfl, trivial⟩
    | error fault => exact ⟨.inl rfl, trivial⟩
  | runDuration duration =>
    simp only [steps]
    cases Duration.seconds duration with
    | ok seconds => exact ⟨.inl rfl, .inr rfl, .inr rfl, trivial⟩
    | error fault => exact ⟨.inl rfl, trivial⟩

namespace SetOperation

theorem led_steps (op : SetOperation) (target : Option (Series × Text)) :
    Led target op.steps := by
  unfold steps
  refine Led.append ?_ fun target => ?_
  · cases op.ensured? with
    | none => trivial
    | some command =>
      refine led_of_isFind (fun p hp => ?_) target
      obtain ⟨s, -, rfl⟩ := List.mem_map.1 hp
      rfl
  · cases op.reported? with
    | none => trivial
    | some report => exact report.2.led_steps report.1 target

/-- **In the steps of a log every change is led.** -/
theorem led_logSteps (log : List SetOperation) (target : Option (Series × Text)) :
    Led target (logSteps log) := by
  induction log generalizing target with
  | nil => trivial
  | cons op log ih => exact (op.led_steps target).append ih

end SetOperation

end CommandMetrics
