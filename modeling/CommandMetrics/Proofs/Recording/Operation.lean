import CommandMetrics.Proofs.Host
import CommandMetrics.Proofs.Methods
import CommandMetrics.Proofs.Recording.Reading
/-!
# Operations — what callers do with a metric set, and what their log tells

An operation on a set asks for a recorder by any route, makes sure of a
command, calls a method of a recorder by its name, or takes the set out of
its registry. A log is a list of operations, and what matters about a
command is read off it without any set: how often an event was called,
which durations were accepted. `count_steps`, `filterMap_total?_steps`,
`filterMap_summed?_steps` and `filterMap_counted?_steps` say that the steps
of a log are the ones that these readings announce.
-/

namespace CommandMetrics

/-- An operation on a metric set. -/
inductive SetOperation where
  | makeRecorder (route : RecorderRoute) (name : Value)
  | ensure (command : Text)
  /-- Calls a method of a recorder of a command. -/
  | call (command : Text) (method : String) (arguments : List Value)
  | unregister

namespace SetOperation

/-! ## What a log tells about a command -/

/-- Whether a command is in use after an operation: a recorder was made for
it, or it was made sure of. -/
def uses (command : Text) : SetOperation → Bool
  | makeRecorder _ (.text name) => name != "" && name == command
  | makeRecorder .. => false
  | ensure other => other == command
  | call .. | unregister => false

/-- Whether an operation calls the method of an event, under either of its
names, on a recorder of a command. -/
def isCall (e : Event) (command : Text) : SetOperation → Bool
  | call other method arguments =>
    other == command && (method == (Method.event e).name || method == Method.aliasName e)
      && arguments.isEmpty
  | _ => false

/-- The seconds that an operation hands to a method of one argument on a
recorder of a command, if they are accepted. -/
def seconds? (method : Method) (command : Text) : SetOperation → Option Number
  | call other name [duration] =>
    if other = command ∧ name = method.name then (Duration.seconds duration).toOption else none
  | _ => none

/-- An accepted total duration. -/
abbrev total? (command : Text) : SetOperation → Option Number := seconds? .totalDuration command

/-- An accepted run duration. -/
abbrev observation? (command : Text) : SetOperation → Option Number :=
  seconds? .runDuration command

/-- How often the method of an event was called for a command. -/
def calls (log : List SetOperation) (e : Event) (command : Text) : Nat :=
  log.countP (isCall e command)

/-- The accepted total durations of a command, in the order of the calls. -/
def totals (log : List SetOperation) (command : Text) : List Number :=
  log.filterMap (total? command)

/-- The accepted run durations of a command, in the order of the calls. -/
def observations (log : List SetOperation) (command : Text) : List Number :=
  log.filterMap (observation? command)

/-! ## The steps of an operation -/

/-- What an operation reports, and of which command. -/
def reported? : SetOperation → Option (Text × Signal)
  | call command method arguments =>
    match CollectorKind.recorder.signal? method arguments with
    | .ok (some signal) => some (command, signal)
    | _ => none
  | _ => none

/-- The command that an operation makes sure of. -/
def ensured? : SetOperation → Option Text
  | makeRecorder route name => (route.check name).toOption
  | ensure command => some command
  | call .. | unregister => none

/-- The steps that an operation takes on the cells of its set. -/
def steps (op : SetOperation) : List Primitive :=
  (op.ensured?.map ensureSteps).getD [] ++
    (op.reported?.map fun (command, signal) => signal.steps command).getD []

end SetOperation

/-! ## The steps of a report -/

/-- Whether it is an event that is reported. -/
def Signal.isEvent (e : Event) : Signal → Bool
  | .event other => other == e
  | _ => false

/-- The seconds that a report hands to a method, if they are accepted. -/
def Signal.seconds? (method : Method) : Signal → Option Number
  | .totalDuration duration =>
    if method = .totalDuration then (Duration.seconds duration).toOption else none
  | .runDuration duration =>
    if method = .runDuration then (Duration.seconds duration).toOption else none
  | .event _ | .reset => none

namespace Signal

theorem isEvent_iff {e : Event} {signal : Signal} :
    signal.isEvent e = true ↔ signal = .event e := by
  cases signal <;> simp [isEvent]

variable (signal : Signal) (command other : Text)

/-- A report counts its own event, once. -/
theorem count_steps (e : Event) :
    (signal.steps other).count (.increment e command) =
      if other = command ∧ signal.isEvent e then 1 else 0 := by
  cases signal with
  | event e' => simp [steps, isEvent, List.count_cons, and_comm]
  | reset => simp [steps, isEvent]
  | totalDuration duration | runDuration duration =>
    cases hd : Duration.seconds duration <;> simp [steps, isEvent, hd]

/-- It sets the gauge of its command to an accepted total duration. -/
theorem filterMap_total?_steps :
    (signal.steps other).filterMap (Primitive.total? command) =
      if other = command then (signal.seconds? .totalDuration).toList else [] := by
  by_cases h : other = command <;> cases signal with
  | event | reset => simp [steps, Primitive.total?, seconds?]
  | totalDuration duration | runDuration duration =>
    cases hd : Duration.seconds duration <;>
      simp [steps, List.filterMap_cons, Primitive.total?, seconds?, hd, h, Except.toOption]

/-- It adds an accepted run duration to the sum of its command, -/
theorem filterMap_summed?_steps :
    (signal.steps other).filterMap (Primitive.summed? command) =
      if other = command then (signal.seconds? .runDuration).toList else [] := by
  by_cases h : other = command <;> cases signal with
  | event | reset => simp [steps, Primitive.summed?, seconds?]
  | totalDuration duration | runDuration duration =>
    cases hd : Duration.seconds duration <;>
      simp [steps, List.filterMap_cons, Primitive.summed?, seconds?, hd, h, Except.toOption]

/-- and counts the same one in its bucket. -/
theorem filterMap_counted?_steps :
    (signal.steps other).filterMap (Primitive.counted? command) =
      if other = command then (signal.seconds? .runDuration).toList else [] := by
  by_cases h : other = command <;> cases signal with
  | event | reset => simp [steps, Primitive.counted?, seconds?]
  | totalDuration duration | runDuration duration =>
    cases hd : Duration.seconds duration <;>
      simp [steps, List.filterMap_cons, Primitive.counted?, seconds?, hd, h, Except.toOption]

end Signal

/-! ## The steps of an operation, read command by command -/

/-- Making sure of a command takes no step that is read as a value. -/
theorem filterMap_ensureSteps {α : Type} {f : Primitive → Option α} {command : Text}
    (h : ∀ s, f (.find s command) = none) : (ensureSteps command).filterMap f = [] := by
  refine List.filterMap_eq_nil_iff.2 fun p hp => ?_
  obtain ⟨s, -, rfl⟩ := List.mem_map.1 hp
  exact h s

theorem count_ensureSteps (e : Event) (command other : Text) :
    (ensureSteps other).count (.increment e command) = 0 := by
  refine List.count_eq_zero.2 fun hmem => ?_
  obtain ⟨s, -, hs⟩ := List.mem_map.1 hmem
  cases hs

namespace SetOperation

variable {op : SetOperation} {command : Text}

/-- A call reports what its method does, of the command it is made on. -/
theorem reported?_call_eq_some_iff {other : Text} {method : String} {arguments : List Value}
    {signal : Signal} :
    (call other method arguments).reported? = some (command, signal) ↔
      other = command ∧ CollectorKind.recorder.signal? method arguments = .ok (some signal) := by
  simp only [reported?]
  split
  · rename_i found hfound
    simp [hfound]
  · rename_i hnone
    constructor
    · intro h
      cases h
    · intro h
      exact absurd h.2 (hnone signal)

/-- An operation calls an event's method exactly if it reports the event. -/
theorem isCall_iff {e : Event} :
    op.isCall e command = true ↔ op.reported? = some (command, .event e) := by
  cases op with
  | call other method arguments =>
    rw [reported?_call_eq_some_iff, CollectorKind.signal?_recorder_eq_event_iff]
    simp [isCall, and_assoc]
  | _ => simp [isCall, reported?]

/-- It hands over a duration exactly if it reports the duration. -/
theorem seconds?_eq_some_iff {method : Method} {x : Number} :
    op.seconds? method command = some x ↔
      ∃ duration, op = call command method.name [duration] ∧ Duration.seconds duration = .ok x := by
  unfold seconds?
  split
  · rename_i other name duration
    by_cases h : other = command ∧ name = method.name
    · obtain ⟨rfl, rfl⟩ := h
      cases hd : Duration.seconds duration <;> simp [hd, Except.toOption]
    · rw [if_neg h]
      constructor
      · intro hx
        cases hx
      · rintro ⟨duration', heq, -⟩
        cases heq
        exact absurd ⟨rfl, rfl⟩ h
  · rename_i hnot
    constructor
    · intro hx
      cases hx
    · rintro ⟨duration, rfl, -⟩
      exact (hnot _ _ _ rfl).elim

/-- **A duration that is handed over is one that is reported.** -/
theorem seconds?_eq_bind {method : Method}
    (hmethod : method = .totalDuration ∨ method = .runDuration) (op : SetOperation)
    (command : Text) :
    op.seconds? method command =
      op.reported?.bind fun (other, signal) =>
        if other = command then signal.seconds? method else none := by
  refine Option.ext fun x => ?_
  rw [seconds?_eq_some_iff, Option.bind_eq_some_iff]
  constructor
  · rintro ⟨duration, rfl, hx⟩
    rcases hmethod with rfl | rfl
    · have hsignal := CollectorKind.signal?_recorder_eq_totalDuration_iff.2
        ⟨rfl, (rfl : [duration] = _)⟩
      refine ⟨_, reported?_call_eq_some_iff.2 ⟨rfl, hsignal⟩, ?_⟩
      simp [Signal.seconds?, hx, Except.toOption]
    · have hsignal := CollectorKind.signal?_recorder_eq_runDuration_iff.2
        ⟨rfl, (rfl : [duration] = _)⟩
      refine ⟨_, reported?_call_eq_some_iff.2 ⟨rfl, hsignal⟩, ?_⟩
      simp [Signal.seconds?, hx, Except.toOption]
  -- only the two methods of a duration report one
  · rintro ⟨⟨other, signal⟩, hreported, hhanded⟩
    obtain ⟨rfl, hx⟩ : other = command ∧ signal.seconds? method = some x := by simpa using hhanded
    clear hhanded
    cases op with
    | call other' name arguments =>
      obtain ⟨rfl, hsignal⟩ := reported?_call_eq_some_iff.1 hreported
      cases signal with
      | totalDuration duration =>
        obtain ⟨rfl, rfl⟩ := CollectorKind.signal?_recorder_eq_totalDuration_iff.1 hsignal
        obtain ⟨rfl, hx⟩ : method = .totalDuration ∧ _ := by simpa [Signal.seconds?] using hx
        exact ⟨duration, rfl, toOption_eq_some_iff.1 hx⟩
      | runDuration duration =>
        obtain ⟨rfl, rfl⟩ := CollectorKind.signal?_recorder_eq_runDuration_iff.1 hsignal
        obtain ⟨rfl, hx⟩ : method = .runDuration ∧ _ := by simpa [Signal.seconds?] using hx
        exact ⟨duration, rfl, toOption_eq_some_iff.1 hx⟩
      | _ => cases hx
    | _ => cases hreported

/-- What is reported is all that an operation does. -/
theorem steps_of_reported?_eq_some {other : Text} {signal : Signal}
    (h : op.reported? = some (other, signal)) : op.steps = signal.steps other := by
  cases op with
  | call => simp [steps, ensured?, h]
  | _ => cases h

/-- **An operation increments a counter** once if it calls the method of its
event for its command, and else not. -/
theorem count_steps (op : SetOperation) (e : Event) (command : Text) :
    op.steps.count (.increment e command) = if op.isCall e command then 1 else 0 := by
  cases h : op.reported? with
  | none =>
    have hcall : ¬ op.isCall e command = true := by simp [isCall_iff, h]
    rw [if_neg hcall]
    unfold steps
    rw [h]
    cases op.ensured? with
    | none => rfl
    | some other => simpa using count_ensureSteps e command other
  | some report =>
    obtain ⟨other, signal⟩ := report
    rw [steps_of_reported?_eq_some h, Signal.count_steps]
    refine if_congr ?_ rfl rfl
    rw [isCall_iff, h, Signal.isEvent_iff]
    simp

/-- **What the steps of an operation are read as is what it hands over**, if
that is so for the steps of a report. -/
theorem filterMap_steps {f : Primitive → Option Number} {method : Method}
    (hmethod : method = .totalDuration ∨ method = .runDuration)
    (hfind : ∀ s other, f (.find s other) = none) {command : Text}
    (hsignal : ∀ (signal : Signal) (other : Text), (signal.steps other).filterMap f =
      if other = command then (signal.seconds? method).toList else []) (op : SetOperation) :
    op.steps.filterMap f = (op.seconds? method command).toList := by
  rw [seconds?_eq_bind hmethod]
  cases h : op.reported? with
  | none =>
    have hnothing : op.steps.filterMap f = [] := by
      unfold steps
      rw [h, Option.map_none, Option.getD_none, List.append_nil]
      cases op.ensured? with
      | none => rfl
      | some other => exact filterMap_ensureSteps fun s => hfind s other
    exact hnothing
  | some report =>
    rw [steps_of_reported?_eq_some h, hsignal]
    by_cases hc : report.1 = command <;> simp [hc]

theorem filterMap_total?_steps (op : SetOperation) (command : Text) :
    op.steps.filterMap (Primitive.total? command) = (op.total? command).toList :=
  filterMap_steps (.inl rfl) (fun _ _ => rfl)
    (fun signal other => signal.filterMap_total?_steps command other) op

theorem filterMap_summed?_steps (op : SetOperation) (command : Text) :
    op.steps.filterMap (Primitive.summed? command) = (op.observation? command).toList :=
  filterMap_steps (.inr rfl) (fun _ _ => rfl)
    (fun signal other => signal.filterMap_summed?_steps command other) op

theorem filterMap_counted?_steps (op : SetOperation) (command : Text) :
    op.steps.filterMap (Primitive.counted? command) = (op.observation? command).toList :=
  filterMap_steps (.inr rfl) (fun _ _ => rfl)
    (fun signal other => signal.filterMap_counted?_steps command other) op

/-- **Where a command is used, it is looked up in every series.** -/
theorem find_mem_steps (h : op.uses command = true) (s : Series) :
    .find s command ∈ op.steps := by
  have hensured : op.ensured? = some command := by
    cases op with
    | makeRecorder route name =>
      cases name with
      | text name =>
        obtain ⟨hne, rfl⟩ : name ≠ "" ∧ name = command := by simpa [uses] using h
        exact toOption_eq_some_iff.2 (RecorderRoute.check_eq_ok_iff.2 ⟨rfl, hne⟩)
      | _ => cases h
    | ensure other => simpa [uses, ensured?] using h
    | _ => cases h
  unfold steps
  rw [hensured]
  exact List.mem_append_left _ (List.mem_map.2 ⟨s, Series.mem_all s, rfl⟩)

/-! ## The steps of a log -/

/-- The steps of all operations of a log. -/
def logSteps (log : List SetOperation) : List Primitive := log.flatMap steps

variable (log : List SetOperation) (command : Text)

/-- **The increments of a log are its calls.** -/
theorem count_logSteps (e : Event) :
    (logSteps log).count (.increment e command) = calls log e command := by
  induction log with
  | nil => rfl
  | cons op log ih =>
    unfold logSteps calls at *
    rw [List.flatMap_cons, List.count_append, ih, count_steps, List.countP_cons, Nat.add_comm]

/-- Reading what each operation hands over reads it off the log. -/
theorem filterMap_logSteps {f : Primitive → Option Number} {g : SetOperation → Option Number}
    (h : ∀ op : SetOperation, op.steps.filterMap f = (g op).toList) :
    (logSteps log).filterMap f = log.filterMap g := by
  induction log with
  | nil => rfl
  | cons op log ih =>
    unfold logSteps at *
    rw [List.flatMap_cons, List.filterMap_append, ih, h]
    cases hg : g op <;> simp [hg]

end SetOperation

end CommandMetrics
