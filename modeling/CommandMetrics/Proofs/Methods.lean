import CommandMetrics.Host.Recording
/-!
# Methods — what a call of a recorder comes to

A recorder answers to its methods by name, and to a second name for each
event. Which calls report a signal is said signal by signal
(`signal?_recorder_eq_event_iff` and the two after it), so nobody has to
go through the names again. Names of commands are accepted alike on every
route to a recorder (`RecorderRoute.check_eq_ok_iff`).
-/

namespace CommandMetrics

/-- **All routes to a recorder accept the same names**: texts with a
character in them, which are kept as they are. -/
theorem RecorderRoute.check_eq_ok_iff {route : RecorderRoute} {v : Value} {name : Text} :
    route.check v = .ok name ↔ v = .text name ∧ name ≠ "" := by
  cases route with
  | direct => exact CommandName.check_eq_ok_iff
  | newRecorder | collector =>
    simp only [check]
    split
    · exact CommandName.check_eq_ok_iff
    · rename_i failure hfailure
      constructor
      · intro h
        cases h
      · intro h
        rw [CommandName.check_eq_ok_iff.2 h] at hfailure
        cases hfailure

/-- The context of an operation, and of a command or none. -/
theorem Context.ofFields_operation (operation : Text) (command : Option Text) :
    ofFields (("operation", .text operation)
        :: (command.map fun name => ("command_name", Value.text name)).toList) =
      .ok { empty with operation := some operation, commandName := command } := by
  cases command <;>
    simp [ofFields, Fields.optional, Fields.closed, List.lookup_cons, List.lookup_nil,
      Coercion.optional, Coercion.text, Checked.map, Checked.under, Checked.ap, Checked.forModel,
      empty]

/-- A check that finds no name says so, where the operation is a text. -/
theorem CommandName.exists_check_eq_error {name : Value}
    (hname : ∀ command, name = .text command → command = "") (operation : Text) :
    ∃ e, e.kind = .invalidCommandName ∧ check (.text operation) name = .error (.adapter e) := by
  unfold check
  split
  · have hcontext := Context.ofFields_operation operation (some (.plain ""))
    rw [Option.map_some, Option.toList_some] at hcontext
    refine ⟨_, ?_, by rw [refuse, hcontext]; rfl⟩
    rfl
  · rename_i given hne
    exact absurd (hname given rfl) (by simpa using hne)
  · have hcontext := Context.ofFields_operation operation none
    rw [Option.map_none, Option.toList_none] at hcontext
    refine ⟨_, ?_, by rw [refuse, hcontext]; rfl⟩
    rfl

/-- All routes to a recorder refuse the same names. -/
theorem RecorderRoute.exists_check_eq_error {name : Value}
    (hname : ∀ command, name = .text command → command = "") (route : RecorderRoute) :
    ∃ e, e.kind = .invalidCommandName ∧ route.check name = .error (.adapter e) := by
  cases route with
  | direct => exact CommandName.exists_check_eq_error hname _
  | newRecorder | collector =>
    obtain ⟨e, hkind, hcheck⟩ := CommandName.exists_check_eq_error hname CommandName.newRecorder
    exact ⟨e, hkind, by simp only [check, hcheck]⟩

/-- A recorder answers to a method's own name and, for events, to a second
one, and to nothing else. -/
theorem CollectorKind.method?_recorder_eq_some_iff {name : String} {method : Method} :
    recorder.method? name = some method ↔
      name = method.name ∨ ∃ e, method = .event e ∧ name = Method.aliasName e := by
  constructor
  · intro h
    unfold method? at h
    rcases Option.or_eq_some_iff.1 h with hown | ⟨-, halias⟩
    · have hname := List.find?_some hown
      exact .inl (beq_iff_eq.1 hname).symm
    · obtain ⟨e, he, rfl⟩ := Option.map_eq_some_iff.1 halias
      have hname := List.find?_some he
      exact .inr ⟨e, rfl, (beq_iff_eq.1 hname).symm⟩
  · rintro (rfl | ⟨e, rfl, rfl⟩)
    · cases method with
      | event e => cases e <;> decide +kernel
      | totalDuration => decide +kernel
      | runDuration => decide +kernel
      | reset => decide +kernel
    · cases e <;> decide +kernel

/-- What a method reports takes the arguments that it has parameters for. -/
theorem Method.signal_eq_ok_iff {method : Method} {owner : String} {arguments : List Value}
    {signal : Signal} :
    method.signal owner arguments = .ok signal ↔
      (∃ e, method = .event e ∧ arguments = [] ∧ signal = .event e) ∨
      (∃ duration, method = .totalDuration ∧ arguments = [duration] ∧
        signal = .totalDuration duration) ∨
      (∃ duration, method = .runDuration ∧ arguments = [duration] ∧
        signal = .runDuration duration) ∨
      (method = .reset ∧ arguments = [] ∧ signal = .reset) := by
  unfold Method.signal
  split <;> simp_all [eq_comm]

namespace CollectorKind

/-- What a call of a recorder reports is what the method of its name does. -/
theorem signal?_recorder_eq_some_iff {name : String} {arguments : List Value} {signal : Signal} :
    recorder.signal? name arguments = .ok (some signal) ↔
      ∃ method, recorder.method? name = some method ∧
        method.signal recorder.name arguments = .ok signal := by
  unfold signal?
  cases hm : recorder.method? name with
  | none =>
    simp only [reduceCtorEq, false_and, if_false, exists_false, iff_false]
    split <;> simp
  | some method =>
    simp only [Option.some.injEq, exists_eq_left']
    cases method.signal recorder.name arguments with
    | ok found => simp [Except.map]
    | error fault => simp [Except.map]

/-- **A recorder is told of an event** exactly by a call of one of its two
names without arguments. -/
theorem signal?_recorder_eq_event_iff {name : String} {arguments : List Value} {e : Event} :
    recorder.signal? name arguments = .ok (some (.event e)) ↔
      (name = (Method.event e).name ∨ name = Method.aliasName e) ∧ arguments = [] := by
  rw [signal?_recorder_eq_some_iff]
  simp only [method?_recorder_eq_some_iff, Method.signal_eq_ok_iff]
  constructor
  · rintro ⟨method, hname, ⟨e', rfl, rfl, he⟩ | ⟨_, -, -, he⟩ | ⟨_, -, -, he⟩ | ⟨-, -, he⟩⟩ <;>
      cases he
    refine ⟨hname.imp id ?_, rfl⟩
    rintro ⟨e', he, halias⟩
    cases he
    exact halias
  · rintro ⟨hname, rfl⟩
    exact ⟨.event e, hname.imp id fun h => ⟨e, rfl, h⟩, .inl ⟨e, rfl, rfl, rfl⟩⟩

/-- It is told of a total duration exactly by that method with one
argument. -/
theorem signal?_recorder_eq_totalDuration_iff {name : String} {arguments : List Value}
    {duration : Value} :
    recorder.signal? name arguments = .ok (some (.totalDuration duration)) ↔
      name = Method.totalDuration.name ∧ arguments = [duration] := by
  rw [signal?_recorder_eq_some_iff]
  simp only [method?_recorder_eq_some_iff, Method.signal_eq_ok_iff]
  constructor
  · rintro ⟨method, hname, ⟨_, -, -, he⟩ | ⟨_, rfl, rfl, he⟩ | ⟨_, -, -, he⟩ | ⟨-, -, he⟩⟩ <;>
      cases he
    rcases hname with hname | ⟨_, hmethod, -⟩
    · exact ⟨hname, rfl⟩
    · cases hmethod
  · rintro ⟨hname, rfl⟩
    exact ⟨.totalDuration, .inl hname, .inr (.inl ⟨duration, rfl, rfl, rfl⟩)⟩

/-- And of a run duration likewise. -/
theorem signal?_recorder_eq_runDuration_iff {name : String} {arguments : List Value}
    {duration : Value} :
    recorder.signal? name arguments = .ok (some (.runDuration duration)) ↔
      name = Method.runDuration.name ∧ arguments = [duration] := by
  rw [signal?_recorder_eq_some_iff]
  simp only [method?_recorder_eq_some_iff, Method.signal_eq_ok_iff]
  constructor
  · rintro ⟨method, hname, ⟨_, -, -, he⟩ | ⟨_, -, -, he⟩ | ⟨_, rfl, rfl, he⟩ | ⟨-, -, he⟩⟩ <;>
      cases he
    rcases hname with hname | ⟨_, hmethod, -⟩
    · exact ⟨hname, rfl⟩
    · cases hmethod
  · rintro ⟨hname, rfl⟩
    exact ⟨.runDuration, .inl hname, .inr (.inr (.inl ⟨duration, rfl, rfl, rfl⟩))⟩

end CollectorKind

end CommandMetrics
