import CommandMetrics.Proofs.Number
import CommandMetrics.Proofs.Recording.Observation
/-!
# Durations — which of them are taken, and what is left of the others

A duration is a span of time or a number of seconds, and it has seconds
unless it is a whole number beyond every number (`Duration.exists_seconds`).
Whatever keeps durations takes one that has seconds (`call_of_seconds`). It
refuses any other value, and the host is as it was then
(`call_of_refused`): a recorder looks its cell up before it turns the value
into seconds, but the cell has been there ever since the recorder was made.
-/

namespace CommandMetrics

namespace Value

/-- **A duration**: a span of time, or a number of seconds. Truth values are
none. -/
def IsDuration : Value → Prop
  | span _ | integer _ | number _ => True
  | _ => False

/-- A whole number beyond every number. -/
def IsBeyond : Value → Prop
  | integer n => Number.overflowWhole ≤ n.natAbs
  | _ => False

end Value

/-! ## Seconds -/

namespace Duration

variable {v : Value}

/-- **A duration has seconds** unless it is beyond every number. -/
theorem exists_seconds (h : v.IsDuration) (hnot : ¬ v.IsBeyond) : ∃ x, seconds v = .ok x := by
  cases v with
  | span n => exact ⟨_, rfl⟩
  | number x => exact ⟨x, rfl⟩
  | integer n =>
    have hfinite : ¬ (Number.ofInt n).isInfinite = true := fun hinfinite =>
      hnot (Number.isInfinite_ofInt_iff.1 hinfinite)
    exact ⟨Number.ofInt n, by simp only [seconds, if_neg hfinite]⟩
  | _ => exact h.elim

/-- One that is beyond every number is told to be too large. -/
theorem seconds_of_isBeyond (h : v.IsBeyond) : seconds v = .error .tooLarge := by
  cases v with
  | integer n =>
    have hinfinite : (Number.ofInt n).isInfinite = true := Number.isInfinite_ofInt_iff.2 h
    simp only [seconds, if_pos hinfinite]
  | _ => exact h.elim

/-- What is no duration is told of which kind it is. -/
theorem seconds_of_not_isDuration (h : ¬ v.IsDuration) :
    seconds v = .error (.notADuration v.kind) := by
  cases v with
  | span | number | integer => exact (h trivial).elim
  | _ => rfl

end Duration

/-! ## What keeps durations -/

/-- A method that takes a duration. -/
def Method.TakesDuration (method : Method) : Prop := method = .totalDuration ∨ method = .runDuration

namespace Method

variable {method : Method}

/-- What a call of such a method reports is decided by the seconds. -/
theorem TakesDuration.exists_signal (h : method.TakesDuration) (v : Value) :
    ∃ signal : Signal, (∀ owner, method.signal owner [v] = .ok signal) ∧
      signal.verdict = (Duration.seconds v).map fun _ => () := by
  rcases h with rfl | rfl
  · exact ⟨.totalDuration v, fun _ => rfl, rfl⟩
  · exact ⟨.runDuration v, fun _ => rfl, rfl⟩

end Method

/-- **A signal that is refused changes no set** in which its command has its
cells. -/
theorem MetricSet.record_of_refused {m : MetricSet} {command : Text} {signal : Signal}
    {fault : Fault} (hthere : ∀ s, command ∈ m.commands s)
    (hrefused : signal.verdict = .error fault) : (m.record command signal).1 = m := by
  cases signal with
  | event | reset => cases hrefused
  | totalDuration v =>
    have htouched : (m.totalDuration.touch command 0).1 = m.totalDuration :=
      Children.ensure_of_mem (hthere .totalDuration) 0
    cases hseconds : Duration.seconds v with
    | ok x => simp [Signal.verdict, hseconds, Except.map] at hrefused
    | error fault => simp only [record, hseconds, htouched]
  | runDuration v =>
    have htouched : (m.runDuration.touch command (.empty m.buckets)).1 = m.runDuration :=
      Children.ensure_of_mem (hthere .runDuration) _
    cases hseconds : Duration.seconds v with
    | ok x => simp [Signal.verdict, hseconds, Except.map] at hrefused
    | error fault => simp only [record, hseconds, htouched]

/-- So does it change no tally. -/
theorem Tally.note_of_refused {t : Tally} {signal : Signal} {fault : Fault}
    (hrefused : signal.verdict = .error fault) : t.note signal = t := by
  cases signal with
  | event | reset => cases hrefused
  | totalDuration v | runDuration v =>
    cases hseconds : Duration.seconds v with
    | ok x => simp [Signal.verdict, hseconds, Except.map] at hrefused
    | error fault => simp [note, take, hseconds, Except.map, Except.toOption]

namespace Host

variable {acts : List Act} {collector : Collector} {method : Method} {v : Value} {fault : Fault}

/-- **What keeps durations**: a recorder that a run has made, or a sink that
keeps a tally. -/
def Keeps (acts : List Act) : Collector → Prop
  | .recorder r => r ∈ initial.recordersOf acts
  | .sink sink => (initial.run acts).collectorKind? (.sink sink) = some .memory

/-- A sink that keeps a tally has one. -/
theorem exists_tally {h : Host} {sink : SinkId}
    (hkind : h.collectorKind? (.sink sink) = some .memory) :
    ∃ command tally, h.sink? sink = some (.memory command tally) := by
  simp only [collectorKind?] at hkind
  split at hkind
  · exact ⟨_, _, ‹_›⟩
  · cases hkind
  · cases hkind

/-- **A value that has seconds is taken.** -/
theorem call_of_seconds (hkeeps : Keeps acts collector) (hmethod : method.TakesDuration)
    {x : Number} (hseconds : Duration.seconds v = .ok x) :
    ((initial.run acts).call collector method.name [v]).2 = .ok () := by
  obtain ⟨signal, hsignal, hverdict⟩ := hmethod.exists_signal v
  rw [hseconds] at hverdict
  cases collector with
  | recorder r =>
    obtain ⟨m, hset⟩ := exists_set?_of_mem_recordersOf hkeeps
    rw [call_recorder_snd hset r.command ⟨method, [v]⟩]
    simp only [Call.verdict, hsignal, hverdict]
    rfl
  | sink sink =>
    obtain ⟨command, tally, hsink⟩ := exists_tally hkeeps
    rw [(call_sink hsink ⟨method, [v]⟩).1]
    simp only [Call.verdict, hsignal, hverdict]
    rfl

/-- **A value that has none is refused**, and nothing has changed. -/
theorem call_of_refused (hkeeps : Keeps acts collector) (hmethod : method.TakesDuration)
    (hseconds : Duration.seconds v = .error fault) :
    (initial.run acts).call collector method.name [v] =
      (initial.run acts, .error (.fault fault)) := by
  obtain ⟨signal, hsignal, hverdict⟩ := hmethod.exists_signal v
  rw [hseconds] at hverdict
  cases collector with
  | recorder r =>
    obtain ⟨m, hset⟩ := exists_set?_of_mem_recordersOf hkeeps
    have hthere := mem_commands_run hset (mem_names_of_mem_recordersOf hkeeps)
    have hrecord : m.record r.command signal = (m, .error fault) :=
      Prod.ext (MetricSet.record_of_refused hthere hverdict)
        ((m.record_snd r.command signal).trans hverdict)
    simp only [call, collectorKind?, CollectorKind.signal?_name, hsignal, Except.map, report, hset,
      hrecord, putSet_of_set? hset]
    rfl
  | sink sink =>
    have hkind : (initial.run acts).collectorKind? (.sink sink) = some .memory := hkeeps
    obtain ⟨command, tally, hsink⟩ := exists_tally hkind
    have hsame : ((initial.run acts).sinks.modify sink.index fun _ => .memory command tally) =
        (initial.run acts).sinks :=
      modify_of_getElem? fun s hs => Option.some.inj (hsink.symm.trans hs)
    simp only [call, hkind, CollectorKind.signal?_name, hsignal, Except.map, report, hsink,
      Tally.record_memory, Tally.note_of_refused hverdict, hverdict, hsame]
    rfl

/-- **Every duration is taken but one that is beyond every number.** After any
run, whatever keeps durations takes a span of time, a number, finite or not,
and a whole number below `2 ^ 1024 - 2 ^ 970`. From there on, on either side
of zero, a whole number is refused as too large, and what is no duration is
refused for its kind; neither leaves a trace. -/
theorem durations_taken (acts : List Act) (v : Value) :
    (v.IsDuration → ¬ v.IsBeyond → (∃ x, Duration.seconds v = .ok x) ∧
      ∀ collector (method : Method), Keeps acts collector → method.TakesDuration →
        ((initial.run acts).call collector method.name [v]).2 = .ok ()) ∧
    (v.IsBeyond → Duration.seconds v = .error .tooLarge ∧
      ∀ collector (method : Method), Keeps acts collector → method.TakesDuration →
        (initial.run acts).call collector method.name [v] =
          (initial.run acts, .error (.fault .tooLarge))) ∧
    (¬ v.IsDuration → Duration.seconds v = .error (.notADuration v.kind) ∧
      ∀ collector (method : Method), Keeps acts collector → method.TakesDuration →
        (initial.run acts).call collector method.name [v] =
          (initial.run acts, .error (.fault (.notADuration v.kind)))) := by
  refine ⟨fun h hnot => ?_, fun h => ?_, fun h => ?_⟩
  · obtain ⟨x, hseconds⟩ := Duration.exists_seconds h hnot
    exact ⟨⟨x, hseconds⟩, fun _ _ hkeeps hmethod => call_of_seconds hkeeps hmethod hseconds⟩
  · have hseconds := Duration.seconds_of_isBeyond h
    exact ⟨hseconds, fun _ _ hkeeps hmethod => call_of_refused hkeeps hmethod hseconds⟩
  · have hseconds := Duration.seconds_of_not_isDuration h
    exact ⟨hseconds, fun _ _ hkeeps hmethod => call_of_refused hkeeps hmethod hseconds⟩

/-- What is no number is taken by a recorder and a text is not, and neither a
recorder nor a tally takes a whole number from the bound on. -/
theorem durations_taken_at_bound :
    ∃ acts v, v.IsBeyond ∧ Keeps acts (.recorder ⟨"ping", ⟨0⟩⟩) ∧ Keeps acts (.sink ⟨0⟩) ∧
      ((initial.run acts).call (.recorder ⟨"ping", ⟨0⟩⟩) Method.runDuration.name
        [.number .nan]).2 = .ok () ∧
      (initial.run acts).call (.recorder ⟨"ping", ⟨0⟩⟩) Method.totalDuration.name [.text "1"] =
        (initial.run acts, .error (.fault (.notADuration "str"))) ∧
      (initial.run acts).call (.recorder ⟨"ping", ⟨0⟩⟩) Method.runDuration.name [v] =
        (initial.run acts, .error (.fault .tooLarge)) ∧
      (initial.run acts).call (.sink ⟨0⟩) Method.totalDuration.name [v] =
        (initial.run acts, .error (.fault .tooLarge)) := by
  let acts : List Act := [.construct .default none none, .newRecorder .direct ⟨0⟩ (.text "ping"),
    .newMemory (.text "ping")]
  obtain ⟨v, hbeyond⟩ : ∃ v : Value, v.IsBeyond :=
    ⟨.integer Number.overflowWhole, Nat.le_of_eq (Int.natAbs_natCast _).symm⟩
  have hr : Keeps acts (.recorder ⟨"ping", ⟨0⟩⟩) := by
    show _ ∈ initial.recordersOf acts
    decide +kernel
  have hsink : Keeps acts (.sink ⟨0⟩) := by
    show (initial.run acts).collectorKind? (.sink ⟨0⟩) = some .memory
    decide +kernel
  have hnumber := ((durations_taken acts (.number .nan)).1 trivial not_false).2
  have htext := ((durations_taken acts (.text "1")).2.2 not_false).2
  have hrefused := ((durations_taken acts v).2.1 hbeyond).2
  exact ⟨acts, v, hbeyond, hr, hsink, hnumber _ .runDuration hr (.inr rfl),
    htext _ .totalDuration hr (.inl rfl), hrefused _ .runDuration hr (.inr rfl),
    hrefused _ .totalDuration hsink (.inl rfl)⟩

/-- **A duration is not always taken**: the whole number one and four hundred
zeros has no seconds. -/
theorem duration_not_always_taken :
    ¬ ∀ acts, ∀ r ∈ initial.recordersOf acts, ∀ v : Value, v.IsDuration →
      (∃ x, Duration.seconds v = .ok x) ∧
      ((initial.run acts).call (.recorder r) Method.runDuration.name [v]).2 = .ok () := by
  intro htaken
  let acts : List Act := [.construct .default none none, .newRecorder .direct ⟨0⟩ (.text "ping")]
  let v : Value := .integer (10 ^ 400)
  have hrun : (⟨"ping", ⟨0⟩⟩ : Recorder) ∈ initial.recordersOf acts ∧
      ((initial.run acts).call (.recorder ⟨"ping", ⟨0⟩⟩) Method.runDuration.name
        [v]).2.toOption = none := by decide +kernel
  have hok := (htaken acts ⟨"ping", ⟨0⟩⟩ hrun.1 v trivial).2
  exact nomatch hrun.2.symm.trans (toOption_eq_some_iff.2 hok)

end Host

end CommandMetrics
