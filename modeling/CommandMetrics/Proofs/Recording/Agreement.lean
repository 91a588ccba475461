import CommandMetrics.Proofs.Items
import CommandMetrics.Proofs.Run
/-!
# Agreement — two collectors that are told the same

A recorder writes into the series of a metric set, a collector in memory
keeps a tally. Both are told through the same methods: they accept and
refuse the same calls (`Call.Agrees`), and what they took in is read off
the signals that the calls report, by the same two readings of a signal
(`Signal.isEvent`, `Signal.seconds?`). So a snapshot of the tally says what
the series export (`Snapshot.Matches`).
-/

namespace CommandMetrics

/-! ## Calls -/

/-- A call of one of the methods that every collector has. -/
structure Call where
  method : Method
  arguments : List Value

/-- Every method is found by its name. -/
theorem Method.ofName?_name (method : Method) : ofName? method.name = some method := by
  cases method with
  | event e => cases e <;> decide +kernel
  | _ => decide +kernel

/-- **A method reports the same on every collector**; only a fault names the
type that the method belongs to. -/
theorem CollectorKind.signal?_name (kind : CollectorKind) (method : Method)
    (arguments : List Value) :
    kind.signal? method.name arguments = (method.signal kind.name arguments).map some := by
  have hmethod : kind.method? method.name = some method := by
    cases kind <;> simp [method?, Method.ofName?_name]
  simp only [signal?, hmethod]

/-- What comes of taking a signal in. -/
def Signal.verdict : Signal → Except Fault Unit
  | .event _ | .reset => .ok ()
  | .totalDuration duration | .runDuration duration => (Duration.seconds duration).map fun _ => ()

namespace Call

/-- Whether a call hands over as many arguments as its method takes. -/
def Fits (c : Call) : Prop := c.arguments.length = c.method.parameter?.toList.length

/-- What a call reports, if it fits. -/
def signal? (c : Call) : Option Signal :=
  (c.method.signal CollectorKind.memory.name c.arguments).toOption

/-- What a collector answers to a call. -/
def verdict (c : Call) (kind : CollectorKind) : Except Failure Unit :=
  match c.method.signal kind.name c.arguments with
  | .ok signal => signal.verdict.mapError .fault
  | .error fault => .error (.fault fault)

/-- The call on a recorder of a command, as an operation on its set. -/
def on (command : Text) (c : Call) : SetOperation := .call command c.method.name c.arguments

/-- **Two answers to a call agree**: they are the same, down to the words of
a refusal. Where the number of arguments is wrong both refuse it as such,
each in its own name. -/
structure Agrees (c : Call) (answers : Except Failure Unit × Except Failure Unit) : Prop where
  accepts : answers.1 = .ok () ↔ answers.2 = .ok ()
  same : c.Fits → answers.1 = answers.2
  miscounts : ¬ c.Fits → ∃ first second,
    answers = (.error (.fault (.arguments first)), .error (.fault (.arguments second)))

variable {c : Call} {command : Text}

/-- What a call reports does not depend on who is told. -/
theorem toOption_signal (c : Call) (owner : String) :
    (c.method.signal owner c.arguments).toOption = c.signal? := by
  refine Option.ext fun signal => ?_
  rw [signal?, toOption_eq_some_iff, toOption_eq_some_iff, Method.signal_eq_ok_iff,
    Method.signal_eq_ok_iff]

/-- A call that fits reports a signal, -/
theorem exists_signal_of_fits (h : c.Fits) :
    ∃ signal, ∀ owner, c.method.signal owner c.arguments = .ok signal := by
  obtain ⟨method, arguments⟩ := c
  cases method with
  | event e => exact ⟨.event e, fun owner => by rw [List.length_eq_zero_iff.1 h]; rfl⟩
  | reset => exact ⟨.reset, fun owner => by rw [List.length_eq_zero_iff.1 h]; rfl⟩
  | totalDuration =>
    obtain ⟨duration, rfl⟩ := List.length_eq_one_iff.1 h
    exact ⟨.totalDuration duration, fun owner => rfl⟩
  | runDuration =>
    obtain ⟨duration, rfl⟩ := List.length_eq_one_iff.1 h
    exact ⟨.runDuration duration, fun owner => rfl⟩

/-- and one that does not is refused for it. -/
theorem exists_fault_of_not_fits (h : ¬ c.Fits) (owner : String) :
    ∃ words, c.method.signal owner c.arguments = .error (.arguments words) := by
  obtain ⟨method, arguments⟩ := c
  cases method with
  | event | reset =>
    cases arguments with
    | nil => exact (h rfl).elim
    | cons first rest => exact ⟨_, rfl⟩
  | totalDuration | runDuration =>
    match arguments with
    | [] => exact ⟨_, rfl⟩
    | [duration] => exact (h rfl).elim
    | first :: second :: rest => exact ⟨_, rfl⟩

/-- **All kinds of collectors agree on a call**, but for one that looks at
nothing. -/
theorem agrees_verdict (c : Call) (kind other : CollectorKind) :
    c.Agrees (c.verdict kind, c.verdict other) := by
  by_cases hfits : c.Fits
  · obtain ⟨signal, hsignal⟩ := exists_signal_of_fits hfits
    have hsame : c.verdict kind = c.verdict other := by simp only [verdict, hsignal]
    exact ⟨by rw [hsame], fun _ => hsame, fun hnot => absurd hfits hnot⟩
  · obtain ⟨first, hfirst⟩ := exists_fault_of_not_fits hfits kind.name
    obtain ⟨second, hsecond⟩ := exists_fault_of_not_fits hfits other.name
    have hanswers : (c.verdict kind, c.verdict other) =
        (.error (.fault (.arguments first)), .error (.fault (.arguments second))) := by
      simp only [verdict, hfirst, hsecond]
    rw [hanswers]
    exact ⟨by simp, fun h => absurd h hfits, fun _ => ⟨first, second, rfl⟩⟩

theorem forall₂_agrees (cs : List Call) (kind other : CollectorKind) :
    List.Forall₂ Agrees cs (cs.map fun c => (c.verdict kind, c.verdict other)) := by
  induction cs with
  | nil => exact .nil
  | cons c cs ih => exact .cons (c.agrees_verdict kind other) ih

/-! ## Calls as operations -/

/-- As an operation a call reports its signal of the recorder's command. -/
theorem reported?_on (command : Text) (c : Call) :
    (c.on command).reported? = c.signal?.map fun signal => (command, signal) := by
  rw [← c.toOption_signal CollectorKind.recorder.name, on, SetOperation.reported?,
    CollectorKind.signal?_name]
  cases c.method.signal CollectorKind.recorder.name c.arguments <;> rfl

/-- The calls of an event's method are the signals of the event. -/
theorem calls_map_on (cs : List Call) (e : Event) (command : Text) :
    SetOperation.calls (cs.map (on command)) e command =
      (cs.filterMap signal?).countP (Signal.isEvent e) := by
  unfold SetOperation.calls
  induction cs with
  | nil => rfl
  | cons c cs ih =>
    have hcall : (c.on command).isCall e command =
        (c.signal?.map (Signal.isEvent e)).getD false := by
      rw [Bool.eq_iff_iff, SetOperation.isCall_iff, reported?_on]
      cases c.signal? <;> simp [Signal.isEvent_iff]
    rw [List.map_cons, List.countP_cons, ih, hcall]
    cases hsignal : c.signal? with
    | none => simp [hsignal]
    | some signal => simp [hsignal, List.countP_cons]

/-- The durations that are handed over are those that are reported. -/
theorem filterMap_seconds?_map_on {method : Method}
    (hmethod : method = .totalDuration ∨ method = .runDuration) (cs : List Call)
    (command : Text) :
    (cs.map (on command)).filterMap (SetOperation.seconds? method command) =
      (cs.filterMap signal?).filterMap (Signal.seconds? method) := by
  rw [List.filterMap_map, List.filterMap_filterMap]
  congr 1
  funext c
  rw [Function.comp_apply, SetOperation.seconds?_eq_bind hmethod, reported?_on]
  cases c.signal? <;> simp

end Call

/-! ## What both make of a signal -/

/-- A metric set answers to a signal with its verdict. -/
theorem MetricSet.record_snd (m : MetricSet) (command : Text) (signal : Signal) :
    (m.record command signal).2 = signal.verdict := by
  cases signal with
  | event | reset => rfl
  | totalDuration duration | runDuration duration =>
    simp only [record, Signal.verdict]
    cases Duration.seconds duration <;> rfl

namespace Tally

/-- A tally after a signal: as it was, if the signal is refused. -/
def note (t : Tally) (signal : Signal) : Tally := (t.take signal).toOption.getD t

/-- A sink that keeps a tally answers with the verdict as well. -/
theorem record_memory (command : Text) (t : Tally) (signal : Signal) :
    (Sink.memory command t).record signal = (.memory command (t.note signal), signal.verdict) := by
  cases signal with
  | event | reset => rfl
  | totalDuration duration | runDuration duration =>
    simp only [Sink.record, take, note, Signal.verdict]
    cases Duration.seconds duration <;> rfl

variable (t : Tally) (signal : Signal) (signals : List Signal)

theorem counts_note (e : Event) :
    (t.note signal).counts.get e = t.counts.get e + if signal.isEvent e then 1 else 0 := by
  cases signal with
  | event other =>
    have hcounts : (t.note (.event other)).counts = t.counts.modify other (· + 1) := rfl
    rw [hcounts, PerEvent.get_modify]
    by_cases he : other = e <;> simp [Signal.isEvent, he]
  | reset => rfl
  | totalDuration duration | runDuration duration =>
    simp only [note, take, Signal.isEvent]
    cases Duration.seconds duration <;> rfl

theorem totalDuration_note :
    (t.note signal).totalDuration = (signal.seconds? .totalDuration).getD t.totalDuration := by
  cases signal with
  | event | reset => rfl
  | totalDuration duration | runDuration duration =>
    simp only [note, take, Signal.seconds?]
    cases Duration.seconds duration <;> rfl

theorem runDurations_note :
    (t.note signal).runDurations = t.runDurations ++ (signal.seconds? .runDuration).toList := by
  cases signal with
  | event | reset => exact (List.append_nil _).symm
  | totalDuration duration | runDuration duration =>
    simp only [note, take, Signal.seconds?]
    cases Duration.seconds duration <;> simp [Except.map, Except.toOption]

/-- **A tally is read off the signals** that it took in, one after the other. -/
theorem counts_foldl_note (e : Event) :
    (signals.foldl note t).counts.get e = t.counts.get e + signals.countP (Signal.isEvent e) := by
  induction signals generalizing t with
  | nil => rfl
  | cons signal signals ih =>
    rw [List.foldl_cons, ih, counts_note, List.countP_cons, Nat.add_assoc, Nat.add_comm (ite _ _ _)]

theorem totalDuration_foldl_note :
    (signals.foldl note t).totalDuration =
      (signals.filterMap (Signal.seconds? .totalDuration)).getLast?.getD t.totalDuration := by
  induction signals generalizing t with
  | nil => rfl
  | cons signal signals ih =>
    rw [List.foldl_cons, ih, totalDuration_note]
    cases hseconds : signal.seconds? .totalDuration with
    | none => simp [hseconds]
    | some x => simp [hseconds, List.getLast?_cons]

theorem runDurations_foldl_note :
    (signals.foldl note t).runDurations =
      t.runDurations ++ signals.filterMap (Signal.seconds? .runDuration) := by
  induction signals generalizing t with
  | nil => exact (List.append_nil _).symm
  | cons signal signals ih =>
    rw [List.foldl_cons, ih, runDurations_note, List.append_assoc]
    cases hseconds : signal.seconds? .runDuration <;> simp [hseconds]

end Tally

/-! ## Snapshots -/

namespace Snapshot

/-- **A snapshot passes its own checks**, whatever it says. -/
theorem ofFields_toFields (s : Snapshot) : ofFields s.toFields = .ok s := by
  have hlast : Coercion.optional Coercion.number
      ((s.lastRunDuration.map Value.number).getD .absent) = .ok s.lastRunDuration := by
    cases s.lastRunDuration <;> rfl
  have hruns : Coercion.sequence Coercion.number (.tuple (s.runDurations.map .number)) =
      .ok s.runDurations := Checked.each_number _ 0
  -- every field is found and passes its check, and no field is left over
  simp [ofFields, toFields, fieldNames, PerEvent.toList, PerEvent.get, Event.all, Event.countName,
    List.lookup_cons, Fields.required, Fields.optional, Fields.closed, Coercion.text,
    Coercion.integer, Coercion.number, hlast, hruns, Checked.map, Checked.under, Checked.ap,
    Checked.forModel]

/-- **A snapshot says what the series of its command export**: each counter
was counted up as often as it says, the gauge shows its total duration, and
the histogram holds its run durations, whose sum is the same. -/
structure Matches (sum : List Number → Number) (s : Snapshot) (m : MetricSet) : Prop where
  counter : ∀ e, ∃ n : Nat, s.counts.get e = n ∧
    (m.counters.get e).get? s.command = some (Number.ticks n) ∧
    (n ≤ twoPow 53 → (m.counters.get e).get? s.command = some (Number.ofInt n))
  gauge : m.totalDuration.get? s.command = some s.totalDuration
  histogram : ∃ runs, m.runDuration.get? s.command = some runs ∧
    Duration.seconds (s.runDurationSum sum) = .ok runs.sum ∧ runs.Holds m.buckets s.runDurations

/-- The sum of the run durations is a number, also where there are none. -/
theorem seconds_runDurationSum {sum : List Number → Number} (hsum : Number.AddsInOrder sum)
    (s : Snapshot) : Duration.seconds (s.runDurationSum sum) =
      .ok (Number.sumInOrder s.runDurations) := by
  unfold runDurationSum
  split
  · rename_i hempty
    rw [List.isEmpty_iff.1 hempty]
    decide +kernel
  · rw [hsum]
    rfl

end Snapshot

/-! ## Both are told -/

namespace Host

variable {h : Host} {id : SetId} {m : MetricSet} {sink : SinkId} {t : Tally} {command : Text}

/-- **Tells a recorder and a sink of the same calls**, one after the other,
and keeps both of the answers to each. -/
def tellBoth (r : Recorder) (sink : SinkId) :
    List Call → Host → Host × List (Except Failure Unit × Except Failure Unit)
  | [], h => (h, [])
  | c :: cs, h =>
    let told := h.call (.recorder r) c.method.name c.arguments
    let noted := told.1.call (.sink sink) c.method.name c.arguments
    let rest := tellBoth r sink cs noted.1
    (rest.1, (told.2, noted.2) :: rest.2)

/-- A recorder answers with the verdict on the call. -/
theorem call_recorder_snd (hset : h.set? id = some m) (command : Text) (c : Call) :
    (h.call (.recorder ⟨command, id⟩) c.method.name c.arguments).2 = c.verdict .recorder := by
  simp only [call, collectorKind?, CollectorKind.signal?_name, Call.verdict]
  cases c.method.signal CollectorKind.recorder.name c.arguments with
  | error fault => rfl
  | ok signal => simp only [Except.map, report, hset, MetricSet.record_snd]

/-- Recorders write into no sink. -/
theorem sinks_call_recorder (h : Host) (r : Recorder) (method : String) (arguments : List Value) :
    (h.call (.recorder r) method arguments).1.sinks = h.sinks := by
  unfold call
  split
  · rfl
  · split
    · unfold report
      dsimp only
      split <;> rfl
    · rfl
    · rfl

/-- **A sink that keeps a tally** notes what a call reports. -/
theorem call_sink (hsink : h.sink? sink = some (.memory command t)) (c : Call) :
    (h.call (.sink sink) c.method.name c.arguments).2 = c.verdict .memory ∧
    (h.call (.sink sink) c.method.name c.arguments).1.sink? sink =
      some (.memory command (c.signal?.toList.foldl Tally.note t)) := by
  have hkind : h.collectorKind? (.sink sink) = some .memory := by
    simp only [collectorKind?, hsink]
  simp only [call, hkind, CollectorKind.signal?_name, Call.verdict, Call.signal?]
  cases c.method.signal CollectorKind.memory.name c.arguments with
  | error fault => exact ⟨rfl, hsink⟩
  | ok signal =>
    simp only [Except.map, report, hsink, Tally.record_memory]
    refine ⟨trivial, ?_⟩
    unfold sink? at *
    rw [List.getElem?_modify_eq, hsink]
    rfl

/-- **What telling both leaves**: the answers are the verdicts, the set has
taken the steps of the calls, and the tally has noted their signals. By
induction on the calls; a recorder and a sink do not meet. -/
theorem tellBoth_spec (hset : h.set? id = some m) (hsink : h.sink? sink = some (.memory command t))
    (cs : List Call) :
    (tellBoth ⟨command, id⟩ sink cs h).1.set? id =
      some (m.play (SetOperation.logSteps (cs.map (Call.on command)))) ∧
    (tellBoth ⟨command, id⟩ sink cs h).1.sink? sink =
      some (.memory command ((cs.filterMap Call.signal?).foldl Tally.note t)) ∧
    (tellBoth ⟨command, id⟩ sink cs h).2 =
      cs.map fun c => (c.verdict .recorder, c.verdict .memory) := by
  induction cs generalizing h m t with
  | nil => exact ⟨hset, hsink, rfl⟩
  | cons c cs ih =>
    have htold := set?_call hset command c.method.name c.arguments
    have hkept : (h.call (.recorder ⟨command, id⟩) c.method.name c.arguments).1.sink? sink =
        some (.memory command t) := by
      unfold sink? at *
      rwa [sinks_call_recorder]
    obtain ⟨hanswer, hnoted⟩ := call_sink hkept c
    have hstays := (set?_of_sets_eq (sets_call_sink _ sink c.method.name c.arguments)).trans htold
    obtain ⟨hset', hsink', hanswers⟩ := ih hstays hnoted
    refine ⟨?_, ?_, ?_⟩
    · rw [List.map_cons, SetOperation.logSteps, List.flatMap_cons, MetricSet.play_append]
      exact hset'
    · have hfold : ((c :: cs).filterMap Call.signal?).foldl Tally.note t =
          (cs.filterMap Call.signal?).foldl Tally.note (c.signal?.toList.foldl Tally.note t) := by
        cases hsignal : c.signal? <;> simp [hsignal]
      rw [hfold]
      exact hsink'
    · rw [List.map_cons, ← hanswers, ← call_recorder_snd hset command c, ← hanswer]
      rfl

end Host

/-! ## From the first event on -/

namespace SetOperation

/-- **Nothing that was reported of a command was taken in** so far. -/
structure Unheard (log : List SetOperation) (command : Text) : Prop where
  calls : ∀ e, SetOperation.calls log e command = 0
  totals : SetOperation.totals log command = []
  observations : SetOperation.observations log command = []

variable {log : List SetOperation} {command : Text}

/-- From there on a log tells the signals of the calls that a recorder gets. -/
theorem Unheard.calls_append (hunheard : Unheard log command) (route : RecorderRoute) (name : Value)
    (cs : List Call) (e : Event) :
    SetOperation.calls (log ++ makeRecorder route name :: cs.map (Call.on command)) e command =
      (cs.filterMap Call.signal?).countP (Signal.isEvent e) := by
  rw [← Call.calls_map_on cs e command]
  have hbefore := hunheard.calls e
  unfold SetOperation.calls at *
  rw [List.countP_append, hbefore, Nat.zero_add, List.countP_cons_of_neg (by simp [isCall])]

theorem filterMap_seconds?_append {method : Method}
    (hmethod : method = .totalDuration ∨ method = .runDuration)
    (hunheard : log.filterMap (seconds? method command) = []) (route : RecorderRoute) (name : Value)
    (cs : List Call) :
    (log ++ makeRecorder route name :: cs.map (Call.on command)).filterMap
        (seconds? method command) =
      (cs.filterMap Call.signal?).filterMap (Signal.seconds? method) := by
  rw [← Call.filterMap_seconds?_map_on hmethod cs command, List.filterMap_append, hunheard,
    List.nil_append, List.filterMap_cons_none rfl]

/-- **A new tally says what the series say** when both took in the same
signals. -/
theorem Unheard.matches_snapshot {sum : List Number → Number} (hsum : Number.AddsInOrder sum)
    (hunheard : Unheard log command) {route : RecorderRoute} {name : Value} {cs : List Call}
    {m : MetricSet}
    (haccounts : m.Accounts (log ++ makeRecorder route name :: cs.map (Call.on command)) command) :
    (((cs.filterMap Call.signal?).foldl Tally.note .empty).snapshot command).Matches sum m := by
  have htotals := filterMap_seconds?_append (.inl rfl) hunheard.totals route name cs
  have hruns := filterMap_seconds?_append (.inr rfl) hunheard.observations route name cs
  refine ⟨fun e => ⟨(cs.filterMap Call.signal?).countP (Signal.isEvent e), ?_⟩, ?_, ?_⟩
  · have hcounts : (((cs.filterMap Call.signal?).foldl Tally.note .empty).snapshot
        command).counts.get e = (cs.filterMap Call.signal?).countP (Signal.isEvent e) := by
      rw [Tally.snapshot, PerEvent.get_map, Tally.counts_foldl_note]
      simp [Tally.empty]
    rw [← hunheard.calls_append route name cs e] at hcounts ⊢
    exact ⟨hcounts, haccounts.counter e, haccounts.counter_exact e⟩
  · have hgauge := haccounts.gauge
    rw [SetOperation.totals, htotals] at hgauge
    rw [Tally.snapshot, Tally.totalDuration_foldl_note]
    exact hgauge
  · obtain ⟨runs, hget, hholds⟩ := haccounts.histogram
    rw [SetOperation.observations, hruns] at hholds
    have hsnapshot : (((cs.filterMap Call.signal?).foldl Tally.note .empty).snapshot
        command).runDurations = (cs.filterMap Call.signal?).filterMap
          (Signal.seconds? .runDuration) := Tally.runDurations_foldl_note _ _
    refine ⟨runs, hget, ?_, hsnapshot ▸ hholds⟩
    rw [Snapshot.seconds_runDurationSum hsum, hsnapshot, hholds.sum]
    rfl

end SetOperation

namespace Host

variable {id : SetId} {m : MetricSet} {command : Text}

/-- **The sink for tests agrees with the series.** After any run, a recorder
is made for a command of which nothing was taken in before, and a new sink
that keeps a tally. Whatever calls both are told of, they agree on each;
then a snapshot can be taken and passes its own checks. It counts the
events that were called, holds the run durations that were accepted, and
says what the series of the command export. The sum of the run durations is
that of the histogram where `sum`, which the interpreter brings along, adds
one by one. -/
theorem sink_agrees_with_series {sum : List Number → Number} (hsum : Number.AddsInOrder sum)
    {acts : List Act} (hset : (initial.run acts).set? id = some m)
    (hne : command ≠ "") (hunheard : SetOperation.Unheard (logOf id initial acts) command)
    (route : RecorderRoute) (cs : List Call) :
    ∃ told made sink after answers m' taken,
      (initial.run acts).newRecorder route id (.text command) = (told, .ok ⟨command, id⟩) ∧
      told.newMemory (.text command) = (made, .ok sink) ∧
      tellBoth ⟨command, id⟩ sink cs made = (after, answers) ∧
      List.Forall₂ Call.Agrees cs answers ∧
      after.set? id = some m' ∧ after.snapshot (.sink sink) = .ok taken ∧
      Snapshot.ofFields taken.snapshot.toFields = .ok taken.snapshot ∧
      taken.snapshot.command = command ∧
      (∀ e, taken.snapshot.counts.get e = (cs.filterMap Call.signal?).countP (Signal.isEvent e)) ∧
      taken.snapshot.runDurations =
        (cs.filterMap Call.signal?).filterMap (Signal.seconds? .runDuration) ∧
      taken.snapshot.lastRunDuration = taken.snapshot.runDurations.getLast? ∧
      taken.snapshot.Matches sum m' := by
  -- both are made
  have htold := newRecorder_of_text hset route hne
  have hset' := set?_newRecorder hset route (.text command)
  rw [htold] at hset'
  obtain ⟨made, sink, hmade, hsets, hsink⟩ :=
    exists_newMemory ((initial.run acts).putSet id (m.ensure command)) hne
  -- both are told
  rw [← set?_of_sets_eq hsets] at hset'
  obtain ⟨hleft, hnoted, hanswers⟩ := tellBoth_spec hset' hsink cs
  have hused : SetOperation.uses command (.makeRecorder route (.text command)) = true := by
    simp [SetOperation.uses, hne]
  have haccounts := accounts_play_of_run hset
    (.makeRecorder route (.text command) :: cs.map (Call.on command))
    ⟨_, List.mem_append_right _ List.mem_cons_self, hused⟩
  rw [SetOperation.logSteps, List.flatMap_cons, MetricSet.play_append] at haccounts
  have hsnapshot : (tellBoth ⟨command, id⟩ sink cs made).1.snapshot (.sink sink) = .ok
      ⟨((cs.filterMap Call.signal?).foldl Tally.note .empty).snapshot command, sink,
        ((cs.filterMap Call.signal?).foldl Tally.note .empty).totalReports⟩ := by
    simp only [snapshot, hnoted]
  refine ⟨_, made, sink, _, _, _, _, htold, hmade, rfl, ?_, hleft, hsnapshot,
    Snapshot.ofFields_toFields _, rfl, fun e => ?_, Tally.runDurations_foldl_note _ _, rfl,
    hunheard.matches_snapshot hsum haccounts⟩
  · rw [hanswers]
    exact Call.forall₂_agrees cs .recorder .memory
  · rw [Tally.snapshot, PerEvent.get_map, Tally.counts_foldl_note]
    simp [Tally.empty]

/-- A sink and a recorder are told of an attempt, of a run that is not a
number and of an infinite one; two more calls are refused. -/
theorem sink_agrees_with_series_ping :
    ∃ (cs : List Call) (made : Host) (sink : SinkId) (m : MetricSet) (taken : Taken),
      List.Forall₂ Call.Agrees cs (tellBoth ⟨"ping", ⟨0⟩⟩ sink cs made).2 ∧
      (tellBoth ⟨"ping", ⟨0⟩⟩ sink cs made).1.set? ⟨0⟩ = some m ∧
      (tellBoth ⟨"ping", ⟨0⟩⟩ sink cs made).1.snapshot (.sink sink) = .ok taken ∧
      taken.snapshot.counts.get .attempt = 1 ∧
      taken.snapshot.runDurations = [.nan, .infinity false] ∧
      taken.snapshot.Matches Number.sumInOrder m := by
  let acts : List Act := [.construct .default none none]
  let cs : List Call := [⟨.event .attempt, []⟩, ⟨.runDuration, [.number .nan]⟩,
    ⟨.runDuration, [.flag true]⟩, ⟨.runDuration, [.number (.infinity false)]⟩, ⟨.reset, [.absent]⟩]
  have hsome : ((initial.run acts).set? ⟨0⟩).isSome = true := by decide +kernel
  obtain ⟨m, hset⟩ := Option.isSome_iff_exists.1 hsome
  have hlog : logOf ⟨0⟩ initial acts = [] := by simp [acts, logOf, Act.operations]
  have hunheard : SetOperation.Unheard (logOf ⟨0⟩ initial acts) "ping" :=
    hlog ▸ ⟨fun _ => rfl, rfl, rfl⟩
  obtain ⟨told, made, sink, after, answers, m', taken, -, -, hboth, hagrees, hleft, hsnapshot, -, -,
    hcounts, hruns, -, hmatches⟩ :=
    sink_agrees_with_series (fun _ => rfl) hset (by decide) hunheard .newRecorder cs
  refine ⟨cs, made, sink, m', taken, ?_, ?_, ?_, ?_, ?_, hmatches⟩
  · rw [hboth]
    exact hagrees
  · rw [hboth]
    exact hleft
  · rw [hboth]
    exact hsnapshot
  · rw [hcounts]
    decide +kernel
  · rw [hruns]
    decide +kernel

end Host

/-- **Interpreters that put back what rounding took do not add one by one.**
With them the sum of runs of one, two and three tenths of a second is not the
sum of the histogram, which rounds up on the way. -/
theorem Number.not_addsInOrder_sumCompensated : ¬ AddsInOrder sumCompensated := by
  intro hsum
  have htenths := hsum [ofDecimal false ⟨1, -1⟩, ofDecimal false ⟨2, -1⟩, ofDecimal false ⟨3, -1⟩]
  revert htenths
  decide +kernel

end CommandMetrics
