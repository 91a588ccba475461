import CommandMetrics.CommandName
import CommandMetrics.Host
/-!
# Recording — collectors are made and told of events

There are three ways to a recorder, all of which check the name and make
sure that its command has a cell in every series. Recording writes no log.
-/

namespace CommandMetrics

/-- The ways to a recorder. -/
inductive RecorderRoute where
  /-- From its metric set. -/
  | newRecorder
  /-- From its metric set as a factory of collectors. -/
  | collector
  /-- On its own. -/
  | direct
  deriving DecidableEq, Repr

/-- **The name a recorder is bound to.** A metric set checks the name before
the recorder does so itself. -/
def RecorderRoute.check (route : RecorderRoute) (name : Value) : Except Failure Text :=
  let own := CommandName.check (.text "recorder_init") name
  match route with
  | newRecorder | collector =>
    match CommandName.check (.text CommandName.newRecorder) name with
    | .ok _ => own
    | .error failure => .error failure
  | direct => own

namespace Host

/-- **Makes sure that a command has a cell in every series of a set.** The
name is not checked: any value stands for its text. -/
def ensureCommand (h : Host) (id : SetId) (name : Value) : Outcome Unit :=
  match h.set? id with
  | none => (h, .error (.fault .noSuchPart))
  | some m => (h.putSet id (m.ensure name.asText), .ok ())

/-- **Makes a recorder.** -/
def newRecorder (h : Host) (route : RecorderRoute) (id : SetId) (name : Value) :
    Outcome Recorder :=
  match route.check name with
  | .error failure => (h, .error failure)
  | .ok command =>
    match h.ensureCommand id (.text command) with
    | (h, .ok ()) => (h, .ok ⟨command, id⟩)
    | (h, .error failure) => (h, .error failure)

/-- Adds a sink. -/
def addSink (h : Host) (make : Text → Sink) (name : Value) : Outcome SinkId :=
  match CommandName.check (.text CommandName.newRecorder) name with
  | .error failure => (h, .error failure)
  | .ok command => ({ h with sinks := h.sinks ++ [make command] }, .ok ⟨h.sinks.length⟩)

/-- **Makes a collector that keeps a tally.** -/
def newMemory (h : Host) (name : Value) : Outcome SinkId :=
  h.addSink (fun command => .memory command .empty) name

/-- **Makes a collector that discards everything.** -/
def newSilent (h : Host) (name : Value) : Outcome SinkId :=
  h.addSink .silent name

/-- The type of a collector. -/
def collectorKind? (h : Host) : Collector → Option CollectorKind
  | .recorder _ => some .recorder
  | .sink id =>
    match h.sink? id with
    | some (.memory ..) => some .memory
    | some (.silent _) => some .silent
    | none => none

/-- The command of a collector. -/
def collectorCommand? (h : Host) : Collector → Option Text
  | .recorder r => some r.command
  | .sink id => (h.sink? id).map Sink.command

/-- **Reports a signal to a collector.** -/
def report (h : Host) (collector : Collector) (signal : Signal) : Outcome Unit :=
  match collector with
  | .recorder r =>
    match h.set? r.set with
    | none => (h, .error (.fault .noSuchPart))
    | some m =>
      let (after, result) := m.record r.command signal
      (h.putSet r.set after, result.mapError .fault)
  | .sink id =>
    match h.sink? id with
    | none => (h, .error (.fault .noSuchPart))
    | some s =>
      let (after, result) := s.record signal
      ({ h with sinks := h.sinks.modify id.index fun _ => after }, result.mapError .fault)

/-- **Calls a method of a collector** by its name. -/
def call (h : Host) (collector : Collector) (name : String) (arguments : List Value) :
    Outcome Unit :=
  match h.collectorKind? collector with
  | none => (h, .error (.fault .noSuchPart))
  | some kind =>
    match kind.signal? name arguments with
    | .ok (some signal) => h.report collector signal
    | .ok none => (h, .ok ())
    | .error fault => (h, .error (.fault fault))

/-- **What a collector in memory has recorded so far.** The others have
nothing to tell. -/
def snapshot (h : Host) : Collector → Except Failure Taken
  | .recorder _ => .error (.fault .noSuchPart)
  | .sink id =>
    match h.sink? id with
    | some (.memory command tally) => .ok ⟨tally.snapshot command, id, tally.totalReports⟩
    | _ => .error (.fault .noSuchPart)

end Host

end CommandMetrics
