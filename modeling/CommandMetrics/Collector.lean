import CommandMetrics.MetricSet
import CommandMetrics.Tally
/-!
# Collectors — who the engine reports to

A recorder writes into a metric set; it is no more than the name of its
command and the set, so two recorders of the same command and set are the
same. The other two collectors are sinks of their own: one keeps a tally
in memory, one discards everything.
-/

namespace CommandMetrics

/-- A recorder of a metric set. -/
structure Recorder where
  command : Text
  set : SetId
  deriving DecidableEq, Hashable, Repr

/-- How a recorder is shown. -/
def Recorder.shown (r : Recorder) : String :=
  "PrometheusCommandRecorder(command_name=" ++ Quoted.text r.command ++ ")"

/-- A collector that writes into no metric set, by its number. -/
structure SinkId where
  index : Nat
  deriving DecidableEq, Repr

/-- A collector that writes into no metric set. -/
inductive Sink where
  /-- Keeps a tally. -/
  | memory (command : Text) (tally : Tally)
  /-- Discards everything. -/
  | silent (command : Text)

namespace Sink

/-- The command a sink is bound to. -/
def command : Sink → Text
  | memory command _ => command
  | silent command => command

/-- **Takes a signal in.** A sink that discards everything does not even
look at durations. -/
def record (s : Sink) (signal : Signal) : Sink × Except Fault Unit :=
  match s with
  | memory command tally =>
    match tally.take signal with
    | .ok tally => (memory command tally, .ok ())
    | .error fault => (memory command tally, .error fault)
  | silent command => (silent command, .ok ())

end Sink

/-! ## Snapshots of a sink -/

/-- A snapshot, and where and when it was taken. -/
structure Taken where
  snapshot : Snapshot
  sink : SinkId
  /-- How many total durations the sink had been told of by then. -/
  totalReports : Nat

namespace Taken

/-- **Whether two snapshots tell the same.** Snapshots of one sink share the
reports of the run durations in common to both, and that of the total
duration unless another one came in between; a report tells the same as
itself even where it is no number. -/
def same (s t : Taken) : Bool :=
  let oneSink := decide (s.sink = t.sink)
  Snapshot.sameSharing (oneSink && s.totalReports == t.totalReports) oneSink s.snapshot t.snapshot

theorem same_self (t : Taken) : t.same t = true := by
  simp [same, Snapshot.sameSharing_self]

end Taken

/-! ## Collectors -/

/-- Whatever the engine reports to. -/
inductive Collector where
  | recorder (r : Recorder)
  | sink (id : SinkId)
  deriving DecidableEq, Repr

/-- The types of collectors, which differ in what they answer to. -/
inductive CollectorKind where
  | recorder
  | memory
  | silent
  deriving DecidableEq, Repr

namespace CollectorKind

/-- The name of a type. -/
def name : CollectorKind → String
  | recorder => "PrometheusCommandRecorder"
  | memory => "InMemoryMetricCollector"
  | silent => "NoopMetricCollector"

/-- The method of a name. Only recorders answer to the second names. -/
def method? (kind : CollectorKind) (name : String) : Option Method :=
  match kind with
  | recorder => (Method.ofName? name).or (Method.ofAlias? name)
  | memory | silent => Method.ofName? name

/-- The part of a recorder that is the metric set it writes into. -/
def setPart : String := "metric_set"

/-- The part of a collector in memory that tells what was recorded. -/
def snapshotPart : String := "snapshot"

/-- The type of a part that is a value and no method. -/
def valueType? (kind : CollectorKind) (part : String) : Option String :=
  if part = Interface.commandPart then some "str"
  else if kind = recorder ∧ part = setPart then some "PrometheusMetricSet"
  else none

/-- **What a call reports**: the method is looked up first, then its
arguments are taken. A call that asks for a snapshot reports nothing. -/
def signal? (kind : CollectorKind) (name : String) (arguments : List Value) :
    Except Fault (Option Signal) :=
  match kind.method? name with
  | some method => (method.signal kind.name arguments).map some
  | none =>
    if kind = memory ∧ name = snapshotPart then
      if arguments.isEmpty then .ok none
      else
        .error (.arguments (Method.wrongArguments (kind.name ++ "." ++ name ++ "()") none
          arguments.length))
    else
      match kind.valueType? name with
      | some type => .error (.notCallable type)
      | none => .error .noSuchPart

/-- The parts of a collector that an interface can ask for. -/
def parts (kind : CollectorKind) : List String :=
  let common := Interface.commandPart :: Method.all.map Method.name
  match kind with
  | recorder => common ++ Event.all.map Method.aliasName ++ [setPart]
  | memory => common ++ [snapshotPart]
  | silent => common

end CollectorKind

end CommandMetrics
