import CommandMetrics.Children
import CommandMetrics.Registry
import CommandMetrics.Signal
/-!
# Metric sets — the eleven series and what is recorded in them

A metric set owns its series from its construction on: taking them out of
the registry stops their export and nothing else. Cells are made when a
command is first used, and are never taken away.
-/

namespace CommandMetrics

/-- A registry, by its number. -/
structure RegistryId where
  index : Nat
  deriving DecidableEq, Repr

/-- The registry of the process. -/
def RegistryId.default : RegistryId := ⟨0⟩

/-- A set of the eleven series. -/
structure MetricSet where
  registry : RegistryId
  /-- The bounds of the duration histogram, as they were configured. -/
  bounds : List Number
  /-- The upper bounds of its buckets. -/
  buckets : List Number
  registered : Bool
  counters : PerEvent (Children Number)
  totalDuration : Children Number
  runDuration : Children Histogram

namespace MetricSet

/-- A set that is not registered, in which nothing is recorded. -/
def fresh (registry : RegistryId) (bounds buckets : List Number) : MetricSet :=
  { registry, bounds, buckets
    registered := false
    counters := PerEvent.same .empty
    totalDuration := .empty
    runDuration := .empty }

/-- How a set is shown in messages. -/
def shown (m : MetricSet) : String :=
  "PrometheusMetricSet(series=" ++ toString Series.all.length ++ ", registered="
    ++ (Value.flag m.registered).shown ++ ")"

/-- The commands of a series, in the order of their first use. -/
def commands (m : MetricSet) : Series → List Text
  | .events e => (m.counters.get e).commands
  | .totalDuration => m.totalDuration.commands
  | .runDuration => m.runDuration.commands

/-! ## Recording -/

/-- **Makes sure that a command has a cell in every series.** -/
def ensure (m : MetricSet) (command : Text) : MetricSet :=
  { m with
    counters := m.counters.map (·.ensure command 0)
    totalDuration := m.totalDuration.ensure command 0
    runDuration := m.runDuration.ensure command (.empty m.buckets) }

/-- **Records a signal about a command.** The cell is looked up before a
duration is turned into seconds, so it is there also when the duration is
refused. -/
def record (m : MetricSet) (command : Text) : Signal → MetricSet × Except Fault Unit
  | .event e => ({ m with counters := m.counters.modify e (·.update command 0 (· + 1)) }, .ok ())
  | .totalDuration duration =>
    let (touched, i) := m.totalDuration.touch command 0
    match Duration.seconds duration with
    | .ok seconds => ({ m with totalDuration := touched.modifyAt i fun _ => seconds }, .ok ())
    | .error fault => ({ m with totalDuration := touched }, .error fault)
  | .runDuration duration =>
    let (touched, i) := m.runDuration.touch command (.empty m.buckets)
    match Duration.seconds duration with
    | .ok seconds =>
      ({ m with runDuration := touched.modifyAt i (Histogram.observe m.buckets seconds) }, .ok ())
    | .error fault => ({ m with runDuration := touched }, .error fault)
  | .reset => (m, .ok ())

/-! ## Export -/

/-- The samples of a series, command by command. -/
def samples (m : MetricSet) (s : Series) : List Sample :=
  let labels (command : Text) := [(Definition.commandLabel, command)]
  match s with
  | .events e =>
    (m.counters.get e).cells.flatMap fun (command, x) =>
      Sample.ofCounter s.fullName (labels command) x
  | .totalDuration =>
    m.totalDuration.cells.flatMap fun (command, x) => Sample.ofGauge s.fullName (labels command) x
  | .runDuration =>
    m.runDuration.cells.flatMap fun (command, h) =>
      Sample.ofHistogram s.fullName (labels command) m.buckets h

/-- What a registry exports of a series. -/
def family (m : MetricSet) (s : Series) : Family :=
  ⟨s.kind.family, s.fullName, s.description, m.samples s⟩

end MetricSet

end CommandMetrics
