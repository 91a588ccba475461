import CommandMetrics.Definition
import CommandMetrics.Event
/-!
# Series — the eleven that every metric set holds

Nine counters, one for each event; a gauge for the time since the command
started; a histogram of how long its runs took. Names and help texts are
what dashboards and alerts are built on, so they never change.
-/

namespace CommandMetrics

/-- A series of a metric set. -/
inductive Series where
  | events (e : Event)
  | totalDuration
  | runDuration
  deriving DecidableEq, Repr

namespace Series

/-- What stands before the name of every series. -/
def space : String := "hystrix_go"

/-- **The series in the order of their definition**, which is the order in
which they are registered and exported. -/
def all : List Series := Event.all.map events ++ [totalDuration, runDuration]

theorem mem_all (s : Series) : s ∈ all := by
  cases s <;> simp [all, Event.mem_all]

/-- The help text of a series. -/
def description : Series → String
  | events .attempt => "The number of updates."
  | events .error =>
    "The number of unsuccessful attempts. Attempts minus Errors will equal successes within a time "
      ++ "range. Errors are any result from an attempt that is not a success."
  | events .success => "The number of requests that succeed."
  | events .failure => "The number of requests that fail."
  | events .reject => "The number of requests that are rejected."
  | events .shortCircuit =>
    "The number of requests that short circuited due to the circuit being open."
  | events .timeout => "The number of requests that are timeouted in the circuit breaker."
  | events .fallbackSuccess =>
    "The number of successes that occurred during the execution of the fallback function."
  | events .fallbackFailure =>
    "The number of failures that occurred during the execution of the fallback function."
  | totalDuration => "The total runtime of this command in seconds."
  | runDuration => "Runtime of the Hystrix command."

/-- The name of a series within its namespace, by which a metric set also
finds it. -/
def name : Series → String
  | events e => e.countName
  | totalDuration => "total_duration_seconds"
  | runDuration => "run_duration_seconds"

/-- The shape of a series. -/
def kind : Series → MetricKind
  | events _ => .counter
  | totalDuration => .gauge
  | runDuration => .histogram

/-- What a series is. -/
def definition (s : Series) : Definition :=
  { key := s.name
    name := s.name
    description := s.description
    kind := s.kind
    labels := [Definition.commandLabel] }

/-- The full name of a series. -/
def fullName (s : Series) : String := s.definition.fullName space

/-- The series of a name. -/
def ofName? (name : String) : Option Series := all.find? (·.name == name)

end Series

end CommandMetrics
