import CommandMetrics.Host.Export
import CommandMetrics.Host.Registration
import CommandMetrics.Host.Roster
/-!
# Calls — metric sets and rosters answer to names as collectors do

Besides collectors, which the engine calls, metric sets and rosters have
methods that go by a name. A method takes one value or none, and what it
returns is dropped here: only what it does to the host and how it fails is
told.
-/

namespace CommandMetrics

/-- The methods of a metric set. -/
inductive SetMethod where
  | newRecorder
  | ensureCommand
  | collector
  | metric
  | unregister
  | text
  deriving DecidableEq, Repr

namespace SetMethod

/-- The methods in order. -/
def all : List SetMethod := [newRecorder, ensureCommand, collector, metric, unregister, text]

/-- The name of a method. -/
def name : SetMethod → String
  | newRecorder => CommandName.newRecorder
  | ensureCommand => "ensure_command"
  | collector => "collector"
  | metric => "metric"
  | unregister => "unregister"
  | text => "get_metrics_text"

/-- The name of the one parameter of a method, if it has one. -/
def parameter? : SetMethod → Option String
  | newRecorder | ensureCommand => some "command_name"
  | collector => some "name"
  | metric => some "attribute"
  | unregister | text => none

/-- The method of a name. -/
def ofName? (s : String) : Option SetMethod := all.find? (·.name == s)

/-- Every method is among them. -/
theorem mem_all (m : SetMethod) : m ∈ all := by cases m <;> decide

/-- The type of a part of a metric set that is a value and no method. -/
def valueType? (part : String) : Option String :=
  [("registry", "CollectorRegistry"), ("duration_buckets", "tuple"), ("is_registered", "bool")]
    |>.lookup part

end SetMethod

/-- The methods of a roster. -/
inductive RosterMethod where
  | register
  | makeCollectors
  | clear
  deriving DecidableEq, Repr

namespace RosterMethod

/-- The methods in order. -/
def all : List RosterMethod := [register, makeCollectors, clear]

/-- The name of a method. -/
def name : RosterMethod → String
  | register => "register"
  | makeCollectors => "initialize_metric_collectors"
  | clear => "clear"

/-- The name of the one parameter of a method, if it has one. -/
def parameter? : RosterMethod → Option String
  | register => some "factory"
  | makeCollectors => some "name"
  | clear => none

/-- The method of a name. -/
def ofName? (s : String) : Option RosterMethod := all.find? (·.name == s)

/-- Every method is among them. -/
theorem mem_all (m : RosterMethod) : m ∈ all := by cases m <;> decide

end RosterMethod

namespace Host

/-- What was done, without its result. -/
def Outcome.dropped {α : Type} : Outcome α → Outcome Unit
  | (h, result) => (h, result.map fun _ => ())

/-- A call with the wrong number of arguments. -/
def miscount (h : Host) (method : String) (parameter? : Option String) (count : Nat) :
    Outcome Unit :=
  (h, .error (.fault (.arguments (Method.wrongArguments (method ++ "()") parameter? count))))

/-- **Calls a method of a metric set** by its name. -/
def callSet (h : Host) (id : SetId) (name : String) (arguments : List Value) : Outcome Unit :=
  match SetMethod.ofName? name with
  | none =>
    let fault :=
      match SetMethod.valueType? name with
      | some type => Fault.notCallable type
      | none => .noSuchPart
    (h, .error (.fault fault))
  | some method =>
    match method, arguments with
    | .newRecorder, [command] => (h.newRecorder .newRecorder id command).dropped
    | .collector, [command] => (h.newRecorder .collector id command).dropped
    | .ensureCommand, [command] => h.ensureCommand id command
    | .metric, [series] => (h, ((Series.find series).map fun _ => ()).mapError .fault)
    | .unregister, [] => h.unregisterSet id
    | .text, [] => (h, .ok ())
    | method, arguments =>
      h.miscount ("PrometheusMetricSet." ++ method.name) method.parameter? arguments.length

/-- **Calls a method of a roster** by its name. No value is a factory. -/
def callRoster (h : Host) (id : RosterId) (name : String) (arguments : List Value) :
    Outcome Unit :=
  match RosterMethod.ofName? name with
  | none => (h, .error (.fault .noSuchPart))
  | some method =>
    match method, arguments with
    | .register, [_] => (h.register id none).dropped
    | .makeCollectors, [command] => (h.initializeCollectors id command).dropped
    | .clear, [] => (h.clearRoster id, .ok ())
    | method, arguments =>
      h.miscount ("MetricCollectorRegistry." ++ method.name) method.parameter? arguments.length

end Host

end CommandMetrics
