import CommandMetrics.Host.Recording
/-!
# Rosters — one collector of each factory for a command

Factories are called in the order in which they were enlisted. Those that
are called are the ones on the roster when the call begins, whatever they
do to the roster in the meantime.
-/

namespace CommandMetrics.Host

/-- How a factory is shown in the log. -/
def shownFactory (h : Host) : Factory → String
  | .recorders id =>
    "<bound method PrometheusMetricSet.collector of "
      ++ ((h.set? id).map MetricSet.shown).getD "" ++ ">"
  | .memory => "<class 'hystrix_prometheus.collectors.collector_inmemory.InMemoryMetricCollector'>"
  | .silent => "<class 'hystrix_prometheus.collectors.collector_noop.NoopMetricCollector'>"
  | .scripted label _ => "<factory " ++ label ++ ">"

/-- Puts a factory at the end of a roster. -/
def enlist (h : Host) (id : RosterId) (factory : Factory) : Host :=
  let factories := h.roster id ++ [factory]
  (h.setRoster id factories).write (.factoryEnlisted (h.shownFactory factory) factories.length)

/-- **Registers what may be a factory** and tells how many there are now. -/
def register (h : Host) (id : RosterId) (candidate : Option Factory) : Outcome Nat :=
  match candidate with
  | none => (h, .error (.fault .notAFactory))
  | some factory =>
    let h := h.enlist id factory
    (h, .ok (h.roster id).length)

/-- **Removes every factory.** -/
def clearRoster (h : Host) (id : RosterId) : Host := h.setRoster id []

/-- Follows the script of a factory that was called for a command. -/
def follow (id : RosterId) (name : Value) : Script → Host → Outcome Collector
  | .make, h =>
    match h.newSilent name with
    | (h, .ok sink) => (h, .ok (.sink sink))
    | (h, .error failure) => (h, .error failure)
  | .giveUp, h => (h, .error (.fault (.factoryFailed name.asText)))
  | .enlist factory rest, h => follow id name rest (h.enlist id factory)
  | .clear rest, h => follow id name rest (h.clearRoster id)

/-- **Calls a factory for a command.** -/
def make (h : Host) (id : RosterId) (name : Value) : Factory → Outcome Collector
  | .recorders set =>
    match h.newRecorder .collector set name with
    | (h, .ok recorder) => (h, .ok (.recorder recorder))
    | (h, .error failure) => (h, .error failure)
  | .memory =>
    match h.newMemory name with
    | (h, .ok sink) => (h, .ok (.sink sink))
    | (h, .error failure) => (h, .error failure)
  | .silent =>
    match h.newSilent name with
    | (h, .ok sink) => (h, .ok (.sink sink))
    | (h, .error failure) => (h, .error failure)
  | .scripted _ script => follow id name script h

/-- Calls factories one after the other, up to the first that fails. -/
def makeEach (id : RosterId) (name : Value) : List Factory → Host → Outcome (List Collector)
  | [], h => (h, .ok [])
  | factory :: rest, h =>
    match h.make id name factory with
    | (h, .error failure) => (h, .error failure)
    | (h, .ok collector) =>
      match makeEach id name rest h with
      | (h, .error failure) => (h, .error failure)
      | (h, .ok collectors) => (h, .ok (collector :: collectors))

/-- **Makes the collectors of a command**, one of each factory on the
roster. -/
def initializeCollectors (h : Host) (id : RosterId) (name : Value) : Outcome (List Collector) :=
  makeEach id name (h.roster id) h

end CommandMetrics.Host
