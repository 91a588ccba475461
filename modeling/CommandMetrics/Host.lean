import CommandMetrics.Environment
import CommandMetrics.Factory
import CommandMetrics.Log
/-!
# Hosts — everything that one process holds

A host holds registries, metric sets, metrics of other programs, sinks,
rosters and the log. Each is known by its number, which it keeps; a metric
set is kept even when its construction failed, so a number is never given
twice. What an operation does to a host is a new host, also when the
operation fails: a failure undoes nothing by itself.
-/

namespace CommandMetrics

/-- Everything that one process holds. -/
structure Host where
  /-- The first one is the registry of the process. -/
  registries : List Registry
  sets : List MetricSet
  foreign : List Foreign
  sinks : List Sink
  /-- The first one is the roster of the process. -/
  rosters : List (List Factory)
  /-- The metric set of the process, once there is one. -/
  current : Option SetId
  log : List LogRecord

namespace Host

/-- A process that has just been started. -/
def initial : Host :=
  { registries := [.empty]
    sets := []
    foreign := []
    sinks := []
    rosters := [[]]
    current := none
    log := [] }

/-- What an operation leaves behind, and what comes out of it. -/
abbrev Outcome (α : Type) := Host × Except Failure α

/-- Writes a record to the log. -/
def write (h : Host) (record : LogRecord) : Host := { h with log := h.log ++ [record] }

/-! ## Looking things up -/

/-- A registry. -/
def registry (h : Host) (id : RegistryId) : Registry :=
  (h.registries[id.index]?).getD .empty

/-- Replaces a registry. -/
def setRegistry (h : Host) (id : RegistryId) (r : Registry) : Host :=
  { h with registries := h.registries.modify id.index fun _ => r }

/-- A metric set. -/
def set? (h : Host) (id : SetId) : Option MetricSet := h.sets[id.index]?

/-- Replaces a metric set. -/
def putSet (h : Host) (id : SetId) (m : MetricSet) : Host :=
  { h with sets := h.sets.modify id.index fun _ => m }

/-- A sink. -/
def sink? (h : Host) (id : SinkId) : Option Sink := h.sinks[id.index]?

/-- A roster. -/
def roster (h : Host) (id : RosterId) : List Factory := (h.rosters[id.index]?).getD []

/-- Replaces a roster. -/
def setRoster (h : Host) (id : RosterId) (factories : List Factory) : Host :=
  { h with rosters := h.rosters.modify id.index fun _ => factories }

/-! ## Adding empty things -/

/-- Adds a registry. -/
def addRegistry (h : Host) : Host × RegistryId :=
  ({ h with registries := h.registries ++ [.empty] }, ⟨h.registries.length⟩)

/-- Adds a roster. -/
def addRoster (h : Host) : Host × RosterId :=
  ({ h with rosters := h.rosters ++ [[]] }, ⟨h.rosters.length⟩)

end Host

end CommandMetrics
