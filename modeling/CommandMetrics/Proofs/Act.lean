import CommandMetrics.Proofs.Construction
import CommandMetrics.Proofs.Recording.Frame
/-!
# Acts — everything that can be done to a host

A run is a sequence of acts, of which any may fail. What every act keeps is
kept by every run (`run_induction`), so an invariant of hosts is proved act
by act. The first of them is that series are numbered by their sets
(`numbered_run`), which is what constructions rely on.
-/

namespace CommandMetrics

/-- An act on a host. -/
inductive Act where
  | addRegistry
  | addRoster
  | construct (place : RegistryId) (bounds : Option Value) (config : Option Config)
  | createSet (environment : Environment) (place : RegistryId) (config : Option Config)
  | processSet (environment : Environment)
  | unregisterSet (id : SetId)
  /-- Another program registers a metric of its own. -/
  | addForeign (place : RegistryId) (kind : FamilyKind) (name help : String)
    (labels : List String)
  /-- Another program registers a metric that it has, as after taking it out. -/
  | reregister (place : RegistryId) (id : ForeignId)
  /-- A source is taken out of a registry behind the back of its owner. -/
  | drop (place : RegistryId) (source : Source)
  | startEndpoint (serve : Value → RegistryId → Host.EndpointResult) (id : SetId) (port : Value)
  | newRecorder (route : RecorderRoute) (id : SetId) (name : Value)
  | ensureCommand (id : SetId) (name : Value)
  | newMemory (name : Value)
  | newSilent (name : Value)
  | call (collector : Collector) (method : String) (arguments : List Value)
  | register (id : RosterId) (candidate : Option Factory)
  | clearRoster (id : RosterId)
  | initializeCollectors (id : RosterId) (name : Value)

namespace Host

/-- **Registers a metric of another program that there is.** -/
def reregister (h : Host) (place : RegistryId) (id : ForeignId) : Outcome Unit :=
  match h.foreign[id.index]? with
  | none => (h, .error (.fault .noSuchPart))
  | some metric =>
    match (h.registry place).register (.foreign id) (metric.kind.claims metric.name) with
    | .ok after => (h.setRegistry place after, .ok ())
    | .error names => (h, .error (.fault (.duplicateNames names)))

/-- **Does an act**, whether or not it fails. -/
def perform (h : Host) : Act → Host
  | .addRegistry => h.addRegistry.1
  | .addRoster => h.addRoster.1
  | .construct place bounds config => (h.construct place bounds config).1
  | .createSet environment place config => (h.createSet environment place config).1
  | .processSet environment => (h.processSet environment).1
  | .unregisterSet id => (h.unregisterSet id).1
  | .addForeign place kind name help labels => (h.addForeign place kind name help labels).1
  | .reregister place id => (h.reregister place id).1
  | .drop place source => (h.drop place source).1
  | .startEndpoint serve id port => (h.startEndpoint serve id port).1
  | .newRecorder route id name => (h.newRecorder route id name).1
  | .ensureCommand id name => (h.ensureCommand id name).1
  | .newMemory name => (h.newMemory name).1
  | .newSilent name => (h.newSilent name).1
  | .call collector method arguments => (h.call collector method arguments).1
  | .register id candidate => (h.register id candidate).1
  | .clearRoster id => h.clearRoster id
  | .initializeCollectors id name => (h.initializeCollectors id name).1

/-- Does acts one after the other. -/
def run (h : Host) (acts : List Act) : Host := acts.foldl perform h

variable {h : Host}

/-- **What every act keeps is kept by every run.** -/
theorem run_induction {P : Host → Prop} (hstep : ∀ h act, P h → P (h.perform act)) (hinit : P h)
    (acts : List Act) : P (h.run acts) := by
  induction acts generalizing h with
  | nil => exact hinit
  | cons act acts ih => exact ih (hstep h act hinit)

/-- What records keeps the series numbered. -/
theorem Records.numbered {after : Host} (hrec : h.Records after) (hnumbered : h.Numbered) :
    after.Numbered := by
  refine hnumbered.mono (Nat.le_of_eq hrec.length_sets.symm) fun place source hsource => .inl ?_
  rwa [hrec.registry_eq] at hsource

theorem Numbered.reregister (hnumbered : h.Numbered) (place : RegistryId) (id : ForeignId) :
    (h.reregister place id).1.Numbered := by
  unfold Host.reregister
  split
  · exact hnumbered
  · split
    · rename_i hentered
      exact hnumbered.enter hentered
    · exact hnumbered

/-- **No act gives a series a number that no set has.** -/
theorem Numbered.perform (hnumbered : h.Numbered) (act : Act) : (h.perform act).Numbered := by
  cases act with
  | addRegistry => exact hnumbered.addRegistry
  | addRoster => exact (Records.of_sets_eq rfl rfl rfl rfl : h.Records _).numbered hnumbered
  | construct place bounds config => exact hnumbered.construct place bounds config
  | createSet environment place config => exact hnumbered.createSet environment place config
  | processSet environment => exact hnumbered.processSet environment
  | unregisterSet id => exact hnumbered.unregisterSet id
  | addForeign place kind name help labels =>
    exact hnumbered.addForeign place kind name help labels
  | reregister place id => exact hnumbered.reregister place id
  | drop place source => exact hnumbered.drop place source
  | startEndpoint serve id port => exact (h.records_startEndpoint serve id port).numbered hnumbered
  | newRecorder route id name => exact (h.records_newRecorder route id name).numbered hnumbered
  | ensureCommand id name => exact (h.records_ensureCommand id name).numbered hnumbered
  | newMemory name => exact (h.records_addSink _ name).numbered hnumbered
  | newSilent name => exact (h.records_addSink _ name).numbered hnumbered
  | call collector method arguments =>
    exact (h.records_call collector method arguments).numbered hnumbered
  | register id candidate => exact (h.records_register id candidate).numbered hnumbered
  | clearRoster id => exact (h.records_clearRoster id).numbered hnumbered
  | initializeCollectors id name =>
    exact (h.records_initializeCollectors id name).numbered hnumbered

/-- **The series of every host that can be reached are numbered.** -/
theorem numbered_run (acts : List Act) : (initial.run acts).Numbered :=
  run_induction (fun _ act hnumbered => hnumbered.perform act) numbered_initial acts

end Host

end CommandMetrics
