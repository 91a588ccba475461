import CommandMetrics.Proofs.Act
/-!
# The cache — who looks at the set of the process

A host holds the metric set of the process, once there is one, beside all
else. Only asking for it looks at what is held: any other operation does
the same whatever that is, and leaves it as it is (`perform_withCurrent`,
`current_perform`).
-/

namespace CommandMetrics

namespace Host

/-- A host that holds another set, or none, as that of the process. -/
def withCurrent (h : Host) (current : Option SetId) : Host := { h with current }

/-- The same of what an operation leaves behind. -/
def Outcome.withCurrent {α : Type} (o : Outcome α) (current : Option SetId) : Outcome α :=
  (o.1.withCurrent current, o.2)

variable {current : Option SetId} {place : RegistryId} {id : SetId}

section WithCurrent

variable (h : Host)

@[simp] theorem registry_withCurrent :
    (h.withCurrent current).registry place = h.registry place := rfl

@[simp] theorem set?_withCurrent : (h.withCurrent current).set? id = h.set? id := rfl

@[simp] theorem sets_withCurrent : (h.withCurrent current).sets = h.sets := rfl

@[simp] theorem foreign_withCurrent : (h.withCurrent current).foreign = h.foreign := rfl

@[simp] theorem sink?_withCurrent (id : SinkId) :
    (h.withCurrent current).sink? id = h.sink? id := rfl

theorem addSet_withCurrent (place : RegistryId) (config : Config) :
    (h.withCurrent current).addSet place config =
      (h.addSet place config).withCurrent current := by
  unfold addSet
  simp only [registry_withCurrent, sets_withCurrent]
  cases Bounds.buckets config.boundsInForce with
  | error error => rfl
  | ok buckets => cases ((h.registry place).enrolAll ⟨h.sets.length⟩).2 <;> rfl

/-- Adding a set does not have it held. -/
theorem current_addSet (place : RegistryId) (config : Config) :
    (h.addSet place config).1.current = h.current := by
  have hsame : (h.withCurrent h.current).addSet place config =
      (h.addSet place config).withCurrent h.current := h.addSet_withCurrent place config
  have hcurrent := congrArg (fun o : Outcome SetId => o.1.current) hsame
  exact hcurrent

theorem construct_withCurrent (place : RegistryId) (bounds : Option Value)
    (given : Option Config) : (h.withCurrent current).construct place bounds given =
      (h.construct place bounds given).withCurrent current := by
  unfold construct
  cases Config.resolve bounds given with
  | error failure => rfl
  | ok config => exact h.addSet_withCurrent place config

theorem createSet_withCurrent (environment : Environment) (place : RegistryId)
    (given : Option Config) : (h.withCurrent current).createSet environment place given =
      (h.createSet environment place given).withCurrent current := by
  unfold createSet
  cases given with
  | some config => exact h.construct_withCurrent place none _
  | none =>
    cases environment.config with
    | error failure => rfl
    | ok config => exact (h.write (.environmentLoaded config)).construct_withCurrent place none _

theorem unregisterSet_withCurrent (id : SetId) : (h.withCurrent current).unregisterSet id =
    (h.unregisterSet id).withCurrent current := by
  unfold unregisterSet
  simp only [set?_withCurrent, registry_withCurrent]
  cases h.set? id with
  | none => rfl
  | some m =>
    by_cases hm : m.registered = true
    · simp only [hm]
      cases ((h.registry m.registry).expelAll id).2 <;> rfl
    · simp only [hm]
      rfl

theorem addForeign_withCurrent (place : RegistryId) (kind : FamilyKind) (name help : String)
    (labels : List String) : (h.withCurrent current).addForeign place kind name help labels =
      (h.addForeign place kind name help labels).withCurrent current := by
  unfold addForeign
  simp only [registry_withCurrent, foreign_withCurrent]
  cases Foreign.make kind name help labels with
  | error fault => rfl
  | ok metric =>
    dsimp only
    cases (h.registry place).register (.foreign ⟨h.foreign.length⟩)
      (metric.kind.claims metric.name) <;> rfl

theorem reregister_withCurrent (place : RegistryId) (id : ForeignId) :
    (h.withCurrent current).reregister place id = (h.reregister place id).withCurrent current := by
  unfold reregister
  simp only [registry_withCurrent, foreign_withCurrent]
  cases h.foreign[id.index]? with
  | none => rfl
  | some metric =>
    dsimp only
    cases (h.registry place).register (.foreign id) (metric.kind.claims metric.name) <;> rfl

theorem drop_withCurrent (place : RegistryId) (source : Source) :
    (h.withCurrent current).drop place source = (h.drop place source).withCurrent current := by
  unfold drop
  simp only [registry_withCurrent]
  cases (h.registry place).unregister source with
  | some after => rfl
  | none => cases source <;> rfl

theorem ensureCommand_withCurrent (id : SetId) (name : Value) :
    (h.withCurrent current).ensureCommand id name =
      (h.ensureCommand id name).withCurrent current := by
  unfold ensureCommand
  simp only [set?_withCurrent]
  cases h.set? id <;> rfl

theorem newRecorder_withCurrent (route : RecorderRoute) (id : SetId) (name : Value) :
    (h.withCurrent current).newRecorder route id name =
      (h.newRecorder route id name).withCurrent current := by
  unfold newRecorder
  cases route.check name with
  | error failure => rfl
  | ok command =>
    dsimp only
    rw [ensureCommand_withCurrent]
    obtain ⟨after, result⟩ := h.ensureCommand id (.text command)
    cases result <;> rfl

theorem addSink_withCurrent (make : Text → Sink) (name : Value) :
    (h.withCurrent current).addSink make name = (h.addSink make name).withCurrent current := by
  unfold addSink
  cases CommandName.check (.text CommandName.newRecorder) name <;> rfl

theorem call_withCurrent (collector : Collector) (method : String) (arguments : List Value) :
    (h.withCurrent current).call collector method arguments =
      (h.call collector method arguments).withCurrent current := by
  unfold call
  have hkind : (h.withCurrent current).collectorKind? collector = h.collectorKind? collector := rfl
  rw [hkind]
  cases h.collectorKind? collector with
  | none => rfl
  | some kind =>
    dsimp only
    cases kind.signal? method arguments with
    | error fault => rfl
    | ok found =>
      cases found with
      | none => rfl
      | some signal =>
        unfold report
        cases collector with
        | recorder r =>
          simp only [set?_withCurrent]
          cases h.set? r.set <;> rfl
        | sink id =>
          simp only [sink?_withCurrent]
          cases h.sink? id <;> rfl

theorem startEndpoint_withCurrent (serve : Value → RegistryId → EndpointResult) (id : SetId)
    (port : Value) : (h.withCurrent current).startEndpoint serve id port =
      (h.startEndpoint serve id port).withCurrent current := by
  unfold startEndpoint tellEndpoint
  simp only [set?_withCurrent]
  cases h.set? id with
  | none => rfl
  | some m =>
    dsimp only
    cases serve port m.registry with
    | impossible reason => rfl
    | started => cases portNumber port <;> rfl
    | refused reason => cases portNumber port <;> rfl

theorem register_withCurrent (id : RosterId) (candidate : Option Factory) :
    (h.withCurrent current).register id candidate =
      (h.register id candidate).withCurrent current := by
  cases candidate <;> rfl

end WithCurrent

theorem follow_withCurrent (roster : RosterId) (name : Value) :
    ∀ (script : Script) (h : Host), follow roster name script (h.withCurrent current) =
      (follow roster name script h).withCurrent current
  | .make, h => by
    unfold follow newSilent
    rw [addSink_withCurrent]
    obtain ⟨after, result⟩ := h.addSink .silent name
    cases result <;> rfl
  | .giveUp, h => rfl
  | .enlist factory rest, h => follow_withCurrent roster name rest (h.enlist roster factory)
  | .clear rest, h => follow_withCurrent roster name rest (h.clearRoster roster)

theorem make_withCurrent (h : Host) (roster : RosterId) (name : Value) (factory : Factory) :
    (h.withCurrent current).make roster name factory =
      (h.make roster name factory).withCurrent current := by
  cases factory with
  | recorders set =>
    unfold make
    dsimp only
    rw [newRecorder_withCurrent]
    obtain ⟨after, result⟩ := h.newRecorder .collector set name
    cases result <;> rfl
  | memory =>
    unfold make newMemory
    dsimp only
    rw [addSink_withCurrent]
    obtain ⟨after, result⟩ := h.addSink (fun command => .memory command .empty) name
    cases result <;> rfl
  | silent =>
    unfold make newSilent
    dsimp only
    rw [addSink_withCurrent]
    obtain ⟨after, result⟩ := h.addSink .silent name
    cases result <;> rfl
  | scripted label script => exact follow_withCurrent roster name script h

theorem makeEach_withCurrent (roster : RosterId) (name : Value) (factories : List Factory)
    (h : Host) : makeEach roster name factories (h.withCurrent current) =
      (makeEach roster name factories h).withCurrent current := by
  induction factories generalizing h with
  | nil => rfl
  | cons factory rest ih =>
    unfold makeEach
    rw [make_withCurrent]
    obtain ⟨made, result⟩ := h.make roster name factory
    cases result with
    | error failure => rfl
    | ok collector =>
      simp only [Outcome.withCurrent, ih]
      obtain ⟨after, result⟩ := makeEach roster name rest made
      cases result <;> rfl

/-- **Only asking for the set of the process looks at the one that is held.** -/
theorem perform_withCurrent (h : Host) {act : Act}
    (hact : ∀ environment, act ≠ .processSet environment) :
    (h.withCurrent current).perform act = (h.perform act).withCurrent current := by
  cases act with
  | processSet environment => exact absurd rfl (hact environment)
  | addRegistry | addRoster | clearRoster roster => rfl
  | construct place bounds given =>
    exact congrArg Prod.fst (h.construct_withCurrent place bounds given)
  | createSet environment place given =>
    exact congrArg Prod.fst (h.createSet_withCurrent environment place given)
  | unregisterSet id => exact congrArg Prod.fst (h.unregisterSet_withCurrent id)
  | addForeign place kind name help labels =>
    exact congrArg Prod.fst (h.addForeign_withCurrent place kind name help labels)
  | reregister place id => exact congrArg Prod.fst (h.reregister_withCurrent place id)
  | drop place source => exact congrArg Prod.fst (h.drop_withCurrent place source)
  | startEndpoint serve id port =>
    exact congrArg Prod.fst (h.startEndpoint_withCurrent serve id port)
  | newRecorder route id name => exact congrArg Prod.fst (h.newRecorder_withCurrent route id name)
  | ensureCommand id name => exact congrArg Prod.fst (h.ensureCommand_withCurrent id name)
  | newMemory name => exact congrArg Prod.fst (h.addSink_withCurrent _ name)
  | newSilent name => exact congrArg Prod.fst (h.addSink_withCurrent _ name)
  | call collector method arguments =>
    exact congrArg Prod.fst (h.call_withCurrent collector method arguments)
  | register roster candidate => exact congrArg Prod.fst (h.register_withCurrent roster candidate)
  | initializeCollectors roster name =>
    exact congrArg Prod.fst (makeEach_withCurrent roster name _ h)

/-- **No other act changes which set is held.** -/
theorem current_perform (h : Host) {act : Act}
    (hact : ∀ environment, act ≠ .processSet environment) :
    (h.perform act).current = h.current := by
  have hsame : (h.withCurrent h.current).perform act = (h.perform act).withCurrent h.current :=
    perform_withCurrent h hact
  have hcurrent := congrArg Host.current hsame
  exact hcurrent

end Host

end CommandMetrics
