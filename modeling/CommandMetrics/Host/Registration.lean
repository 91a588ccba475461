import CommandMetrics.Host
/-!
# Registration — metric sets enter registries and leave them

A metric set is built from bounds or from a configuration, not both; a
configuration may also come from the environment. Its series enter the
registry together or not at all. There is one metric set of the process,
made when it is first asked for.
-/

namespace CommandMetrics

/-- The value that is given for an argument, if any: one that says nothing
counts as left out. -/
def Value.given? : Option Value → Option Value
  | some .absent => none
  | argument => argument

/-- **The configuration of a metric set** from the arguments it is built
with. -/
def Config.resolve (bounds : Option Value) (config : Option Config) : Except Failure Config :=
  match Value.given? bounds, config with
  | some _, some _ => .error .bothGiven
  | none, some config => .ok config
  | none, none => .ok .empty
  | some bounds, none =>
    match bounds.items with
    | .error fault => .error (.badBounds fault)
    | .ok items =>
      match Config.ofFields [("duration_buckets", .tuple items)] with
      | .ok config => .ok config
      | .error rejection => .error (.badBounds (.rejected rejection))

namespace Host

/-- Adds a metric set and registers its series. Where one of them clashes,
the set stays behind unregistered and the clash is logged. -/
def addSet (h : Host) (registry : RegistryId) (config : Config) : Outcome SetId :=
  let bounds := config.boundsInForce
  match Bounds.buckets bounds with
  | .error error => (h, .error (.fault (.layout error)))
  | .ok buckets =>
    let id : SetId := ⟨h.sets.length⟩
    let fresh := MetricSet.fresh registry bounds buckets
    let (after, clash) := (h.registry registry).enrolAll id
    let h := h.setRegistry registry after
    match clash with
    | none =>
      let h := { h with sets := h.sets ++ [{ fresh with registered := true }] }
      (h.write (.setRegistered Series.all.length bounds.length), .ok id)
    | some clash =>
      let h := { h with sets := h.sets ++ [fresh] }
      let name := clash.series.fullName
      (h.write (.registrationFailed name (Fault.duplicateNames clash.names).message),
        .error (.conflict name clash.names))

/-- **Builds a metric set** from bounds or a configuration. -/
def construct (h : Host) (registry : RegistryId) (bounds : Option Value)
    (config : Option Config) : Outcome SetId :=
  match Config.resolve bounds config with
  | .error failure => (h, .error failure)
  | .ok config => h.addSet registry config

/-- **Loads the configuration of an environment.** One that is loaded is
logged. -/
def loadConfig (h : Host) (environment : Environment) : Outcome Config :=
  match environment.config with
  | .ok config => (h.write (.environmentLoaded config), .ok config)
  | .error failure => (h, .error failure)

/-- **Builds a metric set from a configuration**, by default that of the
environment. -/
def createSet (h : Host) (environment : Environment) (registry : RegistryId)
    (config : Option Config) : Outcome SetId :=
  match config with
  | some config => h.construct registry none (some config)
  | none =>
    match environment.config with
    | .error failure => (h, .error failure)
    | .ok config => (h.write (.environmentLoaded config)).construct registry none (some config)

/-- **The metric set of the process**, made when it is first asked for.
An attempt that fails is made again the next time. -/
def processSet (h : Host) (environment : Environment) : Outcome SetId :=
  match h.current with
  | some id => (h, .ok id)
  | none =>
    match h.createSet environment .default none with
    | (h, .ok id) => ({ h with current := some id }, .ok id)
    | (h, .error failure) => (h, .error failure)

/-- **Takes a metric set out of its registry**; a set that is not registered
stays as it is. -/
def unregisterSet (h : Host) (id : SetId) : Outcome Unit :=
  match h.set? id with
  | none => (h, .error (.fault .noSuchPart))
  | some m =>
    if !m.registered then (h, .ok ())
    else
      let (after, missing) := (h.registry m.registry).expelAll id
      let h := h.setRegistry m.registry after
      match missing with
      | some s => (h, .error (.fault (.notRegistered (s.kind.family.shown s.fullName))))
      | none => ((h.putSet id { m with registered := false }).write .setUnregistered, .ok ())

/-! ## Metrics of other programs -/

/-- **Registers a metric of another program.** -/
def addForeign (h : Host) (registry : RegistryId) (kind : FamilyKind) (name help : String)
    (labels : List String) : Outcome ForeignId :=
  match Foreign.make kind name help labels with
  | .error fault => (h, .error (.fault fault))
  | .ok metric =>
    let id : ForeignId := ⟨h.foreign.length⟩
    match (h.registry registry).register (.foreign id) (metric.kind.claims metric.name) with
    | .ok after =>
      ({ h.setRegistry registry after with foreign := h.foreign ++ [metric] }, .ok id)
    | .error names => (h, .error (.fault (.duplicateNames names)))

/-- How a source is shown in messages. -/
def shownSource (h : Host) : Source → String
  | .series _ s => s.kind.family.shown s.fullName
  | .foreign id =>
    match h.foreign[id.index]? with
    | some metric => metric.kind.shown metric.name
    | none => ""

/-- **Takes a single source out of a registry.** -/
def drop (h : Host) (registry : RegistryId) (source : Source) : Outcome Unit :=
  match (h.registry registry).unregister source with
  | some after => (h.setRegistry registry after, .ok ())
  | none => (h, .error (.fault (.notRegistered (h.shownSource source))))

/-! ## The endpoint -/

/-- What came of starting the endpoint. -/
inductive EndpointResult where
  | started
  /-- The system refused it, as when the port is in use. -/
  | refused (reason : String)
  /-- It was asked for what cannot be, as with a port beyond the last one. -/
  | impossible (reason : String)
  deriving DecidableEq, Repr

/-- The number that a port is logged as, without any fraction. What is no
number cannot be logged as one. -/
def portNumber : Value → Except Fault Int
  | .integer n => .ok n
  | .flag b => .ok (if b then 1 else 0)
  | .number (.finite negative units _) => .ok (Number.signed negative (units / unitsPerOne))
  | .number .nan => .error .nanPort
  | .number (.infinity _) => .error .infinitePort
  | .uuid id => .ok id.value.toNat
  | other => .error (.notAPort other.longKind)

/-- Logs what came of starting the endpoint and tells it. -/
def tellEndpoint (h : Host) (port : Value) (record : Int → LogRecord) (started : Bool) :
    Outcome Bool :=
  match portNumber port with
  | .ok number => (h.write (record number), .ok started)
  | .error fault => (h, .error (.fault fault))

/-- **Starts the endpoint of a metric set's registry.** `serve` does so for
a port and a registry; a refusal is logged and told, anything else is a
failure. -/
def startEndpoint (h : Host) (serve : Value → RegistryId → EndpointResult) (id : SetId)
    (port : Value) : Outcome Bool :=
  match h.set? id with
  | none => (h, .error (.fault .noSuchPart))
  | some m =>
    match serve port m.registry with
    | .started => h.tellEndpoint port .endpointStarted true
    | .refused reason => h.tellEndpoint port (.endpointFailed · reason) false
    | .impossible reason => (h, .error (.fault (.endpoint reason)))

/-- The port of an endpoint for which none is given. -/
def defaultPort : Value := .integer 8000

end Host

end CommandMetrics
