import CommandMetrics.Coercion
import CommandMetrics.Fault
/-!
# Failures — the errors that callers see

A failure is either a bare fault or an *adapter error*: one with a code to
classify it by, words of its own, the context it arose in and, where a
fault led to it, that fault as its cause.
-/

namespace CommandMetrics

/-- What an adapter error is classified by. -/
inductive ErrorCode where
  | registrationConflict
  | invalidCommandName
  | invalidConfiguration
  /-- Used when nothing more specific fits. -/
  | operationFailed
  deriving DecidableEq, Repr

namespace ErrorCode

/-- The name of a code. -/
def name : ErrorCode → String
  | registrationConflict => "registration_conflict"
  | invalidCommandName => "invalid_command_name"
  | invalidConfiguration => "invalid_configuration"
  | operationFailed => "operation_failed"

/-- The code of a name. -/
def ofName? (s : String) : Option ErrorCode :=
  [registrationConflict, invalidCommandName, invalidConfiguration, operationFailed].find?
    (·.name == s)

/-- Only the name of a code stands for it. -/
theorem ofName?_eq_some_iff {s : String} {c : ErrorCode} : ofName? s = some c ↔ c.name = s := by
  constructor
  · intro h
    simpa using List.find?_some h
  · rintro rfl
    cases c <;> rfl

/-- **The code that a value names.** -/
def ofValue (value : Value) : Except Fault ErrorCode :=
  let found :=
    match value with
    | .text (.plain s) => ofName? s
    | _ => none
  match found with
  | some code => .ok code
  | none => .error (.notAMember value.shown "EnumMetricsErrorCode")

end ErrorCode

/-! ## Context -/

/-- What an adapter error tells about where it arose. -/
structure Context where
  /-- The operation that was under way. -/
  operation : Option Text
  /-- The full name of the series involved. -/
  metricName : Option Text
  /-- The command involved. -/
  commandName : Option Text
  /-- What correlates the records of one request. -/
  correlation : Option Uuid
  deriving DecidableEq

namespace Context

/-- Nothing is known. -/
def empty : Context := ⟨none, none, none, none⟩

/-- The name a context is reported under. -/
def model : String := "ModelMetricsErrorContext"

/-- **Builds a context from its fields**, all of which may be missing. -/
def ofFields (fields : Fields) : Except Rejection Context :=
  let checked :=
    (fields.optional "operation" none (Coercion.optional Coercion.text)).map
      fun operation metricName commandName correlation (_ : Unit) =>
        ({ operation, metricName, commandName, correlation } : Context)
  checked
    |>.ap (fields.optional "metric_name" none (Coercion.optional Coercion.text))
    |>.ap (fields.optional "command_name" none (Coercion.optional Coercion.text))
    |>.ap (fields.optional "correlation_id" none (Coercion.optional Coercion.uuid))
    |>.ap (fields.closed ["operation", "metric_name", "command_name", "correlation_id"])
    |>.forModel model

/-- The name that no field of a correlated context may have. -/
def ownPart : String := "cls"

/-- **A context that is always correlated**: where no identifier is given,
`fresh` is taken. -/
def correlated (fresh : Uuid) (fields : Fields) : Except Fault Context :=
  if (fields.lookup ownPart).isSome then
    .error (.givenTwice (model ++ ".with_correlation") "argument" ownPart)
  else
    let given := (fields.lookup "correlation_id").getD .absent
    let others := fields.filter (·.1 != "correlation_id")
    (ofFields (("correlation_id", if given.isGiven then given else .uuid fresh) :: others)).mapError
      .rejected

/-- The fields of a context. -/
def toFields (c : Context) : Fields :=
  let part (t : Option Text) : Value := (t.map Value.text).getD .absent
  [("operation", part c.operation), ("metric_name", part c.metricName),
    ("command_name", part c.commandName),
    ("correlation_id", (c.correlation.map Value.uuid).getD .absent)]

/-- The parts of a context that are known, save for the correlation. -/
def known (c : Context) : List (String × Value) :=
  [("operation", c.operation), ("metric_name", c.metricName), ("command_name", c.commandName)]
    |>.filterMap fun (name, part) => part.map fun t => (name, Value.text t)

end Context

/-! ## Adapter errors -/

/-- The kinds of adapter errors. All but the general one have a code of
their own. -/
inductive ErrorKind where
  | general (code : ErrorCode)
  | registrationConflict
  | invalidCommandName
  | configuration
  deriving DecidableEq, Repr

/-- The code of a kind of adapter errors. -/
def ErrorKind.code : ErrorKind → ErrorCode
  | general code => code
  | registrationConflict => .registrationConflict
  | invalidCommandName => .invalidCommandName
  | configuration => .invalidConfiguration

/-- The name of a kind of adapter errors. -/
def ErrorKind.title : ErrorKind → String
  | general _ => "MetricsAdapterError"
  | registrationConflict => "RegistrationConflictError"
  | invalidCommandName => "InvalidCommandNameError"
  | configuration => "MetricsConfigurationError"

/-- Whether a kind is told its code. All but the general one have their
own, which they hand on to the general one. -/
def ErrorKind.takesCode : ErrorKind → Bool
  | general _ => true
  | registrationConflict | invalidCommandName | configuration => false

/-- An error of the metrics themselves. -/
structure AdapterError where
  kind : ErrorKind
  message : String
  context : Context
  /-- What else its maker had to say. -/
  details : Fields
  cause : Option Fault

namespace AdapterError

/-- The name of a detail that stands for the code. -/
def codePart : String := "error_code"

/-- The name of a detail that stands for the context. -/
def contextPart : String := "context"

/-- The detail that gives a part of an error a second time, if there is one. -/
def repeated? (kind : ErrorKind) (details : Fields) : Option Fault :=
  match details.find? fun detail => detail.1 == "self" || detail.1 == "message" with
  | some (name, _) => some (.givenTwice (kind.title ++ ".__init__") "argument" name)
  | none =>
    if kind.takesCode || (details.lookup codePart).isNone then none
    else
      let general := "hystrix_prometheus.errors.metrics_errors.MetricsAdapterError.__init__"
      some (.givenTwice general "keyword argument" codePart)

/-- **An adapter error as its maker describes it.** Details may be named as
the parts of an error are. The message is never given twice, nor is the
code of a kind that has its own. As code or context an empty value is none
at all, and no other value is one. -/
def make (kind : ErrorKind) (message : String) (context : Option Context) (details : Fields)
    (cause : Option Fault) : Except Fault AdapterError :=
  let isPart (name : String) := name == codePart || name == contextPart
  let isWrong (detail : String × Value) :=
    (detail.1 == codePart || (detail.1 == contextPart && context.isNone)) && detail.2.isGiven
  match repeated? kind details with
  | some fault => .error fault
  | none =>
    if details.any isWrong then .error .noSuchPart
    else
      .ok ⟨kind, message, context.getD .empty, details.filter fun detail => !isPart detail.1,
        cause⟩

/-- The whole text of an error: its code, then its words. -/
def text (e : AdapterError) : String := "[" ++ e.kind.code.name ++ "] " ++ e.message

/-- Replaces the value of a name, or adds the name at the end. -/
def put (fields : Fields) (name : String) (value : Value) : Fields :=
  if fields.any (·.1 == name) then
    fields.map fun entry => if entry.1 == name then (name, value) else entry
  else fields ++ [(name, value)]

/-- **All that an error tells**: the known parts of its context, overruled
by what its maker said of the same name. -/
def extra (e : AdapterError) : Fields :=
  e.details.foldl (fun fields (name, value) => put fields name value) e.context.known

end AdapterError

/-- An error that a caller sees. -/
inductive Failure where
  | fault (f : Fault)
  | adapter (e : AdapterError)

namespace Failure

/-- A name that is no text. -/
def nameKind (context : Context) (kind : String) : Failure :=
  .adapter ⟨.invalidCommandName, "Command name must be a string, got " ++ kind, context, [], none⟩

/-- A name without a character. -/
def nameEmpty (context : Context) : Failure :=
  .adapter ⟨.invalidCommandName, "Command name must not be empty", context, [], none⟩

/-- The context of building a metric set from its arguments. -/
def configuring : Context := { Context.empty with operation := some (.plain "configure") }

/-- Bounds were given on their own and in a configuration. -/
def bothGiven : Failure :=
  .adapter ⟨.configuration, "Pass either duration_buckets or config, not both", configuring, [],
    none⟩

/-- Bounds that are none. -/
def badBounds (cause : Fault) : Failure :=
  .adapter ⟨.configuration, "Invalid duration buckets: " ++ cause.message, configuring, [],
    some cause⟩

/-- The context of reading the environment. -/
def fromEnvironment : Context := { Context.empty with operation := some (.plain "from_env") }

/-- A variable of the environment that cannot be read as what it stands
for. -/
def badVariable (name expected : String) (cause : Fault) : Failure :=
  .adapter ⟨.configuration, name ++ " must be " ++ expected, fromEnvironment,
    [("variable", .text name)], some cause⟩

/-- An environment whose variables can be read and are not acceptable. -/
def badEnvironment (rejection : Rejection) : Failure :=
  .adapter ⟨.configuration,
    s!"Invalid metrics configuration from environment: {rejection.issues.length} error(s)",
    fromEnvironment, [], some (.rejected rejection)⟩

/-- A series whose names are taken. -/
def conflict (fullName : String) (duplicates : List String) : Failure :=
  .adapter ⟨.registrationConflict,
    "Series " ++ fullName ++ " is already registered in the target registry",
    { Context.empty with
      operation := some (.plain "register"), metricName := some (.plain fullName) }, [],
    some (.duplicateNames duplicates)⟩

end Failure

end CommandMetrics
