import CommandMetrics.Coercion
import CommandMetrics.Fault
/-!
# Configuration — bounds of the histogram and the port of the endpoint

Both parts may be left out: without bounds the standard ones are taken,
without a port no endpoint is started.
-/

namespace CommandMetrics

/-- The configuration of a metric set. -/
structure Config where
  /-- The bounds of the duration histogram. -/
  bounds : Option (List Number)
  /-- The port of the endpoint. -/
  port : Option Int
  deriving DecidableEq

namespace Config

/-- Nothing is configured. -/
def empty : Config := ⟨none, none⟩

/-- The name a configuration is reported under. -/
def model : String := "ModelMetricSetConfig"

/-- Accepts bounds of which every one is a number. -/
def checkBounds (bounds : List Number) : Checked (List Number) :=
  match Bounds.validate bounds with
  | .ok accepted => .ok accepted
  | .error error => .problem (.bounds error)

/-- A field that holds bounds: its items first, then the list of them. -/
def boundsField (value : Value) : Checked (List Number) :=
  (Coercion.sequence Coercion.number value).andThen checkBounds

/-- A field that holds a port. -/
def portField (value : Value) : Checked Int := Coercion.integerBetween 1 65535 value

/-- **Builds a configuration from its fields.** -/
def ofFields (fields : Fields) : Except Rejection Config :=
  let checked :=
    (fields.optional "duration_buckets" none (Coercion.optional boundsField)).map
      fun bounds port (_ : Unit) => ({ bounds, port } : Config)
  checked
    |>.ap (fields.optional "metrics_port" none (Coercion.optional portField))
    |>.ap (fields.closed ["duration_buckets", "metrics_port"])
    |>.forModel model

/-- The fields of a configuration. -/
def toFields (config : Config) : Fields :=
  [("duration_buckets", (config.bounds.map fun b => Value.tuple (b.map .number)).getD .absent),
    ("metrics_port", (config.port.map Value.integer).getD .absent)]

/-- The bounds in force: those given, unless there are none. -/
def boundsInForce (config : Config) : List Number :=
  match config.bounds with
  | some (first :: rest) => first :: rest
  | _ => Bounds.standard

end Config

/-! ## Bounds on their own -/

/-- A value as a number, as strictly as where bounds stand on their own. -/
def Value.toNumber : Value → Except Fault Number
  | .number x => .ok x
  | .flag b => .ok (if b then 1 else 0)
  | .integer n =>
    let x := Number.ofInt n
    if x.isInfinite then .error .tooLarge else .ok x
  | .text t =>
    match Numeral.number? (t.points.map Point.letter) with
    | some x => .ok x
    | none => .error (.numeral (Value.text t).shown)
  | .bytes content =>
    match Numeral.number? (Numeral.ofBytes content) with
    | some x => .ok x
    | none => .error (.numeral (Value.bytes content).shown)
  | v => .error (.notNumeric v.longKind)

/-- The items of a value, or the fault of one that has none. -/
def Value.items (value : Value) : Except Fault (List Value) :=
  match value.items? with
  | some items => .ok items
  | none => .error (.notIterable value.longKind)

/-- **Accepts bounds that are not part of a configuration**: whatever can
be run through item by item, every item of which is a number. -/
def Bounds.ofValue (value : Value) : Except Fault (List Number) := do
  let items ← value.items
  let bounds ← items.mapM Value.toNumber
  match Bounds.validate bounds with
  | .ok accepted => .ok accepted
  | .error error => .error (.bounds error)

end CommandMetrics
