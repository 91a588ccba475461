import CommandMetrics.Coercion
import CommandMetrics.Fault
/-!
# Definitions — what a series is

A definition names a series, gives its help text and its labels, and says
whether it counts, follows a value or sorts observations into buckets.
Exported families have one kind more, the summary, which other programs
may put into a registry.
-/

namespace CommandMetrics

/-- The shape of a series. -/
inductive MetricKind where
  /-- Only goes up. -/
  | counter
  /-- Holds the value that was set last. -/
  | gauge
  /-- Sorts observations into buckets, and sums them. -/
  | histogram
  deriving DecidableEq, Repr

namespace MetricKind

/-- The name of a shape. -/
def name : MetricKind → String
  | counter => "counter"
  | gauge => "gauge"
  | histogram => "histogram"

/-- The shape of a name. -/
def ofName? (s : String) : Option MetricKind :=
  [counter, gauge, histogram].find? (·.name == s)

/-- Only the name of a shape stands for it. -/
theorem ofName?_eq_some_iff {s : String} {k : MetricKind} : ofName? s = some k ↔ k.name = s := by
  constructor
  · intro h
    simpa using List.find?_some h
  · rintro rfl
    cases k <;> rfl

/-- **The shape that a value names.** -/
def ofValue (value : Value) : Except Fault MetricKind :=
  let found :=
    match value with
    | .text (.plain s) => ofName? s
    | _ => none
  match found with
  | some kind => .ok kind
  | none => .error (.notAMember value.shown "EnumMetricKind")

/-- A field that holds a shape; its name may also be given in bytes. -/
def coerce (value : Value) : Checked MetricKind :=
  match (Coercion.name? value).bind ofName? with
  | some kind => .ok kind
  | none => .problem .metricKind

end MetricKind

/-- What a series is. -/
structure Definition where
  /-- The name the series is looked up by in a metric set. -/
  key : String
  name : String
  description : String
  kind : MetricKind
  labels : List Text
  deriving DecidableEq, Repr

namespace Definition

/-- The label of a command, which every series carries. -/
def commandLabel : String := "command"

/-- The name of a series in a namespace. -/
def fullName (d : Definition) (space : String) : String :=
  if space = "" then d.name else space ++ "_" ++ d.name

/-- The name a definition is reported under. -/
def model : String := "ModelMetricDefinition"

/-- **Builds a definition from its fields.** -/
def ofFields (fields : Fields) : Except Rejection Definition :=
  let checked :=
    (fields.required "attribute" Coercion.nonEmptyText).map fun key name description kind labels
        (_ : Unit) => ({ key, name, description, kind, labels } : Definition)
  checked
    |>.ap (fields.required "name" Coercion.nonEmptyText)
    |>.ap (fields.required "description" Coercion.nonEmptyText)
    |>.ap (fields.required "kind" MetricKind.coerce)
    |>.ap (fields.optional "labels" [commandLabel] (Coercion.sequence Coercion.text))
    |>.ap (fields.closed ["attribute", "name", "description", "kind", "labels"])
    |>.forModel model

/-- The fields of a definition. -/
def toFields (d : Definition) : Fields :=
  [("attribute", .text d.key), ("name", .text d.name), ("description", .text d.description),
    ("kind", .text d.kind.name), ("labels", .tuple (d.labels.map .text))]

end Definition

end CommandMetrics
