import CommandMetrics.Definition
import CommandMetrics.Histogram
/-!
# Families — what a registry exports

A family has a name, a help text and samples. From one cell of a family
come one sample or several, told apart by a suffix of the name: a counter
exports its total and when it was made, a histogram its buckets, their
total count, the sum and when it was made. A family claims all names that
its samples can have, and its own.
-/

namespace CommandMetrics

/-- The shape of a family. -/
inductive FamilyKind where
  | counter
  | gauge
  | summary
  | histogram
  deriving DecidableEq, Repr

namespace FamilyKind

/-- The name of a shape. -/
def name : FamilyKind → String
  | counter => "counter"
  | gauge => "gauge"
  | summary => "summary"
  | histogram => "histogram"

/-- The same name with a capital. -/
def title : FamilyKind → String
  | counter => "Counter"
  | gauge => "Gauge"
  | summary => "Summary"
  | histogram => "Histogram"

/-- The suffixes of the names that a family claims besides its own. -/
def suffixes : FamilyKind → List String
  | counter => ["_total", "_created"]
  | gauge => []
  | summary => ["_sum", "_count", "_created"]
  | histogram => ["_bucket", "_sum", "_count", "_created"]

/-- The labels that a family sets by itself. -/
def ownLabels : FamilyKind → List String
  | counter | gauge => []
  | summary => ["quantile"]
  | histogram => ["le"]

/-- **The names that a family claims.** -/
def claims (kind : FamilyKind) (name : String) : List String :=
  name :: kind.suffixes.map (name ++ ·)

end FamilyKind

/-- The shape of a series as the shape of a family. -/
def MetricKind.family : MetricKind → FamilyKind
  | counter => .counter
  | gauge => .gauge
  | histogram => .histogram

/-- What a sample reads: a number, or the moment when its cell was made.
Moments come from the clock of the process and are no part of what is
recorded. -/
inductive Reading where
  | number (x : Number)
  | creation
  deriving DecidableEq

/-- One line of an export. -/
structure Sample where
  name : String
  labels : List (String × Text)
  reading : Reading
  deriving DecidableEq

namespace Sample

/-- The samples of a counter's cell. -/
def ofCounter (name : String) (labels : List (String × Text)) (x : Number) : List Sample :=
  [⟨name ++ "_total", labels, .number x⟩, ⟨name ++ "_created", labels, .creation⟩]

/-- The sample of a gauge's cell. -/
def ofGauge (name : String) (labels : List (String × Text)) (x : Number) : List Sample :=
  [⟨name, labels, .number x⟩]

/-- The samples of a summary's cell. -/
def ofSummary (name : String) (labels : List (String × Text)) (count sum : Number) :
    List Sample :=
  [⟨name ++ "_count", labels, .number count⟩, ⟨name ++ "_sum", labels, .number sum⟩,
    ⟨name ++ "_created", labels, .creation⟩]

/-- The label of a bucket, which tells its upper bound. -/
def boundLabel : String := "le"

/-- The samples of a histogram's cell. -/
def ofHistogram (name : String) (labels : List (String × Text)) (buckets : List Number)
    (h : Histogram) : List Sample :=
  (buckets.zip h.cumulative).map (fun (bound, n) =>
      ⟨name ++ "_bucket", labels ++ [(boundLabel, .plain (Layout.metrics.write bound))], .number n⟩)
    ++ [⟨name ++ "_count", labels, .number h.count⟩, ⟨name ++ "_sum", labels, .number h.sum⟩,
      ⟨name ++ "_created", labels, .creation⟩]

end Sample

/-- What a registry exports of one metric. -/
structure Family where
  kind : FamilyKind
  name : String
  help : String
  samples : List Sample

/-- A metric that another program put into a registry. Nothing is recorded
in it here, so without labels it has one cell at zero, and with labels
none. -/
structure Foreign where
  kind : FamilyKind
  name : String
  help : String
  labels : List String
  deriving DecidableEq

namespace Foreign

/-- Whether a label is kept for internal use: one line that begins with two
underscores. -/
def isInternal (label : String) : Bool :=
  match label.toList with
  | '_' :: '_' :: rest => (rest.dropWhile (· != '\n')).length ≤ 1
  | _ => false

/-- The name of a family: that of a counter goes without the suffix of its
total. -/
def familyName (kind : FamilyKind) (name : String) : String :=
  let suffix := "_total".toList
  let text := name.toList
  let stem := text.take (text.length - suffix.length)
  if kind = .counter ∧ text = stem ++ suffix then String.ofList stem else name

/-- What is wrong with the name of a label, where it is not free. -/
def labelFault? (kind : FamilyKind) (label : String) : Option Fault :=
  if isInternal label then some (.internalLabel label)
  else if kind.ownLabels.contains label then some (.ownLabel label)
  else none

/-- **A metric of another program**, unless its name is empty or one of its
labels is not free. -/
def make (kind : FamilyKind) (name help : String) (labels : List String) :
    Except Fault Foreign :=
  if name = "" then .error .emptyMetricName
  else
    match labels.findSome? (labelFault? kind) with
    | some fault => .error fault
    | none =>
      if familyName kind name = "" then .error .emptyFamilyName
      else .ok ⟨kind, familyName kind name, help, labels⟩

/-- The samples of a metric in which nothing is recorded. -/
def samples (f : Foreign) : List Sample :=
  if f.labels ≠ [] then []
  else
    match f.kind with
    | .counter => Sample.ofCounter f.name [] 0
    | .gauge => Sample.ofGauge f.name [] 0
    | .summary => Sample.ofSummary f.name [] 0 0
    | .histogram => Sample.ofHistogram f.name [] Bounds.standard (.empty Bounds.standard)

/-- What a registry exports of a metric. -/
def family (f : Foreign) : Family := ⟨f.kind, f.name, f.help, f.samples⟩

end Foreign

/-- How a metric is shown in messages. -/
def FamilyKind.shown (kind : FamilyKind) (name : String) : String :=
  "prometheus_client.metrics." ++ kind.title ++ "(" ++ name ++ ")"

/-- A metric in short: its shape and its name. -/
def FamilyKind.short (kind : FamilyKind) (name : String) : String := kind.name ++ ":" ++ name

end CommandMetrics
