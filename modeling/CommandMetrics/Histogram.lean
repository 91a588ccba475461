import CommandMetrics.Bounds
/-!
# Histograms — observations sorted into buckets

A histogram holds the sum of what was observed and, for each bucket, how
many observations fell into it and into no bucket before. Exported counts
are cumulative. Observing changes the sum first and then one bucket, as
two steps; "not a number" falls into no bucket.
-/

namespace CommandMetrics

/-- The sum of the observations and their number in each bucket. -/
structure Histogram where
  sum : Number
  counts : List Number
  deriving DecidableEq

namespace Histogram

/-- Nothing was observed yet. -/
def empty (buckets : List Number) : Histogram := ⟨0, buckets.map fun _ => 0⟩

/-- Adds an observation to the sum. -/
def addToSum (x : Number) (h : Histogram) : Histogram := { h with sum := h.sum + x }

/-- Counts an observation in a bucket. -/
def countIn (bucket : Nat) (h : Histogram) : Histogram :=
  { h with counts := h.counts.modify bucket (· + 1) }

/-- The first bucket that an observation does not exceed. -/
def bucketOf? (buckets : List Number) (x : Number) : Option Nat :=
  buckets.findIdx? fun bound => decide (x ≤ bound)

/-- **Takes an observation in.** -/
def observe (buckets : List Number) (x : Number) (h : Histogram) : Histogram :=
  match bucketOf? buckets x with
  | some bucket => (h.addToSum x).countIn bucket
  | none => h.addToSum x

/-- Running sums of counts, on top of what came before. -/
def runningSums (before : Number) : List Number → List Number
  | [] => []
  | x :: rest => (before + x) :: runningSums (before + x) rest

/-- How many observations do not exceed each bound. -/
def cumulative (h : Histogram) : List Number := runningSums 0 h.counts

/-- How many observations fell into any bucket. -/
def count (h : Histogram) : Number := h.cumulative.getLast?.getD 0

end Histogram

end CommandMetrics
