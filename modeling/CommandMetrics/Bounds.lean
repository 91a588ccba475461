import CommandMetrics.Number.Layout
/-!
# Bucket bounds — the upper bounds of a duration histogram

Bounds are in seconds. They are accepted when they are positive, strictly
increasing and at least one of them is finite; the last one may be
infinite. A histogram itself ends in an infinite bucket, so one is added
where the bounds do not end in it.
-/

namespace CommandMetrics

/-- What is wrong with a list of bounds. -/
inductive BoundsError where
  | empty
  | notANumber
  | notPositive (bound : Number)
  | notIncreasing (previous bound : Number)
  | noFiniteBound
  deriving DecidableEq

/-- The words for what is wrong with a list of bounds. -/
def BoundsError.message : BoundsError → String
  | empty => "duration buckets must not be empty"
  | notANumber => "duration buckets must not contain NaN"
  | notPositive bound => "duration bucket " ++ bound.text ++ " is not positive"
  | notIncreasing previous bound =>
    "duration buckets must be strictly increasing (" ++ previous.text ++ " >= " ++ bound.text ++ ")"
  | noFiniteBound => "duration buckets need at least one finite bound"

namespace Bounds

/-- What is wrong with one bound after the one before it. -/
def fault? (previous : Option Number) (bound : Number) : Option BoundsError :=
  if bound.isNaN then some .notANumber
  else if bound ≤ 0 then some (.notPositive bound)
  else
    match previous with
    | some p => if bound ≤ p then some (.notIncreasing p bound) else none
    | none => none

/-- The first fault of a list of bounds, from left to right. -/
def firstFault? (previous : Option Number) : List Number → Option BoundsError
  | [] => none
  | bound :: rest => (fault? previous bound).or (firstFault? (some bound) rest)

/-- **Accepts a list of bounds** or says what is wrong with it. That no
bound is finite is noticed last: it takes an increasing list that begins
with an infinity. -/
def validate (bounds : List Number) : Except BoundsError (List Number) :=
  match bounds with
  | [] => .error .empty
  | first :: _ =>
    match firstFault? none bounds with
    | some fault => .error fault
    | none => if first.isInfinite then .error .noFiniteBound else .ok bounds

/-- The bounds of a histogram for which none are given. -/
def standard : List Number :=
  [5, 10, 25, 50, 75, 100, 250, 500, 750, 1000, 2500, 5000, 7500, 10000].map
      (fun thousandths => Number.ofDecimal false ⟨thousandths, -3⟩)
    ++ [.infinity false]

/-! ## The buckets of a histogram -/

/-- Why a histogram cannot be laid out over a list of bounds. -/
inductive LayoutError where
  | unordered
  | tooFew
  deriving DecidableEq, Repr

/-- The words for why a histogram cannot be laid out. -/
def LayoutError.message : LayoutError → String
  | unordered => "Buckets not in sorted order"
  | tooFew => "Must have at least two buckets"

/-- Whether no bound lies below the one before it. -/
def ordered : List Number → Bool
  | x :: y :: rest => decide (x ≤ y) && ordered (y :: rest)
  | _ => true

/-- The bounds, ended by an infinite one. -/
def closed (bounds : List Number) : List Number :=
  match bounds.getLast? with
  | some last => if last = .infinity false then bounds else bounds ++ [.infinity false]
  | none => []

/-- **The upper bounds of a histogram's buckets.** -/
def buckets (bounds : List Number) : Except LayoutError (List Number) :=
  if !ordered bounds then .error .unordered
  else if (closed bounds).length < 2 then .error .tooFew
  else .ok (closed bounds)

end Bounds

end CommandMetrics
