import CommandMetrics.Fault
/-!
# Durations — what is handed over is turned into seconds

A duration is a span of time or a plain number of seconds. Truth values
are no durations, and neither is a whole number so large that no number
is near it.
-/

namespace CommandMetrics

/-- The seconds of a span of microseconds. -/
def Duration.ofMicroseconds (n : Int) : Number :=
  Number.round (decide (n < 0)) (n.natAbs * unitsPerOne) 1000000

/-- **The seconds of a duration**, or why there are none. -/
def Duration.seconds : Value → Except Fault Number
  | .span microseconds => .ok (ofMicroseconds microseconds)
  | .number x => .ok x
  | .integer n =>
    let x := Number.ofInt n
    if x.isInfinite then .error .tooLarge else .ok x
  | v => .error (.notADuration v.kind)

end CommandMetrics
