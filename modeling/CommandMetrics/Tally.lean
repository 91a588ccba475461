import CommandMetrics.Signal
import CommandMetrics.Snapshot
/-!
# Tallies — the events of one command, kept in memory

A tally is what tests look at in place of series: whole counts, the last
total duration, and every run duration on its own. Nothing is ever
forgotten, also not on a reset.
-/

namespace CommandMetrics

/-- What was reported about a command. -/
structure Tally where
  counts : PerEvent Nat
  totalDuration : Number
  /-- How often a total duration was reported. -/
  totalReports : Nat
  runDurations : List Number

namespace Tally

/-- Nothing was reported yet. -/
def empty : Tally := ⟨PerEvent.same 0, 0, 0, []⟩

/-- **Takes a signal in.** A duration that is none is refused, and the
tally stays as it is. -/
def take (t : Tally) : Signal → Except Fault Tally
  | .event e => .ok { t with counts := t.counts.modify e (· + 1) }
  | .totalDuration duration =>
    (Duration.seconds duration).map fun seconds =>
      { t with totalDuration := seconds, totalReports := t.totalReports + 1 }
  | .runDuration duration =>
    (Duration.seconds duration).map fun seconds =>
      { t with runDurations := t.runDurations ++ [seconds] }
  | .reset => .ok t

/-- What a tally tells about its command at this moment. -/
def snapshot (command : Text) (t : Tally) : Snapshot :=
  { command
    counts := t.counts.map Int.ofNat
    totalDuration := t.totalDuration
    runDurations := t.runDurations
    lastRunDuration := t.runDurations.getLast? }

end Tally

end CommandMetrics
