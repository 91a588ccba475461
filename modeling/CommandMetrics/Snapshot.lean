import CommandMetrics.Coercion
import CommandMetrics.Event
import CommandMetrics.Number.Sum
/-!
# Snapshots — the events of a command up to some moment

A snapshot does not change when its command goes on.
-/

namespace CommandMetrics

/-- What was recorded for a command. -/
structure Snapshot where
  command : Text
  counts : PerEvent Int
  totalDuration : Number
  /-- The durations of the runs, in the order in which they ended. -/
  runDurations : List Number
  lastRunDuration : Option Number

namespace Snapshot

/-- The name a snapshot is reported under. -/
def model : String := "ModelCollectorSnapshot"

/-- How many runs there were. -/
def runCount (s : Snapshot) : Nat := s.runDurations.length

/-- The time that all runs took, as `sum` adds it up: of no runs, a whole
zero. -/
def runDurationSum (sum : List Number → Number) (s : Snapshot) : Value :=
  if s.runDurations.isEmpty then .integer 0 else .number (sum s.runDurations)

/-- The names of the fields. -/
def fieldNames : List String :=
  "command_name" :: Event.all.map Event.countName
    ++ ["total_duration_seconds", "run_durations_seconds", "last_run_duration_seconds"]

/-- **Builds a snapshot from its fields**; only the command must be
there. -/
def ofFields (fields : Fields) : Except Rejection Snapshot :=
  let count (e : Event) : Checked Int := fields.optional e.countName 0 Coercion.integer
  let counts : Checked (PerEvent Int) :=
    ((count .attempt).map PerEvent.mk)
      |>.ap (count .error)
      |>.ap (count .success)
      |>.ap (count .failure)
      |>.ap (count .reject)
      |>.ap (count .shortCircuit)
      |>.ap (count .timeout)
      |>.ap (count .fallbackSuccess)
      |>.ap (count .fallbackFailure)
  let checked :=
    (fields.required "command_name" Coercion.text).map
      fun command counts totalDuration runDurations lastRunDuration (_ : Unit) =>
        ({ command, counts, totalDuration, runDurations, lastRunDuration } : Snapshot)
  checked
    |>.ap counts
    |>.ap (fields.optional "total_duration_seconds" 0 Coercion.number)
    |>.ap (fields.optional "run_durations_seconds" [] (Coercion.sequence Coercion.number))
    |>.ap (fields.optional "last_run_duration_seconds" none (Coercion.optional Coercion.number))
    |>.ap (fields.closed fieldNames)
    |>.forModel model

/-- The fields of a snapshot. -/
def toFields (s : Snapshot) : Fields :=
  ("command_name", .text s.command)
    :: s.counts.toList.map (fun (e, n) => (e.countName, .integer n))
    ++ [("total_duration_seconds", .number s.totalDuration),
      ("run_durations_seconds", .tuple (s.runDurations.map .number)),
      ("last_run_duration_seconds", (s.lastRunDuration.map Value.number).getD .absent)]

/-- Whether numbers are the same one by one: they are equal, or `shared`,
which is to say that both come from one report. -/
def sameNumbers (shared : Bool) : List Number → List Number → Bool
  | [], [] => true
  | x :: xs, y :: ys => (shared || x.same y) && sameNumbers shared xs ys
  | _, _ => false

/-- Whether two snapshots tell the same, where it is known if they share the
report of the total duration and those of the run durations. -/
def sameSharing (sharedTotal sharedRuns : Bool) (s t : Snapshot) : Bool :=
  s.command == t.command && decide (s.counts = t.counts)
    && sameNumbers sharedTotal [s.totalDuration] [t.totalDuration]
    && sameNumbers sharedRuns s.runDurations t.runDurations
    && sameNumbers sharedRuns s.lastRunDuration.toList t.lastRunDuration.toList

/-- Whether two snapshots that share nothing tell the same. What is no number
is never the same as another. -/
def same (s t : Snapshot) : Bool := sameSharing false false s t

theorem sameNumbers_self (xs : List Number) : sameNumbers true xs xs = true := by
  induction xs with
  | nil => rfl
  | cons x xs ih => simp [sameNumbers, ih]

/-- A snapshot tells the same as itself. -/
theorem sameSharing_self (s : Snapshot) : sameSharing true true s s = true := by
  simp [sameSharing, sameNumbers_self]

end Snapshot

end CommandMetrics
