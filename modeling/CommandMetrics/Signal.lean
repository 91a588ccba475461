import CommandMetrics.Duration
import CommandMetrics.Event
/-!
# Signals — what the command engine tells a collector

The engine reports the life of a command through twelve methods: one for
each event, two for durations and one that may reset the collector. A
recorder of a metric set answers to a second name for each event as well.
-/

namespace CommandMetrics

/-- What the engine reports. -/
inductive Signal where
  | event (e : Event)
  /-- How long the command has been running. -/
  | totalDuration (duration : Value)
  /-- How long the last run took. -/
  | runDuration (duration : Value)
  | reset

/-- A method of a collector. -/
inductive Method where
  | event (e : Event)
  | totalDuration
  | runDuration
  | reset
  deriving DecidableEq, Repr

namespace Method

/-- The methods of every collector. -/
def all : List Method := Event.all.map event ++ [totalDuration, runDuration, reset]

/-- The name of a method. -/
def name : Method → String
  | event e => "record_" ++ e.name
  | totalDuration => "update_total_duration"
  | runDuration => "update_run_duration"
  | reset => "reset"

/-- The method of a name that every collector answers to. -/
def ofName? (s : String) : Option Method := all.find? (·.name == s)

/-- The second name of an event's method, to which recorders answer. -/
def aliasName (e : Event) : String := "increment_" ++ e.countName

/-- The method of a second name. -/
def ofAlias? (s : String) : Option Method := (Event.all.find? (aliasName · == s)).map event

/-- The name of the one parameter of a method, if it has one. -/
def parameter? : Method → Option String
  | totalDuration => some "time_since_start"
  | runDuration => some "run_duration"
  | event _ | reset => none

/-- The words for a call with the wrong number of arguments, of something that
has a parameter or none; the collector itself counts as one. -/
def wrongArguments (called : String) (parameter? : Option String) (count : Nat) : String :=
  match parameter?, count with
  | some parameter, 0 => called ++ " missing 1 required positional argument: '" ++ parameter ++ "'"
  | some _, n => called ++ s!" takes 2 positional arguments but {n + 1} were given"
  | none, n => called ++ s!" takes 1 positional argument but {n + 1} were given"

/-- **What a call of a method reports.** `owner` is the type that the
method belongs to. -/
def signal (m : Method) (owner : String) (arguments : List Value) : Except Fault Signal :=
  match m, arguments with
  | event e, [] => .ok (.event e)
  | reset, [] => .ok .reset
  | totalDuration, [duration] => .ok (.totalDuration duration)
  | runDuration, [duration] => .ok (.runDuration duration)
  | m, arguments =>
    let called := owner ++ "." ++ m.name ++ "()"
    .error (.arguments (wrongArguments called m.parameter? arguments.length))

end Method

/-! ## What makes a collector -/

namespace Interface

/-- The part of a collector that is no method: the name of its command. -/
def commandPart : String := "command_name"

/-- **Whether something is a collector.** It has some parts, and others that
are there but void. It is one if it has the name of its command, void or
not, and all methods, none of them void. -/
def isCollector (parts void : List String) : Bool :=
  (parts.contains commandPart || void.contains commandPart)
    && Method.all.all fun m => parts.contains m.name && !void.contains m.name

end Interface

end CommandMetrics
