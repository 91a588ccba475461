/-!
# Events — what is counted about a command

The life of a command shows in nine kinds of events, each counted on its
own. `PerEvent` holds one value for each of them: the children of the nine
counters, the tallies of a collector in memory, the fields of a snapshot.
-/

namespace CommandMetrics

/-- A counted event in the life of a command. -/
inductive Event where
  /-- The command is about to be executed. -/
  | attempt
  /-- An attempt did not end in success. -/
  | error
  /-- The command was executed successfully. -/
  | success
  /-- The execution failed. -/
  | failure
  /-- There was no capacity to execute the command. -/
  | reject
  /-- The open circuit short circuited the execution. -/
  | shortCircuit
  /-- The execution ran out of time. -/
  | timeout
  /-- The fallback was executed successfully. -/
  | fallbackSuccess
  /-- The fallback failed. -/
  | fallbackFailure
  deriving DecidableEq, Repr

namespace Event

/-- The events, in the order in which their series are defined. -/
def all : List Event :=
  [attempt, error, success, failure, reject, shortCircuit, timeout, fallbackSuccess,
    fallbackFailure]

theorem mem_all (e : Event) : e ∈ all := by
  cases e <;> simp [all]

/-- The name an event is counted under. -/
def countName : Event → String
  | attempt => "attempts"
  | error => "errors"
  | success => "successes"
  | failure => "failures"
  | reject => "rejects"
  | shortCircuit => "short_circuits"
  | timeout => "timeouts"
  | fallbackSuccess => "fallback_successes"
  | fallbackFailure => "fallback_failures"

/-- The name of a single event. -/
def name : Event → String
  | attempt => "attempt"
  | error => "error"
  | success => "success"
  | failure => "failure"
  | reject => "reject"
  | shortCircuit => "short_circuit"
  | timeout => "timeout"
  | fallbackSuccess => "fallback_success"
  | fallbackFailure => "fallback_failure"

end Event

/-- One value for each event. -/
structure PerEvent (α : Type) where
  attempt : α
  error : α
  success : α
  failure : α
  reject : α
  shortCircuit : α
  timeout : α
  fallbackSuccess : α
  fallbackFailure : α
  deriving DecidableEq

namespace PerEvent

variable {α β : Type}

/-- The same value for every event. -/
def same (x : α) : PerEvent α := ⟨x, x, x, x, x, x, x, x, x⟩

/-- The value of an event. -/
def get (t : PerEvent α) : Event → α
  | .attempt => t.attempt
  | .error => t.error
  | .success => t.success
  | .failure => t.failure
  | .reject => t.reject
  | .shortCircuit => t.shortCircuit
  | .timeout => t.timeout
  | .fallbackSuccess => t.fallbackSuccess
  | .fallbackFailure => t.fallbackFailure

/-- Changes the value of one event. -/
def modify (t : PerEvent α) (e : Event) (f : α → α) : PerEvent α :=
  match e with
  | .attempt => { t with attempt := f t.attempt }
  | .error => { t with error := f t.error }
  | .success => { t with success := f t.success }
  | .failure => { t with failure := f t.failure }
  | .reject => { t with reject := f t.reject }
  | .shortCircuit => { t with shortCircuit := f t.shortCircuit }
  | .timeout => { t with timeout := f t.timeout }
  | .fallbackSuccess => { t with fallbackSuccess := f t.fallbackSuccess }
  | .fallbackFailure => { t with fallbackFailure := f t.fallbackFailure }

/-- Changes the value of every event. -/
def map (f : α → β) (t : PerEvent α) : PerEvent β :=
  ⟨f t.attempt, f t.error, f t.success, f t.failure, f t.reject, f t.shortCircuit, f t.timeout,
    f t.fallbackSuccess, f t.fallbackFailure⟩

@[simp] theorem get_same (x : α) (e : Event) : (same x).get e = x := by
  cases e <;> rfl

@[simp] theorem get_map (f : α → β) (t : PerEvent α) (e : Event) :
    (t.map f).get e = f (t.get e) := by
  cases e <;> rfl

theorem get_modify (t : PerEvent α) (e e' : Event) (f : α → α) :
    (t.modify e f).get e' = if e = e' then f (t.get e') else t.get e' := by
  cases e <;> cases e' <;> rfl

@[ext] theorem ext_get {t u : PerEvent α} (h : ∀ e, t.get e = u.get e) : t = u := by
  have h₁ := h .attempt
  have h₂ := h .error
  have h₃ := h .success
  have h₄ := h .failure
  have h₅ := h .reject
  have h₆ := h .shortCircuit
  have h₇ := h .timeout
  have h₈ := h .fallbackSuccess
  have h₉ := h .fallbackFailure
  cases t
  cases u
  simp_all [get]

/-- The values in the order of the events. -/
def toList (t : PerEvent α) : List (Event × α) := Event.all.map fun e => (e, t.get e)

end PerEvent

end CommandMetrics
