import CommandMetrics.Host.Roster
import Mathlib.Data.List.DropRight
/-!
# Rosters — factories act on the roster that they are called from

A factory that is called may enlist others in its roster, or empty it,
and then make a collector or fail; what it does may depend on all it did
before. A `Conduct` is any such behaviour of factories, of which that of
the host's own factories is one (`Conduct.own`, `makeCollectors_own`). Whatever
the conduct, a call for collectors walks the roster that it finds when it
begins (`callEach_eq_ok_iff`, `callEach_eq_error_iff`), and after any
sequence of calls a roster holds what was enlisted since it was last
emptied, by callers or by factories (`roster_run`).
-/

namespace CommandMetrics

/-! ## Deeds -/

/-- What is done to a roster. -/
inductive Deed where
  /-- A factory is put at its end. -/
  | enlist (factory : Factory)
  /-- All factories are removed. -/
  | clear

namespace Deed

/-- A roster after a deed. -/
def apply (factories : List Factory) : Deed → List Factory
  | enlist factory => factories ++ [factory]
  | clear => []

/-- Whether a deed puts a factory on the roster. -/
def enlists : Deed → Bool
  | enlist _ => true
  | clear => false

/-- The factory that a deed puts there. -/
def enlisted? : Deed → Option Factory
  | enlist factory => some factory
  | clear => none

/-- The deeds since the last time that all were removed. -/
def sinceCleared (deeds : List Deed) : List Deed := deeds.rtakeWhile enlists

/-- **A roster that was empty holds what was enlisted since it was last
emptied**, in that order. -/
theorem foldl_apply (deeds : List Deed) :
    deeds.foldl apply [] = (sinceCleared deeds).filterMap enlisted? := by
  induction deeds using List.reverseRecOn with
  | nil => rfl
  | append_singleton deeds deed ih =>
    rw [List.foldl_concat, ih]
    unfold sinceCleared
    rw [List.rtakeWhile_concat]
    cases deed with
    | clear => rfl
    | enlist factory =>
      show _ = (deeds.rtakeWhile enlists ++ [enlist factory]).filterMap enlisted?
      rw [List.filterMap_append]
      rfl

/-- Each of these deeds enlists one factory. -/
theorem length_enlisted (deeds : List Deed) :
    ((sinceCleared deeds).filterMap enlisted?).length = (sinceCleared deeds).length := by
  have hall : ∀ deed ∈ sinceCleared deeds, (enlisted? deed).isSome = true := by
    intro deed hdeed
    have henlists : enlists deed = true := List.mem_rtakeWhile_imp hdeed
    cases deed with
    | enlist factory => rfl
    | clear => cases henlists
  rw [List.length_filterMap_eq_countP, List.countP_eq_length]
  exact hall

end Deed

/-- The deeds of a script. -/
def Script.deeds : Script → List Deed
  | .make | .giveUp => []
  | .enlist factory rest => .enlist factory :: rest.deeds
  | .clear rest => .clear :: rest.deeds

/-- The deeds of a factory. Only scripted ones do anything to their roster. -/
def Factory.deeds : Factory → List Deed
  | .recorders _ | .memory | .silent => []
  | .scripted _ script => script.deeds

namespace Host

variable {h : Host} {id : RosterId} {factories : List Factory}

/-! ## What is done to a roster that is there -/

theorem roster_of_getElem? (hroster : h.rosters[id.index]? = some factories) :
    h.roster id = factories := by
  unfold roster
  rw [hroster, Option.getD_some]

theorem rosters_setRoster (hroster : h.rosters[id.index]? = some factories)
    (new : List Factory) : (h.setRoster id new).rosters[id.index]? = some new := by
  unfold setRoster
  rw [List.getElem?_modify_eq, hroster]
  rfl

theorem rosters_enlist (hroster : h.rosters[id.index]? = some factories) (factory : Factory) :
    (h.enlist id factory).rosters[id.index]? = some (factories ++ [factory]) := by
  have henlisted := rosters_setRoster hroster (h.roster id ++ [factory])
  rw [roster_of_getElem? hroster] at henlisted
  unfold enlist
  rw [roster_of_getElem? hroster]
  exact henlisted

/-! Making collectors does nothing to rosters. -/

theorem rosters_newRecorder (h : Host) (route : RecorderRoute) (set : SetId) (name : Value) :
    (h.newRecorder route set name).1.rosters = h.rosters := by
  unfold newRecorder ensureCommand
  split
  · rfl
  · split <;> rename_i hensured <;> split at hensured <;> cases hensured <;> rfl

theorem rosters_addSink (h : Host) (make : Text → Sink) (name : Value) :
    (h.addSink make name).1.rosters = h.rosters := by
  unfold addSink
  split <;> rfl

/-- **A script does its deeds**, whether or not it makes a collector in the
end. -/
theorem rosters_follow (name : Value) :
    ∀ (script : Script) (h : Host) (factories : List Factory),
      h.rosters[id.index]? = some factories →
        (follow id name script h).1.rosters[id.index]? =
          some (script.deeds.foldl Deed.apply factories)
  | .make, h, factories, hroster => by
    have hmade := h.rosters_addSink .silent name
    have hfollow : (follow id name .make h).1 = (h.newSilent name).1 := by
      unfold follow
      split <;> rename_i hresult <;> rw [hresult]
    rw [hfollow]
    exact (congrArg (·[id.index]?) hmade).trans hroster
  | .giveUp, h, factories, hroster => hroster
  | .enlist factory rest, h, factories, hroster =>
    rosters_follow name rest _ _ (rosters_enlist hroster factory)
  | .clear rest, h, factories, hroster =>
    rosters_follow name rest _ _ (rosters_setRoster hroster [])

/-- **A factory does its deeds.** -/
theorem rosters_make (hroster : h.rosters[id.index]? = some factories) (name : Value)
    (factory : Factory) :
    (h.make id name factory).1.rosters[id.index]? =
      some (factory.deeds.foldl Deed.apply factories) := by
  have hkept : ∀ {made : Host}, made.rosters = h.rosters →
      made.rosters[id.index]? = some factories := fun hmade => by rw [hmade, hroster]
  unfold make
  cases factory with
  | recorders set =>
    have hmade := h.rosters_newRecorder .collector set name
    dsimp only
    split <;> rename_i hresult <;> exact hkept (congrArg Prod.fst hresult ▸ hmade)
  | memory =>
    have hmade := h.rosters_addSink (fun command => .memory command .empty) name
    dsimp only
    split <;> rename_i hresult <;> exact hkept (congrArg Prod.fst hresult ▸ hmade)
  | silent =>
    have hmade := h.rosters_addSink .silent name
    dsimp only
    split <;> rename_i hresult <;> exact hkept (congrArg Prod.fst hresult ▸ hmade)
  | scripted label script => exact rosters_follow name script h factories hroster

end Host

/-! ## Conduct -/

/-- **How factories behave** that are called from a roster. What they
remember among themselves is kept beside the host; whatever else they do,
they act on the roster by their deeds, also where they fail in the end. -/
structure Conduct (id : RosterId) (Memory : Type) where
  call : Factory → Value → Memory × Host → (Memory × Host) × Except Failure Collector
  deeds : Factory → Value → Memory × Host → List Deed
  keeps : ∀ factory name s factories, s.2.rosters[id.index]? = some factories →
    (call factory name s).1.2.rosters[id.index]? =
      some ((deeds factory name s).foldl Deed.apply factories)

/-- A call of a roster. -/
inductive RosterCall where
  | register (candidate : Option Factory)
  | clear
  | length
  | makeCollectors (name : Value)

namespace Conduct

/-- The factories of the host remember nothing besides. -/
def own (id : RosterId) : Conduct id Unit where
  call factory name s := (((), (s.2.make id name factory).1), (s.2.make id name factory).2)
  deeds factory _ _ := factory.deeds
  keeps factory name _ _ hroster := Host.rosters_make hroster name factory

variable {id : RosterId} {Memory : Type} (c : Conduct id Memory) {name : Value}
variable {factories : List Factory} {s after : Memory × Host} {collectors : List Collector}
variable {failure : Failure}

/-- Calls factories one after the other, up to the first that fails. -/
def callEach (name : Value) :
    List Factory → Memory × Host → (Memory × Host) × Except Failure (List Collector)
  | [], s => (s, .ok [])
  | factory :: rest, s =>
    match c.call factory name s with
    | (s, .error failure) => (s, .error failure)
    | (s, .ok collector) =>
      match callEach name rest s with
      | (s, .error failure) => (s, .error failure)
      | (s, .ok collectors) => (s, .ok (collector :: collectors))

/-- **Makes the collectors of a command**, one of each factory on the
roster. -/
def makeCollectors (name : Value) (s : Memory × Host) :
    (Memory × Host) × Except Failure (List Collector) := c.callEach name (s.2.roster id) s

/-- The deeds of factories that are called one after the other. -/
def deedsOfEach (name : Value) : List Factory → Memory × Host → List Deed
  | [], _ => []
  | factory :: rest, s =>
    c.deeds factory name s ++
      match c.call factory name s with
      | (_, .error _) => []
      | (s, .ok _) => deedsOfEach name rest s

/-- **Factories are called in order**, each once and each in the state that
the one before has left, and this is what they make. -/
inductive Called (name : Value) :
    List Factory → Memory × Host → List Collector → Memory × Host → Prop
  | done (s : Memory × Host) : Called name [] s [] s
  | next {factory : Factory} {rest : List Factory} {s s' after : Memory × Host}
    {collector : Collector} {collectors : List Collector}
    (hcall : c.call factory name s = (s', .ok collector))
    (hrest : Called name rest s' collectors after) :
    Called name (factory :: rest) s (collector :: collectors) after

/-- Calls a roster, and drops what it answers. -/
def perform (s : Memory × Host) : RosterCall → Memory × Host
  | .register candidate => (s.1, (s.2.register id candidate).1)
  | .clear => (s.1, s.2.clearRoster id)
  | .length => s
  | .makeCollectors name => (c.makeCollectors name s).1

/-- Calls a roster again and again. -/
def run (s : Memory × Host) (calls : List RosterCall) : Memory × Host := calls.foldl c.perform s

/-- What comes of a call: a factory that is accepted is enlisted, and those
that are called do their deeds. -/
def deedsOfCall (s : Memory × Host) : RosterCall → List Deed
  | .register candidate => candidate.toList.map .enlist
  | .clear => [.clear]
  | .length => []
  | .makeCollectors name => c.deedsOfEach name (s.2.roster id) s

/-- **All that is done to the roster** while it is called. -/
def history (s : Memory × Host) : List RosterCall → List Deed
  | [] => []
  | call :: calls => c.deedsOfCall s call ++ history (c.perform s call) calls

/-! ## Factories that are called -/

/-- **The host makes collectors as its own factories behave.** -/
theorem makeCollectors_own (h : Host) (name : Value) :
    (own id).makeCollectors name ((), h) =
      (((), (h.initializeCollectors id name).1), (h.initializeCollectors id name).2) := by
  have heach : ∀ (factories : List Factory) (h : Host),
      (own id).callEach name factories ((), h) =
        (((), (Host.makeEach id name factories h).1), (Host.makeEach id name factories h).2) := by
    intro factories
    induction factories with
    | nil => exact fun h => rfl
    | cons factory rest ih =>
      intro h
      unfold callEach Host.makeEach
      simp only [own]
      rcases h.make id name factory with ⟨made, failure | collector⟩
      · rfl
      · dsimp only
        have hrest := ih made
        simp only [own] at hrest
        rw [hrest]
        rcases Host.makeEach id name rest made with ⟨left, failure | collectors⟩ <;> rfl
  exact heach (h.roster id) h

/-- **A call that returns has called every factory**, and no other. -/
theorem callEach_eq_ok_iff :
    c.callEach name factories s = (after, .ok collectors) ↔
      c.Called name factories s collectors after := by
  constructor
  · intro hcalled
    induction factories generalizing s collectors with
    | nil =>
      cases hcalled
      exact .done _
    | cons factory rest ih =>
      unfold callEach at hcalled
      split at hcalled
      · cases hcalled
      · rename_i hcall
        split at hcalled
        · cases hcalled
        · rename_i hrest
          cases hcalled
          exact .next hcall (ih hrest)
  · intro hcalled
    induction hcalled with
    | done s => rfl
    | next hcall hrest ih => simp only [callEach, hcall, ih]

/-- **A call that fails has called the factories up to one that failed**, and
tells what that one told. -/
theorem callEach_eq_error_iff :
    c.callEach name factories s = (after, .error failure) ↔
      ∃ called factory rest made between, factories = called ++ factory :: rest ∧
        c.Called name called s made between ∧
        c.call factory name between = (after, .error failure) := by
  constructor
  · intro hfailed
    induction factories generalizing s with
    | nil => cases hfailed
    | cons factory rest ih =>
      unfold callEach at hfailed
      split at hfailed
      · rename_i hcall
        cases hfailed
        exact ⟨[], factory, rest, [], s, rfl, .done s, hcall⟩
      · rename_i collector hcall
        split at hfailed
        · rename_i hrest
          cases hfailed
          obtain ⟨called, failed, later, made, between, rfl, hcalled, hlast⟩ := ih hrest
          exact ⟨factory :: called, failed, later, collector :: made, between, rfl,
            .next hcall hcalled, hlast⟩
        · cases hfailed
  · rintro ⟨called, factory, rest, made, between, rfl, hcalled, hlast⟩
    induction hcalled with
    | done => simp only [List.nil_append, callEach, hlast]
    | next hcall hrest ih => simp only [List.cons_append, callEach, hcall, ih hlast]

/-! ## What the roster holds -/

/-- Factories that are called leave their deeds. -/
theorem rosters_callEach (name : Value) (called : List Factory)
    (hroster : s.2.rosters[id.index]? = some factories) :
    (c.callEach name called s).1.2.rosters[id.index]? =
      some ((c.deedsOfEach name called s).foldl Deed.apply factories) := by
  induction called generalizing s factories with
  | nil => exact hroster
  | cons factory rest ih =>
    have hkept := c.keeps factory name s factories hroster
    unfold callEach deedsOfEach
    rw [List.foldl_append]
    rcases hcall : c.call factory name s with ⟨made, refusal | collector⟩
    · rw [hcall] at hkept
      exact hkept
    · rw [hcall] at hkept
      have hrest := ih hkept
      dsimp only
      rcases hresult : c.callEach name rest made with ⟨left, refusal | collectors⟩ <;>
        rwa [hresult] at hrest

/-- **A call leaves its deeds.** -/
theorem rosters_perform (hroster : s.2.rosters[id.index]? = some factories) (call : RosterCall) :
    (c.perform s call).2.rosters[id.index]? =
      some ((c.deedsOfCall s call).foldl Deed.apply factories) := by
  cases call with
  | register candidate =>
    cases candidate with
    | none => exact hroster
    | some factory => exact Host.rosters_enlist hroster factory
  | clear => exact Host.rosters_setRoster hroster []
  | length => exact hroster
  | makeCollectors name => exact c.rosters_callEach name _ hroster

/-- **Calls leave their history.** -/
theorem rosters_run (hroster : s.2.rosters[id.index]? = some factories)
    (calls : List RosterCall) :
    (c.run s calls).2.rosters[id.index]? =
      some ((c.history s calls).foldl Deed.apply factories) := by
  induction calls generalizing s factories with
  | nil => exact hroster
  | cons call calls ih =>
    rw [history, List.foldl_append]
    exact ih (c.rosters_perform hroster call)

/-! ## The roster that is walked -/

/-- **What a roster answers in a state**: a call for collectors returns what
all the factories make that are on the roster now, called in order, or
else tells the failure of the first that fails, and leaves what was done up
to then. A factory that is registered comes at the end; what is none is
refused, and changes nothing. -/
structure Answers (s : Memory × Host) : Prop where
  returns : ∀ name after collectors, c.makeCollectors name s = (after, .ok collectors) ↔
    c.Called name (s.2.roster id) s collectors after
  fails : ∀ name after failure, c.makeCollectors name s = (after, .error failure) ↔
    ∃ called factory rest made between, s.2.roster id = called ++ factory :: rest ∧
      c.Called name called s made between ∧
      c.call factory name between = (after, .error failure)
  registers : ∀ factory,
    (s.2.register id (some factory)).2 = .ok ((s.2.roster id).length + 1)
  refuses : s.2.register id none = (s.2, .error (.fault .notAFactory))

variable {c}

/-- **Every state answers so** in which the roster is there. -/
theorem answers (hroster : s.2.rosters[id.index]? = some factories) : c.Answers s where
  returns name after collectors := c.callEach_eq_ok_iff
  fails name after failure := c.callEach_eq_error_iff
  registers factory := by
    have henlisted := Host.roster_of_getElem? (Host.rosters_enlist hroster factory)
    unfold Host.register
    dsimp only
    rw [henlisted, Host.roster_of_getElem? hroster, List.length_append]
    rfl
  refuses := rfl

variable (c)

/-- **Factories may act on the roster that they are called from.** However
factories behave, a roster that was empty holds, after any sequence of
calls, what was enlisted since it was last emptied, be it by callers or by
factories, so it is as long as there were such deeds. In every state
reached it answers as it should: a call for collectors walks the roster as
it is when the call begins, and stops at the first factory that fails.
The host's own factories are called in the same way. -/
theorem roster_run (hnew : s.2.rosters[id.index]? = some []) (calls : List RosterCall) :
    (c.run s calls).2.roster id =
      (Deed.sinceCleared (c.history s calls)).filterMap Deed.enlisted? ∧
    ((c.run s calls).2.roster id).length = (Deed.sinceCleared (c.history s calls)).length ∧
    c.Answers (c.run s calls) ∧
    ∀ (h : Host) (name : Value), (own id).makeCollectors name ((), h) =
      (((), (h.initializeCollectors id name).1), (h.initializeCollectors id name).2) := by
  have hroster := c.rosters_run hnew calls
  have hholds := Host.roster_of_getElem? hroster
  rw [Deed.foldl_apply] at hholds
  refine ⟨hholds, ?_, answers hroster, makeCollectors_own⟩
  rw [hholds, Deed.length_enlisted]

/-- A factory that enlists itself whenever it is called, and fails from some
call on. -/
def selfEnlisting (id : RosterId) (limit : Nat) : Conduct id Nat where
  call factory name s :=
    let made := (s.2.enlist id factory).newSilent name
    ((s.1 + 1, made.1),
      if s.1 < limit then made.2.map .sink else .error (.fault (.factoryFailed name.asText)))
  deeds factory _ _ := [.enlist factory]
  keeps factory name s factories hroster := by
    have hmade := (s.2.enlist id factory).rosters_addSink .silent name
    exact (congrArg (·[id.index]?) hmade).trans (Host.rosters_enlist hroster factory)

/-- Two such factories are registered, after one that is removed again. A
first call reaches both, which are four from then on; a second call reaches
three of the four, the last of which fails. -/
theorem roster_run_selfEnlisting :
    let c := selfEnlisting .default 4
    let calls := [.register (some .memory), .clear, .register (some .memory), .register none,
      .register (some .silent), .makeCollectors (.text "ping")]
    Host.initial.rosters[RosterId.default.index]? = some [] ∧
    ((c.run (0, .initial) calls).2.roster .default).length = 4 ∧
    c.Answers (c.run (0, .initial) calls) ∧
    ((c.run (0, .initial) (calls ++ [.length, .makeCollectors (.text "pong")])).2.roster
      .default).length = 7 := by
  intro c calls
  have hnew : Host.initial.rosters[RosterId.default.index]? = some [] := rfl
  obtain ⟨-, hfirst, hanswers, -⟩ := c.roster_run (s := (0, .initial)) hnew calls
  obtain ⟨-, hsecond, -, -⟩ := c.roster_run (s := (0, .initial)) hnew
    (calls ++ [.length, .makeCollectors (.text "pong")])
  refine ⟨hnew, ?_, hanswers, ?_⟩
  · rw [hfirst]
    decide +kernel
  · rw [hsecond]
    decide +kernel

end Conduct

end CommandMetrics
