import CommandMetrics.Proofs.Process
import Mathlib.Logic.Function.Basic
/-!
# Threads that ask for the set of the process — one makes it, all are handed it

Threads ask by turns, each in steps of its own: it takes the lock, looks
whether a set is held, reads the environment as it is then, makes a set,
and has it held. Making a set is one step, for constructions come to what
they come to one after another. Between any two steps anything else may be
done to the host, registrations and departures included; only who asks for
the set of the process waits for the lock.

The step at which it is decided what a call comes to counts as the call
(`AskPhase.advance`). Between that step and the end of the call the host may
lack what the call does to it, but only that a set is held, and nothing else
looks at that (`AskPhase.Fits.other`). So all that was done, calls included,
is a run that leads to where the host is (`orderly_run`), and what holds of
the calls of every run holds of the calls of all threads
(`process_set_made_once`).
-/

namespace CommandMetrics

/-- How far a thread has come that asks for the set of the process and has
the lock. -/
inductive AskPhase where
  /-- It is about to look whether a set is held. -/
  | looking
  /-- There was none, and it is about to read the environment. -/
  | reading
  /-- It has read an environment and is about to make a set. -/
  | making (environment : Environment) (config : Config)
  /-- It has made a set that is about to be held. -/
  | holding (id : SetId)
  /-- Nothing is left but to let go of the lock. -/
  | leaving (reply : Except Failure SetId)

/-- A turn: anything is done to the host, or a thread goes on with asking for
the set of the process while the environment is as it is. -/
inductive AskTurn (Tid : Type) where
  | other (act : Act)
  | ask (t : Tid) (environment : Environment)

/-- Threads that ask for the set of the process. -/
structure Askers (Tid : Type) where
  host : Host
  /-- Who has the lock. -/
  lock : Option Tid
  /-- How far a thread has come, while it has the lock. -/
  phase : Tid → Option AskPhase
  /-- What was returned, to whom and in which order. -/
  answers : List (Tid × Except Failure SetId)
  /-- What was done, a call at the step at which it is decided what it comes
  to. -/
  history : List Act

/-- **The next step of a thread that has the lock**, with the call that counts
as made by this step, if one does. What was read is logged when it is used. -/
def AskPhase.advance (environment : Environment) (h : Host) :
    AskPhase → Host × AskPhase × List Act
  | looking =>
    match h.current with
    | some id => (h, leaving (.ok id), [.processSet environment])
    | none => (h, reading, [])
  | reading =>
    match environment.config with
    | .error failure => (h, leaving (.error failure), [.processSet environment])
    | .ok config => (h, making environment config, [])
  | making read config =>
    match (h.write (.environmentLoaded config)).construct .default none (some config) with
    | (after, .ok id) => (after, holding id, [.processSet read])
    | (after, .error failure) => (after, leaving (.error failure), [.processSet read])
  | holding id => (h.withCurrent (some id), leaving (.ok id), [])
  | leaving reply => (h, leaving reply, [])

variable {Tid : Type} [DecidableEq Tid]

namespace Askers

/-- Before any turn. -/
def start : Askers Tid :=
  { host := .initial
    lock := none
    phase := fun _ => none
    answers := []
    history := [] }

/-- **A turn is taken.** A thread outside the lock takes it if it is free and
waits if it is not; at the end of its call it lets go of it. Nobody asks but
by turns. -/
def step (a : Askers Tid) : AskTurn Tid → Askers Tid
  | .other (.processSet _) => a
  | .other act => { a with host := a.host.perform act, history := a.history ++ [act] }
  | .ask t environment =>
    match a.phase t with
    | none =>
      match a.lock with
      | some _ => a
      | none => { a with lock := some t, phase := Function.update a.phase t (some .looking) }
    | some (.leaving reply) =>
      { a with
        lock := none
        phase := Function.update a.phase t none
        answers := a.answers ++ [(t, reply)] }
    | some p =>
      let (host, next, calls) := p.advance environment a.host
      { a with
        host
        phase := Function.update a.phase t (some next)
        history := a.history ++ calls }

/-- Turns are taken one after the other. -/
def run (turns : List (AskTurn Tid)) : Askers Tid := turns.foldl step start

end Askers

/-! ## What every step keeps -/

namespace AskPhase

/-- The host once a set that was made is held. -/
def settle (h : Host) : AskPhase → Host
  | holding id => h.withCurrent (some id)
  | _ => h

/-- What a thread is yet to be told of a call that counts as made. -/
def owed : AskPhase → List (Except Failure SetId)
  | holding id => [.ok id]
  | leaving reply => [reply]
  | _ => []

/-- What a thread that has the lock relies on: from when it has looked until
it has the set held no set is held. -/
def Relies (h : Host) : AskPhase → Prop
  | looking | leaving _ => True
  | reading | holding _ => h.current = none
  | making environment config => h.current = none ∧ environment.config = .ok config

/-- The call that a thread is yet to make, if the environment stays as it is
until it has been read. -/
def pending (environment : Environment) : AskPhase → List Act
  | looking | reading => [.processSet environment]
  | making read _ => [.processSet read]
  | holding _ | leaving _ => []

/-- How many turns a thread needs at most until it lets go of the lock. -/
def turns : AskPhase → Nat
  | looking => 5
  | reading => 4
  | making .. => 3
  | holding _ => 2
  | leaving _ => 1

/-- **A phase fits what was done so far**: with a new set held the host is
where the history leads, and with what is owed all calls were answered. -/
structure Fits (p : AskPhase) (h : Host) (history : List Act)
    (replies : List (Except Failure SetId)) : Prop where
  host : p.settle h = Host.initial.run history
  replies : replies ++ p.owed = Host.initial.repliesOf history
  relies : p.Relies h

variable {p : AskPhase} {h : Host} {history : List Act} {replies : List (Except Failure SetId)}
variable {environment : Environment}

/-- **A step that counts as no call** changes neither where the host is once a
set that was made is held nor what is owed. -/
theorem Fits.pause {next : AskPhase} {after : Host} (hp : p.Fits h history replies)
    (hsettled : next.settle after = p.settle h) (howed : next.owed = p.owed)
    (hrelies : next.Relies after) : next.Fits after (history ++ []) replies := by
  rw [List.append_nil]
  exact ⟨hsettled.trans hp.host, howed ▸ hp.replies, hrelies⟩

/-- **A step that counts as a call** leads to where the call leads, and its
reply is owed. -/
theorem Fits.call {next : AskPhase} {after settled : Host} {reply : Except Failure SetId}
    (hp : p.Fits h history replies) (hhost : p.settle h = h) (hnothing : p.owed = [])
    (hasked : h.processSet environment = (settled, reply)) (hsettled : next.settle after = settled)
    (howed : next.owed = [reply]) (hrelies : next.Relies after) :
    next.Fits after (history ++ [.processSet environment]) replies := by
  have hbefore := hp.host
  have hreplies := hp.replies
  rw [hhost] at hbefore
  rw [hnothing, List.append_nil] at hreplies
  refine ⟨?_, ?_, hrelies⟩
  · rw [hsettled, Host.run_concat, ← hbefore]
    exact (congrArg Prod.fst hasked).symm
  · have hreply : Host.repliesOf h [.processSet environment] = [reply] :=
      congrArg (fun o : Host.Outcome SetId => [o.2]) hasked
    rw [Host.repliesOf_append, ← hreplies, ← hbefore, howed, hreply]

/-- **A step of a thread that has the lock fits** what was done with it. -/
theorem Fits.advance (hp : p.Fits h history replies) (environment : Environment) :
    (p.advance environment h).2.1.Fits (p.advance environment h).1
      (history ++ (p.advance environment h).2.2) replies := by
  have hrelies := hp.relies
  cases p with
  | looking =>
    simp only [AskPhase.advance]
    cases hcurrent : h.current with
    | some id =>
      exact hp.call rfl rfl (Host.processSet_of_some hcurrent environment) rfl rfl trivial
    | none => exact hp.pause rfl rfl hcurrent
  | reading =>
    simp only [AskPhase.advance]
    cases hconfig : environment.config with
    | error failure =>
      exact hp.call rfl rfl (Host.processSet_of_refused hrelies hconfig) rfl rfl trivial
    | ok config => exact hp.pause rfl rfl ⟨hrelies, hconfig⟩
  | making read config =>
    obtain ⟨hnone, hconfig⟩ := hrelies
    have hasked := Host.processSet_of_config hnone hconfig
    have hkept := (h.write (.environmentLoaded config)).current_addSet .default config
    simp only [AskPhase.advance]
    have hmade : (h.write (.environmentLoaded config)).construct .default none (some config) =
        (h.write (.environmentLoaded config)).addSet .default config := rfl
    rw [hmade]
    rcases hadded : (h.write (.environmentLoaded config)).addSet .default config with
      ⟨after, failure | id⟩ <;> rw [hadded] at hasked hkept
    · exact hp.call rfl rfl hasked rfl rfl trivial
    · exact hp.call rfl rfl hasked rfl rfl (hkept.trans hnone)
  | holding id => exact hp.pause rfl rfl trivial
  | leaving reply => exact hp.pause rfl rfl trivial

/-- **Whatever else is done fits as well**: it does not look at the set that is
held, and leaves it as it is. -/
theorem Fits.other (hp : p.Fits h history replies) {act : Act}
    (hact : ∀ environment, act ≠ .processSet environment) :
    p.Fits (h.perform act) (history ++ [act]) replies where
  host := by
    have hsettled : p.settle (h.perform act) = (p.settle h).perform act := by
      cases p with
      | holding id => exact (Host.perform_withCurrent h hact).symm
      | _ => rfl
    rw [hsettled, hp.host, Host.run_concat]
  replies := by
    have hnone : act.reply? (Host.initial.run history) = none := by
      cases act with
      | processSet environment => exact absurd rfl (hact environment)
      | _ => rfl
    rw [hp.replies, Host.repliesOf_append, Host.repliesOf, hnone]
    exact (List.append_nil _).symm
  relies := by
    have hrelies := hp.relies
    have hcurrent := Host.current_perform h hact
    cases p with
    | looking | leaving => trivial
    | reading | holding => exact hcurrent.trans hrelies
    | making => exact ⟨hcurrent.trans hrelies.1, hrelies.2⟩

/-- A step makes the call that was to be made, or leaves it to be made. -/
theorem pending_advance (p : AskPhase) (h : Host) (environment : Environment) :
    (p.advance environment h).2.2 ++ (p.advance environment h).2.1.pending environment =
      p.pending environment := by
  cases p with
  | looking =>
    simp only [AskPhase.advance]
    split <;> rfl
  | reading =>
    simp only [AskPhase.advance]
    split <;> rfl
  | making read config =>
    simp only [AskPhase.advance]
    split <;> rfl
  | holding | leaving => rfl

/-- **A step brings a thread nearer to the end of its call.** -/
theorem turns_advance_lt (hp : ∀ reply, p ≠ leaving reply) (h : Host)
    (environment : Environment) : (p.advance environment h).2.1.turns < p.turns := by
  cases p with
  | looking =>
    simp only [AskPhase.advance]
    split <;> simp [turns]
  | reading =>
    simp only [AskPhase.advance]
    split <;> simp [turns]
  | making read config =>
    simp only [AskPhase.advance]
    split <;> simp [turns]
  | holding => simp [AskPhase.advance, turns]
  | leaving reply => exact absurd rfl (hp reply)

end AskPhase

namespace Askers

/-- **Threads that ask are orderly**: one at a time has the lock, and only
with it is a call under way; and the history leads to where the host is and
to what was returned, or will have with what is left of the call. -/
structure Orderly (a : Askers Tid) : Prop where
  exclusive : ∀ t p, a.phase t = some p → a.lock = some t
  held : ∀ t, a.lock = some t → ∃ p, a.phase t = some p
  free : a.lock = none → a.host = Host.initial.run a.history ∧
    a.answers.map Prod.snd = Host.initial.repliesOf a.history
  busy : ∀ t p, a.phase t = some p → p.Fits a.host a.history (a.answers.map Prod.snd)

variable {a : Askers Tid} {t u : Tid} {p q : AskPhase} {environment : Environment}

omit [DecidableEq Tid] in
theorem orderly_start : (start : Askers Tid).Orderly where
  exclusive := fun _ _ hp => nomatch hp
  held := fun _ hlock => nomatch hlock
  free := fun _ => ⟨rfl, rfl⟩
  busy := fun _ _ hp => nomatch hp

omit [DecidableEq Tid] in
/-- While the lock is free no call is under way. -/
theorem Orderly.phase_eq_none (ha : a.Orderly) (hlock : a.lock = none) (t : Tid) :
    a.phase t = none := by
  cases hp : a.phase t with
  | none => rfl
  | some p =>
    have hheld := ha.exclusive t p hp
    rw [hlock] at hheld
    cases hheld

omit [DecidableEq Tid] in
/-- Only one call is under way at a time. -/
theorem Orderly.eq_of_phase (ha : a.Orderly) (hp : a.phase t = some p) (hq : a.phase u = some q) :
    u = t := by
  have hheld := ha.exclusive t p hp
  rw [ha.exclusive u q hq] at hheld
  exact Option.some.inj hheld

/-- The one call that is under way is the one that is found. -/
theorem eq_of_update_eq_some (hothers : ∀ u q, a.phase u = some q → u = t)
    (hq : Function.update a.phase t (some p) u = some q) : u = t ∧ q = p := by
  by_cases hu : u = t
  · subst hu
    rw [Function.update_self] at hq
    exact ⟨rfl, (Option.some.inj hq).symm⟩
  · rw [Function.update_of_ne hu] at hq
    exact absurd (hothers u q hq) hu

omit [DecidableEq Tid] in
/-- **Whatever else is done keeps threads orderly.** -/
theorem Orderly.other (ha : a.Orderly) {act : Act}
    (hact : ∀ environment, act ≠ .processSet environment) :
    ({ a with host := a.host.perform act, history := a.history ++ [act] } :
      Askers Tid).Orderly where
  exclusive := ha.exclusive
  held := ha.held
  free := by
    intro hlock
    obtain ⟨hhost, hreplies⟩ := ha.free hlock
    have hfits : AskPhase.looking.Fits a.host a.history (a.answers.map Prod.snd) :=
      ⟨hhost, (List.append_nil _).trans hreplies, trivial⟩
    have hother := hfits.other hact
    exact ⟨hother.host, (List.append_nil _).symm.trans hother.replies⟩
  busy t p hp := (ha.busy t p hp).other hact

/-- **A thread that finds the lock free takes it.** -/
theorem Orderly.take (ha : a.Orderly) (hlock : a.lock = none) (t : Tid) :
    ({ a with lock := some t, phase := Function.update a.phase t (some .looking) } :
      Askers Tid).Orderly := by
  obtain ⟨hhost, hreplies⟩ := ha.free hlock
  have hothers : ∀ u q, a.phase u = some q → u = t := fun u q hq => by
    rw [ha.phase_eq_none hlock] at hq
    cases hq
  have hphase : ∀ u q, Function.update a.phase t (some .looking) u = some q →
      u = t ∧ q = .looking := fun u q => eq_of_update_eq_some hothers
  refine ⟨fun u q hq => ?_, fun u hu => ?_, fun hnone => (nomatch hnone), fun u q hq => ?_⟩
  · rw [(hphase u q hq).1]
  · cases hu
    exact ⟨_, Function.update_self ..⟩
  · obtain ⟨-, rfl⟩ := hphase u q hq
    exact ⟨hhost, (List.append_nil _).trans hreplies, trivial⟩

/-- **A thread that has the lock goes on.** -/
theorem Orderly.advance (ha : a.Orderly) (hp : a.phase t = some p) (environment : Environment) :
    ({ a with
        host := (p.advance environment a.host).1
        phase := Function.update a.phase t (some (p.advance environment a.host).2.1)
        history := a.history ++ (p.advance environment a.host).2.2 } : Askers Tid).Orderly := by
  have hlock := ha.exclusive t p hp
  have hphase : ∀ u q, Function.update a.phase t (some (p.advance environment a.host).2.1) u =
      some q → u = t ∧ q = (p.advance environment a.host).2.1 :=
    fun u q => eq_of_update_eq_some fun u q => ha.eq_of_phase hp
  refine ⟨fun u q hq => ?_, fun u hu => ?_, fun hnone => ?_, fun u q hq => ?_⟩
  · rw [(hphase u q hq).1]
    exact hlock
  · obtain rfl : t = u := Option.some.inj (hlock.symm.trans hu)
    exact ⟨_, Function.update_self ..⟩
  · rw [hlock] at hnone
    cases hnone
  · obtain ⟨-, rfl⟩ := hphase u q hq
    exact (ha.busy t p hp).advance environment

/-- **A thread that lets go of the lock** was told all that it was owed. -/
theorem Orderly.release (ha : a.Orderly) {reply : Except Failure SetId}
    (hp : a.phase t = some (.leaving reply)) :
    ({ a with lock := none, phase := Function.update a.phase t none,
              answers := a.answers ++ [(t, reply)] } : Askers Tid).Orderly := by
  have hout : ∀ u q, Function.update a.phase t none u ≠ some q := by
    intro u q hq
    by_cases hu : u = t
    · rw [hu, Function.update_self] at hq
      cases hq
    · rw [Function.update_of_ne hu] at hq
      exact hu (ha.eq_of_phase hp hq)
  have hfits := ha.busy t _ hp
  refine ⟨fun u q hq => absurd hq (hout u q), fun _ hu => (nomatch hu), fun _ => ?_,
    fun u q hq => absurd hq (hout u q)⟩
  rw [List.map_append]
  exact ⟨hfits.host, hfits.replies⟩

/-- **Every turn keeps threads orderly.** -/
theorem Orderly.step (ha : a.Orderly) (turn : AskTurn Tid) : (a.step turn).Orderly := by
  cases turn with
  | other act =>
    cases act with
    | processSet environment => exact ha
    | _ => exact ha.other fun _ heq => nomatch heq
  | ask t environment =>
    unfold Askers.step
    dsimp only
    split
    · split
      · exact ha
      · rename_i hlock
        exact ha.take hlock t
    · rename_i hp
      exact ha.release hp
    · rename_i hp
      exact ha.advance hp environment

/-- **Whatever turns are taken, threads stay orderly.** -/
theorem Orderly.steps (ha : a.Orderly) (turns : List (AskTurn Tid)) :
    (turns.foldl Askers.step a).Orderly := by
  induction turns generalizing a with
  | nil => exact ha
  | cons turn turns ih => exact ih (ha.step turn)

theorem orderly_run (turns : List (AskTurn Tid)) : (run turns).Orderly := orderly_start.steps turns

/-! ## Every call returns -/

/-- **A thread that has the lock lets go of it** when it has had enough turns,
and has made its call. By induction on the turns that it needs. -/
theorem exists_release {n : Nat} (hp : a.phase t = some p) (hn : p.turns ≤ n) :
    ∃ k ≤ n, ∃ reply, ∃ later : Askers Tid,
      (List.replicate k (.ask t environment)).foldl step a = later ∧ later.lock = none ∧
        later.answers = a.answers ++ [(t, reply)] ∧
        later.history = a.history ++ p.pending environment := by
  induction n generalizing a p with
  | zero => cases p <;> simp only [AskPhase.turns] at hn <;> omega
  | succ n ih =>
    by_cases hleaving : ∃ reply, p = .leaving reply
    · obtain ⟨reply, rfl⟩ := hleaving
      refine ⟨1, by omega, reply, _, rfl, ?_⟩
      simp only [List.replicate_one, List.foldl_cons, List.foldl_nil, Askers.step, hp,
        AskPhase.pending, List.append_nil, and_self]
    · have hne : ∀ reply, p ≠ .leaving reply := fun reply heq => hleaving ⟨reply, heq⟩
      have hstep : a.step (.ask t environment) =
          { a with
            host := (p.advance environment a.host).1
            phase := Function.update a.phase t (some (p.advance environment a.host).2.1)
            history := a.history ++ (p.advance environment a.host).2.2 } := by
        unfold Askers.step
        dsimp only
        rw [hp]
        cases p with
        | leaving reply => exact absurd rfl (hne reply)
        | _ => rfl
      have hnext : (a.step (.ask t environment)).phase t =
          some (p.advance environment a.host).2.1 := by
        rw [hstep]
        exact Function.update_self ..
      have hlt := AskPhase.turns_advance_lt hne a.host environment
      obtain ⟨k, hk, reply, later, hlater, hlock, hanswers, hhistory⟩ := ih hnext (by omega)
      refine ⟨k + 1, by omega, reply, later, hlater, hlock, ?_, ?_⟩
      · rw [hanswers, hstep]
      · rw [hhistory, hstep, List.append_assoc, AskPhase.pending_advance]

/-- **A thread that finds the lock free is answered** within six turns, with
what a call comes to without a break. -/
theorem Orderly.exists_answer (ha : a.Orderly) (hlock : a.lock = none) (t : Tid)
    (environment : Environment) :
    ∃ k ≤ 6, ∃ later : Askers Tid,
      (List.replicate k (AskTurn.ask t environment)).foldl Askers.step a = later ∧
        later.lock = none ∧ later.host = (a.host.processSet environment).1 ∧
        later.answers = a.answers ++ [(t, (a.host.processSet environment).2)] := by
  obtain ⟨hhost, hreplies⟩ := ha.free hlock
  have hout := ha.phase_eq_none hlock t
  have hstep : a.step (.ask t environment) =
      { a with lock := some t, phase := Function.update a.phase t (some .looking) } := by
    simp only [Askers.step, hout, hlock]
  have hnext : (a.step (.ask t environment)).phase t = some .looking := by
    rw [hstep]
    exact Function.update_self ..
  have hrelease : ∃ k ≤ 5, ∃ reply, ∃ later : Askers Tid,
      (List.replicate k (AskTurn.ask t environment)).foldl Askers.step
        (a.step (.ask t environment)) = later ∧ later.lock = none ∧
        later.answers = (a.step (.ask t environment)).answers ++ [(t, reply)] ∧
        later.history = (a.step (.ask t environment)).history ++ [.processSet environment] :=
    exists_release hnext (Nat.le_refl _)
  rw [hstep] at hrelease
  obtain ⟨k, hk, reply, later, hlater, hfree, hanswers, hhistory⟩ := hrelease
  have hturns : (List.replicate (k + 1) (AskTurn.ask t environment)).foldl Askers.step a =
      later := by
    rw [List.replicate_succ, List.foldl_cons, hstep, hlater]
  -- the history is one call longer, so host and answers are what the call makes of them
  obtain ⟨hhost', hreplies'⟩ := (hturns ▸ ha.steps _ : later.Orderly).free hfree
  rw [hhistory, Host.repliesOf_append, hanswers, List.map_append, ← hhost, ← hreplies]
    at hreplies'
  have hreply : [reply] = [(a.host.processSet environment).2] := List.append_cancel_left hreplies'
  rw [hhistory, Host.run_concat, ← hhost] at hhost'
  rw [List.singleton_inj.1 hreply] at hanswers
  exact ⟨k + 1, by omega, later, hturns, hfree, hhost', hanswers⟩

/-! ## What all threads are told -/

/-- **The set of the process is made once.** Threads ask for it by whatever
turns, each in an environment of its own, while anything else is done to the
host. One at a time does so. Whenever none does, the host and all that was
returned are what the calls come to, one after another, among all that was
done besides; and a thread that asks then is answered within six turns.

Each of the calls fails without a trace, as long as none has returned, and
tells why; it returns if that cannot happen in the environment and the
registry that it finds; and once one has returned all that follow return
the same set and change nothing. None reads an environment after that, and
at most one has made a set. -/
theorem process_set_made_once (turns : List (AskTurn Tid)) :
    (∀ t u p q, (run turns).phase t = some p → (run turns).phase u = some q → u = t) ∧
    ((run turns).lock = none →
      (run turns).host = Host.initial.run (run turns).history ∧
      (run turns).answers.map Prod.snd = Host.initial.repliesOf (run turns).history ∧
      ∀ t environment, ∃ k ≤ 6, ∃ later,
        run (turns ++ List.replicate k (.ask t environment)) = later ∧ later.lock = none ∧
          later.host = ((run turns).host.processSet environment).1 ∧
          later.answers =
            (run turns).answers ++ [(t, ((run turns).host.processSet environment).2)]) ∧
    (∀ before environment later,
      (run turns).history = before ++ .processSet environment :: later →
        (Host.initial.run before).Answered environment) ∧
    (∀ id other, .ok id ∈ Host.initial.repliesOf (run turns).history →
      .ok other ∈ Host.initial.repliesOf (run turns).history → id = other) ∧
    (∀ t, (run turns).phase t = some .reading →
      ∀ id, .ok id ∉ Host.initial.repliesOf (run turns).history) ∧
    (∀ before environment middle environment' later,
      (run turns).history =
        before ++ .processSet environment :: (middle ++ .processSet environment' :: later) →
      (Host.initial.run before).Makes environment →
        ¬ (Host.initial.run (before ++ .processSet environment :: middle)).Makes environment') := by
  have ha := orderly_run turns
  refine ⟨fun t u p q => ha.eq_of_phase, fun hlock => ?_, fun before environment later _ => ?_,
    fun id other hid hother => ?_, fun t hreading id hmem => ?_,
    fun before environment middle environment' later _ hmakes => ?_⟩
  · obtain ⟨hhost, hreplies⟩ := ha.free hlock
    refine ⟨hhost, hreplies, fun t environment => ?_⟩
    obtain ⟨k, hk, later, hlater, hanswer⟩ := ha.exists_answer hlock t environment
    refine ⟨k, hk, later, ?_, hanswer⟩
    rw [← hlater]
    exact List.foldl_append
  · exact (Host.numbered_run before).answered environment
  · have hheld := Host.current_of_mem_repliesOf hid
    rw [Host.current_of_mem_repliesOf hother] at hheld
    exact (Option.some.inj hheld).symm
  · have hfits := ha.busy t _ hreading
    have hnone : (run turns).host.current = none := hfits.relies
    have hhost : (run turns).host = Host.initial.run (run turns).history := hfits.host
    rw [hhost, Host.current_of_mem_repliesOf hmem] at hnone
    cases hnone
  · exact Host.not_makes_of_makes hmakes middle environment'

end Askers

end CommandMetrics
