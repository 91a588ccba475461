import CommandMetrics.Proofs.Concurrent.Critical
import Mathlib.Logic.Function.Basic
/-!
# Racing registrations — any schedule comes to a serial run

Threads construct metric sets and take them out again, each deciding on its
next call by what its calls have returned so far. A schedule says whose
turn it is; a thread that finds the lock taken waits. Between any two steps
of a call others may have theirs, but none that touches a registry: the
lock is with one thread at a time (`Orderly.exclusive`). So what is left of
the call under the lock, done at any moment, leads to where the calls lead
one after another in the order in which they took the lock
(`orderly_run`), and with the lock free the machine is there
(`racing_calls_serialize`).
-/

namespace CommandMetrics

/-- What threads call next, by what their calls have returned so far. -/
abbrev Program (Tid : Type) := Tid → List Reply → Option LockedCall

/-- Threads at work on a host. -/
structure Machine (Tid : Type) where
  host : Host
  /-- Who has the lock. -/
  lock : Option Tid
  /-- How far the call of a thread has come, while it has one under way. -/
  phase : Tid → Option Phase
  /-- What the calls of a thread have returned. -/
  replies : Tid → List Reply
  /-- The threads in the order in which their calls took the lock, or failed
  before they did. -/
  order : List Tid

/-- Threads that make one call after another. -/
structure Serial (Tid : Type) where
  host : Host
  replies : Tid → List Reply

variable {Tid : Type} [DecidableEq Tid]

/-- Adds a reply to those of a thread. -/
def answer (replies : Tid → List Reply) (t : Tid) (reply : Reply) : Tid → List Reply :=
  Function.update replies t (replies t ++ [reply])

namespace Serial

/-- Before any call. -/
def start (h : Host) : Serial Tid := ⟨h, fun _ => []⟩

/-- A thread makes its next call, without a break. -/
def step (program : Program Tid) (place : RegistryId) (s : Serial Tid) (t : Tid) : Serial Tid :=
  match program t (s.replies t) with
  | none => s
  | some call =>
    let (host, reply) := call.serve place s.host
    ⟨host, answer s.replies t reply⟩

/-- Threads make their calls in an order. -/
def run (program : Program Tid) (place : RegistryId) (h : Host) (order : List Tid) : Serial Tid :=
  order.foldl (step program place) (start h)

end Serial

namespace Machine

/-- Before any step. -/
def start (h : Host) : Machine Tid :=
  { host := h.quiet
    lock := none
    phase := fun _ => none
    replies := fun _ => []
    order := [] }

/-- **A thread has its turn.** Outside the lock it begins its next call,
which fails there or waits for the lock and takes it; under the lock the
call goes one step on; at its end the lock is let go. -/
def step (program : Program Tid) (place : RegistryId) (m : Machine Tid) (t : Tid) : Machine Tid :=
  match m.phase t with
  | none =>
    match program t (m.replies t) with
    | none => m
    | some call =>
      match call.enter place m.host with
      | .error failure =>
        { m with replies := answer m.replies t (.error failure), order := m.order ++ [t] }
      | .ok (entered, p) =>
        match m.lock with
        | some _ => m
        | none =>
          { m with
            host := entered
            lock := some t
            phase := Function.update m.phase t (some p)
            order := m.order ++ [t] }
  | some (.leaving reply) =>
    { m with
      lock := none
      phase := Function.update m.phase t none
      replies := answer m.replies t reply }
  | some p =>
    let (host, next) := p.advance place m.host
    { m with host, phase := Function.update m.phase t (some next) }

/-- Threads have their turns by a schedule. -/
def run (program : Program Tid) (place : RegistryId) (h : Host) (schedule : List Tid) :
    Machine Tid :=
  schedule.foldl (step program place) (start h)

end Machine

/-! ## What every step keeps -/

theorem answer_of_ne (replies : Tid → List Reply) {t u : Tid} (hne : u ≠ t) (reply : Reply) :
    answer replies t reply u = replies u := Function.update_of_ne hne _ _

/-- Replies to different threads may come in either order. -/
theorem answer_comm (replies : Tid → List Reply) {t u : Tid} (hne : t ≠ u) (a b : Reply) :
    answer (answer replies t a) u b = answer (answer replies u b) t a := by
  unfold answer
  rw [Function.update_of_ne hne.symm, Function.update_of_ne hne, Function.update_comm hne]

/-- One more call is made at the end. -/
theorem Serial.run_concat (program : Program Tid) (place : RegistryId) (h : Host)
    (order : List Tid) (t : Tid) :
    Serial.run program place h (order ++ [t]) =
      (Serial.run program place h order).step program place t := List.foldl_append

namespace Machine

/-- **A machine is orderly** if a thread with a call under way has the lock,
and no other; and if the calls in the order in which they took the lock, one
after another, lead to where the call under the lock would lead without a
break, or to where the machine is if there is none. -/
structure Orderly (program : Program Tid) (place : RegistryId) (h : Host) (m : Machine Tid) :
    Prop where
  place_lt : place.index < m.host.registries.length
  exclusive : ∀ t p, m.phase t = some p → m.lock = some t
  held : ∀ t, m.lock = some t → ∃ p, m.phase t = some p
  free : m.lock = none → m.host = (Serial.run program place h m.order).host.quiet ∧
    m.replies = (Serial.run program place h m.order).replies
  busy : ∀ t p, m.phase t = some p →
    (p.complete place m.host).1 = (Serial.run program place h m.order).host.quiet ∧
    answer m.replies t (p.complete place m.host).2 = (Serial.run program place h m.order).replies

variable {program : Program Tid} {place : RegistryId} {h : Host} {m : Machine Tid} {t : Tid}

theorem orderly_start (hplace : place.index < h.registries.length) :
    (start h : Machine Tid).Orderly program place h where
  place_lt := hplace
  exclusive := fun _ _ hp => nomatch hp
  held := fun _ hlock => nomatch hlock
  free := fun _ => ⟨rfl, rfl⟩
  busy := fun _ _ hp => nomatch hp

/-- While the lock is free no call is under way. -/
theorem Orderly.phase_eq_none (hm : m.Orderly program place h) (hlock : m.lock = none) (t : Tid) :
    m.phase t = none := by
  cases hp : m.phase t with
  | none => rfl
  | some p =>
    have hheld := hm.exclusive t p hp
    rw [hlock] at hheld
    cases hheld

/-- While a call is under way there is no other. -/
theorem Orderly.phase_eq_none_of_ne (hm : m.Orderly program place h) {p : Phase}
    (hp : m.phase t = some p) {u : Tid} (hne : u ≠ t) : m.phase u = none := by
  cases hq : m.phase u with
  | none => rfl
  | some q =>
    have hheld := hm.exclusive t p hp
    have hother := hm.exclusive u q hq
    rw [hheld] at hother
    exact absurd (Option.some.inj hother).symm hne

/-- A call that goes on while there is no other is the one that is found. -/
theorem eq_of_update_eq_some {phase : Tid → Option Phase} {p q : Phase} {u : Tid}
    (hothers : ∀ u, u ≠ t → phase u = none) (hq : Function.update phase t (some p) u = some q) :
    u = t ∧ q = p := by
  by_cases hu : u = t
  · subst hu
    rw [Function.update_self] at hq
    exact ⟨rfl, (Option.some.inj hq).symm⟩
  · rw [Function.update_of_ne hu, hothers u hu] at hq
    cases hq

/-- A thread outside the lock has been told what it is told in the serial
run: only the thread under the lock is still owed a reply. -/
theorem Orderly.replies_eq (hm : m.Orderly program place h) (hout : m.phase t = none) :
    m.replies t = (Serial.run program place h m.order).replies t := by
  cases hlock : m.lock with
  | none => rw [(hm.free hlock).2]
  | some u =>
    -- the serial run is one reply ahead, and that one is owed to `u`
    obtain ⟨p, hp⟩ := hm.held u hlock
    have hne : t ≠ u := by
      rintro rfl
      rw [hout] at hp
      cases hp
    rw [← (hm.busy u p hp).2, answer_of_ne _ hne]

/-- A call that fails before the lock fails in the serial run as well. -/
theorem Orderly.refuse (hm : m.Orderly program place h) (hout : m.phase t = none)
    {call : LockedCall} (hcall : program t (m.replies t) = some call) {failure : Failure}
    (henter : call.enter place m.host = .error failure) :
    ({ m with replies := answer m.replies t (.error failure), order := m.order ++ [t] } :
      Machine Tid).Orderly program place h := by
  have hserial : Serial.run program place h (m.order ++ [t]) =
      ⟨(Serial.run program place h m.order).host,
        answer (Serial.run program place h m.order).replies t (.error failure)⟩ := by
    rw [Serial.run_concat]
    unfold Serial.step
    rw [← hm.replies_eq hout, hcall]
    simp only
    rw [LockedCall.serve_of_enter_error (LockedCall.enter_eq_error henter _)]
  refine ⟨hm.place_lt, hm.exclusive, hm.held, fun hlock => ?_, fun u p hp => ?_⟩
  · obtain ⟨hhost, hreplies⟩ := hm.free hlock
    rw [hserial]
    exact ⟨hhost, congrArg (answer · t _) hreplies⟩
  -- another call may be under way: its reply comes later, and to another thread
  · obtain ⟨hhost, hreplies⟩ := hm.busy u p hp
    have hne : t ≠ u := by
      rintro rfl
      rw [hout] at hp
      cases hp
    rw [hserial]
    refine ⟨hhost, ?_⟩
    rw [answer_comm _ hne, hreplies]

/-- A call that takes the lock is the next one in the serial run. -/
theorem Orderly.take (hm : m.Orderly program place h) (hlock : m.lock = none)
    {call : LockedCall} (hcall : program t (m.replies t) = some call) {entered : Host} {p : Phase}
    (henter : call.enter place m.host = .ok (entered, p)) :
    ({ m with host := entered, lock := some t, phase := Function.update m.phase t (some p),
              order := m.order ++ [t] } : Machine Tid).Orderly program place h := by
  obtain ⟨hhost, hreplies⟩ := hm.free hlock
  have hout := hm.phase_eq_none hlock
  have hserial : Serial.run program place h (m.order ++ [t]) =
      ⟨(call.serve place (Serial.run program place h m.order).host).1,
        answer m.replies t (call.serve place (Serial.run program place h m.order).host).2⟩ := by
    rw [Serial.run_concat]
    unfold Serial.step
    rw [← hreplies, hcall]
  have hplace : place.index < entered.registries.length := by
    rw [LockedCall.registries_of_enter henter]
    exact hm.place_lt
  rw [hhost] at henter
  have hcomplete := LockedCall.complete_enter henter
  have hphase : ∀ u q, Function.update m.phase t (some p) u = some q → u = t ∧ q = p :=
    fun u q => eq_of_update_eq_some fun u _ => hout u
  refine ⟨hplace, fun u q hq => ?_, fun u hu => ?_, fun hnone => (nomatch hnone),
    fun u q hq => ?_⟩
  · rw [(hphase u q hq).1]
  · cases hu
    exact ⟨p, Function.update_self ..⟩
  · obtain ⟨rfl, rfl⟩ := hphase u q hq
    rw [hserial, hcomplete]
    exact ⟨rfl, rfl⟩

/-- A step under the lock leaves what the call comes to as it is. -/
theorem Orderly.advance (hm : m.Orderly program place h) {p : Phase} (hp : m.phase t = some p) :
    ({ m with host := (p.advance place m.host).1,
              phase := Function.update m.phase t (some (p.advance place m.host).2) } :
      Machine Tid).Orderly program place h := by
  have hlock := hm.exclusive t p hp
  have hphase : ∀ u q, Function.update m.phase t (some (p.advance place m.host).2) u = some q →
      u = t ∧ q = (p.advance place m.host).2 :=
    fun u q => eq_of_update_eq_some fun u hu => hm.phase_eq_none_of_ne hp hu
  refine ⟨?_, fun u q hq => ?_, fun u hu => ?_, fun hnone => ?_, fun u q hq => ?_⟩
  · rw [Phase.length_registries_advance]
    exact hm.place_lt
  · rw [(hphase u q hq).1]
    exact hlock
  · have heq : t = u := Option.some.inj (hlock.symm.trans hu)
    subst heq
    exact ⟨_, Function.update_self ..⟩
  · rw [hlock] at hnone
    cases hnone
  · obtain ⟨rfl, rfl⟩ := hphase u q hq
    rw [Phase.complete_advance hm.place_lt]
    exact hm.busy u p hp

/-- Letting go of the lock leaves the machine where the serial run is. -/
theorem Orderly.release (hm : m.Orderly program place h) {reply : Reply}
    (hp : m.phase t = some (.leaving reply)) :
    ({ m with lock := none, phase := Function.update m.phase t none,
              replies := answer m.replies t reply } : Machine Tid).Orderly program place h := by
  have hout : ∀ u, Function.update m.phase t none u = none := fun u => by
    by_cases hu : u = t
    · rw [hu, Function.update_self]
    · rw [Function.update_of_ne hu, hm.phase_eq_none_of_ne hp hu]
  have hnone : ∀ u q, Function.update m.phase t none u ≠ some q := fun u q hq => by
    rw [hout u] at hq
    cases hq
  exact ⟨hm.place_lt, fun u q hq => absurd hq (hnone u q), fun _ hu => (nomatch hu),
    fun _ => hm.busy t _ hp, fun u q hq => absurd hq (hnone u q)⟩

/-- **Every turn keeps the machine orderly.** -/
theorem Orderly.step (hm : m.Orderly program place h) (t : Tid) :
    (m.step program place t).Orderly program place h := by
  unfold Machine.step
  split
  · rename_i hout
    split
    · exact hm
    · rename_i call hcall
      split
      · rename_i failure henter
        exact hm.refuse hout hcall henter
      · rename_i entered p henter
        split
        · exact hm
        · rename_i hlock
          exact hm.take hlock hcall henter
  · rename_i reply hp
    exact hm.release hp
  · rename_i p _ hp
    exact hm.advance hp

/-- **Whatever the schedule, the machine is orderly.** -/
theorem orderly_run (program : Program Tid) (hplace : place.index < h.registries.length)
    (schedule : List Tid) : (run program place h schedule).Orderly program place h := by
  induction schedule using List.reverseRecOn with
  | nil => exact orderly_start hplace
  | append_singleton schedule t ih =>
    unfold run at *
    rw [List.foldl_append]
    exact ih.step t

/-! ## Every call returns -/

/-- A thread under the lock lets go of it when it has had enough turns. By
induction on the turns that its call needs. -/
theorem exists_release {n : Nat} {p : Phase} (hp : m.phase t = some p) (hn : p.turns ≤ n) :
    ∃ k reply, ((List.replicate k t).foldl (step program place) m).lock = none ∧
      ((List.replicate k t).foldl (step program place) m).replies = answer m.replies t reply := by
  induction n generalizing m p with
  | zero => cases p <;> simp only [Phase.turns] at hn <;> omega
  | succ n ih =>
    by_cases hleaving : ∃ reply, p = .leaving reply
    · obtain ⟨reply, rfl⟩ := hleaving
      refine ⟨1, reply, ?_⟩
      simp only [List.replicate_one, List.foldl_cons, List.foldl_nil, Machine.step, hp, and_self]
    · have hne : ∀ reply, p ≠ .leaving reply := fun reply heq => hleaving ⟨reply, heq⟩
      have hstep : m.step program place t =
          { m with host := (p.advance place m.host).1,
                   phase := Function.update m.phase t (some (p.advance place m.host).2) } := by
        unfold Machine.step
        rw [hp]
        cases p with
        | leaving reply => exact absurd rfl (hne reply)
        | _ => rfl
      have hnext : (m.step program place t).phase t = some (p.advance place m.host).2 := by
        rw [hstep]
        exact Function.update_self ..
      have hlt : (p.advance place m.host).2.turns < p.turns := Phase.turns_advance_lt hne
      obtain ⟨k, reply, hlock, hreplies⟩ := ih hnext (by omega)
      refine ⟨k + 1, reply, ?_⟩
      rw [List.replicate_succ, List.foldl_cons]
      refine ⟨hlock, hreplies.trans ?_⟩
      rw [hstep]

/-- **A call that finds the lock free returns** when its thread has had enough
turns, and leaves the lock free. -/
theorem exists_answer (hlock : m.lock = none) (hout : m.phase t = none) {call : LockedCall}
    (hcall : program t (m.replies t) = some call) :
    ∃ k reply, ((List.replicate k t).foldl (step program place) m).lock = none ∧
      ((List.replicate k t).foldl (step program place) m).replies = answer m.replies t reply := by
  cases henter : call.enter place m.host with
  | error failure =>
    refine ⟨1, .error failure, ?_⟩
    simp only [List.replicate_one, List.foldl_cons, List.foldl_nil, Machine.step, hout, hcall,
      henter]
    exact ⟨hlock, trivial⟩
  | ok found =>
    obtain ⟨entered, p⟩ := found
    have hstep : m.step program place t =
        { m with host := entered, lock := some t, phase := Function.update m.phase t (some p),
                 order := m.order ++ [t] } := by
      simp only [Machine.step, hout, hcall, henter, hlock]
    have hp : (m.step program place t).phase t = some p := by
      rw [hstep]
      exact Function.update_self ..
    obtain ⟨k, reply, hfree, hreplies⟩ := exists_release hp (Nat.le_refl p.turns)
    refine ⟨k + 1, reply, ?_⟩
    rw [List.replicate_succ, List.foldl_cons]
    refine ⟨hfree, hreplies.trans ?_⟩
    rw [hstep]

end Machine

/-! ## Many constructions of one kind -/

/-- Every thread constructs one metric set, from arguments of its own. -/
def constructOnce (args : Tid → Option Value × Option Config) : Program Tid := fun t replies =>
  match replies with
  | [] => some (.construct (args t).1 (args t).2)
  | _ :: _ => none

namespace Serial

/-- **Either nobody has constructed a set, or one thread has** and all others
that tried were refused its first series. -/
def FirstWins (place : RegistryId) (h : Host) (s : Serial Tid) : Prop :=
  (s.host = h ∧ ∀ t, s.replies t = []) ∨
  ∃ winner id, s.replies winner = [.ok (some id)] ∧
    (∀ t, t ≠ winner → s.replies t = [] ∨
      ∃ names, s.replies t = [.error (.conflict "hystrix_go_attempts" names)]) ∧
    s.host.Numbered ∧ s.host.registry place = (h.registry place).extend id Series.all ∧
    ∃ m, s.host.set? id = some m ∧ m.registered = true

variable {place : RegistryId} {h : Host} {args : Tid → Option Value × Option Config}

/-- With the series of a set in the registry, those of another clash from
the first one on. -/
theorem firstClash?_extend_all (r : Registry) (id : SetId) :
    (r.extend id Series.all).firstClash? Series.all = some (.events .attempt) := by
  have hclash : (r.extend id Series.all).clashes (Registry.claims (.events .attempt)) ≠ [] := by
    refine List.ne_nil_of_mem (a := "hystrix_go_attempts") (Registry.mem_clashes_iff.2 ⟨?_, ?_⟩)
    · decide +kernel
    · exact Registry.isTaken_extend.2
        (.inr ⟨.events .attempt, Series.mem_all _, by decide +kernel⟩)
  have hall : Series.all = .events .attempt :: Series.all.tail := rfl
  unfold Registry.firstClash?
  rw [hall, List.find?_cons_of_pos (by rw [← hall]; simpa using hclash)]

/-- A thread that has not called yet constructs a set. -/
theorem step_constructOnce {s : Serial Tid} {t : Tid} (ht : s.replies t = []) {config : Config}
    (hresolve : Config.resolve (args t).1 (args t).2 = .ok config) :
    s.step (constructOnce args) place t =
      ⟨(s.host.addSet place config).1,
        answer s.replies t ((s.host.addSet place config).2.map some)⟩ := by
  unfold step constructOnce
  rw [ht]
  simp only [LockedCall.serve, Host.construct, hresolve]

/-- **The first construction wins** and keeps what it won: as long as no
name was taken the next one succeeds, and after that none does. -/
theorem FirstWins.step (hplace : place.index < h.registries.length) (hnumbered : h.Numbered)
    (hfree : ∀ s, ∀ name ∈ Registry.claims s, (h.registry place).isTaken name = false)
    (hargs : ∀ t, ∃ config, Config.resolve (args t).1 (args t).2 = .ok config ∧ config.Accepted)
    {s : Serial Tid} (hs : s.FirstWins place h) (t : Tid) :
    (s.step (constructOnce args) place t).FirstWins place h := by
  obtain ⟨config, hresolve, haccepted⟩ := hargs t
  obtain ⟨buckets, hbuckets⟩ := haccepted.exists_buckets
  rcases hs with ⟨rfl, hnone⟩ | ⟨winner, id, hwon, hlost, hsnumbered, hregistry, m, hset, hm⟩
  · have hclear := Registry.firstClash?_eq_none_iff.2 hfree
    have hadded := Host.addSet_of_clear hnumbered hbuckets hclear
    have hkept := hnumbered.addSet place config
    rw [step_constructOnce (hnone t) hresolve]
    rw [hadded] at hkept ⊢
    -- nobody was there before: `t` is the winner
    refine .inr ⟨t, ⟨s.host.sets.length⟩, ?_, fun u hu => .inl ?_, hkept,
      Host.registry_setRegistry_self hplace, _, Host.set?_withSet_self, rfl⟩
    · simp only [answer, Function.update_self, hnone t]
      rfl
    · exact (answer_of_ne _ hu _).trans (hnone u)
  · have hname : (Series.events .attempt).fullName = "hystrix_go_attempts" := by decide +kernel
    have hclash := firstClash?_extend_all (h.registry place) id
    rw [← hregistry] at hclash
    by_cases ht : s.replies t = []
    -- `t` comes late: its first series clashes with that of the winner
    · have hne : winner ≠ t := by
        rintro rfl
        rw [hwon] at ht
        cases ht
      have hrefused := Host.addSet_of_clash hsnumbered hbuckets hclash
      have hkept := hsnumbered.addSet place config
      rw [step_constructOnce ht hresolve]
      rw [hrefused] at hkept ⊢
      obtain ⟨hlt, -⟩ := Host.set?_eq_some_iff.1 hset
      refine .inr ⟨winner, id, ?_, fun u hu => ?_, hkept, hregistry, m, ?_, hm⟩
      · exact (answer_of_ne _ hne _).trans hwon
      · by_cases hut : u = t
        · subst hut
          refine .inr ⟨(s.host.registry place).clashes (Registry.claims (.events .attempt)), ?_⟩
          rw [← hname]
          simp only [answer, Function.update_self, ht]
          rfl
        · simp only [answer_of_ne _ hut]
          exact hlost u hu
      · rw [Host.set?_write, Host.set?_withSet_of_lt hlt, hset]
    -- `t` has called once and calls no more
    · have hstays : s.step (constructOnce args) place t = s := by
        unfold Serial.step constructOnce
        cases hreplies : s.replies t with
        | nil => exact absurd hreplies ht
        | cons reply replies => rfl
      rw [hstays]
      exact .inr ⟨winner, id, hwon, hlost, hsnumbered, hregistry, m, hset, hm⟩

theorem firstWins_run (hplace : place.index < h.registries.length) (hnumbered : h.Numbered)
    (hfree : ∀ s, ∀ name ∈ Registry.claims s, (h.registry place).isTaken name = false)
    (hargs : ∀ t, ∃ config, Config.resolve (args t).1 (args t).2 = .ok config ∧ config.Accepted)
    (order : List Tid) : (run (constructOnce args) place h order).FirstWins place h := by
  induction order using List.reverseRecOn with
  | nil => exact .inl ⟨rfl, fun _ => rfl⟩
  | append_singleton order t ih =>
    rw [run_concat]
    exact ih.step hplace hnumbered hfree hargs t

end Serial

/-- **Every race can be run to its end**: some schedule lets the calls of any
number of threads return. -/
theorem exists_finished {place : RegistryId} {h : Host}
    (hplace : place.index < h.registries.length) (args : Tid → Option Value × Option Config)
    (threads : List Tid) :
    ∃ schedule, (Machine.run (constructOnce args) place h schedule).lock = none ∧
      ∀ t ∈ threads, (Machine.run (constructOnce args) place h schedule).replies t ≠ [] := by
  induction threads with
  | nil => exact ⟨[], rfl, fun t ht => (nomatch ht)⟩
  | cons t threads ih =>
    obtain ⟨schedule, hlock, hdone⟩ := ih
    by_cases ht : (Machine.run (constructOnce args) place h schedule).replies t = []
    · have hout := (Machine.orderly_run (constructOnce args) hplace schedule).phase_eq_none hlock t
      have hcall : constructOnce args t
          ((Machine.run (constructOnce args) place h schedule).replies t) =
            some (.construct (args t).1 (args t).2) := by
        rw [ht]
        rfl
      obtain ⟨k, reply, hfree, hreplies⟩ := Machine.exists_answer hlock hout hcall
      refine ⟨schedule ++ List.replicate k t, ?_, fun u hu => ?_⟩
      · unfold Machine.run at hfree ⊢
        rwa [List.foldl_append]
      · unfold Machine.run at hreplies hdone ⊢
        rw [List.foldl_append, hreplies]
        by_cases hut : u = t
        · subst hut
          simp [answer]
        · rw [answer_of_ne _ hut]
          exact hdone u ((List.mem_cons.1 hu).resolve_left hut)
    · refine ⟨schedule, hlock, fun u hu => ?_⟩
      rcases List.mem_cons.1 hu with rfl | hu
      · exact ht
      · exact hdone u hu

/-! ## What a race comes to -/

/-- **Races are serializable.** Whatever threads call and however their steps
are scheduled, whenever the lock is free the registries, the sets with what
they know of their registration, and all that was returned are what they
are when the calls are made one after another in the order in which they
took the lock. So when every thread constructs one set where no name is
taken, one of them makes it and all others are refused its first series. -/
theorem racing_calls_serialize {place : RegistryId} {h : Host}
    (hplace : place.index < h.registries.length) :
    (∀ (program : Program Tid) (schedule : List Tid),
      let m := Machine.run program place h schedule
      let s := Serial.run program place h m.order
      m.lock = none →
        m.host.registries = s.host.registries ∧ m.host.sets = s.host.sets ∧
          m.replies = s.replies) ∧
    (h.Numbered → Nonempty Tid →
      (∀ s, ∀ name ∈ Registry.claims s, (h.registry place).isTaken name = false) →
      ∀ args : Tid → Option Value × Option Config,
      (∀ t, ∃ config, Config.resolve (args t).1 (args t).2 = .ok config ∧ config.Accepted) →
      ∀ schedule,
        let m := Machine.run (constructOnce args) place h schedule
        m.lock = none → (∀ t, m.replies t ≠ []) →
          ∃ winner id, m.replies winner = [.ok (some id)] ∧
            (∀ t, t ≠ winner →
              ∃ names, m.replies t = [.error (.conflict "hystrix_go_attempts" names)]) ∧
            m.host.registry place = (h.registry place).extend id Series.all ∧
            ∃ made, m.host.set? id = some made ∧ made.registered = true) := by
  have hserial : ∀ (program : Program Tid) (schedule : List Tid),
      let m := Machine.run program place h schedule
      m.lock = none → m.host = (Serial.run program place h m.order).host.quiet ∧
        m.replies = (Serial.run program place h m.order).replies :=
    fun program schedule hlock => (Machine.orderly_run program hplace schedule).free hlock
  refine ⟨?_, ?_⟩
  · intro program schedule m s hlock
    obtain ⟨hhost, hreplies⟩ := hserial program schedule hlock
    have hregistries : m.host.registries = s.host.quiet.registries :=
      congrArg Host.registries hhost
    have hsets : m.host.sets = s.host.quiet.sets := congrArg Host.sets hhost
    exact ⟨hregistries, hsets, hreplies⟩
  · intro hnumbered hsome hfree args hargs schedule m hlock hdone
    obtain ⟨hhost, hreplies⟩ := hserial (constructOnce args) schedule hlock
    have hwins := Serial.firstWins_run hplace hnumbered hfree hargs m.order
    rcases hwins with ⟨-, hnone⟩ | ⟨winner, id, hwon, hlost, -, hregistry, made, hset, hmade⟩
    · obtain ⟨t⟩ := hsome
      exact absurd (by rw [hreplies, hnone]) (hdone t)
    · refine ⟨winner, id, by rw [hreplies, hwon], fun t ht => ?_, ?_, made, ?_, hmade⟩
      · rcases hlost t ht with hnone | hrefused
        · exact absurd (by rw [hreplies, hnone]) (hdone t)
        · rw [hreplies]
          exact hrefused
      · rw [hhost]
        exact hregistry
      · rw [hhost]
        exact hset

/-- Of two threads that race for the registry of the process one wins, by a
schedule that gives both of them turns enough. -/
theorem racing_calls_serialize_pair :
    ∃ (args : Bool → Option Value × Option Config) (schedule : List Bool) (winner : Bool),
      let m := Machine.run (constructOnce args) .default .initial schedule
      (∃ id, m.replies winner = [.ok (some id)]) ∧
        ∃ names, m.replies (!winner) = [.error (.conflict "hystrix_go_attempts" names)] := by
  let args : Bool → Option Value × Option Config := fun _ => (none, none)
  have hplace : RegistryId.default.index < Host.initial.registries.length := by decide
  have hfree : ∀ s, ∀ name ∈ Registry.claims s,
      (Host.initial.registry .default).isTaken name = false := fun _ _ _ => rfl
  have hargs : ∀ t, ∃ config,
      Config.resolve (args t).1 (args t).2 = .ok config ∧ config.Accepted :=
    fun _ => ⟨.empty, rfl, Config.accepted_empty⟩
  obtain ⟨schedule, hlock, hreplied⟩ := exists_finished hplace args [false, true]
  obtain ⟨winner, id, hwon, hlost, -⟩ := (racing_calls_serialize hplace).2 Host.numbered_initial
    ⟨false⟩ hfree args hargs schedule hlock fun t => hreplied t (by cases t <;> decide)
  exact ⟨args, schedule, winner, ⟨id, hwon⟩, hlost (!winner) (by simp)⟩

end CommandMetrics
