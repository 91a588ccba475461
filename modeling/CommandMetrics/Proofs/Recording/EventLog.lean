import CommandMetrics.Host.Calls
import CommandMetrics.Proofs.Recording.Frame
import CommandMetrics.Proofs.Recording.Operation
/-!
# Event logs — the cells of a set are read off what was called

Operations on a set come in any order, on any number of recorders, and
some of them fail. What they leave in the set is nonetheless read off the
log of the calls alone: `set?_operate` says that an operation takes its
steps and no others, `set?_operateAll` carries that through a run, and
`accounts_operateAll` reads the cells.
-/

namespace CommandMetrics

namespace Host

/-- **Carries out an operation on a metric set.** -/
def operate (h : Host) (id : SetId) : SetOperation → Outcome Unit
  | .makeRecorder route name => Outcome.dropped (h.newRecorder route id name)
  | .ensure command => h.ensureCommand id (.text command)
  | .call command method arguments => h.call (.recorder ⟨command, id⟩) method arguments
  | .unregister => h.unregisterSet id

/-- Carries out operations one after the other, whether or not they fail. -/
def operateAll (h : Host) (id : SetId) (log : List SetOperation) : Host :=
  log.foldl (fun h op => (h.operate id op).1) h

variable {h : Host} {id : SetId} {m : MetricSet}

/-! ## One operation -/

/-- Making a recorder makes sure of the command that it is for, and leaves
the set alone if there is none. -/
theorem set?_newRecorder (hset : h.set? id = some m) (route : RecorderRoute) (name : Value) :
    (h.newRecorder route id name).1.set? id =
      some (m.play (SetOperation.makeRecorder route name).steps) := by
  have hsteps : (SetOperation.makeRecorder route name).steps =
      ((route.check name).toOption.map ensureSteps).getD [] := List.append_nil _
  rw [hsteps]
  unfold newRecorder
  cases route.check name with
  | error failure => exact hset
  | ok command =>
    simp only [ensureCommand_eq hset, Value.asText_text]
    exact set?_putSet_self hset _

/-- A call of a recorder records what it reports. -/
theorem set?_call (hset : h.set? id = some m) (command : Text) (method : String)
    (arguments : List Value) :
    (h.call (.recorder ⟨command, id⟩) method arguments).1.set? id =
      some (m.play (SetOperation.call command method arguments).steps) := by
  simp only [call, collectorKind?, SetOperation.steps, SetOperation.ensured?,
    SetOperation.reported?, Option.map_none, Option.getD_none, List.nil_append]
  rcases CollectorKind.recorder.signal? method arguments with fault | signal?
  · exact hset
  · cases signal? with
    | none => exact hset
    | some signal =>
      simp only [report, hset]
      rw [set?_putSet_self hset, MetricSet.record_eq_play]
      rfl

/-- Leaving the registry changes no other set, and of this one at most that
it is registered. -/
theorem set?_unregisterSet (hset : h.set? id = some m) (other : SetId) :
    ∃ b, (h.unregisterSet other).1.set? id = some { m with registered := b } ∧
      (b = true → m.registered = true) ∧ (other ≠ id → b = m.registered) := by
  have hstays : ∃ b, some m = some { m with registered := b } ∧
      (b = true → m.registered = true) ∧ (other ≠ id → b = m.registered) :=
    ⟨m.registered, rfl, fun hb => hb, fun _ => rfl⟩
  unfold unregisterSet
  cases hother : h.set? other with
  | none => rwa [hset]
  | some found =>
    dsimp only
    split
    · rwa [hset]
    · split
      · rwa [set?_setRegistry, hset]
      · rw [set?_write]
        by_cases heq : other = id
        · subst heq
          rw [hset] at hother
          cases hother
          exact ⟨false, set?_putSet_self hset _, nofun, fun hne => absurd rfl hne⟩
        · rw [set?_putSet_of_ne (Ne.symm heq), set?_setRegistry, hset]
          exact hstays

/-- **An operation takes its steps**, and changes nothing else in the set
than whether it is registered. -/
theorem set?_operate (hset : h.set? id = some m) (op : SetOperation) :
    ∃ registered, (h.operate id op).1.set? id = some { m.play op.steps with registered } := by
  have hkept : ∀ {found : Option MetricSet} {steps : List Primitive},
      found = some (m.play steps) →
        ∃ registered, found = some { m.play steps with registered } :=
    fun {_ steps} hfound => ⟨(m.play steps).registered, hfound⟩
  cases op with
  | makeRecorder route name => exact hkept (set?_newRecorder hset route name)
  | ensure command =>
    have hsteps : (SetOperation.ensure command).steps = ensureSteps command := List.append_nil _
    rw [operate, ensureCommand_eq hset, Value.asText_text, hsteps]
    exact hkept (set?_putSet_self hset _)
  | call command method arguments => exact hkept (set?_call hset command method arguments)
  | unregister =>
    have hsteps : SetOperation.unregister.steps = [] := rfl
    obtain ⟨registered, hleft, -⟩ := set?_unregisterSet hset id
    rw [hsteps]
    exact ⟨registered, hleft⟩

/-- **A duration is accepted exactly if it has seconds**, which are those
that the log tells. -/
theorem operate_accepts_iff (hset : h.set? id = some m) {method : Method}
    (hmethod : method = .totalDuration ∨ method = .runDuration) (command : Text)
    (duration : Value) :
    (h.operate id (.call command method.name [duration])).2 = .ok () ↔
      ∃ x, (SetOperation.call command method.name [duration]).seconds? method command = some x := by
  have hseconds : (SetOperation.call command method.name [duration]).seconds? method command =
      (Duration.seconds duration).toOption := if_pos ⟨rfl, rfl⟩
  rw [hseconds]
  rcases hmethod with rfl | rfl
  · have hsignal := CollectorKind.signal?_recorder_eq_totalDuration_iff.2
      ⟨rfl, (rfl : [duration] = _)⟩
    simp only [operate, call, collectorKind?, hsignal, report, hset, MetricSet.record]
    cases Duration.seconds duration <;> simp [Except.mapError, Except.toOption]
  · have hsignal := CollectorKind.signal?_recorder_eq_runDuration_iff.2
      ⟨rfl, (rfl : [duration] = _)⟩
    simp only [operate, call, collectorKind?, hsignal, report, hset, MetricSet.record]
    cases Duration.seconds duration <;> simp [Except.mapError, Except.toOption]

/-! ## A run -/

/-- **A run takes the steps of its log.** -/
theorem set?_operateAll (hset : h.set? id = some m) (log : List SetOperation) :
    ∃ registered, (h.operateAll id log).set? id =
      some { m.play (SetOperation.logSteps log) with registered } := by
  induction log generalizing h m with
  | nil => exact ⟨m.registered, hset⟩
  | cons op log ih =>
    obtain ⟨registered, hop⟩ := set?_operate hset op
    obtain ⟨registered', hlog⟩ := ih hop
    refine ⟨registered', ?_⟩
    rw [SetOperation.logSteps, List.flatMap_cons, MetricSet.play_append]
    rw [MetricSet.play_registered] at hlog
    exact hlog

end Host

/-! ## What the cells tell -/

open SetOperation in
/-- **The cells of a command account for a log**: each counter went up by
one for each call of its own event, the gauge shows the last total duration
that was accepted, and the histogram holds the run durations that were. -/
structure MetricSet.Accounts (m : MetricSet) (log : List SetOperation) (command : Text) : Prop
    where
  counter : ∀ e, (m.counters.get e).get? command = some (Number.ticks (calls log e command))
  counter_exact : ∀ e, calls log e command ≤ twoPow 53 →
    (m.counters.get e).get? command = some (Number.ofInt (calls log e command))
  gauge : m.totalDuration.get? command = some ((totals log command).getLast?.getD 0)
  histogram : ∃ runs, m.runDuration.get? command = some runs ∧
    runs.Holds m.buckets (observations log command)

namespace MetricSet

/-- **A set that was played a log accounts for it**, as soon as the command
was used. -/
theorem accounts_play {m : MetricSet} (hm : m.Unused) (hb : Bounds.Climbing m.buckets)
    (hlast : m.buckets.getLast? = some (.infinity false)) {log : List SetOperation}
    {command : Text} (hused : ∃ op ∈ log, op.uses command = true) :
    (m.play (SetOperation.logSteps log)).Accounts log command := by
  have hmem : ∀ s, command ∈ (m.play (SetOperation.logSteps log)).commands s := fun s => by
    obtain ⟨op, hop, hop_uses⟩ := hused
    refine (mem_commands_play hm _ s command).2 ⟨.find s command, ?_, rfl, rfl⟩
    exact List.mem_flatMap.2 ⟨op, hop, SetOperation.find_mem_steps hop_uses s⟩
  have hcounter : ∀ e, ((m.play (SetOperation.logSteps log)).counters.get e).get? command =
      some (Number.ticks (SetOperation.calls log e command)) := fun e => by
    rw [Children.get?_eq_some_getD (hmem (.events e)) 0, get_counters_play hm,
      SetOperation.count_logSteps]
  refine ⟨hcounter, fun e he => ?_, ?_, ?_⟩
  · rw [hcounter, Number.ticks_eq_ofInt he]
  · rw [Children.get?_eq_some_getD (hmem .totalDuration) 0, get_totalDuration_play hm,
      SetOperation.filterMap_logSteps log (fun op => op.filterMap_total?_steps command)]
    rfl
  · refine ⟨_, Children.get?_eq_some_getD (hmem .runDuration) (.empty m.buckets), ?_⟩
    rw [get_runDuration_play hm,
      SetOperation.filterMap_logSteps log (fun op => op.filterMap_summed?_steps command),
      SetOperation.filterMap_logSteps log (fun op => op.filterMap_counted?_steps command),
      buckets_play]
    exact Histogram.holds_tallied hb hlast _

end MetricSet

namespace Host

/-- A set that was just constructed is unused, and its buckets climb to the
infinite one. -/
theorem set?_construct {h made : Host} {registry : RegistryId} {bounds : Option Value}
    {config : Option Config} {id : SetId}
    (hmade : h.construct registry bounds config = (made, .ok id)) :
    ∃ m, made.set? id = some m ∧ m.Unused ∧ Bounds.Climbing m.buckets ∧
      m.buckets.getLast? = some (.infinity false) := by
  unfold construct at hmade
  split at hmade
  · cases hmade
  · rename_i config _
    unfold addSet at hmade
    dsimp only at hmade
    split at hmade
    · cases hmade
    · rename_i buckets hbuckets
      split at hmade
      · cases hmade
        have hunused := MetricSet.unused_fresh registry config.boundsInForce buckets
        exact ⟨_, List.getElem?_concat_length, fun s => hunused s, Bounds.climbing_buckets hbuckets,
          Bounds.getLast?_buckets hbuckets⟩
      · cases hmade

/-- **The cells of a set are read off the log.** Whatever operations are
carried out on a set from its construction on, in any order and accepted or
not, a command that was used at least once has in every cell what the log
tells about it. -/
theorem accounts_operateAll {h made : Host} {registry : RegistryId} {bounds : Option Value}
    {config : Option Config} {id : SetId}
    (hmade : h.construct registry bounds config = (made, .ok id))
    (log : List SetOperation) {command : Text} (hused : ∃ op ∈ log, op.uses command = true) :
    ∃ m, (made.operateAll id log).set? id = some m ∧ m.Accounts log command := by
  obtain ⟨m, hset, hunused, hb, hlast⟩ := set?_construct hmade
  obtain ⟨registered, hrun⟩ := set?_operateAll hset log
  obtain ⟨hcounter, hexact, hgauge, hhistogram⟩ := MetricSet.accounts_play hunused hb hlast hused
  exact ⟨_, hrun, hcounter, hexact, hgauge, hhistogram⟩

/-- A set of the process that counts two attempts, one of them under its
second name, and refuses a duration. -/
theorem accounts_operateAll_initial :
    let log := [.makeRecorder .direct (.text "ping"), .call "ping" "record_attempt" [], .unregister,
      .call "ping" "increment_attempts" [], .call "ping" "update_total_duration" [.flag true]]
    ∃ made m, Host.initial.construct .default none none = (made, .ok ⟨0⟩) ∧
      (made.operateAll ⟨0⟩ log).set? ⟨0⟩ = some m ∧
      (m.counters.get .attempt).get? "ping" = some (Number.ofInt ↑(2 : Nat)) ∧
      m.totalDuration.get? "ping" = some 0 := by
  intro log
  have hresult : (Host.initial.construct .default none none).2.toOption = some ⟨0⟩ := by
    decide +kernel
  obtain ⟨made, hmade⟩ := exists_eq_ok hresult
  have hused : ∃ op ∈ log, op.uses "ping" = true := ⟨_, List.mem_cons_self, by decide⟩
  obtain ⟨m, hset, haccounts⟩ := accounts_operateAll hmade log hused
  have hcalls : SetOperation.calls log .attempt "ping" = 2 := by decide +kernel
  have htotals : SetOperation.totals log "ping" = [] := rfl
  have hcounter := haccounts.counter_exact .attempt
  have hgauge := haccounts.gauge
  rw [hcalls] at hcounter
  rw [htotals] at hgauge
  exact ⟨made, m, hmade, hset, hcounter (by decide +kernel), hgauge⟩

end Host

end CommandMetrics
