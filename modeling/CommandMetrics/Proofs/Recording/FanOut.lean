import CommandMetrics.Proofs.Recording.Delivery
import Mathlib.Data.List.Forall2
/-!
# Fan-out — one trace for many collectors

What a metric set was told before and what it is told through a roster
stand one behind the other in its log, so its cells advance by multiples
of the trace (`MetricSet.Advanced`): by as many as its factory stands on the
roster. Sinks are left with the trace itself, commands other than the one
that is told of stay as they are, and so does every set that is not on the
roster (`fan_out`).
-/

namespace CommandMetrics

/-! ## What the cells tell -/

open SetOperation in
/-- **The cells of a command advanced** by a trace, so many times over, from
what a log had told before: the counters by multiples of the events, and
each bucket by multiples of the run durations that do not exceed its bound,
exactly as far as counting is; the gauge shows the last total duration, if
there was one. A command that was not there before counts as one at zero. -/
structure MetricSet.Advanced (before after : MetricSet) (log : List SetOperation)
    (command : Text) (times : Nat) (signals : List Signal) : Prop where
  counter : ∀ e,
    ((before.counters.get e).get? command).getD 0 = Number.ticks (calls log e command) ∧
    (after.counters.get e).get? command =
      some (Number.ticks (calls log e command + times * signals.countP (Signal.isEvent e)))
  counter_exact : ∀ e,
    calls log e command + times * signals.countP (Signal.isEvent e) ≤ twoPow 53 →
      ((before.counters.get e).get? command).getD 0 = Number.ofInt (calls log e command) ∧
      (after.counters.get e).get? command = some (Number.ofInt
        (calls log e command + times * signals.countP (Signal.isEvent e) : Nat))
  gauge : after.totalDuration.get? command =
    some ((signals.filterMap (Signal.seconds? .totalDuration)).getLast?.getD
      ((before.totalDuration.get? command).getD 0))
  buckets : after.buckets = before.buckets
  histogram : ∃ runs, after.runDuration.get? command = some runs ∧
    ((before.runDuration.get? command).getD (.empty before.buckets)).Holds before.buckets
      (observations log command) ∧
    runs.Holds before.buckets (observations log command ++
      repeated times (signals.filterMap (Signal.seconds? .runDuration))) ∧
    ((observations log command).length +
        times * (signals.filterMap (Signal.seconds? .runDuration)).length ≤ twoPow 53 →
      ((before.runDuration.get? command).getD (.empty before.buckets)).cumulative =
        before.buckets.map (fun bound => Number.ofInt
          ((observations log command).countP fun x => decide (x ≤ bound) : Nat)) ∧
      runs.cumulative = before.buckets.map fun bound => Number.ofInt
        ((observations log command).countP (fun x => decide (x ≤ bound)) +
          times * (signals.filterMap (Signal.seconds? .runDuration)).countP
            (fun x => decide (x ≤ bound)) : Nat))

namespace Host

variable {h after made : Host} {id : SetId} {m : MetricSet} {command : Text} {sink : SinkId}
variable {collectors : List Collector} {cs : List Call} {acts later : List Act} {times : Nat}

open SetOperation in
/-- **Cells read what the log tells**, also where they are still to come. -/
theorem reads_of_run (hset : (initial.run acts).set? id = some m) (command : Text) :
    (∀ e, ((m.counters.get e).get? command).getD 0 =
      Number.ticks (calls (logOf id initial acts) e command)) ∧
    (m.totalDuration.get? command).getD 0 =
      (totals (logOf id initial acts) command).getLast?.getD 0 ∧
    ((m.runDuration.get? command).getD (.empty m.buckets)).Holds m.buckets
      (observations (logOf id initial acts) command) := by
  obtain ⟨new, b, hnew, rfl⟩ := exists_new_of_run hset
  have hbuckets : (new.play (logSteps (logOf id initial acts))).buckets = new.buckets :=
    MetricSet.buckets_play new _
  refine ⟨fun e => ?_, ?_, ?_⟩
  · rw [← count_logSteps]
    exact MetricSet.get_counters_play hnew.unused _ e command
  · rw [totals, ← filterMap_logSteps _ fun op => op.filterMap_total?_steps command]
    exact MetricSet.get_totalDuration_play hnew.unused _ command
  · dsimp only
    rw [hbuckets, MetricSet.get_runDuration_play hnew.unused,
      filterMap_logSteps _ (fun op => op.filterMap_summed?_steps command),
      filterMap_logSteps _ (fun op => op.filterMap_counted?_steps command)]
    exact Histogram.holds_tallied hnew.climbing hnew.infinite _

/-- What a set is told of a trace for one command that it is told several
times over: it makes sure of the command and takes the calls. -/
def toldTimes (command : Text) (times : Nat) (cs : List Call) : List SetOperation :=
  List.replicate times (.makeRecorder .collector (.text command)) ++
    (repeated times cs).map (Call.on command)

section ToldTimes

variable (command : Text) (times : Nat) (cs : List Call)

open SetOperation in
/-- The calls among it are multiples of those of the trace, -/
theorem calls_toldTimes (e : Event) : calls (toldTimes command times cs) e command =
    times * (cs.filterMap Call.signal?).countP (Signal.isEvent e) := by
  have hnone : (List.replicate times (makeRecorder .collector (.text command))).countP
      (isCall e command) = 0 := List.countP_eq_zero.2 fun op hop => by
    rw [List.eq_of_mem_replicate hop]
    exact Bool.false_ne_true
  have htold := Call.calls_map_on (repeated times cs) e command
  rw [filterMap_repeated, countP_repeated] at htold
  unfold calls at *
  rw [toldTimes, List.countP_append, hnone, htold, Nat.zero_add]

open SetOperation in
/-- and so are the durations. -/
theorem filterMap_toldTimes {method : Method}
    (hmethod : method = .totalDuration ∨ method = .runDuration) :
    (toldTimes command times cs).filterMap (seconds? method command) =
      repeated times ((cs.filterMap Call.signal?).filterMap (Signal.seconds? method)) := by
  have hnone : (List.replicate times (makeRecorder .collector (.text command))).filterMap
      (seconds? method command) = [] :=
    List.filterMap_eq_nil_iff.2 fun op hop => by
      rw [List.eq_of_mem_replicate hop]
      rfl
  rw [toldTimes, List.filterMap_append, hnone, List.nil_append,
    Call.filterMap_seconds?_map_on hmethod, filterMap_repeated, filterMap_repeated]

end ToldTimes

open SetOperation in
/-- **Cells that account for a trace several times over have advanced by
it**, from where they read what was told before. -/
theorem advanced_of_accounts {m' : MetricSet} {log : List SetOperation} (htimes : 0 < times)
    (hreads : ∀ e, ((m.counters.get e).get? command).getD 0 = Number.ticks (calls log e command))
    (hgauge : (m.totalDuration.get? command).getD 0 = (totals log command).getLast?.getD 0)
    (hholds : ((m.runDuration.get? command).getD (.empty m.buckets)).Holds m.buckets
      (observations log command))
    (hbuckets : m'.buckets = m.buckets)
    (haccounts : m'.Accounts (log ++ toldTimes command times cs) command) :
    m.Advanced m' log command times (cs.filterMap Call.signal?) := by
  have hcalls : ∀ e, calls (log ++ toldTimes command times cs) e command =
      calls log e command + times * (cs.filterMap Call.signal?).countP (Signal.isEvent e) := by
    intro e
    rw [← calls_toldTimes command]
    exact List.countP_append
  have htotals : totals (log ++ toldTimes command times cs) command = totals log command ++
      repeated times ((cs.filterMap Call.signal?).filterMap (Signal.seconds? .totalDuration)) := by
    rw [← filterMap_toldTimes command _ _ (.inl rfl)]
    exact List.filterMap_append
  have hobserved : observations (log ++ toldTimes command times cs) command =
      observations log command ++
        repeated times ((cs.filterMap Call.signal?).filterMap (Signal.seconds? .runDuration)) := by
    rw [← filterMap_toldTimes command _ _ (.inr rfl)]
    exact List.filterMap_append
  obtain ⟨runs, hget, hafter⟩ := haccounts.histogram
  rw [hobserved, hbuckets] at hafter
  refine ⟨fun e => ⟨hreads e, ?_⟩, fun e hle => ⟨?_, ?_⟩, ?_, hbuckets, runs, hget, hholds, hafter,
    fun hle => ⟨hholds.cumulative (by omega), ?_⟩⟩
  · rw [← hcalls]
    exact haccounts.counter e
  · rw [hreads e, Number.ticks_eq_ofInt (by omega)]
  · rw [← hcalls] at hle ⊢
    exact haccounts.counter_exact e hle
  · rw [haccounts.gauge, hgauge, htotals, List.getLast?_append, getLast?_repeated _ _ htimes,
      Option.getD_or]
  · rw [hafter.cumulative (by rw [List.length_append, length_repeated]; exact hle)]
    simp only [List.countP_append, countP_repeated]

open SetOperation in
/-- Nothing of it is for another command. -/
theorem command_of_mem_toldTimes (hne : command ≠ "") (times : Nat) (cs : List Call) :
    ∀ p ∈ logSteps (toldTimes command times cs), p.command = command := by
  intro p hp
  obtain ⟨op, hop, hp⟩ := List.mem_flatMap.1 hp
  rcases List.mem_append.1 hop with hmakes | hcalls
  · rw [List.eq_of_mem_replicate hmakes, steps_makeRecorder hne] at hp
    exact MetricSet.command_of_mem_ensureSteps p hp
  · obtain ⟨c, -, rfl⟩ := List.mem_map.1 hcalls
    exact MetricSet.command_of_mem_callSteps command c.method.name c.arguments p hp

/-- **A set that is told a trace several times over advances by it** as often,
and in no other command. What it was told before and what it is told now
stand one behind the other in its log. -/
theorem advanced_of_logOf (hset : (initial.run acts).set? id = some m) (hne : command ≠ "")
    (htimes : 0 < times) (hlog : logOf id (initial.run acts) later = toldTimes command times cs) :
    ∃ m', ((initial.run acts).run later).set? id = some m' ∧
      m.Advanced m' (logOf id initial acts) command times (cs.filterMap Call.signal?) ∧
      ∀ other, other ≠ command → m'.SameCells m other := by
  obtain ⟨b, hrun, -, -⟩ := set?_run hset later
  rw [hlog] at hrun
  have hused : ∃ op ∈ logOf id initial acts ++ toldTimes command times cs,
      op.uses command = true := by
    refine ⟨.makeRecorder .collector (.text command), ?_, by simp [SetOperation.uses, hne]⟩
    exact List.mem_append_right _ (List.mem_append_left _ (List.mem_replicate.2 ⟨by omega, rfl⟩))
  obtain ⟨hcounter, hexact, hgauge, hhistogram⟩ := accounts_play_of_run hset _ hused
  obtain ⟨hreads, hgauge', hholds⟩ := reads_of_run hset command
  refine ⟨_, hrun, advanced_of_accounts htimes hreads hgauge' hholds (MetricSet.buckets_play m _)
    ⟨hcounter, hexact, hgauge, hhistogram⟩, fun other hother => ?_⟩
  obtain ⟨hcells, hcell, hruns⟩ :=
    MetricSet.sameCells_play (m := m) (command_of_mem_toldTimes hne times cs) hother
  exact ⟨hcells, hcell, hruns⟩

/-! ## Fan-out -/

/-- **A collector that a factory made** is there, and it is for the command. -/
structure MadeFor (h : Host) (command : Text) (collector : Collector) : Prop where
  hears : h.Hears collector
  named : h.collectorCommand? collector = some command
  records : ∀ r, collector = .recorder r → r.command = command
  empty : h.collectorKind? collector = some .memory →
    ∃ sink, collector = .sink sink ∧ h.sink? sink = some (.memory command .empty)

theorem madeFor_of_delivers {factory : Factory} {collector : Collector}
    (hdelivers : factory.Delivers h command collector) : h.MadeFor command collector := by
  cases factory with
  | recorders set =>
    obtain ⟨rfl, m, hset⟩ := hdelivers
    refine ⟨⟨m, hset⟩, rfl, fun r hr => ?_, fun hkind => by cases hkind⟩
    cases hr
    rfl
  | memory =>
    obtain ⟨sink, rfl, hsink⟩ := hdelivers
    refine ⟨⟨_, hsink⟩, ?_, fun r hr => (nomatch hr), fun _ => ⟨sink, rfl, hsink⟩⟩
    rw [collectorCommand?, hsink]
    rfl
  | silent =>
    obtain ⟨sink, rfl, hsink⟩ := hdelivers
    refine ⟨⟨_, hsink⟩, ?_, fun r hr => (nomatch hr), fun hkind => ?_⟩
    · rw [collectorCommand?, hsink]
      rfl
    · rw [collectorKind?, hsink] at hkind
      cases hkind
  | scripted label script => exact hdelivers.elim

theorem madeFor_of_mem {factories : List Factory} {collector : Collector}
    (hdelivered : List.Forall₂ (Factory.Delivers h command) factories collectors)
    (hmem : collector ∈ collectors) : h.MadeFor command collector := by
  induction hdelivered with
  | nil => cases hmem
  | cons hdelivers hrest ih =>
    rcases List.mem_cons.1 hmem with rfl | htail
    · exact madeFor_of_delivers hdelivers
    · exact ih htail

/-- Telling collectors changes the command of none. -/
theorem collectorCommand?_run_deliveries {collector : Collector}
    (hmade : h.MadeFor command collector) (hcount : ∀ sink, collector = .sink sink →
      collectors.count (.sink sink) = 1) (cs : List Call) :
    (h.run (deliveries collectors cs)).collectorCommand? collector = some command := by
  cases collector with
  | recorder r => exact hmade.named
  | sink sink =>
    obtain ⟨s, hsink⟩ := hmade.hears
    have hcommand := hmade.named
    rw [collectorCommand?, hsink] at hcommand
    rw [collectorCommand?, sink?_run_deliveries hsink (hcount sink rfl), Option.map_some,
      Sink.command_hear]
    exact hcommand

/-- **A trace goes to all collectors of a roster**, and to nobody else. After
any run, let a roster hold factories of metric sets and of sinks, in any
order and several times over. Asked for the collectors of a command it
makes one of each, all for that command, and they accept a trace that is
accepted call by call. A sink in memory is left with the trace. A metric
set advances by the trace as many times over as its factory stands on the
roster, in the cells of that command and no other; a set that is not on the
roster stays as it is. -/
theorem fan_out {roster : RosterId}
    (hroster : ∀ factory ∈ (initial.run acts).roster roster, factory.Ready (initial.run acts))
    (hne : command ≠ "") (haccepted : ∀ c ∈ cs, c.verdict .recorder = .ok ()) :
    ∃ made collectors after,
      (initial.run acts).initializeCollectors roster (.text command) = (made, .ok collectors) ∧
      fanOut collectors cs made = (after, .ok ()) ∧
      List.Forall₂ (Factory.Delivers made command) ((initial.run acts).roster roster) collectors ∧
      (∀ collector ∈ collectors, made.collectorCommand? collector = some command ∧
        after.collectorCommand? collector = some command) ∧
      (∀ collector ∈ collectors, made.collectorKind? collector = some .memory →
        ∃ taken, after.snapshot collector = .ok taken ∧ taken.snapshot.command = command ∧
          (∀ e, taken.snapshot.counts.get e =
            (cs.filterMap Call.signal?).countP (Signal.isEvent e)) ∧
          taken.snapshot.totalDuration =
            ((cs.filterMap Call.signal?).filterMap (Signal.seconds? .totalDuration)).getLast?.getD
              0 ∧
          taken.snapshot.runDurations =
            (cs.filterMap Call.signal?).filterMap (Signal.seconds? .runDuration)) ∧
      ∀ set m, (initial.run acts).set? set = some m → ∃ m', after.set? set = some m' ∧
        (0 < ((initial.run acts).roster roster).countP (Factory.isOf set) →
          m.Advanced m' (logOf set initial acts) command
            (((initial.run acts).roster roster).countP (Factory.isOf set))
            (cs.filterMap Call.signal?)) ∧
        (∀ other, other ≠ command → m'.SameCells m other) ∧
        (((initial.run acts).roster roster).countP (Factory.isOf set) = 0 → m' = m) := by
  obtain ⟨made, collectors, hmade, hdelivered, -, hsinks⟩ :=
    makeEach_of_ready hroster hne roster
  have hfor : ∀ collector ∈ collectors, made.MadeFor command collector := fun collector hmem =>
    madeFor_of_mem hdelivered hmem
  have htold := fanOut_eq haccepted fun collector hmem => (hfor collector hmem).hears
  refine ⟨made, collectors, _, hmade, htold, hdelivered, fun collector hmem =>
    ⟨(hfor collector hmem).named, ?_⟩, fun collector hmem hkind => ?_, fun set m hset => ?_⟩
  · exact collectorCommand?_run_deliveries (hfor collector hmem)
      (fun sink heq => (hsinks sink (heq ▸ hmem)).2) cs
  · obtain ⟨sink, rfl, hsink⟩ := (hfor collector hmem).empty hkind
    have hheard := sink?_run_deliveries hsink (hsinks sink hmem).2 cs
    rw [Sink.hear_memory] at hheard
    refine ⟨⟨((cs.filterMap Call.signal?).foldl Tally.note .empty).snapshot command, sink,
      ((cs.filterMap Call.signal?).foldl Tally.note .empty).totalReports⟩, ?_, rfl, fun e => ?_,
      Tally.totalDuration_foldl_note _ _, Tally.runDurations_foldl_note _ _⟩
    · simp only [snapshot, hheard]
    · rw [Tally.snapshot, PerEvent.get_map, Tally.counts_foldl_note]
      simp [Tally.empty]
  · -- making the collectors and telling them is one run
    have hrun : made.run (deliveries collectors cs) = (initial.run acts).run
        (.initializeCollectors roster (.text command) :: deliveries collectors cs) := by
      show _ = ((initial.run acts).initializeCollectors roster (.text command)).1.run _
      rw [initializeCollectors, hmade]
    have hrec := (initial.run acts).records_initializeCollectors roster (.text command)
    rw [initializeCollectors, hmade] at hrec
    obtain ⟨between, hbetween⟩ := hrec.exists_set? hset
    have hlog : logOf set (initial.run acts)
        (.initializeCollectors roster (.text command) :: deliveries collectors cs) =
          toldTimes command (((initial.run acts).roster roster).countP (Factory.isOf set)) cs := by
      have hperform : (initial.run acts).perform (.initializeCollectors roster (.text command)) =
          made := congrArg Prod.fst hmade
      rw [logOf, hset, Option.isSome_some, if_pos rfl, hperform, Act.operations,
        creations_recordersMade hroster hne, logOf_deliveries hbetween
          (fun r hr => (hfor _ hr).records r rfl), count_recorder hdelivered, toldTimes]
    rw [hrun]
    rcases Nat.eq_zero_or_pos (((initial.run acts).roster roster).countP (Factory.isOf set)) with
      hzero | htimes
    · have hnothing : toldTimes command 0 cs = [] := by simp [toldTimes, repeated]
      rw [hzero, hnothing] at hlog
      refine ⟨m, set?_run_of_logOf_eq_nil hset hlog, fun hpos => absurd hpos (by omega),
        fun other _ => ⟨fun _ => rfl, rfl, rfl⟩, fun _ => rfl⟩
    · obtain ⟨m', hset', hadvanced, hothers⟩ := advanced_of_logOf hset hne htimes hlog
      exact ⟨m', hset', fun _ => hadvanced, hothers, fun hzero => absurd hzero (by omega)⟩

/-- A set whose factory was registered twice, beside a sink that keeps a tally
and one that does not: an attempt counts twice, and so does its duration. -/
theorem fan_out_pair :
    ∃ (acts : List Act) (cs : List Call) (made : Host) (collectors : List Collector) (after : Host)
      (m : MetricSet),
      (initial.run acts).initializeCollectors .default (.text "ping") = (made, .ok collectors) ∧
      fanOut collectors cs made = (after, .ok ()) ∧ collectors.length = 4 ∧
      after.set? ⟨0⟩ = some m ∧
      (m.counters.get .attempt).get? "ping" = some (Number.ofInt (2 : Nat)) ∧
      (m.counters.get .error).get? "ping" = some (Number.ofInt (0 : Nat)) ∧
      m.totalDuration.get? "ping" = some 3 := by
  let acts : List Act := [.construct .default none none,
    .register .default (some (.recorders ⟨0⟩)), .register .default (some .memory),
    .register .default (some (.recorders ⟨0⟩)), .register .default (some .silent)]
  let cs : List Call := [⟨.event .attempt, []⟩, ⟨.totalDuration, [.integer 3]⟩,
    ⟨.runDuration, [.integer 1]⟩]
  have hrun : (∀ factory ∈ (initial.run acts).roster .default, factory.Ready (initial.run acts)) ∧
      ((initial.run acts).roster .default).length = 4 ∧
      ((initial.run acts).roster .default).countP (Factory.isOf ⟨0⟩) = 2 ∧
      ((initial.run acts).set? ⟨0⟩).isSome = true ∧
      (∀ c ∈ cs, (c.verdict .recorder).toOption = some ()) := by decide +kernel
  obtain ⟨hready, hlength, htwice, hsome, haccepted⟩ := hrun
  obtain ⟨m, hset⟩ := Option.isSome_iff_exists.1 hsome
  have hverdicts : ∀ c ∈ cs, c.verdict .recorder = .ok () := fun c hc =>
    toOption_eq_some_iff.1 (haccepted c hc)
  obtain ⟨made, collectors, after, hmade, htold, hdelivered, -, -, hsets⟩ :=
    fan_out hready (by decide : Text.plain "ping" ≠ "") hverdicts
  obtain ⟨m', hset', hadvanced, -, -⟩ := hsets ⟨0⟩ m hset
  rw [htwice] at hadvanced
  have hcells := hadvanced (by decide)
  have hlog : logOf ⟨0⟩ initial acts = [] := by simp [acts, logOf, Act.operations]
  rw [hlog] at hcells
  refine ⟨acts, cs, made, collectors, after, m', hmade, htold, ?_, hset', ?_, ?_, ?_⟩
  · rw [← hlength]
    exact hdelivered.length_eq.symm
  · exact (hcells.counter_exact .attempt (by decide +kernel)).2
  · exact (hcells.counter_exact .error (by decide +kernel)).2
  · have hlast : (cs.filterMap Call.signal?).filterMap (Signal.seconds? .totalDuration) = [3] := by
      decide +kernel
    rw [hcells.gauge, hlast]
    rfl

end Host

end CommandMetrics
