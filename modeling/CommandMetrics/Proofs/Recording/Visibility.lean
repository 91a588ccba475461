import CommandMetrics.Proofs.Run
/-!
# Visibility — one list of commands for all series

A command shows in all eleven series from its first use on. Making sure of
a command adds it at the end of every series, or changes nothing
(`Lists.play_ensure`); a recorder was made for its command, so the events it
is told of add none (`Lists.play_signal`). So in every state all series list
the names that were put to use, each once and in the order of first use
(`lists_run`). A command that comes in reads zero in every cell and leaves
the cells of all others as they were (`readsZero_ensure`,
`sameCells_ensure`).
-/

namespace CommandMetrics

/-! ## Cells that are made sure of -/

namespace MetricSet

variable {m m' : MetricSet} {command other : Text}

/-- **A command reads zero** in every series: in the counters, in the gauge,
and in every bucket, the count and the sum of the histogram. -/
structure ReadsZero (m : MetricSet) (command : Text) : Prop where
  counter : ∀ e, (m.counters.get e).get? command = some 0
  gauge : m.totalDuration.get? command = some 0
  histogram : ∃ runs, m.runDuration.get? command = some runs ∧ runs.sum = 0 ∧
    runs.counts.length = m.buckets.length ∧ (∀ n ∈ runs.counts, n = 0) ∧
    (∀ n ∈ runs.cumulative, n = 0) ∧ runs.count = 0

/-- **A command reads the same** in two sets. -/
structure SameCells (m m' : MetricSet) (command : Text) : Prop where
  counter : ∀ e, (m.counters.get e).get? command = (m'.counters.get e).get? command
  gauge : m.totalDuration.get? command = m'.totalDuration.get? command
  histogram : m.runDuration.get? command = m'.runDuration.get? command

/-- **A command that comes in reads zero.** -/
theorem readsZero_ensure (h : ∀ s, command ∉ m.commands s) :
    (m.ensure command).ReadsZero command where
  counter e := by
    simp only [ensure, PerEvent.get_map]
    exact Children.get?_ensure_of_notMem (h (.events e)) 0
  gauge := Children.get?_ensure_of_notMem (h .totalDuration) 0
  histogram := by
    have hcounts : ∀ n ∈ (Histogram.empty m.buckets).counts, n = 0 := by simp [Histogram.empty]
    have hcumulative := Histogram.runningSums_zero hcounts
    refine ⟨_, Children.get?_ensure_of_notMem (h .runDuration) _, rfl, List.length_map _, hcounts,
      hcumulative, ?_⟩
    unfold Histogram.count
    cases hlast : (Histogram.empty m.buckets).cumulative.getLast? with
    | none => rfl
    | some n => exact hcumulative n (List.mem_of_getLast? hlast)

/-- **Making sure of a command that is there changes nothing.** -/
theorem ensure_of_mem (h : ∀ s, command ∈ m.commands s) : m.ensure command = m := by
  have hcounters : m.counters.map (·.ensure command 0) = m.counters := by
    refine PerEvent.ext_get fun e => ?_
    rw [PerEvent.get_map]
    exact Children.ensure_of_mem (h (.events e)) 0
  unfold ensure
  rw [hcounters, Children.ensure_of_mem (h .totalDuration), Children.ensure_of_mem (h .runDuration)]

/-- Steps on a single command add it to the series they are on. -/
theorem commands_play_of_command {steps : List Primitive} (h : ∀ p ∈ steps, p.command = command)
    (s : Series) :
    (m.play steps).commands s =
      if command ∉ m.commands s ∧ ∃ p ∈ steps, p.series = s then m.commands s ++ [command]
      else m.commands s := by
  induction steps generalizing m with
  | nil => simp
  | cons p steps ih =>
    obtain ⟨hp, hsteps⟩ := List.forall_mem_cons.1 h
    rw [play_cons, ih hsteps, commands_apply, hp]
    by_cases hmem : command ∈ m.commands s <;> by_cases hseries : p.series = s <;>
      simp [hmem, hseries]

theorem command_of_mem_ensureSteps : ∀ p ∈ ensureSteps command, p.command = command := by
  intro p hp
  obtain ⟨s, -, rfl⟩ := List.mem_map.1 hp
  rfl

theorem exists_mem_ensureSteps (command : Text) (s : Series) :
    ∃ p ∈ ensureSteps command, p.series = s :=
  ⟨_, List.mem_map_of_mem (Series.mem_all s), rfl⟩

theorem command_of_mem_steps (signal : Signal) :
    ∀ p ∈ signal.steps command, p.command = command := by
  cases signal with
  | event e => simp [Signal.steps, Primitive.command]
  | reset => simp [Signal.steps]
  | totalDuration duration | runDuration duration =>
    cases hd : Duration.seconds duration <;> simp [Signal.steps, hd, Primitive.command]

/-- A call of a recorder steps on nothing but the recorder's command. -/
theorem command_of_mem_callSteps (command : Text) (method : String) (arguments : List Value) :
    ∀ p ∈ (SetOperation.call command method arguments).steps, p.command = command := by
  intro p hp
  simp only [SetOperation.steps, SetOperation.ensured?, SetOperation.reported?, Option.map_none,
    Option.getD_none, List.nil_append] at hp
  split at hp
  · exact command_of_mem_steps _ p hp
  · cases hp

/-- **Steps on a single command leave every other one as it was.** By
induction on the steps. -/
theorem sameCells_play {steps : List Primitive} (h : ∀ p ∈ steps, p.command = command)
    (hne : other ≠ command) : (m.play steps).SameCells m other := by
  induction steps generalizing m with
  | nil => exact ⟨fun _ => rfl, rfl, rfl⟩
  | cons p steps ih =>
    obtain ⟨hp, hsteps⟩ := List.forall_mem_cons.1 h
    have hrest := ih hsteps (m := m.apply p)
    rw [← hp] at hne
    rw [play_cons]
    refine ⟨fun e => (hrest.counter e).trans ?_, hrest.gauge.trans ?_, hrest.histogram.trans ?_⟩
    · rw [get_counters_apply]
      split
      · rw [Children.get?_update, if_neg hne]
      · rfl
    · rw [totalDuration_apply]
      split
      · rw [Children.get?_update, if_neg hne]
      · rfl
    · rw [runDuration_apply]
      split
      · rw [Children.get?_update, if_neg hne]
      · rfl

/-- So a command that is made sure of leaves all others as they were. -/
theorem sameCells_ensure (hne : other ≠ command) : (m.ensure command).SameCells m other := by
  rw [ensure_eq_play]
  exact sameCells_play command_of_mem_ensureSteps hne

/-- A command that is made sure of is there, -/
theorem mem_commands_ensure (m : MetricSet) (command : Text) (s : Series) :
    command ∈ (m.ensure command).commands s := by
  rw [ensure_eq_play, commands_play_of_command command_of_mem_ensureSteps]
  by_cases hmem : command ∈ m.commands s <;> simp [hmem, exists_mem_ensureSteps]

/-- so making sure of it again changes nothing. -/
theorem ensure_ensure (m : MetricSet) (command : Text) :
    (m.ensure command).ensure command = m.ensure command :=
  ensure_of_mem (m.mem_commands_ensure command)

/-! ## What the series list -/

/-- **All series list the same commands**: those of some names, each once and
in the order of first use. -/
def Lists (m : MetricSet) (names : List Text) : Prop := ∀ s, m.commands s = names.eraseDups

variable {names : List Text}

theorem Lists.mem_iff (h : m.Lists names) (s : Series) :
    command ∈ m.commands s ↔ command ∈ names := by
  rw [h s, List.mem_eraseDups]

/-- One more name goes to the end, unless it was there. -/
theorem eraseDups_concat (names : List Text) (command : Text) :
    (names ++ [command]).eraseDups =
      if command ∈ names then names.eraseDups else names.eraseDups ++ [command] := by
  rw [List.eraseDups_append]
  by_cases h : command ∈ names <;> simp [List.removeAll, h, List.eraseDups_cons]

/-- **A command that is made sure of comes last**, or was there. -/
theorem Lists.play_ensure (h : m.Lists names) (command : Text) :
    (m.play (ensureSteps command)).Lists (names ++ [command]) := by
  intro s
  rw [commands_play_of_command command_of_mem_ensureSteps, eraseDups_concat]
  by_cases hmem : command ∈ names <;> simp [h s, hmem, exists_mem_ensureSteps]

/-- **What is reported of a listed command adds none.** -/
theorem Lists.play_signal (h : m.Lists names) (hmem : command ∈ names) (signal : Signal) :
    (m.play (signal.steps command)).Lists names := by
  intro s
  rw [commands_play_of_command (command_of_mem_steps signal),
    if_neg fun hnew => hnew.1 ((h.mem_iff s).2 hmem), h s]

end MetricSet

/-! ## Operation by operation -/

namespace SetOperation

/-- **The names that a log puts to use**: those that recorders were made for,
and those that were made sure of. -/
def names (log : List SetOperation) : List Text := log.filterMap ensured?

/-- Whether an operation is a call on a recorder of one of some commands, if
it is a call at all. -/
def CallsAmong (names : List Text) : SetOperation → Prop
  | call command _ _ => command ∈ names
  | _ => True

variable {m : MetricSet} {known : List Text} {op : SetOperation}

/-- **An operation lists the command it makes sure of**, and no other. -/
theorem lists_play_steps (h : m.Lists known) (hop : op.CallsAmong known) :
    (m.play op.steps).Lists (known ++ op.ensured?.toList) := by
  unfold steps
  rw [MetricSet.play_append]
  cases op with
  | makeRecorder route name | ensure name =>
    simp only [reported?, Option.map_none, Option.getD_none, MetricSet.play_nil]
    cases hensured : ensured? _ with
    | none => simpa using h
    | some command => simpa using h.play_ensure command
  | call command method arguments =>
    simp only [ensured?, Option.map_none, Option.getD_none, MetricSet.play_nil, Option.toList_none,
      List.append_nil]
    cases hreported : reported? (call command method arguments) with
    | none => exact h
    | some report =>
      obtain ⟨other, signal⟩ := report
      obtain ⟨rfl, -⟩ := reported?_call_eq_some_iff.1 hreported
      exact h.play_signal hop signal
  | unregister => simpa [ensured?, reported?] using h

/-- So does a log, whose calls are on recorders of commands listed before. -/
theorem lists_play_logSteps (h : m.Lists known) {log : List SetOperation}
    (hlog : ∀ op ∈ log, op.CallsAmong known) :
    (m.play (logSteps log)).Lists (known ++ names log) := by
  induction log generalizing m known with
  | nil => simpa [logSteps, names] using h
  | cons op log ih =>
    obtain ⟨hop, hrest⟩ := List.forall_mem_cons.1 hlog
    have hnext : ∀ op' ∈ log, op'.CallsAmong (known ++ op.ensured?.toList) := fun op' hmem => by
      have hknown := hrest op' hmem
      cases op' with
      | call command method arguments => exact List.mem_append_left _ hknown
      | _ => trivial
    have hnames : known ++ names (op :: log) = known ++ op.ensured?.toList ++ names log := by
      unfold names
      cases hensured : op.ensured? <;> simp [hensured]
    rw [hnames, logSteps, List.flatMap_cons, MetricSet.play_append]
    exact ih (lists_play_steps h hop) hnext

end SetOperation

namespace Host

variable {h : Host} {id : SetId} {m : MetricSet} {r : Recorder} {name : Value}

/-! ## Recorders and the names they were made for -/

/-- **A run calls only recorders that it made before.** There is no other way
to have one. -/
def CallsMade : List Act → Prop :=
  Throughout fun before act => ∀ r method arguments,
    act = .call (.recorder r) method arguments → r ∈ initial.recordersOf before

/-- A recorder that factories make is for the name they were called with, and
of a set that there is. -/
theorem of_mem_recordersMade {roster : RosterId} {factories : List Factory}
    (hr : r ∈ recordersMade roster name factories h) :
    name = .text r.command ∧ r.command ≠ "" ∧ ∃ m, h.set? r.set = some m := by
  induction factories generalizing h with
  | nil => cases hr
  | cons factory rest ih =>
    rcases h.make_cases roster name factory with
      ⟨after, failure, hmade, -⟩ | ⟨after, sink, hmade, hsets⟩ |
        ⟨set, command, found, -, hname, hne, hfound, hmade⟩
    · simp [recordersMade, hmade] at hr
    · simp only [recordersMade, hmade] at hr
      obtain ⟨hname, hne, m, hset⟩ := ih hr
      exact ⟨hname, hne, m, by rwa [set?_of_sets_eq hsets] at hset⟩
    · simp only [recordersMade, hmade, List.mem_cons] at hr
      rcases hr with rfl | hr
      · exact ⟨hname, hne, found, hfound⟩
      · obtain ⟨hname, hne, m, hset⟩ := ih hr
        refine ⟨hname, hne, ?_⟩
        by_cases heq : r.set = set
        · exact ⟨found, heq ▸ hfound⟩
        · exact ⟨m, by rwa [set?_putSet_of_ne heq] at hset⟩

/-- A recorder that an act makes is of a set that there is, and its command
is one that the act puts to use there. -/
theorem of_mem_recorders {act : Act} (hr : r ∈ act.recorders h) :
    (∃ m, h.set? r.set = some m) ∧
      r.command ∈ SetOperation.names (act.operations h r.set) := by
  cases act with
  | newRecorder route other name =>
    rcases h.newRecorder_cases route other name with
      ⟨failure, hmade⟩ | ⟨command, found, rfl, hne, hfound, hmade⟩
    · simp [Act.recorders, hmade, Except.toOption] at hr
    · obtain rfl : r = ⟨command, other⟩ := by simpa [Act.recorders, hmade, Except.toOption] using hr
      refine ⟨⟨found, hfound⟩, ?_⟩
      simp [Act.operations, SetOperation.names, SetOperation.ensured?_makeRecorder hne]
  | initializeCollectors roster name =>
    obtain ⟨rfl, hne, hset⟩ := of_mem_recordersMade hr
    refine ⟨hset, List.mem_filterMap.2
      ⟨.makeRecorder .collector (.text r.command), ?_, SetOperation.ensured?_makeRecorder hne _⟩⟩
    exact List.mem_map.2 ⟨r, List.mem_filter.2 ⟨hr, by simp⟩, rfl⟩
  | _ => cases hr

/-- **A recorder's command was put to use** in its set. -/
theorem mem_names_of_mem_recordersOf {acts : List Act} (hr : r ∈ h.recordersOf acts) :
    r.command ∈ SetOperation.names (logOf r.set h acts) := by
  obtain ⟨before, act, later, rfl, hmade⟩ := exists_act_of_mem_recordersOf hr
  obtain ⟨⟨m, hset⟩, hmem⟩ := of_mem_recorders hmade
  rw [logOf_append, logOf, hset]
  unfold SetOperation.names at *
  rw [List.filterMap_append, List.filterMap_append]
  exact List.mem_append_right _ (List.mem_append_left _ hmem)

/-- In a run that calls only recorders it made, calls are of commands that
were put to use before. -/
theorem callsAmong_operations {acts : List Act} {act : Act}
    (hact : ∀ r method arguments, act = .call (.recorder r) method arguments →
      r ∈ initial.recordersOf acts) :
    ∀ op ∈ act.operations (initial.run acts) id,
      op.CallsAmong (SetOperation.names (logOf id initial acts)) := by
  intro op hop
  cases act with
  | call collector method arguments =>
    cases collector with
    | recorder r =>
      by_cases heq : r.set = id
      · obtain rfl : op = .call r.command method arguments := by
          simpa [Act.operations, heq] using hop
        subst heq
        exact mem_names_of_mem_recordersOf (hact r method arguments rfl)
      · simp [Act.operations, heq] at hop
    | sink sink => cases hop
  | newRecorder route other name | ensureCommand other name | unregisterSet other =>
    obtain ⟨-, rfl⟩ : other = id ∧ op = _ := by simpa [Act.operations] using hop
    trivial
  | initializeCollectors roster name =>
    obtain ⟨r, -, rfl⟩ := List.mem_map.1 hop
    trivial
  | _ => cases hop

/-- **All series list the names that were put to use**, each once and in the
order of first use. -/
theorem lists_run {acts : List Act} (hmade : CallsMade acts)
    (hset : (initial.run acts).set? id = some m) :
    m.Lists (SetOperation.names (logOf id initial acts)) := by
  refine set_induction (Q := fun log m => m.Lists (SetOperation.names log)) (fun m hm => ?_) ?_
    hmade hset
  · exact fun s => hm.unused s
  · intro acts act m b hact hlists
    unfold SetOperation.names at *
    rw [List.filterMap_append]
    exact SetOperation.lists_play_logSteps hlists (callsAmong_operations hact)

/-! ## Creations -/

/-- **Recorders that are made for one command leave it made sure of**, once.
Once the command is there, the creations that follow change nothing. -/
theorem play_creations {recorders : List Recorder} {command : Text} (hne : command ≠ "")
    (hcommand : ∀ r ∈ recorders, r.command = command) :
    m.play (SetOperation.logSteps (creations id recorders)) =
      if ∃ r ∈ recorders, r.set = id then m.ensure command else m := by
  induction recorders generalizing m with
  | nil => simp [creations, SetOperation.logSteps]
  | cons r rest ih =>
    obtain ⟨hr, hrest⟩ := List.forall_mem_cons.1 hcommand
    by_cases hset : r.set = id
    · have hcreations : creations id (r :: rest) =
          .makeRecorder .collector (.text command) :: creations id rest := by
        simp [creations, hset, hr]
      rw [hcreations, SetOperation.logSteps, List.flatMap_cons, MetricSet.play_append,
        SetOperation.steps_makeRecorder hne, ← MetricSet.ensure_eq_play, ← SetOperation.logSteps,
        ih hrest, MetricSet.ensure_ensure, ite_self, if_pos ⟨r, List.mem_cons_self, hset⟩]
    · have hcreations : creations id (r :: rest) = creations id rest := by
        simp [creations, hset]
      rw [hcreations, ih hrest]
      simp [hset]

/-- **An act that makes a recorder makes sure of its command**, and does
nothing else to the set. -/
theorem set?_perform_of_mem_recorders {act : Act} (hr : r ∈ act.recorders h)
    (hset : h.set? r.set = some m) :
    (h.perform act).set? r.set = some (m.ensure r.command) := by
  cases act with
  | newRecorder route other name =>
    rcases h.newRecorder_cases route other name with
      ⟨failure, hmade⟩ | ⟨command, found, rfl, -, hfound, hmade⟩
    · simp [Act.recorders, hmade, Except.toOption] at hr
    · obtain rfl : r = ⟨command, other⟩ := by simpa [Act.recorders, hmade, Except.toOption] using hr
      rw [hset] at hfound
      cases hfound
      rw [perform, hmade, MetricSet.ensure_eq_play]
      exact set?_putSet_self hset _
  | initializeCollectors roster name =>
    obtain ⟨rfl, hne, -⟩ := of_mem_recordersMade hr
    have hcommand : ∀ r' ∈ recordersMade roster (.text r.command) (h.roster roster) h,
        r'.command = r.command := fun r' hr' => by
      obtain ⟨heq, -, -⟩ := of_mem_recordersMade hr'
      exact (Value.text.inj heq).symm
    have hleft := set?_makeEach hset roster (.text r.command) (h.roster roster)
    rwa [play_creations hne hcommand, if_pos ⟨r, hr, rfl⟩] at hleft
  | _ => cases hr

/-! ## Names that are refused -/

/-- **A name that is no text with a character in it is refused** as such, on
any route and whatever the set. -/
theorem newRecorder_of_refused (hname : ∀ command, name = .text command → command = "")
    (route : RecorderRoute) :
    ∃ e, e.kind = .invalidCommandName ∧
      ∀ h : Host, ∀ id, h.newRecorder route id name = (h, .error (.adapter e)) := by
  obtain ⟨e, hkind, hcheck⟩ := RecorderRoute.exists_check_eq_error hname route
  exact ⟨e, hkind, fun h id => by simp only [newRecorder, hcheck]⟩

/-- Factories that are called with such a name make no recorder. -/
theorem recordersMade_of_refused (hname : ∀ command, name = .text command → command = "")
    (roster : RosterId) (factories : List Factory) (h : Host) :
    recordersMade roster name factories h = [] := by
  refine List.eq_nil_iff_forall_not_mem.2 fun r hr => ?_
  obtain ⟨heq, hne, -⟩ := of_mem_recordersMade hr
  exact hne (hname _ heq)

/-! ## One list of commands -/

open SetOperation in
/-- **One list of commands for all series.** After any run that calls only
recorders it made, all eleven series of a set list the names that recorders
of the set were made for or that were made sure of, each once and in the
order of first use; going on adds commands at the end. An act that makes a
recorder for a name that is new leaves it reading zero everywhere and every
other command as it was, and for a name that is listed it changes nothing.
A name that is no text with a character in it is refused as such on every
route, and no series changes. -/
theorem one_command_list {acts : List Act} (hmade : CallsMade acts)
    (hset : (initial.run acts).set? id = some m) :
    (∀ s, m.commands s = (names (logOf id initial acts)).eraseDups ∧ (m.commands s).Nodup) ∧
    (∀ later, CallsMade (acts ++ later) → ∃ m', (initial.run (acts ++ later)).set? id = some m' ∧
      ∀ s, m.commands s <+: m'.commands s) ∧
    (∀ act, ∀ r ∈ act.recorders (initial.run acts), r.set = id →
      ∃ m', ((initial.run acts).perform act).set? id = some m' ∧
        (r.command ∉ names (logOf id initial acts) →
          m'.ReadsZero r.command ∧ ∀ other, other ≠ r.command → m'.SameCells m other) ∧
        (r.command ∈ names (logOf id initial acts) → m' = m)) ∧
    (∀ route (command : Text), command ≠ "" → command ∈ names (logOf id initial acts) →
      (initial.run acts).newRecorder route id (.text command) =
        (initial.run acts, .ok ⟨command, id⟩)) ∧
    (∀ name, (∀ command : Text, name = .text command → command = "") →
      (∀ route, ∃ e, e.kind = .invalidCommandName ∧
        (initial.run acts).newRecorder route id name = (initial.run acts, .error (.adapter e))) ∧
      (∀ roster rest, (initial.run acts).roster roster = .recorders id :: rest →
        ∃ e, e.kind = .invalidCommandName ∧
          (initial.run acts).initializeCollectors roster name =
            (initial.run acts, .error (.adapter e))) ∧
      ∀ roster, ((initial.run acts).initializeCollectors roster name).1.set? id = some m) := by
  have hlists := lists_run hmade hset
  have hthere : ∀ {command}, command ∈ names (logOf id initial acts) →
      ∀ s, command ∈ m.commands s := fun hmem s => (hlists.mem_iff s).2 hmem
  refine ⟨fun s => ⟨hlists s, ?_⟩, fun later hlater => ?_, fun act r hr hid => ?_,
    fun route command hne hmem => ?_, fun name hname =>
      ⟨fun route => ?_, fun roster rest hroster => ?_, fun roster => ?_⟩⟩
  · obtain ⟨new, b, hnew, rfl⟩ := exists_new_of_run hset
    exact hnew.unused.nodup_commands_play _ s
  · obtain ⟨m', hset', -⟩ := exists_set?_run hset later
    rw [← run_append] at hset'
    refine ⟨m', hset', fun s => ?_⟩
    rw [hlists s, lists_run hlater hset' s, logOf_append]
    unfold names
    rw [List.filterMap_append, List.eraseDups_append]
    exact List.prefix_append _ _
  · subst hid
    refine ⟨_, set?_perform_of_mem_recorders hr hset, fun hnew => ⟨?_, fun other hne => ?_⟩,
      fun hmem => MetricSet.ensure_of_mem (hthere hmem)⟩
    · exact MetricSet.readsZero_ensure fun s hmem => hnew ((hlists.mem_iff s).1 hmem)
    · exact MetricSet.sameCells_ensure hne
  · rw [newRecorder_of_text hset route hne, MetricSet.ensure_of_mem (hthere hmem),
      putSet_of_set? hset]
  · obtain ⟨e, hkind, hrefused⟩ := newRecorder_of_refused hname route
    exact ⟨e, hkind, hrefused _ id⟩
  · obtain ⟨e, hkind, hrefused⟩ := newRecorder_of_refused hname .collector
    refine ⟨e, hkind, ?_⟩
    unfold initializeCollectors
    rw [hroster]
    simp only [makeEach, make, hrefused]
  · have hleft := set?_makeEach hset roster name ((initial.run acts).roster roster)
    rw [recordersMade_of_refused hname] at hleft
    exact hleft

/-- A recorder is made for a first command, a second one is made sure of, and
a roster makes another recorder for the first: there are two commands. -/
theorem one_command_list_pair :
    ∃ acts m, CallsMade acts ∧ (initial.run acts).set? ⟨0⟩ = some m ∧
      ∀ s, m.commands s = ["ping", "pong"] := by
  let recorder : Recorder := ⟨"ping", ⟨0⟩⟩
  let acts : List Act := [.construct .default none none, .register ⟨0⟩ (some (.recorders ⟨0⟩)),
    .newRecorder .direct ⟨0⟩ (.text "ping"), .call (.recorder recorder) "record_attempt" [],
    .ensureCommand ⟨0⟩ (.text "pong"), .initializeCollectors ⟨0⟩ (.text "ping")]
  have hmade : CallsMade acts := by
    show Throughout _ (((((([] ++ [_]) ++ [_]) ++ [_]) ++ [_]) ++ [_]) ++ [_])
    simp only [throughout_concat, throughout_nil, reduceCtorEq, false_implies, implies_true,
      true_and, and_true]
    rintro r method arguments heq
    cases heq
    decide +kernel
  have hsome : ((initial.run acts).set? ⟨0⟩).isSome = true := by decide +kernel
  obtain ⟨m, hset⟩ := Option.isSome_iff_exists.1 hsome
  have hnames : (SetOperation.names (logOf ⟨0⟩ initial acts)).eraseDups = ["ping", "pong"] := by
    decide +kernel
  exact ⟨acts, m, hmade, hset, fun s => hnames ▸ ((one_command_list hmade hset).1 s).1⟩

end Host

end CommandMetrics
