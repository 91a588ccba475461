import CommandMetrics.Proofs.Recording.Isolation
/-!
# Delivery — collectors that a roster makes are told

A roster makes one collector of each of its factories (`makeEach_of_ready`),
and what the engine reports goes to all of them, call by call; what every
collector accepts reaches them all (`fanOut_eq`). Every sink is a new one of
its own, so it hears the trace once (`sink?_run_deliveries`). But all
recorders of a metric set are for the same cells: a set whose factory
stands on the roster several times is told every call as many times over
(`logOf_deliveries`).
-/

namespace CommandMetrics

/-! ## Traces several times over -/

/-- A list with each of its members a number of times in a row. -/
def repeated {α : Type} (times : Nat) (xs : List α) : List α := xs.flatMap (List.replicate times)

section Repeated

variable {α β : Type} (times : Nat) (xs : List α)

theorem repeated_cons (x : α) :
    repeated times (x :: xs) = List.replicate times x ++ repeated times xs := List.flatMap_cons

theorem filterMap_repeated (f : α → Option β) :
    (repeated times xs).filterMap f = repeated times (xs.filterMap f) := by
  induction xs with
  | nil => rfl
  | cons x xs ih =>
    rw [repeated_cons, List.filterMap_append, ih, List.filterMap_replicate]
    cases hx : f x with
    | none => simp [hx]
    | some y => simp [hx, repeated_cons]

theorem countP_repeated (p : α → Bool) : (repeated times xs).countP p = times * xs.countP p := by
  induction xs with
  | nil => simp [repeated]
  | cons x xs ih =>
    rw [repeated_cons, List.countP_append, ih, List.countP_replicate, List.countP_cons]
    cases hx : p x <;> simp [Nat.mul_add, Nat.add_comm]

theorem length_repeated : (repeated times xs).length = times * xs.length := by
  have hcount := countP_repeated times xs fun _ => true
  rwa [List.countP_true] at hcount

/-- The last of them stays the last. -/
theorem getLast?_repeated (htimes : 0 < times) : (repeated times xs).getLast? = xs.getLast? := by
  induction xs using List.reverseRecOn with
  | nil => rfl
  | append_singleton xs x ih =>
    have hlast : repeated times (xs ++ [x]) = repeated times xs ++ List.replicate times x := by
      simp [repeated]
    rw [hlast, List.getLast?_append, List.getLast?_replicate, if_neg (by omega)]
    simp

end Repeated

/-! ## What a factory makes -/

/-- Whether a factory makes recorders of a set. -/
def Factory.isOf (set : SetId) : Factory → Bool
  | .recorders other => other = set
  | _ => false

/-- **A factory is that of a metric set or of a sink**, and the set is
there. -/
def Factory.Ready (h : Host) : Factory → Prop
  | .recorders set => ∃ m, h.set? set = some m
  | .memory | .silent => True
  | .scripted .. => False

instance (h : Host) (factory : Factory) : Decidable (factory.Ready h) :=
  match factory with
  | .recorders set => decidable_of_iff ((h.set? set).isSome = true) Option.isSome_iff_exists
  | .memory | .silent => .isTrue trivial
  | .scripted .. => .isFalse id

/-- **A collector is what a factory makes for a command**, as it is new. -/
def Factory.Delivers (h : Host) (command : Text) : Factory → Collector → Prop
  | .recorders set, collector => collector = .recorder ⟨command, set⟩ ∧ ∃ m, h.set? set = some m
  | .memory, collector =>
    ∃ sink, collector = .sink sink ∧ h.sink? sink = some (.memory command .empty)
  | .silent, collector => ∃ sink, collector = .sink sink ∧ h.sink? sink = some (.silent command)
  | .scripted .., _ => False

namespace Host

variable {h after made : Host} {id : SetId} {m : MetricSet} {command : Text} {sink : SinkId}
variable {factory : Factory} {factories : List Factory} {collector : Collector} {s : Sink}
variable {collectors : List Collector} {c : Call} {cs : List Call}

/-- Recording loses no set. -/
theorem Records.exists_set? (hrec : h.Records after) (hset : h.set? id = some m) :
    ∃ m', after.set? id = some m' := by
  obtain ⟨steps, hsteps⟩ := hrec.sets
  rw [hsteps, hset]
  exact ⟨_, rfl⟩

theorem Records.ready (hrec : h.Records after) (hready : factory.Ready h) :
    factory.Ready after := by
  cases factory with
  | recorders set =>
    obtain ⟨m, hset⟩ := hready
    exact hrec.exists_set? hset
  | memory | silent => trivial
  | scripted label script => exact hready.elim

/-- Sinks that were there are found as they were. -/
theorem sink?_of_prefix (hsinks : h.sinks <+: after.sinks) (hsink : h.sink? sink = some s) :
    after.sink? sink = some s := by
  obtain ⟨more, hmore⟩ := hsinks
  unfold sink? at *
  rw [← hmore, List.getElem?_append_left (List.getElem?_eq_some_iff.1 hsink).1, hsink]

theorem Records.delivers (hrec : h.Records after) (hsinks : h.sinks <+: after.sinks)
    (hdelivers : factory.Delivers h command collector) :
    factory.Delivers after command collector := by
  cases factory with
  | recorders set =>
    obtain ⟨rfl, m, hset⟩ := hdelivers
    exact ⟨rfl, hrec.exists_set? hset⟩
  | memory | silent =>
    obtain ⟨sink, rfl, hsink⟩ := hdelivers
    exact ⟨sink, rfl, sink?_of_prefix hsinks hsink⟩
  | scripted label script => exact hdelivers.elim

/-- A valid name adds a sink, which is the last one. -/
theorem addSink_of_text (h : Host) (make : Text → Sink) (hne : command ≠ "") :
    h.addSink make (.text command) =
      ({ h with sinks := h.sinks ++ [make command] }, .ok ⟨h.sinks.length⟩) := by
  have hcheck : CommandName.check (.text CommandName.newRecorder) (.text command) = .ok command :=
    CommandName.check_eq_ok_iff.2 ⟨rfl, hne⟩
  simp only [addSink, hcheck]

/-- **A factory that is ready delivers.** A sink that it makes is the last
one, and else no sink comes in. -/
theorem make_of_ready (hready : factory.Ready h) (hne : command ≠ "") (roster : RosterId) :
    ∃ made collector, h.make roster (.text command) factory = (made, .ok collector) ∧
      factory.Delivers made command collector ∧ h.sinks <+: made.sinks ∧
      ∀ sink, collector = .sink sink →
        sink.index = h.sinks.length ∧ made.sinks.length = h.sinks.length + 1 := by
  cases factory with
  | recorders set =>
    obtain ⟨m, hset⟩ := hready
    refine ⟨h.putSet set (m.ensure command), .recorder ⟨command, set⟩, ?_, ⟨rfl, ?_⟩,
      List.prefix_refl _, fun sink hsink => by cases hsink⟩
    · simp only [make, newRecorder_of_text hset .collector hne]
    · exact ⟨_, set?_putSet_self hset _⟩
  | memory =>
    refine ⟨{ h with sinks := h.sinks ++ [.memory command .empty] }, .sink ⟨h.sinks.length⟩, ?_,
      ⟨_, rfl, List.getElem?_concat_length⟩, List.prefix_append _ _, fun sink hsink => ?_⟩
    · simp only [make, newMemory, h.addSink_of_text _ hne]
    · cases hsink
      exact ⟨rfl, List.length_append⟩
  | silent =>
    refine ⟨{ h with sinks := h.sinks ++ [.silent command] }, .sink ⟨h.sinks.length⟩, ?_,
      ⟨_, rfl, List.getElem?_concat_length⟩, List.prefix_append _ _, fun sink hsink => ?_⟩
    · simp only [make, newSilent, h.addSink_of_text _ hne]
    · cases hsink
      exact ⟨rfl, List.length_append⟩
  | scripted label script => exact hready.elim

/-- **A roster of such factories delivers a collector of each**, in order,
and every sink among them is a new one of its own. -/
theorem makeEach_of_ready (hready : ∀ factory ∈ factories, factory.Ready h) (hne : command ≠ "")
    (roster : RosterId) :
    ∃ made collectors, makeEach roster (.text command) factories h = (made, .ok collectors) ∧
      List.Forall₂ (Factory.Delivers made command) factories collectors ∧
      h.sinks <+: made.sinks ∧
      ∀ sink, .sink sink ∈ collectors →
        h.sinks.length ≤ sink.index ∧ collectors.count (.sink sink) = 1 := by
  induction factories generalizing h with
  | nil => exact ⟨h, [], rfl, .nil, List.prefix_refl _, nofun⟩
  | cons factory rest ih =>
    obtain ⟨hfirst, hrest⟩ := List.forall_mem_cons.1 hready
    obtain ⟨between, collector, hmade, hdelivers, hgrown, hnew⟩ := make_of_ready hfirst hne roster
    have hrec : h.Records between := by
      have hrecords := h.records_make roster (.text command) factory
      rwa [hmade] at hrecords
    obtain ⟨made, collectors, heach, hdelivered, hgrown', hsinks⟩ :=
      ih fun factory hfactory => hrec.ready (hrest factory hfactory)
    have hrec' : between.Records made := by
      have hrecords := between.records_makeEach roster (.text command) rest
      rwa [heach] at hrecords
    have hall : makeEach roster (.text command) (factory :: rest) h =
        (made, .ok (collector :: collectors)) := by
      simp only [makeEach, hmade, heach]
    refine ⟨made, collector :: collectors, hall,
      .cons (hrec'.delivers hgrown' hdelivers) hdelivered, hgrown.trans hgrown',
      fun sink hsink => ?_⟩
    by_cases heq : collector = .sink sink
    · -- a sink that comes in with the first factory comes in with no other
      obtain ⟨hindex, hlength⟩ := hnew sink heq
      have hnot : .sink sink ∉ collectors := fun hmem => by
        have hbeyond := (hsinks sink hmem).1
        omega
      rw [heq, List.count_cons_self, List.count_eq_zero_of_not_mem hnot]
      exact ⟨by omega, rfl⟩
    · have hmem : .sink sink ∈ collectors := by
        rcases List.mem_cons.1 hsink with hhead | htail
        · exact absurd hhead.symm heq
        · exact htail
      obtain ⟨hbeyond, hcount⟩ := hsinks sink hmem
      rw [List.count_cons_of_ne heq]
      exact ⟨Nat.le_trans hgrown.length_le hbeyond, hcount⟩

/-- A set is told through as many recorders as its factory stands on the
roster. -/
theorem count_recorder (hdelivered : List.Forall₂ (Factory.Delivers made command) factories
    collectors) (set : SetId) :
    collectors.count (.recorder ⟨command, set⟩) = factories.countP (Factory.isOf set) := by
  induction hdelivered with
  | nil => rfl
  | @cons factory collector rest collectors hdelivers hrest ih =>
    rw [List.count_cons, List.countP_cons, ih]
    congr 1
    cases factory with
    | recorders other =>
      obtain ⟨rfl, -⟩ := hdelivers
      by_cases heq : other = set <;> simp [Factory.isOf, heq]
    | memory | silent =>
      obtain ⟨sink, rfl, -⟩ := hdelivers
      simp [Factory.isOf]
    | scripted label script => exact hdelivers.elim

/-- The log of a set tells of as many creations. -/
theorem creations_recordersMade (hready : ∀ factory ∈ factories, factory.Ready h)
    (hne : command ≠ "") (roster : RosterId) (set : SetId) :
    creations set (recordersMade roster (.text command) factories h) =
      List.replicate (factories.countP (Factory.isOf set))
        (.makeRecorder .collector (.text command)) := by
  induction factories generalizing h with
  | nil => rfl
  | cons factory rest ih =>
    obtain ⟨hfirst, hrest⟩ := List.forall_mem_cons.1 hready
    obtain ⟨between, collector, hmade, hdelivers, -, -⟩ := make_of_ready hfirst hne roster
    have hrec : h.Records between := by
      have hrecords := h.records_make roster (.text command) factory
      rwa [hmade] at hrecords
    have hlater := ih fun factory hfactory => hrec.ready (hrest factory hfactory)
    rw [recordersMade, hmade, List.countP_cons]
    cases factory with
    | recorders other =>
      obtain ⟨rfl, -⟩ := hdelivers
      unfold creations at *
      by_cases heq : other = set
      · simp [Factory.isOf, heq, hlater, List.replicate_succ]
      · simp [Factory.isOf, heq, hlater]
    | memory | silent =>
      obtain ⟨sink, rfl, -⟩ := hdelivers
      exact hlater
    | scripted label script => exact hdelivers.elim

end Host

/-! ## Collectors that are told -/

/-- The act of telling a collector. -/
def Call.to (c : Call) (collector : Collector) : Act :=
  .call collector c.method.name c.arguments

/-- A sink after a signal. -/
def Sink.hear (s : Sink) (signal : Signal) : Sink := (s.record signal).1

namespace Sink

theorem hear_memory (command : Text) (t : Tally) (signals : List Signal) :
    signals.foldl hear (.memory command t) = .memory command (signals.foldl Tally.note t) := by
  induction signals generalizing t with
  | nil => rfl
  | cons signal signals ih =>
    have hfirst : (Sink.memory command t).hear signal = .memory command (t.note signal) := by
      rw [hear, Tally.record_memory]
    rw [List.foldl_cons, List.foldl_cons, hfirst, ih]

/-- Whatever it hears, a sink is bound to the same command. -/
theorem command_hear (s : Sink) (signals : List Signal) :
    (signals.foldl hear s).command = s.command := by
  induction signals generalizing s with
  | nil => rfl
  | cons signal signals ih =>
    rw [List.foldl_cons, ih]
    cases s with
    | memory command t => rw [hear, Tally.record_memory]; rfl
    | silent command => rfl

end Sink

/-- **A call that every collector accepts** has a signal with a verdict of
its own. -/
theorem Call.exists_signal_of_accepted {c : Call} (haccepted : c.verdict .recorder = .ok ()) :
    ∃ signal, c.signal? = some signal ∧ signal.verdict = .ok () ∧
      ∀ owner, c.method.signal owner c.arguments = .ok signal := by
  by_cases hfits : c.Fits
  · obtain ⟨signal, hsignal⟩ := exists_signal_of_fits hfits
    refine ⟨signal, by rw [signal?, hsignal]; rfl, ?_, hsignal⟩
    simp only [verdict, hsignal] at haccepted
    cases hverdict : signal.verdict with
    | ok => rfl
    | error fault => simp [hverdict, Except.mapError] at haccepted
  · obtain ⟨words, hwords⟩ := exists_fault_of_not_fits hfits CollectorKind.recorder.name
    simp [verdict, hwords] at haccepted

namespace Host

variable {h after made : Host} {id : SetId} {m : MetricSet} {command : Text} {sink : SinkId}
variable {collector : Collector} {s : Sink} {collectors : List Collector} {c : Call}
variable {cs : List Call}

/-- A collector is there. -/
def Hears (h : Host) : Collector → Prop
  | .recorder r => ∃ m, h.set? r.set = some m
  | .sink sink => ∃ s, h.sink? sink = some s

/-- **Tells collectors of a call**, one after the other, up to the first that
refuses it. -/
def tellEach (c : Call) : List Collector → Host → Outcome Unit
  | [], h => (h, .ok ())
  | collector :: rest, h =>
    match h.call collector c.method.name c.arguments with
    | (h, .error failure) => (h, .error failure)
    | (h, .ok ()) => tellEach c rest h

/-- **Tells collectors of a trace**, call by call. -/
def fanOut (collectors : List Collector) : List Call → Host → Outcome Unit
  | [], h => (h, .ok ())
  | c :: cs, h =>
    match tellEach c collectors h with
    | (h, .error failure) => (h, .error failure)
    | (h, .ok ()) => fanOut collectors cs h

/-- The same as acts. -/
def deliveries (collectors : List Collector) (cs : List Call) : List Act :=
  cs.flatMap fun c => collectors.map c.to

/-- A sink hears what it is told, -/
theorem sink?_call_self (hsink : h.sink? sink = some s) (c : Call) :
    (h.perform (c.to (.sink sink))).sink? sink = some (c.signal?.toList.foldl Sink.hear s) := by
  show (h.call (.sink sink) c.method.name c.arguments).1.sink? sink = _
  cases s with
  | memory command t => rw [(call_sink hsink c).2, Sink.hear_memory]
  | silent command =>
    have hkind : h.collectorKind? (.sink sink) = some .silent := by
      simp only [collectorKind?, hsink]
    have hsame : c.signal?.toList.foldl Sink.hear (.silent command) = .silent command := by
      cases c.signal? <;> rfl
    rw [hsame]
    simp only [call, hkind, CollectorKind.signal?_name]
    cases c.method.signal CollectorKind.silent.name c.arguments with
    | error fault => exact hsink
    | ok signal =>
      simp only [Except.map, report, hsink]
      unfold sink? at *
      rw [List.getElem?_modify_eq, hsink]
      rfl

/-- and nothing of what others are told. -/
theorem sink?_call_of_ne (hne : collector ≠ .sink sink) (c : Call) :
    (h.perform (c.to collector)).sink? sink = h.sink? sink := by
  show (h.call collector c.method.name c.arguments).1.sink? sink = _
  unfold call
  split
  · rfl
  · split
    · unfold report
      split
      · split <;> rfl
      · rename_i other _
        have hindex : other.index ≠ sink.index := fun heq =>
          hne (by cases other; cases sink; simp_all)
        split
        · rfl
        · exact List.getElem?_modify_ne _ _ hindex
    · rfl
    · rfl

/-- **A collector that is there accepts what is accepted.** -/
theorem call_snd_of_accepted (hhears : h.Hears collector)
    (haccepted : c.verdict .recorder = .ok ()) :
    (h.call collector c.method.name c.arguments).2 = .ok () := by
  obtain ⟨signal, -, hverdict, hsignal⟩ := Call.exists_signal_of_accepted haccepted
  cases collector with
  | recorder r =>
    obtain ⟨m, hset⟩ := hhears
    rw [← haccepted]
    exact call_recorder_snd hset r.command c
  | sink sink =>
    obtain ⟨s, hsink⟩ := hhears
    cases s with
    | memory command t =>
      rw [(call_sink hsink c).1]
      simp only [Call.verdict, hsignal, hverdict]
      rfl
    | silent command =>
      have hkind : h.collectorKind? (.sink sink) = some .silent := by
        simp only [collectorKind?, hsink]
      simp only [call, hkind, CollectorKind.signal?_name, hsignal, Except.map, report, hsink]
      rfl

/-- Telling a collector loses none. -/
theorem Hears.perform (hhears : h.Hears collector) (c : Call) (other : Collector) :
    (h.perform (c.to other)).Hears collector := by
  cases collector with
  | recorder r =>
    obtain ⟨m, hset⟩ := hhears
    exact (h.records_call other c.method.name c.arguments).exists_set? hset
  | sink sink =>
    obtain ⟨s, hsink⟩ := hhears
    by_cases heq : other = .sink sink
    · rw [heq]
      exact ⟨_, sink?_call_self hsink c⟩
    · exact ⟨s, (sink?_call_of_ne heq c).trans hsink⟩

/-- **Whatever is accepted is told to all.** -/
theorem tellEach_eq (haccepted : c.verdict .recorder = .ok ())
    (hhears : ∀ collector ∈ collectors, h.Hears collector) :
    tellEach c collectors h = (h.run (collectors.map c.to), .ok ()) := by
  induction collectors generalizing h with
  | nil => rfl
  | cons collector rest ih =>
    obtain ⟨hfirst, hrest⟩ := List.forall_mem_cons.1 hhears
    have htold : h.call collector c.method.name c.arguments =
        (h.perform (c.to collector), .ok ()) :=
      Prod.ext rfl (call_snd_of_accepted hfirst haccepted)
    simp only [tellEach, htold]
    exact ih fun other hother => (hrest other hother).perform c collector

theorem Hears.run_map (hhears : h.Hears collector) (c : Call) (others : List Collector) :
    (h.run (others.map c.to)).Hears collector := by
  induction others generalizing h with
  | nil => exact hhears
  | cons other others ih => exact ih (hhears.perform c other)

theorem fanOut_eq (haccepted : ∀ c ∈ cs, c.verdict .recorder = .ok ())
    (hhears : ∀ collector ∈ collectors, h.Hears collector) :
    fanOut collectors cs h = (h.run (deliveries collectors cs), .ok ()) := by
  induction cs generalizing h with
  | nil => rfl
  | cons c cs ih =>
    obtain ⟨hfirst, hrest⟩ := List.forall_mem_cons.1 haccepted
    have hdeliveries : deliveries collectors (c :: cs) =
        collectors.map c.to ++ deliveries collectors cs := List.flatMap_cons
    rw [hdeliveries, run_append]
    simp only [fanOut, tellEach_eq hfirst hhears]
    exact ih hrest fun other hother => (hhears other hother).run_map c collectors

/-! ## What a sink is told -/

/-- A sink hears a call as often as it stands among the collectors, -/
theorem sink?_run_map (hsink : h.sink? sink = some s) (c : Call) (collectors : List Collector) :
    (h.run (collectors.map c.to)).sink? sink =
      some (((List.replicate (collectors.count (.sink sink)) c).filterMap Call.signal?).foldl
        Sink.hear s) := by
  induction collectors generalizing h s with
  | nil => exact hsink
  | cons collector rest ih =>
    rw [List.map_cons]
    by_cases heq : collector = .sink sink
    · have hfold : (List.replicate ((collector :: rest).count (.sink sink)) c).filterMap
          Call.signal? = c.signal?.toList ++
            (List.replicate (rest.count (.sink sink)) c).filterMap Call.signal? := by
        rw [heq, List.count_cons_self, List.replicate_succ]
        cases hsignal : c.signal? <;> simp [hsignal]
      rw [hfold, List.foldl_append, heq]
      exact ih (sink?_call_self hsink c)
    · rw [List.count_cons_of_ne heq]
      exact ih ((sink?_call_of_ne heq c).trans hsink)

/-- **so a sink of its own hears the trace.** -/
theorem sink?_run_deliveries (hsink : h.sink? sink = some s)
    (hcount : collectors.count (.sink sink) = 1) (cs : List Call) :
    (h.run (deliveries collectors cs)).sink? sink =
      some ((cs.filterMap Call.signal?).foldl Sink.hear s) := by
  induction cs generalizing h s with
  | nil => exact hsink
  | cons c cs ih =>
    have htold := sink?_run_map hsink c collectors
    rw [hcount, List.replicate_one] at htold
    have hdeliveries : deliveries collectors (c :: cs) =
        collectors.map c.to ++ deliveries collectors cs := List.flatMap_cons
    have hsplit : (c :: cs).filterMap Call.signal? =
        [c].filterMap Call.signal? ++ cs.filterMap Call.signal? :=
      List.filterMap_append (l := [c])
    rw [hdeliveries, run_append, hsplit, List.foldl_append]
    exact ih htold

/-! ## What a set is told -/

/-- A set is told a call as often as a recorder of it stands among the
collectors, -/
theorem logOf_map (hset : h.set? id = some m)
    (hcommand : ∀ r, .recorder r ∈ collectors → r.command = command) (c : Call) :
    logOf id h (collectors.map c.to) =
      (List.replicate (collectors.count (.recorder ⟨command, id⟩)) c).map (Call.on command) := by
  induction collectors generalizing h m with
  | nil => rfl
  | cons collector rest ih =>
    obtain ⟨m', hset'⟩ :=
      (h.records_call collector c.method.name c.arguments).exists_set? hset
    have hrest := ih (h := h.perform (c.to collector)) hset' fun r hr =>
      hcommand r (List.mem_cons_of_mem _ hr)
    rw [List.map_cons, logOf, hset, Option.isSome_some, if_pos rfl, hrest]
    cases collector with
    | sink sink =>
      rw [List.count_cons_of_ne (by simp)]
      rfl
    | recorder r =>
      obtain rfl := hcommand r List.mem_cons_self
      by_cases heq : r.set = id
      · subst heq
        rw [List.count_cons_self, List.replicate_succ, List.map_cons]
        simp [Call.to, Act.operations, Call.on]
      · have hne : (Collector.recorder r) ≠ .recorder ⟨r.command, id⟩ := fun hsame =>
          heq (congrArg Recorder.set (Collector.recorder.inj hsame))
        rw [List.count_cons_of_ne hne]
        simp [Call.to, Act.operations, heq]

/-- **so it is told the trace as many times over.** -/
theorem logOf_deliveries (hset : h.set? id = some m)
    (hcommand : ∀ r, .recorder r ∈ collectors → r.command = command) (cs : List Call) :
    logOf id h (deliveries collectors cs) =
      (repeated (collectors.count (.recorder ⟨command, id⟩)) cs).map (Call.on command) := by
  induction cs generalizing h m with
  | nil => rfl
  | cons c cs ih =>
    obtain ⟨m', hset', -⟩ := exists_set?_run hset (collectors.map c.to)
    have hdeliveries : deliveries collectors (c :: cs) =
        collectors.map c.to ++ deliveries collectors cs := List.flatMap_cons
    rw [hdeliveries, logOf_append, logOf_map hset hcommand, ih hset', repeated_cons,
      List.map_append]

end Host

end CommandMetrics
