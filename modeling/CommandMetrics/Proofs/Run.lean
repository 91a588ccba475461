import CommandMetrics.Proofs.Act
import CommandMetrics.Proofs.Recording.EventLog
/-!
# Runs — what a run of acts comes to for a single set

Acts reach the cells of a set by its operations only, and which operations
an act comes to can be told from the act and the host it finds
(`Act.operations`): a call or a creation is one, the factories of a roster
are as many as there are recorders they make. So a run has a log for each
set (`Host.logOf`), and what stands in the cells of a set is what its log
leaves in a new one (`exists_new_of_run`). Conditions on a run are laid
upon each act and what came before it (`Throughout`).
-/

namespace CommandMetrics

/-- **Every act of a run meets a condition** on the acts before it. -/
def Throughout (P : List Act → Act → Prop) (acts : List Act) : Prop :=
  ∀ before act after, acts = before ++ act :: after → P before act

section Throughout

variable {P : List Act → Act → Prop} {acts later : List Act} {act : Act}

theorem throughout_nil : Throughout P [] := fun before act after h => by
  cases before <;> cases h

theorem Throughout.of_append (h : Throughout P (acts ++ later)) : Throughout P acts :=
  fun before act after heq => h before act (after ++ later) (by rw [heq]; simp)

theorem throughout_concat : Throughout P (acts ++ [act]) ↔ Throughout P acts ∧ P acts act := by
  constructor
  · exact fun h => ⟨h.of_append, h acts act [] rfl⟩
  · rintro ⟨hacts, hact⟩ before other after heq
    rcases List.append_eq_append_iff.1 heq with ⟨rest, hbefore, hrest⟩ | ⟨rest, hacts', hrest⟩
    -- the split lies behind the old acts, so it is at the new one
    · obtain ⟨rfl, rfl, rfl⟩ : rest = [] ∧ act = other ∧ after = [] := by
        cases rest <;> simp_all
      rwa [hbefore, List.append_nil]
    · cases rest with
      | nil =>
        obtain ⟨rfl, rfl⟩ : other = act ∧ after = [] := by simpa using hrest
        rw [List.append_nil] at hacts'
        rwa [← hacts']
      | cons first rest =>
        obtain ⟨rfl, rfl⟩ : other = first ∧ after = rest ++ [act] := by simpa using hrest
        exact hacts before other rest hacts'

end Throughout

/-- What a creation makes sure of is the command of the name. -/
theorem SetOperation.ensured?_makeRecorder {command : Text} (hne : command ≠ "")
    (route : RecorderRoute) : (makeRecorder route (.text command)).ensured? = some command := by
  have hcheck : route.check (.text command) = .ok command :=
    RecorderRoute.check_eq_ok_iff.2 ⟨rfl, hne⟩
  rw [ensured?, hcheck]
  rfl

/-- A creation takes the steps of making sure of its command, -/
theorem SetOperation.steps_makeRecorder {command : Text} (hne : command ≠ "")
    (route : RecorderRoute) :
    (makeRecorder route (.text command)).steps = ensureSteps command := by
  rw [steps, ensured?_makeRecorder hne]
  exact List.append_nil _

/-- and so does making sure of it. -/
theorem SetOperation.steps_ensure (command : Text) :
    (ensure command).steps = ensureSteps command := List.append_nil _

/-- **A set as it is constructed**: no command has a cell, and the buckets
climb to the infinite one. -/
structure MetricSet.IsNew (m : MetricSet) : Prop where
  unused : m.Unused
  climbing : Bounds.Climbing m.buckets
  infinite : m.buckets.getLast? = some (.infinity false)

namespace Host

variable {h after : Host} {id : SetId} {m : MetricSet}

/-! ## Recorders that are made -/

/-- **The recorders that factories make** for a command, called one after
the other up to the first that fails. -/
def recordersMade (roster : RosterId) (name : Value) : List Factory → Host → List Recorder
  | [], _ => []
  | factory :: rest, h =>
    match h.make roster name factory with
    | (h, .ok (.recorder r)) => r :: recordersMade roster name rest h
    | (h, .ok (.sink _)) => recordersMade roster name rest h
    | (_, .error _) => []

/-- **What comes of asking for a recorder**, case by case. -/
theorem newRecorder_cases (h : Host) (route : RecorderRoute) (id : SetId) (name : Value) :
    (∃ failure, h.newRecorder route id name = (h, .error failure)) ∨
    ∃ command m, name = .text command ∧ command ≠ "" ∧ h.set? id = some m ∧
      h.newRecorder route id name =
        (h.putSet id (m.play (ensureSteps command)), .ok ⟨command, id⟩) := by
  unfold newRecorder
  cases hcheck : route.check name with
  | error failure => exact .inl ⟨failure, rfl⟩
  | ok command =>
    obtain ⟨rfl, hne⟩ := RecorderRoute.check_eq_ok_iff.1 hcheck
    cases hset : h.set? id with
    | none => exact .inl ⟨.fault .noSuchPart, by simp only [ensureCommand, hset]⟩
    | some m =>
      refine .inr ⟨command, m, rfl, hne, rfl, ?_⟩
      simp only [ensureCommand_eq hset, Value.asText_text]

/-- **A name with a character in it makes a recorder**, by any route. -/
theorem newRecorder_of_text {command : Text} (hset : h.set? id = some m) (route : RecorderRoute)
    (hne : command ≠ "") :
    h.newRecorder route id (.text command) =
      (h.putSet id (m.ensure command), .ok ⟨command, id⟩) := by
  have hcheck : route.check (.text command) = .ok command :=
    RecorderRoute.check_eq_ok_iff.2 ⟨rfl, hne⟩
  unfold newRecorder
  simp only [hcheck, ensureCommand, hset, Value.asText_text]

/-- So it makes a sink that keeps a tally, and changes nothing else. -/
theorem exists_newMemory {command : Text} (h : Host) (hne : command ≠ "") :
    ∃ made sink, h.newMemory (.text command) = (made, .ok sink) ∧ made.sets = h.sets ∧
      made.sink? sink = some (.memory command .empty) := by
  have hcheck : CommandName.check (.text CommandName.newRecorder) (.text command) = .ok command :=
    CommandName.check_eq_ok_iff.2 ⟨rfl, hne⟩
  refine ⟨{ h with sinks := h.sinks ++ [.memory command .empty] }, ⟨h.sinks.length⟩, ?_, rfl,
    List.getElem?_concat_length⟩
  simp only [newMemory, addSink, hcheck]

/-- A factory's script touches no set and makes no recorder. -/
theorem follow_cases (roster : RosterId) (name : Value) :
    ∀ (script : Script) (h : Host),
      (∃ after failure, follow roster name script h = (after, .error failure) ∧
        after.sets = h.sets) ∨
      ∃ after sink, follow roster name script h = (after, .ok (.sink sink)) ∧
        after.sets = h.sets
  | .make, h => by
    unfold follow newSilent addSink
    cases CommandName.check (.text CommandName.newRecorder) name with
    | error failure => exact .inl ⟨h, failure, rfl, rfl⟩
    | ok command => exact .inr ⟨_, _, rfl, rfl⟩
  | .giveUp, h => .inl ⟨h, _, rfl, rfl⟩
  | .enlist factory rest, h => follow_cases roster name rest (h.enlist roster factory)
  | .clear rest, h => follow_cases roster name rest (h.clearRoster roster)

/-- **What comes of calling a factory**, case by case: only that of a metric
set makes a recorder. -/
theorem make_cases (h : Host) (roster : RosterId) (name : Value) (factory : Factory) :
    (∃ after failure, h.make roster name factory = (after, .error failure) ∧
      after.sets = h.sets) ∨
    (∃ after sink, h.make roster name factory = (after, .ok (.sink sink)) ∧
      after.sets = h.sets) ∨
    ∃ set command m, factory = .recorders set ∧ name = .text command ∧ command ≠ "" ∧
      h.set? set = some m ∧ h.make roster name factory =
        (h.putSet set (m.play (ensureSteps command)), .ok (.recorder ⟨command, set⟩)) := by
  cases factory with
  | recorders set =>
    rcases h.newRecorder_cases .collector set name with
      ⟨failure, hfailed⟩ | ⟨command, m, hname, hne, hset, hmade⟩
    · exact .inl ⟨h, failure, by simp only [make, hfailed], rfl⟩
    · exact .inr (.inr ⟨set, command, m, rfl, hname, hne, hset, by simp only [make, hmade]⟩)
  | memory =>
    unfold make newMemory addSink
    cases CommandName.check (.text CommandName.newRecorder) name with
    | error failure => exact .inl ⟨h, failure, rfl, rfl⟩
    | ok command => exact .inr (.inl ⟨_, _, rfl, rfl⟩)
  | silent =>
    unfold make newSilent addSink
    cases CommandName.check (.text CommandName.newRecorder) name with
    | error failure => exact .inl ⟨h, failure, rfl, rfl⟩
    | ok command => exact .inr (.inl ⟨_, _, rfl, rfl⟩)
  | scripted label script =>
    rcases follow_cases roster name script h with hfailed | hmade
    · exact .inl hfailed
    · exact .inr (.inl hmade)

/-- The operations on a set that recorders are the outcome of. -/
def creations (id : SetId) (recorders : List Recorder) : List SetOperation :=
  (recorders.filter (·.set = id)).map fun r => .makeRecorder .collector (.text r.command)

end Host

namespace Act

open Host

/-- **The recorders that an act makes**, also where it fails in the end. -/
def recorders (h : Host) : Act → List Recorder
  | .newRecorder route id name => (h.newRecorder route id name).2.toOption.toList
  | .initializeCollectors roster name => recordersMade roster name (h.roster roster) h
  | _ => []

/-- **The operations on a set** that an act comes to. -/
def operations (h : Host) (id : SetId) : Act → List SetOperation
  | .newRecorder route other name => if other = id then [.makeRecorder route name] else []
  | .ensureCommand other name => if other = id then [.ensure name.asText] else []
  | .call (.recorder r) method arguments =>
    if r.set = id then [.call r.command method arguments] else []
  | .unregisterSet other => if other = id then [.unregister] else []
  | .initializeCollectors roster name =>
    creations id (recordersMade roster name (h.roster roster) h)
  | _ => []

end Act

namespace Host

variable {h after : Host} {id other : SetId} {m : MetricSet}

/-- The recorders that a run makes. -/
def recordersOf (h : Host) : List Act → List Recorder
  | [] => []
  | act :: acts => act.recorders h ++ (h.perform act).recordersOf acts

/-- **The log of a set** over a run: what the acts come to for it, from the
first act on that finds it. -/
def logOf (id : SetId) (h : Host) : List Act → List SetOperation
  | [] => []
  | act :: acts =>
    (if (h.set? id).isSome then act.operations h id else []) ++ logOf id (h.perform act) acts

/-! ## Runs in parts -/

theorem run_append (h : Host) (acts later : List Act) :
    h.run (acts ++ later) = (h.run acts).run later := List.foldl_append

theorem run_concat (h : Host) (acts : List Act) (act : Act) :
    h.run (acts ++ [act]) = (h.run acts).perform act := h.run_append acts [act]

theorem recordersOf_append (h : Host) (acts later : List Act) :
    h.recordersOf (acts ++ later) = h.recordersOf acts ++ (h.run acts).recordersOf later := by
  induction acts generalizing h with
  | nil => rfl
  | cons act acts ih => simp only [List.cons_append, recordersOf, ih, List.append_assoc]; rfl

/-- A recorder that was made stays made. -/
theorem mem_recordersOf_append {r : Recorder} {acts : List Act} (hr : r ∈ h.recordersOf acts)
    (later : List Act) : r ∈ h.recordersOf (acts ++ later) := by
  rw [recordersOf_append]
  exact List.mem_append_left _ hr

/-- **One of the acts has made it.** -/
theorem exists_act_of_mem_recordersOf {r : Recorder} {acts : List Act}
    (hr : r ∈ h.recordersOf acts) :
    ∃ before act later, acts = before ++ act :: later ∧ r ∈ act.recorders (h.run before) := by
  induction acts generalizing h with
  | nil => cases hr
  | cons act acts ih =>
    rw [recordersOf, List.mem_append] at hr
    rcases hr with hr | hr
    · exact ⟨[], act, acts, rfl, hr⟩
    · obtain ⟨before, made, later, rfl, hmade⟩ := ih hr
      exact ⟨act :: before, made, later, rfl, hmade⟩

theorem logOf_append (id : SetId) (h : Host) (acts later : List Act) :
    logOf id h (acts ++ later) = logOf id h acts ++ logOf id (h.run acts) later := by
  induction acts generalizing h with
  | nil => rfl
  | cons act acts ih => simp only [List.cons_append, logOf, ih, List.append_assoc]; rfl

/-! ## One act, for a set that there is -/

/-- Replacing another set goes unnoticed, and replacing this one is seen. -/
theorem set?_putSet (hset : h.set? id = some m) (other : SetId) {found : MetricSet}
    (hother : h.set? other = some found) (steps : List Primitive) :
    (h.putSet other (found.play steps)).set? id =
      some (m.play (if other = id then steps else [])) := by
  by_cases heq : other = id
  · subst heq
    rw [hset] at hother
    cases hother
    rw [if_pos rfl, set?_putSet_self hset]
  · rw [if_neg heq, set?_putSet_of_ne (Ne.symm heq), hset]
    rfl

theorem set?_of_sets_eq (hsets : after.sets = h.sets) : after.set? id = h.set? id := by
  unfold set?
  rw [hsets]

/-- **Factories leave in a set what their recorders do**: each is made sure
of. By induction on the factories; those of other sets, and those that make
no recorder, go unnoticed. -/
theorem set?_makeEach (hset : h.set? id = some m) (roster : RosterId) (name : Value)
    (factories : List Factory) :
    (makeEach roster name factories h).1.set? id = some (m.play
      (SetOperation.logSteps (creations id (recordersMade roster name factories h)))) := by
  induction factories generalizing h m with
  | nil => exact hset
  | cons factory rest ih =>
    have hrest : ∀ {made : Host} {collector : Collector},
        h.make roster name factory = (made, .ok collector) →
        (makeEach roster name (factory :: rest) h).1 = (makeEach roster name rest made).1 :=
      fun {made collector} hmade => by
        simp only [makeEach, hmade]
        split <;> rename_i hresult <;> rw [hresult]
    rcases h.make_cases roster name factory with
      ⟨after, failure, hmade, hsets⟩ | ⟨after, sink, hmade, hsets⟩ |
        ⟨set, command, found, -, -, hne, hfound, hmade⟩
    · simp only [makeEach, recordersMade, hmade]
      rwa [set?_of_sets_eq hsets]
    · rw [hrest hmade]
      simp only [recordersMade, hmade]
      exact ih (by rwa [set?_of_sets_eq hsets])
    · rw [hrest hmade]
      simp only [recordersMade, hmade]
      rw [ih (set?_putSet hset set hfound _), ← MetricSet.play_append]
      by_cases heq : set = id
      · simp [creations, heq, SetOperation.logSteps, SetOperation.steps_makeRecorder hne]
      · simp [creations, heq]

/-- **What a construction does to the sets**: it adds at most one, a new one,
which is not registered where the construction fails. -/
def Builds (h : Host) (built : Outcome SetId) : Prop :=
  built.1.sets = h.sets ∨ ∃ m : MetricSet, m.IsNew ∧ built.1.sets = h.sets ++ [m] ∧
    ∀ failure, built.2 = .error failure → m.registered = false

theorem builds_addSet (h : Host) (place : RegistryId) (config : Config) :
    h.Builds (h.addSet place config) := by
  unfold addSet
  dsimp only
  split
  · exact .inl rfl
  · rename_i buckets hbuckets
    have hunused := MetricSet.unused_fresh place config.boundsInForce buckets
    have hclimbing := Bounds.climbing_buckets hbuckets
    have hinfinite := Bounds.getLast?_buckets hbuckets
    split
    · exact .inr ⟨{ MetricSet.fresh place config.boundsInForce buckets with registered := true },
        ⟨fun s => hunused s, hclimbing, hinfinite⟩, rfl, fun _ hfailed => by cases hfailed⟩
    · exact .inr ⟨_, ⟨hunused, hclimbing, hinfinite⟩, rfl, fun _ _ => rfl⟩

theorem builds_construct (h : Host) (place : RegistryId) (bounds : Option Value)
    (given : Option Config) : h.Builds (h.construct place bounds given) := by
  unfold construct
  split
  · exact .inl rfl
  · exact h.builds_addSet place _

theorem builds_createSet (h : Host) (environment : Environment) (place : RegistryId)
    (given : Option Config) : h.Builds (h.createSet environment place given) := by
  unfold createSet
  split
  · exact h.builds_construct place none _
  · split
    · exact .inl rfl
    · exact (h.write _).builds_construct place none _

theorem builds_processSet (h : Host) (environment : Environment) :
    h.Builds (h.processSet environment) := by
  unfold processSet
  split
  · exact .inl rfl
  · have hbuilds := h.builds_createSet environment .default none
    split <;> rename_i hresult <;> rw [hresult] at hbuilds <;> exact hbuilds

section Builds

variable {built : Outcome SetId}

/-- The sets that were there stay as they were. -/
theorem Builds.set? (hbuilds : h.Builds built) (hset : h.set? id = some m) :
    built.1.set? id = some m := by
  obtain ⟨hid, -⟩ := set?_eq_some_iff.1 hset
  unfold Host.set? at *
  rcases hbuilds with hsets | ⟨added, -, hsets, -⟩
  · rwa [hsets]
  · rwa [hsets, List.getElem?_append_left hid]

/-- What was not there before is new, and not registered after a failure. -/
theorem Builds.isNew (hbuilds : h.Builds built) (hnone : h.set? id = none)
    (hset : built.1.set? id = some m) :
    m.IsNew ∧ ∀ failure, built.2 = .error failure → m.registered = false := by
  unfold Host.set? at *
  have hle := List.getElem?_eq_none_iff.1 hnone
  rcases hbuilds with hsets | ⟨added, hnew, hsets, hfailed⟩
  · rw [hsets, hnone] at hset
    cases hset
  · rw [hsets, List.getElem?_append_right hle, List.getElem?_singleton] at hset
    split at hset
    · cases hset
      exact ⟨hnew, hfailed⟩
    · cases hset

end Builds

/-! Other programs, sinks, rosters and the endpoint leave the sets alone. -/

theorem sets_addForeign (h : Host) (place : RegistryId) (kind : FamilyKind) (name help : String)
    (labels : List String) : (h.addForeign place kind name help labels).1.sets = h.sets := by
  unfold addForeign
  split
  · rfl
  · dsimp only
    split <;> rfl

theorem sets_reregister (h : Host) (place : RegistryId) (id : ForeignId) :
    (h.reregister place id).1.sets = h.sets := by
  unfold reregister
  split
  · rfl
  · split <;> rfl

theorem sets_drop (h : Host) (place : RegistryId) (source : Source) :
    (h.drop place source).1.sets = h.sets := by
  unfold drop
  split <;> rfl

theorem sets_startEndpoint (h : Host) (serve : Value → RegistryId → EndpointResult) (id : SetId)
    (port : Value) : (h.startEndpoint serve id port).1.sets = h.sets := by
  have htell : ∀ (record : Int → LogRecord) (started : Bool),
      (h.tellEndpoint port record started).1.sets = h.sets := fun record started => by
    unfold tellEndpoint
    split <;> rfl
  unfold startEndpoint
  split
  · rfl
  · split
    · exact htell _ _
    · exact htell _ _
    · rfl

theorem sets_addSink (h : Host) (make : Text → Sink) (name : Value) :
    (h.addSink make name).1.sets = h.sets := by
  unfold addSink
  split <;> rfl

theorem sets_register (h : Host) (roster : RosterId) (candidate : Option Factory) :
    (h.register roster candidate).1.sets = h.sets := by
  cases candidate <;> rfl

theorem sets_call_sink (h : Host) (sink : SinkId) (method : String) (arguments : List Value) :
    (h.call (.sink sink) method arguments).1.sets = h.sets := by
  unfold call
  split
  · rfl
  · split
    · unfold report
      dsimp only
      split <;> rfl
    · rfl
    · rfl

/-! Operations on another set go unnoticed. -/

theorem set?_newRecorder_of_ne (hne : id ≠ other) (route : RecorderRoute) (name : Value) :
    (h.newRecorder route other name).1.set? id = h.set? id := by
  rcases h.newRecorder_cases route other name with
    ⟨failure, hmade⟩ | ⟨command, found, -, -, -, hmade⟩
  · rw [hmade]
  · rw [hmade]
    exact set?_putSet_of_ne hne

theorem set?_ensureCommand_of_ne (hne : id ≠ other) (name : Value) :
    (h.ensureCommand other name).1.set? id = h.set? id := by
  unfold ensureCommand
  split
  · rfl
  · exact set?_putSet_of_ne hne

theorem set?_call_of_ne {r : Recorder} (hne : id ≠ r.set) (method : String)
    (arguments : List Value) :
    (h.call (.recorder r) method arguments).1.set? id = h.set? id := by
  unfold call
  split
  · rfl
  · split
    · unfold report
      dsimp only
      split
      · rfl
      · exact set?_putSet_of_ne hne
    · rfl
    · rfl

/-- **An act plays the steps of its operations** on a set, and changes
nothing else in it but that it may be registered no longer; and not even
that, unless one of the operations takes it out. -/
theorem set?_perform (hset : h.set? id = some m) (act : Act) :
    ∃ b, (h.perform act).set? id =
        some { m.play (SetOperation.logSteps (act.operations h id)) with registered := b } ∧
      (b = true → m.registered = true) ∧
      (.unregister ∉ act.operations h id → b = m.registered) := by
  have hplays : ∀ {found : Option MetricSet} {steps : List Primitive},
      found = some (m.play steps) →
        ∃ b, found = some { m.play steps with registered := b } ∧
          (b = true → m.registered = true) ∧
          (.unregister ∉ act.operations h id → b = m.registered) :=
    fun {_ steps} hfound => ⟨(m.play steps).registered, hfound,
      fun hb => by rwa [MetricSet.registered_play] at hb,
      fun _ => MetricSet.registered_play m steps⟩
  have hstays : ∀ {found : Option MetricSet}, found = h.set? id → found = some (m.play []) :=
    fun hfound => hfound.trans hset
  -- an operation on this set plays its steps, one on another set none
  have hsingle : ∀ {found : Option MetricSet} {op : SetOperation} {other : SetId},
      (other = id → found = some (m.play op.steps)) → (id ≠ other → found = h.set? id) →
      found = some (m.play (SetOperation.logSteps (if other = id then [op] else []))) :=
    fun {found op other} hown hother => by
      by_cases heq : other = id
      · simpa [heq, SetOperation.logSteps] using hown heq
      · rw [if_neg heq]
        exact hstays (hother (Ne.symm heq))
  cases act with
  | newRecorder route other name =>
    refine hplays (hsingle (fun heq => ?_) fun hne => set?_newRecorder_of_ne hne route name)
    subst heq
    exact set?_newRecorder hset route name
  | ensureCommand other name =>
    refine hplays (hsingle (fun heq => ?_) fun hne => set?_ensureCommand_of_ne hne name)
    subst heq
    simp only [perform, ensureCommand_eq hset, SetOperation.steps_ensure]
    exact set?_putSet_self hset _
  | call collector method arguments =>
    cases collector with
    | recorder r =>
      refine hplays (hsingle (fun heq => ?_) fun hne => set?_call_of_ne hne method arguments)
      subst heq
      exact set?_call hset r.command method arguments
    | sink sink =>
      exact hplays (hstays (set?_of_sets_eq (h.sets_call_sink sink method arguments)))
  | unregisterSet other =>
    have hsteps : SetOperation.logSteps ((Act.unregisterSet other).operations h id) = [] := by
      simp only [Act.operations]
      split <;> rfl
    obtain ⟨b, hleft, hb, hsame⟩ := set?_unregisterSet hset other
    rw [hsteps]
    refine ⟨b, hleft, hb, fun hnot => hsame fun heq => hnot ?_⟩
    simp [Act.operations, heq]
  | initializeCollectors roster name => exact hplays (set?_makeEach hset roster name _)
  | construct place bounds given =>
    exact hplays ((h.builds_construct place bounds given).set? hset)
  | createSet environment place given =>
    exact hplays ((h.builds_createSet environment place given).set? hset)
  | processSet environment => exact hplays ((h.builds_processSet environment).set? hset)
  | addForeign place kind name help labels =>
    exact hplays (hstays (set?_of_sets_eq (h.sets_addForeign place kind name help labels)))
  | reregister place id => exact hplays (hstays (set?_of_sets_eq (h.sets_reregister place id)))
  | drop place source => exact hplays (hstays (set?_of_sets_eq (h.sets_drop place source)))
  | startEndpoint serve other port =>
    exact hplays (hstays (set?_of_sets_eq (h.sets_startEndpoint serve other port)))
  | newMemory name => exact hplays (hstays (set?_of_sets_eq (h.sets_addSink _ name)))
  | newSilent name => exact hplays (hstays (set?_of_sets_eq (h.sets_addSink _ name)))
  | register roster candidate =>
    exact hplays (hstays (set?_of_sets_eq (h.sets_register roster candidate)))
  | addRegistry | addRoster | clearRoster roster => exact hplays hset

/-- **An act brings in no set but a new one.** -/
theorem isNew_of_perform (hnone : h.set? id = none) (act : Act)
    (hset : (h.perform act).set? id = some m) : m.IsNew := by
  have habsurd : ∀ {found : Option MetricSet}, found = some m → found = h.set? id → m.IsNew :=
    fun hfound heq => by
      rw [heq, hnone] at hfound
      cases hfound
  have hrecords : h.Records (h.perform act) → m.IsNew := fun hrec => by
    obtain ⟨steps, hsteps⟩ := hrec.sets
    rw [hsteps, hnone] at hset
    cases hset
  cases act with
  | construct place bounds given =>
    exact ((h.builds_construct place bounds given).isNew hnone hset).1
  | createSet environment place given =>
    exact ((h.builds_createSet environment place given).isNew hnone hset).1
  | processSet environment => exact ((h.builds_processSet environment).isNew hnone hset).1
  | unregisterSet other =>
    have hle : (h.unregisterSet other).1.sets.length = h.sets.length := by
      unfold unregisterSet
      split
      · rfl
      · split
        · rfl
        · dsimp only
          split
          · rfl
          · rw [sets_write, length_sets_putSet]
            rfl
    have hlt := (set?_eq_some_iff.1 hset).1
    have hge := List.getElem?_eq_none_iff.1 hnone
    simp only [perform] at hlt
    omega
  | addForeign place kind name help labels =>
    exact habsurd hset (set?_of_sets_eq (h.sets_addForeign place kind name help labels))
  | reregister place id => exact habsurd hset (set?_of_sets_eq (h.sets_reregister place id))
  | drop place source => exact habsurd hset (set?_of_sets_eq (h.sets_drop place source))
  | addRegistry => exact habsurd hset rfl
  | addRoster => exact habsurd hset rfl
  | startEndpoint serve other port => exact hrecords (h.records_startEndpoint serve other port)
  | newRecorder route other name => exact hrecords (h.records_newRecorder route other name)
  | ensureCommand other name => exact hrecords (h.records_ensureCommand other name)
  | newMemory name => exact hrecords (h.records_addSink _ name)
  | newSilent name => exact hrecords (h.records_addSink _ name)
  | call collector method arguments => exact hrecords (h.records_call collector method arguments)
  | register roster candidate => exact hrecords (h.records_register roster candidate)
  | clearRoster roster => exact hrecords (h.records_clearRoster roster)
  | initializeCollectors roster name => exact hrecords (h.records_initializeCollectors roster name)

/-! ## A run, for a set that there is in the end -/

/-- **A run plays on a set the steps of the set's own log**, whatever is done
to others, and takes it out only if the log says so. -/
theorem set?_run (hset : h.set? id = some m) (acts : List Act) :
    ∃ b, (h.run acts).set? id =
        some { m.play (SetOperation.logSteps (logOf id h acts)) with registered := b } ∧
      (b = true → m.registered = true) ∧
      (.unregister ∉ logOf id h acts → b = m.registered) := by
  induction acts generalizing h m with
  | nil => exact ⟨m.registered, hset, fun hb => hb, fun _ => rfl⟩
  | cons act acts ih =>
    obtain ⟨b, hact, hb, hsame⟩ := set?_perform hset act
    obtain ⟨b', hrun, hb', hsame'⟩ := ih hact
    have hlog : logOf id h (act :: acts) =
        act.operations h id ++ logOf id (h.perform act) acts := by
      rw [logOf, hset]
      rfl
    rw [MetricSet.play_registered] at hrun
    rw [hlog]
    refine ⟨b', ?_, fun h => hb (hb' h), fun hnot => ?_⟩
    · rw [SetOperation.logSteps, List.flatMap_append, MetricSet.play_append]
      exact hrun
    · rw [List.mem_append, not_or] at hnot
      exact (hsame' hnot.2).trans (hsame hnot.1)

/-- A set that is there stays there. -/
theorem exists_set?_run (hset : h.set? id = some m) (acts : List Act) :
    ∃ m', (h.run acts).set? id = some m' ∧ (m'.registered = true → m.registered = true) := by
  obtain ⟨b, hrun, hb, -⟩ := set?_run hset acts
  exact ⟨_, hrun, hb⟩

/-- Nothing is logged for a set that is not there in the end. -/
theorem logOf_eq_nil {acts : List Act} (hnone : (h.run acts).set? id = none) :
    logOf id h acts = [] := by
  induction acts generalizing h with
  | nil => rfl
  | cons act acts ih =>
    have hbefore : h.set? id = none := by
      cases hset : h.set? id with
      | none => rfl
      | some m =>
        obtain ⟨m', hrun, -⟩ := exists_set?_run hset (act :: acts)
        rw [hnone] at hrun
        cases hrun
    rw [logOf, hbefore, ih hnone]
    rfl

/-- **What every new set has and every operation keeps, a set has after a
run** whose acts meet a condition. By induction on the run from its end; a
set that comes in with the last act has no log yet. -/
theorem set_induction {P : List Act → Act → Prop} {Q : List SetOperation → MetricSet → Prop}
    (hnew : ∀ m : MetricSet, m.IsNew → Q [] m)
    (hstep : ∀ acts act m b, P acts act → Q (logOf id initial acts) m →
      Q (logOf id initial acts ++ act.operations (initial.run acts) id)
        { m.play (SetOperation.logSteps (act.operations (initial.run acts) id)) with
          registered := b })
    {acts : List Act} (hacts : Throughout P acts) (hset : (initial.run acts).set? id = some m) :
    Q (logOf id initial acts) m := by
  induction acts using List.reverseRecOn generalizing m with
  | nil =>
    have hnone : initial.set? id = none := rfl
    rw [run, List.foldl_nil, hnone] at hset
    cases hset
  | append_singleton acts act ih =>
    obtain ⟨hbefore, hact⟩ := throughout_concat.1 hacts
    rw [run_concat] at hset
    rw [logOf_append]
    cases hfound : (initial.run acts).set? id with
    | none =>
      have hlog : logOf id (initial.run acts) [act] = [] := by simp [logOf, hfound]
      rw [logOf_eq_nil hfound, hlog]
      exact hnew m (isNew_of_perform hfound act hset)
    | some before =>
      have hlog : logOf id (initial.run acts) [act] = act.operations (initial.run acts) id := by
        simp [logOf, hfound]
      obtain ⟨b, hperform, -⟩ := set?_perform hfound act
      rw [hperform] at hset
      cases hset
      rw [hlog]
      exact hstep acts act before b hact (ih hbefore hfound)

/-- **A set is what its log leaves in a new one**, save for whether it is
registered. -/
theorem exists_new_of_run {acts : List Act} (hset : (initial.run acts).set? id = some m) :
    ∃ (new : MetricSet) (b : Bool), new.IsNew ∧
      m = { new.play (SetOperation.logSteps (logOf id initial acts)) with registered := b } := by
  refine set_induction (P := fun _ _ => True)
    (Q := fun log m => ∃ (new : MetricSet) (b : Bool), new.IsNew ∧
      m = { new.play (SetOperation.logSteps log) with registered := b })
    (fun m hm => ⟨m, m.registered, hm, rfl⟩) ?_ (fun _ _ _ _ => trivial) hset
  rintro acts act _ b - ⟨new, b', hnew, rfl⟩
  refine ⟨new, b, hnew, ?_⟩
  rw [MetricSet.play_registered]
  simp only [SetOperation.logSteps, List.flatMap_append, MetricSet.play_append]

/-- **A set accounts for all that was done to it**: for its log, and for what
it is played from there on. -/
theorem accounts_play_of_run {acts : List Act} (hset : (initial.run acts).set? id = some m)
    (later : List SetOperation) {command : Text}
    (hused : ∃ op ∈ logOf id initial acts ++ later, op.uses command = true) :
    (m.play (SetOperation.logSteps later)).Accounts (logOf id initial acts ++ later) command := by
  obtain ⟨new, b, hnew, rfl⟩ := exists_new_of_run hset
  have hplayed : (new.play (SetOperation.logSteps (logOf id initial acts))).play
      (SetOperation.logSteps later) =
        new.play (SetOperation.logSteps (logOf id initial acts ++ later)) := by
    rw [← MetricSet.play_append, SetOperation.logSteps, SetOperation.logSteps,
      SetOperation.logSteps, List.flatMap_append]
  obtain ⟨hcounter, hexact, hgauge, hhistogram⟩ :=
    MetricSet.accounts_play hnew.unused hnew.climbing hnew.infinite hused
  rw [MetricSet.play_registered, hplayed]
  exact ⟨hcounter, hexact, hgauge, hhistogram⟩

end Host

end CommandMetrics
