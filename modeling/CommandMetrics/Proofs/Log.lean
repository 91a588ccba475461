import CommandMetrics.Proofs.Coherence
/-!
# The log — what is written about sets, and what it adds up to

The log only grows, so what an act writes is what stands behind the log
that it finds (`Act.writes`, `log_perform`). A construction writes what
came of it, and that is one record if it was not refused (`Reports`); a set
that leaves its registry writes another one. Recording writes nothing, and
all else that is done writes nothing about sets. So the records of sets
that came and of sets that left balance with the flags of the sets
(`Balanced`), whatever was taken out by hand in between.
-/

namespace CommandMetrics

namespace LogRecord

/-- A set came in. -/
def isArrival : LogRecord → Bool
  | setRegistered .. => true
  | _ => false

/-- A set left. -/
def isDeparture : LogRecord → Bool
  | setUnregistered => true
  | _ => false

end LogRecord

/-- The records of a level among some. -/
def LogLevel.among (level : LogLevel) (records : List LogRecord) : List LogRecord :=
  records.filter (·.level = level)

/-- What an act writes: what stands behind the log that it finds. -/
def Act.writes (h : Host) (act : Act) : List LogRecord :=
  (h.perform act).log.drop h.log.length

/-- What comes of a construction, where an act makes one. Whoever asks for
the set of the process makes one only while none is held. -/
def Act.built? (h : Host) : Act → Option (Except Failure SetId)
  | .processSet environment =>
    if h.current.isSome then none else some (h.processSet environment).2
  | act => act.construction? h

/-- An act that records: recorders and sinks are made, commands are made sure
of, collectors are told. -/
def Act.Silent : Act → Prop
  | .newRecorder .. | .ensureCommand .. | .newMemory _ | .newSilent _ | .call .. => True
  | _ => False

namespace Host

/-- Whether a set says that it is registered. -/
def isRegistered (h : Host) (id : SetId) : Bool := (h.set? id).any MetricSet.registered

/-- **Sets that came and sets that left balance** with those that say that
they are registered. -/
def Balanced (h : Host) : Prop :=
  h.log.countP LogRecord.isArrival =
    h.log.countP LogRecord.isDeparture + h.sets.countP MetricSet.registered

variable {h h' after : Host} {place : RegistryId} {id : SetId} {m : MetricSet} {act : Act}
variable {config : Config} {records more : List LogRecord} {built : Outcome SetId}

/-! ## Constructions -/

/-- **What a construction leaves** among the sets and in the log, by what
comes of it. What is written of the environment stands in front and is for
debugging only. -/
inductive Reports (h : Host) : Outcome SetId → Prop
  | arrived {after : Host} {m : MetricSet} {loaded : List LogRecord}
    (hloaded : ∀ record ∈ loaded, record.level = .debug)
    (hsets : after.sets = h.sets ++ [m]) (hflag : m.registered = true)
    (hlog : after.log = h.log ++ (loaded ++ [.setRegistered 11 m.bounds.length])) :
    Reports h (after, .ok ⟨h.sets.length⟩)
  | clashed {after : Host} {m : MetricSet} {loaded : List LogRecord} {name words : String}
    {names : List String} (hloaded : ∀ record ∈ loaded, record.level = .debug)
    (hsets : after.sets = h.sets ++ [m]) (hflag : m.registered = false)
    (hlog : after.log = h.log ++ (loaded ++ [.registrationFailed name words])) :
    Reports h (after, .error (.conflict name names))
  | refused {after : Host} {loaded : List LogRecord} {failure : Failure}
    (hloaded : ∀ record ∈ loaded, record.level = .debug) (hsets : after.sets = h.sets)
    (hkind : ∀ e, failure = .adapter e → e.kind ≠ .registrationConflict)
    (hlog : after.log = h.log ++ loaded) :
    Reports h (after, .error failure)

/-- **A set that is added is reported**, unless its bounds cannot be laid
out. -/
theorem reports_addSet (hnumbered : h.Numbered) (place : RegistryId) (config : Config) :
    h.Reports (h.addSet place config) := by
  have hnone : ∀ record ∈ ([] : List LogRecord), record.level = .debug := nofun
  cases hbuckets : Bounds.buckets config.boundsInForce with
  | error error =>
    rw [addSet_of_layout hbuckets]
    exact .refused hnone rfl (fun _ heq => nomatch heq) (List.append_nil _).symm
  | ok buckets =>
    cases hfirst : (h.registry place).firstClash? Series.all with
    | none =>
      rw [addSet_of_clear hnumbered hbuckets hfirst]
      exact .arrived
        (m := { MetricSet.fresh place config.boundsInForce buckets with registered := true })
        hnone rfl rfl rfl
    | some s =>
      rw [addSet_of_clash hnumbered hbuckets hfirst]
      exact .clashed (m := MetricSet.fresh place config.boundsInForce buckets) hnone rfl rfl rfl

/-- What is not even tried is not reported. -/
theorem reports_of_refused {failure : Failure}
    (hkind : ∀ e, failure = .adapter e → e.kind = .configuration) :
    h.Reports (h, .error failure) := by
  have hnone : ∀ record ∈ ([] : List LogRecord), record.level = .debug := nofun
  refine .refused hnone rfl (fun e he => ?_) (List.append_nil _).symm
  rw [hkind e he]
  decide

theorem reports_construct (hnumbered : h.Numbered) (place : RegistryId) (bounds : Option Value)
    (given : Option Config) : h.Reports (h.construct place bounds given) := by
  unfold construct
  cases hresolve : Config.resolve bounds given with
  | error failure =>
    obtain ⟨e, rfl, hkind⟩ := Config.kind_of_resolve hresolve
    refine reports_of_refused fun other heq => ?_
    cases heq
    exact hkind
  | ok config => exact reports_addSet hnumbered place config

/-- An environment that was loaded is written in front. -/
theorem Reports.of_loaded (hreports : (h.write (.environmentLoaded config)).Reports built) :
    h.Reports built := by
  have hdebug : ∀ {loaded : List LogRecord}, (∀ record ∈ loaded, record.level = .debug) →
      ∀ record ∈ .environmentLoaded config :: loaded, record.level = .debug :=
    fun hloaded => List.forall_mem_cons.2 ⟨rfl, hloaded⟩
  have hfront : ∀ {log loaded : List LogRecord},
      log = (h.write (.environmentLoaded config)).log ++ loaded →
        log = h.log ++ (.environmentLoaded config :: loaded) := by
    rintro log loaded rfl
    exact List.append_assoc _ _ _
  cases hreports with
  | arrived hloaded hsets hflag hlog => exact .arrived (hdebug hloaded) hsets hflag (hfront hlog)
  | clashed hloaded hsets hflag hlog => exact .clashed (hdebug hloaded) hsets hflag (hfront hlog)
  | refused hloaded hsets hkind hlog => exact .refused (hdebug hloaded) hsets hkind (hfront hlog)

theorem reports_createSet (hnumbered : h.Numbered) (environment : Environment)
    (place : RegistryId) (given : Option Config) :
    h.Reports (h.createSet environment place given) := by
  unfold createSet
  cases given with
  | some config => exact reports_construct hnumbered place none _
  | none =>
    cases hconfig : environment.config with
    | error failure => exact reports_of_refused fun e he => Environment.kind_of_config hconfig he
    | ok config =>
      have hloaded : (h.write (.environmentLoaded config)).Numbered := hnumbered
      exact .of_loaded (reports_construct hloaded place none _)

/-- **So is the set of the process**, when it is made. -/
theorem reports_processSet (hnumbered : h.Numbered) (hnone : h.current = none)
    (environment : Environment) : h.Reports (h.processSet environment) := by
  unfold processSet
  rw [hnone]
  have hreports := reports_createSet hnumbered environment .default none
  dsimp only
  cases hmade : h.createSet environment .default none with
  | mk after result =>
    rw [hmade] at hreports
    cases hreports with
    | arrived hloaded hsets hflag hlog => exact .arrived hloaded hsets hflag hlog
    | clashed hloaded hsets hflag hlog => exact .clashed hloaded hsets hflag hlog
    | refused hloaded hsets hkind hlog => exact .refused hloaded hsets hkind hlog

/-- **Every construction is reported.** -/
theorem reports_of_built? (hnumbered : h.Numbered) {result : Except Failure SetId}
    (hbuilt : act.built? h = some result) : h.Reports (h.perform act, result) := by
  cases act with
  | construct place bounds given =>
    cases hbuilt
    exact reports_construct hnumbered place bounds given
  | createSet environment place given =>
    cases hbuilt
    exact reports_createSet hnumbered environment place given
  | processSet environment =>
    cases hcurrent : h.current with
    | some id => simp [Act.built?, hcurrent] at hbuilt
    | none =>
      obtain rfl : (h.processSet environment).2 = result := by
        simpa [Act.built?, hcurrent] using hbuilt
      exact reports_processSet hnumbered hcurrent environment
  | _ => cases hbuilt

/-! ## Sets that leave -/

/-- **A set that leaves is written**, and one that stays is not, whether it
was not registered in the first place or could not be taken out. -/
theorem log_unregisterSet (hb : h.Booked) (id : SetId) :
    (h.unregisterSet id).1.log = h.log ++
      if h.isRegistered id && !(h.unregisterSet id).1.isRegistered id then [.setUnregistered]
      else [] := by
  unfold isRegistered
  cases hset : h.set? id with
  | none =>
    have hleft : h.unregisterSet id = (h, .error (.fault .noSuchPart)) := by
      unfold unregisterSet
      rw [hset]
    simp [hleft, hset]
  | some m =>
    rcases hb.unregisterSet_cases hset with
      ⟨hflag, hleft⟩ | ⟨hflag, -, hleft⟩ | ⟨hflag, s, -, hleft⟩
    · simp [hleft, hflag]
    · have hgone : (h.unregisterSet id).1.set? id = some { m with registered := false } := by
        rw [hleft]
        exact set?_putSet_self (h := h.strip _ _) hset _
      rw [hgone]
      simp only [Option.any_some, hflag, Bool.not_false, Bool.and_self, if_true]
      rw [hleft]
      rfl
    · have hstays : (h.unregisterSet id).1.set? id = some m := by
        rw [hleft]
        exact hset
      rw [hstays]
      simp only [Option.any_some, hflag, Bool.not_true, Bool.and_false, Bool.false_eq_true,
        if_false, List.append_nil]
      rw [hleft]
      rfl

/-! ## Recording -/

theorem log_ensureCommand (h : Host) (id : SetId) (name : Value) :
    (h.ensureCommand id name).1.log = h.log := by
  unfold ensureCommand
  split <;> rfl

theorem log_newRecorder (h : Host) (route : RecorderRoute) (id : SetId) (name : Value) :
    (h.newRecorder route id name).1.log = h.log := by
  unfold newRecorder
  split
  · rfl
  · rename_i command _
    have hensured := h.log_ensureCommand id (.text command)
    split <;> rename_i hresult <;> rwa [hresult] at hensured

theorem log_addSink (h : Host) (make : Text → Sink) (name : Value) :
    (h.addSink make name).1.log = h.log := by
  unfold addSink
  split <;> rfl

theorem log_report (h : Host) (collector : Collector) (signal : Signal) :
    (h.report collector signal).1.log = h.log := by
  unfold report
  split <;> dsimp only <;> split <;> rfl

theorem log_call (h : Host) (collector : Collector) (method : String) (arguments : List Value) :
    (h.call collector method arguments).1.log = h.log := by
  unfold call
  split
  · rfl
  · split
    · exact h.log_report collector _
    · rfl
    · rfl

/-- **Recording writes nothing**, whether or not it fails. -/
theorem log_of_silent (hsilent : act.Silent) : (h.perform act).log = h.log := by
  cases act with
  | newRecorder route id name => exact h.log_newRecorder route id name
  | ensureCommand id name => exact h.log_ensureCommand id name
  | newMemory name => exact h.log_addSink _ name
  | newSilent name => exact h.log_addSink _ name
  | call collector method arguments => exact h.log_call collector method arguments
  | _ => exact hsilent.elim

/-! ## Rosters -/

/-- **Nothing was written but that factories were enlisted.** -/
def Enlists (h after : Host) : Prop :=
  ∃ records, after.log = h.log ++ records ∧
    ∀ record ∈ records, ∃ shown total, record = .factoryEnlisted shown total

theorem Enlists.of_log_eq (hlog : after.log = h.log) : h.Enlists after :=
  ⟨[], hlog.trans (List.append_nil _).symm, nofun⟩

theorem Enlists.trans (hfirst : h.Enlists h') (hsecond : h'.Enlists after) : h.Enlists after := by
  obtain ⟨records, hlog, hrecords⟩ := hfirst
  obtain ⟨more, hlog', hmore⟩ := hsecond
  refine ⟨records ++ more, by rw [hlog', hlog, List.append_assoc], fun record hrecord => ?_⟩
  rcases List.mem_append.1 hrecord with hold | hnew
  · exact hrecords record hold
  · exact hmore record hnew

theorem enlists_enlist (h : Host) (id : RosterId) (factory : Factory) :
    h.Enlists (h.enlist id factory) :=
  ⟨_, rfl, fun _ hrecord => ⟨_, _, List.mem_singleton.1 hrecord⟩⟩

/-- A factory's script writes of the factories that it enlists. -/
theorem enlists_follow (id : RosterId) (name : Value) :
    ∀ (script : Script) (h : Host), h.Enlists (follow id name script h).1
  | .make, h => by
    have hmade := h.log_addSink .silent name
    unfold follow
    split <;> rename_i hresult <;> exact .of_log_eq (congrArg Prod.fst hresult ▸ hmade)
  | .giveUp, h => .of_log_eq rfl
  | .enlist factory rest, h =>
    (h.enlists_enlist id factory).trans (enlists_follow id name rest _)
  | .clear rest, h =>
    .trans (.of_log_eq (rfl : (h.clearRoster id).log = h.log)) (enlists_follow id name rest _)

/-- Factories of sets and sinks write nothing. -/
theorem enlists_make (h : Host) (id : RosterId) (name : Value) (factory : Factory) :
    h.Enlists (h.make id name factory).1 := by
  unfold make
  split
  · rename_i set
    have hmade := h.log_newRecorder .collector set name
    split <;> rename_i hresult <;> exact .of_log_eq (congrArg Prod.fst hresult ▸ hmade)
  · have hmade := h.log_addSink (fun command => .memory command .empty) name
    split <;> rename_i hresult <;> exact .of_log_eq (congrArg Prod.fst hresult ▸ hmade)
  · have hmade := h.log_addSink .silent name
    split <;> rename_i hresult <;> exact .of_log_eq (congrArg Prod.fst hresult ▸ hmade)
  · exact enlists_follow id name _ h

/-- **Calling factories enlists factories**, and writes nothing else. -/
theorem enlists_makeEach (id : RosterId) (name : Value) (factories : List Factory) (h : Host) :
    h.Enlists (makeEach id name factories h).1 := by
  induction factories generalizing h with
  | nil => exact .of_log_eq rfl
  | cons factory rest ih =>
    have hmade := h.enlists_make id name factory
    unfold makeEach
    split
    · rename_i hresult
      rwa [hresult] at hmade
    · rename_i made collector hresult
      rw [hresult] at hmade
      have hrest := hmade.trans (ih made)
      split <;> rename_i hresult <;> exact congrArg Prod.fst hresult ▸ hrest

/-! ## All other acts -/

/-- **Nothing was written of sets**, and no flag of a set has changed. -/
structure Unconcerned (h after : Host) : Prop where
  log : ∃ records, after.log = h.log ++ records ∧
    ∀ record ∈ records, record.isArrival = false ∧ record.isDeparture = false
  flags : after.sets.map MetricSet.registered = h.sets.map MetricSet.registered

/-- Recording changes no flag. -/
theorem Records.flags (hrec : h.Records after) :
    after.sets.map MetricSet.registered = h.sets.map MetricSet.registered := by
  obtain ⟨steps, hsteps⟩ := hrec.sets
  refine List.ext_getElem? fun i => ?_
  have hi : after.sets[i]? = (h.sets[i]?).map fun m => m.play (steps ⟨i⟩) := hsteps ⟨i⟩
  rw [List.getElem?_map, List.getElem?_map, hi, Option.map_map]
  congr 1
  funext m
  exact MetricSet.registered_play m _

theorem Unconcerned.of_log_eq (hlog : after.log = h.log) (hsets : after.sets = h.sets) :
    h.Unconcerned after :=
  ⟨⟨[], hlog.trans (List.append_nil _).symm, nofun⟩, by rw [hsets]⟩

theorem Enlists.unconcerned (henlists : h.Enlists after) (hrec : h.Records after) :
    h.Unconcerned after := by
  obtain ⟨records, hlog, hrecords⟩ := henlists
  refine ⟨⟨records, hlog, fun record hrecord => ?_⟩, hrec.flags⟩
  obtain ⟨shown, total, rfl⟩ := hrecords record hrecord
  exact ⟨rfl, rfl⟩

theorem unconcerned_addForeign (h : Host) (place : RegistryId) (kind : FamilyKind)
    (name help : String) (labels : List String) :
    h.Unconcerned (h.addForeign place kind name help labels).1 := by
  refine .of_log_eq ?_ (h.sets_addForeign place kind name help labels)
  unfold addForeign
  split
  · rfl
  · dsimp only
    split <;> rfl

theorem unconcerned_reregister (h : Host) (place : RegistryId) (id : ForeignId) :
    h.Unconcerned (h.reregister place id).1 := by
  refine .of_log_eq ?_ (h.sets_reregister place id)
  unfold reregister
  split
  · rfl
  · split <;> rfl

theorem unconcerned_drop (h : Host) (place : RegistryId) (source : Source) :
    h.Unconcerned (h.drop place source).1 := by
  refine .of_log_eq ?_ (h.sets_drop place source)
  unfold drop
  split <;> rfl

/-- The endpoint writes of itself. -/
theorem unconcerned_startEndpoint (h : Host) (serve : Value → RegistryId → EndpointResult)
    (id : SetId) (port : Value) : h.Unconcerned (h.startEndpoint serve id port).1 := by
  have htell : ∀ (record : Int → LogRecord) (started : Bool),
      (∀ n, (record n).isArrival = false ∧ (record n).isDeparture = false) →
        h.Unconcerned (h.tellEndpoint port record started).1 := by
    intro record started hrecord
    unfold tellEndpoint
    split
    · refine ⟨⟨_, rfl, fun written hwritten => ?_⟩, rfl⟩
      rw [List.mem_singleton.1 hwritten]
      exact hrecord _
    · exact .of_log_eq rfl rfl
  unfold startEndpoint
  split
  · exact .of_log_eq rfl rfl
  · split
    · exact htell _ _ fun _ => ⟨rfl, rfl⟩
    · exact htell _ _ fun _ => ⟨rfl, rfl⟩
    · exact .of_log_eq rfl rfl

/-- **What neither constructs a set nor takes one out is not concerned with
sets**, as far as flags and the log go. -/
theorem unconcerned_perform (hbuilt : act.built? h = none)
    (hstays : ∀ id, act ≠ .unregisterSet id) : h.Unconcerned (h.perform act) := by
  cases act with
  | construct place bounds given => cases hbuilt
  | createSet environment place given => cases hbuilt
  | processSet environment =>
    cases hcurrent : h.current with
    | none => simp [Act.built?, hcurrent] at hbuilt
    | some id =>
      have hasked : h.processSet environment = (h, .ok id) := by
        unfold processSet
        rw [hcurrent]
      simp only [perform, hasked]
      exact .of_log_eq rfl rfl
  | unregisterSet id => exact absurd rfl (hstays id)
  | addForeign place kind name help labels =>
    exact h.unconcerned_addForeign place kind name help labels
  | reregister place id => exact h.unconcerned_reregister place id
  | drop place source => exact h.unconcerned_drop place source
  | startEndpoint serve id port => exact h.unconcerned_startEndpoint serve id port
  | newRecorder route id name =>
    exact (Enlists.of_log_eq (h.log_newRecorder route id name)).unconcerned
      (h.records_newRecorder route id name)
  | ensureCommand id name =>
    exact (Enlists.of_log_eq (h.log_ensureCommand id name)).unconcerned
      (h.records_ensureCommand id name)
  | newMemory name => exact .of_log_eq (h.log_addSink _ name) (h.sets_addSink _ name)
  | newSilent name => exact .of_log_eq (h.log_addSink _ name) (h.sets_addSink _ name)
  | call collector method arguments =>
    exact (Enlists.of_log_eq (h.log_call collector method arguments)).unconcerned
      (h.records_call collector method arguments)
  | register id candidate =>
    cases candidate with
    | none => exact .of_log_eq rfl rfl
    | some factory => exact (h.enlists_enlist id factory).unconcerned (h.records_enlist id factory)
  | initializeCollectors id name =>
    exact (enlists_makeEach id name _ h).unconcerned (h.records_initializeCollectors id name)
  | addRegistry | addRoster | clearRoster id => exact .of_log_eq rfl rfl

/-! ## The balance -/

/-- What is not concerned with sets keeps the balance. -/
theorem Balanced.of_unconcerned (hbalanced : h.Balanced) (hother : h.Unconcerned after) :
    after.Balanced := by
  obtain ⟨⟨records, hlog, hrecords⟩, hflags⟩ := hother
  have harrivals : records.countP LogRecord.isArrival = 0 :=
    List.countP_eq_zero.2 fun record hrecord => by simp [(hrecords record hrecord).1]
  have hdepartures : records.countP LogRecord.isDeparture = 0 :=
    List.countP_eq_zero.2 fun record hrecord => by simp [(hrecords record hrecord).2]
  have hsame : after.sets.countP MetricSet.registered = h.sets.countP MetricSet.registered := by
    have hcount := congrArg (List.countP id) hflags
    rwa [List.countP_map, List.countP_map] at hcount
  unfold Balanced at *
  rw [hlog, List.countP_append, List.countP_append, harrivals, hdepartures, hsame]
  exact hbalanced

/-- A construction that returns adds to both sides, and one that fails to
neither. -/
theorem Balanced.of_reports (hbalanced : h.Balanced) (hreports : h.Reports built) :
    built.1.Balanced := by
  have hdebug : ∀ {loaded : List LogRecord}, (∀ record ∈ loaded, record.level = .debug) →
      loaded.countP LogRecord.isArrival = 0 ∧ loaded.countP LogRecord.isDeparture = 0 := by
    intro loaded hloaded
    constructor
    all_goals
      refine List.countP_eq_zero.2 fun record hrecord htold => ?_
      have hlevel := hloaded record hrecord
      cases record <;> cases htold
      cases hlevel
  unfold Balanced at *
  cases hreports with
  | arrived hloaded hsets hflag hlog =>
    obtain ⟨harrivals, hdepartures⟩ := hdebug hloaded
    simp only [hlog, hsets, List.countP_append, harrivals, hdepartures, List.countP_singleton,
      hflag, LogRecord.isArrival, LogRecord.isDeparture, if_true, Bool.false_eq_true, if_false]
    omega
  | clashed hloaded hsets hflag hlog =>
    obtain ⟨harrivals, hdepartures⟩ := hdebug hloaded
    simp only [hlog, hsets, List.countP_append, harrivals, hdepartures, List.countP_singleton,
      hflag, LogRecord.isArrival, LogRecord.isDeparture, Bool.false_eq_true, if_false]
    omega
  | refused hloaded hsets hkind hlog =>
    obtain ⟨harrivals, hdepartures⟩ := hdebug hloaded
    simp only [hlog, hsets, List.countP_append, harrivals, hdepartures]
    omega

/-- **A set that leaves is one less that is registered, and one more that
left.** -/
theorem Balanced.unregisterSet (hbalanced : h.Balanced) (hb : h.Booked) (id : SetId) :
    (h.unregisterSet id).1.Balanced := by
  cases hset : h.set? id with
  | none =>
    unfold Host.unregisterSet
    rw [hset]
    exact hbalanced
  | some m =>
    rcases hb.unregisterSet_cases hset with
      ⟨-, hleft⟩ | ⟨hflag, -, hleft⟩ | ⟨-, s, -, hleft⟩ <;> rw [hleft]
    · exact hbalanced
    · obtain ⟨hid, hm⟩ := set?_eq_some_iff.1 hset
      have hbefore : h.sets = h.sets.take id.index ++ m :: h.sets.drop (id.index + 1) := by
        rw [← hm, List.getElem_cons_drop, List.take_append_drop]
      have hafter : h.sets.modify id.index (fun _ => { m with registered := false }) =
          h.sets.take id.index ++ { m with registered := false } ::
            h.sets.drop (id.index + 1) := List.modify_eq_take_cons_drop hid
      unfold Balanced at *
      show (h.log ++ [LogRecord.setUnregistered]).countP LogRecord.isArrival =
        (h.log ++ [LogRecord.setUnregistered]).countP LogRecord.isDeparture +
          (h.sets.modify id.index fun _ => { m with registered := false }).countP
            MetricSet.registered
      rw [hbefore] at hbalanced
      rw [hafter]
      simp only [List.countP_append, List.countP_cons, List.countP_nil, hflag,
        LogRecord.isArrival, LogRecord.isDeparture, if_true, Bool.false_eq_true, if_false]
        at hbalanced ⊢
      omega
    · exact hbalanced

theorem Balanced.perform (hbalanced : h.Balanced) (hb : h.Booked) (act : Act) :
    (h.perform act).Balanced := by
  cases hbuilt : act.built? h with
  | some result => exact hbalanced.of_reports (reports_of_built? hb.numbered hbuilt)
  | none =>
    by_cases hleaves : ∃ id, act = .unregisterSet id
    · obtain ⟨id, rfl⟩ := hleaves
      exact hbalanced.unregisterSet hb id
    · exact hbalanced.of_unconcerned
        (unconcerned_perform hbuilt fun id heq => hleaves ⟨id, heq⟩)

/-- **The log balances with the flags over every run.** -/
theorem balanced_run (acts : List Act) : (initial.run acts).Balanced := by
  have hboth : (initial.run acts).Booked ∧ (initial.run acts).Balanced :=
    run_induction (P := fun h => h.Booked ∧ h.Balanced)
      (fun _ act ⟨hb, hbalanced⟩ => ⟨hb.perform act, hbalanced.perform hb act⟩)
      ⟨booked_initial, rfl⟩ acts
  exact hboth.2

/-! ## What every act writes -/

/-- Where the log has grown by some records, they are what was written. -/
theorem writes_eq (hlog : (h.perform act).log = h.log ++ records) : act.writes h = records := by
  rw [Act.writes, hlog, List.drop_left]

/-- **The log only grows.** -/
theorem log_perform (hb : h.Booked) (act : Act) :
    (h.perform act).log = h.log ++ act.writes h := by
  have hgrows : ∃ records, (h.perform act).log = h.log ++ records := by
    cases hbuilt : act.built? h with
    | some result =>
      cases reports_of_built? hb.numbered hbuilt with
      | arrived _ _ _ hlog => exact ⟨_, hlog⟩
      | clashed _ _ _ hlog => exact ⟨_, hlog⟩
      | refused _ _ _ hlog => exact ⟨_, hlog⟩
    | none =>
      by_cases hleaves : ∃ id, act = .unregisterSet id
      · obtain ⟨id, rfl⟩ := hleaves
        exact ⟨_, log_unregisterSet hb id⟩
      · obtain ⟨⟨records, hlog, -⟩, -⟩ :=
          unconcerned_perform hbuilt fun id heq => hleaves ⟨id, heq⟩
        exact ⟨records, hlog⟩
  obtain ⟨records, hlog⟩ := hgrows
  rw [writes_eq hlog, hlog]

end Host

namespace LogLevel

variable {level : LogLevel} {loaded records : List LogRecord}

/-- What is for debugging only is of no other level, -/
theorem among_eq_nil (hloaded : ∀ record ∈ loaded, record.level = .debug) (hne : level ≠ .debug) :
    level.among loaded = [] :=
  List.filter_eq_nil_iff.2 fun record hrecord => by simp [hloaded record hrecord, hne.symm]

/-- so it does not show there. -/
theorem among_append (hloaded : ∀ record ∈ loaded, record.level = .debug) (hne : level ≠ .debug) :
    level.among (loaded ++ records) = level.among records := by
  have hnone : loaded.filter (·.level = level) = [] := among_eq_nil hloaded hne
  unfold among
  rw [List.filter_append, hnone, List.nil_append]

end LogLevel

open Host in
/-- **An act is accounted for in the log**: the log only grows. A
construction that returns writes that a set came, with its series and its
bounds, and no error; one that fails for a conflict writes one error, of
the series that it tells, and nothing of a set that came; any other that
fails writes neither. A set that is taken out writes that it left if it was
registered before and is not after. Recording writes nothing, and all else
writes of no set that came or left. -/
structure Act.Accounted (h : Host) (act : Act) : Prop where
  appended : (h.perform act).log = h.log ++ act.writes h
  returned : ∀ id, act.built? h = some (.ok id) → ∃ m, (h.perform act).set? id = some m ∧
    LogLevel.info.among (act.writes h) = [.setRegistered 11 m.bounds.length] ∧
    LogLevel.error.among (act.writes h) = []
  conflict : ∀ e, act.built? h = some (.error (.adapter e)) → e.kind = .registrationConflict →
    ∃ name words : String, e.context.metricName = some (.plain name) ∧
      LogLevel.error.among (act.writes h) = [.registrationFailed name words] ∧
      (LogRecord.registrationFailed name words).extra.lookup "metric_name" = some (.text name) ∧
      LogLevel.info.among (act.writes h) = []
  refused : ∀ failure, act.built? h = some (.error failure) →
    (∀ e, failure = .adapter e → e.kind ≠ .registrationConflict) →
    LogLevel.info.among (act.writes h) = [] ∧ LogLevel.error.among (act.writes h) = []
  left : ∀ id, act = .unregisterSet id → act.writes h =
    if h.isRegistered id && !(h.perform act).isRegistered id then [.setUnregistered] else []
  silent : act.Silent → act.writes h = []
  others : act.built? h = none → (∀ id, act ≠ .unregisterSet id) →
    ∀ record ∈ act.writes h, record.isArrival = false ∧ record.isDeparture = false

namespace Host

variable {h : Host} {act : Act}

/-- **Every act is accounted for**, as long as the books are kept. -/
theorem Booked.accounted (hb : h.Booked) (act : Act) : act.Accounted h where
  appended := log_perform hb act
  returned id hbuilt := by
    cases reports_of_built? hb.numbered hbuilt with
    | @arrived _ m loaded hloaded hsets hflag hlog =>
      have hset : (h.perform act).set? ⟨h.sets.length⟩ = some m := by
        unfold set?
        rw [hsets]
        exact List.getElem?_concat_length
      rw [writes_eq hlog, LogLevel.among_append hloaded (by decide),
        LogLevel.among_append hloaded (by decide)]
      exact ⟨m, hset, rfl, rfl⟩
  conflict e hbuilt hkind := by
    generalize hresult : (Except.error (.adapter e) : Except Failure SetId) = result at hbuilt
    cases reports_of_built? hb.numbered hbuilt with
    | arrived => cases hresult
    | @clashed _ m loaded name words names hloaded hsets hflag hlog =>
      cases hresult
      rw [writes_eq hlog, LogLevel.among_append hloaded (by decide),
        LogLevel.among_append hloaded (by decide)]
      exact ⟨name, words, rfl, rfl, rfl, rfl⟩
    | refused hloaded hsets hother hlog =>
      cases hresult
      exact absurd hkind (hother e rfl)
  refused failure hbuilt hother := by
    generalize hresult : (Except.error failure : Except Failure SetId) = result at hbuilt
    cases reports_of_built? hb.numbered hbuilt with
    | arrived => cases hresult
    | clashed =>
      cases hresult
      exact absurd rfl (hother _ rfl)
    | refused hloaded hsets hkind hlog =>
      rw [writes_eq hlog]
      exact ⟨LogLevel.among_eq_nil hloaded (by decide), LogLevel.among_eq_nil hloaded (by decide)⟩
  left id heq := by
    subst heq
    exact writes_eq (log_unregisterSet hb id)
  silent hsilent := writes_eq ((log_of_silent hsilent).trans (List.append_nil _).symm)
  others hbuilt hstays := by
    obtain ⟨⟨records, hlog, hrecords⟩, -⟩ := unconcerned_perform hbuilt hstays
    rwa [writes_eq hlog]

/-- **The log accounts for every registration.** After any run, hand
removals included, every act is accounted for in what it writes. So the
sets that came, as the log tells, are as many as those that left and those
that say that they are registered. -/
theorem log_accounts_for_sets (acts : List Act) :
    (∀ act, Act.Accounted (initial.run acts) act) ∧
    (initial.run acts).log.countP LogRecord.isArrival =
      (initial.run acts).log.countP LogRecord.isDeparture +
        (initial.run acts).sets.countP MetricSet.registered :=
  ⟨(booked_run acts).accounted, balanced_run acts⟩

end Host

end CommandMetrics
