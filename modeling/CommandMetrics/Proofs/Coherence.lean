import CommandMetrics.Proofs.Bookkeeping
/-!
# Coherence — flags of sets and entries of registries tell the same

Whether a metric set is registered is told twice: by a flag in the set, and
by its series in a registry. The two agree as long as nobody takes a series
out behind the back of its set (`Act.Sound`): a set with the flag has all of
its series in its own registry, one without has none anywhere
(`Host.Coherent`). That a series stands only where its set says so is part
of the books, which are kept in any case; what a sound act keeps on top is
that a set which says so has all of its series there (`Coherent.of_kept`).
So every sound act keeps coherence (`Coherent.perform`), and it holds over
every run (`registration_coherent`).
-/

namespace CommandMetrics

/-- **Flags and entries agree**: names have one owner each, who is there;
sources claim the names that are theirs; and a series stands in a registry
exactly if its set says so. -/
structure Host.Coherent (h : Host) : Prop where
  owned : ∀ place, (h.registry place).Owned
  claims : ∀ place source names, (source, names) ∈ (h.registry place).entries →
    h.claims? source = some names
  series : ∀ place id s, .series id s ∈ (h.registry place).sources ↔ h.Registers id place
  /-- The registry of the process is there. -/
  process : RegistryId.default.index < h.registries.length

/-- **What is done to registries is sound**: sets are constructed where there
is a registry, and what is taken out by hand is no series of a set. -/
def Act.Sound (h : Host) : Act → Prop
  | .construct place _ _ | .createSet _ place _ => place.index < h.registries.length
  | .drop _ source => ∀ id s, source ≠ .series id s
  | _ => True

/-- A run of which every act is sound where it is done. -/
def Host.SoundRun : List Act → Prop :=
  Throughout fun before act => act.Sound (initial.run before)

/-- What comes out of an act that constructs a set. -/
def Act.construction? (h : Host) : Act → Option (Except Failure SetId)
  | .construct place bounds config => some (h.construct place bounds config).2
  | .createSet environment place config => some (h.createSet environment place config).2
  | .processSet environment => some (h.processSet environment).2
  | _ => none

namespace Host

variable {h after : Host} {place elsewhere : RegistryId} {id other : SetId} {m : MetricSet}
variable {r : Registry} {source : Source} {s : Series}

/-- What stays in a registry that changes is found in it. -/
theorem mem_sources_setRegistry_of_imp
    (himp : source ∈ (h.registry place).sources → source ∈ r.sources)
    (hmem : source ∈ (h.registry elsewhere).sources) :
    source ∈ ((h.setRegistry place r).registry elsewhere).sources := by
  by_cases heq : elsewhere = place
  · subst heq
    rw [registry_setRegistry_self (lt_length_of_mem_sources hmem)]
    exact himp hmem
  · rwa [registry_setRegistry_of_ne heq]

namespace Coherent

/-- Where flags and entries agree the books are kept. -/
theorem booked (hc : h.Coherent) : h.Booked where
  owned := hc.owned
  claims := hc.claims
  flagged place id s hmem := (hc.series place id s).1 hmem

/-- **Where the books are kept and a set that says that it is registered is
there whole**, flags and entries agree. -/
theorem of_booked (hb : h.Booked)
    (hwhole : ∀ id place, h.Registers id place → ∀ s, .series id s ∈ (h.registry place).sources)
    (hprocess : RegistryId.default.index < h.registries.length) : h.Coherent where
  owned := hb.owned
  claims := hb.claims
  series place id s := ⟨hb.flagged place id s, fun hregisters => hwhole id place hregisters s⟩
  process := hprocess

/-- **Where no series leaves a registry and no flag is new**, all stays
coherent. -/
theorem of_kept (hc : h.Coherent) (hb : after.Booked)
    (hlength : h.registries.length ≤ after.registries.length)
    (hsources : ∀ place id s, .series id s ∈ (h.registry place).sources →
      .series id s ∈ (after.registry place).sources)
    (hregisters : ∀ id place, after.Registers id place → h.Registers id place) :
    after.Coherent := by
  refine of_booked hb (fun id place hafter s => ?_) (Nat.lt_of_lt_of_le hc.process hlength)
  have hbefore := hregisters id place hafter
  exact hsources place id s ((hc.series place id s).2 hbefore)

theorem of_records (hc : h.Coherent) (hrec : h.Records after) : after.Coherent := by
  refine hc.of_kept (hc.booked.of_records hrec) (Nat.le_of_eq (by rw [hrec.registries]))
    (fun place id s hmem => ?_) fun id place hafter => hrec.registers_iff.1 hafter
  rwa [hrec.registry_eq]

/-! ## Metrics of other programs -/

/-- A metric of another program that comes in leaves all series there. -/
theorem mem_sources_of_register {id : ForeignId} {names : List String}
    (hentered : (h.registry place).register (.foreign id) names = .ok r)
    (hmem : source ∈ (h.registry elsewhere).sources) :
    source ∈ ((h.setRegistry place r).registry elsewhere).sources := by
  refine mem_sources_setRegistry_of_imp (fun hold => ?_) hmem
  rw [Registry.sources_register hentered]
  exact List.mem_append_left _ hold

theorem addForeign (hc : h.Coherent) (place : RegistryId) (kind : FamilyKind) (name help : String)
    (labels : List String) : (h.addForeign place kind name help labels).1.Coherent := by
  have hb := hc.booked.addForeign place kind name help labels
  unfold Host.addForeign at hb ⊢
  split at hb
  · exact hc
  · dsimp only at hb ⊢
    split at hb
    · rename_i hentered
      refine hc.of_kept hb (by simp) (fun place id s hmem => ?_)
        fun id place hafter => hafter
      exact mem_sources_of_register hentered hmem
    · exact hc

theorem reregister (hc : h.Coherent) (place : RegistryId) (id : ForeignId) :
    (h.reregister place id).1.Coherent := by
  have hb := hc.booked.reregister place id
  unfold Host.reregister at hb ⊢
  split at hb
  · exact hc
  · split at hb
    · rename_i hentered
      refine hc.of_kept hb (by simp) (fun place id s hmem => ?_)
        fun id place hafter => hafter
      exact mem_sources_of_register hentered hmem
    · exact hc

/-- **A metric of another program is taken out.** -/
theorem drop (hc : h.Coherent) (place : RegistryId) (hsource : ∀ id s, source ≠ .series id s) :
    (h.drop place source).1.Coherent := by
  have hb := hc.booked.drop place source
  unfold Host.drop at hb ⊢
  split at hb
  · rename_i hleft
    refine hc.of_kept hb (by simp) (fun elsewhere id s hmem => ?_)
      fun id place hafter => hafter
    refine mem_sources_setRegistry_of_imp (fun hold => ?_) hmem
    exact (Registry.mem_sources_unregister_iff hleft).2 ⟨hold, (hsource id s).symm⟩
  · exact hc

/-! ## Metric sets -/

/-- **A set that is added is registered whole or not at all**, and says so. -/
theorem addSet (hc : h.Coherent) (hplace : place.index < h.registries.length) (config : Config) :
    (h.addSet place config).1.Coherent := by
  have hb := hc.booked.addSet place config
  rcases addSet_cases hc.booked.numbered place config with
    ⟨error, heq⟩ | ⟨buckets, record, -, heq⟩ | ⟨buckets, record, s, -, heq⟩ <;> rw [heq] at hb ⊢
  · exact hc
  · refine of_booked hb (fun id elsewhere hafter s => ?_) (by simpa using hc.process)
    rcases registers_withSet.1 hafter with hold | ⟨rfl, rfl, -⟩
    · have hmem := (hc.series elsewhere id s).2 hold
      refine mem_sources_setRegistry_of_imp (fun hmem => ?_) hmem
      rw [Registry.sources_extend]
      exact List.mem_append_left _ hmem
    · show _ ∈ ((h.setRegistry place _).registry place).sources
      rw [registry_setRegistry_self hplace, Registry.sources_extend]
      exact List.mem_append_right _ (List.mem_map_of_mem (Series.mem_all s))
  · refine hc.of_kept hb (Nat.le_refl _) (fun _ _ _ hmem => hmem) fun id place hafter => ?_
    rcases registers_withSet.1 hafter with hold | ⟨-, -, hflag⟩
    · exact hold
    · cases hflag

theorem construct (hc : h.Coherent) (hplace : place.index < h.registries.length)
    (bounds : Option Value) (given : Option Config) :
    (h.construct place bounds given).1.Coherent := by
  unfold Host.construct
  split
  · exact hc
  · exact hc.addSet hplace _

theorem createSet (hc : h.Coherent) (hplace : place.index < h.registries.length)
    (environment : Environment) (given : Option Config) :
    (h.createSet environment place given).1.Coherent := by
  unfold Host.createSet
  split
  · exact hc.construct hplace none _
  · split
    · exact hc
    · rename_i config _
      have hlogged := hc.of_records (h.records_write (.environmentLoaded config))
      exact hlogged.construct hplace none _

theorem processSet (hc : h.Coherent) (environment : Environment) :
    (h.processSet environment).1.Coherent := by
  have hb := hc.booked.processSet environment
  unfold Host.processSet at hb ⊢
  split
  · exact hc
  · rename_i hnone
    rw [hnone] at hb
    have hmade := hc.createSet hc.process environment none
    split <;> rename_i hresult <;> rw [hresult] at hmade hb
    · exact hmade.of_kept hb (Nat.le_refl _) (fun _ _ _ hmem => hmem) fun _ _ hafter => hafter
    · exact hmade

/-- **A set that leaves its registry leaves it whole**, and says so. All of
its series are there, so none of them is missed on the way. -/
theorem unregisterSet (hc : h.Coherent) (id : SetId) : (h.unregisterSet id).1.Coherent := by
  have hb := hc.booked.unregisterSet id
  cases hset : h.set? id with
  | none =>
    unfold Host.unregisterSet
    rw [hset]
    exact hc
  | some m =>
    rcases hc.booked.unregisterSet_cases hset with
      ⟨-, heq⟩ | ⟨hflag, -, heq⟩ | ⟨hflag, s, hmissing, -⟩
    · rw [heq]
      exact hc
    · rw [heq] at hb ⊢
      refine of_booked hb (fun other place hafter s => ?_) (by simpa [strip] using hc.process)
      have hleft := (registers_putSet_left (h := h.strip m.registry _) hset).1 hafter
      have hmem := (hc.series place other s).2 hleft.1
      refine mem_sources_setRegistry_of_imp (fun hold => ?_) hmem
      -- it is a series of another set, so it is not among those that go
      refine Registry.mem_sources_without.2 ⟨hold, fun hgone => hleft.2 ?_⟩
      obtain ⟨s', -, hsame⟩ := List.mem_map.1 hgone
      cases hsame
      rfl
    · have hthere : ∀ s, .series id s ∈ (h.registry m.registry).sources :=
        fun s => (hc.series m.registry id s).2 ⟨m, hset, rfl, hflag⟩
      rw [Registry.firstMissing?_eq_none_iff.2 hthere] at hmissing
      cases hmissing

/-- **Every sound act keeps flags and entries in agreement.** -/
theorem perform (hc : h.Coherent) {act : Act} (hsound : act.Sound h) :
    (h.perform act).Coherent := by
  cases act with
  | addRegistry =>
    refine hc.of_kept (hc.booked.perform .addRegistry) (by simp [Host.perform, Host.addRegistry])
      (fun place id s hmem => ?_) fun _ _ hafter => hafter
    exact registry_addRegistry (h := h) ▸ hmem
  | addRoster => exact hc.of_records (.of_sets_eq rfl rfl rfl rfl)
  | construct place bounds config => exact hc.construct hsound bounds config
  | createSet environment place config => exact hc.createSet hsound environment config
  | processSet environment => exact hc.processSet environment
  | unregisterSet id => exact hc.unregisterSet id
  | addForeign place kind name help labels => exact hc.addForeign place kind name help labels
  | reregister place id => exact hc.reregister place id
  | drop place source => exact hc.drop place hsound
  | startEndpoint serve id port => exact hc.of_records (h.records_startEndpoint serve id port)
  | newRecorder route id name => exact hc.of_records (h.records_newRecorder route id name)
  | ensureCommand id name => exact hc.of_records (h.records_ensureCommand id name)
  | newMemory name => exact hc.of_records (h.records_addSink _ name)
  | newSilent name => exact hc.of_records (h.records_addSink _ name)
  | call collector method arguments =>
    exact hc.of_records (h.records_call collector method arguments)
  | register id candidate => exact hc.of_records (h.records_register id candidate)
  | clearRoster id => exact hc.of_records (h.records_clearRoster id)
  | initializeCollectors id name => exact hc.of_records (h.records_initializeCollectors id name)

end Coherent

theorem coherent_initial : initial.Coherent := by
  refine Coherent.of_booked booked_initial (fun id place hregisters => ?_) (by decide)
  obtain ⟨m, hset, -⟩ := hregisters
  cases hset

/-- **Every sound run leaves flags and entries in agreement.** -/
theorem coherent_run {acts : List Act} (hsound : SoundRun acts) : (initial.run acts).Coherent := by
  induction acts using List.reverseRecOn with
  | nil => exact coherent_initial
  | append_singleton acts act ih =>
    obtain ⟨hbefore, hact⟩ := throughout_concat.1 hsound
    rw [run_concat]
    exact (ih hbefore).perform hact

/-! ## Constructions that fail -/

/-- What an act that constructs does to the sets. -/
theorem builds_of_construction? {act : Act} {result : Except Failure SetId}
    (hresult : act.construction? h = some result) : h.Builds (h.perform act, result) := by
  cases act with
  | construct place bounds config =>
    exact Option.some.inj hresult ▸ h.builds_construct place bounds config
  | createSet environment place config =>
    exact Option.some.inj hresult ▸ h.builds_createSet environment place config
  | processSet environment => exact Option.some.inj hresult ▸ h.builds_processSet environment
  | _ => cases hresult

/-! ## Every run -/

/-- Two sets that are registered in one registry are the same. Else a name of
their series would have two owners. -/
theorem Coherent.eq_of_registers (hc : h.Coherent) (hid : h.Registers id place)
    (hother : h.Registers other place) : id = other := by
  have howner : ∀ {set}, h.Registers set place →
      (Series.runDuration.fullName, .series set .runDuration) ∈ (h.registry place).owners :=
    fun {set} hregisters => by
      obtain ⟨names, hentry⟩ :=
        Registry.mem_sources_iff.1 ((hc.series place set .runDuration).2 hregisters)
      cases hc.claims place _ _ hentry
      exact ((hc.owned place).mem_owners_iff _ _).2 ⟨_, hentry, List.mem_cons_self⟩
  have heq := (hc.owned place).unique _ _ _ (howner hid) (howner hother)
  cases heq
  rfl

/-- **Registration is coherent over every run** that takes no series out by
hand. A set that says that it is registered has all of its series in its
registry and none elsewhere, and one that does not has none anywhere; in
each registry at most one set is registered. Nothing of a construction that
failed is in any registry, ever after. And every registry keeps its books:
no name is taken by two, or by one who is not there. -/
theorem registration_coherent {acts : List Act} (hsound : SoundRun acts) :
    (∀ id m, (initial.run acts).set? id = some m → ∀ place s,
      .series id s ∈ ((initial.run acts).registry place).sources ↔
        m.registered = true ∧ m.registry = place) ∧
    (∀ id other m m', (initial.run acts).set? id = some m →
      (initial.run acts).set? other = some m' → m.registered = true → m'.registered = true →
      m.registry = m'.registry → id = other) ∧
    (∀ before act later failure, acts = before ++ act :: later →
      act.construction? (initial.run before) = some (.error failure) →
      ∀ id m, (initial.run before).set? id = none →
        ((initial.run before).perform act).set? id = some m →
        ∀ place s, .series id s ∉ ((initial.run acts).registry place).sources) ∧
    (∀ place name, ∀ source source',
      (name, source) ∈ ((initial.run acts).registry place).owners →
      (name, source') ∈ ((initial.run acts).registry place).owners → source = source') ∧
    (∀ place name source, (name, source) ∈ ((initial.run acts).registry place).owners ↔
      ∃ names, (source, names) ∈ ((initial.run acts).registry place).entries ∧ name ∈ names) := by
  have hc := coherent_run hsound
  refine ⟨fun id m hset place s => ?_, fun id other m m' hset hset' hm hm' hsame => ?_,
    fun before act later failure hacts hfailed id m hnone hset place s hmem => ?_,
    fun place => (hc.owned place).unique, fun place => (hc.owned place).mem_owners_iff⟩
  · rw [hc.series]
    constructor
    · rintro ⟨found, hfound, hplace, hflag⟩
      rw [hset] at hfound
      cases hfound
      exact ⟨hflag, hplace⟩
    · rintro ⟨hflag, hplace⟩
      exact ⟨m, hset, hplace, hflag⟩
  · exact hc.eq_of_registers ⟨m, hset, rfl, hm⟩ ⟨m', hset', hsame.symm, hm'⟩
  · have hunregistered := ((builds_of_construction? hfailed).isNew hnone hset).2 failure rfl
    -- a set that is not registered is never registered again
    obtain ⟨m', hset', hagain⟩ := exists_set?_run hset later
    have hrun : initial.run acts = ((initial.run before).perform act).run later := by
      rw [hacts, run_append]
      rfl
    rw [← hrun] at hset'
    obtain ⟨found, hfound, -, hflag⟩ := (hc.series place id s).1 hmem
    rw [hset'] at hfound
    cases hfound
    rw [hagain hflag] at hunregistered
    cases hunregistered

/-- A gauge of another program stands in the way of a first set. When it is
taken out a second one comes in and leaves again, and a third one stays. -/
theorem registration_coherent_timeouts :
    ∃ acts, SoundRun acts ∧
      (∀ place s, .series ⟨0⟩ s ∉ ((initial.run acts).registry place).sources) ∧
      (∀ place s, .series ⟨1⟩ s ∉ ((initial.run acts).registry place).sources) ∧
      ∀ s, .series ⟨2⟩ s ∈ ((initial.run acts).registry .default).sources := by
  let acts : List Act := [.addForeign .default .gauge "hystrix_go_timeouts" "Timeouts." [],
    .construct .default none none, .drop .default (.foreign ⟨0⟩), .construct .default none none,
    .unregisterSet ⟨1⟩, .unregisterSet ⟨1⟩, .construct .default none none]
  -- the registry of the process is there throughout
  have hrun : (∀ n ≤ 6, RegistryId.default.index < (initial.run (acts.take n)).registries.length) ∧
      (initial.run acts).sets.map MetricSet.registered = [false, false, true] ∧
      ((initial.run acts).set? ⟨2⟩).map MetricSet.registry = some .default := by decide +kernel
  obtain ⟨hlength, hflags, hplace⟩ := hrun
  have hsound : SoundRun acts := by
    show Throughout _ ((((((([] ++ [_]) ++ [_]) ++ [_]) ++ [_]) ++ [_]) ++ [_]) ++ [_])
    simp only [throughout_concat, throughout_nil, Act.Sound, true_and, and_true, ne_eq,
      reduceCtorEq, not_false_eq_true, implies_true]
    exact ⟨⟨hlength 1 (by decide), hlength 3 (by decide)⟩, hlength 6 (by decide)⟩
  obtain ⟨hseries, -⟩ := registration_coherent hsound
  have hset : ∀ {i flag}, [false, false, true][i]? = some flag →
      ∃ m, (initial.run acts).set? ⟨i⟩ = some m ∧ m.registered = flag := fun {i flag} hflag => by
    rw [← hflags, List.getElem?_map] at hflag
    exact Option.map_eq_some_iff.1 hflag
  obtain ⟨first, hfirst, hgone⟩ := hset (i := 0) rfl
  obtain ⟨second, hsecond, hleft⟩ := hset (i := 1) rfl
  obtain ⟨third, hthird, hstays⟩ := hset (i := 2) rfl
  rw [hthird] at hplace
  refine ⟨acts, hsound, fun place s hmem => ?_, fun place s hmem => ?_, fun s => ?_⟩
  · rw [hseries ⟨0⟩ first hfirst, hgone] at hmem
    cases hmem.1
  · rw [hseries ⟨1⟩ second hsecond, hleft] at hmem
    cases hmem.1
  · exact (hseries ⟨2⟩ third hthird .default s).2 ⟨hstays, Option.some.inj hplace⟩

end Host

end CommandMetrics
