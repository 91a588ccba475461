import CommandMetrics.Proofs.Ownership
import CommandMetrics.Proofs.Run
/-!
# Bookkeeping — what registries keep, whatever is done to a host

Sets come and go, and anybody may take a series out of a registry by hand.
Three things hold all the same (`Host.Booked`): every name has one owner,
who is there; sources claim the names that are theirs; and a series stands
only in the registry of its set, and only while the set says that it is
registered. The converse of the last one may fail: a set whose series were
taken out by hand does not know. Every act keeps the books
(`Booked.perform`), so they are kept over every run (`booked_run`).
-/

namespace CommandMetrics

/-! ## Claims and flags -/

/-- The names that a source claims. -/
def Host.claims? (h : Host) : Source → Option (List String)
  | .series _ s => some (Registry.claims s)
  | .foreign id => (h.foreign[id.index]?).map fun metric => metric.kind.claims metric.name

/-- A set says that it is registered, and where. -/
def Host.Registers (h : Host) (id : SetId) (place : RegistryId) : Prop :=
  ∃ m, h.set? id = some m ∧ m.registry = place ∧ m.registered = true

/-- **The books are kept**: names have one owner each, who is there; sources
claim the names that are theirs; and a series stands in a registry only if
its set says so. -/
structure Host.Booked (h : Host) : Prop where
  owned : ∀ place, (h.registry place).Owned
  claims : ∀ place source names, (source, names) ∈ (h.registry place).entries →
    h.claims? source = some names
  flagged : ∀ place id s, .series id s ∈ (h.registry place).sources → h.Registers id place

namespace Host

variable {h after : Host} {place elsewhere : RegistryId} {id other : SetId} {m : MetricSet}
variable {r : Registry} {source : Source} {names : List String} {s : Series}

theorem claims?_foreign_eq_some_iff {id : ForeignId} :
    h.claims? (.foreign id) = some names ↔ ∃ metric, h.foreign[id.index]? = some metric ∧
      metric.kind.claims metric.name = names := Option.map_eq_some_iff

/-! ## What flags say after a change -/

/-- Recording changes no flag. -/
theorem Records.registers_iff (hrec : h.Records after) :
    after.Registers id place ↔ h.Registers id place := by
  obtain ⟨steps, hsteps⟩ := hrec.sets
  unfold Registers
  rw [hsteps]
  cases h.set? id <;> simp

/-- One more set is registered if it says so. -/
theorem registers_withSet : (h.withSet m).Registers id place ↔
    h.Registers id place ∨ id = ⟨h.sets.length⟩ ∧ m.registry = place ∧ m.registered = true := by
  unfold Registers
  by_cases hid : id = ⟨h.sets.length⟩
  · subst hid
    have hnone : h.set? ⟨h.sets.length⟩ = none := List.getElem?_eq_none (Nat.le_refl _)
    rw [set?_withSet_self, hnone]
    simp
  · have hsame : (h.withSet m).set? id = h.set? id := by
      have hindex : id.index ≠ h.sets.length := fun heq => hid (by cases id; simp_all)
      rcases Nat.lt_or_gt_of_ne hindex with hlt | hgt
      · exact set?_withSet_of_lt hlt
      · unfold set? withSet
        rw [List.getElem?_eq_none (by simp; omega), List.getElem?_eq_none (by omega)]
    rw [hsame]
    simp [hid]

/-- A set that says that it is not registered any more is not, and no other
set is concerned. -/
theorem registers_putSet_left (hset : h.set? other = some m) :
    (h.putSet other { m with registered := false }).Registers id place ↔
      h.Registers id place ∧ id ≠ other := by
  unfold Registers
  by_cases hid : id = other
  · subst hid
    rw [set?_putSet_self hset]
    simp
  · rw [set?_putSet_of_ne hid]
    simp [hid]

/-! ## Registries that change -/

/-- A registry in which something stands is there. -/
theorem lt_length_of_mem_sources (hmem : source ∈ (h.registry place).sources) :
    place.index < h.registries.length := by
  by_contra hge
  unfold registry at hmem
  rw [List.getElem?_eq_none (by omega)] at hmem
  cases hmem

/-- Where a registry is not there, nothing stands, -/
theorem registry_of_le (hplace : h.registries.length ≤ place.index) :
    h.registry place = .empty := by
  unfold registry
  rw [List.getElem?_eq_none hplace, Option.getD_none]

/-- so what is put there is there, or nothing is. -/
theorem registry_setRegistry_cases (h : Host) (place : RegistryId) (r : Registry) :
    (h.setRegistry place r).registry place = r ∨
      (h.setRegistry place r).registry place = .empty := by
  rcases Nat.lt_or_ge place.index h.registries.length with hplace | hplace
  · exact .inl (registry_setRegistry_self hplace)
  · refine .inr (registry_of_le ?_)
    rwa [length_registries_setRegistry]

/-- A host of which sources have gone out of a registry. -/
def strip (h : Host) (place : RegistryId) (gone : List Source) : Host :=
  h.setRegistry place ((h.registry place).without gone)

/-- Those that are left are found in it, also where there is no registry. -/
@[simp] theorem registry_strip (h : Host) (place : RegistryId) (gone : List Source) :
    (h.strip place gone).registry place = (h.registry place).without gone := by
  rcases Nat.lt_or_ge place.index h.registries.length with hplace | hplace
  · exact registry_setRegistry_self hplace
  · rw [strip, setRegistry_of_le hplace, registry_of_le hplace]
    rfl

theorem registry_strip_of_ne (hne : elsewhere ≠ place) (gone : List Source) :
    (h.strip place gone).registry elsewhere = h.registry elsewhere :=
  registry_setRegistry_of_ne hne

/-- A registry is what the list of registries says. -/
theorem registry_congr (hregistries : after.registries = h.registries) (place : RegistryId) :
    after.registry place = h.registry place := by
  unfold registry
  rw [hregistries]

namespace Booked

/-- Series stand in registries only for sets that there are. -/
theorem numbered (hb : h.Booked) : h.Numbered := by
  intro place id s hmem
  obtain ⟨m, hset, -⟩ := hb.flagged place id s hmem
  exact (set?_eq_some_iff.1 hset).1

/-- A series stands with the names that it claims. -/
theorem mem_entries_series (hb : h.Booked) (hmem : .series id s ∈ (h.registry place).sources) :
    (.series id s, Registry.claims s) ∈ (h.registry place).entries := by
  obtain ⟨names, hentry⟩ := Registry.mem_sources_iff.1 hmem
  have hclaims := hb.claims place _ _ hentry
  rwa [← Option.some.inj hclaims] at hentry

/-- **Where no registry changes** and no flag is lost, the books are kept. -/
theorem of_registry_eq (hb : h.Booked)
    (hregistry : ∀ place, after.registry place = h.registry place)
    (hclaims : ∀ source names, h.claims? source = some names → after.claims? source = some names)
    (hregisters : ∀ id place, h.Registers id place → after.Registers id place) :
    after.Booked where
  owned place := by
    rw [hregistry]
    exact hb.owned place
  claims place source names hentry := by
    rw [hregistry] at hentry
    exact hclaims _ _ (hb.claims place source names hentry)
  flagged place id s hmem := by
    rw [hregistry] at hmem
    exact hregisters _ _ (hb.flagged place id s hmem)

/-- **Where one registry changes**, it has to be in order itself, and no flag
may be lost of a set that stands elsewhere. -/
theorem of_setRegistry (hb : h.Booked)
    (hregistries : after.registries = (h.setRegistry place r).registries) (howned : r.Owned)
    (hclaims : ∀ source names, (source, names) ∈ r.entries ∨ h.claims? source = some names →
      after.claims? source = some names)
    (hseries : ∀ id s, .series id s ∈ r.sources → after.Registers id place)
    (helsewhere : ∀ elsewhere, elsewhere ≠ place →
      ∀ id, h.Registers id elsewhere → after.Registers id elsewhere) :
    after.Booked := by
  have hself : after.registry place = r ∨ after.registry place = .empty := by
    rw [registry_congr hregistries]
    exact h.registry_setRegistry_cases place r
  have hother : ∀ {elsewhere}, elsewhere ≠ place →
      after.registry elsewhere = h.registry elsewhere := by
    intro elsewhere hne
    rw [registry_congr hregistries]
    exact registry_setRegistry_of_ne hne
  refine ⟨fun elsewhere => ?_, fun elsewhere source names hentry => ?_,
    fun elsewhere id s hmem => ?_⟩
  all_goals by_cases heq : elsewhere = place
  · subst heq
    rcases hself with hself | hself <;> rw [hself]
    · exact howned
    · exact Registry.owned_empty
  · rw [hother heq]
    exact hb.owned elsewhere
  · subst heq
    rcases hself with hself | hself <;> rw [hself] at hentry
    · exact hclaims source names (.inl hentry)
    · cases hentry
  · rw [hother heq] at hentry
    exact hclaims source names (.inr (hb.claims elsewhere source names hentry))
  · subst heq
    rcases hself with hself | hself <;> rw [hself] at hmem
    · exact hseries id s hmem
    · cases hmem
  · rw [hother heq] at hmem
    exact helsewhere elsewhere heq id (hb.flagged elsewhere id s hmem)

theorem of_records (hb : h.Booked) (hrec : h.Records after) : after.Booked := by
  refine hb.of_registry_eq hrec.registry_eq (fun source names hclaims => ?_)
    fun id place hregisters => hrec.registers_iff.2 hregisters
  cases source with
  | series id s => exact hclaims
  | foreign id =>
    rw [claims?_foreign_eq_some_iff] at *
    rwa [hrec.foreign]

/-! ## Metrics of other programs -/

/-- A metric of another program that comes in was not there before: were it,
its names would be taken. -/
theorem notMem_of_clashes_eq_nil (hb : h.Booked) {id : ForeignId}
    (hclaims : h.claims? (.foreign id) = some names) (hne : names ≠ [])
    (hfree : (h.registry place).clashes names = []) :
    .foreign id ∉ (h.registry place).sources := by
  intro hmem
  obtain ⟨names', hentry⟩ := Registry.mem_sources_iff.1 hmem
  have heq := hb.claims place _ _ hentry
  rw [hclaims] at heq
  cases heq
  obtain ⟨name, hname⟩ := List.exists_mem_of_ne_nil _ hne
  have howner := ((hb.owned place).mem_owners_iff name _).2 ⟨names, hentry, hname⟩
  have hclear := Registry.clashes_eq_nil_iff.1 hfree name hname
  rw [Registry.isTaken_iff.2 ⟨_, howner, rfl⟩] at hclear
  cases hclear

/-- **A metric of another program comes in** with the names that it claims. -/
theorem enter (hb : h.Booked) {id : ForeignId} (hclaims : h.claims? (.foreign id) = some names)
    (hne : names ≠ []) (hentered : (h.registry place).register (.foreign id) names = .ok r) :
    (h.setRegistry place r).Booked := by
  obtain ⟨hfree, rfl⟩ := Registry.register_eq_ok_iff.1 hentered
  have hnew := hb.notMem_of_clashes_eq_nil hclaims hne hfree
  refine hb.of_setRegistry rfl ((hb.owned place).put hnew hfree)
    (fun source names' hsource => ?_) (fun set s hmem => ?_) fun elsewhere _ id hregisters =>
      hregisters
  · rcases hsource with hentry | hold
    · rcases Registry.mem_entries_put.1 hentry with hold | hput
      · exact hb.claims place _ _ hold
      · cases hput
        exact hclaims
    · exact hold
  · rw [Registry.sources_put, List.mem_append] at hmem
    rcases hmem with hold | hnew
    · exact hb.flagged place set s hold
    · cases List.mem_singleton.1 hnew

/-- A metric of another program that is made changes no registry. -/
theorem withForeign (hb : h.Booked) (metric : Foreign) :
    Host.Booked { h with foreign := h.foreign ++ [metric] } := by
  refine hb.of_registry_eq (fun _ => rfl) (fun source names hclaims => ?_)
    fun _ _ hregisters => hregisters
  cases source with
  | series id s => exact hclaims
  | foreign id =>
    obtain ⟨found, hfound, rfl⟩ := claims?_foreign_eq_some_iff.1 hclaims
    have hid := (List.getElem?_eq_some_iff.1 hfound).1
    exact claims?_foreign_eq_some_iff.2
      ⟨found, by rw [List.getElem?_append_left hid, hfound], rfl⟩

theorem addForeign (hb : h.Booked) (place : RegistryId) (kind : FamilyKind) (name help : String)
    (labels : List String) : (h.addForeign place kind name help labels).1.Booked := by
  unfold Host.addForeign
  split
  · exact hb
  · rename_i metric _
    dsimp only
    split
    · rename_i r hentered
      -- first there is the metric, then it enters
      refine (hb.withForeign metric).enter ?_ (List.cons_ne_nil _ _) hentered
      exact claims?_foreign_eq_some_iff.2 ⟨metric, List.getElem?_concat_length, rfl⟩
    · exact hb

theorem reregister (hb : h.Booked) (place : RegistryId) (id : ForeignId) :
    (h.reregister place id).1.Booked := by
  unfold Host.reregister
  split
  · exact hb
  · rename_i metric hmetric
    split
    · rename_i r hentered
      refine hb.enter ?_ (List.cons_ne_nil _ _) hentered
      exact claims?_foreign_eq_some_iff.2 ⟨metric, hmetric, rfl⟩
    · exact hb

/-! ## Sources that leave -/

/-- **Sources that are gone leave the books in order**, if no flag of a set is
lost of which a series stays. -/
theorem without (hb : h.Booked) (place : RegistryId) (gone : List Source)
    (hregistries : after.registries = (h.strip place gone).registries)
    (hforeign : after.foreign = h.foreign)
    (hflags : ∀ elsewhere id, h.Registers id elsewhere → after.Registers id elsewhere ∨
      elsewhere = place ∧ ∀ s, .series id s ∈ gone) : after.Booked := by
  have hclaims : ∀ source names, h.claims? source = some names →
      after.claims? source = some names := by
    intro source names hold
    cases source with
    | series id s => exact hold
    | foreign id =>
      rw [claims?_foreign_eq_some_iff] at *
      rwa [hforeign]
  refine hb.of_setRegistry hregistries ((hb.owned place).without gone)
    (fun source names hsource => ?_) (fun id s hmem => ?_)
    fun elsewhere hne id hregisters => ?_
  · rcases hsource with hentry | hold
    · exact hclaims _ _ (hb.claims place _ _ (Registry.mem_entries_without.1 hentry).1)
    · exact hclaims _ _ hold
  · obtain ⟨hold, hstays⟩ := Registry.mem_sources_without.1 hmem
    rcases hflags place id (hb.flagged place id s hold) with hkept | ⟨-, hall⟩
    · exact hkept
    · exact absurd (hall s) hstays
  · rcases hflags elsewhere id hregisters with hkept | ⟨heq, -⟩
    · exact hkept
    · exact absurd heq hne

/-- **Anything may be taken out by hand.** -/
theorem drop (hb : h.Booked) (place : RegistryId) (source : Source) :
    (h.drop place source).1.Booked := by
  unfold Host.drop
  by_cases hthere : source ∈ (h.registry place).sources
  · rw [(hb.owned place).unregister_eq hthere]
    exact hb.without place [source] rfl rfl fun _ _ hregisters => .inl hregisters
  · rw [Registry.unregister_eq_none hthere]
    exact hb

/-! ## Metric sets -/

/-- **A set that is added is registered whole or not at all**, and says so. -/
theorem addSet (hb : h.Booked) (place : RegistryId) (config : Config) :
    (h.addSet place config).1.Booked := by
  have hkept : ∀ {h' : Host} {m : MetricSet}, h'.sets = h.sets →
      ∀ id place, h.Registers id place → (h'.withSet m).Registers id place := by
    intro h' m hsets id place hregisters
    refine registers_withSet.2 (.inl ?_)
    unfold Registers at *
    rwa [set?_of_sets_eq hsets]
  rcases addSet_cases hb.numbered place config with
    ⟨error, heq⟩ | ⟨buckets, record, hclear, heq⟩ | ⟨buckets, record, s, -, heq⟩
  · rw [heq]
    exact hb
  · rw [heq]
    have hfree : ∀ s ∈ Series.all, (h.registry place).clashes (Registry.claims s) = [] :=
      fun s _ => Registry.clashes_eq_nil_iff.2 (Registry.firstClash?_eq_none_iff.1 hclear s)
    refine hb.of_setRegistry rfl
      ((hb.owned place).extend (hb.numbered.lacks place) (by decide) hfree)
      (fun source names hsource => ?_) (fun id s hmem => ?_)
      fun elsewhere _ id hregisters => hkept rfl id elsewhere hregisters
    · rcases hsource with hentry | hold
      · rcases Registry.mem_entries_extend.1 hentry with hold | ⟨s, -, hadded⟩
        · exact hb.claims place _ _ hold
        · cases hadded
          rfl
      · exact hold
    · rw [Registry.sources_extend, List.mem_append] at hmem
      rcases hmem with hold | hadded
      · exact hkept rfl id place (hb.flagged place id s hold)
      · obtain ⟨s', -, heq⟩ := List.mem_map.1 hadded
        cases heq
        exact ⟨_, set?_withSet_self, rfl, rfl⟩
  · rw [heq]
    exact hb.of_registry_eq (fun _ => rfl) (fun _ _ hclaims => hclaims) (hkept rfl)

theorem construct (hb : h.Booked) (place : RegistryId) (bounds : Option Value)
    (given : Option Config) : (h.construct place bounds given).1.Booked := by
  unfold Host.construct
  split
  · exact hb
  · exact hb.addSet place _

theorem createSet (hb : h.Booked) (environment : Environment) (place : RegistryId)
    (given : Option Config) : (h.createSet environment place given).1.Booked := by
  unfold Host.createSet
  split
  · exact hb.construct place none _
  · split
    · exact hb
    · rename_i config _
      exact (hb.of_records (h.records_write (.environmentLoaded config))).construct place none _

theorem processSet (hb : h.Booked) (environment : Environment) :
    (h.processSet environment).1.Booked := by
  unfold Host.processSet
  split
  · exact hb
  · have hmade := hb.createSet environment .default none
    split <;> rename_i hresult <;> rw [hresult] at hmade
    · refine hmade.of_registry_eq (fun _ => rfl) (fun source names hclaims => ?_)
        fun _ _ hregisters => hregisters
      cases source <;> exact hclaims
    · exact hmade

/-- **What comes of taking a set out**, case by case. A set that does not say
that it is registered stays as it is. Else its series go, all of them if
all are there, and those up to the first that is missing if one is. -/
theorem unregisterSet_cases (hb : h.Booked) (hset : h.set? id = some m) :
    (m.registered = false ∧ h.unregisterSet id = (h, .ok ())) ∨
    (m.registered = true ∧ (∀ s, .series id s ∈ (h.registry m.registry).sources) ∧
      h.unregisterSet id =
        (((h.strip m.registry (Series.all.map (.series id))).putSet id
          { m with registered := false }).write .setUnregistered, .ok ())) ∨
    (m.registered = true ∧ ∃ s, (h.registry m.registry).firstMissing? id Series.all = some s ∧
      h.unregisterSet id =
        (h.strip m.registry (((h.registry m.registry).present id Series.all).map (.series id)),
          .error (.fault (.notRegistered (s.kind.family.shown s.fullName))))) := by
  unfold Host.unregisterSet
  rw [hset]
  by_cases hm : m.registered = true
  · have hexpel : (h.registry m.registry).expelAll id =
        ((h.registry m.registry).without
          (((h.registry m.registry).present id Series.all).map (.series id)),
          (h.registry m.registry).firstMissing? id Series.all) :=
      Registry.expel_eq (hb.owned m.registry) (by decide)
    simp only [hm, Bool.not_true, Bool.false_eq_true, if_false, hexpel]
    cases hmissing : (h.registry m.registry).firstMissing? id Series.all with
    | none =>
      have hthere := Registry.firstMissing?_eq_none_iff.1 hmissing
      rw [Registry.present_of_forall hthere]
      exact .inr (.inl ⟨trivial, hthere, rfl⟩)
    | some s => exact .inr (.inr ⟨trivial, s, rfl, rfl⟩)
  · rw [Bool.not_eq_true] at hm
    refine .inl ⟨hm, ?_⟩
    simp only [hm, Bool.not_false, if_true]

/-- A set that leaves its registry is the only one that is not registered any
more. -/
theorem unregisterSet (hb : h.Booked) (id : SetId) : (h.unregisterSet id).1.Booked := by
  cases hset : h.set? id with
  | none =>
    unfold Host.unregisterSet
    rw [hset]
    exact hb
  | some m =>
    rcases hb.unregisterSet_cases hset with
      ⟨-, heq⟩ | ⟨hflag, -, heq⟩ | ⟨-, s, -, heq⟩ <;> rw [heq]
    · exact hb
    · refine hb.without m.registry (Series.all.map (.series id)) rfl rfl
        fun elsewhere other hregisters => ?_
      by_cases heq : other = id
      · subst heq
        obtain ⟨found, hfound, hplace, -⟩ := hregisters
        rw [hset] at hfound
        cases hfound
        exact .inr ⟨hplace.symm, fun s => List.mem_map_of_mem (Series.mem_all s)⟩
      · exact .inl ((registers_putSet_left (h := h.strip m.registry _) hset).2
          ⟨hregisters, heq⟩)
    · exact hb.without m.registry _ rfl rfl fun _ _ hregisters => .inl hregisters

/-! ## Every act -/

/-- **Every act keeps the books.** -/
theorem perform (hb : h.Booked) (act : Act) : (h.perform act).Booked := by
  cases act with
  | addRegistry =>
    refine hb.of_registry_eq (fun _ => registry_addRegistry) (fun source _ hclaims => ?_)
      fun _ _ hregisters => hregisters
    cases source <;> exact hclaims
  | addRoster => exact hb.of_records (.of_sets_eq rfl rfl rfl rfl)
  | construct place bounds config => exact hb.construct place bounds config
  | createSet environment place config => exact hb.createSet environment place config
  | processSet environment => exact hb.processSet environment
  | unregisterSet id => exact hb.unregisterSet id
  | addForeign place kind name help labels => exact hb.addForeign place kind name help labels
  | reregister place id => exact hb.reregister place id
  | drop place source => exact hb.drop place source
  | startEndpoint serve id port => exact hb.of_records (h.records_startEndpoint serve id port)
  | newRecorder route id name => exact hb.of_records (h.records_newRecorder route id name)
  | ensureCommand id name => exact hb.of_records (h.records_ensureCommand id name)
  | newMemory name => exact hb.of_records (h.records_addSink _ name)
  | newSilent name => exact hb.of_records (h.records_addSink _ name)
  | call collector method arguments =>
    exact hb.of_records (h.records_call collector method arguments)
  | register id candidate => exact hb.of_records (h.records_register id candidate)
  | clearRoster id => exact hb.of_records (h.records_clearRoster id)
  | initializeCollectors id name => exact hb.of_records (h.records_initializeCollectors id name)

end Booked

theorem booked_initial : initial.Booked := by
  have hempty : ∀ place, initial.registry place = .empty := by
    intro place
    unfold registry initial
    cases place.index <;> rfl
  refine ⟨fun place => ?_, fun place source names hentry => ?_, fun place id s hmem => ?_⟩
  · rw [hempty]
    exact Registry.owned_empty
  · rw [hempty] at hentry
    cases hentry
  · rw [hempty] at hmem
    cases hmem

/-- **The books are kept over every run.** -/
theorem booked_run (acts : List Act) : (initial.run acts).Booked :=
  run_induction (fun _ act hb => hb.perform act) booked_initial acts

end Host

end CommandMetrics
