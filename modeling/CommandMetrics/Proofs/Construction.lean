import CommandMetrics.Proofs.Config
import CommandMetrics.Proofs.Host
import CommandMetrics.Proofs.Registry
/-!
# Construction — a metric set is in its registry whole, or not at all

A new set is given a number that no series in any registry carries: the
series of a host are `Numbered` by its sets. So an enrolment finds nothing
of the new set, and `enrolAll_eq` says what it does. From there on a
construction is one of two things (`addSet_of_clear`, `addSet_of_clash`),
and which one is told by the names that are taken
(`construct_all_or_nothing`).
-/

namespace CommandMetrics

namespace Host

/-- **Series stand in registries only for sets that there are.** -/
def Numbered (h : Host) : Prop :=
  ∀ place set s, .series set s ∈ (h.registry place).sources → set.index < h.sets.length

/-- A host with one more metric set. -/
def withSet (h : Host) (m : MetricSet) : Host := { h with sets := h.sets ++ [m] }

variable {h after : Host} {place other : RegistryId} {config : Config} {buckets : List Number}
variable {s : Series} {id : SetId} {m : MetricSet}

/-- The number of the next set stands in no registry. -/
theorem Numbered.lacks (hnumbered : h.Numbered) (place : RegistryId) :
    (h.registry place).Lacks ⟨h.sets.length⟩ := fun s hmem =>
  Nat.lt_irrefl _ (hnumbered place _ s hmem)

@[simp] theorem registry_withSet : (h.withSet m).registry place = h.registry place := rfl

@[simp] theorem registries_withSet : (h.withSet m).registries = h.registries := rfl

@[simp] theorem length_sets_withSet : (h.withSet m).sets.length = h.sets.length + 1 :=
  List.length_append

/-- The new set is found under its number. -/
theorem set?_withSet_self : (h.withSet m).set? ⟨h.sets.length⟩ = some m :=
  List.getElem?_concat_length

/-- The sets that were there are found as they were. -/
theorem set?_withSet_of_lt (hid : id.index < h.sets.length) :
    (h.withSet m).set? id = h.set? id := List.getElem?_append_left hid

/-! ## The two outcomes -/

/-- **Where no name is taken**, the series of the new set go in at the
end. -/
theorem addSet_of_clear (hnumbered : h.Numbered)
    (hbuckets : Bounds.buckets config.boundsInForce = .ok buckets)
    (hclear : (h.registry place).firstClash? Series.all = none) :
    h.addSet place config =
      (((h.setRegistry place ((h.registry place).extend ⟨h.sets.length⟩ Series.all)).withSet
          { MetricSet.fresh place config.boundsInForce buckets with registered := true }).write
          (.setRegistered Series.all.length config.boundsInForce.length),
        .ok ⟨h.sets.length⟩) := by
  unfold addSet
  simp only [hbuckets, Registry.enrolAll_eq (hnumbered.lacks place), hclear]
  rfl

/-- **Where a name is taken**, no registry changes and the clash is told. -/
theorem addSet_of_clash (hnumbered : h.Numbered)
    (hbuckets : Bounds.buckets config.boundsInForce = .ok buckets)
    (hclash : (h.registry place).firstClash? Series.all = some s) :
    h.addSet place config =
      ((h.withSet (MetricSet.fresh place config.boundsInForce buckets)).write
          (.registrationFailed s.fullName
            (Fault.duplicateNames ((h.registry place).clashes (Registry.claims s))).message),
        .error (.conflict s.fullName ((h.registry place).clashes (Registry.claims s)))) := by
  unfold addSet
  simp only [hbuckets, Registry.enrolAll_eq (hnumbered.lacks place), hclash, setRegistry_registry]
  rfl

/-- Bounds that cannot be laid out change nothing at all. -/
theorem addSet_of_layout {error : Bounds.LayoutError}
    (hbuckets : Bounds.buckets config.boundsInForce = .error error) :
    h.addSet place config = (h, .error (.fault (.layout error))) := by
  unfold addSet
  simp only [hbuckets]

/-- **What comes of adding a set**, case by case. -/
theorem addSet_cases (hnumbered : h.Numbered) (place : RegistryId) (config : Config) :
    (∃ error, h.addSet place config = (h, .error (.fault (.layout error)))) ∨
    (∃ buckets record, (h.registry place).firstClash? Series.all = none ∧
      h.addSet place config =
        (((h.setRegistry place ((h.registry place).extend ⟨h.sets.length⟩ Series.all)).withSet
          { MetricSet.fresh place config.boundsInForce buckets with registered := true }).write
          record, .ok ⟨h.sets.length⟩)) ∨
    (∃ buckets record s, (h.registry place).firstClash? Series.all = some s ∧
      h.addSet place config =
        ((h.withSet (MetricSet.fresh place config.boundsInForce buckets)).write record,
          .error (.conflict s.fullName ((h.registry place).clashes (Registry.claims s))))) := by
  cases hbuckets : Bounds.buckets config.boundsInForce with
  | error error => exact .inl ⟨error, addSet_of_layout hbuckets⟩
  | ok buckets =>
    cases hfirst : (h.registry place).firstClash? Series.all with
    | none => exact .inr (.inl ⟨buckets, _, rfl, addSet_of_clear hnumbered hbuckets hfirst⟩)
    | some s => exact .inr (.inr ⟨buckets, _, s, rfl, addSet_of_clash hnumbered hbuckets hfirst⟩)

/-! ## Series stay numbered -/

theorem numbered_initial : initial.Numbered := by
  intro place set s hmem
  unfold registry initial at hmem
  cases hplace : place.index with
  | zero => simp [hplace, Registry.sources, Registry.empty] at hmem
  | succ n => simp [hplace, Registry.sources, Registry.empty] at hmem

/-- Where no registry gains a series and no set is lost, the series stay
numbered. -/
theorem Numbered.mono (hnumbered : h.Numbered) (hsets : h.sets.length ≤ after.sets.length)
    (hsources : ∀ place, ∀ source ∈ (after.registry place).sources,
      source ∈ (h.registry place).sources ∨ ∃ id, source = .foreign id) : after.Numbered := by
  intro place set s hmem
  rcases hsources place _ hmem with hold | ⟨id, heq⟩
  · have := hnumbered place set s hold
    omega
  · cases heq

/-- Adding a set keeps the series numbered: those that come in are its own. -/
theorem Numbered.addSet (hnumbered : h.Numbered) (place : RegistryId) (config : Config) :
    (h.addSet place config).1.Numbered := by
  rcases addSet_cases hnumbered place config with
    ⟨error, heq⟩ | ⟨buckets, record, -, heq⟩ | ⟨buckets, record, s, -, heq⟩
  · rw [heq]
    exact hnumbered
  · rw [heq]
    intro other set s hmem
    rw [sets_write, length_sets_withSet, sets_setRegistry]
    rw [registry_write, registry_withSet] at hmem
    rcases mem_sources_setRegistry hmem with hold | ⟨rfl, hnew⟩
    · have := hnumbered other set s hold
      omega
    · rw [Registry.sources_extend, List.mem_append] at hnew
      rcases hnew with hold | hown
      · have := hnumbered other set s hold
        omega
      · obtain ⟨s', -, heq⟩ := List.mem_map.1 hown
        cases heq
        simp
  · rw [heq]
    refine hnumbered.mono ?_ fun place source hsource => .inl hsource
    simp

theorem Numbered.construct (hnumbered : h.Numbered) (place : RegistryId) (bounds : Option Value)
    (given : Option Config) : (h.construct place bounds given).1.Numbered := by
  unfold Host.construct
  split
  · exact hnumbered
  · exact hnumbered.addSet place _

theorem Numbered.createSet (hnumbered : h.Numbered) (environment : Environment)
    (place : RegistryId) (given : Option Config) :
    (h.createSet environment place given).1.Numbered := by
  unfold Host.createSet
  split
  · exact hnumbered.construct place none _
  · split
    · exact hnumbered
    · rename_i config _
      have hlogged : (h.write (.environmentLoaded config)).Numbered := hnumbered
      exact hlogged.construct place none _

theorem Numbered.processSet (hnumbered : h.Numbered) (environment : Environment) :
    (h.processSet environment).1.Numbered := by
  unfold Host.processSet
  split
  · exact hnumbered
  · have hmade := hnumbered.createSet environment .default none
    split <;> rename_i hresult <;> rw [hresult] at hmade <;> exact hmade

/-- Taking a set out of its registry brings no series in, even where it
stops halfway. -/
theorem Numbered.unregisterSet (hnumbered : h.Numbered) (id : SetId) :
    (h.unregisterSet id).1.Numbered := by
  unfold Host.unregisterSet
  split
  · exact hnumbered
  · rename_i m _
    split
    · exact hnumbered
    · have hexpelled : (h.setRegistry m.registry
          ((h.registry m.registry).expelAll id).1).Numbered := by
        refine hnumbered.mono (Nat.le_refl _) fun place source hsource => .inl ?_
        rcases mem_sources_setRegistry hsource with hold | ⟨rfl, hleft⟩
        · exact hold
        · exact Registry.mem_sources_expel hleft
      dsimp only
      split
      · exact hexpelled
      · refine hexpelled.mono ?_ fun place source hsource => .inl hsource
        exact Nat.le_of_eq (by rw [sets_write, length_sets_putSet])

/-- A metric of another program that comes in is no series. -/
theorem Numbered.enter (hnumbered : h.Numbered) {metric : ForeignId} {names : List String}
    {r : Registry} (hentered : (h.registry place).register (.foreign metric) names = .ok r) :
    (h.setRegistry place r).Numbered := by
  refine hnumbered.mono (Nat.le_refl _) fun other source hsource => ?_
  rcases mem_sources_setRegistry hsource with hold | ⟨rfl, hnew⟩
  · exact .inl hold
  · rw [Registry.sources_register hentered, List.mem_append, List.mem_singleton] at hnew
    exact hnew.imp_right fun heq => ⟨_, heq⟩

theorem Numbered.addForeign (hnumbered : h.Numbered) (place : RegistryId) (kind : FamilyKind)
    (name help : String) (labels : List String) :
    (h.addForeign place kind name help labels).1.Numbered := by
  unfold Host.addForeign
  split
  · exact hnumbered
  · dsimp only
    split
    · rename_i hentered
      exact hnumbered.enter hentered
    · exact hnumbered

theorem Numbered.drop (hnumbered : h.Numbered) (place : RegistryId) (source : Source) :
    (h.drop place source).1.Numbered := by
  unfold Host.drop
  split
  · rename_i after hafter
    refine hnumbered.mono (Nat.le_refl _) fun other found hfound => .inl ?_
    rcases mem_sources_setRegistry hfound with hold | ⟨rfl, hleft⟩
    · exact hold
    · exact Registry.mem_sources_unregister hafter hleft
  · exact hnumbered

theorem Numbered.addRegistry (hnumbered : h.Numbered) : h.addRegistry.1.Numbered := by
  refine hnumbered.mono (Nat.le_refl _) fun place source hsource => .inl ?_
  rwa [registry_addRegistry] at hsource

/-! ## All or nothing -/

/-- **A set was constructed**: its series stand behind what was in its
registry, in the order of their definition, and all their names are theirs;
no other registry changed, and the set knows that it is registered. -/
structure Constructed (h after : Host) (place : RegistryId) (id : SetId) : Prop where
  entries : (after.registry place).entries = (h.registry place).entries ++
    Series.all.map fun s => (.series id s, Registry.claims s)
  owners : (after.registry place).owners = (h.registry place).owners ++
    Series.all.flatMap fun s => (Registry.claims s).map fun name => (name, .series id s)
  reserved : ∀ s, ∀ name ∈ Registry.claims s, (after.registry place).isTaken name = true
  others : ∀ other, other ≠ place → after.registry other = h.registry other
  registered : ∃ m, after.set? id = some m ∧ m.registry = place ∧ m.registered = true

/-- A set that was added was constructed. -/
theorem constructed_of_addSet (hnumbered : h.Numbered) (hplace : place.index < h.registries.length)
    (hadded : h.addSet place config = (after, .ok id)) : h.Constructed after place id := by
  rcases addSet_cases hnumbered place config with
    ⟨error, heq⟩ | ⟨buckets, record, -, heq⟩ | ⟨buckets, record, s, -, heq⟩
  · rw [heq] at hadded
    cases hadded
  · rw [heq] at hadded
    cases hadded
    have hregistry := registry_setRegistry_self hplace
      (r := (h.registry place).extend ⟨h.sets.length⟩ Series.all)
    refine ⟨?_, ?_, fun s name hname => ?_, fun other hne => registry_setRegistry_of_ne hne, ?_⟩
    · exact congrArg Registry.entries hregistry
    · exact congrArg Registry.owners hregistry
    · rw [registry_write, registry_withSet, hregistry, Registry.isTaken_extend]
      exact .inr ⟨s, Series.mem_all s, hname⟩
    · exact ⟨_, set?_withSet_self, rfl, rfl⟩
  · rw [heq] at hadded
    cases hadded

/-- A set that could not be added left every registry as it was. -/
theorem registries_of_addSet (hnumbered : h.Numbered) {failure : Failure}
    (hfailed : h.addSet place config = (after, .error failure)) :
    after.registries = h.registries := by
  rcases addSet_cases hnumbered place config with
    ⟨error, heq⟩ | ⟨buckets, record, -, heq⟩ | ⟨buckets, record, s, -, heq⟩ <;>
  · rw [heq] at hfailed
    cases hfailed
    try rfl

/-- An adapter error of adding a set tells the first clash. -/
theorem clashesFirst_of_addSet (hnumbered : h.Numbered) {e : AdapterError}
    (hfailed : h.addSet place config = (after, .error (.adapter e))) :
    ∃ s, (h.registry place).ClashesFirst s ∧ e.context.metricName = some (.plain s.fullName) ∧
      e.cause = some (.duplicateNames ((h.registry place).clashes (Registry.claims s))) := by
  rcases addSet_cases hnumbered place config with
    ⟨error, heq⟩ | ⟨buckets, record, -, heq⟩ | ⟨buckets, record, s, hfirst, heq⟩
  · rw [heq] at hfailed
    cases hfailed
  · rw [heq] at hfailed
    cases hfailed
  · rw [heq] at hfailed
    cases hfailed
    exact ⟨s, Registry.firstClash?_eq_some_iff.1 hfirst, rfl, rfl⟩

/-- **All or nothing.** Whatever a registry holds and whatever a metric set
is built from, a construction that returns has put the eleven series in,
and one that fails has changed no registry. From an acceptable
configuration it returns if no name of a series is taken, and else fails for
a conflict; what is told is the first series that clashes, and which of its
names do. -/
theorem construct_all_or_nothing (hnumbered : h.Numbered)
    (hplace : place.index < h.registries.length) (bounds : Option Value) {given : Option Config}
    (hgiven : ∀ c, given = some c → c.Accepted) :
    (∀ after id, h.construct place bounds given = (after, .ok id) →
      h.Constructed after place id) ∧
    (∀ after failure, h.construct place bounds given = (after, .error failure) →
      after.registries = h.registries) ∧
    (∀ config, Config.resolve bounds given = .ok config →
      ((∃ after id, h.construct place bounds given = (after, .ok id)) ↔
        ∀ s, ∀ name ∈ Registry.claims s, (h.registry place).isTaken name = false) ∧
      ((∃ after e, h.construct place bounds given = (after, .error (.adapter e)) ∧
          e.kind = .registrationConflict) ↔
        ∃ s, ∃ name ∈ Registry.claims s, (h.registry place).isTaken name = true)) ∧
    (∀ after e, h.construct place bounds given = (after, .error (.adapter e)) →
      e.kind = .registrationConflict →
      ∃ s, (h.registry place).ClashesFirst s ∧ e.context.metricName = some (.plain s.fullName) ∧
        e.cause = some (.duplicateNames ((h.registry place).clashes (Registry.claims s)))) := by
  refine ⟨fun after id hmade => ?_, fun after failure hfailed => ?_, fun config hresolve => ?_,
    fun after e hfailed hkind => ?_⟩
  · unfold construct at hmade
    split at hmade
    · cases hmade
    · exact constructed_of_addSet hnumbered hplace hmade
  · unfold construct at hfailed
    split at hfailed
    · cases hfailed
      rfl
    · exact registries_of_addSet hnumbered hfailed
  -- an acceptable configuration can be laid out, so only a clash is left to fail for
  · have haccepted := Config.accepted_of_resolve hgiven hresolve
    obtain ⟨buckets, hbuckets⟩ := haccepted.exists_buckets
    unfold construct
    simp only [hresolve]
    cases hfirst : (h.registry place).firstClash? Series.all with
    | none =>
      have hfree := Registry.firstClash?_eq_none_iff.1 hfirst
      rw [addSet_of_clear hnumbered hbuckets hfirst]
      refine ⟨⟨fun _ => hfree, fun _ => ⟨_, _, rfl⟩⟩, ⟨?_, ?_⟩⟩
      · rintro ⟨after, e, heq, -⟩
        cases heq
      · rintro ⟨s, name, hname, htaken⟩
        rw [hfree s name hname] at htaken
        cases htaken
    | some s =>
      obtain ⟨hclash, -⟩ := Registry.firstClash?_eq_some_iff.1 hfirst
      obtain ⟨name, hmem⟩ := List.exists_mem_of_ne_nil _ hclash
      obtain ⟨hname, htaken⟩ := Registry.mem_clashes_iff.1 hmem
      rw [addSet_of_clash hnumbered hbuckets hfirst]
      refine ⟨⟨?_, fun hfree => ?_⟩, ⟨fun _ => ⟨s, name, hname, htaken⟩, fun _ => ⟨_, _, rfl, rfl⟩⟩⟩
      · rintro ⟨after, id, heq⟩
        cases heq
      · rw [hfree s name hname] at htaken
        cases htaken
  -- a configuration that is refused is told as such, not as a conflict
  · unfold construct at hfailed
    split at hfailed
    · rename_i hresolve
      cases hfailed
      obtain ⟨e', heq, hconfiguration⟩ := Config.kind_of_resolve hresolve
      cases heq
      rw [hconfiguration] at hkind
      cases hkind
    · exact clashesFirst_of_addSet hnumbered hfailed

/-- A counter of another program has the name of the seventh series: the
six before it are taken out again. -/
theorem construct_all_or_nothing_timeouts :
    ∃ h, h = (initial.addForeign .default .counter "hystrix_go_timeouts" "Timeouts." []).1 ∧
      ∃ after e, h.construct .default none none = (after, .error (.adapter e)) ∧
        e.kind = .registrationConflict ∧ after.registries = h.registries := by
  refine ⟨_, rfl, ?_⟩
  have hnumbered := numbered_initial.addForeign .default .counter "hystrix_go_timeouts"
    "Timeouts." []
  have hplace : RegistryId.default.index < (initial.addForeign .default .counter
      "hystrix_go_timeouts" "Timeouts." []).1.registries.length := by decide +kernel
  have hgiven : ∀ c, (none : Option Config) = some c → c.Accepted := by simp
  obtain ⟨-, hkept, hreturns, -⟩ := construct_all_or_nothing hnumbered hplace none hgiven
  obtain ⟨after, e, hfailed, hkind⟩ := (hreturns .empty rfl).2.2
    ⟨.events .timeout, "hystrix_go_timeouts", by decide +kernel, by decide +kernel⟩
  exact ⟨after, e, hfailed, hkind, hkept after _ hfailed⟩

end Host

end CommandMetrics
