import CommandMetrics.Proofs.Bookkeeping
import Mathlib.Data.List.Nodup
import Mathlib.Data.List.Perm.Subperm
/-!
# Order — sources stand in the order in which they came

An act lets sources of a registry leave, or one metric of another program
come last, or all series of a new set (`Host.follows_perform`). None of this
puts a series of a set before one that is defined earlier, so over every run
the series of a set that are there stand in the order of their definition
(`Host.inOrder_run`).
-/

namespace CommandMetrics

namespace Registry

/-- **What may become of the sources of a registry**: some leave, or a metric
of another program comes last, or all series of a set do that were not
there. -/
inductive Follows (before : List Source) : List Source → Prop where
  | leave {after : List Source} (h : after.Sublist before) : Follows before after
  | foreign (id : ForeignId) : Follows before (before ++ [.foreign id])
  | set (id : SetId) (h : ∀ s, .series id s ∉ before) :
      Follows before (before ++ Series.all.map (.series id))

/-- Whether a source is a series of a set. -/
def isOf (id : SetId) : Source → Bool
  | .series other _ => other == id
  | .foreign _ => false

/-- **The series of each set stand in the order of their definition.** -/
def InOrder (sources : List Source) : Prop :=
  ∀ id, (sources.filter (isOf id)).Sublist (Series.all.map (.series id))

theorem Follows.refl (sources : List Source) : Follows sources sources :=
  .leave (List.Sublist.refl _)

theorem filter_isOf_eq_nil {id : SetId} {sources : List Source}
    (h : ∀ s, .series id s ∉ sources) : sources.filter (isOf id) = [] := by
  refine List.filter_eq_nil_iff.2 fun source hsource hof => ?_
  cases source with
  | series other s =>
    obtain rfl : other = id := by simpa [isOf] using hof
    exact h s hsource
  | foreign other => cases hof

/-- **Whatever becomes of them leaves them in order.** -/
theorem Follows.inOrder {before after : List Source} (h : Follows before after)
    (hbefore : InOrder before) : InOrder after := by
  intro id
  cases h with
  | leave hsub => exact (hsub.filter _).trans (hbefore id)
  | foreign other => simpa [isOf] using hbefore id
  | set other hnew =>
    rw [List.filter_append]
    by_cases heq : other = id
    · subst heq
      rw [filter_isOf_eq_nil hnew, List.nil_append]
      exact List.filter_sublist
    · have hother : (Series.all.map (Source.series other)).filter (isOf id) = [] :=
        filter_isOf_eq_nil fun s hmem => by
          obtain ⟨s', -, hsame⟩ := List.mem_map.1 hmem
          cases hsame
          exact heq rfl
      rw [hother, List.append_nil]
      exact hbefore id

theorem sublist_sources_without {r : Registry} {gone : List Source} :
    (r.without gone).sources.Sublist r.sources := List.filter_sublist.map _

/-- **The series of a set that stand in a registry**, in the order of their
definition. -/
def standing (r : Registry) (id : SetId) : List Series := Series.all.filter (r.holds id)

variable {r : Registry} {id : SetId}

theorem mem_standing_iff {s : Series} : s ∈ r.standing id ↔ .series id s ∈ r.sources := by
  rw [standing, List.mem_filter, holds_iff]
  exact and_iff_right (Series.mem_all s)

/-- Those are all of them as long as none was taken out. -/
theorem standing_eq_all_iff : r.standing id = Series.all ↔ ∀ s, .series id s ∈ r.sources := by
  rw [standing, List.filter_eq_self]
  exact forall_congr' fun s => by rw [holds_iff, forall_prop_of_true (Series.mem_all s)]

/-- A registry in which series of a single set stand, and nothing else, has
them in the order of their definition. -/
theorem InOrder.eq_standing (h : InOrder r.sources)
    (honly : ∀ source ∈ r.sources, ∃ s, source = .series id s) :
    r.sources = (r.standing id).map (.series id) := by
  have hall : r.sources.filter (isOf id) = r.sources := by
    refine List.filter_eq_self.2 fun source hsource => ?_
    obtain ⟨s, rfl⟩ := honly source hsource
    simp [isOf]
  have hpart : (Series.all.map (Source.series id)).filter (fun source => source ∈ r.sources) =
      (r.standing id).map (.series id) := List.filter_map
  have hself : r.sources.filter (fun source => source ∈ r.sources) = r.sources :=
    List.filter_eq_self.2 fun source hsource => decide_eq_true hsource
  have hsub := h id
  rw [hall] at hsub
  have hkept := hsub.filter fun source => decide (source ∈ r.sources)
  rw [hself, hpart] at hkept
  have hnodup : ((r.standing id).map (Source.series id)).Nodup :=
    List.Nodup.map (fun _ _ heq => by cases heq; rfl) (List.Nodup.filter _ (by decide))
  have hsubset : (r.standing id).map (Source.series id) ⊆ r.sources := fun source hsource => by
    obtain ⟨s, hs, rfl⟩ := List.mem_map.1 hsource
    exact mem_standing_iff.1 hs
  exact hkept.eq_of_length_le (List.subperm_of_subset hnodup hsubset).length_le

end Registry

namespace Host

open Registry (Follows InOrder)

variable {h after : Host} {place elsewhere : RegistryId} {id : SetId} {m : MetricSet}
variable {r : Registry}

/-- Where one registry changes, the others stay as they are. -/
theorem follows_setRegistry (hr : Follows (h.registry place).sources r.sources)
    (elsewhere : RegistryId) :
    Follows (h.registry elsewhere).sources
      ((h.setRegistry place r).registry elsewhere).sources := by
  by_cases heq : elsewhere = place
  · subst heq
    rcases h.registry_setRegistry_cases elsewhere r with hfound | hfound <;> rw [hfound]
    · exact hr
    · exact .leave (List.nil_sublist _)
  · rw [registry_setRegistry_of_ne heq]
    exact .refl _

/-- Registries from which sources are taken out keep the others. -/
theorem follows_strip (h : Host) (place : RegistryId) (gone : List Source)
    (elsewhere : RegistryId) :
    Follows (h.registry elsewhere).sources ((h.strip place gone).registry elsewhere).sources :=
  follows_setRegistry (.leave Registry.sublist_sources_without) elsewhere

/-- A metric of another program that comes in comes last. -/
theorem follows_enter {other : ForeignId} {names : List String}
    (hentered : (h.registry place).register (.foreign other) names = .ok r)
    (elsewhere : RegistryId) :
    Follows (h.registry elsewhere).sources
      ((h.setRegistry place r).registry elsewhere).sources := by
  refine follows_setRegistry ?_ elsewhere
  rw [Registry.sources_register hentered]
  exact .foreign other

/-- The series of a set that is added come last, all of them or none. -/
theorem follows_addSet (hb : h.Booked) (place : RegistryId) (config : Config)
    (elsewhere : RegistryId) :
    Follows (h.registry elsewhere).sources
      ((h.addSet place config).1.registry elsewhere).sources := by
  rcases addSet_cases hb.numbered place config with
    ⟨error, heq⟩ | ⟨buckets, record, -, heq⟩ | ⟨buckets, record, s, -, heq⟩ <;> rw [heq]
  · exact .refl _
  · refine follows_setRegistry ?_ elsewhere
    rw [Registry.sources_extend]
    exact .set _ (hb.numbered.lacks place)
  · exact .refl _

theorem follows_construct (hb : h.Booked) (place : RegistryId) (bounds : Option Value)
    (given : Option Config) (elsewhere : RegistryId) :
    Follows (h.registry elsewhere).sources
      ((h.construct place bounds given).1.registry elsewhere).sources := by
  unfold construct
  split
  · exact .refl _
  · exact follows_addSet hb place _ elsewhere

theorem follows_createSet (hb : h.Booked) (environment : Environment) (place : RegistryId)
    (given : Option Config) (elsewhere : RegistryId) :
    Follows (h.registry elsewhere).sources
      ((h.createSet environment place given).1.registry elsewhere).sources := by
  unfold createSet
  split
  · exact follows_construct hb place none _ elsewhere
  · split
    · exact .refl _
    · rename_i config _
      have hlogged := hb.of_records (h.records_write (.environmentLoaded config))
      exact follows_construct hlogged place none _ elsewhere

/-- **What an act does to a registry** is one of these. -/
theorem follows_perform (hb : h.Booked) (act : Act) (elsewhere : RegistryId) :
    Follows (h.registry elsewhere).sources ((h.perform act).registry elsewhere).sources := by
  have hrecords : ∀ {after : Host}, h.Records after →
      Follows (h.registry elsewhere).sources (after.registry elsewhere).sources := fun hrec => by
    rw [hrec.registry_eq]
    exact .refl _
  cases act with
  | addRegistry =>
    rw [perform, registry_addRegistry]
    exact .refl _
  | construct place bounds given => exact follows_construct hb place bounds given elsewhere
  | createSet environment place given =>
    exact follows_createSet hb environment place given elsewhere
  | processSet environment =>
    simp only [perform, processSet]
    split
    · exact .refl _
    · have hmade := follows_createSet hb environment .default none elsewhere
      split <;> rename_i hresult <;> rw [hresult] at hmade <;> exact hmade
  | unregisterSet id =>
    cases hset : h.set? id with
    | none =>
      simp only [perform, unregisterSet, hset]
      exact .refl _
    | some m =>
      rw [perform]
      rcases hb.unregisterSet_cases hset with ⟨-, heq⟩ | ⟨-, -, heq⟩ | ⟨-, s, -, heq⟩ <;> rw [heq]
      · exact .refl _
      · exact follows_strip h m.registry _ elsewhere
      · exact follows_strip h m.registry _ elsewhere
  | addForeign place kind name help labels =>
    simp only [perform, addForeign]
    split
    · exact .refl _
    · split
      · rename_i hentered
        exact follows_enter hentered elsewhere
      · exact .refl _
  | reregister place id =>
    simp only [perform, reregister]
    split
    · exact .refl _
    · split
      · rename_i hentered
        exact follows_enter hentered elsewhere
      · exact .refl _
  | drop place source =>
    simp only [perform, drop]
    by_cases hthere : source ∈ (h.registry place).sources
    · rw [(hb.owned place).unregister_eq hthere]
      exact follows_strip h place [source] elsewhere
    · rw [Registry.unregister_eq_none hthere]
      exact .refl _
  | addRoster => exact hrecords (.of_sets_eq rfl rfl rfl rfl)
  | startEndpoint serve other port => exact hrecords (h.records_startEndpoint serve other port)
  | newRecorder route other name => exact hrecords (h.records_newRecorder route other name)
  | ensureCommand other name => exact hrecords (h.records_ensureCommand other name)
  | newMemory name => exact hrecords (h.records_addSink _ name)
  | newSilent name => exact hrecords (h.records_addSink _ name)
  | call collector method arguments => exact hrecords (h.records_call collector method arguments)
  | register roster candidate => exact hrecords (h.records_register roster candidate)
  | clearRoster roster => exact hrecords (h.records_clearRoster roster)
  | initializeCollectors roster name => exact hrecords (h.records_initializeCollectors roster name)

/-- **Over every run the series of a set stand in the order of their
definition.** -/
theorem inOrder_run (acts : List Act) (place : RegistryId) :
    InOrder ((initial.run acts).registry place).sources := by
  induction acts using List.reverseRecOn with
  | nil =>
    intro id
    have hnone : ∀ s, .series id s ∉ (initial.registry place).sources := fun s hmem =>
      Nat.not_lt_zero _ (numbered_initial place id s hmem)
    rw [run, List.foldl_nil, Registry.filter_isOf_eq_nil hnone]
    exact List.nil_sublist _
  | append_singleton acts act ih =>
    rw [run_concat]
    exact (follows_perform (booked_run acts) act place).inOrder ih

end Host

end CommandMetrics
