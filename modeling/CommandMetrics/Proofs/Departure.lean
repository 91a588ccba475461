import CommandMetrics.Proofs.Bookkeeping
/-!
# Departure — how a metric set leaves its registry

The series of a set go out one after the other. One of them may have been
taken out before, by hand, and nothing that has gone out is put back then.
So a departure is one of two things: the set has left whole (`Host.Left`),
or it stopped at the first series that is missing and has lost those before
it (`Host.Stopped`). The registry is as it was only if nothing comes before
the missing one, and no later attempt gets any further
(`unregister_leaves_or_stops`).
-/

namespace CommandMetrics

namespace Host

/-- **A set has left**: none of its series stands in a registry or owns a
name, and the names that it had are free; whatever else stood in its
registry stands there still, and nothing else has changed but that the set
says that it is not registered. -/
structure Left (h after : Host) (id : SetId) (m : MetricSet) : Prop where
  gone : ∀ place s, .series id s ∉ (after.registry place).sources
  unowned : ∀ place name s, (name, .series id s) ∉ (after.registry place).owners
  freed : m.registered = true →
    ∀ s, ∀ name ∈ Registry.claims s, (after.registry m.registry).isTaken name = false
  others : after.registry m.registry =
    (h.registry m.registry).without (Series.all.map (.series id))
  elsewhere : ∀ place, place ≠ m.registry → after.registry place = h.registry place
  foreign : after.foreign = h.foreign
  unregistered : after.set? id = some { m with registered := false }
  sets : ∀ other, other ≠ id → after.set? other = h.set? other

/-- **A set stopped on its way out** at the first of its series that is not
there: those before it are gone, and nothing else has changed. The set
still says that it is registered. -/
structure Stopped (h after : Host) (id : SetId) (m : MetricSet) (before : List Series)
    (missing : Series) : Prop where
  registered : m.registered = true
  first : ∃ rest, Series.all = before ++ missing :: rest
  there : ∀ s ∈ before, .series id s ∈ (h.registry m.registry).sources
  absent : .series id missing ∉ (h.registry m.registry).sources
  others : after.registry m.registry = (h.registry m.registry).without (before.map (.series id))
  elsewhere : ∀ place, place ≠ m.registry → after.registry place = h.registry place
  foreign : after.foreign = h.foreign
  sets : after.sets = h.sets

variable {h after : Host} {place : RegistryId} {id : SetId} {m : MetricSet}
variable {before : List Series} {missing s : Series}

/-! ## A set that leaves -/

/-- Where nothing of a set stands it owns nothing. -/
theorem Booked.notMem_owners (hb : h.Booked)
    (hgone : ∀ s, .series id s ∉ (h.registry place).sources) (name : String) (s : Series) :
    (name, .series id s) ∉ (h.registry place).owners := by
  intro howner
  obtain ⟨names, hentry, -⟩ := ((hb.owned place).mem_owners_iff name _).1 howner
  exact hgone s (Registry.mem_sources_iff.2 ⟨names, hentry⟩)

/-- **A set that says that it is not registered has left.** -/
theorem Booked.left_of_unregistered (hb : h.Booked) (hset : h.set? id = some m)
    (hflag : m.registered = false) : h.Left h id m := by
  have hgone : ∀ place s, .series id s ∉ (h.registry place).sources := by
    intro place s hmem
    obtain ⟨found, hfound, -, hregistered⟩ := hb.flagged place id s hmem
    rw [hset] at hfound
    cases hfound
    rw [hflag] at hregistered
    cases hregistered
  have habsent : ∀ source ∈ Series.all.map (.series id),
      source ∉ (h.registry m.registry).sources := by
    intro source hmem
    obtain ⟨s, -, rfl⟩ := List.mem_map.1 hmem
    exact hgone m.registry s
  refine ⟨hgone, fun place => hb.notMem_owners (hgone place), fun hregistered => ?_,
    ((hb.owned m.registry).without_of_notMem habsent).symm, fun _ _ => rfl, rfl, ?_,
    fun _ _ => rfl⟩
  · rw [hflag] at hregistered
    cases hregistered
  · rw [hset, ← hflag]

/-- **A set that goes out whole has left.** It does not say any more that it
is registered, so nothing of it stands anywhere. -/
theorem Booked.left_of_forall_mem (hb : h.Booked) (hset : h.set? id = some m)
    (hthere : ∀ s, .series id s ∈ (h.registry m.registry).sources)
    (hafter : after = ((h.strip m.registry (Series.all.map (.series id))).putSet id
      { m with registered := false }).write .setUnregistered) (hbooked : after.Booked) :
    h.Left after id m := by
  subst hafter
  have hset' : (h.strip m.registry (Series.all.map (.series id))).set? id = some m := hset
  have hunregistered := set?_putSet_self hset' { m with registered := false }
  have hleft := hbooked.left_of_unregistered hunregistered rfl
  have hothers := h.registry_strip m.registry (Series.all.map (.series id))
  refine ⟨hleft.gone, hleft.unowned, fun _ s name hname => ?_, hothers,
    fun place hne => registry_strip_of_ne hne _, rfl, hunregistered,
    fun other hne => set?_putSet_of_ne hne⟩
  have hentry := hb.mem_entries_series (hthere s)
  have hgone : .series id s ∈ Series.all.map (Source.series id) :=
    List.mem_map_of_mem (Series.mem_all s)
  show ((h.strip m.registry _).registry m.registry).isTaken name = false
  rw [hothers]
  exact (hb.owned m.registry).isTaken_without hentry hgone hname

/-! ## A set that stops -/

/-- **A set of which a series is missing stops** there. -/
theorem stopped_of_firstMissing? (hflag : m.registered = true)
    (hmissing : (h.registry m.registry).firstMissing? id Series.all = some missing) :
    h.Stopped (h.strip m.registry (((h.registry m.registry).present id Series.all).map
      (.series id))) id m ((h.registry m.registry).present id Series.all) missing := by
  obtain ⟨hfirst, hthere, habsent⟩ := Registry.firstMissing?_eq_some hmissing
  exact ⟨hflag, hfirst, hthere, habsent, h.registry_strip _ _,
    fun place hne => registry_strip_of_ne hne _, rfl, rfl⟩

namespace Stopped

/-- A set that stopped lacks the first of its series: it is missing itself,
or it comes before the one that is. -/
theorem notMem_attempts (hs : h.Stopped after id m before missing) :
    .series id (.events .attempt) ∉ (after.registry m.registry).sources := by
  obtain ⟨rest, hfirst⟩ := hs.first
  rw [hs.others, Registry.mem_sources_without]
  cases before with
  | nil =>
    obtain ⟨rfl, -⟩ := List.cons.inj hfirst
    exact fun hmem => hs.absent hmem.1
  | cons s before =>
    obtain ⟨rfl, -⟩ := List.cons.inj hfirst
    exact fun hmem => hmem.2 List.mem_cons_self

/-- **The registry of a set that stopped is as it was** only if the set
stopped at once. -/
theorem registry_eq_iff (hs : h.Stopped after id m before missing) :
    after.registry m.registry = h.registry m.registry ↔ before = [] := by
  rw [hs.others]
  constructor
  · intro hsame
    refine List.eq_nil_iff_forall_not_mem.2 fun s hmem => ?_
    have hthere := hs.there s hmem
    rw [← hsame, Registry.mem_sources_without] at hthere
    exact hthere.2 (List.mem_map_of_mem hmem)
  · rintro rfl
    exact Registry.without_nil _

/-- **A set that stopped stops at once** the next time, and ever after. -/
theorem unregisterSet_eq (hs : h.Stopped after id m before missing) (hset : h.set? id = some m)
    (hbooked : after.Booked) : after.unregisterSet id =
      (after, .error (.fault (.notRegistered
        ((Series.events .attempt).kind.family.shown (Series.events .attempt).fullName)))) := by
  have hset' : after.set? id = some m := (set?_of_sets_eq hs.sets).trans hset
  have habsent : ¬ (after.registry m.registry).holds id (.events .attempt) = true :=
    fun hholds => hs.notMem_attempts (Registry.holds_iff.1 hholds)
  have hpresent : (after.registry m.registry).present id Series.all = [] :=
    List.takeWhile_cons_of_neg habsent
  have hfirst : (after.registry m.registry).firstMissing? id Series.all =
      some (.events .attempt) := List.find?_cons_of_pos (by simpa using habsent)
  rcases hbooked.unregisterSet_cases hset' with
    ⟨hflag, -⟩ | ⟨-, hthere, -⟩ | ⟨-, s, hmissing, heq⟩
  · rw [hs.registered] at hflag
    cases hflag
  · exact absurd (hthere _) hs.notMem_attempts
  · rw [hfirst] at hmissing
    cases hmissing
    have hsame : after.strip m.registry [] = after := by
      rw [strip, Registry.without_nil, setRegistry_registry]
    rw [heq, hpresent, List.map_nil, hsame]

end Stopped

/-! ## Every run -/

/-- **A set leaves whole or stops halfway.** After any run, in which series
may have been taken out by hand, a call to take a set out of its registry
returns if the set is not registered or all of its series are there. Then
the set has left, and a second call changes nothing. Else the call fails
and tells the first series that is missing; the series before it are gone,
so the registry is as it was only if there is none before it. A second call
changes nothing then either, and fails. -/
theorem unregister_leaves_or_stops {acts : List Act}
    (hset : (initial.run acts).set? id = some m) :
    ((∃ after, (initial.run acts).unregisterSet id = (after, .ok ())) ↔
      m.registered = false ∨
        ∀ s, .series id s ∈ ((initial.run acts).registry m.registry).sources) ∧
    (∀ after, (initial.run acts).unregisterSet id = (after, .ok ()) →
      (initial.run acts).Left after id m ∧ after.unregisterSet id = (after, .ok ())) ∧
    (∀ after failure, (initial.run acts).unregisterSet id = (after, .error failure) →
      ∃ before missing, (initial.run acts).Stopped after id m before missing ∧
        failure = .fault (.notRegistered (missing.kind.family.shown missing.fullName)) ∧
        (after.registry m.registry = (initial.run acts).registry m.registry ↔ before = []) ∧
        after.unregisterSet id = (after, .error (.fault (.notRegistered
          ((Series.events .attempt).kind.family.shown (Series.events .attempt).fullName))))) := by
  have hb := booked_run acts
  have hbooked := hb.unregisterSet id
  rcases hb.unregisterSet_cases hset with
    ⟨hflag, heq⟩ | ⟨hflag, hthere, heq⟩ | ⟨hflag, s, hmissing, heq⟩ <;> rw [heq] at hbooked ⊢
  · refine ⟨⟨fun _ => .inl hflag, fun _ => ⟨_, rfl⟩⟩, ?_, ?_⟩
    · rintro after ⟨⟩
      exact ⟨hb.left_of_unregistered hset hflag, heq⟩
    · rintro after failure ⟨⟩
  · refine ⟨⟨fun _ => .inr hthere, fun _ => ⟨_, rfl⟩⟩, ?_, ?_⟩
    · rintro after ⟨⟩
      have hleft := hb.left_of_forall_mem hset hthere rfl hbooked
      refine ⟨hleft, ?_⟩
      rcases hbooked.unregisterSet_cases hleft.unregistered with
        ⟨-, hagain⟩ | ⟨hregistered, -⟩ | ⟨hregistered, -⟩
      · exact hagain
      · cases hregistered
      · cases hregistered
    · rintro after failure ⟨⟩
  · have hstopped := stopped_of_firstMissing? hflag hmissing
    refine ⟨⟨?_, ?_⟩, ?_, ?_⟩
    · rintro ⟨after, ⟨⟩⟩
    · rintro (hregistered | hthere)
      · rw [hflag] at hregistered
        cases hregistered
      · exact absurd (hthere s) hstopped.absent
    · rintro after ⟨⟩
    · rintro after failure ⟨⟩
      exact ⟨_, s, hstopped, rfl, hstopped.registry_eq_iff,
        hstopped.unregisterSet_eq hset hbooked⟩

/-- A set of which the counter of errors was taken out by hand. -/
def errorsTaken : List Act :=
  [.construct .default none none, .drop .default (.series ⟨0⟩ (.events .error))]

/-- It stops, and its registry has changed by then. -/
theorem exists_unregisterSet_errorsTaken :
    ∃ after failure, (initial.run errorsTaken).unregisterSet ⟨0⟩ = (after, .error failure) ∧
      after.registry .default ≠ (initial.run errorsTaken).registry .default := by
  have hrun : ((initial.run errorsTaken).unregisterSet ⟨0⟩).2.toOption = none ∧
      ((initial.run errorsTaken).unregisterSet ⟨0⟩).1.registry .default ≠
        (initial.run errorsTaken).registry .default := by decide +kernel
  rcases htold : (initial.run errorsTaken).unregisterSet ⟨0⟩ with ⟨after, failure | returned⟩ <;>
    rw [htold] at hrun
  · exact ⟨after, failure, rfl, hrun.2⟩
  · cases hrun.1

/-- The counter of attempts is lost before it is noticed that the counter of
errors is missing. -/
theorem unregister_leaves_or_stops_errors :
    ∃ m after failure before missing, (initial.run errorsTaken).set? ⟨0⟩ = some m ∧
      (initial.run errorsTaken).unregisterSet ⟨0⟩ = (after, .error failure) ∧
      (initial.run errorsTaken).Stopped after ⟨0⟩ m before missing ∧ before ≠ [] := by
  have hplace : ((initial.run errorsTaken).set? ⟨0⟩).map MetricSet.registry = some .default := by
    decide +kernel
  obtain ⟨m, hset, hregistry⟩ := Option.map_eq_some_iff.1 hplace
  obtain ⟨after, failure, htold, hchanged⟩ := exists_unregisterSet_errorsTaken
  obtain ⟨-, -, hstops⟩ := unregister_leaves_or_stops hset
  obtain ⟨before, missing, hstopped, -, hsame, -⟩ := hstops after failure htold
  refine ⟨m, after, failure, before, missing, hset, htold, hstopped, fun hnil => ?_⟩
  rw [hregistry] at hsame
  exact hchanged (hsame.2 hnil)

/-- **A call that fails may have changed the registry.** -/
theorem unregister_not_atomic :
    ¬ ∀ acts id after failure, (initial.run acts).unregisterSet id = (after, .error failure) →
      after.registries = (initial.run acts).registries := by
  intro hatomic
  obtain ⟨after, failure, htold, hchanged⟩ := exists_unregisterSet_errorsTaken
  have hsame := hatomic errorsTaken ⟨0⟩ after failure htold
  exact hchanged (registry_congr hsame .default)

end Host

end CommandMetrics
