import CommandMetrics.Proofs.Departure
import CommandMetrics.Proofs.Recording.Isolation
/-!
# Restoration — a set that left might as well never have come

While a set is registered, metrics of other programs come into the
registries and go out of them. Beside the host with the set there is one
without it, in which the same is done (`Host.Twin`): its registries are
those of the host without the series of the set. A source that comes or
goes does so in both (`register_without`, `unregister_without`), and
recording concerns neither. So once the set has left, there is no telling
the registries apart, in order and in names (`unregister_restores`).
-/

namespace CommandMetrics

namespace Registry

variable {r after : Registry} {source : Source} {names : List String} {gone more : List Source}
variable {set : SetId} {added : List Series}

/-- Who is gone first makes no difference. -/
theorem without_comm (r : Registry) (gone more : List Source) :
    (r.without gone).without more = (r.without more).without gone := by
  simp [without, List.filter_filter, Bool.and_comm]

/-- **Who comes in comes in without the others as well**, to the same place. -/
theorem register_without (h : r.register source names = .ok after) (hstays : source ∉ gone) :
    (r.without gone).register source names = .ok (after.without gone) := by
  obtain ⟨hfree, rfl⟩ := register_eq_ok_iff.1 h
  refine register_eq_ok_iff.2 ⟨clashes_eq_nil_iff.2 fun name hname => ?_, ?_⟩
  · have hclear := clashes_eq_nil_iff.1 hfree name hname
    rw [Bool.eq_false_iff] at hclear ⊢
    intro htaken
    obtain ⟨owner, howner, hname⟩ := isTaken_iff.1 htaken
    exact hclear (isTaken_iff.2 ⟨owner, (mem_owners_without.1 howner).1, hname⟩)
  · have hown : (names.map fun name => (name, source)).filter
        (fun owner => !gone.contains owner.2) = names.map fun name => (name, source) :=
      List.filter_eq_self.2 fun owner howner => by
        obtain ⟨name, -, rfl⟩ := List.mem_map.1 howner
        simpa using hstays
    rw [Registry.without, put, List.filter_append, List.filter_append, hown]
    simp [put, Registry.without, hstays]

/-- **Who goes out goes out without the others as well.** -/
theorem Owned.unregister_without (h : r.Owned) (hout : r.unregister source = some after)
    (hstays : source ∉ gone) :
    (r.without gone).unregister source = some (after.without gone) := by
  have hthere : source ∈ r.sources := by
    by_contra hnot
    rw [unregister_eq_none hnot] at hout
    cases hout
  rw [h.unregister_eq hthere, Option.some.injEq] at hout
  rw [(h.without gone).unregister_eq (mem_sources_without.2 ⟨hthere, hstays⟩), without_comm, hout]

/-- **A registry that a set has entered** is without the set as it was. -/
theorem Owned.without_extend (h : r.Owned) (hlacks : r.Lacks set) :
    (r.extend set Series.all).without (Series.all.map (.series set)) = r := by
  have hsame : r.without (Series.all.map (.series set)) = r :=
    h.without_of_notMem fun source hmem => by
      obtain ⟨s, -, rfl⟩ := List.mem_map.1 hmem
      exact hlacks s
  have hentries : (Series.all.map fun s => (Source.series set s, claims s)).filter
      (fun entry => !(Series.all.map (Source.series set)).contains entry.1) = [] := by
    refine List.filter_eq_nil_iff.2 fun entry hentry => ?_
    obtain ⟨s, hs, rfl⟩ := List.mem_map.1 hentry
    simp [Series.mem_all]
  have howners : (Series.all.flatMap fun s =>
      (claims s).map fun name => (name, Source.series set s)).filter
        (fun owner => !(Series.all.map (Source.series set)).contains owner.2) = [] := by
    refine List.filter_eq_nil_iff.2 fun owner howner => ?_
    obtain ⟨s, hs, hmem⟩ := List.mem_flatMap.1 howner
    obtain ⟨name, -, rfl⟩ := List.mem_map.1 hmem
    simp [Series.mem_all]
  rw [Registry.without, Registry.extend, List.filter_append, List.filter_append, hentries, howners,
    List.append_nil, List.append_nil]
  exact hsame

end Registry

/-! ## Acts of other programs -/

namespace Act

/-- Whether an act is one of another program: a metric of its own comes into
a registry or goes out of one. -/
def isForeign : Act → Bool
  | .addForeign .. | .reregister .. | .drop _ (.foreign _) => true
  | _ => false

/-- Nothing that another program does is recorded. -/
theorem isForeign_of_recording {act : Act} (h : act.Recording) : act.isForeign = false := by
  cases act with
  | addForeign | reregister | drop => exact h.elim
  | _ => rfl

/-- Whether an act of another program returns. Acts that are none are not
looked at. -/
def returns (h : Host) : Act → Bool
  | .addForeign place kind name help labels => (h.addForeign place kind name help labels).2.isOk
  | .reregister place id => (h.reregister place id).2.isOk
  | .drop place source => (h.drop place source).2.isOk
  | _ => true

end Act

namespace Host

variable {h twin after made : Host} {place elsewhere : RegistryId} {id : SetId} {m : MetricSet}
variable {r : Registry} {act : Act} {acts prior : List Act}

/-- **What goes on while a set is registered**: other programs act, never in
vain, and anything is recorded. -/
def Meanwhile (h : Host) : List Act → Prop :=
  Throughout fun before act =>
    act.isForeign = true ∧ act.returns (h.run before) = true ∨ act.Recording

/-- The series of a set, as they stand in a registry. -/
def seriesOf (id : SetId) : List Source := Series.all.map (.series id)

theorem foreign_notMem_seriesOf (id : SetId) (other : ForeignId) :
    .foreign other ∉ seriesOf id := by
  simp [seriesOf]

/-- Registries are told apart by what is found under their numbers. -/
theorem registries_ext (hlength : after.registries.length = h.registries.length)
    (hsame : ∀ place, after.registry place = h.registry place) :
    after.registries = h.registries := by
  refine List.ext_getElem hlength fun i hi hi' => ?_
  have hfound := hsame ⟨i⟩
  unfold registry at hfound
  rwa [List.getElem?_eq_getElem hi, List.getElem?_eq_getElem hi', Option.getD_some,
    Option.getD_some] at hfound

/-- **A twin that never had a set** which a host has: every series of the set
stands in its registry; the twin has the same registries without these, and
the same metrics of other programs. -/
structure Twin (h twin : Host) (place : RegistryId) (id : SetId) : Prop where
  booked : h.Booked
  there : ∀ s, .series id s ∈ (h.registry place).sources
  length : twin.registries.length = h.registries.length
  registry : ∀ elsewhere, twin.registry elsewhere = (h.registry elsewhere).without (seriesOf id)
  foreign : twin.foreign = h.foreign

namespace Twin

/-- Recording concerns no twin. -/
theorem of_records (ht : h.Twin twin place id) (hrec : h.Records after) :
    after.Twin twin place id where
  booked := ht.booked.of_records hrec
  there s := by
    rw [hrec.registry_eq]
    exact ht.there s
  length := by rw [ht.length, hrec.registries]
  registry elsewhere := by rw [ht.registry, hrec.registry_eq]
  foreign := ht.foreign.trans hrec.foreign.symm

/-- **What changes a registry changes it in the twin as well**, if it leaves
the series of the set where they are. -/
theorem setRegistry (ht : h.Twin twin place id) (target : RegistryId) (r : Registry)
    {after after' : Host}
    (hafter : after.registries = (h.setRegistry target r).registries)
    (hafter' : after'.registries =
      (twin.setRegistry target (r.without (seriesOf id))).registries)
    (hbooked : after.Booked)
    (hthere : ∀ s, .series id s ∈ (h.registry place).sources →
      .series id s ∈ ((h.setRegistry target r).registry place).sources)
    (hforeign : after'.foreign = after.foreign) : after.Twin after' place id where
  booked := hbooked
  there s := by
    rw [registry_congr hafter]
    exact hthere s (ht.there s)
  length := by
    rw [hafter, hafter', length_registries_setRegistry, length_registries_setRegistry, ht.length]
  registry elsewhere := by
    rw [registry_congr hafter, registry_congr hafter']
    by_cases heq : elsewhere = target
    · subst heq
      rcases Nat.lt_or_ge elsewhere.index h.registries.length with hlt | hge
      · rw [registry_setRegistry_self hlt, registry_setRegistry_self (ht.length ▸ hlt)]
      · rw [setRegistry_of_le hge, setRegistry_of_le (ht.length ▸ hge), ht.registry]
    · rw [registry_setRegistry_of_ne heq, registry_setRegistry_of_ne heq, ht.registry]
  foreign := hforeign

/-- Where a metric of another program can come in, it can do so in the twin. -/
theorem register (ht : h.Twin twin place id) {other : ForeignId} {names : List String}
    (hentered : (h.registry elsewhere).register (.foreign other) names = .ok r) :
    (twin.registry elsewhere).register (.foreign other) names =
      .ok (r.without (seriesOf id)) := by
  rw [ht.registry]
  exact Registry.register_without hentered (foreign_notMem_seriesOf id other)

/-- And where one can go out, it can do so there. -/
theorem unregister (ht : h.Twin twin place id) {other : ForeignId}
    (hout : (h.registry elsewhere).unregister (.foreign other) = some r) :
    (twin.registry elsewhere).unregister (.foreign other) = some (r.without (seriesOf id)) := by
  rw [ht.registry]
  exact (ht.booked.owned elsewhere).unregister_without hout (foreign_notMem_seriesOf id other)

/-- **An act of another program that returns does so in the twin as well**,
and they stay twins. -/
theorem perform (ht : h.Twin twin place id) (hforeign : act.isForeign = true)
    (hreturns : act.returns h = true) :
    act.returns twin = true ∧ (h.perform act).Twin (twin.perform act) place id := by
  have hbooked := ht.booked.perform act
  cases act with
  | addForeign target kind name help labels =>
    simp only [Act.returns, Host.perform, Host.addForeign, ht.foreign] at hreturns hbooked ⊢
    split at hreturns
    · cases hreturns
    · rename_i metric hmetric
      simp only [hmetric] at hbooked ⊢
      split at hreturns
      · rename_i r hentered
        simp only [hentered, ht.register hentered] at hbooked ⊢
        exact ⟨rfl, ht.setRegistry target r rfl rfl hbooked
          (fun _ => Coherent.mem_sources_of_register hentered) rfl⟩
      · cases hreturns
  | reregister target other =>
    simp only [Act.returns, Host.perform, Host.reregister, ht.foreign] at hreturns hbooked ⊢
    split at hreturns
    · cases hreturns
    · rename_i metric hmetric
      simp only [hmetric] at hbooked ⊢
      split at hreturns
      · rename_i r hentered
        simp only [hentered, ht.register hentered] at hbooked ⊢
        exact ⟨rfl, ht.setRegistry target r rfl rfl hbooked
          (fun _ => Coherent.mem_sources_of_register hentered) ht.foreign⟩
      · cases hreturns
  | drop target source =>
    cases source with
    | series => cases hforeign
    | foreign other =>
      simp only [Act.returns, Host.perform, Host.drop] at hreturns hbooked ⊢
      split at hreturns
      · rename_i r hout
        simp only [hout, ht.unregister hout] at hbooked ⊢
        refine ⟨rfl, ht.setRegistry target r rfl rfl hbooked (fun s => ?_) ht.foreign⟩
        refine mem_sources_setRegistry_of_imp fun hmem => ?_
        exact (Registry.mem_sources_unregister_iff hout).2 ⟨hmem, fun heq => by cases heq⟩
      · cases hreturns
  | _ => cases hforeign

/-- **A run stays beside that of its twin**, who does only what other programs
do in it. By induction on the run from its end. -/
theorem run (ht : h.Twin twin place id) (hacts : h.Meanwhile acts) :
    Throughout (fun before act => act.returns (twin.run before) = true)
        (acts.filter Act.isForeign) ∧
      (h.run acts).Twin (twin.run (acts.filter Act.isForeign)) place id := by
  induction acts using List.reverseRecOn with
  | nil => exact ⟨throughout_nil, ht⟩
  | append_singleton acts act ih =>
    obtain ⟨hbefore, hact⟩ := throughout_concat.1 hacts
    obtain ⟨hreturned, htwin⟩ := ih hbefore
    rw [List.filter_append, run_concat]
    by_cases hforeign : act.isForeign = true
    · have hreturns : act.returns (h.run acts) = true := by
        rcases hact with ⟨-, hreturns⟩ | hrecording
        · exact hreturns
        · rw [Act.isForeign_of_recording hrecording] at hforeign
          cases hforeign
      obtain ⟨hreturns', htwin'⟩ := htwin.perform hforeign hreturns
      rw [List.filter_cons_of_pos hforeign, List.filter_nil, run_concat]
      exact ⟨throughout_concat.2 ⟨hreturned, hreturns'⟩, htwin'⟩
    · have hrecording : act.Recording := hact.resolve_left fun h => hforeign h.1
      rw [List.filter_cons_of_neg hforeign, List.filter_nil, List.append_nil]
      exact ⟨hreturned, htwin.of_records ((h.run acts).records_of_recording hrecording)⟩

/-- **A set leaves, and the twin is what is left.** The names that the set had
are free. -/
theorem unregisterSet (ht : h.Twin twin place id) :
    ∃ after, h.unregisterSet id = (after, .ok ()) ∧ after.Booked ∧
      after.registries = twin.registries ∧
      ∀ s, ∀ name ∈ Registry.claims s, (after.registry place).isTaken name = false := by
  obtain ⟨m, hset, rfl, hflag⟩ := ht.booked.flagged place id _ (ht.there .runDuration)
  have hbooked := ht.booked.unregisterSet id
  rcases ht.booked.unregisterSet_cases hset with
    ⟨hunregistered, -⟩ | ⟨-, -, heq⟩ | ⟨-, s, hmissing, -⟩
  · rw [hflag] at hunregistered
    cases hunregistered
  · rw [heq] at hbooked
    have hleft := ht.booked.left_of_forall_mem hset ht.there rfl hbooked
    refine ⟨_, heq, hbooked, registries_ext ?_ fun elsewhere => ?_, hleft.freed hflag⟩
    · rw [ht.length]
      exact length_registries_setRegistry
    · rw [ht.registry]
      by_cases hne : elsewhere = m.registry
      · rw [hne, hleft.others, seriesOf]
      -- of the set nothing stands in another registry
      · rw [hleft.elsewhere elsewhere hne, (ht.booked.owned elsewhere).without_of_notMem]
        intro source hmem hthere
        obtain ⟨s, -, rfl⟩ := List.mem_map.1 hmem
        obtain ⟨found, hfound, hplace, -⟩ := ht.booked.flagged elsewhere id s hthere
        rw [hset] at hfound
        cases hfound
        exact hne hplace.symm
  · exact absurd (ht.there s) (Registry.firstMissing?_eq_some hmissing).2.2

end Twin

/-- **A host is the twin of what a construction makes of it.** -/
theorem Booked.twin_of_construct (hb : h.Booked) (hplace : place.index < h.registries.length)
    {bounds : Option Value} {given : Option Config}
    (hmade : h.construct place bounds given = (made, .ok id)) : made.Twin h place id := by
  have hbooked := hb.construct place bounds given
  rw [hmade] at hbooked
  unfold Host.construct at hmade
  split at hmade
  · cases hmade
  · rename_i config _
    rcases addSet_cases hb.numbered place config with
      ⟨error, heq⟩ | ⟨buckets, record, -, heq⟩ | ⟨buckets, record, s, -, heq⟩ <;>
      rw [heq] at hmade <;> cases hmade
    have hlacks := hb.numbered.lacks
    have hself := registry_setRegistry_self hplace
      (r := (h.registry place).extend ⟨h.sets.length⟩ Series.all)
    refine ⟨hbooked, fun s => ?_, ?_, fun elsewhere => ?_, rfl⟩
    · rw [registry_write, registry_withSet, hself, Registry.sources_extend]
      exact List.mem_append_right _ (List.mem_map_of_mem (Series.mem_all s))
    · exact length_registries_setRegistry.symm
    · rw [registry_write, registry_withSet]
      by_cases heq : elsewhere = place
      · subst heq
        rw [hself]
        exact ((hb.owned elsewhere).without_extend (hlacks elsewhere)).symm
      · rw [registry_setRegistry_of_ne heq]
        refine ((hb.owned elsewhere).without_of_notMem fun source hmem => ?_).symm
        obtain ⟨s, -, rfl⟩ := List.mem_map.1 hmem
        exact hlacks elsewhere s

/-- **A set that leaves its registry leaves no trace there.** After any run a
set is constructed; then metrics of other programs come and go, none of them
in vain, and anything is recorded. The set can leave, and then the
registries are what they would be had only the other programs acted: the
same sources in the same order, and the same names. Nothing would have been
in vain then either. If nothing came in between, they are as they were
before the construction. And a set can be constructed there again. -/
theorem unregister_restores {bounds : Option Value} {given : Option Config}
    (hplace : place.index < (initial.run prior).registries.length)
    (hmade : (initial.run prior).construct place bounds given = (made, .ok id))
    (hacts : made.Meanwhile acts) :
    ∃ after, (made.run acts).unregisterSet id = (after, .ok ()) ∧
      after.registries = ((initial.run prior).run (acts.filter Act.isForeign)).registries ∧
      Throughout (fun before act => act.returns ((initial.run prior).run before) = true)
        (acts.filter Act.isForeign) ∧
      ∀ bounds' given' config, (∀ c, given' = some c → c.Accepted) →
        Config.resolve bounds' given' = .ok config →
        ∃ again other, after.construct place bounds' given' = (again, .ok other) := by
  have htwin := (booked_run prior).twin_of_construct hplace hmade
  obtain ⟨hreturned, htwin'⟩ := htwin.run hacts
  obtain ⟨after, hleft, hbooked, hsame, hfree⟩ := htwin'.unregisterSet
  refine ⟨after, hleft, hsame, hreturned, fun bounds' given' config haccepted hresolve => ?_⟩
  have hplace' : place.index < after.registries.length := by
    rw [hsame, htwin'.length]
    exact lt_length_of_mem_sources (htwin'.there .runDuration)
  exact ((construct_all_or_nothing hbooked.numbered hplace' bounds' haccepted).2.2.1 config
    hresolve).1.2 hfree

/-- While a set is registered a counter comes in, a command is put to use,
and the gauge that was there first goes out: then the counter stands alone,
as it would without the set. -/
theorem unregister_restores_jobs :
    ∃ made acts after, (initial.run [.addForeign .default .gauge "queue" "Queued." []]).construct
        .default none none = (made, .ok ⟨0⟩) ∧ made.Meanwhile acts ∧
      (made.run acts).unregisterSet ⟨0⟩ = (after, .ok ()) ∧
      (after.registry .default).entries =
        [(.foreign ⟨1⟩, ["jobs", "jobs_total", "jobs_created"])] := by
  let prior : List Act := [.addForeign .default .gauge "queue" "Queued." []]
  let acts : List Act := [.addForeign .default .counter "jobs" "Jobs." [],
    .newRecorder .direct ⟨0⟩ (.text "ping"), .drop .default (.foreign ⟨0⟩)]
  have hresult : ((initial.run prior).construct .default none none).2.toOption = some ⟨0⟩ := by
    decide +kernel
  obtain ⟨made, hmade⟩ := exists_eq_ok hresult
  have hacts : made.Meanwhile acts := by
    show Throughout _ ((([] ++ [_]) ++ [_]) ++ [_])
    obtain rfl : ((initial.run prior).construct .default none none).1 = made := by rw [hmade]
    simp only [throughout_concat, throughout_nil, true_and]
    exact ⟨⟨.inl (by decide +kernel), .inr trivial⟩, .inl (by decide +kernel)⟩
  obtain ⟨after, hleft, hsame, -⟩ := unregister_restores (by decide +kernel) hmade hacts
  refine ⟨made, acts, after, hmade, hacts, hleft, ?_⟩
  rw [registry_congr hsame]
  decide +kernel

end Host

end CommandMetrics
