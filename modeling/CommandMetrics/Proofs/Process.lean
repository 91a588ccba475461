import CommandMetrics.Proofs.Coherence
import CommandMetrics.Proofs.Current
import CommandMetrics.Proofs.Environment
/-!
# The set of the process — made once, and handed out ever after

Whoever asks for the metric set of the process is handed the one that is
held, or else makes it (`processSet_cases`). Making it can fail, for what
the environment says or for a name that is taken; then nothing is left that
could be found later (`Host.NoTrace`), and whoever asks next tries anew.
Once it has succeeded nobody tries again: the set is held from then on, and
every call is handed that set and changes nothing (`Host.Answered`).

The set that is held is handed out also when it has left its registry. So
it is live only as long as nobody took it out (`process_set_live`).
-/

namespace CommandMetrics

/-- What an act is told that asks for the set of the process. -/
def Act.reply? (h : Host) : Act → Option (Except Failure SetId)
  | .processSet environment => some (h.processSet environment).2
  | _ => none

namespace Host

/-- **Nothing is left behind** that could be found later: registries, the set
of the process, metrics of other programs and the sets that there were are
as they were. -/
structure NoTrace (h after : Host) : Prop where
  registries : after.registries = h.registries
  current : after.current = h.current
  foreign : after.foreign = h.foreign
  sets : ∀ id m, h.set? id = some m → after.set? id = some m

variable {h after : Host} {id : SetId} {m : MetricSet} {environment : Environment}
variable {failure : Failure} {act : Act} {s : Series}

/-! ## A single call -/

/-- **The set that is held is handed out**, whatever the environment says. -/
theorem processSet_of_some (hcurrent : h.current = some id) (environment : Environment) :
    h.processSet environment = (h, .ok id) := by
  unfold processSet
  rw [hcurrent]

/-- As long as no set is held an environment that is refused is all that
happens, -/
theorem processSet_of_refused (hnone : h.current = none)
    (hconfig : environment.config = .error failure) :
    h.processSet environment = (h, .error failure) := by
  unfold processSet createSet
  rw [hnone, hconfig]

/-- and with one that is not a set is added and held, if it can be. -/
theorem processSet_of_config {config : Config} (hnone : h.current = none)
    (hconfig : environment.config = .ok config) :
    h.processSet environment =
      match (h.write (.environmentLoaded config)).addSet .default config with
      | (after, .ok id) => (after.withCurrent (some id), .ok id)
      | (after, .error failure) => (after, .error failure) := by
  unfold processSet createSet
  rw [hnone, hconfig]
  rfl

/-- **What comes of asking for the set of the process**, case by case: it is
held already; or the environment is refused; or the names of a series are
taken; or a new set goes in. -/
theorem processSet_cases (hnumbered : h.Numbered) (environment : Environment) :
    (∃ id, h.current = some id ∧ h.processSet environment = (h, .ok id)) ∨
    (h.current = none ∧ ∃ failure, environment.config = .error failure ∧
      h.processSet environment = (h, .error failure)) ∨
    (h.current = none ∧ ∃ config m record s, environment.config = .ok config ∧
      (h.registry .default).firstClash? Series.all = some s ∧
      h.processSet environment =
        (((h.write (.environmentLoaded config)).withSet m).write record,
          .error (.conflict s.fullName ((h.registry .default).clashes (Registry.claims s))))) ∨
    (h.current = none ∧ ∃ config m record, environment.config = .ok config ∧
      (h.registry .default).firstClash? Series.all = none ∧
      m.registry = .default ∧ m.registered = true ∧
      h.processSet environment =
        (((((h.write (.environmentLoaded config)).setRegistry .default
          ((h.registry .default).extend ⟨h.sets.length⟩ Series.all)).withSet m).write
            record).withCurrent (some ⟨h.sets.length⟩), .ok ⟨h.sets.length⟩)) := by
  cases hcurrent : h.current with
  | some id => exact .inl ⟨id, rfl, processSet_of_some hcurrent environment⟩
  | none =>
    cases hconfig : environment.config with
    | error failure =>
      exact .inr (.inl ⟨rfl, failure, rfl, processSet_of_refused hcurrent hconfig⟩)
    | ok config =>
      have hloaded : (h.write (.environmentLoaded config)).Numbered := hnumbered
      have hasked := processSet_of_config hcurrent hconfig
      obtain ⟨buckets, hbuckets⟩ := (Environment.accepted_of_config hconfig).exists_buckets
      cases hfirst : (h.registry .default).firstClash? Series.all with
      | none =>
        rw [addSet_of_clear hloaded hbuckets hfirst] at hasked
        exact .inr (.inr (.inr ⟨rfl, config, _, _, rfl, rfl, rfl, rfl, hasked⟩))
      | some s =>
        rw [addSet_of_clash hloaded hbuckets hfirst] at hasked
        exact .inr (.inr (.inl ⟨rfl, config, _, _, s, rfl, rfl, hasked⟩))

/-- **A call that fails leaves no trace.** What is told is what the
environment is refused for, or the first series of which a name is taken. -/
theorem noTrace_of_processSet (hnumbered : h.Numbered)
    (hfailed : h.processSet environment = (after, .error failure)) :
    h.current = none ∧ h.NoTrace after ∧
      (environment.config = .error failure ∨
        (∃ config, environment.config = .ok config) ∧ ∃ s, (h.registry .default).ClashesFirst s ∧
          failure =
            .conflict s.fullName ((h.registry .default).clashes (Registry.claims s))) := by
  rcases processSet_cases hnumbered environment with
    ⟨id, -, heq⟩ | ⟨hnone, refusal, hconfig, heq⟩ |
    ⟨hnone, config, m, record, s, hconfig, hfirst, heq⟩ |
    ⟨hnone, config, m, record, -, -, -, -, heq⟩
  all_goals
    rw [heq] at hfailed
    cases hfailed
  · exact ⟨hnone, ⟨rfl, rfl, rfl, fun _ _ hset => hset⟩, .inl hconfig⟩
  · refine ⟨hnone, ⟨rfl, rfl, rfl, fun id found hset => ?_⟩,
      .inr ⟨⟨config, hconfig⟩, s, Registry.firstClash?_eq_some_iff.1 hfirst, rfl⟩⟩
    exact (set?_withSet_of_lt (set?_eq_some_iff.1 hset).1).trans hset

/-- **A call returns** if a set is held, or if the environment is accepted and
no name is taken. -/
theorem processSet_returns_iff (hnumbered : h.Numbered) (environment : Environment) :
    (∃ after id, h.processSet environment = (after, .ok id)) ↔
      (∃ id, h.current = some id) ∨ (∃ config, environment.config = .ok config) ∧
        ∀ s, ∀ name ∈ Registry.claims s, (h.registry .default).isTaken name = false := by
  rw [← Registry.firstClash?_eq_none_iff]
  rcases processSet_cases hnumbered environment with
    ⟨id, hcurrent, heq⟩ | ⟨hnone, refusal, hconfig, heq⟩ |
    ⟨hnone, config, m, record, s, hconfig, hfirst, heq⟩ |
    ⟨hnone, config, m, record, hconfig, hfirst, -, -, heq⟩
  · simp [heq, hcurrent]
  · simp [heq, hnone, hconfig]
  · simp [heq, hnone, hfirst]
  · simp [heq, hconfig, hfirst]

/-- **What is handed out is held.** -/
theorem current_of_processSet (hreturned : h.processSet environment = (after, .ok id)) :
    after.current = some id := by
  unfold processSet at hreturned
  split at hreturned
  · rename_i hcurrent
    cases hreturned
    exact hcurrent
  · split at hreturned
    · cases hreturned
      rfl
    · cases hreturned

/-! ## Runs -/

/-- A set that is held is held ever after. -/
theorem current_perform_of_some (hcurrent : h.current = some id) (act : Act) :
    (h.perform act).current = some id := by
  by_cases hasks : ∃ environment, act = .processSet environment
  · obtain ⟨environment, rfl⟩ := hasks
    show (h.processSet environment).1.current = some id
    rw [processSet_of_some hcurrent, hcurrent]
  · rw [current_perform h fun environment heq => hasks ⟨environment, heq⟩, hcurrent]

theorem current_run_of_some (hcurrent : h.current = some id) (acts : List Act) :
    (h.run acts).current = some id :=
  run_induction (P := fun h => h.current = some id)
    (fun _ act hcurrent => current_perform_of_some hcurrent act) hcurrent acts

/-- **What a single call comes to**, and all that follow it. -/
structure Answered (h : Host) (environment : Environment) : Prop where
  /-- A call that fails finds no set held and leaves no trace; it is told what
  the environment is refused for, or the first series of which a name is
  taken. -/
  fails : ∀ after failure, h.processSet environment = (after, .error failure) →
    h.current = none ∧ h.NoTrace after ∧
      (environment.config = .error failure ∨
        (∃ config, environment.config = .ok config) ∧ ∃ s, (h.registry .default).ClashesFirst s ∧
          failure =
            .conflict s.fullName ((h.registry .default).clashes (Registry.claims s)))
  /-- In an environment of texts that is an error of the configuration or a
  conflict. -/
  kinds : environment.Textual → ∀ after failure,
    h.processSet environment = (after, .error failure) →
      ∃ e, failure = .adapter e ∧ (e.kind = .configuration ∨ e.kind = .registrationConflict)
  /-- It returns if a set is held, or if the environment is accepted and no
  name is taken at that time. -/
  returns : (∃ after id, h.processSet environment = (after, .ok id)) ↔
    (∃ id, h.current = some id) ∨ (∃ config, environment.config = .ok config) ∧
      ∀ s, ∀ name ∈ Registry.claims s, (h.registry .default).isTaken name = false
  /-- Whatever is done after a call that returned, the next call is handed the
  same set and changes nothing at all. -/
  lasts : ∀ after id, h.processSet environment = (after, .ok id) → ∀ acts environment',
    (after.run acts).processSet environment' = (after.run acts, .ok id)

/-- **Every call of a run is answered so.** -/
theorem Numbered.answered (hnumbered : h.Numbered) (environment : Environment) :
    h.Answered environment where
  fails _ _ hfailed := noTrace_of_processSet hnumbered hfailed
  kinds htextual after failure hfailed := by
    obtain ⟨-, -, hconfig | ⟨-, s, -, rfl⟩⟩ := noTrace_of_processSet hnumbered hfailed
    · obtain ⟨e, heq, hkind, -⟩ := htextual.decides.failed failure hconfig
      exact ⟨e, heq, .inl hkind⟩
    · exact ⟨_, rfl, .inr rfl⟩
  returns := processSet_returns_iff hnumbered environment
  lasts after id hreturned acts environment' := by
    have hheld := current_of_processSet hreturned
    exact processSet_of_some (current_run_of_some hheld acts) environment'

/-- **The set that is held is there**, has the registry of the process as its
own, and is registered unless it was taken out. By induction on the run from
its end. -/
theorem exists_set?_of_current {acts : List Act} (hcurrent : (initial.run acts).current = some id) :
    ∃ m, (initial.run acts).set? id = some m ∧ m.registry = .default ∧
      (.unregister ∉ logOf id initial acts → m.registered = true) := by
  induction acts using List.reverseRecOn with
  | nil => cases hcurrent
  | append_singleton acts act ih =>
    rw [run_concat] at hcurrent ⊢
    rw [logOf_append]
    by_cases hbefore : (initial.run acts).current = some id
    -- it was held before the last act
    · obtain ⟨m, hset, hplace, hflag⟩ := ih hbefore
      obtain ⟨b, hperform, -, hsame⟩ := set?_perform hset act
      have hlog : logOf id (initial.run acts) [act] = act.operations (initial.run acts) id := by
        simp [logOf, hset]
      rw [hlog]
      refine ⟨_, hperform, ?_, fun hnot => ?_⟩
      · exact (MetricSet.registry_play m _).trans hplace
      · rw [List.mem_append, not_or] at hnot
        exact (hsame hnot.2).trans (hflag hnot.1)
    -- it is the one that the last act made
    · have hasks : ∃ environment, act = .processSet environment := by
        by_contra hnot
        rw [current_perform _ fun environment heq => hnot ⟨environment, heq⟩] at hcurrent
        exact hbefore hcurrent
      obtain ⟨environment, rfl⟩ := hasks
      simp only [perform] at hcurrent ⊢
      rcases processSet_cases (numbered_run acts) environment with
        ⟨other, hother, heq⟩ | ⟨hnone, refusal, -, heq⟩ |
        ⟨hnone, config, m, record, s, -, -, heq⟩ |
        ⟨-, config, m, record, -, -, hplace, hflag, heq⟩ <;> rw [heq] at hcurrent ⊢
      · exact absurd hcurrent hbefore
      · exact absurd hcurrent hbefore
      · exact absurd hcurrent hbefore
      · cases hcurrent
        exact ⟨m, set?_withSet_self, hplace, fun _ => hflag⟩

/-- A call makes a set: the one that is handed out was not there before. -/
def Makes (h : Host) (environment : Environment) : Prop :=
  ∃ after id, h.processSet environment = (after, .ok id) ∧ h.set? id = none

/-- **At most one call of a run makes a set.** Whatever comes after it finds
the set held. -/
theorem not_makes_of_makes {before : List Act}
    (hmakes : (initial.run before).Makes environment) (middle : List Act)
    (environment' : Environment) :
    ¬ (initial.run (before ++ .processSet environment :: middle)).Makes environment' := by
  obtain ⟨after, id, hmade, -⟩ := hmakes
  have hafter : initial.run (before ++ .processSet environment :: middle) = after.run middle := by
    rw [run_append]
    show ((initial.run before).processSet environment).1.run middle = _
    rw [hmade]
  have hcurrent := current_run_of_some (current_of_processSet hmade) middle
  rintro ⟨later, other, hreturned, hnone⟩
  rw [hafter, processSet_of_some hcurrent] at hreturned
  cases hreturned
  rw [← hafter] at hcurrent
  obtain ⟨m, hset, -⟩ := exists_set?_of_current hcurrent
  rw [hnone] at hset
  cases hset

/-! ## What calls of a run are told -/

/-- What the calls of a run are told, in order. -/
def repliesOf (h : Host) : List Act → List (Except Failure SetId)
  | [] => []
  | act :: acts => (act.reply? h).toList ++ (h.perform act).repliesOf acts

theorem repliesOf_append (h : Host) (acts later : List Act) :
    h.repliesOf (acts ++ later) = h.repliesOf acts ++ (h.run acts).repliesOf later := by
  induction acts generalizing h with
  | nil => rfl
  | cons act acts ih => simp only [List.cons_append, repliesOf, ih, List.append_assoc]; rfl

/-- **A set that was handed out is held.** -/
theorem current_of_mem_repliesOf {acts : List Act} (hmem : .ok id ∈ h.repliesOf acts) :
    (h.run acts).current = some id := by
  induction acts generalizing h with
  | nil => cases hmem
  | cons act acts ih =>
    rcases List.mem_append.1 hmem with hnow | hlater
    · cases act with
      | processSet environment =>
        have hreply : (h.processSet environment).2 = .ok id := (List.mem_singleton.1 hnow).symm
        have hheld := current_of_processSet (Prod.ext rfl hreply)
        exact current_run_of_some hheld acts
      | _ => cases hnow
    · exact ih hlater

/-! ## A set that is handed out, and taken out -/

/-- Only taking a set out takes it out. -/
theorem eq_unregisterSet_of_mem (hmem : .unregister ∈ act.operations h id) :
    act = .unregisterSet id := by
  have hif : ∀ {p : Prop} [Decidable p] {op : SetOperation},
      .unregister ∈ (if p then [op] else []) → op = .unregister ∧ p := by
    intro p _ op hmem
    split at hmem
    · rename_i hp
      exact ⟨(List.mem_singleton.1 hmem).symm, hp⟩
    · cases hmem
  cases act with
  | newRecorder route other name => cases (hif hmem).1
  | ensureCommand other name => cases (hif hmem).1
  | call collector method arguments =>
    cases collector with
    | recorder r => cases (hif hmem).1
    | sink sink => cases hmem
  | unregisterSet other => rw [(hif hmem).2]
  | initializeCollectors roster name =>
    obtain ⟨r, -, heq⟩ := List.mem_map.1 hmem
    cases heq
  | _ => cases hmem

/-- **A set that is registered was not taken out**, in a run that takes no
series out by hand: it would have gone out whole. By induction on the run
from its end. -/
theorem notMem_logOf_of_registered {acts : List Act} (hsound : SoundRun acts)
    (hset : (initial.run acts).set? id = some m) (hflag : m.registered = true) :
    .unregister ∉ logOf id initial acts := by
  induction acts using List.reverseRecOn generalizing m with
  | nil => exact List.not_mem_nil
  | append_singleton acts act ih =>
    obtain ⟨hbefore, hact⟩ := throughout_concat.1 hsound
    rw [run_concat] at hset
    rw [logOf_append]
    cases hfound : (initial.run acts).set? id with
    | none =>
      have hlog : logOf id (initial.run acts) [act] = [] := by simp [logOf, hfound]
      rw [logOf_eq_nil hfound, hlog]
      exact List.not_mem_nil
    | some found =>
      have hlog : logOf id (initial.run acts) [act] = act.operations (initial.run acts) id := by
        simp [logOf, hfound]
      obtain ⟨b, hperform, hb, -⟩ := set?_perform hfound act
      rw [hperform] at hset
      cases hset
      have hregistered := hb hflag
      rw [hlog, List.mem_append, not_or]
      refine ⟨ih hbefore hfound hregistered, fun hmem => ?_⟩
      obtain rfl := eq_unregisterSet_of_mem hmem
      -- all of its series are there, so it goes out whole
      have hc := coherent_run hbefore
      have hthere : ∀ s, .series id s ∈ ((initial.run acts).registry found.registry).sources :=
        fun s => (hc.series found.registry id s).2 ⟨found, hfound, rfl, hregistered⟩
      have hafter := hc.unregisterSet id
      rcases hc.booked.unregisterSet_cases hfound with
        ⟨hnot, -⟩ | ⟨-, -, heq⟩ | ⟨-, s, hmissing, -⟩
      · rw [hregistered] at hnot
        cases hnot
      · have hleft := set?_putSet_self
          (h := (initial.run acts).strip found.registry (Series.all.map (.series id))) hfound
          { found with registered := false }
        simp only [perform, heq] at hperform
        rw [set?_write, hleft] at hperform
        have hfalse : false = b :=
          Option.some.inj (congrArg (Option.map MetricSet.registered) hperform)
        have htrue : b = true := hflag
        rw [htrue] at hfalse
        cases hfalse
      · rw [Registry.firstMissing?_eq_none_iff.2 hthere] at hmissing
        cases hmissing

/-- A series that stands in a registry is exported from there. -/
theorem family_mem_families {place : RegistryId} (hset : h.set? id = some m)
    (hmem : .series id s ∈ (h.registry place).sources) : m.family s ∈ h.families place :=
  List.mem_filterMap.2 ⟨_, hmem, by simp [family?, hset]⟩

/-- **The set of the process is live as long as nobody has taken it out.**
After any run that takes no series out by hand, what a call is handed is a
set of the registry of the process. It says that it is registered if it was
never taken out, and then all of its series are there and show in the
registry what any recorder of the set is told; else none is anywhere. -/
theorem process_set_live {acts : List Act} (hsound : SoundRun acts)
    (hreturned : (initial.run acts).processSet environment = (after, .ok id)) :
    ∃ m, after.set? id = some m ∧ m.registry = .default ∧
      (m.registered = true ↔ .unregister ∉ logOf id initial acts) ∧
      (∀ place s, .series id s ∈ (after.registry place).sources ↔
        m.registered = true ∧ place = .default) ∧
      (m.registered = true → ∀ command method arguments, ∃ told m',
        told = (after.call (.recorder ⟨command, id⟩) method arguments).1 ∧
        told.set? id = some m' ∧ ∀ s, m'.family s ∈ told.families .default) := by
  have hasked : initial.run (acts ++ [.processSet environment]) = after := by
    rw [run_concat]
    exact congrArg Prod.fst hreturned
  have hsound' : SoundRun (acts ++ [.processSet environment]) :=
    throughout_concat.2 ⟨hsound, trivial⟩
  have hlog : logOf id initial (acts ++ [.processSet environment]) = logOf id initial acts := by
    simp [logOf_append, logOf, Act.operations]
  have hcurrent := current_of_processSet hreturned
  rw [← hasked] at hcurrent
  obtain ⟨m, hset, hplace, hflag⟩ := exists_set?_of_current hcurrent
  have hkept := notMem_logOf_of_registered hsound' hset
  have hc := coherent_run hsound'
  rw [hlog] at hflag hkept
  rw [hasked] at hset hc
  have hseries : ∀ place s, .series id s ∈ (after.registry place).sources ↔
      m.registered = true ∧ place = .default := by
    intro place s
    rw [hc.series place id s]
    constructor
    · rintro ⟨found, hfound, rfl, hregistered⟩
      rw [hset] at hfound
      cases hfound
      exact ⟨hregistered, hplace⟩
    · rintro ⟨hregistered, rfl⟩
      exact ⟨m, hset, hplace, hregistered⟩
  refine ⟨m, hset, hplace, ⟨hkept, hflag⟩, hseries, fun hregistered command method arguments => ?_⟩
  have hrec := after.records_call (.recorder ⟨command, id⟩) method arguments
  obtain ⟨steps, hsteps⟩ := hrec.sets
  have htold : (after.call (.recorder ⟨command, id⟩) method arguments).1.set? id =
      some (m.play (steps id)) := by
    rw [hsteps, hset, Option.map_some]
  refine ⟨_, _, rfl, htold, fun s => family_mem_families htold ?_⟩
  rw [hrec.registry_eq]
  exact (hseries .default s).2 ⟨hregistered, rfl⟩

/-- A second call is handed the set that the first one made, which is
registered; its environment would be refused if it were read. -/
theorem process_set_live_second :
    ∃ acts environment after m, (∃ failure, environment.config = .error failure) ∧
      (initial.run acts).processSet environment = (after, .ok ⟨0⟩) ∧
      after.set? ⟨0⟩ = some m ∧ m.registered = true ∧
      ∀ s, .series ⟨0⟩ s ∈ (after.registry .default).sources := by
  let acts : List Act := [.processSet []]
  let environment : Environment := [(Environment.portVariable, .text "http")]
  have hrun : environment.config.toOption = none ∧
      (initial.run acts).current = some ⟨0⟩ := by decide +kernel
  obtain ⟨hrefused, hcurrent⟩ := hrun
  have hsound : SoundRun acts := throughout_concat.2 ⟨throughout_nil, trivial⟩
  have hreturned := processSet_of_some hcurrent environment
  obtain ⟨m, hset, -, hflag, hseries, -⟩ := process_set_live hsound hreturned
  have hlog : logOf ⟨0⟩ initial acts = [] := rfl
  rw [hlog] at hflag
  have hregistered := hflag.2 List.not_mem_nil
  refine ⟨acts, environment, _, m, ?_, hreturned, hset, hregistered, fun s => ?_⟩
  · cases hconfig : environment.config with
    | ok config =>
      rw [hconfig] at hrefused
      cases hrefused
    | error failure => exact ⟨failure, rfl⟩
  · exact (hseries .default s).2 ⟨hregistered, rfl⟩

/-- **A set that was taken out is handed out all the same.** -/
theorem process_set_not_always_live :
    ¬ ∀ acts, SoundRun acts → ∀ environment after id,
      (initial.run acts).processSet environment = (after, .ok id) →
      ∃ m, after.set? id = some m ∧ m.registered = true := by
  intro hlive
  let acts : List Act := [.processSet [], .unregisterSet ⟨0⟩]
  have hrun : (initial.run acts).current = some ⟨0⟩ ∧
      ((initial.run acts).set? ⟨0⟩).map MetricSet.registered = some false := by decide +kernel
  obtain ⟨hcurrent, hflag⟩ := hrun
  have hsound : SoundRun acts := by
    show Throughout _ (([] ++ [_]) ++ [_])
    simp only [throughout_concat, throughout_nil, Act.Sound, and_self]
  obtain ⟨m, hset, hregistered⟩ := hlive acts hsound [] _ _ (processSet_of_some hcurrent [])
  rw [hset, Option.map_some, hregistered] at hflag
  cases hflag

end Host

end CommandMetrics
