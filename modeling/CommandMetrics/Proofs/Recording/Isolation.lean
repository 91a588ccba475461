import CommandMetrics.Proofs.Departure
import CommandMetrics.Proofs.Process
import CommandMetrics.Proofs.Recording.Observation
import Mathlib.Data.List.Basic
/-!
# Isolation — metric sets do not touch each other

Sets that stood in one registry one after another have the same names and
the same label, and recorders of all of them are still about. Yet what is
recorded through one set goes to that set. A run leaves every set as it is
to which it does nothing (`set?_run_of_logOf_eq_nil`), and recording leaves
all registries alone besides. So a recorder whose set has left its registry
goes on recording there, and no registry shows any of it
(`call_of_unregistered`); and a set that is constructed is a new one
(`new_of_construction?`), so it has no command, and it gets none from
recorders of other sets (`logOf_eq_nil_of_through`).
-/

namespace CommandMetrics

/-- An act that records: a recorder is made, a command is made sure of, a
collector is told of an event, or the factories of a roster are called. -/
def Act.Recording : Act → Prop
  | .newRecorder .. | .ensureCommand .. | .call .. | .initializeCollectors .. => True
  | _ => False

/-- An act that records through a set. -/
def Act.Through (id : SetId) : Act → Prop
  | .newRecorder _ other _ | .ensureCommand other _ => other = id
  | .call (.recorder r) _ _ => r.set = id
  | _ => False

namespace Host

variable {h after : Host} {place : RegistryId} {id other : SetId} {m : MetricSet} {act : Act}
variable {acts : List Act} {r : Recorder} {config : Config}

/-! ## What is left alone -/

/-- **A run leaves a set as it is** to which it does nothing. -/
theorem set?_run_of_logOf_eq_nil (hset : h.set? id = some m) (hlog : logOf id h acts = []) :
    (h.run acts).set? id = some m := by
  obtain ⟨b, hrun, -, hsame⟩ := set?_run hset acts
  rw [hlog] at hrun hsame
  rw [hrun, hsame List.not_mem_nil]
  rfl

/-- Recording keeps to the cells of sets, -/
theorem records_of_recording (h : Host) (hrecording : act.Recording) :
    h.Records (h.perform act) := by
  cases act with
  | newRecorder route id name => exact h.records_newRecorder route id name
  | ensureCommand id name => exact h.records_ensureCommand id name
  | call collector method arguments => exact h.records_call collector method arguments
  | initializeCollectors roster name => exact h.records_initializeCollectors roster name
  | _ => exact hrecording.elim

/-- and to those of sets that it does something to. -/
theorem set?_of_recording (hrecording : act.Recording) (hnone : act.operations h id = []) :
    (h.perform act).set? id = h.set? id := by
  cases hset : h.set? id with
  | none =>
    obtain ⟨steps, hsteps⟩ := (h.records_of_recording hrecording).sets
    rw [hsteps, hset, Option.map_none]
  | some m =>
    have hlog : logOf id h [act] = [] := by simp [logOf, hset, hnone]
    exact set?_run_of_logOf_eq_nil hset hlog

/-- **What is recorded through a set** does nothing to any other. -/
theorem operations_of_through (hthrough : act.Through id) (hne : other ≠ id) :
    act.operations h other = [] := by
  cases act with
  | newRecorder route found name =>
    obtain rfl : found = id := hthrough
    exact if_neg hne.symm
  | ensureCommand found name =>
    obtain rfl : found = id := hthrough
    exact if_neg hne.symm
  | call collector method arguments =>
    cases collector with
    | recorder r =>
      obtain rfl : r.set = id := hthrough
      exact if_neg hne.symm
    | sink sink => exact hthrough.elim
  | _ => exact hthrough.elim

/-- So recorders of other sets add nothing to its log. -/
theorem logOf_eq_nil_of_through
    (hthrough : ∀ act ∈ acts, ∃ other, other ≠ id ∧ act.Through other) : logOf id h acts = [] := by
  induction acts generalizing h with
  | nil => rfl
  | cons act acts ih =>
    obtain ⟨⟨other, hne, hact⟩, hacts⟩ := List.forall_mem_cons.1 hthrough
    rw [logOf, operations_of_through hact hne.symm, ite_self, ih hacts]
    rfl

theorem recording_of_through (hthrough : act.Through id) : act.Recording := by
  cases act with
  | newRecorder | ensureCommand | call => trivial
  | _ => exact hthrough.elim

/-! ## Recorders of a set that is not registered -/

/-- What a registry shows does not tell what is recorded in a set of which
nothing stands there. -/
theorem families_of_records (hrec : h.Records after)
    (hothers : ∀ other, other ≠ id → after.set? other = h.set? other)
    (hgone : ∀ s, .series id s ∉ (h.registry place).sources) :
    after.families place = h.families place := by
  unfold families
  rw [hrec.registry_eq]
  refine List.filterMap_congr fun source hmem => ?_
  cases source with
  | series found s =>
    have hne : found ≠ id := fun heq => hgone s (heq ▸ hmem)
    exact congrArg (fun m : Option MetricSet => m.map (·.family s)) (hothers found hne)
  | foreign found => exact congrArg (fun l => (l[found.index]?).map Foreign.family) hrec.foreign

/-- **A recorder whose set is not registered goes on recording**, exactly into
that set, and no registry shows any of it. -/
theorem call_of_unregistered (hr : r ∈ initial.recordersOf acts)
    (hset : (initial.run acts).set? r.set = some m) (hflag : m.registered = false) (c : Call) :
    ∃ after m', (initial.run acts).call (.recorder r) c.method.name c.arguments =
        (after, c.verdict .recorder) ∧
      after.set? r.set = some m' ∧ m'.registered = false ∧
      m'.Accounts (logOf r.set initial acts ++ [c.on r.command]) r.command ∧
      (∀ command, command ≠ r.command → m'.SameCells m command) ∧
      (∀ place s, .series r.set s ∉ (after.registry place).sources) ∧
      ∀ place, after.families place = (initial.run acts).families place := by
  have hanswer := call_recorder_snd hset r.command c
  have hcall := set?_call hset r.command c.method.name c.arguments
  have hrec := (initial.run acts).records_call (.recorder r) c.method.name c.arguments
  have hgone := ((booked_run acts).left_of_unregistered hset hflag).gone
  have haccounts := accounts_call hr hcall
  rcases hcalled : (initial.run acts).call (.recorder r) c.method.name c.arguments with
    ⟨after, answer⟩
  rw [hcalled] at hanswer hcall hrec
  have hothers : ∀ other, other ≠ r.set → after.set? other = (initial.run acts).set? other := by
    intro other hne
    have hthrough : (Act.call (.recorder r) c.method.name c.arguments).Through r.set := rfl
    have hsame := set?_of_recording (recording_of_through hthrough)
      (operations_of_through (h := initial.run acts) hthrough hne)
    rwa [perform, hcalled] at hsame
  refine ⟨after, _, by rw [← hanswer], hcall, ?_, haccounts, fun command hne => ?_,
    fun place s => ?_, fun place => families_of_records hrec hothers (hgone place)⟩
  · rw [MetricSet.registered_play, hflag]
  · exact MetricSet.sameCells_play (MetricSet.command_of_mem_callSteps _ _ _) hne
  · rw [hrec.registry_eq]
    exact hgone place s

/-! ## Sets that are constructed -/

/-- A set that was added was not there before. -/
theorem new_of_addSet (hnumbered : h.Numbered) (hmade : (h.addSet place config).2 = .ok id) :
    h.set? id = none ∧ ∃ m, (h.addSet place config).1.set? id = some m := by
  rcases addSet_cases hnumbered place config with
    ⟨error, heq⟩ | ⟨buckets, record, -, heq⟩ | ⟨buckets, record, s, -, heq⟩ <;>
    rw [heq] at hmade ⊢ <;> cases hmade
  exact ⟨List.getElem?_eq_none (Nat.le_refl _), _, set?_withSet_self⟩

theorem new_of_construct (hnumbered : h.Numbered) {bounds : Option Value} {given : Option Config}
    (hmade : (h.construct place bounds given).2 = .ok id) :
    h.set? id = none ∧ ∃ m, (h.construct place bounds given).1.set? id = some m := by
  unfold construct at hmade ⊢
  cases hresolve : Config.resolve bounds given with
  | error failure =>
    rw [hresolve] at hmade
    cases hmade
  | ok config =>
    rw [hresolve] at hmade
    exact new_of_addSet hnumbered hmade

theorem new_of_createSet (hnumbered : h.Numbered) {environment : Environment}
    {given : Option Config} (hmade : (h.createSet environment place given).2 = .ok id) :
    h.set? id = none ∧ ∃ m, (h.createSet environment place given).1.set? id = some m := by
  unfold createSet at hmade ⊢
  cases given with
  | some config => exact new_of_construct hnumbered hmade
  | none =>
    cases hconfig : environment.config with
    | error failure =>
      rw [hconfig] at hmade
      cases hmade
    | ok config =>
      rw [hconfig] at hmade
      have hloaded : (h.write (.environmentLoaded config)).Numbered := hnumbered
      exact new_of_construct hloaded hmade

/-- **A set that is constructed is new**, unless it is that of the process and
was held already. -/
theorem new_of_construction? (hnumbered : h.Numbered)
    (hmade : act.construction? h = some (.ok id)) :
    h.current = some id ∨ h.set? id = none ∧ ∃ m, (h.perform act).set? id = some m := by
  cases act with
  | construct place bounds given =>
    exact .inr (new_of_construct hnumbered (Option.some.inj hmade))
  | createSet environment place given =>
    exact .inr (new_of_createSet hnumbered (Option.some.inj hmade))
  | processSet environment =>
    have hreturned : (h.processSet environment).2 = .ok id := Option.some.inj hmade
    simp only [perform]
    rcases processSet_cases hnumbered environment with
      ⟨held, hcurrent, heq⟩ | ⟨-, failure, -, heq⟩ | ⟨-, config, m, record, s, -, -, heq⟩ |
      ⟨-, config, m, record, -, -, -, -, heq⟩ <;>
      rw [heq] at hreturned ⊢ <;> cases hreturned
    · exact .inl hcurrent
    · exact .inr ⟨List.getElem?_eq_none (Nat.le_refl _), m, set?_withSet_self⟩
  | _ => cases hmade

/-! ## Every run -/

/-- **Metric sets are isolated.** After any run: what is recorded changes no
registry, no metric of another program, and no set but those that it does
something to; what is recorded through one set does nothing to any other.
Whatever is done besides, a set stays as it is to which nothing is done. A
recorder whose set is not registered goes on recording exactly into that
set, and no registry shows any of it. And a set that is constructed has no
command, and gets none from what is recorded through others. -/
theorem metric_sets_isolated (acts : List Act) :
    (∀ act, act.Recording →
      ((initial.run acts).perform act).registries = (initial.run acts).registries ∧
      ((initial.run acts).perform act).foreign = (initial.run acts).foreign ∧
      ∀ other, act.operations (initial.run acts) other = [] →
        ((initial.run acts).perform act).set? other = (initial.run acts).set? other) ∧
    (∀ (act : Act) id, act.Through id → act.Recording ∧
      ∀ other, other ≠ id → act.operations (initial.run acts) other = []) ∧
    (∀ id m later, (initial.run acts).set? id = some m →
      logOf id (initial.run acts) later = [] →
        ((initial.run acts).run later).set? id = some m) ∧
    (∀ r ∈ initial.recordersOf acts, ∀ m, (initial.run acts).set? r.set = some m →
      m.registered = false → ∀ c : Call, ∃ after m',
        (initial.run acts).call (.recorder r) c.method.name c.arguments =
          (after, c.verdict .recorder) ∧
        after.set? r.set = some m' ∧ m'.registered = false ∧
        m'.Accounts (logOf r.set initial acts ++ [c.on r.command]) r.command ∧
        (∀ command, command ≠ r.command → m'.SameCells m command) ∧
        (∀ place s, .series r.set s ∉ (after.registry place).sources) ∧
        ∀ place, after.families place = (initial.run acts).families place) ∧
    (∀ act id, act.construction? (initial.run acts) = some (.ok id) →
      (initial.run acts).current = some id ∨
      (initial.run acts).set? id = none ∧ ∃ m, ((initial.run acts).perform act).set? id = some m ∧
        (∀ s, m.commands s = []) ∧
        ∀ later, (∀ act ∈ later, ∃ other, other ≠ id ∧ act.Through other) →
          (((initial.run acts).perform act).run later).set? id = some m) := by
  refine ⟨fun act hrecording => ?_, fun act id hthrough => ?_, fun id m later => ?_,
    fun r hr m hset hflag c => call_of_unregistered hr hset hflag c, fun act id hmade => ?_⟩
  · have hrec := (initial.run acts).records_of_recording hrecording
    exact ⟨hrec.registries, hrec.foreign, fun other => set?_of_recording hrecording⟩
  · exact ⟨recording_of_through hthrough, fun other => operations_of_through hthrough⟩
  · exact set?_run_of_logOf_eq_nil
  · refine (new_of_construction? (numbered_run acts) hmade).imp_right ?_
    rintro ⟨hnone, m, hset⟩
    exact ⟨hnone, m, hset, (isNew_of_perform hnone act hset).unused, fun later hthrough =>
      set?_run_of_logOf_eq_nil hset (logOf_eq_nil_of_through hthrough)⟩

-- a second set in the registry of the first, which goes on recording
example :
    (initial.run [.construct .default none none, .newRecorder .direct ⟨0⟩ (.text "ping"),
      .unregisterSet ⟨0⟩, .construct .default none none,
      .call (.recorder ⟨"ping", ⟨0⟩⟩) (Method.event .attempt).name []]).sets.map
        (fun m => (m.registered, m.commands (.events .attempt),
          (m.counters.get .attempt).get? "ping")) =
      [(false, [.plain "ping"], some (Number.ofInt 1)), (true, [], none)] := by decide +kernel

end Host

end CommandMetrics
