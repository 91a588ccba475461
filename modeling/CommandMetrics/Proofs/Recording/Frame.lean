import CommandMetrics.Host.Registration
import CommandMetrics.Host.Roster
import CommandMetrics.Proofs.Host
import CommandMetrics.Proofs.Recording.Primitive
/-!
# Frame — what recording leaves alone

Recorders are made, events are reported, rosters are filled and emptied.
None of this touches a registry or a metric of another program, and what
it does to a metric set is a sequence of single steps on its cells.
`Host.Records` says so of what was before and after; it carries through
every chain of such operations, factories that call back included.
-/

namespace CommandMetrics.Host

/-- **Nothing but cells of metric sets and sinks has changed**, and cells
only by single steps. -/
structure Records (h after : Host) : Prop where
  registries : after.registries = h.registries
  foreign : after.foreign = h.foreign
  current : after.current = h.current
  sets : ∃ steps : SetId → List Primitive, ∀ id,
    after.set? id = (h.set? id).map fun m => m.play (steps id)

variable {h h' after : Host} {id : SetId} {m : MetricSet}

namespace Records

/-- What leaves the sets alone plays no step on them. -/
theorem of_sets_eq (registries : after.registries = h.registries)
    (foreign : after.foreign = h.foreign) (current : after.current = h.current)
    (sets : after.sets = h.sets) : h.Records after where
  registries := registries
  foreign := foreign
  current := current
  sets := by
    refine ⟨fun _ => [], fun id => ?_⟩
    unfold set?
    rw [sets]
    simp

theorem refl (h : Host) : h.Records h := of_sets_eq rfl rfl rfl rfl

theorem trans (hfirst : h.Records h') (hsecond : h'.Records after) : h.Records after where
  registries := hsecond.registries.trans hfirst.registries
  foreign := hsecond.foreign.trans hfirst.foreign
  current := hsecond.current.trans hfirst.current
  sets := by
    obtain ⟨first, hfirst⟩ := hfirst.sets
    obtain ⟨second, hsecond⟩ := hsecond.sets
    refine ⟨fun id => first id ++ second id, fun id => ?_⟩
    rw [hsecond, hfirst, Option.map_map]
    congr 1
    funext m
    exact (MetricSet.play_append m _ _).symm

theorem registry_eq (hrec : h.Records after) (place : RegistryId) :
    after.registry place = h.registry place := by
  unfold registry
  rw [hrec.registries]

/-- No set is added or lost. -/
theorem length_sets (hrec : h.Records after) : after.sets.length = h.sets.length := by
  obtain ⟨steps, hsteps⟩ := hrec.sets
  have hnone : ∀ i : Nat, after.sets.length ≤ i ↔ h.sets.length ≤ i := fun i => by
    have hi := hsteps ⟨i⟩
    unfold set? at hi
    rw [← List.getElem?_eq_none_iff, ← List.getElem?_eq_none_iff, hi, Option.map_eq_none_iff]
  have hle := (hnone h.sets.length).2 (Nat.le_refl _)
  have hge := (hnone after.sets.length).1 (Nat.le_refl _)
  omega

end Records

/-! ## Single operations -/

theorem records_putSet (hset : h.set? id = some m) (steps : List Primitive) :
    h.Records (h.putSet id (m.play steps)) where
  registries := rfl
  foreign := rfl
  current := rfl
  sets := by
    refine ⟨fun other => if other = id then steps else [], fun other => ?_⟩
    by_cases hother : other = id
    · subst hother
      simp only [if_true]
      rw [set?_putSet_self hset, hset, Option.map_some]
    · simp only [if_neg hother]
      rw [set?_putSet_of_ne hother]
      simp

theorem records_write (h : Host) (record : LogRecord) : h.Records (h.write record) :=
  .of_sets_eq rfl rfl rfl rfl

/-- Making sure of a command is playing its steps. -/
theorem ensureCommand_eq (hset : h.set? id = some m) (name : Value) :
    h.ensureCommand id name = (h.putSet id (m.play (ensureSteps name.asText)), .ok ()) := by
  rw [← MetricSet.ensure_eq_play]
  simp only [ensureCommand, hset]

theorem records_ensureCommand (h : Host) (id : SetId) (name : Value) :
    h.Records (h.ensureCommand id name).1 := by
  cases hset : h.set? id with
  | none =>
    simp only [ensureCommand, hset]
    exact .refl h
  | some m =>
    rw [ensureCommand_eq hset]
    exact records_putSet hset _

theorem records_newRecorder (h : Host) (route : RecorderRoute) (id : SetId) (name : Value) :
    h.Records (h.newRecorder route id name).1 := by
  unfold newRecorder
  split
  · exact .refl h
  · rename_i command _
    have hensured := h.records_ensureCommand id (.text command)
    split
    · rename_i hresult
      rwa [hresult] at hensured
    · rename_i hresult
      rwa [hresult] at hensured

theorem records_addSink (h : Host) (make : Text → Sink) (name : Value) :
    h.Records (h.addSink make name).1 := by
  unfold addSink
  split
  · exact .refl h
  · exact .of_sets_eq rfl rfl rfl rfl

theorem records_report (h : Host) (collector : Collector) (signal : Signal) :
    h.Records (h.report collector signal).1 := by
  unfold report
  split
  · rename_i recorder
    split
    · exact .refl h
    · rename_i m hset
      dsimp only
      rw [MetricSet.record_eq_play]
      exact records_putSet hset _
  · split
    · exact .refl h
    · exact .of_sets_eq rfl rfl rfl rfl

/-- **Calling a collector records.** -/
theorem records_call (h : Host) (collector : Collector) (name : String) (arguments : List Value) :
    h.Records (h.call collector name arguments).1 := by
  unfold call
  split
  · exact .refl h
  · split
    · exact h.records_report collector _
    · exact .refl h
    · exact .refl h

/-! ## Rosters -/

theorem records_enlist (h : Host) (id : RosterId) (factory : Factory) :
    h.Records (h.enlist id factory) := .of_sets_eq rfl rfl rfl rfl

theorem records_clearRoster (h : Host) (id : RosterId) : h.Records (h.clearRoster id) :=
  .of_sets_eq rfl rfl rfl rfl

theorem records_register (h : Host) (id : RosterId) (candidate : Option Factory) :
    h.Records (h.register id candidate).1 := by
  cases candidate with
  | none => exact .refl h
  | some factory => exact h.records_enlist id factory

/-- Whatever a factory's script does to its roster, it records. -/
theorem records_follow (id : RosterId) (name : Value) :
    ∀ (script : Script) (h : Host), h.Records (follow id name script h).1
  | .make, h => by
    have hmade := h.records_addSink .silent name
    unfold follow
    split <;> rename_i hresult <;> exact congrArg Prod.fst hresult ▸ hmade
  | .giveUp, h => .refl h
  | .enlist factory rest, h =>
    (h.records_enlist id factory).trans (records_follow id name rest _)
  | .clear rest, h => (h.records_clearRoster id).trans (records_follow id name rest _)

theorem records_make (h : Host) (id : RosterId) (name : Value) (factory : Factory) :
    h.Records (h.make id name factory).1 := by
  unfold make
  split
  · rename_i set
    have hmade := h.records_newRecorder .collector set name
    split <;> rename_i hresult <;> exact congrArg Prod.fst hresult ▸ hmade
  · have hmade := h.records_addSink (fun command => .memory command .empty) name
    split <;> rename_i hresult <;> exact congrArg Prod.fst hresult ▸ hmade
  · have hmade := h.records_addSink .silent name
    split <;> rename_i hresult <;> exact congrArg Prod.fst hresult ▸ hmade
  · exact records_follow id name _ h

/-- **Making the collectors of a command records**, however far it gets. -/
theorem records_makeEach (id : RosterId) (name : Value) (factories : List Factory) (h : Host) :
    h.Records (makeEach id name factories h).1 := by
  induction factories generalizing h with
  | nil => exact .refl h
  | cons factory rest ih =>
    have hmade := h.records_make id name factory
    unfold makeEach
    split
    · rename_i hresult
      rwa [hresult] at hmade
    · rename_i made collector hresult
      rw [hresult] at hmade
      have hrest := hmade.trans (ih made)
      split <;> rename_i hresult <;> exact congrArg Prod.fst hresult ▸ hrest

theorem records_initializeCollectors (h : Host) (id : RosterId) (name : Value) :
    h.Records (h.initializeCollectors id name).1 := records_makeEach id name (h.roster id) h

/-! ## The endpoint -/

theorem records_tellEndpoint (h : Host) (port : Value) (record : Int → LogRecord)
    (started : Bool) : h.Records (h.tellEndpoint port record started).1 := by
  unfold tellEndpoint
  split
  · exact h.records_write _
  · exact .refl h

theorem records_startEndpoint (h : Host) (serve : Value → RegistryId → EndpointResult)
    (id : SetId) (port : Value) : h.Records (h.startEndpoint serve id port).1 := by
  unfold startEndpoint
  split
  · exact .refl h
  · split
    · exact h.records_tellEndpoint port _ _
    · exact h.records_tellEndpoint port _ _
    · exact .refl h

end CommandMetrics.Host
