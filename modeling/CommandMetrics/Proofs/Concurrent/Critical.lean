import CommandMetrics.Proofs.Construction
/-!
# Critical sections — a call under the lock, step by step

Constructing a metric set and taking one out are not atomic. A call works
out what it can on its own, takes the lock, and then registers or
unregisters one series at a time, sets the flag and lets go. `Phase` is how
far a call under the lock has come and `Phase.advance` its next step. What
is left of a call, done without a break, is `Phase.complete`; a single step
leaves it as it is (`complete_advance`), and at the start it is the whole
call (`complete_enter`). The log is not shared under the lock and is left
out.
-/

namespace CommandMetrics

namespace Host

/-- A host without its log. -/
def quiet (h : Host) : Host := { h with log := [] }

/-- Notes in a set whether it is registered. -/
def flag (h : Host) (id : SetId) (registered : Bool) : Host :=
  { h with sets := h.sets.modify id.index fun m => { m with registered } }

variable {h : Host} {place : RegistryId} {id : SetId}

@[simp] theorem registries_flag {b : Bool} : (h.flag id b).registries = h.registries := rfl

/-- Noting something in the newest set changes that set. -/
theorem flag_withSet (h : Host) (m : MetricSet) (b : Bool) :
    (h.withSet m).flag ⟨h.sets.length⟩ b = h.withSet { m with registered := b } := by
  unfold flag withSet
  congr 1
  refine List.ext_getElem? fun i => ?_
  rw [List.getElem?_modify]
  by_cases hi : h.sets.length = i
  · subst hi
    rw [List.getElem?_concat_length, List.getElem?_concat_length]
    simp
  · rcases Nat.lt_or_gt_of_ne hi with hlt | hgt
    · rw [List.getElem?_eq_none (by simp; omega), List.getElem?_eq_none (by simp; omega)]
      rfl
    · rw [List.getElem?_append_left hgt, List.getElem?_append_left hgt]
      simp [hi]

theorem flag_eq_putSet {m : MetricSet} (hset : h.set? id = some m) (b : Bool) :
    h.flag id b = h.putSet id { m with registered := b } := by
  unfold flag putSet
  congr 1
  refine List.ext_getElem? fun i => ?_
  rw [List.getElem?_modify, List.getElem?_modify]
  by_cases hi : id.index = i
  · subst hi
    unfold set? at hset
    rw [hset]
    simp
  · simp [hi]

/-- A registry that is replaced twice is the second one. -/
theorem setRegistry_setRegistry (h : Host) (place : RegistryId) (r r' : Registry) :
    (h.setRegistry place r).setRegistry place r' = h.setRegistry place r' := by
  unfold setRegistry
  simp only [List.modify_modify_eq]
  rfl

end Host

/-! ## Calls -/

/-- A call that works under the lock. -/
inductive LockedCall where
  | construct (bounds : Option Value) (given : Option Config)
  | unregister (id : SetId)

/-- What a call returns: the new set, if it makes one. -/
abbrev Reply := Except Failure (Option SetId)

/-- How far a call under the lock has come. -/
inductive Phase where
  /-- Series of a new set go in; the last one that is in comes first. -/
  | registering (id : SetId) (done rest : List Series)
  /-- After a clash, what is in goes out again. -/
  | withdrawing (id : SetId) (pending : List Series) (clash : Registry.Clash)
  /-- A set is about to be asked whether it is registered. -/
  | checking (id : SetId)
  /-- Series of a set go out of the registry that is its home. -/
  | expelling (id : SetId) (home : RegistryId) (rest : List Series)
  /-- Nothing is left but to let go of the lock. -/
  | leaving (reply : Reply)

/-- The failure that a clash is told as. -/
def Registry.Clash.failure (clash : Registry.Clash) : Failure :=
  .conflict clash.series.fullName clash.names

/-- The failure of a series that was not there to be taken out. -/
def Series.absent (s : Series) : Failure :=
  .fault (.notRegistered (s.kind.family.shown s.fullName))

namespace LockedCall

/-- **Serves a call without a break.** -/
def serve (place : RegistryId) (h : Host) : LockedCall → Host × Reply
  | construct bounds given =>
    let (h, made) := h.construct place bounds given
    (h, made.map some)
  | unregister id =>
    let (h, done) := h.unregisterSet id
    (h, done.map fun _ => none)

/-- What a call finds before it takes the lock: a reason to fail, or where
it starts. A new set is there from then on, and not registered. -/
def enter (place : RegistryId) (h : Host) : LockedCall → Except Failure (Host × Phase)
  | construct bounds given =>
    match Config.resolve bounds given with
    | .error failure => .error failure
    | .ok config =>
      match Bounds.buckets config.boundsInForce with
      | .error error => .error (.fault (.layout error))
      | .ok buckets =>
        .ok (h.withSet (.fresh place config.boundsInForce buckets),
          .registering ⟨h.sets.length⟩ [] Series.all)
  | unregister id => .ok (h, .checking id)

end LockedCall

namespace Phase

/-- **The next step of a call**, which touches the registry once or the
flag once. -/
def advance (place : RegistryId) (h : Host) : Phase → Host × Phase
  | registering id done (s :: rest) =>
    match (h.registry place).register (.series id s) (Registry.claims s) with
    | .ok r => (h.setRegistry place r, registering id (s :: done) rest)
    | .error names => (h, withdrawing id done ⟨s, names⟩)
  | registering id _ [] => (h.flag id true, leaving (.ok (some id)))
  | withdrawing id (s :: pending) clash =>
    (h.setRegistry place (((h.registry place).unregister (.series id s)).getD (h.registry place)),
      withdrawing id pending clash)
  | withdrawing _ [] clash => (h, leaving (.error clash.failure))
  | checking id =>
    match h.set? id with
    | none => (h, leaving (.error (.fault .noSuchPart)))
    | some m => (h, if m.registered then expelling id m.registry Series.all else leaving (.ok none))
  | expelling id home (s :: rest) =>
    match (h.registry home).unregister (.series id s) with
    | some r => (h.setRegistry home r, expelling id home rest)
    | none => (h, leaving (.error s.absent))
  | expelling id _ [] => (h.flag id false, leaving (.ok none))
  | leaving reply => (h, leaving reply)

/-- **What is left of a call**, without a break. -/
def complete (place : RegistryId) (h : Host) : Phase → Host × Reply
  | registering id done rest =>
    match Registry.enrol id done rest (h.registry place) with
    | (r, none) => ((h.setRegistry place r).flag id true, .ok (some id))
    | (r, some clash) => (h.setRegistry place r, .error clash.failure)
  | withdrawing id pending clash =>
    (h.setRegistry place (Registry.withdraw id pending (h.registry place)), .error clash.failure)
  | checking id =>
    match h.set? id with
    | none => (h, .error (.fault .noSuchPart))
    | some m => if m.registered then expel id m.registry Series.all else (h, .ok none)
  | expelling id home rest => expel id home rest
  | leaving reply => (h, reply)
where
  /-- Takes series out and notes that the set has left. -/
  expel (id : SetId) (home : RegistryId) (rest : List Series) : Host × Reply :=
    match Registry.expel id rest (h.registry home) with
    | (r, some s) => (h.setRegistry home r, .error s.absent)
    | (r, none) => ((h.setRegistry home r).flag id false, .ok none)

variable {h : Host} {place : RegistryId}

/-- A step neither adds nor loses a registry. -/
theorem length_registries_advance (p : Phase) :
    (p.advance place h).1.registries.length = h.registries.length := by
  unfold advance
  split
  · split <;> simp
  · rfl
  · simp
  · rfl
  · split <;> rfl
  · split <;> simp
  · rfl
  · rfl

/-- A source is taken out only of a registry that there is. -/
theorem lt_of_unregister {home : RegistryId} {source : Source} {r : Registry}
    (hr : (h.registry home).unregister source = some r) : home.index < h.registries.length := by
  by_contra hge
  unfold Host.registry at hr
  rw [List.getElem?_eq_none (by omega)] at hr
  cases hr

/-- **A step leaves what a call comes to as it is.** -/
theorem complete_advance (hplace : place.index < h.registries.length) (p : Phase) :
    (p.advance place h).2.complete place (p.advance place h).1 = p.complete place h := by
  cases p with
  | registering id done rest =>
    -- a series that goes in is one that would have, a clash is the one that would have been
    cases rest with
    | nil =>
      simp only [advance, complete, Registry.enrol, Host.setRegistry_registry]
    | cons s rest =>
      simp only [advance, complete, Registry.enrol]
      cases (h.registry place).register (.series id s) (Registry.claims s) with
      | ok r =>
        simp only [Host.registry_setRegistry_self hplace, Host.setRegistry_setRegistry]
      | error names => rfl
  | withdrawing id pending clash =>
    cases pending with
    | nil =>
      simp only [advance, complete, Registry.withdraw, List.foldl_nil, Host.setRegistry_registry]
    | cons s pending =>
      simp only [advance, complete, Registry.withdraw, List.foldl_cons,
        Host.registry_setRegistry_self hplace, Host.setRegistry_setRegistry]
  | checking id =>
    simp only [advance, complete]
    cases h.set? id with
    | none => rfl
    | some m => by_cases hm : m.registered = true <;> simp only [hm] <;> rfl
  | expelling id home rest =>
    cases rest with
    | nil =>
      simp only [advance, complete, complete.expel, Registry.expel, Host.setRegistry_registry]
    | cons s rest =>
      simp only [advance, complete, complete.expel, Registry.expel]
      cases hr : (h.registry home).unregister (.series id s) with
      | some r =>
        have hhome := lt_of_unregister hr
        simp only [Host.registry_setRegistry_self hhome, Host.setRegistry_setRegistry]
      | none => simp only [Host.setRegistry_registry]
  | leaving reply => rfl

/-- How many turns a call needs at most until it has let go of the lock. -/
def turns : Phase → Nat
  | registering _ done rest => done.length + 2 * rest.length + 3
  | withdrawing _ pending _ => pending.length + 2
  | checking _ => Series.all.length + 3
  | expelling _ _ rest => rest.length + 2
  | leaving _ => 1

/-- **A step brings a call nearer to its end.** -/
theorem turns_advance_lt {p : Phase} (hp : ∀ reply, p ≠ leaving reply) :
    (p.advance place h).2.turns < p.turns := by
  cases p with
  | registering id done rest =>
    cases rest with
    | nil => simp only [advance, turns]; omega
    | cons s rest =>
      simp only [advance]
      split <;> simp only [turns, List.length_cons] <;> omega
  | withdrawing id pending clash =>
    cases pending with
    | nil => simp only [advance, turns]; omega
    | cons s pending => simp only [advance, turns, List.length_cons]; omega
  | checking id =>
    simp only [advance]
    split
    · simp only [turns]; omega
    · split <;> simp only [turns] <;> omega
  | expelling id home rest =>
    cases rest with
    | nil => simp only [advance, turns]; omega
    | cons s rest =>
      simp only [advance]
      split <;> simp only [turns, List.length_cons] <;> omega
  | leaving reply => exact absurd rfl (hp reply)

end Phase

namespace LockedCall

variable {h entered : Host} {place : RegistryId} {call : LockedCall} {p : Phase}

/-- **A construction fails before the lock**, on every host and with nothing
done, **or has a new set to register**. -/
theorem enter_construct_cases (place : RegistryId) (bounds : Option Value)
    (given : Option Config) :
    (∃ failure, ∀ h : Host, (construct bounds given).enter place h = .error failure ∧
      (construct bounds given).serve place h = (h, .error failure)) ∨
    ∃ config buckets, Config.resolve bounds given = .ok config ∧
      Bounds.buckets config.boundsInForce = .ok buckets ∧
      ∀ h : Host, (construct bounds given).enter place h =
        .ok (h.withSet (.fresh place config.boundsInForce buckets),
          .registering ⟨h.sets.length⟩ [] Series.all) := by
  cases hresolve : Config.resolve bounds given with
  | error failure =>
    refine .inl ⟨failure, fun h => ⟨?_, ?_⟩⟩
    · simp only [enter, hresolve]
    · simp only [serve, Host.construct, hresolve]
      rfl
  | ok config =>
    cases hbuckets : Bounds.buckets config.boundsInForce with
    | error error =>
      refine .inl ⟨.fault (.layout error), fun h => ⟨?_, ?_⟩⟩
      · simp only [enter, hresolve, hbuckets]
      · simp only [serve, Host.construct, Host.addSet, hresolve, hbuckets]
        rfl
    | ok buckets =>
      refine .inr ⟨config, buckets, rfl, hbuckets, fun h => ?_⟩
      simp only [enter, hresolve, hbuckets]

/-- A call that fails before the lock does so on every host. -/
theorem enter_eq_error {failure : Failure} (henter : call.enter place h = .error failure)
    (h' : Host) : call.enter place h' = .error failure := by
  cases call with
  | construct bounds given =>
    rcases enter_construct_cases place bounds given with ⟨refusal, hrefused⟩ | ⟨_, _, -, -, hok⟩
    · rw [(hrefused h).1] at henter
      rw [(hrefused h').1, henter]
    · rw [hok] at henter
      cases henter
  | unregister id => cases henter

/-- Taking the lock touches no registry. -/
theorem registries_of_enter (henter : call.enter place h = .ok (entered, p)) :
    entered.registries = h.registries := by
  cases call with
  | construct bounds given =>
    rcases enter_construct_cases place bounds given with ⟨refusal, hrefused⟩ | ⟨_, _, -, -, hok⟩
    · rw [(hrefused h).1] at henter
      cases henter
    · rw [hok] at henter
      cases henter
      rfl
  | unregister id =>
    cases henter
    rfl

/-- **A call that does not get to the lock fails there and then.** -/
theorem serve_of_enter_error {failure : Failure}
    (henter : call.enter place h.quiet = .error failure) :
    call.serve place h = (h, .error failure) := by
  cases call with
  | construct bounds given =>
    rcases enter_construct_cases place bounds given with ⟨refusal, hrefused⟩ | ⟨_, _, -, -, hok⟩
    · rw [(hrefused h.quiet).1] at henter
      cases henter
      exact (hrefused h).2
    · rw [hok] at henter
      cases henter
  | unregister id => cases henter

/-- **What is left of a call at its start is the whole call.** -/
theorem complete_enter (henter : call.enter place h.quiet = .ok (entered, p)) :
    p.complete place entered = ((call.serve place h).1.quiet, (call.serve place h).2) := by
  cases call with
  | construct bounds given =>
    rcases enter_construct_cases place bounds given with
      ⟨refusal, hrefused⟩ | ⟨config, buckets, hresolve, hbuckets, hok⟩
    · rw [(hrefused h.quiet).1] at henter
      cases henter
    · rw [hok] at henter
      cases henter
      simp only [serve, Host.construct, Host.addSet, hresolve, hbuckets, Phase.complete,
        Registry.enrolAll]
      have hregistry : (h.quiet.withSet (.fresh place config.boundsInForce buckets)).registry place
          = h.registry place := rfl
      have hid : (⟨h.quiet.sets.length⟩ : SetId) = ⟨h.sets.length⟩ := rfl
      rw [hregistry, hid]
      -- both sides enrol alike; here the set was there before, and is told of it afterwards
      rcases Registry.enrol ⟨h.sets.length⟩ [] Series.all (h.registry place) with ⟨r, _ | clash⟩
      · exact congrArg (·, _) (Host.flag_withSet (h.quiet.setRegistry place r) _ true)
      · rfl
  | unregister id =>
    cases henter
    simp only [serve, Phase.complete, Host.unregisterSet]
    have hquiet : h.quiet.set? id = h.set? id := rfl
    rw [hquiet]
    cases hset : h.set? id with
    | none => rfl
    | some m =>
      by_cases hm : m.registered = true
      · simp only [hm]
        have hregistry : h.quiet.registry m.registry = h.registry m.registry := rfl
        simp only [Phase.complete.expel, Registry.expelAll, hregistry]
        rcases Registry.expel id Series.all (h.registry m.registry) with ⟨r, _ | s⟩
        · have hflag := Host.flag_eq_putSet (h := h.quiet.setRegistry m.registry r) hset false
          exact congrArg (·, _) hflag
        · rfl
      · simp only [hm]
        rfl

end LockedCall

end CommandMetrics
