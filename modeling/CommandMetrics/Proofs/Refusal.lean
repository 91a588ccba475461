import CommandMetrics.Proofs.Fields
import CommandMetrics.Proofs.Host
/-!
# Refusal — the two ways in which a construction fails

Arguments call for bounds (`Config.Wants`): a value for the numbers that its
items are read as, if these are acceptable, a configuration for its own, and
whatever says nothing of bounds for the standard ones. Arguments that call for
none are refused before anything is made (`exists_resolve_eq_error_iff`).
What is called for is acceptable (`resolve_wants`), so a histogram can be laid
out over it, and nothing but a clash of names is left to fail for
(`construct_fails_twofold`).
-/

namespace CommandMetrics

/-- **A value gives bounds**: it can be run through, its items are read as
these numbers, and they are acceptable. -/
def Value.Gives (value : Value) (bounds : List Number) : Prop :=
  ∃ items, value.items? = some items ∧
    List.Forall₂ (fun item x => Coercion.number item = .ok x) items bounds ∧
      Bounds.Acceptable bounds

/-- A value that says something is given. -/
theorem Value.given?_of_ne {value : Value} (hvalue : value ≠ .absent) :
    Value.given? (some value) = some value := by
  unfold Value.given?
  split
  · rename_i heq
    exact absurd (Option.some.inj heq) hvalue
  · rfl

namespace Config

/-- **The bounds that arguments call for.** No bounds are called for by a value
and a configuration together; a value that says nothing is as good as none. -/
inductive Wants : Option Value → Option Config → List Number → Prop
  | standard : Wants none none Bounds.standard
  | omitted {given : Option Config} {bounds : List Number} : Wants none given bounds →
      Wants (some .absent) given bounds
  | given {value : Value} {bounds : List Number} : value.Gives bounds →
      Wants (some value) none bounds
  | configured {config : Config} {bounds : List Number} : config.bounds = some bounds →
      Wants none (some config) bounds
  | unconfigured {config : Config} : config.bounds = none →
      Wants none (some config) Bounds.standard

variable {config : Config} {value : Value} {bounds : List Number}

/-- Bounds that are configured are in force, -/
theorem boundsInForce_of_acceptable (hbounds : config.bounds = some bounds)
    (hacceptable : Bounds.Acceptable bounds) : config.boundsInForce = bounds := by
  unfold boundsInForce
  rw [hbounds]
  cases bounds with
  | nil => exact absurd rfl hacceptable.nonempty
  | cons first rest => rfl

/-- and else the standard ones are. -/
theorem boundsInForce_of_none (hbounds : config.bounds = none) :
    config.boundsInForce = Bounds.standard := by
  unfold boundsInForce
  rw [hbounds]

theorem acceptable_standard : Bounds.Acceptable Bounds.standard :=
  (Bounds.validate_eq_ok_iff.1 Bounds.validate_standard).2

/-- The items of a value come to a configuration if they are taken as bounds. -/
theorem ofFields_items_eq_ok_iff {items : List Value} :
    ofFields [("duration_buckets", .tuple items)] = .ok config ↔
      ∃ bounds, boundsField (.tuple items) = .ok bounds ∧ config = ⟨some bounds, none⟩ := by
  have hread : Coercion.optional boundsField (.tuple items) =
      (boundsField (.tuple items)).map some := rfl
  rw [ofFields_bounds, hread]
  cases boundsField (.tuple items) with
  | ok bounds => simp [Checked.map, Checked.under, eq_comm]
  | wrong issues => simp [Checked.map, Checked.under]

/-- **A value is a configuration** if it gives bounds. -/
theorem resolve_value_eq_ok_iff (hvalue : value ≠ .absent) :
    resolve (some value) none = .ok config ↔
      ∃ bounds, value.Gives bounds ∧ config = ⟨some bounds, none⟩ := by
  simp only [Value.Gives, ← boundsField_tuple_eq_ok_iff]
  unfold resolve
  rw [Value.given?_of_ne hvalue]
  cases hitems : value.items? with
  | none => simp [Value.items, hitems]
  | some items =>
    dsimp only
    rw [Value.items_eq hitems]
    dsimp only
    have hbuilt : ofFields [("duration_buckets", .tuple items)] = .ok config ↔
        ∃ bounds, boundsField (.tuple items) = .ok bounds ∧ config = ⟨some bounds, none⟩ :=
      ofFields_items_eq_ok_iff
    cases hfields : ofFields [("duration_buckets", .tuple items)] with
    | ok built =>
      rw [hfields] at hbuilt
      simpa using hbuilt
    | error rejection =>
      rw [hfields] at hbuilt
      simpa using hbuilt

/-- **A value does not go with a configuration.** -/
theorem resolve_both (hvalue : value ≠ .absent) (other : Config) :
    resolve (some value) (some other) = .error .bothGiven := by
  unfold resolve
  rw [Value.given?_of_ne hvalue]

/-- Without a value a configuration is taken as it is, and else nothing is
configured. -/
theorem resolve_none_wants {given : Option Config}
    (hgiven : ∀ c, given = some c → c.Accepted) (h : resolve none given = .ok config) :
    Wants none given config.boundsInForce ∧ Bounds.Acceptable config.boundsInForce := by
  cases given with
  | none =>
    cases h
    exact ⟨.standard, acceptable_standard⟩
  | some other =>
    cases h
    cases hbounds : config.bounds with
    | none =>
      rw [boundsInForce_of_none hbounds]
      exact ⟨.unconfigured hbounds, acceptable_standard⟩
    | some bounds =>
      have hacceptable := (Bounds.validate_eq_ok_iff.1 (hgiven config rfl bounds hbounds)).2
      rw [boundsInForce_of_acceptable hbounds hacceptable]
      exact ⟨.configured hbounds, hacceptable⟩

/-- **Arguments come to what they call for**, and it is acceptable. -/
theorem resolve_wants {given : Option Config} {argument : Option Value}
    (hgiven : ∀ c, given = some c → c.Accepted) (h : resolve argument given = .ok config) :
    Wants argument given config.boundsInForce ∧ Bounds.Acceptable config.boundsInForce := by
  cases argument with
  | none => exact resolve_none_wants hgiven h
  | some value =>
    by_cases hvalue : value = .absent
    · subst hvalue
      obtain ⟨hwants, hacceptable⟩ := resolve_none_wants hgiven h
      exact ⟨.omitted hwants, hacceptable⟩
    · cases given with
      | some other => exact nomatch (resolve_both hvalue other).symm.trans h
      | none =>
        obtain ⟨bounds, hgives, rfl⟩ := (resolve_value_eq_ok_iff hvalue).1 h
        have hacceptable : Bounds.Acceptable bounds := by
          obtain ⟨items, -, -, hacceptable⟩ := hgives
          exact hacceptable
        rw [boundsInForce_of_acceptable rfl hacceptable]
        exact ⟨.given hgives, hacceptable⟩

end Config

namespace Host

variable {h after : Host} {place : RegistryId} {config : Config} {id : SetId}

/-- A set that was added has the bounds in force, and buckets over them. -/
theorem exists_set_of_addSet (hadded : h.addSet place config = (after, .ok id)) :
    ∃ m, after.set? id = some m ∧ m.bounds = config.boundsInForce ∧
      Bounds.buckets config.boundsInForce = .ok m.buckets := by
  unfold addSet at hadded
  dsimp only at hadded
  split at hadded
  · cases hadded
  · rename_i buckets hbuckets
    split at hadded
    · cases hadded
      exact ⟨_, List.getElem?_concat_length, rfl, hbuckets⟩
    · cases hadded

/-- **Acceptable bounds leave a clash as the only failure.** -/
theorem kind_of_addSet (hacceptable : Bounds.Acceptable config.boundsInForce) {failure : Failure}
    (hfailed : h.addSet place config = (after, .error failure)) :
    ∃ e, failure = .adapter e ∧ e.kind = .registrationConflict := by
  unfold addSet at hfailed
  dsimp only at hfailed
  rw [hacceptable.buckets_eq] at hfailed
  dsimp only at hfailed
  split at hfailed
  · cases hfailed
  · cases hfailed
    exact ⟨_, rfl, rfl⟩

end Host

end CommandMetrics
