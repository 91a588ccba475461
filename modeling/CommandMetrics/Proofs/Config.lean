import CommandMetrics.Host.Registration
import CommandMetrics.Proofs.Bounds
/-!
# Configuration — what was checked can be built from

A check that combines others succeeds exactly if they all do
(`ap_eq_ok_iff` and its companions). So the bounds of a configuration that
was built from fields were accepted (`accepted_ofFields`), and so were
those of one that the arguments of a metric set come to
(`accepted_of_resolve`) or that an environment says (`accepted_of_config`).
Accepted bounds can be laid out, which leaves a construction no other way to
fail than a clash of names.
-/

namespace CommandMetrics

namespace Checked

variable {α β : Type} {a : α} {b : β}

theorem map_eq_ok_iff {x : Checked α} {f : α → β} :
    x.map f = .ok b ↔ ∃ a, x = .ok a ∧ f a = b := by
  cases x <;> simp [Checked.map]

theorem ap_eq_ok_iff {f : Checked (α → β)} {x : Checked α} :
    f.ap x = .ok b ↔ ∃ g a, f = .ok g ∧ x = .ok a ∧ g a = b := by
  cases f <;> cases x <;> simp [ap]

theorem andThen_eq_ok_iff {x : Checked α} {f : α → Checked β} :
    x.andThen f = .ok b ↔ ∃ a, x = .ok a ∧ f a = .ok b := by
  cases x <;> simp [andThen]

theorem under_eq_ok_iff {step : Step} {x : Checked α} : x.under step = .ok a ↔ x = .ok a := by
  cases x <;> simp [under]

theorem forModel_eq_ok_iff {model : String} {x : Checked α} :
    x.forModel model = .ok a ↔ x = .ok a := by
  cases x <;> simp [forModel]

end Checked

/-- A field with a default has the default or what its check lets through. -/
theorem Fields.optional_eq_ok_iff {α : Type} {fields : Fields} {name : String} {default a : α}
    {check : Value → Checked α} :
    fields.optional name default check = .ok a ↔
      (fields.lookup name = none ∧ default = a) ∨
      ∃ value, fields.lookup name = some value ∧ check value = .ok a := by
  unfold optional
  cases fields.lookup name <;> simp [Checked.under_eq_ok_iff]

namespace Config

/-- A configuration as it comes out of being checked: bounds that it has
were accepted. -/
def Accepted (config : Config) : Prop :=
  ∀ bounds, config.bounds = some bounds → Bounds.validate bounds = .ok bounds

/-- **A checked configuration gives bounds that can be laid out.** -/
theorem Accepted.exists_buckets {config : Config} (h : config.Accepted) :
    ∃ laidOut, Bounds.buckets config.boundsInForce = .ok laidOut := by
  unfold boundsInForce
  split
  · rename_i first rest hbounds
    exact Bounds.buckets_of_validate (h _ hbounds)
  · exact Bounds.buckets_of_validate Bounds.validate_standard

theorem accepted_empty : empty.Accepted := fun _ h => nomatch h

/-- A field of bounds lets through what is accepted. -/
theorem validate_of_boundsField {value : Value} {bounds : List Number}
    (h : boundsField value = .ok bounds) : Bounds.validate bounds = .ok bounds := by
  obtain ⟨given, -, hcheck⟩ := Checked.andThen_eq_ok_iff.1 h
  unfold checkBounds at hcheck
  split at hcheck
  · rename_i accepted haccepted
    cases hcheck
    exact Bounds.validate_idem haccepted
  · cases hcheck

/-- **Whatever is built from fields was checked.** -/
theorem accepted_ofFields {fields : Fields} {config : Config} (h : ofFields fields = .ok config) :
    config.Accepted := by
  obtain ⟨_, _, hports, -, rfl⟩ := Checked.ap_eq_ok_iff.1 (Checked.forModel_eq_ok_iff.1 h)
  obtain ⟨_, port, hbounds, -, rfl⟩ := Checked.ap_eq_ok_iff.1 hports
  obtain ⟨given, hgiven, rfl⟩ := Checked.map_eq_ok_iff.1 hbounds
  intro bounds hsome
  obtain rfl : given = some bounds := hsome
  rcases Fields.optional_eq_ok_iff.1 hgiven with ⟨-, hdefault⟩ | ⟨value, -, hcheck⟩
  · cases hdefault
  · unfold Coercion.optional at hcheck
    split at hcheck
    · cases hcheck
    · obtain ⟨checked, hchecked, hsome⟩ := Checked.map_eq_ok_iff.1 hcheck
      cases hsome
      exact validate_of_boundsField hchecked

/-- **What the arguments of a metric set come to was checked**, if a
configuration among them was. -/
theorem accepted_of_resolve {bounds : Option Value} {given : Option Config} {config : Config}
    (hgiven : ∀ c, given = some c → c.Accepted) (h : resolve bounds given = .ok config) :
    config.Accepted := by
  unfold resolve at h
  split at h
  · cases h
  · cases h
    exact hgiven _ rfl
  · cases h
    exact accepted_empty
  · split at h
    · cases h
    · split at h
      · rename_i hfields
        cases h
        exact accepted_ofFields hfields
      · cases h

/-- **Arguments that come to nothing are refused as a configuration.** -/
theorem kind_of_resolve {bounds : Option Value} {given : Option Config} {failure : Failure}
    (h : resolve bounds given = .error failure) :
    ∃ e, failure = .adapter e ∧ e.kind = .configuration := by
  unfold resolve at h
  split at h
  · cases h
    exact ⟨_, rfl, rfl⟩
  · cases h
  · cases h
  · split at h
    · cases h
      exact ⟨_, rfl, rfl⟩
    · split at h
      · cases h
      · cases h
        exact ⟨_, rfl, rfl⟩

end Config

/-! ## Configurations of an environment -/

namespace Environment

variable {environment : Environment} {config : Config} {failure : Failure}

/-- Bounds that cannot be read are an error of the configuration, -/
theorem kind_of_bounds? {content : List Point} (h : bounds? (.text content) = .error failure) :
    ∃ e, failure = .adapter e ∧ e.kind = .configuration := by
  unfold bounds? at h
  split at h
  · cases h
  · cases h
  · rename_i heq
    cases heq
  · split at h
    · cases h
    · cases h
      exact ⟨_, rfl, rfl⟩

/-- and so is a port. -/
theorem kind_of_port? {setting : Setting} (h : port? setting = .error failure) :
    ∃ e, failure = .adapter e ∧ e.kind = .configuration := by
  unfold port? at h
  split at h
  · cases h
  · cases h
  · split at h
    · cases h
    · cases h
      exact ⟨_, rfl, rfl⟩

/-- **An adapter error of reading an environment is one of the
configuration**, whatever its variables are set to. -/
theorem kind_of_config (h : environment.config = .error failure) {e : AdapterError}
    (he : failure = .adapter e) : e.kind = .configuration := by
  subst he
  unfold config at h
  split at h
  · cases h
  · rename_i bounds port _
    cases hread : bounds? bounds with
    | error refusal =>
      rw [hread] at h
      cases h
      cases bounds with
      | text content =>
        obtain ⟨e, heq, hkind⟩ := kind_of_bounds? hread
        cases heq
        exact hkind
      | bytes content => cases content <;> cases hread
    | ok bounds? =>
      rw [hread] at h
      cases hread' : port? port with
      | error refusal =>
        rw [hread'] at h
        cases h
        obtain ⟨e, heq, hkind⟩ := kind_of_port? hread'
        cases heq
        exact hkind
      | ok port? =>
        rw [hread'] at h
        simp only [bind, Except.bind] at h
        split at h
        · cases h
        · cases h
          rfl

/-- What an environment says was checked. -/
theorem accepted_of_config (h : environment.config = .ok config) : config.Accepted := by
  unfold Environment.config at h
  split at h
  · cases h
  · rename_i bounds port _
    cases hread : bounds? bounds with
    | error refusal =>
      rw [hread] at h
      cases h
    | ok bounds? =>
      rw [hread] at h
      cases hread' : port? port with
      | error refusal =>
        rw [hread'] at h
        cases h
      | ok port? =>
        rw [hread'] at h
        simp only [bind, Except.bind] at h
        split at h
        · rename_i hfields
          cases h
          exact Config.accepted_ofFields hfields
        · cases h

end Environment

end CommandMetrics
