import CommandMetrics.Proofs.Construction
import CommandMetrics.Proofs.Environment
import CommandMetrics.Proofs.Refusal
/-!
# Routes — three ways to ask for bounds

The bounds of a metric set can be an argument, a field of a configuration, or
the text of a variable. Whichever way the same bounds take (`Asks`), they come
to one configuration, or the same issues are found (`Asks.ofFields_eq`,
`Asks.resolve_eq`, `Asks.config_eq`). From there on the ways differ in the
record of an environment that was loaded, which nothing looks at
(`alike_addSet_write`), and in how a refusal is told (`routes_agree`).
-/

namespace CommandMetrics

open Environment

/-- **The same is asked for in three ways**: with an argument, with the fields
of a configuration, and with a variable of an environment. Either these are
certain bounds, or none of the three says anything. -/
inductive Asks : Option (List Number) → Option Value → Fields → Environment → Prop
  | bounds {bounds : List Number} {argument field : Value} {environment : Environment} :
      argument.Lists bounds → field.Lists bounds →
      environment.stripped boundsVariable ≠ [] →
      (entries (environment.stripped boundsVariable)).map number? = bounds.map some →
      Asks (some bounds) (some argument) [("duration_buckets", field)] environment
  | nothing {argument : Option Value} {fields : Fields} {environment : Environment} :
      argument = none ∨ argument = some .absent →
      fields = [] ∨ fields = [("duration_buckets", .absent)] →
      environment.stripped boundsVariable = [] → Asks none argument fields environment

namespace Asks

variable {asked : Option (List Number)} {argument : Option Value} {fields : Fields}
variable {environment : Environment}

/-- Only bounds can be wrong with what is asked for. -/
theorem issues_eq (asked : Option (List Number)) :
    Config.issues ⟨asked, none⟩ = Config.boundsIssues asked := by
  simp [Config.issues, Config.portIssues]

theorem issues_eq_nil_iff : Config.issues ⟨asked, none⟩ = [] ↔
    ∀ bounds, asked = some bounds → Bounds.Acceptable bounds := by
  rw [issues_eq]
  cases asked with
  | none => simp [Config.boundsIssues]
  | some bounds => simp [Config.boundsIssues_eq_nil_iff]

/-- **The fields** come to the configuration that is asked for. -/
theorem ofFields_eq (hasks : Asks asked argument fields environment) :
    Config.ofFields fields =
      if Config.issues ⟨asked, none⟩ = [] then .ok ⟨asked, none⟩
      else .error ⟨Config.model, Config.issues ⟨asked, none⟩⟩ := by
  rw [issues_eq]
  cases hasks with
  | bounds _ hfield _ _ => exact Config.ofFields_lists hfield
  | nothing _ hfields _ =>
    rcases hfields with rfl | rfl
    · rw [Config.ofFields_nil]
      rfl
    · rw [Config.ofFields_bounds]
      rfl

/-- **The argument** does, with the same issues. -/
theorem resolve_eq (hasks : Asks asked argument fields environment) :
    Config.resolve argument none =
      if Config.issues ⟨asked, none⟩ = [] then .ok ⟨asked, none⟩
      else .error (.badBounds (.rejected ⟨Config.model, Config.issues ⟨asked, none⟩⟩)) := by
  rw [issues_eq]
  cases hasks with
  | @bounds bounds argument _ _ hargument _ _ _ =>
    have hitems : argument.items = .ok (bounds.map .number) := by
      rcases hargument with rfl | rfl
      · rfl
      · rfl
    have hsays : argument ≠ .absent := by
      rintro rfl
      cases hitems
    unfold Config.resolve
    rw [Value.given?_of_ne hsays]
    simp only [hitems, Config.ofFields_lists (.inr rfl)]
    by_cases hnone : Config.boundsIssues (some bounds) = []
    · rw [if_pos hnone, if_pos hnone]
    · rw [if_neg hnone, if_neg hnone]
  | nothing hargument _ _ =>
    rcases hargument with rfl | rfl
    · rfl
    · rfl

/-- **The environment** does, if it says nothing of a port. -/
theorem config_eq (htextual : environment.Textual)
    (hport : environment.stripped portVariable = [])
    (hasks : Asks asked argument fields environment) :
    environment.config =
      if Config.issues ⟨asked, none⟩ = [] then .ok ⟨asked, none⟩
      else .error (.badEnvironment ⟨Config.model, Config.issues ⟨asked, none⟩⟩) := by
  have hwhole : ¬ UnreadablePort (environment.stripped portVariable) := fun h => h.1 hport
  cases hasks with
  | @bounds bounds _ _ _ _ _ hne hread =>
    have hlisted : ¬ UnreadableBounds (environment.stripped boundsVariable) := by
      rintro ⟨entry, hentry, hnone⟩
      have hmem : none ∈ bounds.map some := by
        rw [← hread, ← hnone]
        exact List.mem_map_of_mem hentry
      simp at hmem
    have hnumbers : numbers (environment.stripped boundsVariable) = bounds := by
      have hid := congrArg (List.filterMap id) hread
      simpa [numbers, List.filterMap_map, Function.comp_def] using hid
    refine config_of_readable htextual hlisted hwhole ?_
    rw [boundsOf, if_neg hne, hnumbers, portOf, if_pos hport]
  | nothing _ _ hnil =>
    have hlisted : ¬ UnreadableBounds (environment.stripped boundsVariable) := by
      rw [hnil]
      decide
    refine config_of_readable htextual hlisted hwhole ?_
    rw [boundsOf, if_pos hnil, portOf, if_pos hport]

end Asks

namespace Host

variable {h : Host} {place : RegistryId} {config : Config}

/-- Builds a metric set from the fields of a configuration. -/
def constructFromFields (h : Host) (place : RegistryId) (fields : Fields) : Outcome SetId :=
  match Config.ofFields fields with
  | .ok config => h.construct place none (some config)
  | .error rejection => (h, .error (.fault (.rejected rejection)))

/-- **The same came of two operations**, and they left the same behind, save
for the log. -/
structure Alike {α : Type} (o o' : Outcome α) : Prop where
  result : o.2 = o'.2
  host : { o.1 with log := [] } = { o'.1 with log := [] }

theorem Alike.refl {α : Type} (o : Outcome α) : Alike o o := ⟨rfl, rfl⟩

/-- **What is in the log makes no difference** to a set that is added. -/
theorem alike_addSet_write (record : LogRecord) :
    Alike ((h.write record).addSet place config) (h.addSet place config) := by
  have hregistry : (h.write record).registry place = h.registry place := rfl
  have hsets : (h.write record).sets = h.sets := rfl
  unfold addSet
  simp only [hregistry, hsets]
  cases Bounds.buckets config.boundsInForce with
  | error error => exact ⟨rfl, rfl⟩
  | ok buckets =>
    cases ((h.registry place).enrolAll ⟨h.sets.length⟩).2 with
    | none => exact ⟨rfl, rfl⟩
    | some clash => exact ⟨rfl, rfl⟩

/-- With bounds that can be laid out it is a name that is taken, if anything,
that a set fails for. -/
theorem addSet_fails_iff (hnumbered : h.Numbered)
    (hacceptable : Bounds.Acceptable config.boundsInForce) :
    (∃ after failure, h.addSet place config = (after, .error failure)) ↔
      ∃ s, ∃ name ∈ Registry.claims s, (h.registry place).isTaken name = true := by
  cases hfirst : (h.registry place).firstClash? Series.all with
  | none =>
    have hfree := Registry.firstClash?_eq_none_iff.1 hfirst
    rw [addSet_of_clear hnumbered hacceptable.buckets_eq hfirst]
    constructor
    · rintro ⟨after, failure, ⟨⟩⟩
    · rintro ⟨s, name, hname, htaken⟩
      exact absurd htaken (Bool.eq_false_iff.1 (hfree s name hname))
  | some s =>
    obtain ⟨hclash, -⟩ := Registry.firstClash?_eq_some_iff.1 hfirst
    obtain ⟨name, hmem⟩ := List.exists_mem_of_ne_nil _ hclash
    rw [addSet_of_clash hnumbered hacceptable.buckets_eq hfirst]
    exact ⟨fun _ => ⟨s, name, Registry.mem_clashes_iff.1 hmem⟩, fun _ => ⟨_, _, rfl⟩⟩

/-- **The three ways to ask for bounds agree**, whatever the registry holds.
Where acceptable bounds are asked for, or none at all, the same comes of all
three, and all else but the log is the same afterwards: a set with these
bounds, or the standard ones, and with buckets over them, or the failure for
a name that is taken. Where other bounds are asked for, all three are refused
and leave the host as it was, the argument and the environment as a
configuration, the fields as those of its model. -/
theorem routes_agree (h : Host) (place : RegistryId) {asked : Option (List Number)}
    {argument : Option Value} {fields : Fields} {environment : Environment}
    (htextual : environment.Textual) (hport : environment.stripped portVariable = [])
    (hasks : Asks asked argument fields environment) :
    ((∀ bounds, asked = some bounds → Bounds.Acceptable bounds) →
      Alike (h.constructFromFields place fields) (h.construct place argument none) ∧
      Alike (h.createSet environment place none) (h.construct place argument none) ∧
      (∀ after id, h.construct place argument none = (after, .ok id) →
        ∃ m, after.set? id = some m ∧ m.bounds = asked.getD Bounds.standard ∧
          m.buckets = Bounds.closed m.bounds) ∧
      (∀ after failure, h.construct place argument none = (after, .error failure) →
        ∃ e, failure = .adapter e ∧ e.kind = .registrationConflict) ∧
      (h.Numbered →
        ((∃ after failure, h.construct place argument none = (after, .error failure)) ↔
          ∃ s, ∃ name ∈ Registry.claims s, (h.registry place).isTaken name = true))) ∧
    (∀ bounds, asked = some bounds → ¬ Bounds.Acceptable bounds →
      (∃ e, h.construct place argument none = (h, .error (.adapter e)) ∧
        e.kind = .configuration) ∧
      (∃ rejection, h.constructFromFields place fields =
          (h, .error (.fault (.rejected rejection))) ∧ rejection.model = Config.model) ∧
      (∃ e, h.createSet environment place none = (h, .error (.adapter e)) ∧
        e.kind = .configuration)) := by
  have hresolve := hasks.resolve_eq
  have hfields := hasks.ofFields_eq
  have hconfig := hasks.config_eq htextual hport
  have hissues : Config.issues ⟨asked, none⟩ = [] ↔
      ∀ bounds, asked = some bounds → Bounds.Acceptable bounds := Asks.issues_eq_nil_iff
  constructor
  · intro hacceptable
    have hnone := hissues.2 hacceptable
    rw [if_pos hnone] at hresolve hfields hconfig
    have hargument : h.construct place argument none = h.addSet place ⟨asked, none⟩ := by
      unfold construct
      rw [hresolve]
    have hfromFields : h.constructFromFields place fields = h.addSet place ⟨asked, none⟩ := by
      unfold constructFromFields
      rw [hfields]
      rfl
    have hcreated : h.createSet environment place none =
        (h.write (.environmentLoaded ⟨asked, none⟩)).addSet place ⟨asked, none⟩ := by
      unfold createSet
      rw [hconfig]
      rfl
    have hgiven : ∀ c : Config, none = some c → c.Accepted := nofun
    obtain ⟨-, hforced⟩ := Config.resolve_wants hgiven hresolve
    rw [hargument, hfromFields, hcreated]
    refine ⟨.refl _, alike_addSet_write _, fun after id hadded => ?_,
      fun after failure hfailed => kind_of_addSet hforced hfailed,
      fun hnumbered => addSet_fails_iff hnumbered hforced⟩
    obtain ⟨m, hset, hbounds, hbuckets⟩ := exists_set_of_addSet hadded
    rw [hforced.buckets_eq] at hbuckets
    have hwanted : m.bounds = asked.getD Bounds.standard := by
      rw [hbounds]
      cases asked with
      | none => rfl
      | some bounds => exact Config.boundsInForce_of_acceptable rfl (hacceptable bounds rfl)
    refine ⟨m, hset, hwanted, ?_⟩
    rw [hbounds]
    exact (Except.ok.inj hbuckets).symm
  · rintro bounds rfl hnot
    have hsome : Config.issues ⟨some bounds, none⟩ ≠ [] := fun hnil =>
      hnot (hissues.1 hnil bounds rfl)
    rw [if_neg hsome] at hresolve hfields hconfig
    unfold construct constructFromFields createSet
    rw [hresolve, hfields, hconfig]
    exact ⟨⟨_, rfl, rfl⟩, ⟨_, rfl, rfl⟩, ⟨_, rfl, rfl⟩⟩

/-- An infinite bound behind a finite one, from an argument and from a
variable; and a variable that lists nothing, which is refused just as a field
without a bound is. -/
theorem routes_agree_infinity :
    (∃ after id m,
      initial.construct .default (some (.list [.number 1, .number (.infinity false)])) none =
        (after, .ok id) ∧
      after.set? id = some m ∧ m.bounds = [1, .infinity false] ∧
      Alike (initial.createSet [(boundsVariable, .text " 1, ,inf")] .default none)
        (after, .ok id)) ∧
    (∃ rejection, initial.constructFromFields .default [("duration_buckets", .tuple [])] =
      (initial, .error (.fault (.rejected rejection)))) ∧
    ∃ e, initial.createSet [(boundsVariable, .text ",")] .default none =
      (initial, .error (.adapter e)) := by
  have hasks : Asks (some [1, .infinity false])
      (some (.list [.number 1, .number (.infinity false)]))
      [("duration_buckets", .list [.number 1, .number (.infinity false)])]
      [(boundsVariable, .text " 1, ,inf")] :=
    .bounds (.inl rfl) (.inl rfl) (by decide +kernel) (by decide +kernel)
  have hnothing : Asks (some []) (some (.list [])) [("duration_buckets", .tuple [])]
      [(boundsVariable, .text ",")] :=
    .bounds (.inl rfl) (.inr rfl) (by decide +kernel) (by decide +kernel)
  constructor
  · obtain ⟨after, hmade⟩ : ∃ after, initial.construct .default
        (some (.list [.number 1, .number (.infinity false)])) none = (after, .ok ⟨0⟩) :=
      exists_eq_ok (by decide +kernel)
    obtain ⟨-, halike, hset, -⟩ := (routes_agree initial .default (by simp [Textual])
      (by decide +kernel) hasks).1 (by rintro _ ⟨⟩; decide +kernel)
    obtain ⟨m, hfound, hbounds, -⟩ := hset after ⟨0⟩ hmade
    rw [hmade] at halike
    exact ⟨after, ⟨0⟩, m, hmade, hfound, hbounds, halike⟩
  · obtain ⟨-, ⟨rejection, hfields, -⟩, e, hcreated, -⟩ := (routes_agree initial .default
      (by simp [Textual]) (by decide +kernel) hnothing).2 [] rfl (by decide +kernel)
    exact ⟨⟨rejection, hfields⟩, e, hcreated⟩

end Host

end CommandMetrics
