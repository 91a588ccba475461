import CommandMetrics.Host
/-!
# Hosts — what is put away is found again

Whatever stands under a number is found under it after it was replaced,
and everything else is found as it was. Sets and registries are only ever
added behind those that are there.
-/

namespace CommandMetrics

theorem toOption_eq_some_iff {ε α : Type} {x : Except ε α} {a : α} :
    x.toOption = some a ↔ x = .ok a := by
  cases x <;> simp [Except.toOption]

/-- A change that leaves the item in its place as it is changes nothing. -/
theorem modify_of_getElem? {α : Type} {l : List α} {i : Nat} {f : α → α}
    (hsame : ∀ a, l[i]? = some a → f a = a) : l.modify i f = l := by
  refine List.ext_getElem? fun j => ?_
  rw [List.getElem?_modify]
  split
  · next heq =>
    subst heq
    cases hat : l[i]? with
    | none => rfl
    | some a => simp [hsame a hat]
  · simp

namespace Host

variable {h : Host} {id other : SetId} {m m' : MetricSet} {r : Registry} {record : LogRecord}
variable {place elsewhere : RegistryId}

/-! ## What stays as it is -/

@[simp] theorem sets_write : (h.write record).sets = h.sets := rfl

@[simp] theorem registries_write : (h.write record).registries = h.registries := rfl

@[simp] theorem set?_write : (h.write record).set? id = h.set? id := rfl

@[simp] theorem registry_write : (h.write record).registry place = h.registry place := rfl

@[simp] theorem sets_setRegistry : (h.setRegistry place r).sets = h.sets := rfl

@[simp] theorem set?_setRegistry : (h.setRegistry place r).set? id = h.set? id := rfl

@[simp] theorem registries_putSet : (h.putSet id m).registries = h.registries := rfl

@[simp] theorem registry_putSet : (h.putSet id m).registry place = h.registry place := rfl

@[simp] theorem length_sets_putSet : (h.putSet id m).sets.length = h.sets.length := by
  simp [putSet]

@[simp] theorem length_registries_setRegistry :
    (h.setRegistry place r).registries.length = h.registries.length := by
  simp [setRegistry]

/-! ## What is found -/

theorem set?_eq_some_iff : h.set? id = some m ↔ ∃ hid : id.index < h.sets.length,
    h.sets[id.index] = m := List.getElem?_eq_some_iff

/-- **A set that is replaced is found**, -/
theorem set?_putSet_self (hset : h.set? id = some m) (m' : MetricSet) :
    (h.putSet id m').set? id = some m' := by
  unfold set? putSet at *
  rw [List.getElem?_modify_eq, hset]
  rfl

/-- and no other set is. -/
theorem set?_putSet_of_ne (hne : other ≠ id) : (h.putSet id m).set? other = h.set? other := by
  have hindex : id.index ≠ other.index := fun heq => hne (by cases id; cases other; simp_all)
  exact List.getElem?_modify_ne _ _ hindex

/-- **A registry that is replaced is found**, -/
theorem registry_setRegistry_self (hplace : place.index < h.registries.length) :
    (h.setRegistry place r).registry place = r := by
  unfold registry setRegistry
  rw [List.getElem?_modify_eq, List.getElem?_eq_getElem hplace]
  rfl

/-- and no other registry is. -/
theorem registry_setRegistry_of_ne (hne : elsewhere ≠ place) :
    (h.setRegistry place r).registry elsewhere = h.registry elsewhere := by
  have hindex : place.index ≠ elsewhere.index := fun heq => hne (by
    cases place; cases elsewhere; simp_all)
  exact congrArg (fun found : Option Registry => found.getD .empty)
    (List.getElem?_modify_ne _ _ hindex)

/-- Where there is no registry none is replaced. -/
theorem setRegistry_of_le (hplace : h.registries.length ≤ place.index) :
    h.setRegistry place r = h := by
  unfold setRegistry
  rw [List.modify_eq_self hplace]

/-- What stands anywhere after a registry was replaced stood there before or
stands in the new one. -/
theorem mem_sources_setRegistry {source : Source}
    (hmem : source ∈ ((h.setRegistry place r).registry elsewhere).sources) :
    source ∈ (h.registry elsewhere).sources ∨ elsewhere = place ∧ source ∈ r.sources := by
  by_cases hne : elsewhere = place
  · subst hne
    rcases Nat.lt_or_ge elsewhere.index h.registries.length with hlt | hge
    · rw [registry_setRegistry_self hlt] at hmem
      exact .inr ⟨rfl, hmem⟩
    · rw [setRegistry_of_le hge] at hmem
      exact .inl hmem
  · rw [registry_setRegistry_of_ne hne] at hmem
    exact .inl hmem

/-- Putting a registry where it stands changes nothing. -/
theorem setRegistry_registry (h : Host) (place : RegistryId) :
    h.setRegistry place (h.registry place) = h := by
  unfold setRegistry registry
  congr 1
  exact modify_of_getElem? fun r hr => by simp [hr]

/-- Putting a set where it stands changes nothing. -/
theorem putSet_of_set? (hset : h.set? id = some m) : h.putSet id m = h := by
  unfold putSet
  unfold set? at hset
  congr 1
  exact modify_of_getElem? fun m' hm' => Option.some.inj (hset.symm.trans hm')

/-- A registry that is added is as empty as one that is not there. -/
@[simp] theorem registry_addRegistry : h.addRegistry.1.registry place = h.registry place := by
  unfold registry addRegistry
  rcases Nat.lt_trichotomy place.index h.registries.length with hlt | heq | hgt
  · rw [List.getElem?_append_left hlt]
  · rw [heq, List.getElem?_concat_length, List.getElem?_eq_none (Nat.le_refl _)]
    rfl
  · rw [List.getElem?_eq_none (by simp; omega), List.getElem?_eq_none (by omega)]

/-! ## Results -/

/-- What came out of an operation tells whether it succeeded. -/
theorem exists_eq_ok {α : Type} {o : Outcome α} {a : α} (ho : o.2.toOption = some a) :
    ∃ after, o = (after, .ok a) := by
  obtain ⟨after, result⟩ := o
  exact ⟨after, congrArg (Prod.mk after) (toOption_eq_some_iff.1 ho)⟩

end Host

end CommandMetrics
