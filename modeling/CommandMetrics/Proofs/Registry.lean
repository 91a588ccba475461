import CommandMetrics.Registry
import Mathlib.Data.List.Induction
/-!
# Registries — the series of a set enter together or not at all

The eleven series claim names of their own, none of them twice
(`not_mem_claims_of_ne`), so the series of a set that are already in stand
in the way of no other of them: a clash is always with what was there
before (`clashes_extend`). Taking out what was put in last restores the
registry (`unregister_put`), and so does taking out a whole batch from its
end (`withdraw_extend`). Together they say what an enrolment does, as a
function of the registry it finds (`enrolAll_eq`).
-/

namespace CommandMetrics.Registry

variable {r r' : Registry} {source : Source} {set : SetId} {name : String} {names : List String}

/-! ## Names that are taken -/

theorem isTaken_iff : r.isTaken name = true ↔ ∃ owner ∈ r.owners, owner.1 = name := by
  unfold isTaken
  rw [List.any_eq_true]
  simp only [beq_iff_eq]

/-- **What clashes is what is taken.** -/
theorem mem_clashes_iff : name ∈ r.clashes names ↔ name ∈ names ∧ r.isTaken name = true := by
  unfold clashes
  rw [List.mem_mergeSort, List.mem_filter]

theorem clashes_eq_nil_iff : r.clashes names = [] ↔ ∀ name ∈ names, r.isTaken name = false := by
  rw [List.eq_nil_iff_forall_not_mem]
  simp only [mem_clashes_iff, not_and, Bool.not_eq_true]

/-- Clashes depend on nothing but which of the names are taken. -/
theorem clashes_congr (h : ∀ name ∈ names, r.isTaken name = r'.isTaken name) :
    r.clashes names = r'.clashes names := by
  unfold clashes
  rw [List.filter_congr h]

/-! ## A single source -/

/-- A registry with one more source at the end, whose names are its own. -/
def put (r : Registry) (source : Source) (names : List String) : Registry :=
  ⟨r.entries ++ [(source, names)], r.owners ++ names.map fun name => (name, source)⟩

/-- **Registering puts a source at the end unless a name clashes.** -/
theorem register_eq (r : Registry) (source : Source) (names : List String) :
    r.register source names =
      if r.clashes names = [] then .ok (r.put source names) else .error (r.clashes names) := by
  unfold register
  split
  · rename_i h
    rw [if_pos h]
    rfl
  · rename_i h
    rw [if_neg h]

/-- **Taking out what was put in last restores the registry.** -/
theorem unregister_put (hfresh : source ∉ r.sources) (hfree : r.clashes names = []) :
    (r.put source names).unregister source = some r := by
  have hentry : ∀ entry ∈ r.entries, entry.1 ≠ source := fun entry hentry heq =>
    hfresh (heq ▸ List.mem_map_of_mem hentry)
  have howner : ∀ owner ∈ r.owners, owner.1 ∉ names := fun owner howner hmem => by
    have hfree := clashes_eq_nil_iff.1 hfree owner.1 hmem
    rw [isTaken_iff.2 ⟨owner, howner, rfl⟩] at hfree
    cases hfree
  have habsent : r.entries.lookup source = none :=
    List.lookup_eq_none_iff.2 fun entry h => bne_iff_ne.2 (hentry entry h).symm
  have hlookup : (r.put source names).entries.lookup source = some names := by
    unfold put
    rw [List.lookup_append, habsent, Option.none_or, List.lookup_cons_self]
  unfold unregister
  rw [hlookup, Option.map_some]
  congr 1
  unfold put
  rw [List.filter_append, List.filter_append]
  have hentries : r.entries.filter (fun entry => entry.1 != source) = r.entries :=
    List.filter_eq_self.2 fun entry h => by simpa using hentry entry h
  have howners : r.owners.filter (fun owner => !names.contains owner.1) = r.owners :=
    List.filter_eq_self.2 fun owner h => by simpa using howner owner h
  have hown : (names.map fun name => (name, source)).filter
      (fun owner => !names.contains owner.1) = [] := by
    refine List.filter_eq_nil_iff.2 fun owner h => ?_
    obtain ⟨name, hname, rfl⟩ := List.mem_map.1 h
    simpa using hname
  rw [hentries, howners, hown]
  simp

/-- Taking a source out brings none in. -/
theorem mem_sources_unregister {other : Source} (h : r.unregister source = some r')
    (hmem : other ∈ r'.sources) : other ∈ r.sources := by
  obtain ⟨names, -, rfl⟩ := Option.map_eq_some_iff.1 h
  obtain ⟨entry, hentry, rfl⟩ := List.mem_map.1 hmem
  exact List.mem_map_of_mem (List.mem_filter.1 hentry).1

/-- Nor does taking out a batch, however far it gets. -/
theorem mem_sources_expel {batch : List Series} (hmem : source ∈ (expel set batch r).1.sources) :
    source ∈ r.sources := by
  induction batch generalizing r with
  | nil => exact hmem
  | cons s batch ih =>
    unfold expel at hmem
    split at hmem
    · rename_i after hafter
      exact mem_sources_unregister hafter (ih hmem)
    · exact hmem

/-! ## The series of a set -/

/-- A registry in which no series of a set stands. -/
def Lacks (r : Registry) (set : SetId) : Prop := ∀ s, .series set s ∉ r.sources

/-- A registry with series of a set at the end, in the order in which they
were put there. -/
def extend (r : Registry) (set : SetId) (added : List Series) : Registry :=
  ⟨r.entries ++ added.map fun s => (.series set s, claims s),
    r.owners ++ added.flatMap fun s => (claims s).map fun name => (name, .series set s)⟩

variable {s s' : Series} {added : List Series}

@[simp] theorem extend_nil : r.extend set [] = r := by
  simp [extend]

theorem extend_concat : r.extend set (added ++ [s]) =
    (r.extend set added).put (.series set s) (claims s) := by
  simp [extend, put, List.append_assoc]

theorem sources_extend : (r.extend set added).sources = r.sources ++ added.map (.series set) := by
  simp [extend, sources, List.map_map, Function.comp_def]

theorem isTaken_extend : (r.extend set added).isTaken name = true ↔
    r.isTaken name = true ∨ ∃ s ∈ added, name ∈ claims s := by
  simp only [isTaken_iff, extend, List.mem_append, or_and_right, exists_or]
  refine or_congr_right ⟨?_, ?_⟩
  · rintro ⟨owner, howner, rfl⟩
    obtain ⟨s, hs, hmem⟩ := List.mem_flatMap.1 howner
    obtain ⟨name, hname, rfl⟩ := List.mem_map.1 hmem
    exact ⟨s, hs, hname⟩
  · rintro ⟨s, hs, hname⟩
    exact ⟨(name, .series set s), List.mem_flatMap.2 ⟨s, hs, List.mem_map_of_mem hname⟩, rfl⟩

/-- **No name is claimed by two series.** -/
theorem not_mem_claims_of_ne (hne : s ≠ s') (hname : name ∈ claims s) : name ∉ claims s' := by
  have hall : ∀ s ∈ Series.all, ∀ s' ∈ Series.all, s ≠ s' → ∀ name ∈ claims s,
      name ∉ claims s' := by decide +kernel
  exact hall s (Series.mem_all s) s' (Series.mem_all s') hne name hname

/-- **Series of a set that are in stand in the way of no other of them.** -/
theorem clashes_extend (hs : s ∉ added) :
    (r.extend set added).clashes (claims s) = r.clashes (claims s) := by
  refine clashes_congr fun name hname => ?_
  rw [Bool.eq_iff_iff, isTaken_extend]
  refine or_iff_left ?_
  rintro ⟨s', hs', hname'⟩
  have hne : s ≠ s' := fun heq => hs (heq ▸ hs')
  exact not_mem_claims_of_ne hne hname hname'

/-- What was put in last of a set is taken out again. -/
theorem unregister_extend (hlacks : r.Lacks set) (hs : s ∉ added)
    (hfree : r.clashes (claims s) = []) :
    (r.extend set (added ++ [s])).unregister (.series set s) = some (r.extend set added) := by
  rw [extend_concat]
  refine unregister_put ?_ (by rw [clashes_extend hs, hfree])
  rw [sources_extend, List.mem_append]
  rintro (h | h)
  · exact hlacks s h
  · obtain ⟨s', hs', heq⟩ := List.mem_map.1 h
    cases heq
    exact hs hs'

/-- **Taking a batch out from its end restores the registry.** -/
theorem withdraw_extend (hlacks : r.Lacks set) (hnodup : added.Nodup)
    (hfree : ∀ s ∈ added, r.clashes (claims s) = []) :
    withdraw set added.reverse (r.extend set added) = r := by
  induction added using List.reverseRecOn with
  | nil => exact extend_nil
  | append_singleton added s ih =>
    have hs : s ∉ added := fun h =>
      (List.nodup_append.1 hnodup).2.2 s h s List.mem_cons_self rfl
    rw [List.reverse_append, List.reverse_singleton, List.singleton_append, withdraw,
      List.foldl_cons, unregister_extend hlacks hs (hfree s (by simp)), Option.getD_some]
    exact ih (List.nodup_append.1 hnodup).1 fun s' hs' =>
      hfree s' (List.mem_append_left _ hs')

/-- The first series of some whose names clash. -/
def firstClash? (r : Registry) (candidates : List Series) : Option Series :=
  candidates.find? fun s => !(r.clashes (claims s)).isEmpty

/-- **A series is the first to clash** if its names do and those of the ones
defined before it do not. -/
def ClashesFirst (r : Registry) (s : Series) : Prop :=
  r.clashes (claims s) ≠ [] ∧
    ∃ before rest, Series.all = before ++ s :: rest ∧ ∀ t ∈ before, r.clashes (claims t) = []

theorem firstClash?_eq_some_iff : r.firstClash? Series.all = some s ↔ r.ClashesFirst s := by
  unfold firstClash? ClashesFirst
  rw [List.find?_eq_some_iff_append]
  simp

/-- No series clashes exactly if no name of any is taken. -/
theorem firstClash?_eq_none_iff : r.firstClash? Series.all = none ↔
    ∀ s, ∀ name ∈ claims s, r.isTaken name = false := by
  unfold firstClash?
  rw [List.find?_eq_none]
  simp only [Bool.not_eq_true', Bool.not_eq_false, List.isEmpty_iff, clashes_eq_nil_iff]
  exact ⟨fun h s => h s (Series.mem_all s), fun h s _ => h s⟩

/-- **What enrolling the rest of a batch does**, where `added` are already
in: they all go in behind, or what is in goes out again. By induction on
the rest; `added` is the part of the batch that is in, in its order. -/
theorem enrol_extend (hlacks : r.Lacks set) {rest : List Series} (hnodup : (added ++ rest).Nodup)
    (hfree : ∀ s ∈ added, r.clashes (claims s) = []) :
    enrol set added.reverse rest (r.extend set added) =
      match r.firstClash? rest with
      | none => (r.extend set (added ++ rest), none)
      | some s => (r, some ⟨s, r.clashes (claims s)⟩) := by
  induction rest generalizing added with
  | nil =>
    rw [List.append_nil]
    rfl
  | cons s rest ih =>
    have hs : s ∉ added := fun h =>
      (List.nodup_append.1 hnodup).2.2 s h s List.mem_cons_self rfl
    rw [enrol, register_eq, clashes_extend hs, ← extend_concat]
    by_cases hclash : r.clashes (claims s) = []
    -- the series goes in, behind those that are
    · have hnext : r.firstClash? (s :: rest) = r.firstClash? rest := by
        unfold firstClash?
        rw [List.find?_cons_of_neg (by simp [hclash])]
      have hbatch : added ++ s :: rest = (added ++ [s]) ++ rest := by simp
      have hstep : s :: added.reverse = (added ++ [s]).reverse := by simp
      rw [if_pos hclash, hnext, hbatch]
      simp only [hstep]
      refine ih (hbatch ▸ hnodup) fun s' hs' => ?_
      rcases List.mem_append.1 hs' with h | h
      · exact hfree s' h
      · rw [List.mem_singleton.1 h, hclash]
    -- it is the first to clash, and those that are in go out again
    · have hfound : r.firstClash? (s :: rest) = some s := by
        unfold firstClash?
        rw [List.find?_cons_of_pos (by simpa using hclash)]
      rw [if_neg hclash, hfound]
      simp only
      rw [withdraw_extend hlacks (List.nodup_append.1 hnodup).1 hfree]

/-- **Enrolling a set puts its eleven series at the end in the order of
their definition**, or leaves the registry as it was and tells the first of
them whose names clash. -/
theorem enrolAll_eq (hlacks : r.Lacks set) :
    r.enrolAll set =
      match r.firstClash? Series.all with
      | none => (r.extend set Series.all, none)
      | some s => (r, some ⟨s, r.clashes (claims s)⟩) := by
  have hnodup : ([] ++ Series.all).Nodup := by decide
  have henrol := enrol_extend hlacks hnodup (by simp)
  simpa [enrolAll] using henrol

end CommandMetrics.Registry
